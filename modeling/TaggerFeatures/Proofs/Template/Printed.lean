import TaggerFeatures.Proofs.Numeral
import TaggerFeatures.Proofs.Template.Key
import TaggerFeatures.Proofs.Text.Cut

/-!
Printed templates are read back. The label tells the rule and the parts between the parentheses tell
its offsets and its shaper, so that only the dictionary of a participle template is lost.
-/
namespace TaggerFeatures.Template

/-- The same rule with the same offsets and the same shaper. Only the dictionaries of templates that
find participles may differ. -/
def SameRule (t u : Template) : Prop :=
  t = u ∨ ∃ bound d d', t = participle bound d ∧ u = participle bound d'

def withoutDictionary : Template → Template
  | participle bound _ => participle bound .empty
  | t => t

theorem withoutDictionary_eq_iff {t u : Template} :
    t.withoutDictionary = u.withoutDictionary ↔ t.SameRule u := by
  constructor
  · intro h
    unfold withoutDictionary at h
    split at h
    · split at h
      · cases h
        exact Or.inr ⟨_, _, _, rfl, rfl⟩
      · rename_i hu
        exact absurd h.symm (hu _ _)
    · split at h
      · rename_i ht _ _ _
        exact absurd h (ht _ _)
      · exact Or.inl h
  · rintro (rfl | ⟨bound, d, d', rfl, rfl⟩) <;> rfl

/-! ## Label and parts -/

/-- What a printed template has before its parentheses. -/
def label : Template → String
  | word _ => "Word"
  | lowercaseWord _ => "LowerCaseWord"
  | tag _ => "Tag"
  | capitalizedWord => "CapitalizedWord"
  | wordTag _ _ => "WordTag"
  | twoWords _ => "TwoWords"
  | twoTags _ => "TwoTags"
  | twoWordsTag _ _ => "TwoWordsTag"
  | threeTags _ => "ThreeTags"
  | wordTwoTags _ _ => "WordTwoTags"
  | tagWindow _ => "TagWindow"
  | wordShape _ _ => "WordShape"
  | shapeConjunction _ _ _ => "WordShapeConjunction"
  | participle _ _ => "VerbalVBN"

/-- What a printed template has between its parentheses, one part for each field. -/
def parts : Template → List String
  | word offset => [wordMark offset]
  | lowercaseWord offset => [wordMark offset]
  | tag offset => [tagMark offset]
  | capitalizedWord => ["w0"]
  | wordTag i j => [wordMark i, tagMark j]
  | twoWords words => [wordMark words.high, wordMark words.low]
  | twoTags tags => [tagMark tags.low, tagMark tags.high]
  | twoWordsTag words j => [wordMark words.low, tagMark j, wordMark words.high]
  | threeTags tags => [tagMark tags.low, tagMark tags.middle, tagMark tags.high]
  | wordTwoTags i tags => [tagMark tags.low, wordMark i, tagMark tags.high]
  | tagWindow farthest => [tagMark farthest ++ "..t0"]
  | wordShape offset shaper => [wordMark offset, shaper.name]
  | shapeConjunction first last shaper => [toString first, toString last, shaper.name]
  | participle bound _ => [toString bound]

section
variable {head a b c : String} (name : String)

theorem toList_call (h : head = name ++ "(") : (head ++ a ++ ")").toList =
    name.toList ++ '(' :: (Text.join [','] [a.toList] ++ [')']) := by
  simp [h]

theorem toList_call₂ (h : head = name ++ "(") : (head ++ a ++ "," ++ b ++ ")").toList =
    name.toList ++ '(' :: (Text.join [','] [a.toList, b.toList] ++ [')']) := by
  simp [h, Text.join_cons_cons]

theorem toList_call₃ (h : head = name ++ "(") : (head ++ a ++ "," ++ b ++ "," ++ c ++ ")").toList =
    name.toList ++ '(' :: (Text.join [','] [a.toList, b.toList, c.toList] ++ [')']) := by
  simp [h, Text.join_cons_cons]

end

theorem toList_print (t : Template) : t.print.toList =
    t.label.toList ++ '(' :: (Text.join [','] (t.parts.map String.toList) ++ [')']) := by
  cases t with
  | word _ => exact toList_call "Word" rfl
  | lowercaseWord _ => exact toList_call "LowerCaseWord" rfl
  | tag _ => exact toList_call "Tag" rfl
  | capitalizedWord => decide
  | wordTag _ _ => exact toList_call₂ "WordTag" rfl
  | twoWords _ => exact toList_call₂ "TwoWords" rfl
  | twoTags _ => exact toList_call₂ "TwoTags" rfl
  | twoWordsTag _ _ => exact toList_call₃ "TwoWordsTag" rfl
  | threeTags _ => exact toList_call₃ "ThreeTags" rfl
  | wordTwoTags _ _ => exact toList_call₃ "WordTwoTags" rfl
  | tagWindow farthest =>
      -- Its last part is printed together with the closing parenthesis.
      have hprint : (tagWindow farthest).print =
          "TagWindow(" ++ (tagMark farthest ++ "..t0") ++ ")" := by
        change "TagWindow(" ++ tagMark farthest ++ ("..t0" ++ ")") = _
        simp only [String.append_assoc]
      rw [hprint]
      exact toList_call "TagWindow" rfl
  | wordShape _ _ => exact toList_call₂ "WordShape" rfl
  | shapeConjunction _ _ _ => exact toList_call₃ "WordShapeConjunction" rfl
  | participle _ _ => exact toList_call "VerbalVBN" rfl

/-! ## Characters -/

theorem not_mem_label (t : Template) : '(' ∉ t.label.toList := by
  cases t <;> simp only [label] <;> decide

theorem comma_not_mem_repr (n : Int) : ',' ∉ n.repr.toList := by
  rw [← Int.toString_eq_repr]
  exact Numeral.not_mem_toString (by decide) (by decide)

theorem comma_not_mem_name {shaper : Shaper} (hs : shaper ∈ Shaper.all) :
    ',' ∉ shaper.name.toList := by
  simp only [Shaper.all, List.mem_cons, List.not_mem_nil, or_false] at hs
  rcases hs with rfl | rfl | rfl <;> decide

theorem comma_not_mem_parts {t : Template} (ht : t.Registered) :
    ∀ p ∈ t.parts.map String.toList, ',' ∉ p := by
  cases t with
  | wordShape _ _ | shapeConjunction _ _ _ =>
      simp [parts, wordMark, comma_not_mem_repr, comma_not_mem_name ht]
  | _ => simp [parts, wordMark, tagMark, comma_not_mem_repr]

/-! ## Reading -/

def integerIn (s : List Char) : Int := (Numeral.ofChars? s).elim 0 Numeral.toInt

/-- The offset in the mark of a word or a tag. -/
def offsetIn (mark : String) : Int := integerIn (mark.toList.drop 1)

/-- The offset in front of the points of a tag window. -/
def farthestIn (mark : String) : Int := integerIn ((mark.toList.drop 1).takeWhile (· != '.'))

def shaperIn (name : String) : Shaper := (Shaper.all.find? (·.name == name)).getD .none

/-- The template with this label and these parts; what is none of the others is taken for the one
without offsets. A dictionary is not told by them and left empty. -/
def ofLabel (label : String) (parts : List String) : Template :=
  match label, parts with
  | "Word", [i] => word (offsetIn i)
  | "LowerCaseWord", [i] => lowercaseWord (offsetIn i)
  | "Tag", [i] => tag (offsetIn i)
  | "WordTag", [i, j] => wordTag (offsetIn i) (offsetIn j)
  | "TwoWords", [j, i] => twoWords (.of (offsetIn i) (offsetIn j))
  | "TwoTags", [i, j] => twoTags (.of (offsetIn i) (offsetIn j))
  | "TwoWordsTag", [i, k, j] => twoWordsTag (.of (offsetIn i) (offsetIn j)) (offsetIn k)
  | "ThreeTags", [i, j, k] => threeTags (.of (offsetIn i) (offsetIn j) (offsetIn k))
  | "WordTwoTags", [i, k, j] => wordTwoTags (offsetIn k) (.of (offsetIn i) (offsetIn j))
  | "TagWindow", [i] => tagWindow (farthestIn i)
  | "WordShape", [i, shaper] => wordShape (offsetIn i) (shaperIn shaper)
  | "WordShapeConjunction", [i, j, shaper] =>
    shapeConjunction (integerIn i.toList) (integerIn j.toList) (shaperIn shaper)
  | "VerbalVBN", [bound] => participle (integerIn bound.toList) .empty
  | _, _ => capitalizedWord

theorem integerIn_toString (n : Int) : integerIn (toString n).toList = n := by
  rw [integerIn, Numeral.ofChars?_toString]
  exact Numeral.toInt_toDigits n

theorem offsetIn_wordMark (offset : Int) : offsetIn (wordMark offset) = offset := by
  rw [offsetIn, wordMark, String.toList_append]
  exact integerIn_toString offset

theorem offsetIn_tagMark (offset : Int) : offsetIn (tagMark offset) = offset := by
  rw [offsetIn, tagMark, String.toList_append]
  exact integerIn_toString offset

theorem farthestIn_tagMark (farthest : Int) :
    farthestIn (tagMark farthest ++ "..t0") = farthest := by
  have hpoint : '.' ∉ (toString farthest).toList :=
    Numeral.not_mem_toString (by decide) (by decide)
  have hdrop : (tagMark farthest ++ "..t0").toList.drop 1 =
      (toString farthest).toList ++ '.' :: ".t0".toList := by
    simp [tagMark]
  rw [farthestIn, hdrop, Text.takeWhile_ne_append_cons hpoint, integerIn_toString]

theorem shaperIn_name {shaper : Shaper} (hs : shaper ∈ Shaper.all) :
    shaperIn shaper.name = shaper := by
  simp only [Shaper.all, List.mem_cons, List.not_mem_nil, or_false] at hs
  rcases hs with rfl | rfl | rfl <;> rfl

theorem ofLabel_label_parts {t : Template} (ht : t.Registered) :
    ofLabel t.label t.parts = t.withoutDictionary := by
  cases t with
  | capitalizedWord => rfl
  | wordShape _ _ | shapeConjunction _ _ _ =>
      simp only [label, parts, ofLabel, offsetIn_wordMark, shaperIn_name ht, integerIn_toString,
        withoutDictionary]
  | _ =>
      simp only [label, parts, ofLabel, offsetIn_wordMark, offsetIn_tagMark, farthestIn_tagMark,
        integerIn_toString, OffsetPair.of_low_high, OffsetTriple.of_low_middle_high,
        withoutDictionary]

theorem parts_ne_nil (t : Template) : t.parts ≠ [] := by
  cases t <;> exact List.cons_ne_nil _ _

/-- The printed form tells everything of a template but its dictionary. -/
theorem print_eq_iff {t u : Template} (ht : t.Registered) (hu : u.Registered) :
    t.print = u.print ↔ t.SameRule u := by
  constructor
  · intro h
    have htext := congrArg String.toList h
    rw [toList_print, toList_print] at htext
    -- No label has a parenthesis and no part a comma, so the text can be cut at these.
    obtain ⟨hlabel, harguments⟩ := Text.append_cons_inj t.not_mem_label u.not_mem_label htext
    have hparts : t.parts.map String.toList = u.parts.map String.toList := by
      rw [← Text.splitWhen_join (by simpa using t.parts_ne_nil) (comma_not_mem_parts ht),
        ← Text.splitWhen_join (by simpa using u.parts_ne_nil) (comma_not_mem_parts hu),
        List.append_cancel_right harguments]
    rw [← withoutDictionary_eq_iff, ← ofLabel_label_parts ht, ← ofLabel_label_parts hu,
      String.toList_inj.mp hlabel, (List.map_inj_right fun _ _ => String.toList_inj.mp).mp hparts]
  · rintro (rfl | ⟨bound, d, d', rfl, rfl⟩) <;> rfl

/-! ## Integers -/

/-- The integer is written out in the printed form. -/
def Mentions (n : Int) : Template → Prop
  | word offset | lowercaseWord offset | tag offset | tagWindow offset => n = offset
  | wordShape offset _ => n = offset
  | capitalizedWord => False
  | wordTag i j => n = i ∨ n = j
  | twoWords offsets | twoTags offsets => n = offsets.low ∨ n = offsets.high
  | twoWordsTag offsets i => n = offsets.low ∨ n = offsets.high ∨ n = i
  | wordTwoTags i offsets => n = offsets.low ∨ n = offsets.high ∨ n = i
  | threeTags offsets => n = offsets.low ∨ n = offsets.middle ∨ n = offsets.high
  | shapeConjunction first last _ => n = first ∨ n = last
  | participle bound _ => n = bound

/-- No integer in the printed form has too many digits. -/
def Printable (t : Template) : Prop := ∀ n, t.Mentions n → ¬ Numeral.Wide n

theorem mem_integers_iff {t : Template} {n : Int} : n ∈ t.integers ↔ t.Mentions n := by
  cases t with
  | twoWordsTag _ _ | wordTwoTags _ _ =>
      simp only [integers, Mentions, List.mem_cons, List.not_mem_nil, or_false]
      tauto
  | twoWords _ => simp [integers, Mentions, or_comm]
  | _ => simp [integers, Mentions]

theorem print?_eq_some_iff {t : Template} {text : String} :
    t.print? = some text ↔ t.Printable ∧ t.print = text := by
  simp only [print?, Option.ite_none_right_eq_some, Option.some.injEq, mem_integers_iff, Printable,
    Numeral.not_wide_iff]

theorem Printable.print? {t : Template} (h : t.Printable) : t.print? = some t.print :=
  print?_eq_some_iff.mpr ⟨h, rfl⟩

theorem exists_print?_iff {t : Template} : (∃ text, t.print? = some text) ↔ t.Printable := by
  simp [print?_eq_some_iff]

theorem SameRule.mentions {t u : Template} (h : t.SameRule u) {n : Int} (hn : u.Mentions n) :
    t.Mentions n := by
  rcases h with rfl | ⟨bound, d, d', rfl, rfl⟩ <;> exact hn

/-- Where one template can be printed, just those of the same rule are printed alike. -/
theorem print?_eq_iff {t u : Template} (ht : t.Registered) (hu : u.Registered) {text : String}
    (h : t.print? = some text) : u.print? = some text ↔ t.SameRule u := by
  obtain ⟨hprintable, rfl⟩ := print?_eq_some_iff.mp h
  rw [print?_eq_some_iff, eq_comm (a := u.print), print_eq_iff ht hu, and_iff_right_iff_imp]
  exact fun hsame n hn => hprintable n (hsame.mentions hn)

end TaggerFeatures.Template
