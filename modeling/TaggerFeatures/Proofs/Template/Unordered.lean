import TaggerFeatures.Proofs.Template.Collision
import TaggerFeatures.Proofs.Template.Dependence

/-!
Templates that put the offsets they are made of in order. Which template it is goes by the offsets
alone, whatever their order was, and none of them is lost: the key is joined of what stands at just
these offsets, and each of them has an influence on it.
-/
namespace TaggerFeatures

/-! ## Sentences that differ at one place -/

/-- Words and tags are read as they are; of shapes less is kept than is read. -/
def Field.IsPlain : Field → Prop
  | word _ | tag _ => True
  | shape _ _ => False

/-- The field is the only word or tag for which something else is read. -/
structure Field.DifferAt (f : Field) (c d : Corpus) (h : Cursor) : Prop where
  differ : f.read c h ≠ f.read d h
  words : ∀ o, .word o ≠ f → c.wordAt h o = d.wordAt h o
  tags : ∀ o, .tag o ≠ f → c.tagAt h o = d.tagAt h o

namespace Corpus

/-- Words and tags can be read at all offsets, and no exclamation mark is in them. -/
def Legible (c : Corpus) (h : Cursor) : Prop :=
  ∀ f : Field, f.IsPlain → ∃ value, f.read c h = .ok value ∧ '!' ∉ value.toList

variable {words tags : List String}

theorem inside_tagged (hl : tags.length = words.length) {p : Nat} (hp : p < words.length) :
    (tagged words tags).Inside 0 p :=
  ⟨words, wordsOf_tagged hl, by omega, by omega⟩

theorem slot?_set_of_ne {xs : List String} {i : Nat} {j : Int} (h : j ≠ i) (x : String) :
    slot? (xs.set i x) j = slot? xs j := by
  unfold slot?
  split
  · exact List.getElem?_set_ne (by omega)
  · rfl

theorem legible_tagged (hl : tags.length = words.length) (hwords : ∀ w ∈ words, '!' ∉ w.toList)
    (htags : ∀ t ∈ tags, '!' ∉ t.toList) (p : Int) : (tagged words tags).Legible ⟨0, p⟩ := by
  intro f hf
  cases f with
  | word o => exact ⟨_, wordAt_tagged hl p o, slot?_getD_boundary hwords (by decide) _⟩
  | tag o => exact ⟨_, tagAt_tagged hl p o, slot?_getD_boundary htags (by decide) _⟩
  | shape => exact hf.elim

/-! ## One word and one tag among others -/

open Template (leftOf rightOf)

/-- A list that reaches just to an offset, from as many places before the cursor as it needs. -/
def reaching (o : Int) (filler x : String) : List String :=
  (List.replicate (o.natAbs + 1) filler).set (rightOf o) x

/-- A sentence that reaches just to an offset, with a word and a tag there. -/
def spotted (o : Int) (word tag : String) : Corpus :=
  tagged (reaching o "w" word) (reaching o "t" tag)

theorem length_reaching (o : Int) (filler x : String) :
    (reaching o filler x).length = o.natAbs + 1 := by
  rw [reaching, List.length_set, List.length_replicate]

theorem leftOf_add (o : Int) : (leftOf o : Int) + o = rightOf o := by
  unfold leftOf rightOf
  omega

theorem slot?_reaching (o : Int) (filler x : String) :
    slot? (reaching o filler x) (leftOf o + o) = some x := by
  have hi : rightOf o < (List.replicate (o.natAbs + 1) filler).length := by
    rw [List.length_replicate, rightOf]
    omega
  rw [leftOf_add, slot?_natCast, reaching, List.getElem?_set_self hi]

theorem slot?_reaching_of_ne {o o' : Int} (h : o' ≠ o) (filler x y : String) :
    slot? (reaching o filler x) (leftOf o + o') = slot? (reaching o filler y) (leftOf o + o') := by
  have hi : (leftOf o : Int) + o' ≠ rightOf o := by
    rw [← leftOf_add]
    omega
  rw [reaching, reaching, slot?_set_of_ne hi, slot?_set_of_ne hi]

theorem not_mem_reaching {o : Int} {filler x : String} (hfiller : '!' ∉ filler.toList)
    (hx : '!' ∉ x.toList) : ∀ y ∈ reaching o filler x, '!' ∉ y.toList := by
  intro y hy
  rcases List.mem_or_eq_of_mem_set hy with hy | rfl
  · rwa [List.eq_of_mem_replicate hy]
  · exact hx

variable {o o' : Int} {word word' tag tag' : String}

theorem length_spotted : (reaching o "t" tag).length = (reaching o "w" word).length := by
  rw [length_reaching, length_reaching]

theorem wordAt_spotted : (spotted o word tag).wordAt ⟨0, leftOf o⟩ o = .ok word := by
  rw [spotted, wordAt_tagged length_spotted, slot?_reaching, Option.getD_some]

theorem tagAt_spotted : (spotted o word tag).tagAt ⟨0, leftOf o⟩ o = .ok tag := by
  rw [spotted, tagAt_tagged length_spotted, slot?_reaching, Option.getD_some]

theorem wordAt_spotted_of_ne (h : o' ≠ o) :
    (spotted o word tag).wordAt ⟨0, leftOf o⟩ o' =
      (spotted o word' tag').wordAt ⟨0, leftOf o⟩ o' := by
  rw [spotted, spotted, wordAt_tagged length_spotted, wordAt_tagged length_spotted,
    slot?_reaching_of_ne h "w" word word']

theorem tagAt_spotted_of_ne (h : o' ≠ o) :
    (spotted o word tag).tagAt ⟨0, leftOf o⟩ o' =
      (spotted o word' tag').tagAt ⟨0, leftOf o⟩ o' := by
  rw [spotted, spotted, tagAt_tagged length_spotted, tagAt_tagged length_spotted,
    slot?_reaching_of_ne h "t" tag tag']

theorem inside_spotted : (spotted o word tag).Inside 0 (leftOf o) := by
  refine inside_tagged length_spotted ?_
  rw [length_reaching, leftOf]
  omega

theorem legible_spotted (hword : '!' ∉ word.toList) (htag : '!' ∉ tag.toList) :
    (spotted o word tag).Legible ⟨0, leftOf o⟩ :=
  legible_tagged length_spotted (not_mem_reaching (by decide) hword)
    (not_mem_reaching (by decide) htag) _

/-- Two sentences with the cursor in them that differ in one word or tag only. -/
structure Contrast (f : Field) (c d : Corpus) (h : Cursor) : Prop where
  reachable : c.Reachable ∧ d.Reachable
  inside : c.Inside h.sentence h.position ∧ d.Inside h.sentence h.position
  legible : c.Legible h ∧ d.Legible h
  differ : f.DifferAt c d h

theorem exists_contrast {f : Field} (hf : f.IsPlain) : ∃ c d h, Contrast f c d h := by
  cases f with
  | word o =>
      refine ⟨spotted o "w" "t", spotted o "v" "t", ⟨0, leftOf o⟩,
        ⟨reachable_tagged _ _, reachable_tagged _ _⟩, ⟨inside_spotted, inside_spotted⟩,
        ⟨legible_spotted (by decide) (by decide), legible_spotted (by decide) (by decide)⟩,
        ?differ, ?words, ?tags⟩
      case differ =>
        rw [Field.read, Field.read, wordAt_spotted, wordAt_spotted]
        decide
      case words => exact fun o' ho => wordAt_spotted_of_ne (mt (congrArg Field.word) ho)
      case tags =>
        intro o' _
        by_cases ho : o' = o
        · rw [ho, tagAt_spotted, tagAt_spotted]
        · exact tagAt_spotted_of_ne ho
  | tag o =>
      refine ⟨spotted o "w" "t", spotted o "w" "s", ⟨0, leftOf o⟩,
        ⟨reachable_tagged _ _, reachable_tagged _ _⟩, ⟨inside_spotted, inside_spotted⟩,
        ⟨legible_spotted (by decide) (by decide), legible_spotted (by decide) (by decide)⟩,
        ?differ, ?words, ?tags⟩
      case differ =>
        rw [Field.read, Field.read, tagAt_spotted, tagAt_spotted]
        decide
      case words =>
        intro o' _
        by_cases ho : o' = o
        · rw [ho, wordAt_spotted, wordAt_spotted]
        · exact wordAt_spotted_of_ne ho
      case tags => exact fun o' ho => tagAt_spotted_of_ne (mt (congrArg Field.tag) ho)
  | shape => exact hf.elim

end Corpus

namespace Template
open Corpus

/-! ## Reading just some fields -/

/-- The key is joined of these fields, each as often as it is among them, or it is the error of the
first that cannot be read. Each has an influence on it: sentences that differ in nothing else have
different keys. -/
structure ReadsJust (t : Template) (fields : List Field) : Prop where
  joined : ∃ order : List Field, order.Perm fields ∧
    ∀ c h, t.key c h = (order.mapM (Field.read c h)).map (Text.joinWith separator)
  needed : ∀ f ∈ fields, ∃ c d h, Contrast f c d h ∧
    ∃ k k', t.key c h = .ok k ∧ t.key d h = .ok k' ∧ k ≠ k'

variable {t : Template} {fields : List Field} {c d : Corpus} {h : Cursor}

theorem exists_key_of_legible (ht : t.fields? = some fields) (hplain : ∀ f ∈ fields, f.IsPlain)
    (hc : c.Legible h) : ∃ k, t.key c h = .ok k := by
  rw [key_eq_join ht, exists_map_ok_iff, exists_mapM_ok_iff]
  intro f hf
  obtain ⟨value, hvalue, _⟩ := hc f (hplain f hf)
  exact ⟨value, hvalue⟩

theorem unmarked_of_legible (hmark : t.mark = '!') (hplain : ∀ f ∈ fields, f.IsPlain)
    (hc : c.Legible h) : t.Unmarked fields c h := by
  intro f hf _ value hvalue
  obtain ⟨value', hvalue', hno⟩ := hc f (hplain f hf)
  obtain rfl : value = value' := Except.ok.inj (hvalue.symm.trans hvalue')
  rwa [hmark]

theorem readsJust_of_fields (ht : t.fields? = some fields) (hmark : t.mark = '!')
    (hplain : ∀ f ∈ fields, f.IsPlain) : t.ReadsJust fields where
  joined := by
    refine ⟨fields, .refl _, fun c h => ?_⟩
    rw [key_eq_join ht, hmark]
    rfl
  needed := by
    intro f hf
    obtain ⟨c, d, h, hcontrast⟩ := exists_contrast (hplain f hf)
    obtain ⟨k, hk⟩ := exists_key_of_legible ht hplain hcontrast.legible.1
    obtain ⟨k', hk'⟩ := exists_key_of_legible ht hplain hcontrast.legible.2
    refine ⟨c, d, h, hcontrast, k, k', hk, hk', fun hkk => ?_⟩
    have hagree := (key_eq_iff_fields_agree ht hk hk'
      (unmarked_of_legible hmark hplain hcontrast.legible.1)
      (unmarked_of_legible hmark hplain hcontrast.legible.2)).mp hkk
    obtain ⟨value, hvalue, hvalue'⟩ := hagree f hf
    exact hcontrast.differ.differ (hvalue.trans hvalue'.symm)

theorem ReadsJust.perm {fields' : List Field} (ht : t.ReadsJust fields)
    (hp : fields.Perm fields') : t.ReadsJust fields' where
  joined := by
    obtain ⟨order, horder, hkey⟩ := ht.joined
    exact ⟨order, horder.trans hp, hkey⟩
  needed := fun f hf => ht.needed f (hp.mem_iff.mpr hf)

/-! ## Offsets in any order -/

/-- The kinds of templates that put offsets in order, with the offset that stays apart from them. -/
inductive Unordered
  | twoWords
  | twoTags
  | twoWordsTag (tag : Int)
  | threeTags
  | wordTwoTags (word : Int)
deriving DecidableEq, Repr

namespace Unordered

/-- How many offsets a template of a kind puts in order. -/
def arity : Unordered → Nat
  | threeTags => 3
  | _ => 2

/-- The template of a kind that is made of these offsets. -/
inductive Makes : Unordered → List Int → Template → Prop
  | twoWords (a b : Int) : Makes twoWords [a, b] (.twoWords (.of a b))
  | twoTags (a b : Int) : Makes twoTags [a, b] (.twoTags (.of a b))
  | twoWordsTag (a b j : Int) : Makes (twoWordsTag j) [a, b] (.twoWordsTag (.of a b) j)
  | threeTags (a b c : Int) : Makes threeTags [a, b, c] (.threeTags (.of a b c))
  | wordTwoTags (i a b : Int) : Makes (wordTwoTags i) [a, b] (.wordTwoTags i (.of a b))

/-- What a template of a kind reads that is made of these offsets. -/
def reads : Unordered → List Int → List Field
  | twoWords, offsets => offsets.map .word
  | twoTags, offsets => offsets.map .tag
  | twoWordsTag j, offsets => .tag j :: offsets.map .word
  | threeTags, offsets => offsets.map .tag
  | wordTwoTags i, offsets => .word i :: offsets.map .tag

end Unordered

/-- The offsets of a template as it keeps them. -/
def ordered : Template → List Int
  | twoWords pair | twoTags pair | twoWordsTag pair _ | wordTwoTags _ pair => [pair.low, pair.high]
  | threeTags triple => [triple.low, triple.middle, triple.high]
  | _ => []

namespace Unordered

variable {k : Unordered} {offsets offsets' : List Int} {t t' : Template}

theorem Makes.eq_iff_perm (h : k.Makes offsets t) (h' : k.Makes offsets' t') :
    t = t' ↔ offsets.Perm offsets' := by
  cases h with
  | twoWords a b => cases h'; rw [Template.twoWords.injEq, OffsetPair.of_eq_of_iff]
  | twoTags a b => cases h'; rw [Template.twoTags.injEq, OffsetPair.of_eq_of_iff]
  | twoWordsTag a b j =>
      cases h'
      rw [Template.twoWordsTag.injEq, OffsetPair.of_eq_of_iff, and_iff_left rfl]
  | threeTags a b c => cases h'; rw [Template.threeTags.injEq, OffsetTriple.of_eq_of_iff]
  | wordTwoTags i a b =>
      cases h'
      rw [Template.wordTwoTags.injEq, OffsetPair.of_eq_of_iff, and_iff_right rfl]

theorem Makes.ordered_perm (h : k.Makes offsets t) : t.ordered.Perm offsets := by
  cases h with
  | threeTags a b c => exact OffsetTriple.perm_of a b c
  | _ => exact OffsetPair.perm_of _ _

theorem Makes.ascending (h : k.Makes offsets t) : t.ordered.Pairwise (· ≤ ·) := by
  cases h with
  | threeTags a b c => exact OffsetTriple.ascending _
  | _ => exact OffsetPair.ascending _

theorem Makes.length_eq (h : k.Makes offsets t) : offsets.length = k.arity := by
  cases h <;> rfl

/-- All integers make a template, if they are as many as the kind has offsets. -/
theorem exists_makes (h : offsets.length = k.arity) : ∃ t, k.Makes offsets t := by
  cases k with
  | twoWords =>
      obtain ⟨a, b, rfl⟩ := List.length_eq_two.mp h
      exact ⟨_, .twoWords a b⟩
  | twoTags =>
      obtain ⟨a, b, rfl⟩ := List.length_eq_two.mp h
      exact ⟨_, .twoTags a b⟩
  | twoWordsTag j =>
      obtain ⟨a, b, rfl⟩ := List.length_eq_two.mp h
      exact ⟨_, .twoWordsTag a b j⟩
  | threeTags =>
      obtain ⟨a, b, c, rfl⟩ := List.length_eq_three.mp h
      exact ⟨_, .threeTags a b c⟩
  | wordTwoTags i =>
      obtain ⟨a, b, rfl⟩ := List.length_eq_two.mp h
      exact ⟨_, .wordTwoTags i a b⟩

/-- What is kept makes the same template again. -/
theorem Makes.remake (h : k.Makes offsets t) : k.Makes t.ordered t := by
  obtain ⟨t', h'⟩ := exists_makes (h.ordered_perm.length_eq.trans h.length_eq)
  have ht : t = t' := (h.eq_iff_perm h').mpr h.ordered_perm.symm
  rwa [← ht] at h'

theorem isPlain_of_mem_reads {f : Field} (hf : f ∈ k.reads offsets) : f.IsPlain := by
  cases k <;> simp only [reads, List.mem_cons, List.mem_map] at hf <;> grind [Field.IsPlain]

/-- What the key is joined of, in its own order, is what the kind reads. -/
theorem Makes.exists_fields (h : k.Makes offsets t) :
    ∃ order, t.fields? = some order ∧ order.Perm (k.reads t.ordered) ∧ t.mark = '!' := by
  cases h with
  | twoTags a b => exact ⟨_, rfl, .refl _, rfl⟩
  | threeTags a b c => exact ⟨_, rfl, .refl _, rfl⟩
  | twoWords a b => exact ⟨_, rfl, .swap _ _ _, rfl⟩
  | twoWordsTag a b j => exact ⟨_, rfl, .swap _ _ _, rfl⟩
  | wordTwoTags i a b => exact ⟨_, rfl, .swap _ _ _, rfl⟩

theorem Makes.readsJust (h : k.Makes offsets t) : t.ReadsJust (k.reads t.ordered) := by
  obtain ⟨order, hfields, hperm, hmark⟩ := h.exists_fields
  refine (readsJust_of_fields hfields hmark fun f hf => ?_).perm hperm
  exact isPlain_of_mem_reads (hperm.mem_iff.mp hf)

end Unordered
end Template
end TaggerFeatures
