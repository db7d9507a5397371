import TaggerFeatures.Proofs.Architecture.Ladder
import TaggerFeatures.Proofs.Architecture.Limit
import TaggerFeatures.Proofs.Template.Unordered

/-!
Keywords whose arguments can be given in any order. What such a keyword is compiled to goes by its
offsets alone, however they are written, and so does all that the template does.
-/
namespace TaggerFeatures.Architecture.Keyword
open Template

/-! ## Keywords as they are written -/

/-- The architecture is one token, a keyword with these integers, however they are written. -/
def Spelled (arch : String) (k : Keyword) (ns : List Int) : Prop :=
  ∃ t : Token, tokenize (expand arch) = .ok [t] ∧ t.meaning = .keyword k ∧ t.integers = .ok ns

variable {K : Keyword} {ns : List Int} {arch : String}

theorem Spelled.compile_eq {source : RawDictionary} {templates : List Template}
    (h : Spelled arch K ns) (ht : ∀ text, K.templates text ns source = .ok templates) :
    compile arch source = ⟨[], .ok templates⟩ := by
  obtain ⟨t, htokens, hmeaning, hintegers⟩ := h
  rw [compile_of_keyword htokens hmeaning]
  simp only [Token.templates, hmeaning, hintegers, ht]

theorem spelled_call (K : Keyword) (h : ∀ n ∈ ns, Numeral.Readable n) :
    Spelled (K.call ns) K ns := by
  obtain ⟨hopen, hclose⟩ := no_parenthesis_numbers ns
  rw [call_eq]
  exact ⟨_, K.tokenize_token hopen hclose, K.meaning_token hopen hclose, K.integers_numbers h⟩

theorem readArgument_of_not_readable (text : String) {n : Int} (h : ¬ Numeral.Readable n) :
    ∃ e, Token.readArgument text (toString n).toList = .error (.tooLong e) := by
  have htrim : Text.trim (toString n).toList = (toString n).toList :=
    Text.trim_of_not_blank fun ch => Numeral.isBlank_of_mem_toString
  have hnumeral : Numeral.ofChars? (Text.trim (toString n).toList) =
      some ⟨decide (n < 0), Nat.toDigits 10 n.natAbs⟩ := by
    rw [htrim, Numeral.ofChars?_toString]
  exact ⟨_, Token.readArgument_eq_tooLong_iff.mpr ⟨_, hnumeral, Nat.not_le.mp h, rfl⟩⟩

theorem integers_of_not_readable (K : Keyword) (h : ¬ ∀ n ∈ ns, Numeral.Readable n) :
    ∃ e, (K.token (String.ofList (numbers ns))).integers = .error (.tooLong e) := by
  rw [integers_eq_mapM]
  generalize (K.token (String.ofList (numbers ns))).text = text
  cases hm : ns.mapM fun n => Token.readArgument text (toString n).toList with
  | ok integers =>
      refine absurd (fun n hn => ?_) h
      by_contra hno
      obtain ⟨e, he⟩ := readArgument_of_not_readable text hno
      obtain ⟨i, hi⟩ := exists_mapM_ok_iff.mp ⟨integers, hm⟩ n hn
      rw [he] at hi
      cases hi
  | error e =>
      obtain ⟨n, _, hn⟩ := exists_of_mapM_error hm
      by_cases hreadable : Numeral.Readable n
      · rw [readArgument_toString text hreadable] at hn
        cases hn
      · obtain ⟨e', he'⟩ := readArgument_of_not_readable text hreadable
        exact ⟨e', congrArg _ (Except.error.inj (hn.symm.trans he'))⟩

/-- Integers with too many digits are not read. -/
theorem compile_call_of_not_readable (K : Keyword) (h : ¬ ∀ n ∈ ns, Numeral.Readable n) :
    ∃ e, ∀ source, compile (K.call ns) source = ⟨[], .error (.tooLong e)⟩ := by
  obtain ⟨hopen, hclose⟩ := no_parenthesis_numbers ns
  obtain ⟨e, he⟩ := K.integers_of_not_readable h
  refine ⟨e, fun source => ?_⟩
  rw [call_eq, K.compile_token source hopen hclose, compiled, he]
  rfl

/-! ## Arguments in any order -/

/-- The kind of template that a keyword makes of its arguments, and the offsets that it puts in
order. -/
def gathered? : Keyword → List Int → Option (Unordered × List Int)
  | biword, ns => some (.twoWords, [argument ns 0, argument ns 1])
  | twoTags, ns => some (.twoTags, [argument ns 0, argument ns 1])
  | wordTwoTags, ns => some (.wordTwoTags (argument ns 0), [argument ns 1, argument ns 2])
  | threeTags, ns => some (.threeTags, [argument ns 0, argument ns 1, argument ns 2])
  | _, _ => none

variable {k : Unordered} {offsets offsets' : List Int} {t t' : Template}

theorem templates_of_gathered (hg : K.gathered? ns = some (k, offsets)) (h : k.Makes offsets t)
    (text : String) (source : RawDictionary) : K.templates text ns source = .ok [t] := by
  cases K with
  | biword | twoTags | wordTwoTags | threeTags =>
      cases hg
      cases h
      rfl
  | _ => cases hg

/-- A template keeps its offsets in ascending order and loses none. What it keeps makes it again,
and its key is made of just what stands there. -/
structure Keeps (k : Unordered) (offsets : List Int) (t : Template) : Prop where
  again : k.Makes t.ordered t
  perm : t.ordered.Perm offsets
  ascending : t.ordered.Pairwise (· ≤ ·)
  reads : t.ReadsJust (k.reads t.ordered)

/-- The integers of a keyword, written plainly, are read unless one of them has too many digits. -/
theorem spelled_call_or_too_long (K : Keyword) (ns : List Int) :
    ((∀ n ∈ ns, Numeral.Readable n) ∧ Spelled (K.call ns) K ns) ∨
      (¬ ∀ n ∈ ns, Numeral.Readable n) ∧
        ∃ e, ∀ source, compile (K.call ns) source = ⟨[], .error (.tooLong e)⟩ := by
  by_cases h : ∀ n ∈ ns, Numeral.Readable n
  · exact Or.inl ⟨h, K.spelled_call h⟩
  · exact Or.inr ⟨h, K.compile_call_of_not_readable h⟩

/-- Templates of one kind are equal just if they are made of the same offsets, in any order. Then
they have the same key or error everywhere, and they declare the same. A keyword is compiled to such
a template, however its integers are written, unless one has too many digits. -/
theorem offsets_in_any_order {k : Unordered} {offsets offsets' : List Int} {t t' : Template}
    (h : k.Makes offsets t) (h' : k.Makes offsets' t') :
    (t = t' ↔ offsets.Perm offsets') ∧
    (Keeps k offsets t ∧ Keeps k offsets' t') ∧
    (offsets.Perm offsets' → Indistinguishable t t') ∧
    ∀ (K : Keyword) (ns ns' : List Int), K.gathered? ns = some (k, offsets) →
      K.gathered? ns' = some (k, offsets') →
      (∀ arch arch' source source', Spelled arch K ns → Spelled arch' K ns' →
        (compile arch source = ⟨[], .ok [t]⟩ ∧ compile arch' source' = ⟨[], .ok [t']⟩) ∧
        ((compile arch source).outcome = (compile arch' source').outcome ↔
          offsets.Perm offsets')) ∧
      (((∀ n ∈ ns, Numeral.Readable n) ∧ Spelled (K.call ns) K ns) ∨
        (¬ ∀ n ∈ ns, Numeral.Readable n) ∧
          ∃ e, ∀ source, compile (K.call ns) source = ⟨[], .error (.tooLong e)⟩) := by
  have hiff := h.eq_iff_perm h'
  refine ⟨hiff, ⟨⟨h.remake, h.ordered_perm, h.ascending, h.readsJust⟩,
    ⟨h'.remake, h'.ordered_perm, h'.ascending, h'.readsJust⟩⟩, ?_, ?_⟩
  · intro hperm
    rw [hiff.mpr hperm]
    exact ⟨fun _ _ => rfl, rfl, rfl, rfl, rfl⟩
  · intro K ns ns' hg hg'
    refine ⟨?_, K.spelled_call_or_too_long ns⟩
    intro arch arch' source source' hs hs'
    have hcompile := hs.compile_eq fun text => templates_of_gathered hg h text source
    have hcompile' := hs'.compile_eq fun text => templates_of_gathered hg' h' text source'
    refine ⟨⟨hcompile, hcompile'⟩, ?_⟩
    rw [hcompile, hcompile', ← hiff]
    simp

/-- The tags are given in both orders, with a blank and a plus sign in one place. -/
theorem offsets_in_any_order_wordTwoTags :
    (Unordered.wordTwoTags 0).Makes [1, -2] (.wordTwoTags 0 ⟨-2, 1, by decide⟩) ∧
    (Unordered.wordTwoTags 0).Makes [-2, 1] (.wordTwoTags 0 ⟨-2, 1, by decide⟩) ∧
    (compile "wordTwoTags(0, +1,-2)" []).outcome = (compile "wordTwoTags(0,-2,1)" []).outcome ∧
    (Template.wordTwoTags 0 ⟨-2, 1, by decide⟩).ReadsJust [.word 0, .tag (-2), .tag 1] := by
  have h : (Unordered.wordTwoTags 0).Makes [1, -2] (.wordTwoTags 0 ⟨-2, 1, by decide⟩) :=
    .wordTwoTags 0 1 (-2)
  have h' : (Unordered.wordTwoTags 0).Makes [-2, 1] (.wordTwoTags 0 ⟨-2, 1, by decide⟩) :=
    .wordTwoTags 0 (-2) 1
  have hs : Spelled "wordTwoTags(0, +1,-2)" wordTwoTags [0, 1, -2] :=
    ⟨⟨"wordTwoTags(0, +1,-2)", "wordTwoTags", some "0, +1,-2"⟩, by decide +kernel,
      by decide +kernel, by decide +kernel⟩
  have hs' : Spelled "wordTwoTags(0,-2,1)" wordTwoTags [0, -2, 1] :=
    ⟨⟨"wordTwoTags(0,-2,1)", "wordTwoTags", some "0,-2,1"⟩, by decide +kernel,
      by decide +kernel, by decide +kernel⟩
  obtain ⟨-, ⟨hkeeps, -⟩, -, hcompiled⟩ := offsets_in_any_order h h'
  obtain ⟨hspelled, -⟩ := hcompiled wordTwoTags [0, 1, -2] [0, -2, 1] rfl rfl
  exact ⟨h, h', (hspelled _ _ [] [] hs hs').2.mpr (.swap _ _ _), hkeeps.reads⟩

end TaggerFeatures.Architecture.Keyword
