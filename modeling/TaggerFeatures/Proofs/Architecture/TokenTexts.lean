import TaggerFeatures.Proofs.Architecture.Expansion

/-!
The token texts of any architecture, wherever its parentheses stand. They are a normal form: just
such texts are found again in their join. The pieces that they are made of hold every character of
the architecture, and the strict split has the same ones if it has any.
-/
namespace TaggerFeatures.Architecture
open Text

/-- Texts that an architecture can have for its tokens. None is empty or has a blank at either end,
none has a comma at depth 0, and every one but the last ends at depth 0. -/
structure AreTokenTexts (texts : List String) : Prop where
  cuts : texts = [] ∨ AreCuts 0 (texts.map String.toList)
  ne_empty : ∀ t ∈ texts, t ≠ ""
  trimmed : ∀ t ∈ texts, trim t.toList = t.toList

variable {arch token : String} {texts : List String} {s : List Char} {ps : List (List Char)}

/-! ## Pieces -/

/-- The pieces of a text are the only ones that are cut at depth 0 and joined to the text. -/
theorem pieces_eq_iff : pieces 0 s = ps ↔ AreCuts 0 ps ∧ join [','] ps = s := by
  constructor
  · rintro rfl
    exact pieces_sound 0 s
  · rintro ⟨hcuts, rfl⟩
    exact pieces_join hcuts

theorem splitStrict_eq_ok_iff :
    splitStrict arch = .ok texts ↔ InOrder arch ∧ split arch = texts := by
  constructor
  · intro h
    have horder := inOrder_of_splitStrict h
    rw [splitStrict_of_inOrder horder] at h
    exact ⟨horder, Except.ok.inj h⟩
  · rintro ⟨horder, rfl⟩
    exact splitStrict_of_inOrder horder

/-! ## Token texts -/

theorem trim_of_mem_split (h : token ∈ split arch) : trim token.toList = token.toList := by
  obtain ⟨t, ht, rfl⟩ := List.mem_map.mp h
  obtain ⟨⟨p, _, rfl⟩, _⟩ := mem_tidy.mp ht
  rw [String.toList_ofList, trim_trim]

theorem ne_empty_of_mem_split (h : token ∈ split arch) : token ≠ "" := by
  obtain ⟨t, ht, rfl⟩ := List.mem_map.mp h
  rw [Ne, ← String.toList_inj, String.toList_ofList]
  exact (mem_tidy.mp ht).2

theorem areTokenTexts_split (arch : String) : AreTokenTexts (split arch) where
  cuts := split_eq_nil_or_areCuts arch
  ne_empty := fun _ => ne_empty_of_mem_split
  trimmed := fun _ => trim_of_mem_split

theorem AreTokenTexts.tidy_eq (h : AreTokenTexts texts) :
    tidy (texts.map String.toList) = texts.map String.toList := by
  apply tidy_eq_self
  simp only [List.forall_mem_map]
  intro t ht
  refine ⟨h.trimmed t ht, fun hnil => h.ne_empty t ht ?_⟩
  exact String.toList_inj.mp hnil

/-- Token texts are found again in their join. -/
theorem AreTokenTexts.split_joinWith (h : AreTokenTexts texts) :
    split (joinWith "," texts) = texts := by
  have hjoin : (joinWith "," texts).toList = join [','] (texts.map String.toList) :=
    toList_joinWith "," texts
  rcases h.cuts with rfl | hcuts
  · rfl
  · rw [split, splitChars, hjoin, pieces_join hcuts, h.tidy_eq, List.map_map]
    simp

theorem split_joinWith_eq_self_iff :
    split (joinWith "," texts) = texts ↔ AreTokenTexts texts :=
  ⟨fun h => h ▸ areTokenTexts_split _, AreTokenTexts.split_joinWith⟩

/-- Every text is split, and its tokens are neither empty nor have blanks around them. The strict
split gives the same tokens or none. Split again, the join of the tokens gives just these, which
holds of no other texts; and what is trimmed and sorted out are pieces that are joined to the whole
text. -/
theorem split_normal_form (arch : String) :
    (splitStrict arch = .ok (split arch) ∨ ∃ fault, splitStrict arch = .error fault) ∧
    (∀ token ∈ split arch, token ≠ "" ∧ trim token.toList = token.toList) ∧
    split (joinWith "," (split arch)) = split arch ∧
    (∀ texts, split (joinWith "," texts) = texts ↔ AreTokenTexts texts) ∧
    join [','] (pieces 0 arch.toList) = arch.toList ∧
    (∀ ps, pieces 0 arch.toList = ps ↔ AreCuts 0 ps ∧ join [','] ps = arch.toList) ∧
    split arch = (tidy (pieces 0 arch.toList)).map String.ofList := by
  refine ⟨?_, fun _ ht => ⟨ne_empty_of_mem_split ht, trim_of_mem_split ht⟩,
    (areTokenTexts_split arch).split_joinWith, fun _ => split_joinWith_eq_self_iff,
    (pieces_sound 0 arch.toList).2, fun _ => pieces_eq_iff, rfl⟩
  cases h : splitStrict arch with
  | error fault => exact Or.inr ⟨fault, rfl⟩
  | ok texts => exact Or.inl (congrArg Except.ok (splitStrict_eq_ok_iff.mp h).2.symm)

/-- Parentheses are closed before they are opened, and some are not closed at all. -/
theorem split_normal_form_misplaced :
    split " ) a( , b ,, c) ,\t, d( e, " = [") a( , b ,, c)", "d( e,"] ∧
      split ") a( , b ,, c),d( e," = [") a( , b ,, c)", "d( e,"] ∧
      trim "d( e,".toList = "d( e,".toList ∧
      ¬ AreTokenTexts ["d( e,", ") a( , b ,, c)"] ∧
      ∃ fault, splitStrict " ) a( , b ,, c) ,\t, d( e, " = .error fault := by
  have hs : split " ) a( , b ,, c) ,\t, d( e, " = [") a( , b ,, c)", "d( e,"] := by
    decide +kernel
  obtain ⟨hstrict, htrim, hagain, hiff, -⟩ := split_normal_form " ) a( , b ,, c) ,\t, d( e, "
  rw [hs] at hstrict htrim hagain
  refine ⟨hs, hagain, (htrim "d( e," (by simp)).2, ?_, hstrict.resolve_left (by decide +kernel)⟩
  rw [← hiff]
  decide +kernel

end TaggerFeatures.Architecture
