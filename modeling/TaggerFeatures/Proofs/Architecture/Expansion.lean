import Mathlib.Data.List.Basic
import TaggerFeatures.Architecture.Macro
import TaggerFeatures.Proofs.Architecture.Depth

/-!
Macros in an architecture. Expanding puts tokens in the place of tokens: none is cut or joined with
another one, and the parentheses of an architecture are in order just if those of its expansion are.
-/
namespace TaggerFeatures.Architecture
open Text

/-- The tokens that a token stands for: those of the expansion of the macro that it names, or just
itself. -/
def replacement (token : String) : List String :=
  match Macro.ofName? token with
  | some shorthand => split shorthand.expansion
  | none => [token]

variable {arch token : String}

/-! ## Macros -/

theorem Macro.name_of_ofName? {m : Macro} (h : ofName? token = some m) : m.name = token := by
  simpa using List.find?_some h

theorem Macro.ofName?_name (m : Macro) : ofName? m.name = some m := by
  cases m <;> decide

theorem Macro.splitStrict_name (m : Macro) : splitStrict m.name = .ok [m.name] := by
  cases m <;> rfl

theorem Macro.splitStrict_expansion (m : Macro) :
    splitStrict m.expansion = .ok (split m.expansion) := by
  cases m <;> decide +kernel

theorem Macro.inOrder_expansion (m : Macro) : InOrder m.expansion :=
  inOrder_of_splitStrict m.splitStrict_expansion

theorem expandToken_cases (token : String) :
    (∃ m : Macro, Macro.ofName? token = some m ∧ m.name = token ∧
      expandToken token = m.expansion) ∨
    Macro.ofName? token = none ∧ expandToken token = token := by
  unfold expandToken
  cases h : Macro.ofName? token with
  | none => exact Or.inr ⟨rfl, rfl⟩
  | some m => exact Or.inl ⟨m, rfl, Macro.name_of_ofName? h, rfl⟩

/-! ## One token -/

theorem split_eq_nil_or_areCuts (arch : String) :
    split arch = [] ∨ AreCuts 0 ((split arch).map String.toList) := by
  have hs : (split arch).map String.toList = tidy (pieces 0 arch.toList) := by
    simp [split, splitChars]
  rcases areCuts_tidy (pieces_sound 0 arch.toList).1 with hnil | hcuts
  · rw [hnil, List.map_eq_nil_iff] at hs
    exact Or.inl hs
  · exact Or.inr (by rwa [hs])

theorem pieces_token (h : token ∈ split arch) : pieces 0 token.toList = [token.toList] := by
  rcases split_eq_nil_or_areCuts arch with hnil | hcuts
  · rw [hnil] at h
    cases h
  · obtain ⟨after, hd⟩ := hcuts.exists_depthAfter? _ (List.mem_map_of_mem h)
    exact pieces_of_depthAfter? hd

theorem split_token (h : token ∈ split arch) : split token = [token] := by
  rw [split, splitChars, pieces_token h]
  obtain ⟨t, ht, rfl⟩ := List.mem_map.mp h
  obtain ⟨⟨p, _, rfl⟩, hne⟩ := mem_tidy.mp ht
  rw [String.toList_ofList, tidy_eq_self (by simpa using hne), List.map_singleton]

theorem split_expandToken (h : token ∈ split arch) :
    split (expandToken token) = replacement token := by
  unfold replacement
  rcases expandToken_cases token with ⟨m, hm, _, he⟩ | ⟨hm, he⟩
  · rw [hm, he]
  · rw [hm, he, split_token h]

/-- The name of a macro and its expansion both have their parentheses in order. -/
theorem inOrder_expandToken_iff (h : token ∈ split arch) :
    InOrder (expandToken token) ↔ IsPiece false token.toList := by
  have htoken : InOrder token ↔ IsPiece false token.toList := by simp [InOrder, split_token h]
  rcases expandToken_cases token with ⟨m, _, rfl, he⟩ | ⟨_, he⟩
  · have hname : InOrder m.name := inOrder_of_splitStrict m.splitStrict_name
    exact iff_of_true (he ▸ m.inOrder_expansion) (htoken.mp hname)
  · rw [he, htoken]

/-! ## All tokens -/

/-- Pieces may be put in the place of a token that ends at depth 0. -/
theorem areCuts_expandTokens {texts : List String} (h : AreCuts 0 (texts.map String.toList)) :
    AreCuts 0 (texts.flatMap fun t => pieces 0 (expandToken t).toList) := by
  induction texts with
  | nil => cases h
  | cons t rest ih =>
      rw [List.flatMap_cons]
      -- Only the last token may end inside parentheses, and nothing is put behind it.
      rcases areCuts_cons_iff.mp h with ⟨hnil, after, hp⟩ | ⟨hp, hrest⟩
      · rw [List.map_eq_nil_iff.mp hnil, List.flatMap_nil, List.append_nil]
        exact (pieces_sound 0 _).1
      · refine AreCuts.append ?_ (ih hrest)
        rcases expandToken_cases t with ⟨m, _, _, he⟩ | ⟨_, he⟩
        · rw [he]
          exact fun p hp => depthAfter?_of_isPiece (inOrder_iff.mp m.inOrder_expansion p hp)
        · rw [he, pieces_of_depthAfter? hp]
          simpa using hp

theorem toList_expand (arch : String) :
    (expand arch).toList =
      join [','] ((split arch).flatMap fun t => pieces 0 (expandToken t).toList) := by
  have hj : (fun t => (expandToken t).toList) =
      fun t => join [','] (pieces 0 (expandToken t).toList) :=
    funext fun t => (pieces_sound 0 _).2.symm
  rw [expand, String.toList_ofList, hj, join_map_join fun t _ => (pieces_sound 0 _).1.ne_nil]

/-- The tokens of an expansion are those of the expanded tokens. -/
theorem split_expand (arch : String) :
    split (expand arch) = (split arch).flatMap fun t => split (expandToken t) := by
  rw [split, splitChars, toList_expand]
  rcases split_eq_nil_or_areCuts arch with hnil | hcuts
  · rw [hnil]
    rfl
  · rw [pieces_join (areCuts_expandTokens hcuts), tidy_flatMap, List.map_flatMap]
    rfl

/-- No parenthesis is out of order because of an expansion, or in order because of it. -/
theorem inOrder_expand_iff : InOrder (expand arch) ↔ InOrder arch := by
  have h : InOrder (expand arch) ↔ ∀ t ∈ split arch, InOrder (expandToken t) := by
    unfold InOrder
    rw [split_expand, List.forall_mem_flatMap]
  rw [h]
  exact forall₂_congr fun t ht => inOrder_expandToken_iff ht

/-- Expanding and the strict split commute: both architectures are split or neither is, and then
each macro has given way to the tokens of its expansion and each other token stands as it was. -/
theorem splitStrict_expand (arch : String) :
    ((∃ fault, splitStrict (expand arch) = .error fault) ↔
      ∃ fault, splitStrict arch = .error fault) ∧
    (splitStrict (expand arch)).toOption =
      (splitStrict arch).toOption.map (·.flatMap replacement) ∧
    ∀ m : Macro, splitStrict m.expansion = .ok (replacement m.name) := by
  have herror : (∃ fault, splitStrict (expand arch) = .error fault) ↔
      ∃ fault, splitStrict arch = .error fault := by
    rw [exists_splitStrict_error_iff, exists_splitStrict_error_iff, inOrder_expand_iff]
  refine ⟨herror, ?_, ?_⟩
  · by_cases h : InOrder arch
    · rw [splitStrict_of_inOrder h, splitStrict_of_inOrder (inOrder_expand_iff.mpr h), split_expand]
      exact congrArg some (List.flatMap_congr fun t ht => split_expandToken ht)
    · obtain ⟨fault, hf⟩ := exists_splitStrict_error_iff.mpr h
      obtain ⟨fault', hf'⟩ := herror.mpr ⟨fault, hf⟩
      rw [hf, hf']
      rfl
  · intro m
    rw [m.splitStrict_expansion, replacement, Macro.ofName?_name]

example : splitStrict (expand " left3words ,, left3words2(,)") =
    .ok ["words(-1,1)", "order(2)", "left3words2(,)"] := by decide +kernel

end TaggerFeatures.Architecture
