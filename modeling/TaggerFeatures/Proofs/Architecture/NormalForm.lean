import TaggerFeatures.Proofs.Architecture.Tokenwise

/-!
Expanded architectures. They are the join of their tokens, with no blank and no empty token to
spare, and no macro is among these. Expanding gives just such texts and leaves them as they are,
wherever their parentheses stand.
-/
namespace TaggerFeatures.Architecture
open Text

/-- The architecture is made of its tokens alone, and none of them is a macro. -/
structure Expanded (arch : String) : Prop where
  joined : join [','] ((split arch).map String.toList) = arch.toList
  no_macro : ∀ token ∈ split arch, Macro.ofName? token = none

variable {arch token : String}

theorem Macro.pieces_expansion (m : Macro) :
    pieces 0 m.expansion.toList = (split m.expansion).map String.toList := by
  cases m <;> decide +kernel

/-- No blank stands around a piece of what a token is expanded to. -/
theorem pieces_expandToken (h : token ∈ split arch) :
    pieces 0 (expandToken token).toList = (split (expandToken token)).map String.toList := by
  rcases expandToken_cases token with ⟨m, _, _, he⟩ | ⟨_, he⟩
  · rw [he, m.pieces_expansion]
  · rw [he, pieces_token h, split_token h, List.map_singleton]

/-- Whatever the parentheses of an architecture are like, no blank and no macro is left in its
expansion. -/
theorem expanded_expand (arch : String) : Expanded (expand arch) where
  joined := by
    rw [split_expand, List.map_flatMap, toList_expand]
    congr 1
    exact List.flatMap_congr fun token h => (pieces_expandToken h).symm
  no_macro := fun _ h => ofName?_of_mem_split_expand h

theorem Expanded.expand_eq (h : Expanded arch) : expand arch = arch := by
  have htokens : (split arch).map (fun token => (expandToken token).toList) =
      (split arch).map String.toList := by
    apply List.map_congr_left
    intro token ht
    rw [expandToken, h.no_macro token ht]
  rw [expand, htokens, h.joined, String.ofList_toList]

theorem expand_eq_self_iff : expand arch = arch ↔ Expanded arch :=
  ⟨fun h => h ▸ expanded_expand arch, Expanded.expand_eq⟩

/-- Every text has one expansion, and expanding it again changes nothing: just the expanded
architectures are left as they are. -/
theorem expand_expand (arch : String) :
    expand (expand arch) = expand arch ∧ (expand arch = arch ↔ Expanded arch) :=
  ⟨(expanded_expand arch).expand_eq, expand_eq_self_iff⟩

example : expand " x( ,, generic ) ,left5words,bidirectional( y , left3words " =
    "x( ,, generic ),words(-2,2),order(2),bidirectional( y , left3words" := by decide +kernel

end TaggerFeatures.Architecture
