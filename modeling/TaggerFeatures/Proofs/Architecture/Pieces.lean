import TaggerFeatures.Architecture.Split
import TaggerFeatures.Proofs.Text.Cut
import TaggerFeatures.Proofs.Traversal

/-!
The pieces that the strict split accepts: commas stand inside parentheses only, and parentheses
follow one another as `(` and `)`. The split takes just such pieces, and gives them back from their
join.
-/
namespace TaggerFeatures.Architecture
open Text

/-- A piece of an architecture, or what is left of one from inside a pair of parentheses on. -/
def IsPiece : (inside : Bool) → List Char → Prop
  | inside, [] => inside = false
  | inside, c :: cs =>
    if c = '(' then inside = false ∧ IsPiece true cs
    else if c = ')' then inside = true ∧ IsPiece false cs
    else (c = ',' → inside = true) ∧ IsPiece inside cs

/-- Pieces of which the first one may begin inside a pair of parentheses. -/
def ArePieces (inside : Bool) : List (List Char) → Prop
  | [] => False
  | p :: rest => IsPiece inside p ∧ ∀ q ∈ rest, IsPiece false q

theorem ArePieces.join_cons_nil {inside : Bool} {ps : List (List Char)} (h : ArePieces inside ps) :
    join [','] ([] :: ps) = ',' :: join [','] ps := by
  cases ps with
  | nil => exact h.elim
  | cons p rest => rw [join_cons_cons]; rfl

variable {inside : Bool} {column : Nat}

theorem arePieces_false_iff {ps : List (List Char)} :
    ArePieces false ps ↔ ps ≠ [] ∧ ∀ p ∈ ps, IsPiece false p := by
  cases ps with
  | nil => simp [ArePieces]
  | cons p rest => simp [ArePieces]

theorem ArePieces.consHead {after : Bool} {c : Char} {ps : List (List Char)}
    (h : ArePieces after ps) (hc : ∀ p, IsPiece after p → IsPiece inside (c :: p)) :
    ArePieces inside (consHead c ps) := by
  cases ps with
  | nil => exact h.elim
  | cons p rest => exact ⟨hc p h.1, h.2⟩

theorem ArePieces.cons_nil {ps : List (List Char)} (h : ArePieces false ps) :
    ArePieces false ([] :: ps) := ⟨rfl, (arePieces_false_iff.mp h).2⟩

/-! ## One character -/

theorem strictPieces_comma (column : Nat) (s : List Char) :
    strictPieces false column (',' :: s) = (strictPieces false (column + 1) s).map ([] :: ·) := by
  simp [strictPieces]

/-- A character that may stand at its place is put in front of what the rest gives. -/
theorem strictPieces_cons_of_isPiece {c : Char} {cs : List Char} (h : IsPiece inside (c :: cs)) :
    ∃ after, IsPiece after cs ∧ ∀ column s,
      strictPieces inside column (c :: s) =
        (strictPieces after (column + 1) s).map (consHead c) := by
  unfold IsPiece at h
  by_cases hopen : c = '('
  · rw [if_pos hopen] at h
    obtain ⟨rfl, hcs⟩ := h
    exact ⟨true, hcs, fun column s => by simp [strictPieces, hopen]⟩
  · rw [if_neg hopen] at h
    by_cases hclose : c = ')'
    · rw [if_pos hclose] at h
      obtain ⟨rfl, hcs⟩ := h
      exact ⟨false, hcs, fun column s => by simp [strictPieces, hclose]⟩
    · rw [if_neg hclose] at h
      refine ⟨inside, h.2, fun column s => ?_⟩
      have hcomma : ¬ (c = ',' ∧ inside = false) := by
        rintro ⟨hc, hi⟩
        rw [h.1 hc] at hi
        cases hi
      rw [strictPieces, if_neg hopen, if_neg hclose, if_neg hcomma]

/-- A first character that is accepted is a comma between two pieces, or belongs to the first piece
of what is accepted after it. -/
theorem strictPieces_cons_ok {c : Char} {cs : List Char} {ps : List (List Char)}
    (h : strictPieces inside column (c :: cs) = .ok ps) :
    (inside = false ∧ c = ',' ∧
      ∃ rest, strictPieces false (column + 1) cs = .ok rest ∧ [] :: rest = ps) ∨
    ∃ after rest, strictPieces after (column + 1) cs = .ok rest ∧ consHead c rest = ps ∧
      ∀ p, IsPiece after p → IsPiece inside (c :: p) := by
  rw [strictPieces] at h
  split at h
  · rename_i hopen
    cases inside with
    | true => cases h
    | false =>
        obtain ⟨rest, hr, hps⟩ := exists_of_map_ok h
        exact Or.inr ⟨true, rest, hr, hps, fun p hp => by simpa [IsPiece, hopen] using hp⟩
  · rename_i hopen
    split at h
    · rename_i hclose
      cases inside with
      | false => cases h
      | true =>
          obtain ⟨rest, hr, hps⟩ := exists_of_map_ok h
          exact Or.inr ⟨false, rest, hr, hps, fun p hp => by simpa [IsPiece, hclose] using hp⟩
    · rename_i hclose
      split at h
      · rename_i hcomma
        obtain ⟨rfl, rfl⟩ := hcomma
        exact Or.inl ⟨rfl, rfl, exists_of_map_ok h⟩
      · rename_i hcomma
        obtain ⟨rest, hr, hps⟩ := exists_of_map_ok h
        refine Or.inr ⟨inside, rest, hr, hps, fun p hp => ?_⟩
        rw [IsPiece, if_neg hopen, if_neg hclose]
        exact ⟨fun hc => by simpa [hc] using hcomma, hp⟩

/-! ## Whole texts -/

/-- What the strict split gives are pieces, and their join is the text. -/
theorem strictPieces_sound {s : List Char} {ps : List (List Char)}
    (h : strictPieces inside column s = .ok ps) : ArePieces inside ps ∧ join [','] ps = s := by
  induction s generalizing inside column ps with
  | nil =>
      cases inside with
      | true => cases h
      | false => cases h; exact ⟨⟨rfl, by simp⟩, by simp⟩
  | cons c cs ih =>
      rcases strictPieces_cons_ok h with ⟨rfl, rfl, rest, hr, rfl⟩ | ⟨after, rest, hr, rfl, hc⟩
      · obtain ⟨hp, hj⟩ := ih hr
        exact ⟨hp.cons_nil, by rw [hp.join_cons_nil, hj]⟩
      · obtain ⟨hp, hj⟩ := ih hr
        exact ⟨hp.consHead hc, by rw [join_consHead, hj]⟩

/-- A piece in front of a text goes to the first piece of the text. -/
theorem strictPieces_append {p : List Char} (hp : IsPiece inside p) (column : Nat) (s : List Char) :
    strictPieces inside column (p ++ s) =
      (strictPieces false (column + p.length) s).map (p.foldr consHead) := by
  induction p generalizing inside column with
  | nil =>
      cases hp
      cases h : strictPieces false column s <;> simp [h, Except.map]
  | cons c cs ih =>
      obtain ⟨after, hcs, hc⟩ := strictPieces_cons_of_isPiece hp
      have hl : column + (c :: cs).length = column + 1 + cs.length := by
        rw [List.length_cons]
        omega
      rw [List.cons_append, hc, ih hcs, hl]
      cases strictPieces false (column + 1 + cs.length) s <;> rfl

/-- Pieces are found again in their join. -/
theorem strictPieces_join {ps : List (List Char)} (h : ArePieces inside ps) (column : Nat) :
    strictPieces inside column (join [','] ps) = .ok ps := by
  induction ps generalizing inside column with
  | nil => exact h.elim
  | cons p rest ih =>
      cases rest with
      | nil =>
          have hp := strictPieces_append h.1 column []
          rw [List.append_nil] at hp
          rw [join_singleton, hp, strictPieces, Except.map, foldr_consHead, List.append_nil]
      | cons q rest =>
          have hrest : ArePieces false (q :: rest) :=
            ⟨h.2 q (by simp), fun q' hq => h.2 q' (by simp [hq])⟩
          rw [join_cons_cons, strictPieces_append h.1, List.singleton_append, strictPieces_comma,
            ih hrest, Except.map, Except.map, foldr_consHead, List.append_nil]

end TaggerFeatures.Architecture
