import Mathlib.Data.List.TakeDrop
import TaggerFeatures.Proofs.Architecture.Pieces

/-!
Where the strict split finds its fault. A misplaced parenthesis is reported at the first character
behind which no text can be accepted any more, and a missing one only if the whole text could still
have gone on to one that is accepted.
-/
namespace TaggerFeatures.Architecture
open Text

/-! ## One character -/

/-- The parenthesis that may not come next, inside a pair of parentheses or outside. -/
def misplaced : (inside : Bool) → Char
  | true => '('
  | false => ')'

/-- The fault of a misplaced parenthesis. -/
def misplacedAt : (inside : Bool) → (column : Nat) → ParenthesisFault
  | true => .nested
  | false => .unmatched

/-- Whether the text behind a character is inside a pair of parentheses; nothing if the character is
a misplaced parenthesis. -/
def behind? (inside : Bool) (c : Char) : Option Bool :=
  if c = misplaced inside then none
  else some (if c = misplaced (!inside) then !inside else inside)

variable {inside after next : Bool} {column i : Nat} {c : Char} {s cs : List Char}
  {fault : ParenthesisFault}

theorem misplaced_inj (h : misplaced after = misplaced inside) : after = inside := by
  revert h
  cases after <;> cases inside <;> decide

theorem misplacedAt_inj {j : Nat} (h : misplacedAt after i = misplacedAt inside j) :
    after = inside ∧ i = j := by
  cases after <;> cases inside <;> cases h <;> exact ⟨rfl, rfl⟩

theorem behind?_eq_none_iff : behind? inside c = none ↔ c = misplaced inside := by
  simp [behind?]

/-- A misplaced parenthesis ends the split; any other character leaves it to the rest. -/
theorem strictPieces_cons (inside : Bool) (column : Nat) (c : Char) (cs : List Char) :
    (behind? inside c = none ∧
      strictPieces inside column (c :: cs) = .error (misplacedAt inside column)) ∨
    ∃ next f, behind? inside c = some next ∧
      strictPieces inside column (c :: cs) = (strictPieces next (column + 1) cs).map f := by
  by_cases hopen : c = '('
  · subst hopen
    cases inside with
    | true => exact Or.inl ⟨rfl, rfl⟩
    | false => exact Or.inr ⟨true, consHead '(', rfl, rfl⟩
  by_cases hclose : c = ')'
  · subst hclose
    cases inside with
    | true => exact Or.inr ⟨false, consHead ')', rfl, rfl⟩
    | false => exact Or.inl ⟨rfl, rfl⟩
  refine Or.inr ⟨inside, if c = ',' ∧ inside = false then ([] :: ·) else consHead c, ?_, ?_⟩
  · cases inside <;> simp [behind?, misplaced, hopen, hclose]
  · rw [strictPieces, if_neg hopen, if_neg hclose]
    split <;> rfl

/-! ## Whole texts -/

/-- Whether the text behind `s` is inside a pair of parentheses; nothing if a parenthesis in `s` is
misplaced. -/
def insideAfter? (inside : Bool) (s : List Char) : Option Bool := s.foldlM behind? inside

theorem insideAfter?_cons :
    insideAfter? inside (c :: cs) = (behind? inside c).bind (insideAfter? · cs) := by
  rw [insideAfter?, List.foldlM_cons]
  rfl

theorem insideAfter?_append (s t : List Char) :
    insideAfter? inside (s ++ t) = (insideAfter? inside s).bind (insideAfter? · t) := by
  rw [insideAfter?, List.foldlM_append]
  rfl

/-- What is accepted ends outside parentheses. -/
theorem exists_strictPieces_ok_iff :
    (∃ ps, strictPieces inside column s = .ok ps) ↔ insideAfter? inside s = some false := by
  induction s generalizing inside column with
  | nil => cases inside <;> simp [strictPieces, insideAfter?]
  | cons c cs ih =>
      rw [insideAfter?_cons]
      rcases strictPieces_cons inside column c cs with ⟨hc, hs⟩ | ⟨next, f, hc, hs⟩
      · simp [hc, hs]
      · rw [hc, hs, Option.bind_some, exists_map_ok_iff, ih]

/-- The parenthesis at an index is misplaced, and none before it is. -/
def StopsAt (inside : Bool) (s : List Char) (i : Nat) (after : Bool) : Prop :=
  s[i]? = some (misplaced after) ∧ insideAfter? inside (s.take i) = some after

theorem stopsAt_cons_of_misplaced (hc : behind? inside c = none) :
    StopsAt inside (c :: cs) i after ↔ i = 0 ∧ after = inside := by
  cases i with
  | zero =>
      rw [behind?_eq_none_iff] at hc
      simp only [StopsAt, insideAfter?, hc, List.getElem?_cons_zero, List.take_zero,
        List.foldlM_nil, Option.pure_def, Option.some.injEq, true_and]
      constructor
      · exact fun h => h.2.symm
      · rintro rfl
        exact ⟨rfl, rfl⟩
  | succ i => simp [StopsAt, insideAfter?_cons, hc]

theorem stopsAt_cons_of_behind (hc : behind? inside c = some next) :
    StopsAt inside (c :: cs) i after ↔ ∃ j, i = j + 1 ∧ StopsAt next cs j after := by
  cases i with
  | zero =>
      simp only [StopsAt, insideAfter?, List.getElem?_cons_zero, List.take_zero, List.foldlM_nil,
        Option.pure_def, Option.some.injEq]
      constructor
      · rintro ⟨rfl, rfl⟩
        rw [behind?_eq_none_iff.mpr rfl] at hc
        cases hc
      · rintro ⟨j, hj, _⟩
        omega
  | succ i => simp [StopsAt, insideAfter?_cons, hc]

/-- What is refused has a first misplaced parenthesis, or ends inside a pair of parentheses. -/
theorem strictPieces_eq_error_iff :
    strictPieces inside column s = .error fault ↔
      (insideAfter? inside s = some true ∧ fault = .unclosed) ∨
        ∃ i after, StopsAt inside s i after ∧ fault = misplacedAt after (column + i) := by
  induction s generalizing inside column with
  | nil => cases inside <;> simp [strictPieces, insideAfter?, StopsAt, eq_comm (a := fault)]
  | cons c cs ih =>
      rcases strictPieces_cons inside column c cs with ⟨hc, hs⟩ | ⟨next, f, hc, hs⟩
      · simp only [insideAfter?_cons, hc, hs, stopsAt_cons_of_misplaced hc]
        constructor
        · intro h
          exact Or.inr ⟨0, inside, ⟨rfl, rfl⟩, (Except.error.inj h).symm⟩
        · rintro (⟨h, _⟩ | ⟨_, _, ⟨rfl, rfl⟩, rfl⟩)
          · cases h
          · rfl
      · simp only [insideAfter?_cons, hc, hs, map_eq_error_iff, ih, Option.bind_some,
          stopsAt_cons_of_behind hc]
        refine or_congr_right ⟨?_, ?_⟩
        · rintro ⟨j, after, hstop, rfl⟩
          exact ⟨j + 1, after, ⟨j, rfl, hstop⟩, by rw [Nat.add_assoc, Nat.add_comm 1]⟩
        · rintro ⟨_, after, ⟨j, rfl, hstop⟩, rfl⟩
          exact ⟨j, after, hstop, by rw [Nat.add_assoc, Nat.add_comm 1]⟩

/-! ## Pairs of parentheses -/

/-- The parentheses of a text, in order. -/
def parentheses (s : List Char) : List Char := s.filter fun c => c == '(' || c == ')'

/-- A number of pairs of parentheses, one behind the other. -/
def pairs (n : Nat) : List Char := (List.replicate n ['(', ')']).flatten

/-- Pairs of parentheses behind a character are what is left of pairs that begin with it. -/
theorem exists_cons_eq_pairs_iff {t : List Char} :
    (∃ n, c :: t = pairs n) ↔ c = '(' ∧ ∃ n, t = ')' :: pairs n := by
  constructor
  · rintro ⟨n, h⟩
    cases n with
    | zero => cases h
    | succ n =>
        obtain ⟨rfl, rfl⟩ := List.cons.inj h
        exact ⟨rfl, n, rfl⟩
  · rintro ⟨rfl, n, rfl⟩
    exact ⟨n + 1, rfl⟩

/-- What is accepted from outside are pairs of parentheses; from inside, one is to be closed
first. -/
theorem insideAfter?_eq_some_false_iff :
    insideAfter? inside s = some false ↔
      ∃ n, parentheses s = if inside then ')' :: pairs n else pairs n := by
  induction s generalizing inside with
  | nil =>
      cases inside with
      | true => simp [insideAfter?, parentheses]
      | false => exact ⟨fun _ => ⟨0, rfl⟩, fun _ => rfl⟩
  | cons c cs ih =>
      rw [insideAfter?_cons]
      by_cases hopen : c = '('
      · have hcons : parentheses (c :: cs) = c :: parentheses cs := by simp [parentheses, hopen]
        rw [hcons, hopen]
        cases inside with
        | true => simp [behind?, misplaced]
        | false => simp [behind?, misplaced, ih, exists_cons_eq_pairs_iff]
      by_cases hclose : c = ')'
      · have hcons : parentheses (c :: cs) = c :: parentheses cs := by simp [parentheses, hclose]
        rw [hcons, hclose]
        cases inside with
        | true => simp [behind?, misplaced, ih]
        | false => simp [behind?, misplaced, exists_cons_eq_pairs_iff]
      · have hother : parentheses (c :: cs) = parentheses cs := by
          simp [parentheses, hopen, hclose]
        have hsame : behind? inside c = some inside := by
          cases inside <;> simp [behind?, misplaced, hopen, hclose]
        rw [hsame, Option.bind_some, ih, hother]

/-! ## Architectures -/

/-- The strict split accepts the architecture. -/
def Accepted (arch : String) : Prop := ∃ texts, splitStrict arch = .ok texts

/-- The text is the start of an architecture that is accepted. -/
def CanGoOn (s : List Char) : Prop := ∃ arch, Accepted arch ∧ s <+: arch.toList

/-- The character at an index is the first one behind which no architecture is accepted. -/
def RuledOutAt (s : List Char) (i : Nat) : Prop :=
  CanGoOn (s.take i) ∧ ¬ CanGoOn (s.take (i + 1))

variable {arch : String}

theorem accepted_iff : Accepted arch ↔ insideAfter? false arch.toList = some false := by
  simp only [Accepted, splitStrict, splitStrictChars, exists_map_ok_iff,
    exists_strictPieces_ok_iff]

theorem splitStrict_eq_error_iff :
    splitStrict arch = .error fault ↔
      (insideAfter? false arch.toList = some true ∧ fault = .unclosed) ∨
        ∃ i after, StopsAt false arch.toList i after ∧ fault = misplacedAt after i := by
  simp only [splitStrict, splitStrictChars, map_eq_error_iff, strictPieces_eq_error_iff,
    Nat.zero_add]

/-- A text without a misplaced parenthesis goes on, with a closing parenthesis if one is due. -/
theorem canGoOn_iff : CanGoOn s ↔ ∃ inside, insideAfter? false s = some inside := by
  constructor
  · rintro ⟨arch, haccepted, rest, hrest⟩
    rw [accepted_iff, ← hrest, insideAfter?_append] at haccepted
    obtain ⟨inside, hinside, _⟩ := Option.bind_eq_some_iff.mp haccepted
    exact ⟨inside, hinside⟩
  · rintro ⟨inside, hinside⟩
    have hclosed : insideAfter? false (s ++ if inside then [')'] else []) = some false := by
      rw [insideAfter?_append, hinside]
      cases inside <;> rfl
    refine ⟨String.ofList (s ++ if inside then [')'] else []), ?_, ?_⟩
    · rw [accepted_iff, String.toList_ofList, hclosed]
    · rw [String.toList_ofList]
      exact List.prefix_append _ _

theorem insideAfter?_take_succ (hc : s[i]? = some c) :
    insideAfter? inside (s.take (i + 1)) = (insideAfter? inside (s.take i)).bind (behind? · c) := by
  rw [List.take_add_one, hc, Option.toList_some, insideAfter?_append]
  congr
  funext after
  rw [insideAfter?_cons]
  exact Option.bind_fun_some _

/-- A parenthesis rules every architecture out just if it is the first one that is misplaced. -/
theorem stopsAt_iff :
    StopsAt false s i after ↔ s[i]? = some (misplaced after) ∧ RuledOutAt s i := by
  rw [StopsAt, RuledOutAt, canGoOn_iff, canGoOn_iff]
  refine and_congr_right fun hc => ?_
  rw [insideAfter?_take_succ hc]
  constructor
  · intro hafter
    rw [hafter, Option.bind_some, behind?_eq_none_iff.mpr rfl]
    simp
  · rintro ⟨⟨inside, hinside⟩, hstop⟩
    rw [hinside, Option.bind_some, ← Option.isSome_iff_exists, Option.not_isSome_iff_eq_none,
      behind?_eq_none_iff] at hstop
    rw [hinside, misplaced_inj hstop]

theorem splitStrict_eq_misplacedAt_iff (after : Bool) (i : Nat) :
    splitStrict arch = .error (misplacedAt after i) ↔
      arch.toList[i]? = some (misplaced after) ∧ RuledOutAt arch.toList i := by
  rw [splitStrict_eq_error_iff, ← stopsAt_iff]
  constructor
  · rintro (⟨_, hfault⟩ | ⟨j, inside, hstop, hfault⟩)
    · cases after <;> cases hfault
    · obtain ⟨rfl, rfl⟩ := misplacedAt_inj hfault
      exact hstop
  · exact fun hstop => Or.inr ⟨i, after, hstop, rfl⟩

theorem splitStrict_eq_unclosed_iff :
    splitStrict arch = .error .unclosed ↔ insideAfter? false arch.toList = some true := by
  rw [splitStrict_eq_error_iff]
  constructor
  · rintro (⟨hinside, _⟩ | ⟨i, after, _, hfault⟩)
    · exact hinside
    · cases after <;> cases hfault
  · exact fun hinside => Or.inl ⟨hinside, rfl⟩

/-- The strict split blames the first character behind which no architecture is accepted, and says
that a parenthesis is not closed just where the text could go on. It accepts just the texts whose
parentheses are pairs. -/
theorem fault_rules_out (arch : String) :
    (∀ i, splitStrict arch = .error (.nested i) ↔
      arch.toList[i]? = some '(' ∧ RuledOutAt arch.toList i) ∧
    (∀ i, splitStrict arch = .error (.unmatched i) ↔
      arch.toList[i]? = some ')' ∧ RuledOutAt arch.toList i) ∧
    (splitStrict arch = .error .unclosed ↔ CanGoOn arch.toList ∧ ¬ Accepted arch) ∧
    (Accepted arch ↔ ∃ n, parentheses arch.toList = pairs n) := by
  refine ⟨splitStrict_eq_misplacedAt_iff true, splitStrict_eq_misplacedAt_iff false, ?_, ?_⟩
  · rw [splitStrict_eq_unclosed_iff, canGoOn_iff, accepted_iff]
    cases insideAfter? false arch.toList with
    | none => simp
    | some inside => cases inside <;> simp
  · rw [accepted_iff, insideAfter?_eq_some_false_iff]
    rfl

example : splitStrict "words(-1,1),tags(-1),1)" = .error (.unmatched 22) := by rfl

end TaggerFeatures.Architecture
