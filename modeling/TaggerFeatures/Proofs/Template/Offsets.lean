import Mathlib.Data.List.Sort
import Mathlib.Tactic.Ring
import TaggerFeatures.Template.Offsets
import TaggerFeatures.Proofs.Traversal

/-!
Runs of offsets, and offsets in ascending order. A pair or a triple holds just the offsets that it
is made of, whatever their order was.
-/
namespace TaggerFeatures

namespace Offsets

/-! ## Runs -/

theorem mem_run_iff {step : Int} {count : Nat} {first o : Int} :
    o ∈ run step count first ↔ ∃ i : Nat, i < count ∧ o = first + i * step := by
  induction count generalizing first with
  | zero => simp [run]
  | succ count ih =>
      rw [run, List.mem_cons, ih]
      constructor
      · rintro (rfl | ⟨i, hi, rfl⟩)
        · exact ⟨0, by omega, by simp⟩
        · exact ⟨i + 1, by omega, by push_cast; ring⟩
      · rintro ⟨i, hi, rfl⟩
        cases i with
        | zero => simp
        | succ i => exact Or.inr ⟨i, by omega, by push_cast; ring⟩

theorem length_run (step : Int) (count : Nat) (first : Int) :
    (run step count first).length = count := by
  induction count generalizing first with
  | zero => rfl
  | succ count ih => rw [run, List.length_cons, ih]

theorem readRun_eq_mapM {ε α : Type} (read : Int → Except ε α) (step : Int) (count : Nat)
    (first : Int) : readRun read step count first = (run step count first).mapM read := by
  induction count generalizing first with
  | zero => rfl
  | succ count ih =>
      cases hf : read first with
      | error e => rw [readRun, hf, run, mapM_cons_of_error hf]
      | ok x => rw [readRun, hf, run, mapM_cons_of_ok hf, ih]

theorem map_neg_run (step : Int) (count : Nat) (first : Int) :
    (run step count first).map (-·) = run (-step) count (-first) := by
  induction count generalizing first with
  | zero => rfl
  | succ count ih =>
      have hnext : -(first + step) = -first + -step := Int.neg_add
      rw [run, run, List.map_cons, ih, hnext]

/-! ## Ascending lists -/

/-- The offsets with a property, each once, in ascending order. -/
structure Lists (p : Int → Prop) (offsets : List Int) : Prop where
  mem_iff : ∀ o, o ∈ offsets ↔ p o
  ascending : offsets.Pairwise (· < ·)

theorem Lists.unique {p : Int → Prop} {offsets offsets' : List Int} (h : Lists p offsets)
    (h' : Lists p offsets') : offsets = offsets' :=
  h.ascending.eq_of_mem_iff h'.ascending fun o => (h.mem_iff o).trans (h'.mem_iff o).symm

theorem Lists.congr {p q : Int → Prop} {offsets : List Int} (h : Lists p offsets)
    (hpq : ∀ o, p o ↔ q o) : Lists q offsets where
  mem_iff := fun o => (h.mem_iff o).trans (hpq o)
  ascending := h.ascending

theorem Lists.filter {p q : Int → Prop} [DecidablePred q] {offsets : List Int}
    (h : Lists p offsets) : Lists (fun o => p o ∧ q o) (offsets.filter (q ·)) where
  mem_iff := fun o => by rw [List.mem_filter, h.mem_iff, decide_eq_true_iff]
  ascending := h.ascending.filter _

/-- On the other side of the cursor the order of offsets is turned around. -/
theorem Lists.neg {p : Int → Prop} {offsets : List Int} (h : Lists p offsets) :
    Lists (fun o => p (-o)) (offsets.map (-·)).reverse where
  mem_iff := by
    intro o
    rw [List.mem_reverse, List.mem_map, ← h.mem_iff]
    constructor
    · rintro ⟨o', ho', rfl⟩
      rwa [Int.neg_neg]
    · exact fun ho => ⟨-o, ho, Int.neg_neg o⟩
  ascending := by
    rw [List.pairwise_reverse, List.pairwise_map]
    exact h.ascending.imp fun ho => Int.neg_lt_neg ho

theorem pairwise_run (count : Nat) (first : Int) : (run 1 count first).Pairwise (· < ·) := by
  induction count generalizing first with
  | zero => exact List.Pairwise.nil
  | succ count ih =>
      refine List.pairwise_cons.mpr ⟨?_, ih (first + 1)⟩
      intro o ho
      obtain ⟨i, _, rfl⟩ := mem_run_iff.mp ho
      omega

theorem lists_upTo (first last : Int) :
    Lists (fun o => first ≤ o ∧ o ≤ last) (upTo first last) where
  mem_iff := by
    intro o
    rw [upTo, mem_run_iff]
    constructor
    · rintro ⟨i, hi, rfl⟩
      omega
    · rintro ⟨hfirst, hlast⟩
      exact ⟨(o - first).toNat, by omega, by omega⟩
  ascending := pairwise_run _ _

end Offsets

/-! ## Pairs and triples -/

theorem eq_of_perm_of_ascending {offsets offsets' : List Int} (h : offsets.Perm offsets')
    (ho : offsets.Pairwise (· ≤ ·)) (ho' : offsets'.Pairwise (· ≤ ·)) : offsets = offsets' :=
  h.eq_of_pairwise' ho ho'

namespace OffsetPair

variable {p q : OffsetPair} {a b : Int}

theorem perm_of (a b : Int) : [(of a b).low, (of a b).high].Perm [a, b] := by
  unfold of
  split
  · exact .refl _
  · exact .swap _ _ _

theorem ascending (p : OffsetPair) : [p.low, p.high].Pairwise (· ≤ ·) := by
  simp [p.low_le_high]

theorem of_of_le (h : a ≤ b) : of a b = ⟨a, b, h⟩ := dif_pos h

theorem of_low_high (p : OffsetPair) : of p.low p.high = p := of_of_le p.low_le_high

theorem eq_of_perm (h : [p.low, p.high].Perm [a, b]) (h' : [q.low, q.high].Perm [a, b]) :
    p = q := by
  have hs := eq_of_perm_of_ascending (h.trans h'.symm) p.ascending q.ascending
  cases p
  cases q
  cases hs
  rfl

theorem of_eq_of_iff {c d : Int} : of a b = of c d ↔ [a, b].Perm [c, d] := by
  constructor
  · intro h
    exact (perm_of a b).symm.trans (h ▸ perm_of c d)
  · intro h
    exact eq_of_perm (perm_of a b) ((perm_of c d).trans h.symm)

end OffsetPair

namespace OffsetTriple

variable {p q : OffsetTriple} {a b c : Int}

theorem perm_of (a b c : Int) :
    [(of a b c).low, (of a b c).middle, (of a b c).high].Perm [a, b, c] := by
  have hpair : [(OffsetPair.of a b).low, (OffsetPair.of a b).high, c].Perm [a, b, c] :=
    (OffsetPair.perm_of a b).append_right [c]
  refine List.Perm.trans ?_ hpair
  -- The third offset goes behind the pair, between its two, or in front of it.
  dsimp only [of]
  split
  · exact .refl _
  · split
    · exact .cons _ (.swap _ _ _)
    · exact (List.Perm.swap _ _ _).trans (.cons _ (.swap _ _ _))

theorem ascending (p : OffsetTriple) : [p.low, p.middle, p.high].Pairwise (· ≤ ·) := by
  have hm := p.low_le_middle
  have hh := p.middle_le_high
  simp [hm, hh, hm.trans hh]

theorem eq_of_perm (h : [p.low, p.middle, p.high].Perm [a, b, c])
    (h' : [q.low, q.middle, q.high].Perm [a, b, c]) : p = q := by
  have hs := eq_of_perm_of_ascending (h.trans h'.symm) p.ascending q.ascending
  cases p
  cases q
  cases hs
  rfl

theorem of_low_middle_high (p : OffsetTriple) : of p.low p.middle p.high = p :=
  eq_of_perm (perm_of _ _ _) (.refl _)

theorem of_eq_of_iff {d e f : Int} : of a b c = of d e f ↔ [a, b, c].Perm [d, e, f] := by
  constructor
  · intro h
    exact (perm_of a b c).symm.trans (h ▸ perm_of d e f)
  · intro h
    exact eq_of_perm (perm_of a b c) ((perm_of d e f).trans h.symm)

end OffsetTriple
end TaggerFeatures
