/-! Offsets from a cursor: pairs and triples in ascending order, and runs of neighbours. -/
namespace TaggerFeatures

/-- Two offsets in ascending order. -/
structure OffsetPair where
  low : Int
  high : Int
  low_le_high : low ≤ high := by omega
deriving DecidableEq, Repr

/-- Two offsets, put in ascending order. -/
def OffsetPair.of (a b : Int) : OffsetPair :=
  if h : a ≤ b then ⟨a, b, h⟩ else ⟨b, a, by omega⟩

structure OffsetTriple where
  low : Int
  middle : Int
  high : Int
  low_le_middle : low ≤ middle := by omega
  middle_le_high : middle ≤ high := by omega
deriving DecidableEq, Repr

def OffsetTriple.of (a b c : Int) : OffsetTriple :=
  let p := OffsetPair.of a b
  if h : p.high ≤ c then ⟨p.low, p.high, c, p.low_le_high, h⟩
  else if h' : p.low ≤ c then ⟨p.low, c, p.high, h', by omega⟩
  else ⟨c, p.low, p.high, by omega, p.low_le_high⟩

namespace Offsets

/-- The offsets `first`, `first + step`, …, as many as `count` says. -/
def run (step : Int) : (count : Nat) → (first : Int) → List Int
  | 0, _ => []
  | count + 1, first => first :: run step count (first + step)

/-- The offsets from `first` to `last`, none if `last` is the lower one. -/
def upTo (first last : Int) : List Int := run 1 (last + 1 - first).toNat first

/-- Reads at each offset of a run, and stops at the first error. -/
def readRun {ε α : Type} (read : Int → Except ε α) (step : Int) :
    (count : Nat) → (first : Int) → Except ε (List α)
  | 0, _ => .ok []
  | count + 1, first =>
    match read first with
    | .error e => .error e
    | .ok x => (readRun read step count (first + step)).map (x :: ·)

end Offsets
end TaggerFeatures
