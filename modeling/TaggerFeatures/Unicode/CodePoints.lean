/-! Sets of code points, as tables of runs. -/
namespace TaggerFeatures.Unicode

/-- Runs from a first to a last code point: of all between, or of every second one. -/
structure CodePoints where
  runs : List (Nat × Nat)
  everySecond : List (Nat × Nat) := []

namespace CodePoints

def has (s : CodePoints) (n : Nat) : Bool :=
  s.runs.any (fun (first, last) => first ≤ n && n ≤ last) ||
    s.everySecond.any (fun (first, last) => first ≤ n && n ≤ last && (n - first) % 2 == 0)

def contains (s : CodePoints) (c : Char) : Bool := s.has c.toNat

end TaggerFeatures.Unicode.CodePoints
