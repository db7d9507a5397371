import TaggerFeatures.Text.Blank

/-!
Cutting an architecture at the commas outside parentheses. `pieces` cuts any text; `strictPieces`
also asks that the parentheses are a repetition of `(` and `)`.
-/
namespace TaggerFeatures.Architecture
open Text

/-- What is wrong with the parentheses of an architecture, and at which column. -/
inductive ParenthesisFault
  | nested (column : Nat)
  | unmatched (column : Nat)
  | unclosed
deriving DecidableEq, Repr

/-- Cuts at each comma at depth 0. A closing parenthesis at depth 0 leaves the depth at 0. -/
def pieces : (depth : Nat) → List Char → List (List Char)
  | _, [] => [[]]
  | depth, c :: cs =>
    if c = '(' then consHead c (pieces (depth + 1) cs)
    else if c = ')' then consHead c (pieces (depth - 1) cs)
    else if c = ',' ∧ depth = 0 then [] :: pieces depth cs
    else consHead c (pieces depth cs)

/-- Cuts at each comma outside parentheses; the first misplaced parenthesis is a fault. -/
def strictPieces : (inside : Bool) → (column : Nat) → List Char →
    Except ParenthesisFault (List (List Char))
  | false, _, [] => .ok [[]]
  | true, _, [] => .error .unclosed
  | inside, column, c :: cs =>
    if c = '(' then
      if inside then .error (.nested column)
      else (strictPieces true (column + 1) cs).map (consHead c)
    else if c = ')' then
      if inside then (strictPieces false (column + 1) cs).map (consHead c)
      else .error (.unmatched column)
    else if c = ',' ∧ inside = false then
      (strictPieces inside (column + 1) cs).map ([] :: ·)
    else (strictPieces inside (column + 1) cs).map (consHead c)

/-- The pieces that are left when blanks around them are dropped, and blank ones altogether. -/
def tidy (pieces : List (List Char)) : List (List Char) :=
  (pieces.map trim).filter (!·.isEmpty)

/-- The token texts of an architecture, whatever its parentheses. -/
def splitChars (arch : List Char) : List (List Char) := tidy (pieces 0 arch)

/-- The token texts of an architecture whose parentheses are in order. -/
def splitStrictChars (arch : List Char) : Except ParenthesisFault (List (List Char)) :=
  (strictPieces false 0 arch).map tidy

def split (arch : String) : List String := (splitChars arch.toList).map String.ofList

/-- The token texts of an architecture whose parentheses are in order. -/
def splitStrict (arch : String) : Except ParenthesisFault (List String) :=
  (splitStrictChars arch.toList).map (·.map String.ofList)

end TaggerFeatures.Architecture
