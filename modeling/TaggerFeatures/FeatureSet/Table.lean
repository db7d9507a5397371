import TaggerFeatures.FeatureSet

/-!
Feature rows and tables: the keys at each place of a tagged corpus, with the tag to be learnt.
-/
namespace TaggerFeatures

/-- The name of the column of tags. -/
def FeatureRow.outcomeColumn : String := "outcome"

/-- A place in a corpus, its keys with the names of their columns, and its tag. -/
structure FeatureRow where
  cursor : Cursor
  columns : List String
  keys : List String
  outcome : String
deriving DecidableEq, Repr

/-- The keys and the tag of a row, each behind the name of its column. -/
def FeatureRow.cells (row : FeatureRow) : List (String × String) :=
  row.columns.zip row.keys ++ [(outcomeColumn, row.outcome)]

/-- The names of all columns, and a row for each place of a corpus. -/
structure FeatureTable where
  columns : List String
  rows : List FeatureRow
deriving DecidableEq, Repr

namespace FeatureSet

/-- The row of a place. The names of the columns come first. -/
def row (s : FeatureSet) (c : Corpus) (h : Cursor) : Except Corpus.Error FeatureRow :=
  match s.columns? with
  | none => .error .unprintable
  | some columns => do
    let keys ← s.keys c h
    let outcome ← c.tagAt h 0
    .ok ⟨h, columns, keys, outcome⟩

/-- The rows of all places, behind the names of the columns. -/
def table (s : FeatureSet) (c : Corpus) : Except Corpus.Error FeatureTable :=
  match s.columns? with
  | none => .error .unprintable
  | some columns => do
    let rows ← c.cursors.mapM (s.row c)
    .ok ⟨["sentence", "position"] ++ columns ++ [FeatureRow.outcomeColumn], rows⟩

end FeatureSet
end TaggerFeatures
