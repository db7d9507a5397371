import TaggerFeatures.Number.Count
import TaggerFeatures.SortedMap

/-! Tag counts per word: as given, and in sorted form. -/
namespace TaggerFeatures

abbrev TagCounts := SortedMap Int

abbrev TagDictionary := SortedMap TagCounts

/-- Counts per word and tag as given, in the order given. -/
abbrev RawDictionary := List (String × List (String × RawCount))

namespace TagDictionary

/-- The counts of one word as integers. The first count that is none is the error. -/
def readCounts (counts : List (String × RawCount)) : Except RawCount.Error (List (String × Int)) :=
  counts.mapM fun (tag, count) => count.toInt.map (tag, ·)

/-- All counts as integers. The first count that is none is the error. -/
def readEntries (raw : RawDictionary) :
    Except RawCount.Error (List (String × List (String × Int))) :=
  raw.mapM fun (word, counts) => (readCounts counts).map (word, ·)

def ofEntries (entries : List (String × List (String × Int))) : TagDictionary :=
  SortedMap.ofList (entries.map fun (word, counts) => (word, SortedMap.ofList counts))

def ofRaw (raw : RawDictionary) : Except RawCount.Error TagDictionary :=
  (readEntries raw).map ofEntries

/-- Integer counts, seen as counts as given. -/
def toRaw (entries : List (String × List (String × Int))) : RawDictionary :=
  entries.map fun (word, counts) => (word, counts.map fun (tag, n) => (tag, .integer n))

/-- The counts of a word, none if the word is unknown. -/
def counts (d : TagDictionary) (word : String) : TagCounts := (d.get? word).getD .empty

/-- All counts of a word together. -/
def total (d : TagDictionary) (word : String) : Int :=
  (d.counts word).values.foldr (· + ·) 0

def count (d : TagDictionary) (word tag : String) : Int := ((d.counts word).get? tag).getD 0

end TagDictionary
end TaggerFeatures
