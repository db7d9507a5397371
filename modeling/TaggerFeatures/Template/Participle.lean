import TaggerFeatures.Corpus
import TaggerFeatures.TagDictionary

/-!
Participles governed by an auxiliary. The current word has to look like a participle, and an
auxiliary has to stand before it with no conjunction, punctuation or sentence start between them.
-/
namespace TaggerFeatures.Participle

/-- A letter in lower case. The long s counts as `s`; the dotted capital and dotless small I count
as `i`. -/
def fold (c : Char) : Char :=
  if 'A' ≤ c ∧ c ≤ 'Z' then Char.ofNat (c.toNat + 32)
  else if c = '\u017F' then 's'
  else if c = '\u0130' ∨ c = '\u0131' then 'i'
  else c

/-- Conjunctions and punctuation, at which the search for an auxiliary stops. -/
def stoppers : List String := ["and", "or", "but", ",", ";", "-", "--"]

def auxiliaries : List String := [
  "have", "has", "having", "had", "is", "am", "are", "was", "were", "be", "being", "been", "'ve",
  "'s", "s", "'d", "'re", "'m", "gotten", "got", "gets", "get", "getting"]

/-- Whether a word is one of the listed ones, whatever its case. -/
def listed (words : List String) (word : String) : Bool :=
  words.contains (String.ofList (word.toList.map fold))

/-- Whether the search for an auxiliary stops at this word. -/
def isStopper (word : String) : Bool := listed stoppers word

def isAuxiliary (word : String) : Bool := listed auxiliaries word

/-- Whether a word ends like a regular participle. -/
def hasEnding (word : String) : Bool :=
  ['e', 'd'].isSuffixOf word.toList || ['e', 'n'].isSuffixOf word.toList

/-- Whether a word may be a participle: at least half of its counts say so, or it is uncounted and
ends like one. -/
def mayBe (d : TagDictionary) (word : String) : Bool :=
  let total := d.total word
  let participle := d.count word "VBN" + d.count word "VBD"
  !(decide (0 < total) && decide (participle * 2 < total)) && !(total == 0 && !hasEnding word)

/-- Whether an auxiliary is found at `offset` or at most `steps` − 1 words before it. -/
def lookBack (c : Corpus) (h : Cursor) : (steps : Nat) → (offset : Int) →
    Except Corpus.Error Bool
  | 0, _ => .ok false
  | steps + 1, offset =>
    match c.wordAt h offset with
    | .error e => .error e
    | .ok previous =>
      if previous = boundary || isStopper previous then .ok false
      else if isAuxiliary previous then .ok true
      else lookBack c h steps (offset - 1)

/-- Whether the current word may be a participle, and an auxiliary stands at most `bound` words
before it. -/
def governed (bound : Int) (d : TagDictionary) (c : Corpus) (h : Cursor) :
    Except Corpus.Error Bool := do
  let word ← c.wordAt h 0
  if mayBe d word then lookBack c h bound.toNat (-1) else .ok false

end TaggerFeatures.Participle
