import TaggerFeatures.Corpus

/-!
Tagged text: blank-separated items, each a word, a separator and a tag. The separator is the last
one in the item, so a word may hold it.
-/
namespace TaggerFeatures.TaggedText
open Text

inductive Error
  | emptySeparator
  | noTag (item separator : String)
deriving DecidableEq, Repr

def Error.message : Error → String
  | emptySeparator => "empty separator"
  | noTag item separator => "Item '" ++ item ++ "' is not of the form word" ++ separator ++ "tag."

/-- What stands before and after the last place where `separator` occurs. -/
def cutLast (separator : List Char) : List Char → Option (List Char × List Char)
  | [] => none
  | c :: cs =>
    match cutLast separator cs with
    | some (before, after) => some (c :: before, after)
    | none =>
      if separator.isPrefixOf (c :: cs) then some ([], (c :: cs).drop separator.length) else none

def readItem (separator item : List Char) : Except Error (String × String) :=
  if separator.isEmpty then .error .emptySeparator
  else
    match cutLast separator item with
    | some (c :: word, tag) => .ok (String.ofList (c :: word), String.ofList tag)
    | _ => .error (.noTag (String.ofList item) (String.ofList separator))

/-- The words and tags of a text, pair by pair. -/
def read (text separator : String) : Except Error (List (String × String)) :=
  (items text.toList).mapM (readItem separator.toList)

end TaggerFeatures.TaggedText
