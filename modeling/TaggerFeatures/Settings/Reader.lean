/-!
Readers of settings files. What such a file holds is known through a reader only: it gives a value
or refuses the text, and tells of each value what it is and how it is written.
-/
namespace TaggerFeatures.Settings

/-- Why a reader gives no value: the text is malformed, or the reader ends with an error of its own,
about a value, its type, an index or something else. -/
inductive Refusal
  | malformed
  | ofValue (message : String)
  | ofType (message : String)
  | ofIndex (message : String)
  | other (kind message : String)
deriving DecidableEq, Repr

/-- Why a value has no written form: an integer in it has too many digits, or it is nested too
deep. -/
inductive Unwritten
  | tooLong
  | tooDeep
deriving DecidableEq, Repr

/-- What a value is. Of all but text and mappings the name of the kind is known, and whether it
counts as nothing. -/
inductive View (Value : Type)
  | null
  | text (s : String)
  | mapping (pairs : List (Value × Value))
  | other (kind : String) (isVoid : Bool)

namespace View

variable {Value : Type}

def kindName : View Value → String
  | null => "NoneType"
  | text _ => "str"
  | mapping _ => "dict"
  | other kind _ => kind

/-- Whether a value counts as nothing: an empty text or mapping does. -/
def isVoid : View Value → Bool
  | null => true
  | text s => s.isEmpty
  | mapping pairs => pairs.isEmpty
  | other _ isVoid => isVoid

end View

/-- A reader: the values that texts may have, and what can be told of them. -/
structure Reader where
  Value : Type
  read : List Char → Except Refusal Value
  view : Value → View Value
  /-- The written form of a value that is no text. -/
  write : Value → Except Unwritten String

namespace Reader

variable (r : Reader)

/-- The written form of a value. Text is written as it is. -/
def written (value : r.Value) : Except Unwritten String :=
  match r.view value with
  | .text s => .ok s
  | _ => r.write value

/-- Whether a value is this text. -/
def isText (name : String) (value : r.Value) : Bool :=
  match r.view value with
  | .text s => s == name
  | _ => false

/-- The value under a name. -/
def member? (name : String) (pairs : List (r.Value × r.Value)) : Option r.Value :=
  (pairs.find? fun (key, _) => r.isText name key).map (·.2)

end Reader
end TaggerFeatures.Settings
