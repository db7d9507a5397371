import TaggerFeatures.Json
import TaggerFeatures.Settings.Files
import TaggerFeatures.Settings.Reader
import TaggerFeatures.TagDictionary
import TaggerFeatures.Text.Quoted
import TaggerFeatures.Text.Utf8

/-!
The settings of a tagger: a file gives the architecture, the separator of words and tags, and the
path of a tag dictionary, which is a JSON file. A dictionary that is not there is empty. What the
settings file holds is told by a reader.
-/
namespace TaggerFeatures

/-- Counts per word and tag, in the order of the dictionary file. -/
abbrev LoadedDictionary := List (String × List (String × Int))

structure Settings where
  arch : String := "left3words"
  tagSeparator : String := "_"
  paths : List (String × String) := []
  dictionary : LoadedDictionary := []

namespace Settings

inductive Error
  | notFound (path : String)
  | isDirectory (path : String)
  | notDirectory (path : String)
  | nameTooLong (path : String)
  | nullByte
  | notText (error : Text.Utf8.Error)
  | unread (refusal : Refusal) (path : String)
  | notMapping (path : String)
  | archKind (path kind : String)
  | pathsKind (path : String)
  | unwritten (cause : Unwritten)
  | json (error : Json.Error) (path : String)
  | dictionaryKind (path : String)
  | countsKind (word path : String)
  | count (error : RawCount.Error)
deriving DecidableEq, Repr

/-- The text of a refusal; a malformed text is reported with the name of the file. -/
def Refusal.message (path : String) : Refusal → String
  | malformed => "Error parsing YAML file at " ++ path ++ ":"
  | ofValue message => message
  | ofType message => message
  | ofIndex message => message
  | other _ message => message

def Unwritten.message : Unwritten → String
  | tooLong => Numeral.unprintable
  | tooDeep => "maximum recursion depth exceeded while getting the repr of an object"

def Error.message : Error → String
  | notFound path => "Configuration file not found at: " ++ path
  | isDirectory path => "[Errno 21] Is a directory: " ++ Text.quoted path
  | notDirectory path => "[Errno 20] Not a directory: " ++ Text.quoted path
  | nameTooLong path => "[Errno 36] File name too long: " ++ Text.quoted path
  | nullByte => "embedded null byte"
  | notText error => error.message
  | unread refusal path => refusal.message path
  | notMapping path => "Configuration file " ++ path ++ " must be a dictionary."
  | archKind path kind => "'arch' in " ++ path ++ " must be a string, not " ++ kind ++ "."
  | pathsKind path => "'paths' in " ++ path ++ " must be a dictionary."
  | unwritten cause => cause.message
  | json .malformed path => "Error decoding JSON from " ++ path ++ ":"
  | json (.tooLong error) _ => error.message
  | json (.tooDeep false) _ =>
    "maximum recursion depth exceeded while decoding a JSON array from a unicode string"
  | json (.tooDeep true) _ =>
    "maximum recursion depth exceeded while decoding a JSON object from a unicode string"
  | dictionaryKind path => "Tag dictionary " ++ path ++ " must map words to tag counts."
  | countsKind word path =>
    "Tag counts for '" ++ word ++ "' in " ++ path ++ " must be a dictionary."
  | count error => error.message

/-! ## Values -/

/-- Puts a pair at the end, or its value at the place of an equal key. -/
def putText (key value : String) : List (String × String) → List (String × String)
  | [] => [(key, value)]
  | (k, v) :: rest => if k = key then (key, value) :: rest else (k, v) :: putText key value rest

section
variable (r : Reader)

def printed (value : r.Value) : Except Error String := (r.written value).mapError .unwritten

/-- The pairs of a mapping in their written forms, behind those that were read. -/
def printedPairs (read : List (String × String)) :
    List (r.Value × r.Value) → Except Error (List (String × String))
  | [] => .ok read
  | (key, value) :: rest => do
    let key ← printed r key
    let value ← printed r value
    printedPairs (putText key value read) rest

/-- The pairs of the root of a settings file; a root without a value has none. -/
def rootPairs (path : String) (root : r.Value) : Except Error (List (r.Value × r.Value)) :=
  match r.view root with
  | .null => .ok []
  | .mapping pairs => .ok pairs
  | _ => .error (.notMapping path)

/-- The architecture, which has to be text if it is given. -/
def readArch (path : String) : Option r.Value → Except Error String
  | none => .ok ({} : Settings).arch
  | some value =>
    match r.view value with
    | .text s => .ok s
    | view => .error (.archKind path view.kindName)

/-- The pairs of the paths, which have to be a mapping unless what is given counts as nothing. -/
def pathPairs (path : String) : Option r.Value → Except Error (List (r.Value × r.Value))
  | none => .ok []
  | some value =>
    if (r.view value).isVoid then .ok []
    else match r.view value with
      | .mapping pairs => .ok pairs
      | _ => .error (.pathsKind path)

def readSeparator : Option r.Value → Except Error String
  | none => .ok ({} : Settings).tagSeparator
  | some value => printed r value

end

/-- What a settings file says: architecture and paths, and the separator or why it has no written
form, which matters after the dictionary only. -/
structure Draft where
  arch : String
  paths : List (String × String)
  separator : Except Error String

/-- The settings in the value of a settings file. -/
def Draft.ofValue (r : Reader) (path : String) (value : r.Value) : Except Error Draft := do
  let root ← rootPairs r path value
  let arch ← readArch r path (r.member? "arch" root)
  let pairs ← pathPairs r path (r.member? "paths" root)
  let paths ← printedPairs r [] pairs
  .ok ⟨arch, paths, readSeparator r (r.member? "tag_separator" root)⟩

/-- The settings with a dictionary. -/
def Draft.complete (draft : Draft) (dictionary : LoadedDictionary) : Except Error Settings :=
  draft.separator.map fun tagSeparator => ⟨draft.arch, tagSeparator, draft.paths, dictionary⟩

def rawCount : Json → RawCount
  | .null => .null
  | .boolean b => .boolean b
  | .integer n => .integer n
  | .real x => .real x
  | .text s => .text s
  | .list _ => .list
  | .object _ => .object

/-- The counts of one word as given, if the value is an object. -/
def rawCounts? : Json → Option (List (String × RawCount))
  | .object tags => some (tags.map fun (tag, n) => (tag, rawCount n))
  | _ => none

/-- The dictionary as given, if the value is an object of objects. -/
def rawDictionary? : Json → Option RawDictionary
  | .object words => words.mapM fun (word, counts) => (rawCounts? counts).map (word, ·)
  | _ => none

def readCounts (path word : String) (value : Json) : Except Error (List (String × Int)) :=
  match rawCounts? value with
  | some counts => (TagDictionary.readCounts counts).mapError .count
  | none => .error (.countsKind word path)

def readDictionary (path : String) : Json → Except Error LoadedDictionary
  | .object words => words.mapM fun (word, counts) =>
      (readCounts path word counts).map (word, ·)
  | _ => .error (.dictionaryKind path)

/-! ## Files -/

/-- Whether a path holds a null character, which no path of a file does. -/
def hasNull (path : String) : Bool := path.toList.contains '\x00'

def readFile (path : String) : Entry → Except Error (List UInt8)
  | .file bytes => .ok bytes
  | .directory => .error (.isDirectory path)
  | .missing => .error (.notFound path)
  | .notDirectory => .error (.notDirectory path)
  | .nameTooLong => .error (.nameTooLong path)

def valueOfFile (r : Reader) (path : String) (entry : Entry) : Except Error r.Value := do
  if hasNull path then throw .nullByte
  let bytes ← readFile path entry
  let text ← (Text.Utf8.decodePortions bytes).mapError .notText
  (r.read (Text.Utf8.unifyBreaks text)).mapError (.unread · path)

def Draft.ofFile (r : Reader) (path : String) (entry : Entry) : Except Error Draft :=
  (valueOfFile r path entry).bind (ofValue r path)

def dictionaryOfBytes (path : String) (bytes : List UInt8) : Except Error LoadedDictionary := do
  let text ← (Text.Utf8.decode bytes).mapError .notText
  let value ← (Json.read text).mapError (.json · path)
  readDictionary path value

/-- The path of the dictionary, if one is named: it goes on from the directory of the settings. -/
def Draft.dictionaryPath? (path : String) (draft : Draft) : Option String :=
  match draft.paths.lookup "dictionary" with
  | none => none
  | some name => if name.isEmpty then none else some ((Path.ofString path).parent.join name).print

/-- The warning for a dictionary that is not there. -/
def missingDictionary (path : String) : String :=
  "Could not load tag dictionary from " ++ path ++ ". Using an empty dictionary."

/-- The result of loading: warnings, and the settings or an error. -/
structure Loading where
  warnings : List String
  outcome : Except Error Settings

/-- Completes settings with the dictionary that they name. -/
def Draft.load (files : FileSystem) (path : String) (draft : Draft) : Loading :=
  match draft.dictionaryPath? path with
  | none => ⟨[], draft.complete []⟩
  | some full =>
    if hasNull full then ⟨[missingDictionary full], draft.complete []⟩
    else match files full with
      | .missing => ⟨[missingDictionary full], draft.complete []⟩
      | .notDirectory => ⟨[missingDictionary full], draft.complete []⟩
      | .directory => ⟨[], .error (.isDirectory full)⟩
      | .nameTooLong => ⟨[], .error (.nameTooLong full)⟩
      | .file bytes => ⟨[], (dictionaryOfBytes full bytes).bind draft.complete⟩

def load (r : Reader) (files : FileSystem) (path : String) : Loading :=
  match Draft.ofFile r path (files path) with
  | .error e => ⟨[], .error e⟩
  | .ok draft => draft.load files path

end Settings
end TaggerFeatures
