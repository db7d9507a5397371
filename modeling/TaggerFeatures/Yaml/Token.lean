import TaggerFeatures.Yaml.Error

/-! The tokens of a YAML text. -/
namespace TaggerFeatures.Yaml

/-- A line that tells how to read a document. -/
inductive Directive
  | version (major : Int)
  | handle (name replacement : String)
  | other
deriving DecidableEq, Repr

/-- A token. Block tokens are told by the indentation; a failure stands where reading ended. -/
inductive Token
  | documentStart
  | documentEnd
  | directive (d : Directive)
  | streamEnd
  | blockSequenceStart
  | blockMappingStart
  | blockEnd
  | flowSequenceStart
  | flowSequenceEnd
  | flowMappingStart
  | flowMappingEnd
  | blockEntry
  | flowEntry
  | key
  | value
  | reference (name : String)
  | anchor (name : String)
  | tag (handle : Option String) (suffix : String)
  | scalar (text : String) (plain : Bool)
  | failure (error : Error)
deriving DecidableEq, Repr

end TaggerFeatures.Yaml
