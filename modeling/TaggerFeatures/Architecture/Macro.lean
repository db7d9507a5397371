import TaggerFeatures.Architecture.Split

/-!
Shorthand architectures. A token that is the name of a macro stands for a fixed list of tokens; a
name inside a longer token is left alone.
-/
namespace TaggerFeatures.Architecture
open Text

inductive Macro
  | left3words
  | left5words
  | generic
  | bidirectional5words
  | bidirectional
deriving DecidableEq, Repr

namespace Macro

def all : List Macro := [left3words, left5words, generic, bidirectional5words, bidirectional]

/-- The token that stands for the macro. -/
def name : Macro → String
  | left3words => "left3words"
  | left5words => "left5words"
  | generic => "generic"
  | bidirectional5words => "bidirectional5words"
  | bidirectional => "bidirectional"

/-- The architecture that the macro stands for. -/
def expansion : Macro → String
  | left3words => "words(-1,1),order(2)"
  | left5words => "words(-2,2),order(2)"
  | generic => "words(-1,1),order(2),biwords(-1,0),wordTag(0,-1)"
  | bidirectional5words =>
    "words(-2,2),order(-2,2),twoTags(-1,1),wordTag(0,-1),wordTag(0,1),biwords(-1,1)"
  | bidirectional =>
    "words(-1,1),order(-2,2),twoTags(-1,1),wordTag(0,-1),wordTag(0,1),biwords(-1,1)"

def ofName? (name : String) : Option Macro := all.find? (·.name == name)

end Macro

/-- A token text, or the expansion of the macro that it names. -/
def expandToken (token : String) : String :=
  match Macro.ofName? token with
  | some shorthand => shorthand.expansion
  | none => token

/-- Replaces each macro token by its expansion, and drops blank tokens and blanks around tokens. -/
def expand (arch : String) : String :=
  String.ofList (join [','] ((split arch).map fun token => (expandToken token).toList))

end TaggerFeatures.Architecture
