import TaggerFeatures.Architecture.Keyword
import TaggerFeatures.Architecture.Macro

/-!
Compiling an architecture into templates, in the order of its tokens. Unknown tokens give a warning
and no template; the first token that fails ends the work, and the warnings before it stay.
-/
namespace TaggerFeatures.Architecture

/-- The result of compiling: the texts of unknown tokens, and the templates or a failure. -/
structure Compilation where
  unknown : List String
  outcome : Except Failure (List Template)

def warning (token : String) : String :=
  "Unrecognized architecture identifier (ignored): " ++ token

def Compilation.warnings (c : Compilation) : List String := c.unknown.map warning

/-- The templates of one token, none for an unknown one. -/
def Token.templates (t : Token) (source : RawDictionary) : Except Failure (List Template) :=
  match t.meaning with
  | .fixed set => .ok set.templates
  | .keyword k =>
    match t.integers with
    | .error e => .error (.ofArgumentError e)
    | .ok arguments => k.templates t.text arguments source
  | .reserved => .ok []
  | .unknown => .ok []

/-- Puts the templates of a token, or its warning, in front of what the tokens after it give. -/
def compileTokens (source : RawDictionary) : List Token → Compilation
  | [] => ⟨[], .ok []⟩
  | t :: rest =>
    match t.templates source with
    | .error e => ⟨[], .error e⟩
    | .ok templates =>
      let after := compileTokens source rest
      ⟨if t.meaning = .unknown then t.text :: after.unknown else after.unknown,
        after.outcome.map (templates ++ ·)⟩

/-- Compiles an architecture in which no macro is expanded. -/
def compileExpanded (arch : String) (source : RawDictionary) : Compilation :=
  match tokenize arch with
  | .error e => ⟨[], .error (.malformed e)⟩
  | .ok tokens => compileTokens source tokens

/-- Expands the macros of an architecture and compiles it. -/
def compile (arch : String) (source : RawDictionary) : Compilation :=
  compileExpanded (expand arch) source

end TaggerFeatures.Architecture
