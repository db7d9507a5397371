import TaggerFeatures.Architecture.Compile
import TaggerFeatures.CommandLine.Options
import TaggerFeatures.Corpus.TaggedText
import TaggerFeatures.FeatureSet.Listing
import TaggerFeatures.Settings

/-!
The command line: it lists the templates of an architecture and, for a tagged sentence, the keys at
each position. An error is reported behind what was printed before it.
-/
namespace TaggerFeatures.CommandLine

inductive Failure
  | settings (error : Settings.Error)
  | architecture (error : Architecture.Failure)
  | tagged (error : TaggedText.Error)
  | corpus (error : Corpus.Error)
  | unprintable
deriving DecidableEq, Repr

def Failure.message : Failure → String
  | settings error => error.message
  | architecture error => error.message
  | tagged error => error.message
  | corpus error => error.message
  | unprintable => Numeral.unprintable

/-- Whether a failure is reported by the run; others end it. -/
def Failure.isReported : Failure → Bool
  | settings (.isDirectory _) => false
  | settings (.notDirectory _) => false
  | settings (.nameTooLong _) => false
  | settings (.unread (.other _ _) _) => false
  | settings (.unwritten .tooDeep) => false
  | settings (.json (.tooDeep _) _) => false
  | settings (.count .infinite) => false
  | architecture (.count .infinite) => false
  | _ => true

/-- What a run prints, what it warns of, and why it fails if it does. -/
structure Run where
  printed : List String := []
  warnings : List String := []
  failure : Option Failure := none

/-- Goes on after printing lines. -/
def Run.after (lines : List String) (r : Run) : Run := { r with printed := lines ++ r.printed }

/-- Goes on after warnings. -/
def Run.warned (warnings : List String) (r : Run) : Run :=
  { r with warnings := warnings ++ r.warnings }

def Run.fail (e : Failure) : Run := { failure := some e }

/-- The keys at each position of a tagged sentence, behind an empty line. A sentence without items
gives one more empty line. -/
def describeSentence (features : FeatureSet) (sentence separator : String) : Run :=
  match TaggedText.read sentence separator with
  | .error e => .fail (.tagged e)
  | .ok pairs =>
    match Corpus.empty.add (pairs.map (·.1)) (some (pairs.map fun pair => some pair.2)) with
    | .error e => .fail (.corpus e)
    | .ok (_, corpus) =>
      match features.featureLines corpus with
      | .error e => Run.after [""] (.fail (.corpus e))
      | .ok lines => { printed := "" :: if lines.isEmpty then [""] else lines }

def announcement (arch : String) : String := "Compiling architecture '" ++ arch ++ "'..."

/-- The templates of an architecture and, if there is a sentence, its keys. -/
def describe (settings : Settings) (arch : String) (sentence separator : Option String) : Run :=
  let compilation := Architecture.compile arch (TagDictionary.toRaw settings.dictionary)
  Run.after [announcement arch] <| Run.warned compilation.warnings <|
    match compilation.outcome with
    | .error e => .fail (.architecture e)
    | .ok templates =>
      let features : FeatureSet := ⟨templates⟩
      match features.templateLines? with
      | none => .fail .unprintable
      | some lines =>
        Run.after lines <|
          match sentence with
          | none => {}
          | some sentence =>
            describeSentence features sentence (separator.getD settings.tagSeparator)

/-- Runs with settings. An architecture on the command line has precedence. -/
def runWith (settings : Settings) (o : Options) : Run :=
  describe settings (o.arch.getD settings.arch) (unlessEmpty o.sentence) (unlessEmpty o.separator)

def run (reader : Settings.Reader) (files : FileSystem) (o : Options) : Run :=
  match unlessEmpty o.config with
  | none => runWith {} o
  | some path =>
    Run.after ["Loading configuration from " ++ path ++ "..."] <|
      let loading := Settings.load reader files path
      Run.warned loading.warnings <|
        match loading.outcome with
        | .error e => .fail (.settings e)
        | .ok settings => runWith settings o

/-- The exit status, the text for each channel, and a failure that was not reported. -/
structure Outcome where
  exit : Nat
  output : String := ""
  errors : String := ""
  escaped : Option Failure := none

def textOf (lines : List String) : String := lines.foldl (fun text line => text ++ line ++ "\n") ""

def Run.outcome (r : Run) : Outcome :=
  match r.failure with
  | none => { exit := 0, output := textOf r.printed, errors := textOf r.warnings }
  | some e =>
    let report := if e.isReported then ["\nError: " ++ e.message] else []
    { exit := 1, output := textOf r.printed, errors := textOf (r.warnings ++ report)
      escaped := if e.isReported then none else some e }

def outcome (reader : Settings.Reader) (files : FileSystem) (arguments : List String) : Outcome :=
  match Reading.ofStrings arguments with
  | .rejected => { exit := 2 }
  | .help => { exit := 0 }
  | .run o => (run reader files o).outcome

end TaggerFeatures.CommandLine
