import TaggerFeatures.CommandLine
import TaggerFeatures.Yaml.Reader

/-! The program: reads the files that the settings name, runs the command line and prints. -/
namespace TaggerFeatures.Program

/-- What stands at a path of the file system. Any other error ends the program. -/
def lookAt (path : String) : IO Entry := do
  if Settings.hasNull path then return .missing
  try
    let bytes ← IO.FS.readBinFile path
    return .file bytes.toList
  catch e =>
    match e with
    | .noFileOrDirectory .. => return .missing
    | .inappropriateType _ 20 _ => return .notDirectory
    | .inappropriateType _ 21 _ => return .directory
    | .invalidArgument _ 36 _ => return .nameTooLong
    | _ => throw e

/-- The settings file and the dictionary that it names. -/
def neededFiles (path : String) : IO (List (String × Entry)) := do
  let entry ← lookAt path
  let draft := Settings.Draft.ofFile Yaml.reader path entry
  match draft.toOption.bind (Settings.Draft.dictionaryPath? path) with
  | none => return [(path, entry)]
  | some dictionary => return [(path, entry), (dictionary, ← lookAt dictionary)]

/-- Runs the command line and gives its exit status. -/
def run (arguments : List String) : IO UInt32 := do
  let config := match CommandLine.Reading.ofStrings arguments with
    | .run o => CommandLine.unlessEmpty o.config
    | _ => none
  let files ← match config with
    | some path => neededFiles path
    | none => pure []
  let entries := fun path => (files.lookup path).getD .missing
  let result := CommandLine.outcome Yaml.reader entries arguments
  IO.print result.output
  IO.eprint result.errors
  match result.escaped with
  | some e => IO.eprintln e.message
  | none => pure ()
  return UInt32.ofNat result.exit

end TaggerFeatures.Program

def main (arguments : List String) : IO UInt32 := TaggerFeatures.Program.run arguments
