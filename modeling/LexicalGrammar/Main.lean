import LexicalGrammar.Command.Run

namespace LexicalGrammar.Program

def readSource (path : Text) : IO (Except ReadError Text) := do
  try
    let bytes ← IO.FS.readBinFile (String.ofList path)
    match String.fromUTF8? bytes with
    | some s => return .ok s.toList
    | none => return .error .notUtf8
  catch e =>
    match e with
    | .noFileOrDirectory .. => return .error .notFound
    | .permissionDenied .. => return .error .denied
    | .inappropriateType _ 20 _ => return .error .notDirectory
    | .invalidArgument _ 36 _ => return .error .nameTooLong
    | _ => return .error .isDirectory

def environment (name : String) : IO (Option Text) := do
  return (← IO.getEnv name).map String.toList

end LexicalGrammar.Program

open LexicalGrammar Program in
def main (arguments : List String) : IO UInt32 := do
  let arguments := arguments.map String.toList
  let given : CommandLine.Variables := {
    verbose := ← environment "LEXAT_VERBOSE"
    noColor := ← environment "LEXAT_NO_COLOR"
    settings := ← environment "LEXAT_CONFIG" }
  let places : Settings.Places := {
    disk := fun _ => .error .notFound
    home := ← environment "HOME"
    configHome := ← environment "XDG_CONFIG_HOME" }
  let files ← (CommandLine.pathsRead given places arguments).mapM fun path => do
    return (path, ← readSource path)
  let disk : Disk := fun path =>
    match files.find? fun file => file.1 == path with
    | some file => file.2
    | none => .error .notFound
  let ending := CommandLine.run given { places with disk := disk } arguments
  IO.print (String.ofList ending.printed)
  if let some complaint := ending.complaint then
    IO.eprintln (String.ofList complaint)
  if ending.exitCode = 2 then
    IO.eprint (String.ofList CommandLine.usage)
  return ending.exitCode.toUInt32
