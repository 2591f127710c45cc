import LexicalGrammar.Text.Basic

namespace LexicalGrammar

inductive ReadError where
  | notFound
  | isDirectory
  | notDirectory
  | denied
  | nameTooLong
  | nulInPath
  | notUtf8
deriving DecidableEq, Repr

def ReadError.message : ReadError → String
  | notFound => "No such file or directory (os error 2)"
  | isDirectory => "Is a directory (os error 21)"
  | notDirectory => "Not a directory (os error 20)"
  | denied => "Permission denied (os error 13)"
  | nameTooLong => "File name too long (os error 36)"
  | nulInPath => "file name contained an unexpected NUL byte"
  | notUtf8 => "stream did not contain valid UTF-8"

inductive Failure where
  | settingsNotFound (path : Text)
  | settingsMalformed
  | settingsUnreadable (cause : ReadError)
  | unknownLanguage (name : Text)
  | unreadable (path : Text) (cause : ReadError)
  | noInputFiles
  | undetermined (path : Text)
  | rejected (failed total : Nat)
deriving DecidableEq, Repr

def Failure.message : Failure → String
  | settingsNotFound path =>
      "Configuration error: Configuration file not found: " ++ String.ofList path
  | settingsMalformed => "Configuration error: Failed to parse configuration"
  | settingsUnreadable cause => "IO error: " ++ cause.message
  | unknownLanguage name => "unknown language: " ++ String.ofList name
  | unreadable path cause =>
      "File operation failed: " ++ String.ofList path ++ ": " ++ cause.message
  | noInputFiles => "Validation error: no input files"
  | undetermined path =>
      "Validation error: cannot determine the language of " ++ String.ofList path
        ++ "; pass --language"
  | rejected failed total =>
      "Validation error: " ++ toString failed ++ " of " ++ toString total
        ++ " configuration(s) failed"

abbrev Disk := Text → Except ReadError Text

def Disk.exists (disk : Disk) (path : Text) : Bool :=
  match disk path with
  | .error .notFound | .error .notDirectory | .error .nameTooLong | .error .nulInPath => false
  | _ => true

end LexicalGrammar
