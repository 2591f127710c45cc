import LexicalGrammar.Command.Line
import LexicalGrammar.Report.Check
import LexicalGrammar.Report.Languages
import LexicalGrammar.Settings.Load

namespace LexicalGrammar.CommandLine

structure Outcome where
  printed : Text
  failure : Option Failure := none
deriving DecidableEq, Repr

def Outcome.ofExcept : Except Failure Text → Outcome
  | .ok printed => ⟨printed, none⟩
  | .error failure => ⟨[], some failure⟩

def checkOutcome (names : List Text) : Outcome :=
  match checkLanguages names with
  | .error failure => ⟨[], some failure⟩
  | .ok outcomes => ⟨CheckOutcome.report outcomes, checkFailure? outcomes⟩

def Command.run (settings : Settings) (disk : Disk) : Command → Outcome
  | .languages format =>
      ⟨LanguageSummary.report (format.getD settings.output.format) LanguageSummary.all, none⟩
  | .check names => checkOutcome names
  | .tokens request =>
      .ofExcept ((request.files? settings disk).map (FileTokens.report (request.formatUnder settings)))

def Invocation.run (places : Settings.Places) (i : Invocation) : Outcome :=
  match Settings.find places i.settings with
  | .error failure => ⟨[], some failure⟩
  | .ok settings => i.command.run settings places.disk

def versionNumber : String := "0.0.3"

def versionLine : Level → Text
  | .program => ("lexat " ++ versionNumber ++ "\n").toList
  | l => ("lexat-" ++ l.name ++ " " ++ versionNumber ++ "\n").toList

def usage : Text :=
  ("Usage: lexat [OPTIONS] <COMMAND>\n\n"
    ++ "Commands:\n"
    ++ "  languages  List supported languages\n"
    ++ "  check      Validate language configurations\n"
    ++ "  tokens     Tokenize source files\n\n"
    ++ "Options:\n"
    ++ "  -v, --verbose          Enable verbose output\n"
    ++ "  -c, --config <CONFIG>  Path to configuration file\n"
    ++ "      --no-color         Disable color output\n"
    ++ "  -h, --help             Print help\n"
    ++ "  -V, --version          Print version\n").toList

structure Ending where
  exitCode : Nat
  printed : Text
  complaint : Option Text
deriving DecidableEq, Repr

def Ending.ofOutcome (o : Outcome) : Ending :=
  match o.failure with
  | none => ⟨0, o.printed, none⟩
  | some failure => ⟨1, o.printed, some ("error: " ++ failure.message).toList⟩

def Ending.ofRefusal : Refusal → Ending
  | .usage => ⟨2, [], none⟩
  | .version l => ⟨0, versionLine l, none⟩
  | .help => ⟨0, usage, none⟩

def run (v : Variables) (places : Settings.Places) (arguments : List Text) : Ending :=
  match read v arguments with
  | .error refusal => .ofRefusal refusal
  | .ok invocation => .ofOutcome (invocation.run places)

def pathsRead (v : Variables) (places : Settings.Places) (arguments : List Text) : List Text :=
  match read v arguments with
  | .error _ => []
  | .ok invocation =>
      (match invocation.settings with
        | some path => [path]
        | none => Settings.candidates places)
      ++ (match invocation.command with
        | .tokens request => request.files
        | _ => [])

end LexicalGrammar.CommandLine
