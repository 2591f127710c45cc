import LexicalGrammar.Report.Tokens

namespace LexicalGrammar.CommandLine

inductive Level where
  | program
  | languages
  | check
  | tokens
deriving DecidableEq, Repr

def Level.name : Level → String
  | program => "lexat"
  | languages => "languages"
  | check => "check"
  | tokens => "tokens"

def Level.ofName? (name : Text) : Option Level :=
  [languages, check, tokens].find? fun l => l.name.toList == name

inductive Key where
  | verbose
  | settings
  | noColor
  | version
  | help
  | language
  | format
  | showPlain
deriving DecidableEq, Repr

namespace Key

def letter? : Key → Option Char
  | verbose => some 'v'
  | settings => some 'c'
  | noColor => none
  | version => some 'V'
  | help => some 'h'
  | language => some 'l'
  | format => some 'F'
  | showPlain => none

def name : Key → String
  | verbose => "verbose"
  | settings => "config"
  | noColor => "no-color"
  | version => "version"
  | help => "help"
  | language => "language"
  | format => "format"
  | showPlain => "show-plain"

def takesValue : Key → Bool
  | settings | language | format => true
  | _ => false

end Key

def Level.keys : Level → List Key
  | program | check => [.verbose, .settings, .noColor, .version, .help]
  | languages => [.verbose, .settings, .noColor, .version, .help, .format]
  | tokens => [.verbose, .settings, .noColor, .version, .help, .language, .format, .showPlain]

def Level.keyOfLetter? (l : Level) (c : Char) : Option Key := l.keys.find? (·.letter? == some c)

def Level.keyOfName? (l : Level) (name : Text) : Option Key :=
  l.keys.find? (·.name.toList == name)

inductive Word where
  | flag (key : Key)
  | valued (key : Key) (value : Text)
  | detached (key : Key) (value : Text)
  | operand (argument : Text)
  | command (argument : Text) (arguments : List Text)
  | notUnderstood
deriving DecidableEq, Repr

structure Words where
  words : List Word
  pending : Option Key := none

def letters (l : Level) : Text → Words
  | [] => ⟨[], none⟩
  | c :: rest =>
      match l.keyOfLetter? c with
      | none => ⟨[.notUnderstood], none⟩
      | some key =>
          if key.takesValue then
            match rest with
            | [] => ⟨[], some key⟩
            | '=' :: value => ⟨[.valued key value], none⟩
            | value => ⟨[.valued key value], none⟩
          else
            let more := letters l rest
            ⟨.flag key :: more.words, more.pending⟩

def longOption (l : Level) (text : Text) : Words :=
  match l.keyOfName? (text.takeWhile (· != '=')), text.dropWhile (· != '=') with
  | none, _ => ⟨[.notUnderstood], none⟩
  | some key, [] => if key.takesValue then ⟨[], some key⟩ else ⟨[.flag key], none⟩
  | some key, _ :: value =>
      if key.takesValue then ⟨[.valued key value], none⟩ else ⟨[.notUnderstood], none⟩

def isOption : Text → Bool
  | '-' :: _ :: _ => true
  | _ => false

def optionWords (l : Level) : Text → Words
  | '-' :: '-' :: text => longOption l text
  | '-' :: text => letters l text
  | _ => ⟨[.notUnderstood], none⟩

def words (l : Level) : (ended : Bool) → List Text → List Word
  | _, [] => []
  | true, argument :: arguments =>
      if l = .program then [.notUnderstood] else .operand argument :: words l true arguments
  | false, argument :: arguments =>
      if argument = ['-', '-'] then words l true arguments
      else if isOption argument then
        let w := optionWords l argument
        match w.pending, arguments with
        | none, arguments => w.words ++ words l false arguments
        | some _, [] => w.words ++ [.notUnderstood]
        | some key, value :: arguments =>
            if isOption value then w.words ++ [.notUnderstood]
            else w.words ++ .detached key value :: words l false arguments
      else if l = .program then [.command argument arguments]
      else .operand argument :: words l false arguments

structure Call where
  name : Text
  arguments : List Text
  awaiting : Option (Key × Text)
deriving DecidableEq, Repr

structure Given where
  verbose : Bool := false
  noColor : Bool := false
  settings : Option Text := none
  language : Option Text := none
  format : Option Format := none
  showPlain : Bool := false
  operands : List Text := []
deriving DecidableEq, Repr

inductive Refusal where
  | usage
  | version (l : Level)
  | help
deriving DecidableEq, Repr

namespace Given

def flag (l : Level) (g : Given) : Key → Except Refusal Given
  | .verbose => if g.verbose then .error .usage else .ok { g with verbose := true }
  | .noColor => if g.noColor then .error .usage else .ok { g with noColor := true }
  | .showPlain => if g.showPlain then .error .usage else .ok { g with showPlain := true }
  | .version => .error (.version l)
  | .help => .error .help
  | _ => .error .usage

def valued (g : Given) (key : Key) (value : Text) : Except Refusal Given :=
  match key with
  | .settings =>
      if g.settings.isSome || value.isEmpty then .error .usage
      else .ok { g with settings := some value }
  | .language =>
      if g.language.isSome then .error .usage else .ok { g with language := some value }
  | .format =>
      match g.format, Format.ofName? value with
      | none, some f => .ok { g with format := some f }
      | _, _ => .error .usage
  | _ => .error .usage

def operand (l : Level) (g : Given) (argument : Text) : Except Refusal Given :=
  match l with
  | .check => .ok { g with operands := g.operands ++ [argument] }
  | .tokens =>
      if argument.isEmpty then .error .usage
      else .ok { g with operands := g.operands ++ [argument] }
  | _ => .error .usage

def take (l : Level) : Given → List Word → Except Refusal (Given × Option Call)
  | g, [] => .ok (g, none)
  | _, .notUnderstood :: _ => .error .usage
  | g, .command name arguments :: _ => .ok (g, some ⟨name, arguments, none⟩)
  | g, .detached key value :: .command name arguments :: _ =>
      .ok (g, some ⟨name, arguments, some (key, value)⟩)
  | g, .flag key :: words => do (← g.flag l key).take l words
  | g, .valued key value :: words => do (← g.valued key value).take l words
  | g, .detached key value :: words => do (← g.valued key value).take l words
  | g, .operand argument :: words => do (← g.operand l argument).take l words

/-- An option that awaits its command is judged after the arguments of the command. -/
def settle (g : Given) : Option (Key × Text) → Except Refusal Given
  | some (key, value) => g.valued key value
  | none => .ok g

end Given

structure Variables where
  verbose : Option Text := none
  noColor : Option Text := none
  settings : Option Text := none
deriving DecidableEq, Repr

def isTruthValue (value : Text) : Bool := value == "true".toList || value == "false".toList

/-- A variable is looked at only where its option is missing. It has to be a truth value, or a path
that is not empty. -/
def Variables.suit (v : Variables) (g : Given) : Bool :=
  (g.verbose || v.verbose.all isTruthValue)
    && (g.noColor || v.noColor.all isTruthValue)
    && (g.settings.isSome || v.settings.all (!·.isEmpty))

inductive Command where
  | languages (format : Option Format)
  | check (names : List Text)
  | tokens (request : TokensRequest)
deriving DecidableEq, Repr

structure Invocation where
  verbose : Bool
  settings : Option Text
  command : Command
deriving DecidableEq, Repr

def commandOf (l : Level) (g : Given) : Except Refusal Command :=
  match l with
  | .program => .error .usage
  | .languages => .ok (.languages g.format)
  | .check => .ok (.check g.operands)
  | .tokens =>
      if g.operands.isEmpty then .error .usage
      else .ok (.tokens ⟨g.language, g.format, g.showPlain, g.operands⟩)

def helpFor : List Text → Refusal
  | [] => .help
  | [name] => if name == "help".toList || (Level.ofName? name).isSome then .help else .usage
  | _ => .usage

/-- An option of the command itself comes before one of the program, and both come before the
environment. -/
def read (v : Variables) (arguments : List Text) : Except Refusal Invocation := do
  let (program, call) ← Given.take .program {} (words .program false arguments)
  match call with
  | none => .error .usage
  | some call =>
      match Level.ofName? call.name with
      | none => .error (if call.name == "help".toList then helpFor call.arguments else .usage)
      | some l =>
          let (own, _) ← Given.take l {} (words l false call.arguments)
          let program ← program.settle call.awaiting
          let command ← commandOf l own
          if v.suit own && v.suit program then
            return {
              verbose := own.verbose || program.verbose || v.verbose == some "true".toList
              settings := own.settings <|> program.settings <|> v.settings
              command := command }
          else .error .usage

end LexicalGrammar.CommandLine
