import LexicalGrammar.Failure
import LexicalGrammar.Language.Basic

namespace LexicalGrammar

inductive Format where
  | text
  | json
deriving DecidableEq, Repr

def Format.name : Format → String
  | text => "text"
  | json => "json"

def Format.ofName? (name : Text) : Option Format :=
  if name = "text".toList then some .text else if name = "json".toList then some .json else none

structure OutputSettings where
  format : Format := .text
  showPlain : Bool := false
deriving DecidableEq, Repr

structure Settings where
  verbose : Bool := false
  defaultLanguage : Option Text := none
  /-- In increasing order of the extensions. -/
  extensions : List (Text × Text) := []
  output : OutputSettings := {}
deriving DecidableEq, Repr

def Language.named (name : Text) : Except Failure Language :=
  match Language.ofName? name with
  | some l => .ok l
  | none => .error (.unknownLanguage name)

namespace Settings

def languageByDefault (s : Settings) : Except Failure (Option Language) :=
  match s.defaultLanguage with
  | some name => some <$> Language.named name
  | none => .ok none

def isEntryOf (ext key : Text) : Bool := foldCase (key.dropWhile (· == '.')) == foldCase ext

def nameOfExtension? (s : Settings) (ext : Text) : Option Text :=
  (s.extensions.find? fun entry => isEntryOf (dropPoint ext) entry.1).map Prod.snd

def languageOfExtension (s : Settings) (ext : Text) : Except Failure (Option Language) :=
  match s.nameOfExtension? ext with
  | some name => some <$> Language.named name
  | none => .ok none

end Settings

end LexicalGrammar
