import LexicalGrammar.Language.Registry
import LexicalGrammar.Settings.Basic

namespace LexicalGrammar

inductive Rejection where
  | invalid (name : String) (defect : Defect)
  | brokenOff (words : Option String)
deriving DecidableEq, Repr

def Rejection.message : Rejection → String
  | invalid name defect => "invalid " ++ name ++ " configuration: " ++ defect.message
  | brokenOff (some words) => words
  | brokenOff none => "configuration factory panicked"

structure CheckOutcome where
  name : String
  rejection : Option Rejection
deriving DecidableEq, Repr

namespace CheckOutcome

def passed (o : CheckOutcome) : Bool := o.rejection.isNone

def ofDeclaration (name : String) (d : Declaration) : CheckOutcome :=
  ⟨name, d.defect?.map (.invalid name)⟩

def ofLanguage (l : Language) : CheckOutcome := ofDeclaration l.name l.declaration

def writeLine (o : CheckOutcome) : Text :=
  match o.rejection with
  | none => "ok    ".toList ++ o.name.toList ++ ['\n']
  | some r => "FAIL  ".toList ++ o.name.toList ++ [':', ' '] ++ r.message.toList ++ ['\n']

def report (outcomes : List CheckOutcome) : Text := outcomes.flatMap writeLine

end CheckOutcome

def languagesNamed (names : List Text) : Except Failure (List Language) :=
  if names.isEmpty then .ok Language.all else names.mapM Language.named

def checkLanguages (names : List Text) : Except Failure (List CheckOutcome) := do
  return (← languagesNamed names).map CheckOutcome.ofLanguage

def checkFailure? (outcomes : List CheckOutcome) : Option Failure :=
  let failed := outcomes.countP (!·.passed)
  if failed = 0 then none else some (.rejected failed outcomes.length)

end LexicalGrammar
