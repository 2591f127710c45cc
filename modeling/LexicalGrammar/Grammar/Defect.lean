import LexicalGrammar.Number.Form

namespace LexicalGrammar

inductive Part where
  | openingDelimiter
  | closingDelimiter
  | tag
  | lineComment
  | blockComment
deriving DecidableEq, Repr

def Part.name : Part → String
  | openingDelimiter => "opening delimiter"
  | closingDelimiter => "closing delimiter"
  | tag => "literal prefix"
  | lineComment => "single-line comment prefix"
  | blockComment => "block comment delimiter"

inductive Defect where
  | emptyPart (part : Part)
  | shadowedDelimiter (earlier later : Text)
  | shadowedTag (earlier later : Text)
  | shadowedForm (earlier later : NumericForm)
  | emptyReserved (language : String)
  | reservedTwice (language : String) (spelling : Text)
  | notAnIdentifier (language : String) (spelling : Text)
deriving DecidableEq, Repr

def backquoted (text : Text) : String := "`" ++ String.ofList text ++ "`"

def Defect.message : Defect → String
  | emptyPart part => part.name ++ " may not be empty"
  | shadowedDelimiter earlier later =>
      "delimiter " ++ backquoted earlier ++ " is tried before " ++ backquoted later ++ " and shadows it"
  | shadowedTag earlier later =>
      "literal prefix " ++ backquoted earlier ++ " is tried before " ++ backquoted later
        ++ " and shadows it"
  | shadowedForm earlier later =>
      earlier.description ++ " literal is tried before the prefixed " ++ later.description
        ++ " literal and shadows it"
  | emptyReserved language => language ++ ": reserved sets may not contain the empty string"
  | reservedTwice language spelling =>
      language ++ ": " ++ backquoted spelling
        ++ " is both a reserved identifier and a reserved operator"
  | notAnIdentifier language spelling =>
      language ++ ": reserved identifier " ++ backquoted spelling ++ " is not a well-formed identifier"

end LexicalGrammar
