import LexicalGrammar.Comment
import LexicalGrammar.Identifier
import LexicalGrammar.Number.Grammar
import LexicalGrammar.Operator
import LexicalGrammar.Quotation.Grammar
import LexicalGrammar.Vocabulary

namespace LexicalGrammar

/-- A service is known by its identity; its name is for show. -/
structure Service where
  identity : String
  name : String
deriving DecidableEq, Repr

structure Surface where
  name : String
  squareBrackets : Bool := false
  curlyBrackets : Bool := false
  indentationSensitive : Bool := false
  strings : StringGrammar := {}
  characters : Option StringGrammar := none
  numbers : NumberGrammar := {}
  comments : CommentGrammar := {}
  identifiers : Option IdentifierGrammar := none
  operators : Option OperatorGrammar := none
deriving DecidableEq, Repr

namespace Surface

def keywordGrammar (s : Surface) : IdentifierGrammar := s.identifiers.getD .ascii

def isBracket (s : Surface) (c : Char) : Bool :=
  c == '(' || c == ')'
    || (s.squareBrackets && (c == '[' || c == ']'))
    || (s.curlyBrackets && (c == '\x7b' || c == '\x7d'))

end Surface

structure Declaration extends Surface where
  reservedIdentifiers : List Text := []
  reservedOperators : List Text := []
  service : Option Service := none
deriving DecidableEq, Repr

structure Configuration extends Surface where
  reservedIdentifiers : Vocabulary
  reservedOperators : Vocabulary
  longestOperator : Nat
  service : Option Service
deriving DecidableEq

namespace Declaration

def reserveIdentifiers (d : Declaration) (words : List Text) : Declaration :=
  { d with reservedIdentifiers := d.reservedIdentifiers ++ words }

def reserveOperators (d : Declaration) (words : List Text) : Declaration :=
  { d with reservedOperators := d.reservedOperators ++ words }

def hasEmptyReserved (d : Declaration) : Bool :=
  d.reservedIdentifiers.any List.isEmpty || d.reservedOperators.any List.isEmpty

def reservedTwice? (d : Declaration) : Option Text :=
  d.reservedIdentifiers.find? d.reservedOperators.contains

def notAnIdentifier? (d : Declaration) : Option Text :=
  d.reservedIdentifiers.find? fun word => !accepts d.keywordGrammar.scan word

def defect? (d : Declaration) : Option Defect :=
  d.strings.defect?
    <|> d.characters.bind StringGrammar.defect?
    <|> d.numbers.defect?
    <|> d.comments.defect?
    <|> (if d.hasEmptyReserved then some (.emptyReserved d.name) else none)
    <|> d.reservedTwice?.map (.reservedTwice d.name)
    <|> d.notAnIdentifier?.map (.notAnIdentifier d.name)

theorem defect?_eq_none_iff {d : Declaration} :
    d.defect? = none ↔
      d.strings.defect? = none ∧ (∀ g, d.characters = some g → g.defect? = none)
        ∧ d.numbers.defect? = none ∧ d.comments.defect? = none ∧ d.hasEmptyReserved = false
        ∧ d.reservedTwice? = none ∧ d.notAnIdentifier? = none := by
  simp [defect?]

def configuration (d : Declaration) : Configuration :=
  let operators := Vocabulary.ofList d.reservedOperators
  { toSurface := d.toSurface
    reservedIdentifiers := .ofList d.reservedIdentifiers
    reservedOperators := operators
    longestOperator := operators.widest
    service := d.service }

def build (d : Declaration) : Except Defect Configuration :=
  match d.defect? with
  | some defect => .error defect
  | none => .ok d.configuration

theorem build_eq_ok_iff {d : Declaration} {c : Configuration} :
    d.build = .ok c ↔ d.defect? = none ∧ d.configuration = c := by
  cases h : d.defect? <;> simp [build, h]

theorem build_eq_error_iff {d : Declaration} {defect : Defect} :
    d.build = .error defect ↔ d.defect? = some defect := by
  cases h : d.defect? <;> simp [build, h]

end Declaration

namespace Configuration

def isReservedIdentifier (c : Configuration) (word : Text) : Bool :=
  c.reservedIdentifiers.contains word

def isReservedOperator (c : Configuration) (spelling : Text) : Bool :=
  c.reservedOperators.contains spelling

def scanKeyword (c : Configuration) (text : Text) : Option Lexeme :=
  (c.keywordGrammar.scan text).filter fun l => c.isReservedIdentifier l.text

def scanReservedOperator (c : Configuration) (text : Text) : Option Lexeme :=
  (longestSpelling? c.isReservedOperator c.longestOperator text).map .ofSplit

def scanOperator (c : Configuration) : Scanner :=
  match c.operators with
  | some g => g.scan
  | none => c.scanReservedOperator

def withService (c : Configuration) (service : Service) : Configuration :=
  { c with service := some service }

def sameService : Option Service → Option Service → Bool
  | some a, some b => a.identity == b.identity
  | none, none => true
  | _, _ => false

/-- The width of the widest operator follows from the reserved operators and is not compared. -/
def agrees (a b : Configuration) : Bool :=
  a.toSurface == b.toSurface
    && a.reservedIdentifiers == b.reservedIdentifiers
    && a.reservedOperators == b.reservedOperators
    && sameService a.service b.service

instance : BEq Configuration := ⟨agrees⟩

def probeKeyword (c : Configuration) (text : Text) (offset : Nat) : Option Span :=
  (probe c.keywordGrammar.scan text offset).filter fun s => c.isReservedIdentifier (s.slice text)

def probeReservedOperator (c : Configuration) (text : Text) (offset : Nat) : Option Span :=
  (suffixAt? text offset).bind fun rest =>
    (c.scanReservedOperator rest).map (Lexeme.spanAt offset)

theorem faithful_scanKeyword (c : Configuration) : Faithful c.scanKeyword := fun text l h =>
  c.keywordGrammar.faithful text l (Option.filter_eq_some_iff.mp h).1

theorem faithful_scanReservedOperator (c : Configuration) : Faithful c.scanReservedOperator := by
  intro text l h
  obtain ⟨s, hs, rfl⟩ := Option.map_eq_some_iff.mp h
  exact (of_longestSpelling? hs).2.1

theorem faithful_scanOperator (c : Configuration) : Faithful c.scanOperator := by
  simp only [scanOperator]
  split
  · exact OperatorGrammar.faithful _
  · exact c.faithful_scanReservedOperator

end Configuration

end LexicalGrammar
