import LexicalGrammar.Proofs.Json.Numeral
import LexicalGrammar.Proofs.Layout

namespace LexicalGrammar.Json

structure Blank where
  text : Text := []
  spaces : ∀ c ∈ text, c ∈ [' ', '\t', '\n', '\r'] := by simp

inductive Mark where
  | beginArray
  | endArray
  | beginObject
  | endObject
  | nameSeparator
  | valueSeparator
deriving DecidableEq, Repr

namespace Mark

def char : Mark → Char
  | beginArray => '['
  | endArray => ']'
  | beginObject => '\x7b'
  | endObject => '\x7d'
  | nameSeparator => ':'
  | valueSeparator => ','

def kind : Mark → TokenKind
  | nameSeparator | valueSeparator => .plain
  | _ => .bracket

end Mark

structure Structural (mark : Mark) where
  before : Blank := {}
  after : Blank := {}

def Structural.pieces {mark : Mark} (s : Structural mark) : List Piece :=
  [.blank s.before.text, .lexeme mark.kind [mark.char], .blank s.after.text]

def IsUnescaped (c : Char) : Prop := ' ' ≤ c ∧ c ≠ '"' ∧ c ≠ '\\'

instance (c : Char) : Decidable (IsUnescaped c) := inferInstanceAs (Decidable (_ ∧ _))

def hexDigits : Text := "0123456789abcdefABCDEF".toList

inductive StringUnit where
  | unescaped (c : Char) (h : IsUnescaped c)
  | escaped (c : Char) (h : c ∈ ['"', '\\', '/', 'b', 'f', 'n', 'r', 't'])
  | codeUnit (digits : Text) (hl : digits.length = 4) (h : ∀ c ∈ digits, c ∈ hexDigits)

def StringUnit.text : StringUnit → Text
  | unescaped c _ => [c]
  | escaped c _ => ['\\', c]
  | codeUnit digits _ _ => '\\' :: 'u' :: digits

structure StringLiteral where
  units : List StringUnit

def StringLiteral.text (s : StringLiteral) : Text := '"' :: (s.units.flatMap StringUnit.text ++ ['"'])

inductive Constant where
  | true
  | false
  | null
deriving DecidableEq, Repr

def Constant.text : Constant → Text
  | true => "true".toList
  | false => "false".toList
  | null => "null".toList

mutual

inductive Value where
  | constant (name : Constant)
  | number (n : Numeral)
  | string (s : StringLiteral)
  | emptyArray (opening : Structural .beginArray) (closing : Structural .endArray)
  | array (opening : Structural .beginArray) (elements : Elements) (closing : Structural .endArray)
  | emptyObject (opening : Structural .beginObject) (closing : Structural .endObject)
  | object (opening : Structural .beginObject) (members : Members) (closing : Structural .endObject)

inductive Elements where
  | one (value : Value)
  | cons (value : Value) (separator : Structural .valueSeparator) (others : Elements)

inductive Member where
  | mk (name : StringLiteral) (separator : Structural .nameSeparator) (value : Value)

inductive Members where
  | one (member : Member)
  | cons (member : Member) (separator : Structural .valueSeparator) (others : Members)

end

mutual

def Value.pieces : Value → List Piece
  | .constant name => [.lexeme .keyword name.text]
  | .number n => [.lexeme .number n.text]
  | .string s => [.lexeme .string s.text]
  | .emptyArray opening closing => opening.pieces ++ closing.pieces
  | .array opening elements closing => opening.pieces ++ (elements.pieces ++ closing.pieces)
  | .emptyObject opening closing => opening.pieces ++ closing.pieces
  | .object opening members closing => opening.pieces ++ (members.pieces ++ closing.pieces)

def Elements.pieces : Elements → List Piece
  | .one value => value.pieces
  | .cons value separator others => value.pieces ++ (separator.pieces ++ others.pieces)

def Member.pieces : Member → List Piece
  | .mk name separator value => .lexeme .string name.text :: (separator.pieces ++ value.pieces)

def Members.pieces : Members → List Piece
  | .one member => member.pieces
  | .cons member separator others => member.pieces ++ (separator.pieces ++ others.pieces)

end

structure Document where
  before : Blank := {}
  value : Value
  after : Blank := {}

namespace Document

def pieces (d : Document) : List Piece :=
  .blank d.before.text :: (d.value.pieces ++ [.blank d.after.text])

def text (d : Document) : Text := spell d.pieces

def tokens (d : Document) : List Token := tokensFrom 0 d.pieces

end Document

end LexicalGrammar.Json
