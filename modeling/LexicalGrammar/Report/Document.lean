import LexicalGrammar.Text.Basic

namespace LexicalGrammar

inductive Document where
  | null
  | flag (b : Bool)
  | number (n : Nat)
  | text (t : Text)
  | list (items : List Document)
  | record (fields : List (String × Document))

namespace Document

def ofString (s : String) : Document := .text s.toList

def ofOption {α : Type} (write : α → Document) : Option α → Document
  | some a => write a
  | none => .null

def controlCode (c : Char) : Text :=
  let digits := Nat.toDigits 16 c.toNat
  List.replicate (4 - digits.length) '0' ++ digits

def writeChar (c : Char) : Text :=
  match c with
  | '"' => ['\\', '"']
  | '\\' => ['\\', '\\']
  | '\x08' => ['\\', 'b']
  | '\x0c' => ['\\', 'f']
  | '\n' => ['\\', 'n']
  | '\r' => ['\\', 'r']
  | '\t' => ['\\', 't']
  | c => if c.toNat < 0x20 then ['\\', 'u'] ++ controlCode c else [c]

def writeText (t : Text) : Text := '"' :: t.flatMap writeChar ++ ['"']

def newLine (level : Nat) : Text := '\n' :: List.replicate (2 * level) ' '

mutual

def write (level : Nat) : Document → Text
  | .null => "null".toList
  | .flag b => (if b then "true" else "false").toList
  | .number n => Nat.toDigits 10 n
  | .text t => writeText t
  | .list [] => ['[', ']']
  | .list (item :: items) =>
      '[' :: newLine (level + 1) ++ write (level + 1) item ++ writeItems (level + 1) items
        ++ newLine level ++ [']']
  | .record [] => ['\x7b', '\x7d']
  | .record ((name, value) :: fields) =>
      '\x7b' :: newLine (level + 1) ++ writeText name.toList ++ [':', ' ']
        ++ write (level + 1) value ++ writeFields (level + 1) fields ++ newLine level ++ ['\x7d']

def writeItems (level : Nat) : List Document → Text
  | [] => []
  | item :: items => ',' :: newLine level ++ write level item ++ writeItems level items

def writeFields (level : Nat) : List (String × Document) → Text
  | [] => []
  | (name, value) :: fields =>
      ',' :: newLine level ++ writeText name.toList ++ [':', ' '] ++ write level value
        ++ writeFields level fields

end

end Document

end LexicalGrammar
