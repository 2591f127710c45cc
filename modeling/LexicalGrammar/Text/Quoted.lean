import LexicalGrammar.Character.GraphemeExtend
import LexicalGrammar.Character.Printable
import LexicalGrammar.Text.Basic

namespace LexicalGrammar.Quoted

def codePoint (c : Char) : Text :=
  ['\\', 'u', '\x7b'] ++ Nat.toDigits 16 c.toNat ++ ['\x7d']

/-- Letters that fill a place and leave no mark. -/
def fillers : List Char := ['\u115f', '\u1160', '\u3164', '\uffa0']

/-- The voicing marks of half width stand beside their letter and can be seen alone. -/
def voicingMarks : List Char := ['\uff9e', '\uff9f']

def isPlain (c : Char) : Bool :=
  Character.isPrintable c && !fillers.contains c
    && (!Character.extendsGrapheme c || voicingMarks.contains c)

def writeChar (c : Char) : Text :=
  match c with
  | '\x00' => ['\\', '0']
  | '\t' => ['\\', 't']
  | '\n' => ['\\', 'n']
  | '\r' => ['\\', 'r']
  | '"' => ['\\', '"']
  | '\\' => ['\\', '\\']
  | c => if isPlain c then [c] else codePoint c

def write (text : Text) : Text := '"' :: text.flatMap writeChar ++ ['"']

end LexicalGrammar.Quoted
