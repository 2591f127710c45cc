import LexicalGrammar.Number.DigitRun

namespace LexicalGrammar.Toml

abbrev Reader (α : Type) := Text → Option (α × Text)

def isContent (c : Char) : Bool := c == '\t' || (0x20 ≤ c.toNat && c.toNat != 0x7f)

def isBlank (c : Char) : Bool := c == ' ' || c == '\t'

def afterNewLine? : Text → Option Text
  | '\n' :: rest => some rest
  | '\r' :: '\n' :: rest => some rest
  | _ => none

def symbol (c : Char) : Text → Option Text
  | d :: rest => if c = d then some rest else none
  | [] => none

def valueOf (radix : Radix) (run : Text) : Nat :=
  run.foldl (fun n c => (Radix.digitValue? c).elim n fun d => radix.value * n + d) 0

def digits : (n : Nat) → Reader Nat
  | n, text =>
      let run := text.take n
      if run.length = n ∧ run.all Char.isDigit then some (valueOf .decimal run, text.drop n)
      else none

end LexicalGrammar.Toml
