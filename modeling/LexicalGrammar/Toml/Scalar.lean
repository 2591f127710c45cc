import LexicalGrammar.Number.Form
import LexicalGrammar.Toml.Moment

namespace LexicalGrammar.Toml

inductive Scalar where
  | number
  | moment (m : Moment)
deriving DecidableEq, Repr

def isRun (radix : Radix) (t : Text) : Bool :=
  (DigitRun.scan ⟨radix, some '_'⟩ t).any (·.rest.isEmpty)

def integerBound : Nat := Nat.pow 2 63

def isPrefixedInteger (radix : Radix) (run : Text) : Bool :=
  isRun radix run && valueOf radix run < integerBound

def decimalForm : NumericForm := { NumericForm.decimal with leadingZero := .forbidden }

/-- The greatest finite float and half the step after it: what is less does not round to infinity. -/
def floatBound : Nat := (Nat.pow 2 54 - 1) * Nat.pow 2 970

/-- A number that begins before place 309 is less than the bound, and one that begins after it is
greater. -/
def isFinite (unsigned : Text) : Bool :=
  let mantissa := unsigned.takeWhile fun c => c != 'e' && c != 'E'
  let exponent := (unsigned.drop mantissa.length).drop 1
  let fraction := (mantissa.dropWhile (· != '.')).filter Char.isDigit
  let significant := (mantissa.filter Char.isDigit).dropWhile (· == '0')
  let n := valueOf .decimal significant
  let magnitude := valueOf .decimal exponent
  let scale : Int :=
    (if exponent.head? = some '-' then -(magnitude : Int) else magnitude) - fraction.length
  let place := significant.length + scale
  if significant.isEmpty || place < 309 then true
  else if 309 < place then false
  else if 0 ≤ scale then n * Nat.pow 10 scale.toNat < floatBound
  else n < floatBound * Nat.pow 10 (-scale).toNat

def isDecimal (negative : Bool) (unsigned : Text) : Bool :=
  (decimalForm.scan unsigned).any (·.rest.isEmpty)
    && if unsigned.any fun c => c == '.' || c == 'e' || c == 'E' then negative || isFinite unsigned
      else valueOf .decimal unsigned < integerBound + (if negative then 1 else 0)

def isUnsigned (negative : Bool) (unsigned : Text) : Bool :=
  unsigned == "inf".toList || unsigned == "nan".toList || isDecimal negative unsigned

def isNumber : Text → Bool
  | '0' :: 'x' :: run => isPrefixedInteger .hexadecimal run
  | '0' :: 'o' :: run => isPrefixedInteger .octal run
  | '0' :: 'b' :: run => isPrefixedInteger .binary run
  | '+' :: unsigned => isUnsigned false unsigned
  | '-' :: unsigned => isUnsigned true unsigned
  | unsigned => isUnsigned false unsigned

def isScalarChar (c : Char) : Bool :=
  c.isAlphanum || c == '+' || c == '-' || c == '_' || c == '.' || c == ':'

def scalar (text : Text) : Option (Scalar × Text) :=
  let token := text.takeWhile isScalarChar
  let rest := text.dropWhile isScalarChar
  if isNumber token then some (.number, rest)
  else
    match Moment.ofText? token, rest with
    | some (.date d), ' ' :: more =>
        if more.head?.any Char.isDigit then
          (offsetTime? (more.takeWhile isScalarChar)).map fun (t, offset) =>
            (.moment (.dateTime d t offset), more.dropWhile isScalarChar)
        else some (.moment (.date d), rest)
    | some m, _ => some (.moment m, rest)
    | none, _ => none

end LexicalGrammar.Toml
