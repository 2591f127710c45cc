import LexicalGrammar.Configuration

namespace LexicalGrammar.Haskell

def keywords : List Text := spellings
  ["case", "class", "data", "default", "deriving", "do", "else", "foreign", "if", "import", "in",
   "infix", "infixl", "infixr", "instance", "let", "module", "newtype", "of", "then", "type",
   "where", "_"]

def operators : List Text := spellings
  ["..", ":", "::", "=", "\\", "|", "<-", "->", "@", "~", "=>"]

def symbols : List Char :=
  ['!', '#', '$', '%', '&', '*', '+', '.', '/', '<', '=', '>', '?', '@', '\\', '^', '|', '-', '~',
    ':']

def names : IdentifierGrammar where
  head := .ofLetters .unicode ['_']
  body := .alphanumeric .unicode ['_', '\'']

def numbers : NumberGrammar where
  signs := ['-']
  forms := [.binary, .octal, .hexadecimal, .decimal]

def blockComment : BlockComment := ⟨['\x7b', '-'], ['-', '\x7d'], true⟩

def declaration : Declaration where
  name := "Haskell"
  squareBrackets := true
  curlyBrackets := true
  indentationSensitive := true
  strings := { alternatives := [.quote ['"']] }
  characters := some { alternatives := [.quote ['\'']] }
  numbers := numbers
  comments := { line := some ['-', '-'], block := some blockComment }
  identifiers := some names
  operators := some ⟨symbols⟩
  reservedIdentifiers := keywords
  reservedOperators := operators

end LexicalGrammar.Haskell
