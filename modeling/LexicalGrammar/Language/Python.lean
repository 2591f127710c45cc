import LexicalGrammar.Configuration

namespace LexicalGrammar.Python

def keywords : List Text := spellings
  ["False", "None", "True", "and", "as", "assert", "async", "await", "break", "class", "continue",
   "def", "del", "elif", "else", "except", "finally", "for", "from", "global", "if", "import",
   "in", "is", "lambda", "nonlocal", "not", "or", "pass", "raise", "return", "try", "while",
   "with", "yield", "match", "case"]

def operators : List Text := spellings
  ["+", "-", "*", "**", "/", "//", "%", "@", "&", "|", "^", "~", "<<", ">>", ":=", "<", ">", "<=",
   ">=", "==", "!="]

def tags : List Text := spellings
  ["rb", "rB", "Rb", "RB", "br", "bR", "Br", "BR", "rf", "rF", "Rf", "RF", "fr", "fR", "Fr", "FR",
   "r", "R", "b", "B", "f", "F", "u", "U"]

def strings : StringGrammar where
  tags := tags
  alternatives :=
    [.block ['"', '"', '"'], .block ['\'', '\'', '\''], .quote ['"'], .quote ['\'']]

def imaginary : Suffixes := .any ['j', 'J'] false

def numbers : NumberGrammar where
  signs := ['+', '-']
  forms :=
    [.binary, .octal, .hexadecimalFloat, { NumericForm.decimal with suffixes := imaginary }]

def declaration : Declaration where
  name := "Python"
  squareBrackets := true
  curlyBrackets := true
  indentationSensitive := true
  strings := strings
  numbers := numbers
  comments := { line := some ['#'] }
  identifiers := some .unicode
  reservedIdentifiers := keywords
  reservedOperators := operators

end LexicalGrammar.Python
