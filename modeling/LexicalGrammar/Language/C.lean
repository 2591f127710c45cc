import LexicalGrammar.Configuration

namespace LexicalGrammar.C

def keywords : List Text := spellings
  ["auto", "break", "case", "char", "const", "continue", "default", "do", "double", "else", "enum",
   "extern", "float", "for", "goto", "if", "inline", "int", "long", "register", "restrict",
   "return", "short", "signed", "sizeof", "static", "struct", "switch", "typedef", "union",
   "unsigned", "void", "volatile", "while", "_Alignas", "_Alignof", "_Atomic", "_Bool",
   "_Complex", "_Generic", "_Imaginary", "_Noreturn", "_Static_assert", "_Thread_local"]

def operators : List Text := spellings
  ["+", "-", "*", "/", "%", "=", "+=", "-=", "*=", "/=", "%=", "++", "--", "<<", ">>", "&", "|",
   "^", "~", "<<=", ">>=", "&=", "|=", "^=", "&&", "||", "!", "==", "!=", ">", "<", ">=", "<=",
   "?", ":"]

def tags : List Text := spellings ["u8", "L", "u", "U"]

def typeSuffixes : Suffixes := .any ['f', 'F', 'l', 'L', 'u', 'U'] true

def numbers : NumberGrammar where
  signs := ['+', '-']
  forms :=
    [{ NumericForm.hexadecimalFloat with strictFloat := false, suffixes := typeSuffixes },
      { NumericForm.legacyOctal with suffixes := typeSuffixes },
      { NumericForm.decimal with suffixes := typeSuffixes }]

def declaration : Declaration where
  name := "C"
  squareBrackets := true
  curlyBrackets := true
  strings := { tags := tags, alternatives := [.quote ['"']] }
  characters := some { tags := tags, alternatives := [.quote ['\'']] }
  numbers := numbers
  comments := { line := some ['/', '/'], block := some .slashStar }
  identifiers := some .ascii
  reservedIdentifiers := keywords
  reservedOperators := operators

end LexicalGrammar.C
