import LexicalGrammar.Configuration

namespace LexicalGrammar.Java

def keywords : List Text := spellings
  ["abstract", "assert", "boolean", "break", "byte", "case", "catch", "char", "class", "const",
   "continue", "default", "do", "double", "else", "enum", "extends", "final", "finally", "float",
   "for", "goto", "if", "implements", "import", "instanceof", "int", "interface", "long",
   "native", "new", "package", "private", "protected", "public", "return", "short", "static",
   "strictfp", "super", "switch", "synchronized", "this", "throw", "throws", "transient", "try",
   "void", "volatile", "while"]

def operators : List Text := spellings
  ["=", "==", "===", "!", "!=", "<", "<=", ">", ">=", "++", "--", "+", "-", "*", "/", "%", "+=",
   "-=", "*=", "/=", "%=", "&=", "|=", "^=", "~", ">>", ">>>", "<<", ">>=", ">>>=", "<<=", "&",
   "|", "^", "&&", "||", "??", "?", ":", "->", ".", "::", "=>"]

def decimalSuffixes : Suffixes where
  integer := ['l', 'L', 'f', 'F', 'd', 'D']
  float := ['f', 'F', 'd', 'D']

def numbers : NumberGrammar where
  signs := ['-']
  forms :=
    [{ NumericForm.binary with suffixes := .integerOnly ['l', 'L'] },
      { NumericForm.hexadecimalFloat with suffixes := decimalSuffixes },
      { NumericForm.decimal with suffixes := decimalSuffixes }]

def declaration : Declaration where
  name := "Java"
  squareBrackets := true
  curlyBrackets := true
  strings := { alternatives := [.quote ['"']] }
  characters := some { alternatives := [.quote ['\'']] }
  numbers := numbers
  comments := { line := some ['/', '/'], block := some .slashStar }
  identifiers := some .ascii
  reservedIdentifiers := keywords
  reservedOperators := operators

end LexicalGrammar.Java
