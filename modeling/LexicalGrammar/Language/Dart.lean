import LexicalGrammar.Configuration

namespace LexicalGrammar.Dart

def keywords : List Text := spellings
  ["abstract", "as", "assert", "async", "await", "break", "case", "catch", "class", "const",
   "continue", "covariant", "default", "deferred", "do", "dynamic", "else", "enum", "export",
   "extends", "extension", "external", "factory", "false", "final", "finally", "for", "function",
   "get", "hide", "if", "implements", "import", "in", "interface", "is", "late", "let", "library",
   "mixin", "native", "new", "null", "of", "on", "operator", "part", "required", "rethrow",
   "return", "sealed", "set", "show", "static", "super", "switch", "sync", "this", "throw",
   "true", "try", "typedef", "var", "void", "while", "with", "yield"]

def operators : List Text := spellings
  ["+", "-", "*", "/", "~/", "%", "++", "--", "==", "!=", "<", "<=", ">", ">=", "&&", "||", "!",
   "?", "??", "??=", "&", "|", "^", "~", "<<", ">>", "+=", "-=", "*=", "/=", "~/=", "%=", "&=",
   "|=", "^=", ">>=", "<<="]

def strings : StringGrammar where
  tags := [['r']]
  alternatives :=
    [.block ['"', '"', '"'], .block ['\'', '\'', '\''], .quote ['"'], .quote ['\'']]

def numbers : NumberGrammar where
  signs := ['-']
  forms := [.binary, .hexadecimalFloat, .decimal]

def declaration : Declaration where
  name := "Dart"
  squareBrackets := true
  curlyBrackets := true
  strings := strings
  numbers := numbers
  comments := { line := some ['/', '/'], block := some .slashStar }
  identifiers := some .ascii
  reservedIdentifiers := keywords
  reservedOperators := operators

end LexicalGrammar.Dart
