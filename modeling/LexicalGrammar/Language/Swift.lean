import LexicalGrammar.Configuration

namespace LexicalGrammar.Swift

def keywords : List Text := spellings
  ["actor", "associatedtype", "class", "deinit", "enum", "extension", "fileprivate", "func",
   "import", "init", "inout", "internal", "let", "open", "operator", "private", "precedencegroup",
   "protocol", "public", "rethrows", "static", "struct", "subscript", "typealias", "var", "break",
   "case", "catch", "continue", "default", "defer", "do", "else", "fallthrough", "for", "guard",
   "if", "in", "repeat", "return", "switch", "throw", "where", "while", "Any", "as", "async",
   "await", "false", "is", "nil", "self", "Self", "super", "throws", "true", "try"]

def operators : List Text := spellings
  ["=", "+", "-", "*", "/", "%", "==", "!=", "===", "!==", "<", ">", "<=", ">=", "&&", "||", "!",
   "&", "|", "^", "~", "<<", ">>", "+=", "-=", "*=", "/=", "%=", "&=", "|=", "^=", "<<=", ">>=",
   "??", "?", "...", "..<", "->"]

def symbols : List Char :=
  ['/', '=', '-', '+', '!', '*', '%', '<', '>', '&', '|', '^', '~', '?', '.']

def rawQuote : Delimiter := ⟨['#', '"'], { close := ['"', '#'] }⟩

def strings : StringGrammar where
  alternatives := [.block ['"', '"', '"'], rawQuote, .quote ['"']]

def numbers : NumberGrammar where
  signs := ['+', '-']
  forms := [.binary, .octal, .hexadecimalFloat, .decimal]

def comments : CommentGrammar where
  line := some ['/', '/']
  block := some { BlockComment.slashStar with nested := true }

def declaration : Declaration where
  name := "Swift"
  squareBrackets := true
  curlyBrackets := true
  strings := strings
  numbers := numbers
  comments := comments
  identifiers := some .unicode
  operators := some ⟨symbols⟩
  reservedIdentifiers := keywords
  reservedOperators := operators

end LexicalGrammar.Swift
