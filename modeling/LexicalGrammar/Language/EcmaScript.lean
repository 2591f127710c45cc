import LexicalGrammar.Configuration

namespace LexicalGrammar.EcmaScript

def keywords : List Text := spellings
  ["break", "case", "catch", "class", "const", "continue", "debugger", "default", "delete", "do",
   "else", "export", "extends", "finally", "for", "function", "if", "import", "in", "instanceof",
   "new", "return", "super", "switch", "this", "throw", "try", "typeof", "var", "void", "while",
   "with", "yield", "enum", "implements", "interface", "let", "package", "private", "protected",
   "public", "static", "await"]

def typeKeywords : List Text := spellings
  ["abstract", "as", "asserts", "any", "bigint", "boolean", "declare", "from", "global", "infer",
   "is", "keyof", "module", "namespace", "never", "readonly", "require", "number", "object",
   "string", "symbol", "type", "unique", "unknown"]

def operators : List Text := spellings
  ["+", "-", "*", "/", "%", "**", "++", "--", "=", "+=", "-=", "*=", "/=", "%=", "**=", "&=", "|=",
   "^=", ">>=", ">>>=", "<<=", "==", "!=", "===", "!==", ">", "<", ">=", "<=", "&&", "||", "!",
   "??", "&", "|", "^", "~", ">>", ">>>", "<<", "=>"]

def strings : StringGrammar where
  alternatives := [.quote ['"'], .quote ['\''], .block ['\x60']]

def bigInteger : Suffixes := .integerOnly ['n']

def numbers : NumberGrammar where
  signs := ['+', '-']
  forms :=
    [{ NumericForm.binary with suffixes := bigInteger },
      { NumericForm.octal with suffixes := bigInteger },
      { NumericForm.hexadecimal with suffixes := bigInteger },
      { NumericForm.decimal with fraction := .trailingOrLeading, suffixes := bigInteger }]

def names : IdentifierGrammar where
  head := .ofLetters .unicode ['_', '$']
  body := .alphanumeric .unicode ['_', '$']

def family (name : String) : Declaration where
  name := name
  squareBrackets := true
  curlyBrackets := true
  strings := strings
  numbers := numbers
  comments := { line := some ['/', '/'], block := some .slashStar }
  identifiers := some names
  reservedIdentifiers := keywords
  reservedOperators := operators

def javaScript : Declaration := family "JavaScript"

def typeScript : Declaration := (family "TypeScript").reserveIdentifiers typeKeywords

end LexicalGrammar.EcmaScript
