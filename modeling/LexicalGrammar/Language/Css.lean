import LexicalGrammar.Configuration

namespace LexicalGrammar.Css

def names : IdentifierGrammar where
  lead := some '-'
  head := .ofLetters .ascii ['_']
  body := .alphanumeric .ascii ['_', '-']

def numbers : NumberGrammar where
  signs := ['-']
  forms :=
    [{ NumericForm.decimal with
        separator := none, fraction := .trailingOrLeading, exponent := none }]

def declaration : Declaration where
  name := "CSS"
  squareBrackets := true
  curlyBrackets := true
  strings := .plainQuotes
  numbers := numbers
  comments := { block := some .slashStar }
  identifiers := some names

end LexicalGrammar.Css
