import LexicalGrammar.Configuration

namespace LexicalGrammar.Html

def names : IdentifierGrammar where
  head := .ofLetters .ascii ['-', '_', ':']
  body := .alphanumeric .ascii ['_', '-', ':', '.']

def blockComment : BlockComment := ⟨['<', '!', '-', '-'], ['-', '-', '>'], false⟩

def declaration : Declaration where
  name := "HTML"
  strings := .plainQuotes
  comments := { block := some blockComment }
  identifiers := some names

end LexicalGrammar.Html
