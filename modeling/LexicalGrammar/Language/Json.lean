import LexicalGrammar.Configuration

namespace LexicalGrammar.Json

def keywords : List Text := spellings ["true", "false", "null"]

def quote : Delimiter := ⟨['"'], { close := ['"'], escape := some .backslashPaired }⟩

def numbers : NumberGrammar where
  signs := ['-']
  forms :=
    [{ NumericForm.decimal with
        separator := none, leadingZero := .forbidden, exponent := some ⟨['e', 'E'], true, none⟩ }]

def declaration : Declaration where
  name := "JSON"
  squareBrackets := true
  curlyBrackets := true
  strings := { alternatives := [quote] }
  numbers := numbers
  reservedIdentifiers := keywords

end LexicalGrammar.Json
