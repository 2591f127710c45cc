import LexicalGrammar.Language.Basic
import LexicalGrammar.Language.C
import LexicalGrammar.Language.Css
import LexicalGrammar.Language.Dart
import LexicalGrammar.Language.EcmaScript
import LexicalGrammar.Language.Haskell
import LexicalGrammar.Language.Html
import LexicalGrammar.Language.Java
import LexicalGrammar.Language.Json
import LexicalGrammar.Language.Python
import LexicalGrammar.Language.Swift

namespace LexicalGrammar.Language

def declaration : Language → Declaration
  | python => Python.declaration
  | javaScript => EcmaScript.javaScript
  | typeScript => EcmaScript.typeScript
  | c => C.declaration
  | html => Html.declaration
  | css => Css.declaration
  | java => Java.declaration
  | dart => Dart.declaration
  | json => Json.declaration
  | swift => Swift.declaration
  | haskell => Haskell.declaration

def declarationWith (l : Language) (service : Option Service) : Declaration :=
  { l.declaration with service := service }

def configuration (l : Language) : Configuration := l.declaration.configuration

def build (l : Language) (service : Option Service) : Except Defect Configuration :=
  (l.declarationWith service).build

end LexicalGrammar.Language
