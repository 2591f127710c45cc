import LexicalGrammar.Character.WhiteSpace
import LexicalGrammar.Text.Basic

namespace LexicalGrammar

def foldCase (text : Text) : Text := text.map Char.toLower

def trim (text : Text) : Text :=
  (((text.dropWhile Character.isWhiteSpace).reverse).dropWhile Character.isWhiteSpace).reverse

def dropPoint : Text → Text
  | '.' :: rest => rest
  | text => text

inductive Language where
  | python
  | javaScript
  | typeScript
  | c
  | html
  | css
  | java
  | dart
  | json
  | swift
  | haskell
deriving DecidableEq, Repr

namespace Language

def all : List Language :=
  [python, javaScript, typeScript, c, html, css, java, dart, json, swift, haskell]

theorem mem_all (l : Language) : l ∈ all := by cases l <;> decide

def name : Language → String
  | python => "Python"
  | javaScript => "JavaScript"
  | typeScript => "TypeScript"
  | c => "C"
  | html => "HTML"
  | css => "CSS"
  | java => "Java"
  | dart => "Dart"
  | json => "JSON"
  | swift => "Swift"
  | haskell => "Haskell"

def aliases : Language → List String
  | python => ["py"]
  | javaScript => ["js"]
  | typeScript => ["ts"]
  | haskell => ["hs"]
  | _ => []

def extensions : Language → List String
  | python => ["py", "pyi"]
  | javaScript => ["js", "mjs", "cjs"]
  | typeScript => ["ts", "tsx"]
  | c => ["c", "h"]
  | html => ["html", "htm"]
  | css => ["css"]
  | java => ["java"]
  | dart => ["dart"]
  | json => ["json"]
  | swift => ["swift"]
  | haskell => ["hs"]

def hasName (folded : Text) (l : Language) : Bool :=
  (l.name :: l.aliases).any fun name => foldCase name.toList == folded

def hasExtension (folded : Text) (l : Language) : Bool :=
  l.extensions.any fun ext => foldCase ext.toList == folded

def ofName? (name : Text) : Option Language := all.find? (hasName (foldCase (trim name)))

def ofExtension? (ext : Text) : Option Language :=
  all.find? (hasExtension (foldCase (dropPoint ext)))

end Language

end LexicalGrammar
