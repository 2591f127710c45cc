import LexicalGrammar.Text.Basic

namespace LexicalGrammar.Path

def splitOn (separator : Char) : Text → List Text
  | [] => [[]]
  | c :: rest =>
      if c = separator then [] :: splitOn separator rest
      else
        match splitOn separator rest with
        | [] => [[c]]
        | part :: parts => (c :: part) :: parts

def components (path : Text) : List Text :=
  (splitOn '/' path).filter fun part => part ≠ [] ∧ part ≠ ['.']

def fileName? (path : Text) : Option Text :=
  (components path).getLast?.filter (· ≠ ['.', '.'])

def afterLastPoint? (name : Text) : Option Text :=
  match name with
  | [] => none
  | c :: rest => (afterLastPoint? rest).or (if c = '.' then some rest else none)

/-- A point at the very start of a name begins no extension. -/
def extensionOfName? : Text → Option Text
  | [] => none
  | _ :: rest => afterLastPoint? rest

def extension? (path : Text) : Option Text := (fileName? path).bind extensionOfName?

end LexicalGrammar.Path
