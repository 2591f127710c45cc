import LexicalGrammar.Failure
import LexicalGrammar.Path

namespace LexicalGrammar

structure StoredFile where
  parts : List Text
  content : Option Text

structure FileTree where
  here : List Text
  files : List StoredFile

namespace FileTree

inductive Entry where
  | absent
  | directory
  | file (content : Option Text)

def holds (tree : FileTree) (parts : List Text) : Bool :=
  parts.isPrefixOf tree.here || tree.files.any fun f => parts.isPrefixOf f.parts

def entry (tree : FileTree) (parts : List Text) : Entry :=
  match tree.files.find? fun f => f.parts == parts with
  | some f => .file f.content
  | none => if tree.holds parts then .directory else .absent

def nameLimit : Nat := 255

def pathLimit : Nat := 4095

def walk (tree : FileTree) (place : List Text) : List Text → Except ReadError (List Text)
  | [] => .ok place
  | part :: parts =>
      match tree.entry place with
      | .absent => .error .notFound
      | .file _ => .error .notDirectory
      | .directory =>
          if part = ['.', '.'] then tree.walk place.dropLast parts
          else if nameLimit < width part then .error .nameTooLong
          else tree.walk (place ++ [part]) parts

def start (tree : FileTree) (path : Text) : List Text :=
  if path.head? = some '/' then [] else tree.here

def namesDirectory (path : Text) : Bool :=
  match (Path.splitOn '/' path).getLast? with
  | some [] | some ['.'] => true
  | _ => false

def read (tree : FileTree) (path : Text) : Except ReadError Text := do
  if path.isEmpty then throw .notFound
  if path.contains '\x00' then throw .nulInPath
  if pathLimit < width path then throw .nameTooLong
  match tree.entry (← tree.walk (tree.start path) (Path.components path)) with
  | .absent => .error .notFound
  | .directory => .error .isDirectory
  | .file content =>
      if namesDirectory path then .error .notDirectory
      else
        match content with
        | some t => .ok t
        | none => .error .notUtf8

end FileTree

end LexicalGrammar
