import LexicalGrammar.Toml.Quoted
import LexicalGrammar.Toml.Table

namespace LexicalGrammar.Toml

def skipBlanks (text : Text) : Text := text.dropWhile isBlank

def skipLines : (inComment : Bool) → Text → Option Text
  | _, [] => some []
  | _, '\n' :: rest => skipLines false rest
  | _, '\r' :: '\n' :: rest => skipLines false rest
  | true, c :: rest => if isContent c then skipLines true rest else none
  | false, '#' :: rest => skipLines true rest
  | false, c :: rest => if isBlank c then skipLines false rest else some (c :: rest)

def afterLine? (text : Text) : Option Text :=
  let rest :=
    match skipBlanks text with
    | '#' :: comment => comment.dropWhile isContent
    | rest => rest
  if rest.isEmpty then some [] else afterNewLine? rest

def isBareKey (c : Char) : Bool := c.isAlphanum || c == '_' || c == '-'

def simpleKey : Reader Text
  | '"' :: rest => basic rest
  | '\'' :: rest => literal rest
  | text =>
      let key := text.takeWhile isBareKey
      if key.isEmpty then none else some (key, text.drop key.length)

structure KeyPath where
  path : List Text
  key : Text

def keyParts (text : Text) : Option (KeyPath × Text) := do
  let (key, rest) ← simpleKey (skipBlanks text)
  match skipBlanks rest with
  | '.' :: more =>
      if more.length < text.length then
        let (k, rest) ← keyParts more
        return (⟨key :: k.path, k.key⟩, rest)
      else none
  | rest => return (⟨[], key⟩, rest)
termination_by text.length

/-- How deep arrays and tables in braces may stand in one another, and how many parts a key may
have. -/
def depthLimit : Nat := 79

def keyPath (text : Text) : Option (KeyPath × Text) := do
  let (k, rest) ← keyParts text
  if k.path.length < depthLimit then some (k, rest) else none

def keyValue (value : Reader Node) (text : Text) : Option ((KeyPath × Node) × Text) := do
  let (k, rest) ← keyPath text
  let (v, rest) ← value (skipBlanks (← symbol '=' rest))
  return ((k, v), rest)

def arrayItems (value : Reader Node) (text : Text) : Option (List Node × Text) := do
  let here ← skipLines false text
  match here with
  | ']' :: rest => return ([], rest)
  | _ =>
      let (item, rest) ← value here
      match ← skipLines false rest with
      | ']' :: rest => return ([item], rest)
      | ',' :: rest =>
          if rest.length < text.length then
            let (items, rest) ← arrayItems value rest
            return (item :: items, rest)
          else none
      | _ => none
termination_by text.length

def braceFields (value : Reader Node) (table : Node) (text : Text) : Option (Node × Text) := do
  let ((k, v), rest) ← keyValue value text
  let table ← Node.addKey k.path k.key v table
  match skipBlanks rest with
  | '\x7d' :: rest => return (table, rest)
  | ',' :: rest =>
      if rest.length < text.length then braceFields value table rest else none
  | _ => none
termination_by text.length

def value : (depth : Nat) → Reader Node
  | _, '"' :: rest => (anyString ('"' :: rest)).map fun (t, rest) => (.text t, rest)
  | _, '\'' :: rest => (anyString ('\'' :: rest)).map fun (t, rest) => (.text t, rest)
  | _, 't' :: 'r' :: 'u' :: 'e' :: rest => some (.flag true, rest)
  | _, 'f' :: 'a' :: 'l' :: 's' :: 'e' :: rest => some (.flag false, rest)
  | depth + 1, '[' :: rest =>
      (arrayItems (value depth) rest).map fun (items, rest) => (.array items, rest)
  | depth + 1, '\x7b' :: rest =>
      match skipBlanks rest with
      | '\x7d' :: rest => some (.empty .braces, rest)
      | rest => braceFields (value depth) (.empty .braces) rest
  | _, text => (scalar text).map fun (s, rest) => (.ofScalar s, rest)

structure Draft where
  root : Node
  header : List Text

namespace Draft

def start : Draft := ⟨.empty .header, []⟩

def add (d : Draft) (k : KeyPath) (v : Node) : Option Draft := do
  return { d with root := ← Node.within false (Node.addKey k.path k.key v) d.header d.root }

def openWith (make : Text → Node → Option Node) (d : Draft) (k : KeyPath) : Option Draft := do
  return ⟨← Node.within false (make k.key) k.path d.root, k.path ++ [k.key]⟩

end Draft

def statement (d : Draft) : Text → Option (Draft × Text)
  | '[' :: '[' :: rest => do
      let (k, rest) ← keyPath rest
      let rest ← symbol ']' (← symbol ']' rest)
      return (← d.openWith Node.openNext k, rest)
  | '[' :: rest => do
      let (k, rest) ← keyPath rest
      let rest ← symbol ']' rest
      return (← d.openWith Node.openTable k, rest)
  | text => do
      let ((k, v), rest) ← keyValue (value depthLimit) text
      return (← d.add k v, rest)

def statements (d : Draft) (text : Text) : Option Draft := do
  match ← skipLines false text with
  | [] => return d
  | here =>
      let (d, rest) ← statement d here
      let rest ← afterLine? rest
      if rest.length < text.length then statements d rest else none
termination_by text.length

def read? (text : Text) : Option Datum :=
  let text := match text with
    | '\ufeff' :: rest => rest
    | text => text
  (statements .start text).map fun d => d.root.toDatum

end LexicalGrammar.Toml

namespace LexicalGrammar.Settings

def ofToml? (text : Text) : Option Settings := (Toml.read? text).bind (Datum.settings? .toml)

end LexicalGrammar.Settings
