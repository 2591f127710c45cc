import LexicalGrammar.Toml.Reader

namespace LexicalGrammar.Toml

def scalar? (digits : Text) : Option Char := do
  let n ← digits.foldlM (fun n c => return 16 * n + (← Radix.digitValue? c)) 0
  if h : n.isValidChar then some (Char.ofNatAux n h) else none

def escaped? : Char → Option Char
  | 'b' => some '\x08'
  | 't' => some '\t'
  | 'n' => some '\n'
  | 'f' => some '\x0c'
  | 'r' => some '\r'
  | '"' => some '"'
  | '\\' => some '\\'
  | _ => none

def push (c : Char) (s : Option (Text × Text)) : Option (Text × Text) :=
  s.map fun (t, rest) => (c :: t, rest)

def basic : Reader Text
  | [] => none
  | '"' :: rest => some ([], rest)
  | '\\' :: 'u' :: a :: b :: c :: d :: rest =>
      (scalar? [a, b, c, d]).bind fun x => push x (basic rest)
  | '\\' :: 'U' :: a :: b :: c :: d :: e :: f :: g :: h :: rest =>
      (scalar? [a, b, c, d, e, f, g, h]).bind fun x => push x (basic rest)
  | '\\' :: c :: rest => (escaped? c).bind fun x => push x (basic rest)
  | c :: rest => if isContent c && c != '\\' then push c (basic rest) else none

def joinsLines (rest : Text) : Bool := (afterNewLine? (rest.dropWhile isBlank)).isSome

/-- Up to two quotes may stand before the closing ones. -/
def multilineBasic : (joining : Bool) → Reader Text
  | _, [] => none
  | _, '"' :: '"' :: '"' :: '"' :: '"' :: rest => some (['"', '"'], rest)
  | _, '"' :: '"' :: '"' :: '"' :: rest => some (['"'], rest)
  | _, '"' :: '"' :: '"' :: rest => some ([], rest)
  | _, '\\' :: 'u' :: a :: b :: c :: d :: rest =>
      (scalar? [a, b, c, d]).bind fun x => push x (multilineBasic false rest)
  | _, '\\' :: 'U' :: a :: b :: c :: d :: e :: f :: g :: h :: rest =>
      (scalar? [a, b, c, d, e, f, g, h]).bind fun x => push x (multilineBasic false rest)
  | _, '\\' :: c :: rest =>
      match escaped? c with
      | some x => push x (multilineBasic false rest)
      | none => if joinsLines (c :: rest) then multilineBasic true (c :: rest) else none
  | joining, '\r' :: '\n' :: rest =>
      if joining then multilineBasic true rest else push '\n' (multilineBasic false rest)
  | joining, c :: rest =>
      if joining && (isBlank c || c == '\n') then multilineBasic true rest
      else if (isContent c && c != '\\') || c == '\n' then push c (multilineBasic false rest)
      else none

def literal : Reader Text
  | [] => none
  | '\'' :: rest => some ([], rest)
  | c :: rest => if isContent c then push c (literal rest) else none

def multilineLiteral : Reader Text
  | [] => none
  | '\'' :: '\'' :: '\'' :: '\'' :: '\'' :: rest => some (['\'', '\''], rest)
  | '\'' :: '\'' :: '\'' :: '\'' :: rest => some (['\''], rest)
  | '\'' :: '\'' :: '\'' :: rest => some ([], rest)
  | '\r' :: '\n' :: rest => push '\n' (multilineLiteral rest)
  | c :: rest => if isContent c || c == '\n' then push c (multilineLiteral rest) else none

def dropNewLine (text : Text) : Text := (afterNewLine? text).getD text

def anyString : Reader Text
  | '"' :: '"' :: '"' :: rest => multilineBasic false (dropNewLine rest)
  | '\'' :: '\'' :: '\'' :: rest => multilineLiteral (dropNewLine rest)
  | '"' :: rest => basic rest
  | '\'' :: rest => literal rest
  | _ => none

end LexicalGrammar.Toml
