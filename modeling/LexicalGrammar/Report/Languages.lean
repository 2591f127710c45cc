import LexicalGrammar.Language.Registry
import LexicalGrammar.Report.Document
import LexicalGrammar.Settings.Basic

namespace LexicalGrammar

structure LanguageSummary where
  name : String
  extensions : List String
  squareBrackets : Bool
  curlyBrackets : Bool
  indentationSensitive : Bool
  lineComment : Option Text
  blockComment : Option BlockComment
  characterLiterals : Bool
  reservedIdentifiers : Nat
  reservedOperators : Nat

namespace LanguageSummary

def ofLanguage (l : Language) : LanguageSummary :=
  let c := l.configuration
  { name := c.name
    extensions := l.extensions
    squareBrackets := c.squareBrackets
    curlyBrackets := c.curlyBrackets
    indentationSensitive := c.indentationSensitive
    lineComment := c.comments.line
    blockComment := c.comments.block
    characterLiterals := c.characters.isSome
    reservedIdentifiers := c.reservedIdentifiers.size
    reservedOperators := c.reservedOperators.size }

def all : List LanguageSummary := Language.all.map ofLanguage

def writeBlock (b : BlockComment) : Text :=
  b.opening ++ ' ' :: b.close ++ (if b.nested then " nested".toList else [])

def features (s : LanguageSummary) : List Text :=
  (if s.squareBrackets then [['[', ']']] else [])
    ++ (if s.curlyBrackets then [['\x7b', '\x7d']] else [])
    ++ (if s.indentationSensitive then ["indentation".toList] else [])
    ++ s.lineComment.toList
    ++ (s.blockComment.map writeBlock).toList

def padRight (n : Nat) (t : Text) : Text := t ++ List.replicate (n - t.length) ' '

def padLeft (n : Nat) (t : Text) : Text := List.replicate (n - t.length) ' ' ++ t

def writeLine (s : LanguageSummary) : Text :=
  padRight 12 s.name.toList ++ ' ' :: padRight 16 (", ".intercalate s.extensions).toList
    ++ ' ' :: padLeft 3 (Nat.toDigits 10 s.reservedIdentifiers) ++ " keywords  ".toList
    ++ padLeft 3 (Nat.toDigits 10 s.reservedOperators) ++ " operators  ".toList
    ++ [' ', ' '].intercalate s.features ++ ['\n']

def document (s : LanguageSummary) : Document :=
  .record [
    ("name", .ofString s.name),
    ("extensions", .list (s.extensions.map .ofString)),
    ("square_brackets", .flag s.squareBrackets),
    ("curly_brackets", .flag s.curlyBrackets),
    ("indentation_sensitive", .flag s.indentationSensitive),
    ("line_comment", .ofOption .text s.lineComment),
    ("block_comment", .ofOption (fun b => .list [.text b.opening, .text b.close]) s.blockComment),
    ("nested_comments", .flag (s.blockComment.any BlockComment.nested)),
    ("character_literals", .flag s.characterLiterals),
    ("reserved_identifiers", .number s.reservedIdentifiers),
    ("reserved_operators", .number s.reservedOperators)]

def report (format : Format) (summaries : List LanguageSummary) : Text :=
  match format with
  | .text => summaries.flatMap writeLine
  | .json => (Document.list (summaries.map document)).write 0 ++ ['\n']

end LanguageSummary

end LexicalGrammar
