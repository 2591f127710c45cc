import LexicalGrammar.Character.Alphabetic
import LexicalGrammar.Character.Numeric
import LexicalGrammar.Lexeme

namespace LexicalGrammar

inductive Letters where
  | ascii
  | unicode
deriving DecidableEq, Repr

namespace Letters

def isLetter : Letters → Char → Bool
  | ascii, c => c.isAlpha
  | unicode, c => Character.isAlphabetic c

def isDigit : Letters → Char → Bool
  | ascii, c => c.isDigit
  | unicode, c => Character.isNumeric c

end Letters

structure CharSet where
  letters : Letters
  digits : Bool
  extra : List Char
deriving DecidableEq, Repr

namespace CharSet

def ofLetters (letters : Letters) (extra : List Char) : CharSet := ⟨letters, false, extra⟩

def alphanumeric (letters : Letters) (extra : List Char) : CharSet := ⟨letters, true, extra⟩

def contains (set : CharSet) (c : Char) : Bool :=
  set.letters.isLetter c || (set.digits && set.letters.isDigit c) || set.extra.contains c

end CharSet

structure IdentifierGrammar where
  lead : Option Char := none
  head : CharSet
  body : CharSet
deriving DecidableEq, Repr

namespace IdentifierGrammar

def ascii : IdentifierGrammar :=
  { head := .ofLetters .ascii ['_'], body := .alphanumeric .ascii ['_'] }

def unicode : IdentifierGrammar :=
  { head := .ofLetters .unicode ['_'], body := .alphanumeric .unicode ['_'] }

def readLead (g : IdentifierGrammar) : Text → Split := readOne (g.lead == some ·)

def readWord (g : IdentifierGrammar) : Text → Option Split
  | [] => none
  | c :: rest =>
      if g.head.contains c then some ((readWhile g.body.contains rest).following [c]) else none

def scan (g : IdentifierGrammar) (text : Text) : Option Lexeme :=
  let lead := g.readLead text
  (g.readWord lead.rest).map fun word => .ofSplit (word.following lead.taken)

theorem whole_of_readWord {g : IdentifierGrammar} {text : Text} {s : Split}
    (h : g.readWord text = some s) : s.whole = text := by
  cases text with
  | nil => simp [readWord] at h
  | cons c rest =>
      simp only [readWord] at h
      split at h
      · obtain rfl := Option.some.inj h; simp
      · simp at h

theorem taken_ne_nil_of_readWord {g : IdentifierGrammar} {text : Text} {s : Split}
    (h : g.readWord text = some s) : s.taken ≠ [] := by
  cases text with
  | nil => simp [readWord] at h
  | cons c rest =>
      simp only [readWord] at h
      split at h
      · obtain rfl := Option.some.inj h; simp
      · simp at h

theorem faithful (g : IdentifierGrammar) : Faithful g.scan := by
  intro text l h
  obtain ⟨word, hw, rfl⟩ := Option.map_eq_some_iff.mp h
  rw [Lexeme.whole_ofSplit, Split.whole_following, whole_of_readWord hw]
  exact whole_readOne _ _

theorem text_ne_nil_of_scan {g : IdentifierGrammar} {text : Text} {l : Lexeme}
    (h : g.scan text = some l) : l.text ≠ [] := by
  obtain ⟨word, hw, rfl⟩ := Option.map_eq_some_iff.mp h
  simp [Lexeme.ofSplit, taken_ne_nil_of_readWord hw]

end IdentifierGrammar

end LexicalGrammar
