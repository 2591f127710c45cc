import LexicalGrammar.Configuration

namespace LexicalGrammar

inductive TokenKind where
  | comment
  | character
  | string
  | number
  | keyword
  | identifier
  | operator
  | bracket
  | plain
deriving DecidableEq, Repr

def TokenKind.name : TokenKind → String
  | comment => "comment"
  | character => "character"
  | string => "string"
  | number => "number"
  | keyword => "keyword"
  | identifier => "identifier"
  | operator => "operator"
  | bracket => "bracket"
  | plain => "plain"

structure Token where
  kind : TokenKind
  start : Nat
  text : Text
  closed : Bool
deriving DecidableEq, Repr

def Token.stop (t : Token) : Nat := t.start + width t.text

def Token.span (t : Token) : Span := ⟨t.start, t.stop, t.closed⟩

def Token.shift (n : Nat) (t : Token) : Token := { t with start := t.start + n }

structure Reading where
  kind : TokenKind
  lexeme : Lexeme
deriving DecidableEq, Repr

def Reading.tokenAt (offset : Nat) (r : Reading) : Token :=
  ⟨r.kind, offset, r.lexeme.text, r.lexeme.closed⟩

theorem Reading.start_tokenAt (offset : Nat) (r : Reading) : (r.tokenAt offset).start = offset := rfl

theorem Reading.stop_tokenAt (offset : Nat) (r : Reading) :
    (r.tokenAt offset).stop = offset + width r.lexeme.text := rfl

theorem Reading.shift_tokenAt (offset n : Nat) (r : Reading) :
    (r.tokenAt offset).shift n = r.tokenAt (offset + n) := rfl

inductive Category where
  | comment
  | character
  | string
  | number
  | word
  | operator
  | bracket
  | plain
deriving DecidableEq, Repr

namespace Category

def precedence : List Category :=
  [comment, character, string, number, word, operator, bracket, plain]

def single (p : Char → Bool) : Scanner
  | [] => none
  | c :: rest => if p c then some ⟨[c], true, rest⟩ else none

def scan (c : Configuration) : Category → Scanner
  | comment => c.comments.scan
  | character => fun text => c.characters.bind (·.scan text)
  | string => c.strings.scan
  | number => c.numbers.scan
  | word => c.keywordGrammar.scan
  | operator => c.scanOperator
  | bracket => single c.isBracket
  | plain => single fun _ => true

def kindOfWord (c : Configuration) (word : Text) : TokenKind :=
  if c.isReservedIdentifier word then .keyword
  else if c.identifiers.isSome then .identifier
  else .plain

def kind (c : Configuration) (spelling : Text) : Category → TokenKind
  | comment => .comment
  | character => .character
  | string => .string
  | number => .number
  | word => kindOfWord c spelling
  | operator => .operator
  | bracket => .bracket
  | plain => .plain

def read (c : Configuration) (category : Category) (text : Text) : Option Reading :=
  ((category.scan c text).filter fun l => !l.text.isEmpty).map fun l =>
    ⟨category.kind c l.text, l⟩

theorem faithful_single (p : Char → Bool) : Faithful (single p) := by
  intro text l h
  cases text with
  | nil => simp [single] at h
  | cons c rest =>
      simp only [single] at h
      split at h
      · obtain rfl := Option.some.inj h; rfl
      · simp at h

theorem faithful_scan (c : Configuration) (category : Category) : Faithful (category.scan c) := by
  cases category with
  | comment => exact c.comments.faithful
  | character =>
      intro text l h
      obtain ⟨g, _, hg⟩ := Option.bind_eq_some_iff.mp h
      exact g.faithful text l hg
  | string => exact c.strings.faithful
  | number => exact c.numbers.faithful
  | word => exact c.keywordGrammar.faithful
  | operator => exact c.faithful_scanOperator
  | bracket => exact faithful_single _
  | plain => exact faithful_single _

theorem read_eq_some_iff {c : Configuration} {category : Category} {text : Text} {r : Reading} :
    category.read c text = some r ↔
      category.scan c text = some r.lexeme ∧ r.lexeme.text ≠ []
        ∧ r.kind = category.kind c r.lexeme.text := by
  obtain ⟨kind, l⟩ := r
  simp only [read, Option.map_eq_some_iff, Option.filter_eq_some_iff]
  constructor
  · rintro ⟨m, ⟨hm, hn⟩, he⟩
    obtain ⟨rfl, rfl⟩ := Reading.mk.injEq .. ▸ he
    exact ⟨hm, by simpa using hn, rfl⟩
  · rintro ⟨hm, hn, rfl⟩
    exact ⟨l, ⟨hm, by simpa using hn⟩, rfl⟩

theorem read_plain_cons (config : Configuration) (c : Char) (rest : Text) :
    plain.read config (c :: rest) = some ⟨.plain, [c], true, rest⟩ := rfl

end Category

def Configuration.classify (c : Configuration) (text : Text) : Option Reading :=
  Category.precedence.findSome? fun category => category.read c text

namespace Configuration

theorem whole_of_classify {c : Configuration} {text : Text} {r : Reading}
    (h : c.classify text = some r) : r.lexeme.whole = text := by
  obtain ⟨category, _, hr⟩ := List.exists_of_findSome?_eq_some h
  exact category.faithful_scan c text r.lexeme (Category.read_eq_some_iff.mp hr).1

theorem text_ne_nil_of_classify {c : Configuration} {text : Text} {r : Reading}
    (h : c.classify text = some r) : r.lexeme.text ≠ [] := by
  obtain ⟨category, _, hr⟩ := List.exists_of_findSome?_eq_some h
  exact (Category.read_eq_some_iff.mp hr).2.1

theorem length_rest_lt_of_classify {c : Configuration} {text : Text} {r : Reading}
    (h : c.classify text = some r) : r.lexeme.rest.length < text.length := by
  have hw := whole_of_classify h
  have hn := List.length_pos_iff.mpr (text_ne_nil_of_classify h)
  rw [← hw, Lexeme.whole, List.length_append]
  omega

theorem classify_eq_none_iff {c : Configuration} {text : Text} :
    c.classify text = none ↔ text = [] := by
  constructor
  · intro h
    cases text with
    | nil => rfl
    | cons d rest =>
        have := List.findSome?_eq_none_iff.mp h .plain (by simp [Category.precedence])
        simp [Category.read_plain_cons] at this
  · rintro rfl
    cases h : c.classify [] with
    | none => rfl
    | some r => exact absurd (length_rest_lt_of_classify h) (by simp)

theorem ne_nil_of_classify {c : Configuration} {text : Text} {r : Reading}
    (h : c.classify text = some r) : text ≠ [] := by
  intro hend
  rw [classify_eq_none_iff.mpr hend] at h
  simp at h

end Configuration

end LexicalGrammar
