import LexicalGrammar.Cursor

namespace LexicalGrammar

/-- A string or a block comment that runs out of input is not closed. -/
structure Lexeme where
  text : Text
  closed : Bool
  rest : Text
deriving DecidableEq, Repr

namespace Lexeme

def whole (l : Lexeme) : Text := l.text ++ l.rest

def following (front : Text) (l : Lexeme) : Lexeme := { l with text := front ++ l.text }

@[simp] theorem whole_following (front : Text) (l : Lexeme) :
    (l.following front).whole = front ++ l.whole := by
  simp [whole, following]

@[simp] theorem text_following (front : Text) (l : Lexeme) :
    (l.following front).text = front ++ l.text := rfl

@[simp] theorem closed_following (front : Text) (l : Lexeme) :
    (l.following front).closed = l.closed := rfl

@[simp] theorem rest_following (front : Text) (l : Lexeme) :
    (l.following front).rest = l.rest := rfl

def ofSplit (s : Split) : Lexeme := ⟨s.taken, true, s.rest⟩

@[simp] theorem whole_ofSplit (s : Split) : (ofSplit s).whole = s.whole := rfl

end Lexeme

abbrev Scanner := Text → Option Lexeme

def Faithful (scan : Scanner) : Prop := ∀ text l, scan text = some l → l.whole = text

structure Span where
  start : Nat
  stop : Nat
  closed : Bool
deriving DecidableEq, Repr

namespace Span

def shift (n : Nat) (s : Span) : Span := { s with start := s.start + n, stop := s.stop + n }

def size (s : Span) : Nat := s.stop - s.start

def slice (text : Text) (s : Span) : Text :=
  match suffixAt? text s.start, suffixAt? text s.stop with
  | some tail, some rest => tail.take (tail.length - rest.length)
  | _, _ => []

end Span

namespace Lexeme

def spanAt (offset : Nat) (l : Lexeme) : Span := ⟨offset, offset + width l.text, l.closed⟩

theorem spanAt_shift (offset n : Nat) (l : Lexeme) :
    (l.spanAt offset).shift n = l.spanAt (offset + n) := by
  simp [spanAt, Span.shift, Nat.add_right_comm]

theorem slice_spanAt (front : Text) (l : Lexeme) :
    (l.spanAt (width front)).slice (front ++ l.whole) = l.text := by
  have h : suffixAt? (front ++ (l.text ++ l.rest)) (width front + width l.text) = some l.rest := by
    rw [← List.append_assoc, ← width_append]
    exact suffixAt?_width_append _ _
  simp [Span.slice, spanAt, whole, h]

end Lexeme

/-- A cursor is put at the offset, so one that is no boundary asks at the end of the text. -/
def probe (scan : Scanner) (text : Text) (offset : Nat) : Option Span :=
  let cursor := Cursor.ofOffset text offset
  (scan cursor.rest).map fun l => ⟨offset, cursor.position + width l.text, l.closed⟩

theorem probe_of_suffixAt? {scan : Scanner} {text rest : Text} {offset : Nat}
    (h : suffixAt? text offset = some rest) :
    probe scan text offset = (scan rest).map (Lexeme.spanAt offset) := by
  have hp := Cursor.position_ofOffset h
  have hr : (Cursor.ofOffset text offset).rest = rest := by simp [Cursor.ofOffset, h]
  simp only [probe, hp, hr]
  rfl

theorem probe_eq_none_of_suffixAt? {scan : Scanner} {text : Text} {offset : Nat}
    (he : scan [] = none) (h : suffixAt? text offset = none) : probe scan text offset = none := by
  simp [probe, Cursor.ofOffset, h, he]

@[simp] theorem probe_zero (scan : Scanner) (text : Text) :
    probe scan text 0 = (scan text).map (Lexeme.spanAt 0) :=
  probe_of_suffixAt? (suffixAt?_zero text)

theorem probe_width_append (scan : Scanner) (front rest : Text) :
    probe scan (front ++ rest) (width front) = (probe scan rest 0).map (Span.shift (width front)) := by
  rw [probe_of_suffixAt? (suffixAt?_width_append front rest), probe_zero]
  cases scan rest <;> simp [Lexeme.spanAt_shift]

def accepts (scan : Scanner) (text : Text) : Bool :=
  (scan text).any fun l => l.closed && l.rest.isEmpty

theorem accepts_iff {scan : Scanner} {text : Text} :
    accepts scan text = true ↔ ∃ l, scan text = some l ∧ l.closed = true ∧ l.rest = [] := by
  cases h : scan text <;> simp [accepts, h]

end LexicalGrammar
