import LexicalGrammar.Text.Basic

namespace LexicalGrammar

structure Cursor where
  passed : Text
  rest : Text
deriving DecidableEq, Repr

namespace Cursor

def source (c : Cursor) : Text := c.passed ++ c.rest

def position (c : Cursor) : Nat := width c.passed

def ofOffset (text : Text) (offset : Nat) : Cursor :=
  match suffixAt? text offset with
  | some rest => ⟨text.take (text.length - rest.length), rest⟩
  | none => ⟨text, []⟩

def start (text : Text) : Cursor := ⟨[], text⟩

def current (c : Cursor) : Option Char := c.rest.head?

def peek (c : Cursor) (n : Nat) : Option Char := c.rest[n]?

def isAtEnd (c : Cursor) : Bool := c.rest.isEmpty

def advanceBy (c : Cursor) (n : Nat) : Cursor := ⟨c.passed ++ c.rest.take n, c.rest.drop n⟩

def advance (c : Cursor) : Cursor := c.advanceBy 1

def eatIf (c : Cursor) (p : Char → Bool) : Bool × Cursor :=
  if c.current.any p then (true, c.advance) else (false, c)

def startsWith (c : Cursor) (text : Text) : Bool := (after? text c.rest).isSome

def eatText (c : Cursor) (text : Text) : Bool × Cursor :=
  if c.startsWith text then (true, c.advanceBy text.length) else (false, c)

def sliceFrom? (c : Cursor) (offset : Nat) : Option Text := suffixAt? c.passed offset

def moveTo (c : Cursor) (offset : Nat) : Cursor := ofOffset c.source offset

def pass (c : Cursor) (taken : Text) : Cursor := c.advanceBy taken.length

@[simp] theorem source_ofOffset (text : Text) (offset : Nat) :
    (ofOffset text offset).source = text := by
  simp only [ofOffset]
  split
  · next rest h =>
    obtain ⟨front, rfl, _⟩ := suffixAt?_eq_some_iff.mp h
    simp [source]
  · simp [source]

theorem position_ofOffset {text rest : Text} {offset : Nat}
    (h : suffixAt? text offset = some rest) : (ofOffset text offset).position = offset := by
  obtain ⟨front, rfl, rfl⟩ := suffixAt?_eq_some_iff.mp h
  simp [ofOffset, position]

@[simp] theorem source_advanceBy (c : Cursor) (n : Nat) : (c.advanceBy n).source = c.source := by
  simp [source, advanceBy]

theorem suffixAt?_position (c : Cursor) : suffixAt? c.source c.position = some c.rest :=
  suffixAt?_width_append c.passed c.rest

theorem moveTo_position (c : Cursor) : c.moveTo c.position = c := by
  rw [moveTo, ofOffset, suffixAt?_position]
  simp [source]

inductive Step where
  | current
  | peek (n : Nat)
  | advance
  | advanceBy (n : Nat)
  | eat (c : Char)
  | eatAny (set : List Char)
  | eatIf (p : Char → Bool)
  | eatText (text : Text)
  | startsWith (text : Text)
  | remaining
  | sliceFrom (offset : Nat)
  | snapshot
  | restore (index : Nat)

inductive Answer where
  | character (c : Option Char)
  | flag (b : Bool)
  | text (t : Text)
  | position (n : Nat)
  | done
  | badSlice
deriving DecidableEq, Repr

structure Run where
  cursor : Cursor
  saved : List Nat := []
deriving DecidableEq, Repr

namespace Run

def answering (r : Run) (e : Bool × Cursor) : Answer × Run := (.flag e.1, { r with cursor := e.2 })

def step (r : Run) : Step → Option (Answer × Run)
  | .current => some (.character r.cursor.current, r)
  | .peek n => some (.character (r.cursor.peek n), r)
  | .advance => some (.done, { r with cursor := r.cursor.advance })
  | .advanceBy n => some (.done, { r with cursor := r.cursor.advanceBy n })
  | .eat c => some (r.answering (r.cursor.eatIf (· == c)))
  | .eatAny set => some (r.answering (r.cursor.eatIf set.contains))
  | .eatIf p => some (r.answering (r.cursor.eatIf p))
  | .eatText text => some (r.answering (r.cursor.eatText text))
  | .startsWith text => some (.flag (r.cursor.startsWith text), r)
  | .remaining => some (.text r.cursor.rest, r)
  | .sliceFrom offset =>
      match r.cursor.sliceFrom? offset with
      | some t => some (.text t, r)
      | none => some (.badSlice, r)
  | .snapshot =>
      some (.position r.cursor.position, { r with saved := r.saved ++ [r.cursor.position] })
  | .restore index =>
      r.saved[index]?.map fun offset => (.done, { r with cursor := r.cursor.moveTo offset })

end Run

end Cursor

end LexicalGrammar
