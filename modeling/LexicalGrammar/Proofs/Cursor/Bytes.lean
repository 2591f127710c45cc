import LexicalGrammar.Proofs.Boundary

namespace LexicalGrammar

structure ByteCursor where
  text : Text
  offset : Nat
deriving DecidableEq, Repr

namespace ByteCursor

def ofOffset (text : Text) (offset : Nat) : ByteCursor :=
  ⟨text, if (suffixAt? text offset).isSome then offset else width text⟩

def remaining? (c : ByteCursor) : Option Text := suffixAt? c.text c.offset

def firstOf (rest : Text) : Option Char :=
  match (rest.flatMap String.utf8EncodeChar).head? with
  | none => none
  | some byte => if byte < 128 then some (Char.ofNat byte.toNat) else rest.head?

def current? (c : ByteCursor) : Option (Option Char) := c.remaining?.map firstOf

def peek? (c : ByteCursor) (n : Nat) : Option (Option Char) :=
  if n = 0 then c.current? else c.remaining?.map (·[n]?)

def isAtEnd (c : ByteCursor) : Bool := decide (width c.text ≤ c.offset)

def past (c : ByteCursor) (matched : Text) : ByteCursor := { c with offset := c.offset + width matched }

def advance? (c : ByteCursor) : Option ByteCursor := c.current?.map fun here => c.past here.toList

def advanceBy? : Nat → ByteCursor → Option ByteCursor
  | 0, c => some c
  | n + 1, c => c.advance?.bind (advanceBy? n)

def eatIf? (c : ByteCursor) (p : Char → Bool) : Option (Bool × ByteCursor) :=
  c.current?.bind fun here =>
    if here.any p then c.advance?.map fun after => (true, after) else some (false, c)

def startsWith? (c : ByteCursor) (text : Text) : Option Bool := c.remaining?.map text.isPrefixOf

def eatText? (c : ByteCursor) (text : Text) : Option (Bool × ByteCursor) :=
  (c.startsWith? text).map fun found => if found then (true, c.past text) else (false, c)

def sliceFrom? (c : ByteCursor) (start : Nat) : Option Text := slice? c.text start c.offset

structure Run where
  cursor : ByteCursor
  saved : List Nat := []
deriving DecidableEq, Repr

namespace Run

def start (text : Text) (offset : Nat) : Run := { cursor := ofOffset text offset }

def answering (r : Run) (e : Bool × ByteCursor) : Cursor.Answer × Run :=
  (.flag e.1, { r with cursor := e.2 })

def step? (r : Run) : Cursor.Step → Option (Cursor.Answer × Run)
  | .current => r.cursor.current?.map fun here => (.character here, r)
  | .peek n => (r.cursor.peek? n).map fun here => (.character here, r)
  | .advance => r.cursor.advance?.map fun after => (.done, { r with cursor := after })
  | .advanceBy n => (advanceBy? n r.cursor).map fun after => (.done, { r with cursor := after })
  | .eat c => (r.cursor.eatIf? (· == c)).map r.answering
  | .eatAny set => (r.cursor.eatIf? set.contains).map r.answering
  | .eatIf p => (r.cursor.eatIf? p).map r.answering
  | .eatText text => (r.cursor.eatText? text).map r.answering
  | .startsWith text => (r.cursor.startsWith? text).map fun found => (.flag found, r)
  | .remaining => r.cursor.remaining?.map fun rest => (.text rest, r)
  | .sliceFrom start => some ((r.cursor.sliceFrom? start).elim .badSlice .text, r)
  | .snapshot => some (.position r.cursor.offset, { r with saved := r.saved ++ [r.cursor.offset] })
  | .restore index =>
      r.saved[index]?.map fun offset => (.done, { r with cursor := { r.cursor with offset } })

end Run

theorem lead_byte (c : Char) :
    ∃ byte more, String.utf8EncodeChar c = byte :: more ∧
      (byte < 128 → Char.ofNat byte.toNat = c) := by
  have wide (n : Nat) (h : 128 ≤ n ∧ n < 256) : ¬UInt8.ofNat n < 128 := by
    rw [UInt8.lt_iff_toNat_lt, UInt8.toNat_ofNat_of_lt' h.2]
    exact Nat.not_lt.mpr h.1
  simp only [String.utf8EncodeChar]
  split
  · next h =>
    refine ⟨_, _, rfl, fun _ => ?_⟩
    rw [UInt8.toNat_ofNat_of_lt' (show c.val.toNat < 256 by omega)]
    exact Char.ofNat_toNat c
  · split
    · exact ⟨_, _, rfl, fun h => absurd h (wide _ (by omega))⟩
    · split
      · exact ⟨_, _, rfl, fun h => absurd h (wide _ (by omega))⟩
      · exact ⟨_, _, rfl, fun h => absurd h (wide _ (by omega))⟩

theorem firstOf_eq_head? (rest : Text) : firstOf rest = rest.head? := by
  cases rest with
  | nil => rfl
  | cons c rest =>
      obtain ⟨byte, more, hc, hbyte⟩ := lead_byte c
      simp only [firstOf, List.flatMap_cons, hc, List.cons_append, List.head?_cons]
      split
      · next h => rw [hbyte h]
      · rfl

end ByteCursor

namespace Cursor

variable (c : Cursor)

def bytes : ByteCursor := ⟨c.source, c.position⟩

theorem bytes_ofOffset (text : Text) (offset : Nat) :
    (ofOffset text offset).bytes = ByteCursor.ofOffset text offset := by
  have hsource := source_ofOffset text offset
  cases h : suffixAt? text offset with
  | some rest => simp [bytes, ByteCursor.ofOffset, h, position_ofOffset h]
  | none => simp [bytes, ByteCursor.ofOffset, h, ofOffset, source, position]

theorem remaining?_bytes : c.bytes.remaining? = some c.rest := c.suffixAt?_position

theorem current?_bytes : c.bytes.current? = some c.current := by
  rw [ByteCursor.current?, remaining?_bytes, Option.map_some, ByteCursor.firstOf_eq_head?]
  rfl

theorem peek?_bytes (n : Nat) : c.bytes.peek? n = some (c.peek n) := by
  rw [ByteCursor.peek?]
  split
  · next h =>
    rw [current?_bytes, h, peek, current, List.head?_eq_getElem?]
  · rw [remaining?_bytes]
    rfl

theorem isAtEnd_bytes : c.bytes.isAtEnd = c.isAtEnd := by
  have hwidth : width c.source = c.position + width c.rest := width_append c.passed c.rest
  have hiff : width c.source ≤ c.position ↔ c.rest = [] := by
    constructor
    · intro h
      exact eq_nil_of_width_eq_zero (by omega)
    · intro h
      exact Nat.le_of_eq (by rw [hwidth, h, width_nil, Nat.add_zero])
  rw [ByteCursor.isAtEnd, isAtEnd, Bool.eq_iff_iff, decide_eq_true_iff, List.isEmpty_iff]
  exact hiff

theorem bytes_advanceBy (n : Nat) : (c.advanceBy n).bytes = c.bytes.past (c.rest.take n) := by
  rw [bytes, source_advanceBy]
  simp [bytes, ByteCursor.past, position, advanceBy]

theorem past_bytes {matched left : Text} (h : c.rest = matched ++ left) :
    c.bytes.past matched = (c.advanceBy matched.length).bytes := by
  rw [bytes_advanceBy, h, List.take_left]

theorem advanceBy_advanceBy (m n : Nat) : (c.advanceBy m).advanceBy n = c.advanceBy (m + n) := by
  simp [advanceBy, List.take_add]

theorem advance?_bytes : c.bytes.advance? = some c.advance.bytes := by
  have hpast : c.bytes.past c.current.toList = c.advance.bytes := by
    rw [advance, bytes_advanceBy, List.take_one]
    rfl
  rw [ByteCursor.advance?, current?_bytes, Option.map_some, hpast]

theorem advanceBy?_bytes (n : Nat) :
    ByteCursor.advanceBy? n c.bytes = some (c.advanceBy n).bytes := by
  induction n generalizing c with
  | zero => simp [ByteCursor.advanceBy?, advanceBy]
  | succ n ih =>
      rw [ByteCursor.advanceBy?, advance?_bytes, Option.bind_some, ih, advance, advanceBy_advanceBy,
        Nat.add_comm]

theorem eatIf?_bytes (p : Char → Bool) :
    c.bytes.eatIf? p = some ((c.eatIf p).1, (c.eatIf p).2.bytes) := by
  rw [ByteCursor.eatIf?, current?_bytes, Option.bind_some, advance?_bytes, eatIf]
  split <;> rfl

theorem startsWith?_bytes (text : Text) : c.bytes.startsWith? text = some (c.startsWith text) := by
  have hprefix : text.isPrefixOf c.rest = c.startsWith text := by
    rw [Bool.eq_iff_iff, List.isPrefixOf_iff_prefix, startsWith, isSome_after?_iff]
  rw [ByteCursor.startsWith?, remaining?_bytes, Option.map_some, hprefix]

theorem eatText?_bytes (text : Text) :
    c.bytes.eatText? text = some ((c.eatText text).1, (c.eatText text).2.bytes) := by
  rw [ByteCursor.eatText?, startsWith?_bytes, Option.map_some, eatText]
  split
  · next h =>
    obtain ⟨left, hleft⟩ := isSome_after?_iff.mp h
    rw [c.past_bytes hleft.symm]
  · rfl

theorem sliceFrom?_bytes (start : Nat) : c.bytes.sliceFrom? start = c.sliceFrom? start := by
  apply Option.ext
  intro mid
  rw [ByteCursor.sliceFrom?, slice?_eq_some_iff, sliceFrom?, suffixAt?_eq_some_iff]
  constructor
  · rintro ⟨back, hback, hstop⟩
    obtain ⟨front, hsource, rfl⟩ := suffixAt?_eq_some_iff.mp hback
    have hwhole : c.passed ++ c.rest = (front ++ mid) ++ back := by
      rw [List.append_assoc]
      exact hsource
    have hwidth : width c.passed = width (front ++ mid) := by
      rw [width_append]
      exact hstop
    exact ⟨front, (append_inj_of_width_eq hwhole hwidth).1, rfl⟩
  · rintro ⟨front, hpassed, rfl⟩
    refine ⟨c.rest, suffixAt?_eq_some_iff.mpr ⟨front, ?_, rfl⟩, ?_⟩
    · change c.passed ++ c.rest = _
      rw [hpassed, List.append_assoc]
    · change width c.passed = _
      rw [hpassed, width_append]

end Cursor

end LexicalGrammar
