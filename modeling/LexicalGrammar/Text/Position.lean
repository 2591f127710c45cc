import LexicalGrammar.Text.Basic

namespace LexicalGrammar

structure Position where
  line : Nat
  column : Nat
deriving DecidableEq, Repr

structure LineStart where
  offset : Nat
  tail : Text
deriving DecidableEq, Repr

def laterLines (offset : Nat) : Text → List LineStart
  | [] => []
  | c :: rest =>
      let next := offset + c.utf8Size
      if c = '\n' then ⟨next, rest⟩ :: laterLines next rest else laterLines next rest

def lineStarts (text : Text) : List LineStart := ⟨0, text⟩ :: laterLines 0 text

def charactersWithin : (bytes : Nat) → Text → Nat
  | _, [] => 0
  | bytes, c :: rest =>
      if bytes = 0 then 0 else charactersWithin (bytes - c.utf8Size) rest + 1

@[simp] theorem charactersWithin_width (front rest : Text) :
    charactersWithin (width front) (front ++ rest) = front.length := by
  induction front with
  | nil => cases rest <;> simp [charactersWithin]
  | cons c front ih =>
      have hne : c.utf8Size + width front ≠ 0 := by have := c.utf8Size_pos; omega
      rw [width_cons, List.cons_append, charactersWithin, if_neg hne, Nat.add_sub_cancel_left, ih]
      rfl

def positionIn (lines : List LineStart) (offset : Nat) : Position :=
  let passed := lines.takeWhile fun line => line.offset ≤ offset
  let column := passed.getLast?.elim 0 fun line => charactersWithin (offset - line.offset) line.tail
  ⟨passed.length, column + 1⟩

def positionAt (text : Text) (offset : Nat) : Position := positionIn (lineStarts text) offset

end LexicalGrammar
