import LexicalGrammar.Proofs.Cursor.Bytes

namespace LexicalGrammar

namespace Cursor

variable {c d : Cursor} {taken left : Text}

theorem rest_ofOffset {text rest : Text} {offset : Nat} (h : suffixAt? text offset = some rest) :
    (ofOffset text offset).rest = rest := by
  rw [ofOffset, h]

theorem rest_pass_of_rest (h : c.rest = taken ++ left) : (c.pass taken).rest = left := by
  change c.rest.drop taken.length = left
  rw [h, List.drop_left]

theorem rest_pass {s : Split} (h : s.whole = c.rest) : (c.pass s.taken).rest = s.rest :=
  rest_pass_of_rest h.symm

theorem position_pass (h : c.rest = taken ++ left) :
    (c.pass taken).position = c.position + width taken := by
  simp [pass, position, advanceBy, h]

theorem position_lt_pass (hne : taken ≠ []) (hrest : c.rest = taken ++ left) :
    c.position < (c.pass taken).position := by
  rw [position_pass hrest]
  exact Nat.lt_add_of_pos_right (width_pos_of_ne_nil hne)

theorem pass_pass (c : Cursor) (a b : Text) : (c.pass a).pass b = c.pass (a ++ b) := by
  rw [pass, pass, pass, advanceBy_advanceBy, List.length_append]

@[simp] theorem pass_nil (c : Cursor) : c.pass [] = c := by simp [pass, advanceBy]

@[simp] theorem source_pass (c : Cursor) (a : Text) : (c.pass a).source = c.source :=
  c.source_advanceBy _

theorem moveTo_position_of_source (h : d.source = c.source) : d.moveTo c.position = c := by
  rw [moveTo, h]
  exact c.moveTo_position

@[simp] theorem moveTo_position_pass (c : Cursor) (a : Text) : (c.pass a).moveTo c.position = c :=
  moveTo_position_of_source (c.source_pass a)

theorem eatIf_of_rest {p : Char → Bool} {x : Char} (h : c.rest = x :: left) (hx : p x = true) :
    c.eatIf p = (true, c.pass [x]) := by
  rw [eatIf, current, h, List.head?_cons, Option.any_some, if_pos hx]
  rfl

theorem eatIf_of_head? {p : Char → Bool} (h : c.rest.head?.any p = false) :
    c.eatIf p = (false, c) := by
  rw [eatIf, current, h, if_neg Bool.false_ne_true]

theorem snd_eatIf {p : Char → Bool} (h : (c.eatIf p).1 = false) : (c.eatIf p).2 = c := by
  rw [eatIf] at h ⊢
  split at h
  · cases h
  · next hp => rw [if_neg hp]

theorem startsWith_iff {text : Text} : c.startsWith text = true ↔ text <+: c.rest := isSome_after?_iff

theorem eatText_of_rest (h : c.rest = taken ++ left) : c.eatText taken = (true, c.pass taken) := by
  rw [eatText, if_pos (startsWith_iff.mpr ⟨left, h.symm⟩), pass]

theorem eatText_of_not {text : Text} (h : ¬text <+: c.rest) : c.eatText text = (false, c) := by
  rw [eatText, if_neg (mt startsWith_iff.mp h)]

theorem isAtEnd_iff : c.isAtEnd = true ↔ c.rest = [] := List.isEmpty_iff

theorem isAtEnd_of_isPrefix {text : Text} (hne : text ≠ []) (h : text <+: c.rest) :
    c.isAtEnd = false := by
  rw [← Bool.not_eq_true, isAtEnd_iff]
  intro hrest
  rw [hrest] at h
  exact hne (List.prefix_nil.mp h)

theorem length_rest_pass {text : Text} (hne : text ≠ []) (h : c.startsWith text = true) :
    (c.pass text).rest.length < c.rest.length := by
  obtain ⟨left, hleft⟩ := startsWith_iff.mp h
  have hpos := List.length_pos_iff.mpr hne
  rw [rest_pass_of_rest hleft.symm, ← hleft, List.length_append]
  omega

theorem length_rest_pass_one {x : Char} (h : c.rest = x :: left) :
    (c.pass [x]).rest.length + 1 = c.rest.length := by
  have hpass : (c.pass [x]).rest = left := rest_pass_of_rest h
  rw [hpass, h, List.length_cons]

theorem length_rest_advance (h : c.isAtEnd ≠ true) : c.advance.rest.length < c.rest.length := by
  have hpos : 0 < c.rest.length := List.length_pos_iff.mpr (mt isAtEnd_iff.mpr h)
  change (c.rest.drop 1).length < c.rest.length
  rw [List.length_drop]
  omega

theorem eq_end_of_rest (h : c.rest = []) : c = ⟨c.source, []⟩ := by
  obtain ⟨passed, rest⟩ := c
  obtain rfl : rest = [] := h
  simp [source]

end Cursor

end LexicalGrammar
