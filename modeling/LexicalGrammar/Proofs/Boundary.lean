import LexicalGrammar.Lexeme

namespace LexicalGrammar

def IsBoundary (text : Text) (offset : Nat) : Prop := ∃ rest, suffixAt? text offset = some rest

def InsideCharacter (text : Text) (offset : Nat) : Prop :=
  ∃ front c rest, text = front ++ c :: rest ∧ width front < offset ∧ offset < width front + c.utf8Size

theorem isBoundary_iff {text : Text} {offset : Nat} :
    IsBoundary text offset ↔ ∃ front rest, text = front ++ rest ∧ width front = offset := by
  simp only [IsBoundary, suffixAt?_eq_some_iff]
  exact exists_comm

theorem le_width_of_isBoundary {text : Text} {offset : Nat} (h : IsBoundary text offset) :
    offset ≤ width text := by
  obtain ⟨front, rest, rfl, rfl⟩ := isBoundary_iff.mp h
  rw [width_append]
  exact Nat.le_add_right ..

theorem suffixAt?_width (text : Text) : suffixAt? text (width text) = some [] := by
  simpa using suffixAt?_width_append text []

theorem suffixAt?_append_add {front rest : Text} (offset : Nat) :
    suffixAt? (front ++ rest) (width front + offset) = suffixAt? rest offset := by
  induction front with
  | nil => simp
  | cons c front ih =>
      rw [List.cons_append, width_cons, suffixAt?_cons_of_le (by omega)]
      rw [show c.utf8Size + width front + offset - c.utf8Size = width front + offset by omega, ih]

theorem suffixAt?_eq_none_iff {text : Text} {offset : Nat} :
    suffixAt? text offset = none ↔ width text < offset ∨ InsideCharacter text offset := by
  constructor
  · intro h
    induction text generalizing offset with
    | nil =>
        cases offset with
        | zero => simp at h
        | succ offset => exact Or.inl (Nat.succ_pos offset)
    | cons c text ih =>
        by_cases hc : c.utf8Size ≤ offset
        · rw [suffixAt?_cons_of_le hc] at h
          rcases ih h with hw | ⟨front, d, rest, rfl, hl, hu⟩
          · exact Or.inl (by rw [width_cons]; omega)
          · exact Or.inr ⟨c :: front, d, rest, rfl, by rw [width_cons]; omega, by rw [width_cons]; omega⟩
        · have hz : offset ≠ 0 := by
            rintro rfl
            simp at h
          exact Or.inr ⟨[], c, text, rfl, Nat.pos_of_ne_zero hz, by simpa using hc⟩
  · rintro (hw | ⟨front, c, rest, rfl, hl, hu⟩)
    · exact suffixAt?_eq_none_of_width_lt hw
    · obtain ⟨offset, rfl⟩ := Nat.exists_eq_add_of_lt hl
      rw [Nat.add_assoc, suffixAt?_append_add, suffixAt?, if_neg (by omega)]

def slice? (text : Text) (start stop : Nat) : Option Text :=
  (suffixAt? text start).bind fun rest =>
    if start ≤ stop then
      (suffixAt? rest (stop - start)).map fun back => rest.take (rest.length - back.length)
    else none

theorem slice?_eq_some_iff {text mid : Text} {start stop : Nat} :
    slice? text start stop = some mid ↔
      ∃ back, suffixAt? text start = some (mid ++ back) ∧ stop = start + width mid := by
  simp only [slice?, Option.bind_eq_some_iff]
  constructor
  · rintro ⟨rest, hrest, h⟩
    split at h
    · next hle =>
      obtain ⟨back, hback, rfl⟩ := Option.map_eq_some_iff.mp h
      obtain ⟨front, rfl, hw⟩ := suffixAt?_eq_some_iff.mp hback
      refine ⟨back, by simpa using hrest, ?_⟩
      simp
      omega
    · simp at h
  · rintro ⟨back, hback, rfl⟩
    refine ⟨mid ++ back, hback, ?_⟩
    rw [if_pos (Nat.le_add_right ..), Nat.add_sub_cancel_left, suffixAt?_width_append]
    simp

theorem exists_slice? {text : Text} {start stop : Nat} (hstart : IsBoundary text start)
    (hstop : IsBoundary text stop) (hle : start ≤ stop) : ∃ mid, slice? text start stop = some mid := by
  obtain ⟨front, rest, rfl, rfl⟩ := isBoundary_iff.mp hstart
  obtain ⟨front', back, hwhole, rfl⟩ := isBoundary_iff.mp hstop
  obtain ⟨mid, rfl, rfl⟩ := exists_append_of_width_le hwhole hle
  exact ⟨mid, slice?_eq_some_iff.mpr ⟨back, suffixAt?_width_append .., width_append ..⟩⟩

theorem isBoundary_of_slice? {text mid : Text} {start stop : Nat}
    (h : slice? text start stop = some mid) : IsBoundary text start ∧ IsBoundary text stop := by
  obtain ⟨back, hback, rfl⟩ := slice?_eq_some_iff.mp h
  obtain ⟨front, rfl, rfl⟩ := suffixAt?_eq_some_iff.mp hback
  refine ⟨⟨mid ++ back, hback⟩, back, ?_⟩
  rw [suffixAt?_append_add, suffixAt?_width_append]

end LexicalGrammar
