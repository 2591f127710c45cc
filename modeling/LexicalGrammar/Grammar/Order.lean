namespace LexicalGrammar

variable {α : Type}

def firstHidden? (hides : α → α → Bool) : List α → Option (α × α)
  | [] => none
  | earlier :: items =>
      match items.find? (hides earlier) with
      | some later => some (earlier, later)
      | none => firstHidden? hides items

theorem firstHidden?_eq_none_iff {hides : α → α → Bool} {items : List α} :
    firstHidden? hides items = none ↔
      items.Pairwise fun earlier later => hides earlier later = false := by
  induction items with
  | nil => simp [firstHidden?]
  | cons earlier items ih =>
      simp only [firstHidden?, List.pairwise_cons]
      cases hf : items.find? (hides earlier) with
      | none =>
          rw [List.find?_eq_none] at hf
          simp only [ih, Bool.not_eq_true] at hf ⊢
          exact ⟨fun h => ⟨hf, h⟩, fun h => h.2⟩
      | some later =>
          have hm := List.mem_of_find?_eq_some hf
          have hh := List.find?_some hf
          simp only [reduceCtorEq, false_iff]
          intro h
          rw [h.1 later hm] at hh
          simp at hh

theorem hides_of_firstHidden? {hides : α → α → Bool} {items : List α} {earlier later : α}
    (h : firstHidden? hides items = some (earlier, later)) : hides earlier later = true := by
  induction items with
  | nil => simp [firstHidden?] at h
  | cons item items ih =>
      simp only [firstHidden?] at h
      cases hf : items.find? (hides item) with
      | none => rw [hf] at h; exact ih h
      | some found =>
          rw [hf] at h
          obtain ⟨rfl, rfl⟩ := Prod.mk.injEq .. ▸ Option.some.inj h
          exact List.find?_some hf

end LexicalGrammar
