namespace LexicalGrammar.Character

def covers : List (Nat × Nat) → Nat → Bool
  | [], _ => false
  | (low, high) :: ranges, n =>
      if n < low then false else if n ≤ high then true else covers ranges n

theorem exists_range_of_covers {ranges : List (Nat × Nat)} {n : Nat} (h : covers ranges n = true) :
    ∃ range ∈ ranges, range.1 ≤ n ∧ n ≤ range.2 := by
  induction ranges with
  | nil => simp [covers] at h
  | cons range ranges ih =>
      obtain ⟨low, high⟩ := range
      simp only [covers] at h
      split at h
      · simp at h
      · split at h
        · exact ⟨(low, high), by simp, by simp_all⟩
        · obtain ⟨range, hm, hr⟩ := ih h
          exact ⟨range, List.mem_cons_of_mem _ hm, hr⟩

end LexicalGrammar.Character
