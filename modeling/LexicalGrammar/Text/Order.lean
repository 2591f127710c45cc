import LexicalGrammar.Text.Basic

namespace LexicalGrammar

def precedes : Text → Text → Bool
  | _, [] => false
  | [], _ :: _ => true
  | a :: front, b :: rest => if a = b then precedes front rest else decide (a.toNat < b.toNat)

@[simp] theorem precedes_nil_right (text : Text) : precedes text [] = false := by
  cases text <;> rfl

@[simp] theorem precedes_self (text : Text) : precedes text text = false := by
  induction text with
  | nil => rfl
  | cons c rest ih => simp [precedes, ih]

theorem precedes_trans {a b c : Text} (hab : precedes a b = true) (hbc : precedes b c = true) :
    precedes a c = true := by
  induction a generalizing b c with
  | nil =>
      cases c with
      | nil => simp at hbc
      | cons z c => rfl
  | cons x a ih =>
      cases b with
      | nil => simp at hab
      | cons y b =>
          cases c with
          | nil => simp at hbc
          | cons z c =>
              simp only [precedes] at hab hbc ⊢
              by_cases hxy : x = y
              · subst hxy
                by_cases hxz : x = z
                · simp only [if_pos hxz, if_true] at hab hbc ⊢
                  exact ih hab hbc
                · simpa only [if_neg hxz] using hbc
              · by_cases hyz : y = z
                · subst hyz
                  simpa only [if_neg hxy] using hab
                · simp only [if_neg hxy, if_neg hyz, decide_eq_true_eq] at hab hbc
                  have hxz : x ≠ z := by
                    rintro rfl
                    omega
                  simp only [if_neg hxz, decide_eq_true_eq]
                  omega

theorem precedes_of_ne {a b : Text} (hne : a ≠ b) (h : precedes a b = false) :
    precedes b a = true := by
  induction a generalizing b with
  | nil =>
      cases b with
      | nil => exact absurd rfl hne
      | cons y b => simp [precedes] at h
  | cons x a ih =>
      cases b with
      | nil => rfl
      | cons y b =>
          simp only [precedes] at h ⊢
          by_cases hxy : x = y
          · subst hxy
            simp only [if_true] at h ⊢
            exact ih (fun he => hne (by rw [he])) h
          · simp only [if_neg hxy, decide_eq_false_iff_not] at h
            have hn : x.toNat ≠ y.toNat := fun he => hxy (Char.toNat_inj.mp he)
            simp only [if_neg (Ne.symm hxy), decide_eq_true_eq]
            omega

end LexicalGrammar
