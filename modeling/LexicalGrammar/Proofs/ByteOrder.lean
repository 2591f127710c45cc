import LexicalGrammar.Text.Order

namespace LexicalGrammar

theorem byte_lt_iff {m n : Nat} (hm : m < 256) (hn : n < 256) :
    UInt8.ofNat m < UInt8.ofNat n ↔ m < n := by
  rw [UInt8.lt_iff_toNat_lt, UInt8.toNat_ofNat_of_lt' hm, UInt8.toNat_ofNat_of_lt' hn]

theorem byte_inj {m n : Nat} (hm : m < 256) (hn : n < 256) :
    UInt8.ofNat m = UInt8.ofNat n ↔ m = n := by
  rw [← UInt8.toNat_inj, UInt8.toNat_ofNat_of_lt' hm, UInt8.toNat_ofNat_of_lt' hn]

theorem utf8EncodeChar_append_lt {a b : Char} (h : a.toNat < b.toNat) (front rest : List UInt8) :
    String.utf8EncodeChar a ++ front < String.utf8EncodeChar b ++ rest := by
  have ha : a.val.toNat < b.val.toNat := h
  have hb : b.val.toNat < 0x110000 := by
    rcases b.valid with h | ⟨_, h⟩
    · exact Nat.lt_trans h (by decide)
    · exact h
  have two (n : Nat) : n / 4096 = n / 64 / 64 := by omega
  have three (n : Nat) : n / 262144 = n / 64 / 64 / 64 := by omega
  simp only [String.utf8EncodeChar, two, three]
  generalize a.val.toNat = m at ha
  generalize b.val.toNat = n at ha hb
  -- Of two sizes the first byte decides; at one size the digits to base 64 do, the high ones first.
  repeat' split
  all_goals
    first
    | omega
    | simp (disch := omega) only [List.cons_append, List.nil_append, List.cons_lt_cons_iff,
        byte_lt_iff, byte_inj]
      omega

theorem utf8_lt_of_precedes {a b : Text} (h : precedes a b = true) : utf8 a < utf8 b := by
  induction a generalizing b with
  | nil =>
      cases b with
      | nil => simp at h
      | cons d b =>
          have hne : String.utf8EncodeChar d ≠ [] := String.utf8EncodeChar_ne_nil
          obtain ⟨byte, more, he⟩ := List.exists_cons_of_ne_nil hne
          rw [utf8_cons, he]
          exact List.nil_lt_cons ..
  | cons c a ih =>
      cases b with
      | nil => simp at h
      | cons d b =>
          simp only [precedes] at h
          by_cases hcd : c = d
          · subst hcd
            rw [if_pos rfl] at h
            rw [utf8_cons, utf8_cons]
            exact List.append_left_lt (ih h)
          · rw [if_neg hcd, decide_eq_true_eq] at h
            rw [utf8_cons, utf8_cons]
            exact utf8EncodeChar_append_lt h _ _

theorem utf8_lt_iff {a b : Text} : utf8 a < utf8 b ↔ precedes a b = true := by
  refine ⟨fun h => ?_, utf8_lt_of_precedes⟩
  cases hp : precedes a b with
  | true => rfl
  | false =>
      by_cases hab : a = b
      · exact absurd (hab ▸ h) (List.lt_irrefl _)
      · exact absurd h (List.lt_asymm (utf8_lt_of_precedes (precedes_of_ne hab hp)))

end LexicalGrammar
