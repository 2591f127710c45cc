import LexicalGrammar.Character.Ranges

namespace LexicalGrammar.Character

def whiteSpaceRanges : List (Nat × Nat) :=
  [(0x9, 0xD), (0x20, 0x20), (0x85, 0x85), (0xA0, 0xA0), (0x1680, 0x1680), (0x2000, 0x200A),
   (0x2028, 0x2029), (0x202F, 0x202F), (0x205F, 0x205F), (0x3000, 0x3000)]

def isWhiteSpace (c : Char) : Bool :=
  covers whiteSpaceRanges c.toNat

theorem not_isDigit_of_isWhiteSpace {c : Char} (h : isWhiteSpace c = true) :
    c.isDigit = false := by
  obtain ⟨range, hm, hlow, hhigh⟩ := exists_range_of_covers h
  have hall : whiteSpaceRanges.all (fun range => decide
      (range.2 < '0'.toNat ∨ '9'.toNat < range.1)) = true := by decide
  have hapart : range.2 < '0'.toNat ∨ '9'.toNat < range.1 := by
    simpa only [decide_eq_true_eq] using List.all_eq_true.mp hall range hm
  refine Bool.eq_false_iff.mpr fun hd => ?_
  have hdigit : '0'.toNat ≤ c.toNat ∧ c.toNat ≤ '9'.toNat := by
    simpa [Char.isDigit, UInt32.le_iff_toNat_le] using hd
  omega

end LexicalGrammar.Character
