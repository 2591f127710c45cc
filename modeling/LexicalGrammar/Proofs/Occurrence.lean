import LexicalGrammar.Proofs.Boundary
import Mathlib.Data.Set.Basic
import Mathlib.Order.Bounds.Defs

namespace LexicalGrammar

def standing (P : Text → Prop) (text : Text) (start : Nat) : Set Nat :=
  {i | start ≤ i ∧ ∃ rest, suffixAt? text i = some rest ∧ P rest}

def Clear (P : Text → Prop) (mid tail : Text) : Prop := ∀ a b, mid = a ++ b → b ≠ [] → ¬P (b ++ tail)

variable {P : Text → Prop} {front mid tail rest : Text}

theorem Clear.nil : Clear P [] tail := by
  intro a b hab hb
  exact absurd (List.append_eq_nil_iff.mp hab.symm).2 hb

theorem Clear.cons {c : Char} (h : Clear P mid tail) (hnot : ¬P (c :: (mid ++ tail))) :
    Clear P (c :: mid) tail := by
  intro a b hab hb
  cases a with
  | nil =>
      obtain rfl : c :: mid = b := hab
      exact hnot
  | cons o a => exact h a b (List.cons.inj hab).2 hb

theorem Clear.of_head {p : Char → Bool} (h : ∀ c ∈ mid, p c = false) :
    Clear (fun rest => rest.head?.any p = true) mid tail := by
  induction mid with
  | nil => exact .nil
  | cons c mid ih =>
      refine .cons (ih fun d hd => h d (List.mem_cons_of_mem c hd)) ?_
      simp [h c List.mem_cons_self]

theorem mem_standing_iff {i : Nat} :
    i ∈ standing P (front ++ rest) (width front) ↔
      ∃ mid tail, rest = mid ++ tail ∧ i = width front + width mid ∧ P tail := by
  constructor
  · rintro ⟨hle, tail, htail, hP⟩
    obtain ⟨before, hsplit, rfl⟩ := suffixAt?_eq_some_iff.mp htail
    obtain ⟨mid, rfl, rfl⟩ := exists_append_of_width_le hsplit hle
    exact ⟨mid, tail, rfl, width_append front mid, hP⟩
  · rintro ⟨mid, tail, rfl, rfl, hP⟩
    refine ⟨Nat.le_add_right _ _, tail, ?_, hP⟩
    rw [suffixAt?_append_add, suffixAt?_width_append]

theorem isLeast_standing (hP : P tail) (hclear : Clear P mid tail) :
    IsLeast (standing P (front ++ (mid ++ tail)) (width front)) (width front + width mid) := by
  refine ⟨mem_standing_iff.mpr ⟨mid, tail, rfl, rfl, hP⟩, fun i hi => ?_⟩
  obtain ⟨before, behind, hsplit, rfl, hbehind⟩ := mem_standing_iff.mp hi
  rcases Nat.lt_or_ge (width before) (width mid) with hlt | hge
  · obtain ⟨b, rfl, rfl⟩ := exists_append_of_width_le hsplit.symm (Nat.le_of_lt hlt)
    refine absurd hbehind (hclear before b rfl ?_)
    rintro rfl
    simp at hlt
  · exact Nat.add_le_add_left hge _

theorem standing_eq_empty (hnil : ¬P []) (hclear : Clear P rest []) :
    standing P (front ++ rest) (width front) = ∅ := by
  refine Set.eq_empty_iff_forall_notMem.mpr fun i hi => ?_
  obtain ⟨mid, tail, rfl, rfl, hP⟩ := mem_standing_iff.mp hi
  have hne : tail ≠ [] := by
    rintro rfl
    exact hnil hP
  have hnot := hclear mid tail rfl hne
  rw [List.append_nil] at hnot
  exact hnot hP

end LexicalGrammar
