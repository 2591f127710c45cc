import LexicalGrammar.Grammar.Order
import LexicalGrammar.Text.Basic

namespace LexicalGrammar

theorem width_le_of_isPrefix {a b : Text} (h : a <+: b) : width a ≤ width b := by
  obtain ⟨rest, rfl⟩ := h
  rw [width_append]
  exact Nat.le_add_right ..

theorem isPrefix_of_width_le {a b text : Text} (ha : a <+: text) (hb : b <+: text)
    (hw : width a ≤ width b) : a <+: b := by
  obtain ⟨front, rfl⟩ := ha
  obtain ⟨back, hback⟩ := hb
  obtain ⟨mid, rfl, _⟩ := exists_append_of_width_le hback.symm hw
  exact ⟨mid, rfl⟩

variable {α β : Type}

theorem findSome?_eq_bind_findIdx? (f : α → Option β) (items : List α) :
    items.findSome? f = (items.findIdx? fun a => (f a).isSome).bind fun i => items[i]?.bind f := by
  induction items with
  | nil => rfl
  | cons a items ih =>
      rw [List.findSome?_cons, List.findIdx?_cons]
      cases ha : f a with
      | some b => simp [ha]
      | none =>
          rw [Option.isSome_none, if_neg Bool.false_ne_true, Option.bind_map, ih]
          rfl

theorem first_of_findSome? {R : α → α → Prop} {f : α → Option β} {items : List α} {b : β}
    (hp : items.Pairwise R) (h : items.findSome? f = some b) :
    ∃ a ∈ items, f a = some b ∧ ∀ e ∈ items, (f e).isSome = true → e = a ∨ R a e := by
  obtain ⟨before, a, behind, rfl, ha, hbefore⟩ := List.findSome?_eq_some_iff.mp h
  have hbehind := (List.pairwise_cons.mp (List.pairwise_append.mp hp).2.1).1
  refine ⟨a, by simp, ha, fun e he hs => ?_⟩
  rcases List.mem_append.mp he with hm | hm
  · rw [hbefore e hm] at hs
    simp at hs
  · exact (List.mem_cons.mp hm).imp id (hbehind e)

theorem find?_eq_some_iff_of_pairwise {R : α → α → Prop} {p : α → Bool} {items : List α} {a : α}
    (hR : ∀ a b, R a b → ¬ R b a) (hp : items.Pairwise R) :
    items.find? p = some a ↔ a ∈ items ∧ p a = true ∧ ∀ e ∈ items, p e = true → e = a ∨ R a e := by
  have hfirst {a : α} (h : items.find? p = some a) (e : α) (he : e ∈ items) (hpe : p e = true) :
      e = a ∨ R a e := by
    obtain ⟨-, before, behind, rfl, hbefore⟩ := List.find?_eq_some_iff_append.mp h
    rcases List.mem_append.mp he with hm | hm
    · exact absurd hpe (by simpa using hbefore e hm)
    · exact (List.mem_cons.mp hm).imp id
        ((List.pairwise_cons.mp (List.pairwise_append.mp hp).2.1).1 e)
  constructor
  · intro h
    exact ⟨List.mem_of_find?_eq_some h, List.find?_some h, hfirst h⟩
  · rintro ⟨hm, hpa, hall⟩
    obtain ⟨e, he⟩ := Option.isSome_iff_exists.mp (List.find?_isSome.mpr ⟨a, hm, hpa⟩)
    rcases hall e (List.mem_of_find?_eq_some he) (List.find?_some he) with rfl | hae
    · exact he
    · rcases hfirst he a hm hpa with rfl | hea
      · exact he
      · exact absurd hea (hR a e hae)

theorem findSome?_of_pairwise {R : α → α → Prop} {f : α → Option β} {items : List α} {a : α} {b : β}
    (hp : items.Pairwise R) (hm : a ∈ items) (ha : f a = some b) (hR : ∀ e, R e a → f e = none) :
    items.findSome? f = some b := by
  obtain ⟨before, behind, rfl⟩ := List.append_of_mem hm
  have hbefore := (List.pairwise_append.mp hp).2.2
  exact List.findSome?_eq_some_iff.mpr
    ⟨before, a, behind, rfl, ha, fun e he => hR e (hbefore e he a (by simp))⟩

section Widest

variable (key : α → Text) {f : α → Option β} {items : List α} {text : Text}

theorem widest_of_findSome? {b : β} (hf : ∀ a ∈ items, (f a).isSome = true → key a <+: text)
    (hp : items.Pairwise fun earlier later => ¬ key earlier <+: key later)
    (h : items.findSome? f = some b) :
    ∃ a ∈ items, f a = some b ∧
      ∀ e ∈ items, (f e).isSome = true → width (key e) ≤ width (key a) := by
  obtain ⟨a, hm, ha, hfirst⟩ := first_of_findSome? hp h
  refine ⟨a, hm, ha, fun e he hs => ?_⟩
  rcases hfirst e he hs with rfl | hapart
  · exact Nat.le_refl _
  · have haText := hf a hm (by rw [ha]; rfl)
    have hnarrow : ¬ width (key a) ≤ width (key e) :=
      fun hw => hapart (isPrefix_of_width_le haText (hf e he hs) hw)
    omega

theorem findSome?_of_widest {a : α} {b : β}
    (hf : ∀ a ∈ items, (f a).isSome = true → key a <+: text)
    (hp : items.Pairwise fun earlier later => ¬ key earlier <+: key later)
    (hm : a ∈ items) (ha : f a = some b)
    (hw : ∀ e ∈ items, (f e).isSome = true → width (key e) ≤ width (key a)) :
    items.findSome? f = some b := by
  have hs : (f a).isSome = true := by rw [ha]; rfl
  obtain ⟨c, hc⟩ := Option.isSome_iff_exists.mp (List.findSome?_isSome_iff.mpr ⟨a, hm, hs⟩)
  obtain ⟨e, hem, he, hfirst⟩ := first_of_findSome? hp hc
  rcases hfirst a hm hs with rfl | hapart
  · rw [hc, ← he, ha]
  · -- The first item to answer is no wider than `a`, so it begins `a`.
    have heSome : (f e).isSome = true := by rw [he]; rfl
    have hbegins : key e <+: key a :=
      isPrefix_of_width_le (hf e hem heSome) (hf a hm hs) (hw e hem heSome)
    exact absurd hbegins hapart

end Widest

def NeverFirst (answers : α → Text → Bool) (items : List α) (i : Nat) : Prop :=
  ∀ text, items.findIdx? (answers · text) ≠ some i

theorem neverFirst_of_lt {answers : α → Text → Bool} {items : List α} {i j : Nat} (hij : i < j)
    (hj : j < items.length)
    (h : ∀ text, answers items[j] text = true → answers items[i] text = true) :
    NeverFirst answers items j := by
  intro text hfirst
  obtain ⟨_, hanswers, hbefore⟩ := List.findIdx?_eq_some_iff_getElem.mp hfirst
  exact hbefore i hij (h text hanswers)

theorem exists_lt_of_not_pairwise {R : α → α → Prop} {items : List α} (h : ¬ items.Pairwise R) :
    ∃ (i j : Nat) (hij : i < j) (hj : j < items.length), ¬ R items[i] items[j] := by
  simp only [List.pairwise_iff_getElem, Classical.not_forall] at h
  obtain ⟨i, j, _, hj, hij, hr⟩ := h
  exact ⟨i, j, hij, hj, hr⟩

theorem exists_lt_of_firstHidden? {hides : α → α → Bool} {items : List α} {earlier later : α}
    (h : firstHidden? hides items = some (earlier, later)) :
    ∃ (i j : Nat) (hij : i < j) (hj : j < items.length), items[i] = earlier ∧ items[j] = later := by
  induction items with
  | nil => simp [firstHidden?] at h
  | cons item items ih =>
      simp only [firstHidden?] at h
      cases hf : items.find? (hides item) with
      | none =>
          rw [hf] at h
          obtain ⟨i, j, hij, hj, rfl, rfl⟩ := ih h
          exact ⟨i + 1, j + 1, Nat.succ_lt_succ hij, Nat.succ_lt_succ hj, rfl, rfl⟩
      | some found =>
          rw [hf] at h
          obtain ⟨rfl, rfl⟩ := Prod.mk.injEq .. ▸ Option.some.inj h
          obtain ⟨j, hj, rfl⟩ := List.mem_iff_getElem.mp (List.mem_of_find?_eq_some hf)
          exact ⟨0, j + 1, Nat.succ_pos j, Nat.succ_lt_succ hj, rfl, rfl⟩

end LexicalGrammar
