import LexicalGrammar.Lexeme

namespace LexicalGrammar

structure OperatorGrammar where
  symbols : List Char
deriving DecidableEq, Repr

namespace OperatorGrammar

def scan (g : OperatorGrammar) (text : Text) : Option Lexeme :=
  let run := readWhile g.symbols.contains text
  if run.taken.isEmpty then none else some (.ofSplit run)

theorem faithful (g : OperatorGrammar) : Faithful g.scan := by
  intro text l h
  simp only [scan] at h
  split at h
  · simp at h
  · obtain rfl := Option.some.inj h; simp

theorem text_ne_nil_of_scan {g : OperatorGrammar} {text : Text} {l : Lexeme}
    (h : g.scan text = some l) : l.text ≠ [] := by
  simp only [scan] at h
  split at h
  · simp at h
  · next hn => obtain rfl := Option.some.inj h; simpa [Lexeme.ofSplit] using hn

theorem scan_eq_none_iff {g : OperatorGrammar} {text : Text} :
    g.scan text = none ↔ text.head?.any g.symbols.contains = false := by
  cases text with
  | nil => simp [scan, readWhile]
  | cons c rest =>
      simp only [scan, readWhile, List.takeWhile_cons, List.head?_cons, Option.any_some]
      cases hc : g.symbols.contains c with
      | true => simp only [if_true, List.isEmpty_cons, Bool.false_eq_true, if_false, reduceCtorEq]
      | false => simp only [Bool.false_eq_true, if_false, List.isEmpty_nil, if_true]

end OperatorGrammar

def cutsWithin : (bound : Nat) → Text → List Split
  | _, [] => []
  | bound, c :: rest =>
      if c.utf8Size ≤ bound then
        (cutsWithin (bound - c.utf8Size) rest).map (Split.following [c]) ++ [⟨[c], rest⟩]
      else []

theorem mem_cutsWithin_iff {bound : Nat} {text : Text} {s : Split} :
    s ∈ cutsWithin bound text ↔ s.taken ≠ [] ∧ s.whole = text ∧ width s.taken ≤ bound := by
  induction text generalizing bound s with
  | nil =>
      obtain ⟨taken, rest⟩ := s
      cases taken <;> simp [cutsWithin, Split.whole]
  | cons c text ih =>
      simp only [cutsWithin]
      split
      · next hc =>
        simp only [List.mem_append, List.mem_map, List.mem_singleton, ih]
        constructor
        · rintro (⟨t, ⟨hn, rfl, hw⟩, rfl⟩ | rfl)
          · exact ⟨by simp, by simp, by simp; omega⟩
          · exact ⟨by simp, rfl, by simpa using hc⟩
        · obtain ⟨taken, rest⟩ := s
          rintro ⟨hn, hs, hw⟩
          cases taken with
          | nil => simp at hn
          | cons d taken =>
              simp only [Split.whole, List.cons_append, List.cons.injEq] at hs
              obtain ⟨rfl, rfl⟩ := hs
              cases taken with
              | nil => exact Or.inr rfl
              | cons e taken =>
                  refine Or.inl ⟨⟨e :: taken, rest⟩, ⟨by simp, rfl, ?_⟩, rfl⟩
                  simp at hw ⊢
                  omega
      · next hc =>
        obtain ⟨taken, rest⟩ := s
        simp only [List.not_mem_nil, false_iff, not_and, Split.whole]
        intro hn hs
        cases taken with
        | nil => simp at hn
        | cons d taken =>
            simp only [List.cons_append, List.cons.injEq] at hs
            obtain ⟨rfl, rfl⟩ := hs
            simp
            omega

theorem pairwise_cutsWithin (bound : Nat) (text : Text) :
    (cutsWithin bound text).Pairwise fun a b => width b.taken < width a.taken := by
  induction text generalizing bound with
  | nil => exact .nil
  | cons c rest ih =>
      simp only [cutsWithin]
      split
      · refine List.pairwise_append.mpr ⟨?_, List.pairwise_singleton .., ?_⟩
        · refine List.pairwise_map.mpr ((ih _).imp fun h => ?_)
          simpa using h
        · intro a ha b hb
          obtain ⟨t, ht, rfl⟩ := List.mem_map.mp ha
          obtain rfl := List.mem_singleton.mp hb
          have := width_pos_of_ne_nil (mem_cutsWithin_iff.mp ht).1
          simpa using this
      · exact .nil

def longestSpelling? (isSpelling : Text → Bool) (bound : Nat) (text : Text) : Option Split :=
  (cutsWithin bound text).find? fun s => isSpelling s.taken

theorem of_longestSpelling? {isSpelling : Text → Bool} {bound : Nat} {text : Text} {s : Split}
    (h : longestSpelling? isSpelling bound text = some s) :
    s.taken ≠ [] ∧ s.whole = text ∧ isSpelling s.taken = true := by
  have hm := mem_cutsWithin_iff.mp (List.mem_of_find?_eq_some h)
  exact ⟨hm.1, hm.2.1, by simpa using List.find?_some h⟩

theorem width_le_of_longestSpelling? {isSpelling : Text → Bool} {bound : Nat} {text : Text}
    {s t : Split} (h : longestSpelling? isSpelling bound text = some s)
    (ht : t ∈ cutsWithin bound text) (hs : isSpelling t.taken = true) :
    width t.taken ≤ width s.taken := by
  obtain ⟨_, before, after, he, hb⟩ := List.find?_eq_some_iff_append.mp h
  have hp := pairwise_cutsWithin bound text
  rw [he] at ht hp
  rcases List.mem_append.mp ht with hm | hm
  · simp only [Bool.not_eq_true'] at hb
    rw [hb t hm] at hs
    simp at hs
  · rcases List.mem_cons.mp hm with rfl | hm
    · exact Nat.le_refl _
    · exact Nat.le_of_lt ((List.pairwise_cons.mp (List.pairwise_append.mp hp).2.1).1 t hm)

theorem longestSpelling?_eq_some_iff {isSpelling : Text → Bool} {bound : Nat} {text : Text}
    {s : Split} :
    longestSpelling? isSpelling bound text = some s ↔
      s ∈ cutsWithin bound text ∧ isSpelling s.taken = true ∧
        ∀ t ∈ cutsWithin bound text, isSpelling t.taken = true → width t.taken ≤ width s.taken := by
  constructor
  · intro h
    exact ⟨List.mem_of_find?_eq_some h, (of_longestSpelling? h).2.2,
      fun t ht hs => width_le_of_longestSpelling? h ht hs⟩
  · rintro ⟨hm, hs, hmax⟩
    obtain ⟨t, ht⟩ : ∃ t, longestSpelling? isSpelling bound text = some t := by
      refine Option.isSome_iff_exists.mp (List.find?_isSome.mpr ⟨s, hm, hs⟩)
    have htm := List.mem_of_find?_eq_some ht
    have hle := width_le_of_longestSpelling? ht hm hs
    have hge := hmax t htm (of_longestSpelling? ht).2.2
    have hw : t.whole = s.whole := by
      rw [(mem_cutsWithin_iff.mp htm).2.1, (mem_cutsWithin_iff.mp hm).2.1]
    obtain ⟨htaken, hrest⟩ := append_inj_of_width_eq hw (Nat.le_antisymm hge hle)
    rw [ht]
    cases t
    cases s
    simp_all

theorem longestSpelling?_eq_none_iff {isSpelling : Text → Bool} {bound : Nat} {text : Text} :
    longestSpelling? isSpelling bound text = none ↔
      ∀ s ∈ cutsWithin bound text, isSpelling s.taken = false := by
  simp [longestSpelling?]

end LexicalGrammar
