import LexicalGrammar.Lexeme

namespace LexicalGrammar

structure CutStable (scan : Scanner) : Prop where
  keeps : ∀ {text front back : Text} {l : Lexeme}, scan text = some l → l.rest = front ++ back →
    scan (l.text ++ front) = some { l with rest := front }
  refuses : ∀ {front : Text} (back : Text), scan (front ++ back) = none → scan front = none

structure PartStable (part : Text → Option Split) : Prop where
  keeps : ∀ {text front back : Text} {s : Split}, part text = some s → s.rest = front ++ back →
    part (s.taken ++ front) = some ⟨s.taken, front⟩
  refuses : ∀ {front : Text} (back : Text), part (front ++ back) = none → part front = none

def RunStable (run : Text → Split) : Prop :=
  ∀ {text front back : Text}, (run text).rest = front ++ back →
    run ((run text).taken ++ front) = ⟨(run text).taken, front⟩

theorem Split.eq_cut {s : Split} {text front back : Text} (hw : s.whole = text)
    (hr : s.rest = front ++ back) : text = (s.taken ++ front) ++ back := by
  rw [← hw, Split.whole, hr, List.append_assoc]

theorem Lexeme.eq_cut {l : Lexeme} {text front back : Text} (hw : l.whole = text)
    (hr : l.rest = front ++ back) : text = (l.text ++ front) ++ back := by
  rw [← hw, Lexeme.whole, hr, List.append_assoc]

theorem PartStable.ofSplit {part : Text → Option Split} (h : PartStable part) :
    CutStable fun text => (part text).map Lexeme.ofSplit where
  keeps := by
    intro text front back l hl hr
    obtain ⟨s, hs, rfl⟩ := Option.map_eq_some_iff.mp hl
    have hk := h.keeps hs (show s.rest = front ++ back from hr)
    simp only [Lexeme.ofSplit, hk, Option.map_some]
  refuses := by
    intro front back hn
    simp only [Option.map_eq_none_iff] at hn ⊢
    exact h.refuses back hn

theorem faithful_ofSplit {part : Text → Option Split}
    (h : ∀ text s, part text = some s → s.whole = text) :
    Faithful fun text => (part text).map Lexeme.ofSplit := by
  intro text l hl
  obtain ⟨s, hs, rfl⟩ := Option.map_eq_some_iff.mp hl
  exact h text s hs

theorem PartStable.exists_of_append {part : Text → Option Split} (h : PartStable part)
    {front : Text} {s : Split} (hs : part front = some s) (back : Text) :
    ∃ t, part (front ++ back) = some t := by
  cases hp : part (front ++ back) with
  | none => rw [h.refuses back hp] at hs; simp at hs
  | some t => exact ⟨t, rfl⟩

theorem CutStable.exists_of_accepts {scan : Scanner} (hc : CutStable scan) (hf : Faithful scan)
    {word : Text} (h : accepts scan word = true) (back : Text) :
    ∃ l, scan (word ++ back) = some l ∧ width word ≤ width l.text := by
  obtain ⟨own, hown, -, hend⟩ := accepts_iff.mp h
  cases hl : scan (word ++ back) with
  | none => simp [hc.refuses back hl] at hown
  | some l =>
      refine ⟨l, rfl, Nat.le_of_not_lt fun hshort => ?_⟩
      -- A literal that ends sooner would end there in the word by itself too.
      obtain ⟨front, rfl, hrest⟩ := exists_append_of_width_le (hf _ l hl) (by omega)
      rw [hc.keeps hl hrest] at hown
      obtain rfl := Option.some.inj hown
      obtain rfl : front = [] := hend
      simp at hshort

theorem readWhile_of_head? {p : Char → Bool} {rest : Text} (h : rest.head?.any p = false) :
    readWhile p rest = ⟨[], rest⟩ := by
  cases rest with
  | nil => rfl
  | cons c rest =>
      have hc : p c = false := by simpa using h
      simp [readWhile, hc]

theorem readWhile_append {p : Char → Bool} {taken : Text} (ht : ∀ c ∈ taken, p c = true)
    (rest : Text) : readWhile p (taken ++ rest) = (readWhile p rest).following taken := by
  simp only [readWhile, List.takeWhile_append_of_pos ht, List.dropWhile_append_of_pos ht]
  rfl

theorem all_taken_readWhile (p : Char → Bool) (text : Text) :
    ∀ c ∈ (readWhile p text).taken, p c = true := by
  intro c hc
  exact (List.all_eq_true.mp List.all_takeWhile) c hc

theorem head?_rest_readWhile (p : Char → Bool) (text : Text) :
    (readWhile p text).rest.head?.any p = false := by
  induction text with
  | nil => rfl
  | cons c text ih =>
      simp only [readWhile, List.dropWhile_cons] at ih ⊢
      cases hc : p c with
      | true => simpa using ih
      | false => simp [hc]

theorem head?_any_of_append {p : Char → Bool} {front back : Text}
    (h : (front ++ back).head?.any p = false) : front.head?.any p = false := by
  cases front with
  | nil => rfl
  | cons c front => simpa using h

theorem head?_any_append {p : Char → Bool} {front : Text} (hne : front ≠ [])
    (h : front.head?.any p = false) (back : Text) : (front ++ back).head?.any p = false := by
  obtain ⟨c, rest, rfl⟩ := List.exists_cons_of_ne_nil hne
  exact h

theorem head?_any_append_of {p : Char → Bool} {front rest : Text} (hf : front.head?.any p = false)
    (hr : rest.head?.any p = false) : (front ++ rest).head?.any p = false := by
  cases front with
  | nil => exact hr
  | cons c front => exact hf

theorem runStable_readWhile (p : Char → Bool) : RunStable (readWhile p) := by
  intro text front back hr
  have hh := head?_rest_readWhile p text
  rw [hr] at hh
  rw [readWhile_append (all_taken_readWhile p text), readWhile_of_head? (head?_any_of_append hh)]
  simp [Split.following]

theorem readOne_cons_append (p : Char → Bool) (c : Char) (front back : Text) :
    readOne p (c :: front ++ back) =
      ⟨(readOne p (c :: front)).taken, (readOne p (c :: front)).rest ++ back⟩ := by
  simp only [List.cons_append, readOne]
  split <;> rfl

theorem taken_readOne (p : Char → Bool) (text : Text) :
    (readOne p text).taken = (text.head?.filter p).toList := by
  cases text with
  | nil => rfl
  | cons c rest => cases hc : p c <;> simp [readOne, Split.untouched, Option.filter, hc]

theorem readOne_toList {p : Char → Bool} {c? : Option Char} {rest : Text}
    (hc : ∀ c, c? = some c → p c = true) (hr : rest.head?.any p = false) :
    readOne p (c?.toList ++ rest) = ⟨c?.toList, rest⟩ := by
  cases c? with
  | some c => simp [readOne, hc c rfl]
  | none =>
      cases rest with
      | nil => rfl
      | cons d rest =>
          have hd : p d = false := hr
          simp [readOne, hd, Split.untouched]

theorem runStable_readOne (p : Char → Bool) : RunStable (readOne p) := by
  intro text front back hr
  cases text with
  | nil =>
      have hf : front = [] := (List.append_eq_nil_iff.mp hr.symm).1
      subst hf
      rfl
  | cons c rest =>
      cases hc : p c with
      | true => simp [readOne, hc]
      | false =>
          simp only [readOne, hc, Bool.false_eq_true, if_false, Split.untouched] at hr ⊢
          cases front with
          | nil => rfl
          | cons d front =>
              obtain ⟨rfl, _⟩ := List.cons.inj hr
              simp [hc]

theorem runStable_readOptional {part : Text → Option Split} (h : PartStable part) :
    RunStable (readOptional part) := by
  intro text front back hr
  cases hp : part text with
  | some s =>
      simp only [readOptional, hp, Option.getD_some] at hr ⊢
      rw [h.keeps hp hr, Option.getD_some]
  | none =>
      simp only [readOptional, hp, Option.getD_none, Split.untouched] at hr ⊢
      subst hr
      simp [h.refuses back hp]

theorem after?_append_of_some {opening text rest : Text} (h : after? opening text = some rest)
    (back : Text) : after? opening (text ++ back) = some (rest ++ back) := by
  rw [after?_eq_some_iff] at h ⊢
  rw [h, List.append_assoc]

theorem after?_eq_none_of_append {opening front back : Text}
    (h : after? opening (front ++ back) = none) : after? opening front = none := by
  cases hf : after? opening front with
  | none => rfl
  | some rest => rw [after?_append_of_some hf back] at h; simp at h

theorem findSome?_keeps {α β γ : Type} (f : α → β → Option γ) {items : List α} {b b' : β} {r r' : γ}
    (hs : ∀ item ∈ items, f item b = some r → f item b' = some r')
    (hn : ∀ item ∈ items, f item b = none → f item b' = none)
    (h : items.findSome? (f · b) = some r) : items.findSome? (f · b') = some r' := by
  induction items with
  | nil => simp at h
  | cons item items ih =>
      rw [List.findSome?_cons] at h ⊢
      cases hf : f item b with
      | some x =>
          rw [hf] at h
          obtain rfl := Option.some.inj h
          rw [hs item (by simp) hf]
      | none =>
          rw [hf] at h
          rw [hn item (by simp) hf]
          exact ih (fun i hi => hs i (List.mem_cons_of_mem _ hi))
            (fun i hi => hn i (List.mem_cons_of_mem _ hi)) h

end LexicalGrammar
