import LexicalGrammar.Proofs.Cut.Basic
import Mathlib.Order.Bounds.Defs

namespace LexicalGrammar

structure ReadsLongest (scan : Scanner) (Word : Text → Prop) (text : Text) : Prop where
  word : ∀ l, scan text = some l → Word l.text
  noLess : ∀ word, Word word → word <+: text →
    ∃ l, scan text = some l ∧ width word ≤ width l.text

namespace ReadsLongest

variable {scan : Scanner} {Word : Text → Prop} {text : Text} {l : Lexeme}

theorem isSome_iff (h : ReadsLongest scan Word text) (hf : Faithful scan) :
    (scan text).isSome = true ↔ ∃ word, Word word ∧ word <+: text := by
  constructor
  · intro hs
    obtain ⟨l, hl⟩ := Option.isSome_iff_exists.mp hs
    exact ⟨l.text, h.word l hl, l.rest, hf text l hl⟩
  · rintro ⟨word, hword, hprefix⟩
    obtain ⟨l, hl, -⟩ := h.noLess word hword hprefix
    rw [hl]
    rfl

theorem isGreatest (h : ReadsLongest scan Word text) (hf : Faithful scan)
    (hl : scan text = some l) (offset : Nat) :
    IsGreatest {n | ∃ word, Word word ∧ word <+: text ∧ n = offset + width word}
      (offset + width l.text) := by
  refine ⟨⟨l.text, h.word l hl, ⟨l.rest, hf text l hl⟩, rfl⟩, ?_⟩
  rintro _ ⟨word, hword, hprefix, rfl⟩
  obtain ⟨other, hother, hle⟩ := h.noLess word hword hprefix
  obtain rfl := Option.some.inj (hother.symm.trans hl)
  exact Nat.add_le_add_left hle offset

theorem rest_eq_nil (h : ReadsLongest scan Word text) (hf : Faithful scan) (hword : Word text)
    (hl : scan text = some l) : l.rest = [] := by
  obtain ⟨other, hother, hle⟩ := h.noLess text hword List.prefix_rfl
  obtain rfl := Option.some.inj (hother.symm.trans hl)
  have hwhole := congrArg width (hf text _ hl)
  rw [Lexeme.whole, width_append] at hwhole
  exact eq_nil_of_width_eq_zero (by omega)

end ReadsLongest

theorem PartStable.readsLongest {part : Text → Option Split} {Word : Text → Prop}
    (h : PartStable part) (hwhole : ∀ text s, part text = some s → s.whole = text)
    (hsound : ∀ text s, part text = some s → Word s.taken)
    (halone : ∀ word, Word word → part word = some ⟨word, []⟩) (text : Text) :
    ReadsLongest (fun text => (part text).map Lexeme.ofSplit) Word text where
  word l hl := by
    obtain ⟨s, hs, rfl⟩ := Option.map_eq_some_iff.mp hl
    exact hsound text s hs
  noLess := by
    rintro word hword ⟨back, rfl⟩
    have haccepts : accepts (fun text => (part text).map Lexeme.ofSplit) word = true :=
      accepts_iff.mpr ⟨_, congrArg _ (halone word hword), rfl, rfl⟩
    exact h.ofSplit.exists_of_accepts (faithful_ofSplit hwhole) haccepts back

end LexicalGrammar
