import LexicalGrammar.Proofs.Boundary
import LexicalGrammar.Proofs.Build
import LexicalGrammar.Proofs.Registry

namespace LexicalGrammar

inductive Probe where
  | comment
  | character
  | string
  | number
  | identifier
  | operator
  | keywordGrammar
  | keyword
  | reservedOperator
deriving DecidableEq, Repr

namespace Configuration

def probeAt (c : Configuration) : Probe → Text → Nat → Option Span
  | .comment, text, offset => probe c.comments.scan text offset
  | .character, text, offset => c.characters.bind fun g => probe g.scan text offset
  | .string, text, offset => probe c.strings.scan text offset
  | .number, text, offset => probe c.numbers.scan text offset
  | .identifier, text, offset => c.identifiers.bind fun g => probe g.scan text offset
  | .operator, text, offset => c.operators.bind fun g => probe g.scan text offset
  | .keywordGrammar, text, offset => probe c.keywordGrammar.scan text offset
  | .keyword, text, offset => c.probeKeyword text offset
  | .reservedOperator, text, offset => c.probeReservedOperator text offset

end Configuration

structure ProbeContract (probe : Text → Nat → Option Span) : Prop where
  refuses : ∀ {text : Text} {offset : Nat},
    width text ≤ offset ∨ InsideCharacter text offset → probe text offset = none
  extent : ∀ {text : Text} {offset : Nat} {s : Span}, probe text offset = some s →
    s.start = offset ∧ offset < s.stop ∧ s.stop ≤ width text ∧ IsBoundary text s.stop
  shifts : ∀ {text rest : Text} {offset : Nat}, suffixAt? text offset = some rest →
    probe text offset = (probe rest 0).map (Span.shift offset)

theorem suffixAt?_width_append_add {front read rest : Text} :
    suffixAt? (front ++ (read ++ rest)) (width front + width read) = some rest := by
  rw [suffixAt?_append_add, suffixAt?_width_append]

theorem Faithful.slice_spanAt {scan : Scanner} (hf : Faithful scan) {text rest : Text} {offset : Nat}
    {l : Lexeme} (hrest : suffixAt? text offset = some rest) (hl : scan rest = some l) :
    (l.spanAt offset).slice text = l.text ∧
      slice? text offset (offset + width l.text) = some l.text := by
  have hwhole : l.whole = rest := hf rest l hl
  obtain ⟨front, rfl, rfl⟩ := suffixAt?_eq_some_iff.mp hrest
  constructor
  · rw [← hwhole, Lexeme.slice_spanAt]
  · exact slice?_eq_some_iff.mpr ⟨l.rest, hrest.trans (congrArg some hwhole.symm), rfl⟩

theorem scan_nil_of_faithful {scan : Scanner} (hf : Faithful scan)
    (hn : ∀ text l, scan text = some l → l.text ≠ []) : scan [] = none := by
  cases hs : scan [] with
  | none => rfl
  | some l => exact absurd (List.append_eq_nil_iff.mp (hf [] l hs)).1 (hn [] l hs)

theorem probeContract_of_scan {scan : Scanner} (hf : Faithful scan)
    (hn : ∀ text l, scan text = some l → l.text ≠ []) : ProbeContract (probe scan) where
  refuses := by
    intro text offset h
    -- An offset that is no boundary is asked at the end of the text, so the empty text must not match.
    have he := scan_nil_of_faithful hf hn
    cases hr : suffixAt? text offset with
    | none => exact probe_eq_none_of_suffixAt? he hr
    | some rest =>
        obtain ⟨front, rfl, rfl⟩ := suffixAt?_eq_some_iff.mp hr
        have hend : rest = [] := by
          rcases h with h | h
          · rw [width_append] at h
            exact eq_nil_of_width_eq_zero (by omega)
          · rw [suffixAt?_eq_none_iff.mpr (Or.inr h)] at hr
            simp at hr
        rw [probe_of_suffixAt? hr, hend, he, Option.map_none]
  extent := by
    intro text offset s h
    cases hr : suffixAt? text offset with
    | none =>
        rw [probe_eq_none_of_suffixAt? (scan_nil_of_faithful hf hn) hr] at h
        simp at h
    | some rest =>
        rw [probe_of_suffixAt? hr] at h
        obtain ⟨l, hl, rfl⟩ := Option.map_eq_some_iff.mp h
        obtain ⟨front, rfl, rfl⟩ := suffixAt?_eq_some_iff.mp hr
        have hpos := width_pos_of_ne_nil (hn rest l hl)
        have hb : IsBoundary (front ++ rest) (width front + width l.text) := by
          rw [← hf rest l hl]
          exact ⟨l.rest, suffixAt?_width_append_add⟩
        exact ⟨rfl, Nat.lt_add_of_pos_right hpos, le_width_of_isBoundary hb, hb⟩
  shifts := by
    intro text rest offset h
    obtain ⟨front, rfl, rfl⟩ := suffixAt?_eq_some_iff.mp h
    exact probe_width_append scan front rest

theorem probeContract_bind {α : Type} {grammar : Option α} {probe : α → Text → Nat → Option Span}
    (h : ∀ g, grammar = some g → ProbeContract (probe g)) :
    ProbeContract fun text offset => grammar.bind fun g => probe g text offset := by
  cases grammar with
  | none => exact ⟨fun _ => rfl, by simp, by simp⟩
  | some g => exact h g rfl

theorem ProbeContract.congr {p q : Text → Nat → Option Span} (h : ProbeContract p)
    (he : ∀ text offset, q text offset = p text offset) : ProbeContract q := by
  obtain rfl : q = p := funext fun text => funext fun offset => he text offset
  exact h

namespace Configuration

theorem probeKeyword_eq (c : Configuration) (text : Text) (offset : Nat) :
    c.probeKeyword text offset = probe c.scanKeyword text offset := by
  cases hr : suffixAt? text offset with
  | none =>
      have hg := scan_nil_of_faithful c.keywordGrammar.faithful
        fun _ _ => IdentifierGrammar.text_ne_nil_of_scan
      have hk := scan_nil_of_faithful c.faithful_scanKeyword fun _ _ => text_ne_nil_of_scanKeyword
      rw [probeKeyword, probe_eq_none_of_suffixAt? hg hr, probe_eq_none_of_suffixAt? hk hr]
      rfl
  | some rest =>
      rw [probeKeyword, probe_of_suffixAt? hr, probe_of_suffixAt? hr, scanKeyword]
      cases hl : c.keywordGrammar.scan rest with
      | none => rfl
      | some l =>
          obtain ⟨hs, _⟩ := c.keywordGrammar.faithful.slice_spanAt hr hl
          simp only [Option.map_some, Option.filter_some, hs]
          split <;> rfl

theorem probeReservedOperator_eq (c : Configuration) (text : Text) (offset : Nat) :
    c.probeReservedOperator text offset = probe c.scanReservedOperator text offset := by
  cases hr : suffixAt? text offset with
  | none =>
      have hs := scan_nil_of_faithful c.faithful_scanReservedOperator
        fun _ _ => text_ne_nil_of_scanReservedOperator
      rw [probeReservedOperator, hr, probe_eq_none_of_suffixAt? hs hr]
      rfl
  | some rest => rw [probeReservedOperator, hr, probe_of_suffixAt? hr, Option.bind_some]

theorem probeContract_of_build {d : Declaration} {c : Configuration} (h : d.build = .ok c)
    (p : Probe) : ProbeContract (c.probeAt p) := by
  have hc := Declaration.proper_of_build h
  have categories (category : Category) : ProbeContract (probe (category.scan c)) :=
    probeContract_of_scan (category.faithful_scan c) fun _ _ => Category.text_ne_nil_of_scan hc
  cases p with
  | comment => exact categories .comment
  | string => exact categories .string
  | number => exact categories .number
  | keywordGrammar => exact categories .word
  | character =>
      refine probeContract_bind fun g hg => probeContract_of_scan g.faithful fun _ _ => ?_
      exact StringGrammar.text_ne_nil_of_scan fun d hd => (hc.characters g hg d hd).1
  | identifier =>
      refine probeContract_bind fun g _ => probeContract_of_scan g.faithful fun _ _ => ?_
      exact IdentifierGrammar.text_ne_nil_of_scan
  | operator =>
      refine probeContract_bind fun g _ => probeContract_of_scan g.faithful fun _ _ => ?_
      exact OperatorGrammar.text_ne_nil_of_scan
  | keyword =>
      refine .congr (probeContract_of_scan c.faithful_scanKeyword fun _ _ => ?_) c.probeKeyword_eq
      exact text_ne_nil_of_scanKeyword
  | reservedOperator =>
      refine .congr (probeContract_of_scan c.faithful_scanReservedOperator fun _ _ => ?_)
        c.probeReservedOperator_eq
      exact text_ne_nil_of_scanReservedOperator

theorem python_string_inside_character :
    Python.declaration.build = .ok Python.declaration.configuration ∧
      Python.declaration.configuration.probeAt .string ['é', 'r', '\'', '\''] 1 = none :=
  ⟨Python.build_eq_ok, (probeContract_of_build Python.build_eq_ok .string).refuses
    (Or.inr ⟨[], 'é', ['r', '\'', '\''], rfl, by decide, by decide⟩)⟩

end Configuration

end LexicalGrammar
