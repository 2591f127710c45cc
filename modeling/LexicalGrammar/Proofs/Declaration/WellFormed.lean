import LexicalGrammar.Clause
import Mathlib.Order.Bounds.Defs

namespace LexicalGrammar

def ReadsInFull (scan : Scanner) (word : Text) : Prop := scan word = some ⟨word, true, []⟩

theorem accepts_iff_readsInFull {scan : Scanner} (hf : Faithful scan) {word : Text} :
    accepts scan word = true ↔ ReadsInFull scan word := by
  rw [accepts_iff]
  constructor
  · rintro ⟨⟨text, closed, rest⟩, hl, rfl, rfl⟩
    have hw : text ++ [] = word := hf word _ hl
    rw [List.append_nil] at hw
    rw [ReadsInFull, hl, hw]
  · exact fun h => ⟨_, h, rfl, rfl⟩

structure Surface.WellFormed (s : Surface) (identifiers operators : List Text) : Prop where
  strings : s.strings.defect? = none
  characters : ∀ g, s.characters = some g → g.defect? = none
  numbers : s.numbers.defect? = none
  comments : s.comments.defect? = none
  identifiers_nonempty : [] ∉ identifiers
  operators_nonempty : [] ∉ operators
  apart : ∀ word ∈ identifiers, word ∉ operators
  readable : ∀ word ∈ identifiers, ReadsInFull s.keywordGrammar.scan word

theorem Surface.WellFormed.mono {s : Surface} {identifiers operators words spellings : List Text}
    (h : s.WellFormed identifiers operators) (hi : ∀ word ∈ words, word ∈ identifiers)
    (ho : ∀ spelling ∈ spellings, spelling ∈ operators) : s.WellFormed words spellings where
  strings := h.strings
  characters := h.characters
  numbers := h.numbers
  comments := h.comments
  identifiers_nonempty := fun hm => h.identifiers_nonempty (hi [] hm)
  operators_nonempty := fun hm => h.operators_nonempty (ho [] hm)
  apart := fun word hm hs => h.apart word (hi word hm) (ho word hs)
  readable := fun word hm => h.readable word (hi word hm)

def IsFirst (p : Text → Prop) (words : List Text) (word : Text) : Prop :=
  ∃ before after, words = before ++ word :: after ∧ p word ∧ ∀ w ∈ before, ¬ p w

theorem find?_eq_some_iff_isFirst {p : Text → Bool} {words : List Text} {word : Text} :
    words.find? p = some word ↔ IsFirst (p · = true) words word := by
  simp only [List.find?_eq_some_iff_append, IsFirst, Bool.not_eq_true', Bool.not_eq_true]
  constructor
  · rintro ⟨hp, before, after, hw, hb⟩
    exact ⟨before, after, hw, hp, hb⟩
  · rintro ⟨before, after, hw, hp, hb⟩
    exact ⟨hp, before, after, hw, hb⟩

inductive Rule where
  | strings
  | characters
  | numbers
  | comments
  | nonemptyIdentifiers
  | nonemptyOperators
  | apart
  | readable
deriving DecidableEq, Repr

def Rule.order : List Rule :=
  [strings, characters, numbers, comments, nonemptyIdentifiers, nonemptyOperators, apart, readable]

namespace Declaration

def WellFormed (d : Declaration) : Prop :=
  d.toSurface.WellFormed d.reservedIdentifiers d.reservedOperators

inductive Breaks (d : Declaration) : Rule → Defect → Prop
  | strings {defect : Defect} (h : d.strings.defect? = some defect) : d.Breaks .strings defect
  | characters {g : StringGrammar} {defect : Defect} (hg : d.characters = some g)
      (h : g.defect? = some defect) : d.Breaks .characters defect
  | numbers {defect : Defect} (h : d.numbers.defect? = some defect) : d.Breaks .numbers defect
  | comments {defect : Defect} (h : d.comments.defect? = some defect) : d.Breaks .comments defect
  | emptyIdentifier (h : [] ∈ d.reservedIdentifiers) :
      d.Breaks .nonemptyIdentifiers (.emptyReserved d.name)
  | emptyOperator (h : [] ∈ d.reservedOperators) :
      d.Breaks .nonemptyOperators (.emptyReserved d.name)
  | reservedTwice {word : Text} (h : IsFirst (· ∈ d.reservedOperators) d.reservedIdentifiers word) :
      d.Breaks .apart (.reservedTwice d.name word)
  | notAnIdentifier {word : Text}
      (h : IsFirst (¬ ReadsInFull d.keywordGrammar.scan ·) d.reservedIdentifiers word) :
      d.Breaks .readable (.notAnIdentifier d.name word)

def BreaksFirst (d : Declaration) (defect : Defect) : Prop :=
  ∃ before rule after, Rule.order = before ++ rule :: after ∧ d.Breaks rule defect
    ∧ ∀ r ∈ before, ∀ e, ¬ d.Breaks r e

def broken? (d : Declaration) : Rule → Option Defect
  | .strings => d.strings.defect?
  | .characters => d.characters.bind StringGrammar.defect?
  | .numbers => d.numbers.defect?
  | .comments => d.comments.defect?
  | .nonemptyIdentifiers => if [] ∈ d.reservedIdentifiers then some (.emptyReserved d.name) else none
  | .nonemptyOperators => if [] ∈ d.reservedOperators then some (.emptyReserved d.name) else none
  | .apart => d.reservedTwice?.map (.reservedTwice d.name)
  | .readable => d.notAnIdentifier?.map (.notAnIdentifier d.name)

variable {d : Declaration}

theorem reservedTwice?_eq_some_iff {word : Text} :
    d.reservedTwice? = some word ↔ IsFirst (· ∈ d.reservedOperators) d.reservedIdentifiers word := by
  simp only [reservedTwice?, find?_eq_some_iff_isFirst, List.contains_iff_mem]

theorem notAnIdentifier?_eq_some_iff {word : Text} :
    d.notAnIdentifier? = some word ↔
      IsFirst (¬ ReadsInFull d.keywordGrammar.scan ·) d.reservedIdentifiers word := by
  simp only [notAnIdentifier?, find?_eq_some_iff_isFirst, Bool.not_eq_true', ← Bool.not_eq_true,
    accepts_iff_readsInFull (IdentifierGrammar.faithful _)]

theorem broken?_eq_some_iff {rule : Rule} {defect : Defect} :
    d.broken? rule = some defect ↔ d.Breaks rule defect := by
  constructor
  · intro h
    cases rule with
    | strings => exact .strings h
    | numbers => exact .numbers h
    | comments => exact .comments h
    | characters =>
        obtain ⟨g, hg, he⟩ := Option.bind_eq_some_iff.mp h
        exact .characters hg he
    | nonemptyIdentifiers =>
        obtain ⟨hm, he⟩ := Option.ite_none_right_eq_some.mp h
        obtain rfl := Option.some.inj he
        exact .emptyIdentifier hm
    | nonemptyOperators =>
        obtain ⟨hm, he⟩ := Option.ite_none_right_eq_some.mp h
        obtain rfl := Option.some.inj he
        exact .emptyOperator hm
    | apart =>
        obtain ⟨word, hw, rfl⟩ := Option.map_eq_some_iff.mp h
        exact .reservedTwice (reservedTwice?_eq_some_iff.mp hw)
    | readable =>
        obtain ⟨word, hw, rfl⟩ := Option.map_eq_some_iff.mp h
        exact .notAnIdentifier (notAnIdentifier?_eq_some_iff.mp hw)
  · intro h
    cases h with
    | strings h => exact h
    | numbers h => exact h
    | comments h => exact h
    | characters hg h => exact Option.bind_eq_some_iff.mpr ⟨_, hg, h⟩
    | emptyIdentifier h => exact if_pos h
    | emptyOperator h => exact if_pos h
    | reservedTwice h => exact Option.map_eq_some_iff.mpr ⟨_, reservedTwice?_eq_some_iff.mpr h, rfl⟩
    | notAnIdentifier h =>
        exact Option.map_eq_some_iff.mpr ⟨_, notAnIdentifier?_eq_some_iff.mpr h, rfl⟩

theorem broken?_eq_none_iff {rule : Rule} : d.broken? rule = none ↔ ∀ e, ¬ d.Breaks rule e := by
  simp only [Option.eq_none_iff_forall_ne_some, ne_eq, broken?_eq_some_iff]

theorem hasEmptyReserved_iff :
    d.hasEmptyReserved = true ↔ [] ∈ d.reservedIdentifiers ∨ [] ∈ d.reservedOperators := by
  simp [hasEmptyReserved]

theorem defect?_eq_findSome? (d : Declaration) : d.defect? = Rule.order.findSome? d.broken? := by
  have hempty : (if d.hasEmptyReserved then some (Defect.emptyReserved d.name) else none) =
      (d.broken? .nonemptyIdentifiers).or (d.broken? .nonemptyOperators) := by
    simp only [hasEmptyReserved_iff, broken?]
    by_cases hi : [] ∈ d.reservedIdentifiers <;> simp [hi]
  have hcons (rule : Rule) (rules : List Rule) :
      (rule :: rules).findSome? d.broken? = (d.broken? rule).or (rules.findSome? d.broken?) := by
    rw [List.findSome?_cons]
    cases d.broken? rule <;> rfl
  simp only [Rule.order, hcons, List.findSome?_nil, Option.or_none]
  simp only [defect?, Option.orElse_eq_orElse, Option.orElse_eq_or]
  rw [hempty, Option.or_assoc]
  rfl

theorem build_eq_error_iff_breaksFirst {defect : Defect} :
    d.build = .error defect ↔ d.BreaksFirst defect := by
  simp only [build_eq_error_iff, defect?_eq_findSome?, List.findSome?_eq_some_iff, BreaksFirst,
    broken?_eq_some_iff, broken?_eq_none_iff]

theorem reservedTwice?_eq_none_iff :
    d.reservedTwice? = none ↔ ∀ word ∈ d.reservedIdentifiers, word ∉ d.reservedOperators := by
  simp [reservedTwice?]

theorem notAnIdentifier?_eq_none_iff :
    d.notAnIdentifier? = none ↔
      ∀ word ∈ d.reservedIdentifiers, ReadsInFull d.keywordGrammar.scan word := by
  simp [notAnIdentifier?, accepts_iff_readsInFull (IdentifierGrammar.faithful _)]

theorem wellFormed_iff : d.WellFormed ↔ d.defect? = none := by
  rw [defect?_eq_none_iff, ← Bool.not_eq_true, hasEmptyReserved_iff, not_or,
    reservedTwice?_eq_none_iff, notAnIdentifier?_eq_none_iff]
  constructor
  · intro h
    exact ⟨h.strings, h.characters, h.numbers, h.comments,
      ⟨h.identifiers_nonempty, h.operators_nonempty⟩, h.apart, h.readable⟩
  · rintro ⟨hs, hc, hn, hm, ⟨hi, ho⟩, ha, hr⟩
    exact ⟨hs, hc, hn, hm, hi, ho, ha, hr⟩

theorem exists_build_iff : (∃ c, d.build = .ok c) ↔ d.WellFormed := by
  simp only [build_eq_ok_iff, wellFormed_iff, exists_and_left, exists_eq', and_true]

end Declaration

end LexicalGrammar
