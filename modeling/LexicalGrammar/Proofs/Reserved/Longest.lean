import LexicalGrammar.Proofs.Declaration.Realized
import LexicalGrammar.Proofs.Probe
import Mathlib.Data.List.Sort

namespace LexicalGrammar

def beginnings (bound : Nat) (text : Text) : List Text :=
  (List.range' 1 (min bound (width text))).reverse.filterMap (slice? text 0)

theorem mem_beginnings_iff {bound : Nat} {text op : Text} :
    op ∈ beginnings bound text ↔ op ≠ [] ∧ op <+: text ∧ width op ≤ bound := by
  simp only [beginnings, List.mem_filterMap, List.mem_reverse, List.mem_range'_1,
    slice?_eq_some_iff, suffixAt?_zero, Option.some.injEq]
  constructor
  · rintro ⟨n, hn, back, rfl, rfl⟩
    refine ⟨?_, List.prefix_append op back, by omega⟩
    rintro rfl
    simp at hn
  · rintro ⟨hne, ⟨back, rfl⟩, hbound⟩
    have hpos := width_pos_of_ne_nil hne
    refine ⟨width op, ?_, back, rfl, (Nat.zero_add _).symm⟩
    rw [width_append]
    omega

theorem pairwise_beginnings (bound : Nat) (text : Text) :
    (beginnings bound text).Pairwise fun a b => width b < width a := by
  refine List.pairwise_filterMap.mpr (List.pairwise_reverse.mpr ?_)
  refine (List.pairwise_lt_range' ..).imp fun hlt a ha b hb => ?_
  obtain ⟨_, _, rfl⟩ := slice?_eq_some_iff.mp ha
  obtain ⟨_, _, rfl⟩ := slice?_eq_some_iff.mp hb
  omega

theorem taken_cutsWithin (bound : Nat) (text : Text) :
    (cutsWithin bound text).map Split.taken = beginnings bound text := by
  -- Both lists come by falling widths, so it is enough that they have the same members.
  have : Std.Asymm fun a b : Text => width b < width a := ⟨fun _ _ => Nat.lt_asymm⟩
  refine List.Pairwise.eq_of_mem_iff (List.pairwise_map.mpr (pairwise_cutsWithin bound text))
    (pairwise_beginnings bound text) fun op => ?_
  rw [List.mem_map, mem_beginnings_iff]
  constructor
  · rintro ⟨s, hs, rfl⟩
    obtain ⟨hne, hwhole, hbound⟩ := mem_cutsWithin_iff.mp hs
    exact ⟨hne, ⟨s.rest, hwhole⟩, hbound⟩
  · rintro ⟨hne, ⟨back, hwhole⟩, hbound⟩
    exact ⟨⟨op, back⟩, mem_cutsWithin_iff.mpr ⟨hne, hwhole, hbound⟩, rfl⟩

theorem taken_longestSpelling? (isSpelling : Text → Bool) (bound : Nat) (text : Text) :
    (longestSpelling? isSpelling bound text).map Split.taken =
      (beginnings bound text).find? isSpelling := by
  rw [← taken_cutsWithin, List.find?_map]
  rfl

namespace Configuration

variable {d : Declaration} {c : Configuration} {rest : Text}

def operatorByWidth? (c : Configuration) (text : Text) (offset : Nat) : Option Span :=
  (suffixAt? text offset).bind fun rest =>
    ((beginnings c.longestOperator rest).find? c.isReservedOperator).map fun op =>
      ⟨offset, offset + width op, true⟩

theorem probeReservedOperator_eq_byWidth (c : Configuration) (text : Text) (offset : Nat) :
    c.probeReservedOperator text offset = c.operatorByWidth? text offset := by
  unfold probeReservedOperator operatorByWidth? scanReservedOperator
  simp only [← taken_longestSpelling?, Option.map_map]
  rfl

structure LongestAt (c : Configuration) (rest op : Text) : Prop where
  reserved : c.isReservedOperator op = true
  begins : op <+: rest
  longest : ∀ other, c.isReservedOperator other = true → other <+: rest → width other ≤ width op

theorem Realizes.mem_cutsWithin (hc : c.Realizes d) {op back : Text}
    (hop : c.isReservedOperator op = true) :
    ⟨op, back⟩ ∈ cutsWithin c.longestOperator (op ++ back) := by
  have hm : op ∈ d.reservedOperators := (hc.operators op).mp hop
  have hne : op ≠ [] := by
    rintro rfl
    exact hc.wellFormed.operators_nonempty (Vocabulary.contains_iff.mp hop)
  have hbound := (hc.longest (List.ne_nil_of_mem hm)).2 ⟨op, hm, rfl⟩
  exact mem_cutsWithin_iff.mpr ⟨hne, rfl, hbound⟩

theorem Realizes.longestAt (hc : c.Realizes d) {l : Lexeme}
    (h : c.scanReservedOperator rest = some l) : c.LongestAt rest l.text := by
  obtain ⟨s, hs, rfl⟩ := Option.map_eq_some_iff.mp h
  obtain ⟨hne, rfl, hop⟩ := of_longestSpelling? hs
  refine ⟨hop, List.prefix_append s.taken s.rest, ?_⟩
  rintro other hother ⟨back, hback⟩
  exact width_le_of_longestSpelling? hs (hback ▸ hc.mem_cutsWithin hother) hother

theorem Realizes.isSome_scanReservedOperator_iff (hc : c.Realizes d) :
    (c.scanReservedOperator rest).isSome = true ↔
      ∃ op, c.isReservedOperator op = true ∧ op <+: rest := by
  constructor
  · intro h
    obtain ⟨l, hl⟩ := Option.isSome_iff_exists.mp h
    have hlongest := hc.longestAt hl
    exact ⟨l.text, hlongest.reserved, hlongest.begins⟩
  · rintro ⟨op, hop, back, rfl⟩
    rw [scanReservedOperator, Option.isSome_map, longestSpelling?, List.find?_isSome]
    exact ⟨_, hc.mem_cutsWithin hop, hop⟩

theorem closed_of_scanReservedOperator {l : Lexeme} (h : c.scanReservedOperator rest = some l) :
    l.closed = true := by
  obtain ⟨s, _, rfl⟩ := Option.map_eq_some_iff.mp h
  rfl

theorem probeReservedOperator_longest (h : d.build = .ok c) (text : Text) (offset : Nat) :
    c.probeReservedOperator text offset = c.operatorByWidth? text offset ∧
    ((c.probeReservedOperator text offset).isSome = true ↔
      ∃ rest, suffixAt? text offset = some rest ∧
        ∃ op, c.isReservedOperator op = true ∧ op <+: rest) ∧
    ∀ m, c.probeReservedOperator text offset = some m →
      m.start = offset ∧ m.closed = true ∧
        slice? text m.start m.stop = some (m.slice text) ∧
        ∃ rest, suffixAt? text offset = some rest ∧ c.LongestAt rest (m.slice text) := by
  have hc := realizes_of_build h
  refine ⟨c.probeReservedOperator_eq_byWidth text offset, ?_, fun m hm => ?_⟩
  · cases hrest : suffixAt? text offset with
    | none => simp [probeReservedOperator, hrest]
    | some rest => simp [probeReservedOperator, hrest, hc.isSome_scanReservedOperator_iff]
  · obtain ⟨rest, hrest, hscan⟩ := Option.bind_eq_some_iff.mp hm
    obtain ⟨l, hl, rfl⟩ := Option.map_eq_some_iff.mp hscan
    obtain ⟨hslice, hmid⟩ := c.faithful_scanReservedOperator.slice_spanAt hrest hl
    rw [hslice]
    exact ⟨rfl, closed_of_scanReservedOperator hl, hmid, rest, hrest, hc.longestAt hl⟩

def arrows : Declaration where
  name := "Arrows"
  reservedOperators := spellings ["-", "->", "→", "→→", "→→→"]

theorem arrows_longest :
    arrows.build = .ok arrows.configuration ∧
      arrows.configuration.probeReservedOperator ['a', '→', '→', 'ü'] 1 = some ⟨1, 7, true⟩ ∧
      arrows.configuration.LongestAt ['→', '→', 'ü'] ['→', '→'] := by
  have hbuild : arrows.build = .ok arrows.configuration :=
    Declaration.build_eq_ok_iff.mpr ⟨by decide +kernel, rfl⟩
  have hprobe : arrows.configuration.probeReservedOperator ['a', '→', '→', 'ü'] 1 =
      some ⟨1, 7, true⟩ := by decide +kernel
  obtain ⟨_, _, hspan⟩ := probeReservedOperator_longest hbuild ['a', '→', '→', 'ü'] 1
  obtain ⟨_, _, _, rest, hrest, hlongest⟩ := hspan _ hprobe
  obtain rfl : ['→', '→', 'ü'] = rest := Option.some.inj hrest
  exact ⟨hbuild, hprobe, hlongest⟩

end Configuration

end LexicalGrammar
