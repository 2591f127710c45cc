import LexicalGrammar.Proofs.Probe
import LexicalGrammar.Proofs.Splitting

namespace LexicalGrammar

namespace Category

def probeAt (c : Configuration) : Category → Text → Nat → Option Span
  | comment => c.probeAt .comment
  | character => c.probeAt .character
  | string => c.probeAt .string
  | number => c.probeAt .number
  | word => if c.identifiers.isSome then c.probeAt .identifier else c.probeAt .keywordGrammar
  | operator => if c.operators.isSome then c.probeAt .operator else c.probeAt .reservedOperator
  | bracket => probe (single c.isBracket)
  | plain => probe (single fun _ => true)

theorem probeAt_of_suffixAt? {c : Configuration} {text rest : Text} {offset : Nat}
    (h : suffixAt? text offset = some rest) (category : Category) :
    category.probeAt c text offset = (category.scan c rest).map (Lexeme.spanAt offset) := by
  have keyword : Surface.keywordGrammar c.toSurface = c.identifiers.getD .ascii := rfl
  cases category with
  | comment => exact probe_of_suffixAt? h
  | string => exact probe_of_suffixAt? h
  | number => exact probe_of_suffixAt? h
  | bracket => exact probe_of_suffixAt? h
  | plain => exact probe_of_suffixAt? h
  | character =>
      cases hg : c.characters with
      | none => simp [probeAt, Configuration.probeAt, scan, hg]
      | some g => simpa [probeAt, Configuration.probeAt, scan, hg] using probe_of_suffixAt? h
  | word =>
      cases hg : c.identifiers with
      | none =>
          simpa [probeAt, Configuration.probeAt, scan, hg] using probe_of_suffixAt? h
      | some g =>
          simpa [probeAt, Configuration.probeAt, scan, hg, keyword] using probe_of_suffixAt? h
  | operator =>
      cases hg : c.operators with
      | none =>
          simp [probeAt, Configuration.probeAt, Configuration.probeReservedOperator, scan,
            Configuration.scanOperator, hg, h]
      | some g =>
          simpa [probeAt, Configuration.probeAt, scan, Configuration.scanOperator, hg]
            using probe_of_suffixAt? h

end Category

def IsFirstMatch (c : Configuration) (text : Text) (t : Token) : Prop :=
  ∃ before category after, Category.precedence = before ++ category :: after
    ∧ (∀ k ∈ before, k.probeAt c text t.start = none)
    ∧ category.probeAt c text t.start = some t.span ∧ t.kind = category.kind c t.text

def IsBlank (text : Text) (start stop : Nat) : Prop :=
  ∃ gap, slice? text start stop = some gap ∧ ∀ c ∈ gap, Character.isWhiteSpace c = true

def gaps (text : Text) (position : Nat) (tokens : List Token) : List (Nat × Nat) :=
  (position :: tokens.map Token.stop).zip (tokens.map Token.start ++ [width text])

structure Fits (c : Configuration) (text : Text) (t : Token) : Prop where
  extent : t.start < t.stop ∧ t.stop ≤ width text
  boundaries : IsBoundary text t.start ∧ IsBoundary text t.stop
  spelling : slice? text t.start t.stop = some t.text
  unspaced : t.text.head?.any Character.isWhiteSpace = false
  first : IsFirstMatch c text t

structure Partition (c : Configuration) (text : Text) (position : Nat) (tokens : List Token) :
    Prop where
  fits : ∀ t ∈ tokens, Fits c text t
  ordered : tokens.Pairwise fun a b => a.stop ≤ b.start
  blank : ∀ gap ∈ gaps text position tokens, IsBlank text gap.1 gap.2

theorem IsBlank.le {text : Text} {start stop : Nat} (h : IsBlank text start stop) : start ≤ stop := by
  obtain ⟨gap, hgap, _⟩ := h
  obtain ⟨_, _, rfl⟩ := slice?_eq_some_iff.mp hgap
  exact Nat.le_add_right ..

theorem gaps_cons (text : Text) (position : Nat) (t : Token) (tokens : List Token) :
    gaps text position (t :: tokens) = (position, t.start) :: gaps text t.stop tokens := rfl

namespace Partition

variable {c : Configuration} {text : Text} {position : Nat} {t : Token} {tokens : List Token}

theorem behind (h : Partition c text position tokens) : ∀ t ∈ tokens, position ≤ t.start := by
  cases tokens with
  | nil => simp
  | cons first later =>
      have hle : position ≤ first.start := (h.blank (position, first.start) (by simp [gaps_cons])).le
      have hfirst := (h.fits first (by simp)).extent.1
      intro t ht
      rcases List.mem_cons.mp ht with rfl | ht
      · exact hle
      · have := (List.pairwise_cons.mp h.ordered).1 t ht
        omega

theorem nil_iff : Partition c text position [] ↔ IsBlank text position (width text) :=
  ⟨fun h => h.blank (position, width text) (by simp [gaps]),
    fun h => ⟨by simp, List.Pairwise.nil, by simpa [gaps] using h⟩⟩

theorem cons_iff :
    Partition c text position (t :: tokens) ↔
      Fits c text t ∧ IsBlank text position t.start ∧ Partition c text t.stop tokens := by
  constructor
  · intro h
    refine ⟨h.fits t (by simp), h.blank (position, t.start) (by simp [gaps_cons]), ?_⟩
    refine ⟨fun u hu => h.fits u (by simp [hu]), (List.pairwise_cons.mp h.ordered).2, ?_⟩
    intro gap hgap
    exact h.blank gap (by simp [gaps_cons, hgap])
  · rintro ⟨hfits, hblank, h⟩
    refine ⟨?_, List.pairwise_cons.mpr ⟨h.behind, h.ordered⟩, ?_⟩
    · intro u hu
      rcases List.mem_cons.mp hu with rfl | hu
      · exact hfits
      · exact h.fits u hu
    · intro gap hgap
      rw [gaps_cons] at hgap
      rcases List.mem_cons.mp hgap with rfl | hgap
      · exact hblank
      · exact h.blank gap hgap

end Partition

theorem isFirstMatch_of_classify {c : Configuration} (hc : c.Proper) {text rest : Text} {offset : Nat}
    {r : Reading} (hrest : suffixAt? text offset = some rest) (h : c.classify rest = some r) :
    IsFirstMatch c text (r.tokenAt offset) := by
  obtain ⟨before, category, after, hsplit, hr, hbefore⟩ := List.findSome?_eq_some_iff.mp h
  obtain ⟨hscan, _, hkind⟩ := Category.read_eq_some_iff.mp hr
  refine ⟨before, category, after, hsplit, ?_, ?_, hkind⟩
  · intro k hk
    have hnone := hbefore k hk
    rw [Category.read_eq_map hc, Option.map_eq_none_iff] at hnone
    exact (Category.probeAt_of_suffixAt? hrest k).trans (by rw [hnone, Option.map_none])
  · exact (Category.probeAt_of_suffixAt? hrest category).trans (by rw [hscan]; rfl)

theorem classify_of_isFirstMatch {c : Configuration} (hc : c.Proper) {text back : Text} {t : Token}
    (hrest : suffixAt? text t.start = some (t.text ++ back)) (h : IsFirstMatch c text t) :
    c.classify (t.text ++ back) = some ⟨t.kind, t.text, t.closed, back⟩ := by
  obtain ⟨before, category, after, hsplit, hbefore, hspan, hkind⟩ := h
  rw [Category.probeAt_of_suffixAt? hrest] at hspan
  obtain ⟨l, hscan, hl⟩ := Option.map_eq_some_iff.mp hspan
  have hw : width l.text = width t.text := Nat.add_left_cancel (Span.mk.inj hl).2.1
  obtain ⟨htext, hback⟩ := append_inj_of_width_eq (category.faithful_scan c _ l hscan) hw
  have hclosed : l.closed = t.closed := (Span.mk.inj hl).2.2
  refine List.findSome?_eq_some_iff.mpr ⟨before, category, after, hsplit, ?_, ?_⟩
  · rw [Category.read_eq_map hc, hscan, Option.map_some, hkind, ← htext, ← hclosed, ← hback]
  · intro k hk
    have hnone := hbefore k hk
    rw [Category.probeAt_of_suffixAt? hrest, Option.map_eq_none_iff] at hnone
    rw [Category.read_eq_map hc, hnone, Option.map_none]

namespace Tokenizer

def StandsIn (t : Tokenizer) (text : Text) : Prop := suffixAt? text t.position = some t.rest

variable {t : Tokenizer} {text : Text}

theorem standsIn_start (config : Configuration) (text : Text) : (start config text).StandsIn text :=
  suffixAt?_zero text

theorem StandsIn.pass (h : t.StandsIn text) {mid back : Text} (hrest : t.rest = mid ++ back) :
    suffixAt? text (t.position + width mid) = some back := by
  obtain ⟨front, rfl, hp⟩ := suffixAt?_eq_some_iff.mp h
  rw [← hp, suffixAt?_append_add, hrest, suffixAt?_width_append]

theorem StandsIn.skipWhiteSpace (h : t.StandsIn text) : t.skipWhiteSpace.StandsIn text := by
  obtain ⟨blanks, _, hrest, hp⟩ := t.rest_eq_append
  have hpass := h.pass hrest
  rw [← hp] at hpass
  exact hpass

theorem StandsIn.position_of_end (h : t.StandsIn text) (hend : t.rest = []) :
    t.position = width text := by
  obtain ⟨front, rfl, hp⟩ := suffixAt?_eq_some_iff.mp h
  rw [hend, List.append_nil, hp]

theorem StandsIn.behind (h : t.StandsIn text) {r : Reading}
    (hr : t.config.classify t.skipWhiteSpace.rest = some r) : (t.behind r).StandsIn text :=
  h.skipWhiteSpace.pass (Configuration.whole_of_classify hr).symm

theorem StandsIn.isBlank (h : t.StandsIn text) :
    IsBlank text t.position t.skipWhiteSpace.position := by
  obtain ⟨blanks, hb, hrest, hp⟩ := t.rest_eq_append
  exact ⟨blanks, slice?_eq_some_iff.mpr ⟨t.skipWhiteSpace.rest, by rw [← hrest]; exact h, hp⟩, hb⟩

theorem StandsIn.skipWhiteSpace_eq (h : t.StandsIn text) {rest : Text} {stop : Nat}
    (hb : IsBlank text t.position stop) (hrest : suffixAt? text stop = some rest)
    (hh : rest.head?.any Character.isWhiteSpace = false) :
    t.skipWhiteSpace = ⟨t.config, stop, rest⟩ := by
  obtain ⟨gap, hgap, hwhite⟩ := hb
  obtain ⟨back, hback, rfl⟩ := slice?_eq_some_iff.mp hgap
  have ht : t.rest = gap ++ back := Option.some.inj (h.symm.trans hback)
  obtain rfl : back = rest := Option.some.inj ((h.pass ht).symm.trans hrest)
  have hs := skipWhiteSpace_append hwhite t.config t.position back
  rw [skipWhiteSpace_of_head? hh, ← ht] at hs
  exact hs

theorem StandsIn.fits (h : t.StandsIn text) (hc : t.config.Proper) {r : Reading}
    (hr : t.config.classify t.skipWhiteSpace.rest = some r) :
    Fits t.config text (r.tokenAt t.skipWhiteSpace.position) := by
  have hwhole : t.skipWhiteSpace.rest = r.lexeme.text ++ r.lexeme.rest :=
    (Configuration.whole_of_classify hr).symm
  have hpos := width_pos_of_ne_nil (Configuration.text_ne_nil_of_classify hr)
  have hslice : slice? text t.skipWhiteSpace.position
      (t.skipWhiteSpace.position + width r.lexeme.text) = some r.lexeme.text :=
    slice?_eq_some_iff.mpr ⟨r.lexeme.rest, by rw [← hwhole]; exact h.skipWhiteSpace, rfl⟩
  have hb := isBoundary_of_slice? hslice
  have hhead := t.head?_rest_skipWhiteSpace
  rw [hwhole] at hhead
  exact ⟨⟨Nat.lt_add_of_pos_right hpos, le_width_of_isBoundary hb.2⟩, hb, hslice,
    head?_any_of_append hhead, isFirstMatch_of_classify hc h.skipWhiteSpace hr⟩

theorem StandsIn.classify_of_fits (h : t.StandsIn text) (hc : t.config.Proper) {token : Token}
    (hb : IsBlank text t.position token.start) (hf : Fits t.config text token) :
    ∃ r, t.config.classify t.skipWhiteSpace.rest = some r
      ∧ r.tokenAt t.skipWhiteSpace.position = token := by
  obtain ⟨back, hback, _⟩ := slice?_eq_some_iff.mp hf.spelling
  have hne : token.text ≠ [] := by
    intro hnil
    have := hf.extent.1
    simp [Token.stop, hnil] at this
  have hhead := head?_any_append hne hf.unspaced back
  have hs := h.skipWhiteSpace_eq hb hback hhead
  refine ⟨⟨token.kind, token.text, token.closed, back⟩, ?_, ?_⟩
  · rw [hs]
    exact classify_of_isFirstMatch hc hback hf.first
  · rw [hs]
    rfl

theorem StandsIn.partition_iff (h : t.StandsIn text) (hc : t.config.Proper) (tokens : List Token) :
    Partition t.config text t.position tokens ↔ tokens = t.tokens := by
  -- On the run, for every list at once: a first token that fits is the one that is read next.
  induction t using run_induction generalizing tokens with
  | done t hend =>
      have hp := h.skipWhiteSpace.position_of_end hend
      rw [tokens_of_end hend]
      cases tokens with
      | nil => simpa [Partition.nil_iff, ← hp] using h.isBlank
      | cons token later =>
          refine iff_of_false (fun hpart => ?_) (by simp)
          obtain ⟨hf, hb, _⟩ := Partition.cons_iff.mp hpart
          obtain ⟨r, hr, _⟩ := h.classify_of_fits hc hb hf
          exact Configuration.ne_nil_of_classify hr hend
  | token t r hr ih =>
      rw [tokens_of_classify hr]
      cases tokens with
      | nil =>
          refine iff_of_false (fun hpart => ?_) (by simp)
          have hs := h.skipWhiteSpace_eq (Partition.nil_iff.mp hpart) (suffixAt?_width text) rfl
          exact Configuration.ne_nil_of_classify hr (by rw [hs])
      | cons token later =>
          have hlater := ih (h.behind hr) hc later
          rw [Partition.cons_iff, List.cons.injEq]
          constructor
          · rintro ⟨hf, hb, hpart⟩
            obtain ⟨s, hs, rfl⟩ := h.classify_of_fits hc hb hf
            obtain rfl : s = r := Option.some.inj (hs.symm.trans hr)
            exact ⟨rfl, hlater.mp hpart⟩
          · rintro ⟨rfl, htokens⟩
            exact ⟨h.fits hc hr, h.isBlank, hlater.mpr htokens⟩

end Tokenizer

end LexicalGrammar
