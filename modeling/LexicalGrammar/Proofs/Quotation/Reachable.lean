import LexicalGrammar.Proofs.Quotation.Longest

namespace LexicalGrammar

def Delimiter.opens (d : Delimiter) (text : Text) : Bool := (after? d.opening text).isSome

theorem Delimiter.opens_iff {d : Delimiter} {text : Text} :
    d.opens text = true ↔ d.opening <+: text :=
  isSome_after?_iff

namespace StringGrammar

def openingPosition? (alternatives : List Delimiter) (text : Text) : Option Nat :=
  alternatives.findIdx? (·.opens text)

def chosenAlternative? (g : StringGrammar) (text : Text) : Option Nat :=
  (g.commitment? text).bind fun c =>
    openingPosition? g.alternatives (c.delimiter.opening ++ c.rest)

theorem opening?_eq_bind (alternatives : List Delimiter) (text : Text) :
    opening? alternatives text = (openingPosition? alternatives text).bind fun i =>
      alternatives[i]?.bind fun d => (after? d.opening text).map (d, ·) := by
  rw [opening?, findSome?_eq_bind_findIdx?]
  simp only [Option.isSome_map]
  rfl

theorem opening?_of_commitment? {g : StringGrammar} {text : Text} {c : Commitment}
    (h : g.commitment? text = some c) :
    opening? g.alternatives (c.delimiter.opening ++ c.rest) = some (c.delimiter, c.rest) := by
  rw [commitment?_eq_or, Option.or_eq_some_iff] at h
  rcases h with h | ⟨_, h⟩
  · obtain ⟨tag, _, htag⟩ := List.exists_of_findSome?_eq_some h
    obtain ⟨_, left, _, ho⟩ := behindTag?_eq_some_iff.mp htag
    obtain ⟨_, rfl⟩ := mem_of_opening? ho
    exact ho
  · obtain ⟨_, ho⟩ := untagged?_eq_some_iff.mp h
    obtain ⟨_, rfl⟩ := mem_of_opening? ho
    exact ho

theorem getElem?_chosenAlternative? (g : StringGrammar) (text : Text) :
    (g.chosenAlternative? text).bind (g.alternatives[·]?) =
      (g.commitment? text).map Commitment.delimiter := by
  cases hc : g.commitment? text with
  | none => simp [chosenAlternative?, hc]
  | some c =>
      have ho := opening?_of_commitment? hc
      rw [opening?_eq_bind] at ho
      obtain ⟨i, hi, hd⟩ := Option.bind_eq_some_iff.mp ho
      obtain ⟨d, hget, he⟩ := Option.bind_eq_some_iff.mp hd
      obtain ⟨_, _, hp⟩ := Option.map_eq_some_iff.mp he
      obtain ⟨rfl, _⟩ := Prod.mk.injEq .. ▸ hp
      simp [chosenAlternative?, hc, hi, hget]

theorem hides_eq_false_iff {earlier later : Text} :
    hides earlier later = false ↔ ¬ earlier <+: later := by
  rw [hides, ← List.isPrefixOf_iff_prefix, Bool.not_eq_true]

section Order

variable {g : StringGrammar}

theorem exists_shadowedDelimiter_iff (hd : ∀ d ∈ g.alternatives, d.opening ≠ [] ∧ d.close ≠ [])
    (ht : ∀ tag ∈ g.tags, tag ≠ []) :
    (∃ earlier later, g.defect? = some (.shadowedDelimiter earlier later)) ↔
      ¬ g.alternatives.Pairwise fun earlier later => ¬ earlier.opening <+: later.opening := by
  have hempty : g.alternatives.findSome? emptyDelimiter? = none :=
    List.findSome?_eq_none_iff.mpr fun d hm => emptyDelimiter?_eq_none_iff.mpr (hd d hm)
  have htags : g.tags.any List.isEmpty = false := by
    simpa only [List.any_eq_false, List.isEmpty_iff] using ht
  have hpairwise :
      (g.alternatives.Pairwise fun earlier later => ¬ earlier.opening <+: later.opening) ↔
        firstHidden? hides (g.alternatives.map Delimiter.opening) = none := by
    simp only [firstHidden?_eq_none_iff, hides_eq_false_iff, List.pairwise_map]
  rw [hpairwise]
  simp only [defect?, hempty, htags, Option.orElse_eq_orElse, Option.orElse_eq_or, Option.none_or,
    Bool.false_eq_true, if_false]
  cases firstHidden? hides (g.alternatives.map Delimiter.opening) with
  | some pair => simp
  | none =>
      cases firstHidden? hides g.tags <;> simp

theorem chosenAlternative?_ne_of_lt {i j : Nat} (hij : i < j) (hj : j < g.alternatives.length)
    (h : g.alternatives[i].opening <+: g.alternatives[j].opening) (text : Text) :
    g.chosenAlternative? text ≠ some j := by
  have hnever : NeverFirst Delimiter.opens g.alternatives j :=
    neverFirst_of_lt hij hj fun left hl =>
      Delimiter.opens_iff.mpr (h.trans (Delimiter.opens_iff.mp hl))
  intro hchosen
  obtain ⟨c, _, hc⟩ := Option.bind_eq_some_iff.mp hchosen
  exact hnever _ hc

def inviting (g : StringGrammar) (d : Delimiter) : Text := g.tags.head?.getD [] ++ d.opening

theorem commitment?_inviting {d : Delimiter}
    (ho : opening? g.alternatives d.opening = some (d, [])) :
    g.commitment? (g.inviting d) = some ⟨g.tags.head?, d, []⟩ := by
  rw [commitment?_eq_or, Option.or_eq_some_iff]
  cases ht : g.tags with
  | nil =>
      refine Or.inr ⟨by rw [tagged?_eq_findSome?, ht, List.findSome?_nil], ?_⟩
      refine untagged?_eq_some_iff.mpr ⟨rfl, ?_⟩
      simpa only [inviting, ht, List.head?_nil, Option.getD_none, List.nil_append] using ho
  | cons tag tags =>
      -- The first tag is tried before any other, and `d` is right behind it.
      have hfirst : g.behindTag? tag (tag ++ d.opening) = some ⟨some tag, d, []⟩ :=
        behindTag?_eq_some_iff.mpr ⟨rfl, d.opening, after?_append tag d.opening, ho⟩
      refine Or.inl ?_
      rw [tagged?_eq_findSome?, inviting, ht, List.head?_cons, Option.getD_some,
        List.findSome?_cons, hfirst]

theorem openingPosition?_opening {i : Nat} (hi : i < g.alternatives.length)
    (hp : g.alternatives.Pairwise fun earlier later => ¬ earlier.opening <+: later.opening) :
    openingPosition? g.alternatives g.alternatives[i].opening = some i := by
  refine List.findIdx?_eq_some_iff_getElem.mpr
    ⟨hi, Delimiter.opens_iff.mpr (List.prefix_refl _), fun j hji hj => ?_⟩
  exact List.pairwise_iff_getElem.mp hp j i _ hi hji (Delimiter.opens_iff.mp hj)

theorem chosenAlternative?_inviting {i : Nat} (hi : i < g.alternatives.length)
    (hp : g.alternatives.Pairwise fun earlier later => ¬ earlier.opening <+: later.opening) :
    g.chosenAlternative? (g.inviting g.alternatives[i]) = some i := by
  have hposition := openingPosition?_opening hi hp
  have hafter := after?_append g.alternatives[i].opening []
  rw [List.append_nil] at hafter
  have ho : opening? g.alternatives g.alternatives[i].opening = some (g.alternatives[i], []) := by
    rw [opening?_eq_bind, hposition, Option.bind_some, List.getElem?_eq_getElem hi,
      Option.bind_some, hafter, Option.map_some]
  rw [chosenAlternative?, commitment?_inviting ho, Option.bind_some, List.append_nil, hposition]

theorem exists_narrowest (hne : g.alternatives ≠ []) :
    ∃ d ∈ g.alternatives, ∀ e ∈ g.alternatives, width d.opening ≤ width e.opening := by
  obtain ⟨n, hn⟩ : ∃ n, (g.alternatives.map fun d => width d.opening).min? = some n := by
    rw [← Option.isSome_iff_exists, List.isSome_min?_iff]
    simpa using hne
  obtain ⟨hm, hmin⟩ := List.min?_eq_some_iff.mp hn
  obtain ⟨d, hd, rfl⟩ := List.mem_map.mp hm
  exact ⟨d, hd, fun e he => hmin _ (List.mem_map_of_mem he)⟩

theorem width_le_of_tags {tag other : Text} {d : Delimiter}
    (hmin : ∀ e ∈ g.alternatives, width d.opening ≤ width e.opening)
    (h : g.Tags other (tag ++ d.opening)) : width other ≤ width tag := by
  obtain ⟨_, left, hleft, e, he, ho⟩ := h
  have hw := congrArg width hleft
  rw [width_append, width_append] at hw
  have hnarrow := Nat.le_trans (hmin e he) (width_le_of_isPrefix ho)
  omega

theorem exists_commitment?_tag (hg : g.defect? = none) (hne : g.alternatives ≠ []) {tag : Text}
    (hm : tag ∈ g.tags) : ∃ text c, g.commitment? text = some c ∧ c.tag = some tag := by
  obtain ⟨d, hd, hmin⟩ := exists_narrowest hne
  refine ⟨tag ++ d.opening, ⟨some tag, d, []⟩, commitment?_of_longestMatch hg ?_, rfl⟩
  exact {
    split := by simp [Commitment.opening]
    tags := by
      intro chosen hchosen
      obtain rfl := Option.some.inj hchosen
      exact ⟨hm, d.opening, rfl, d, hd, List.prefix_refl _⟩
    tag_widest := fun other ho => ⟨tag, rfl, width_le_of_tags hmin ho⟩
    delimiter_mem := hd
    delimiter_widest := by
      intro e _ ho
      rw [List.append_nil] at ho
      exact width_le_of_isPrefix ho }

theorem shadowedDelimiter_iff_unreachable
    (hd : ∀ d ∈ g.alternatives, d.opening ≠ [] ∧ d.close ≠ []) (ht : ∀ tag ∈ g.tags, tag ≠ []) :
    ((∃ earlier later, g.defect? = some (.shadowedDelimiter earlier later)) ↔
      ∃ i < g.alternatives.length, ∀ text, g.chosenAlternative? text ≠ some i) ∧
    (g.defect? = none → g.alternatives ≠ [] →
      (∀ i < g.alternatives.length, ∃ text, g.chosenAlternative? text = some i) ∧
      ∀ tag ∈ g.tags, ∃ text c, g.commitment? text = some c ∧ c.tag = some tag) := by
  constructor
  · rw [exists_shadowedDelimiter_iff hd ht]
    constructor
    · intro h
      obtain ⟨i, j, hij, hj, hbegins⟩ := exists_lt_of_not_pairwise h
      exact ⟨j, hj, chosenAlternative?_ne_of_lt hij hj (Classical.not_not.mp hbegins)⟩
    · rintro ⟨i, hi, hnever⟩ hp
      exact hnever _ (chosenAlternative?_inviting hi hp)
  · intro hg hne
    have hp := (defect?_eq_none_iff.mp hg).2.2.1
    exact ⟨fun i hi => ⟨_, chosenAlternative?_inviting hi hp⟩,
      fun tag hm => exists_commitment?_tag hg hne hm⟩

end Order

def quoteTagged : StringGrammar where
  tags := [['\'']]
  alternatives := [.block ['\'', '\'', '\''], .quote ['\'']]

example : quoteTagged.chosenAlternative? ['\'', '\'', '\''] = some 1 := by decide

theorem quoteTagged_reachable :
    (∀ d ∈ quoteTagged.alternatives, d.opening ≠ [] ∧ d.close ≠ []) ∧
      (∀ tag ∈ quoteTagged.tags, tag ≠ []) ∧ quoteTagged.defect? = none ∧
      (∃ text, quoteTagged.chosenAlternative? text = some 0) ∧
      ∃ text c, quoteTagged.commitment? text = some c ∧ c.tag = some ['\''] := by
  have hd : ∀ d ∈ quoteTagged.alternatives, d.opening ≠ [] ∧ d.close ≠ [] := by decide
  have ht : ∀ tag ∈ quoteTagged.tags, tag ≠ [] := by decide
  have hg : quoteTagged.defect? = none := by decide
  have h := (shadowedDelimiter_iff_unreachable hd ht).2 hg (by decide)
  exact ⟨hd, ht, hg, h.1 0 (by decide), h.2 ['\''] (by decide)⟩

end StringGrammar

end LexicalGrammar
