import LexicalGrammar.Language.Python
import LexicalGrammar.Proofs.Choice
import LexicalGrammar.Proofs.Cut.Literal

namespace LexicalGrammar

namespace StringGrammar

def Opens (g : StringGrammar) (text : Text) : Prop := ∃ d ∈ g.alternatives, d.opening <+: text

def Tags (g : StringGrammar) (tag text : Text) : Prop :=
  tag ∈ g.tags ∧ ∃ left, text = tag ++ left ∧ g.Opens left

structure LongestMatch (g : StringGrammar) (text : Text) (c : Commitment) : Prop where
  split : text = c.opening ++ c.rest
  tags : ∀ tag, c.tag = some tag → g.Tags tag text
  tag_widest : ∀ tag, g.Tags tag text → ∃ chosen, c.tag = some chosen ∧ width tag ≤ width chosen
  delimiter_mem : c.delimiter ∈ g.alternatives
  delimiter_widest : ∀ d ∈ g.alternatives, d.opening <+: c.delimiter.opening ++ c.rest →
    width d.opening ≤ width c.delimiter.opening

theorem isSome_opening?_iff {g : StringGrammar} {text : Text} :
    (opening? g.alternatives text).isSome = true ↔ g.Opens text := by
  simp only [opening?, List.findSome?_isSome_iff, Option.isSome_map, isSome_after?_iff, Opens]

theorem opening?_eq_some_iff {g : StringGrammar} (hg : g.defect? = none) {text rest : Text}
    {d : Delimiter} :
    opening? g.alternatives text = some (d, rest) ↔ d ∈ g.alternatives ∧ text = d.opening ++ rest ∧
      ∀ e ∈ g.alternatives, e.opening <+: text → width e.opening ≤ width d.opening := by
  have hp := (defect?_eq_none_iff.mp hg).2.2.1
  have hs (e : Delimiter) :
      ((after? e.opening text).map (e, ·)).isSome = true ↔ e.opening <+: text := by
    rw [Option.isSome_map, isSome_after?_iff]
  constructor
  · intro h
    obtain ⟨hm, htext⟩ := mem_of_opening? h
    obtain ⟨a, _, ha, hw⟩ := widest_of_findSome? Delimiter.opening (fun e _ => (hs e).mp) hp h
    obtain ⟨_, _, he⟩ := Option.map_eq_some_iff.mp ha
    obtain ⟨rfl, _⟩ := Prod.mk.injEq .. ▸ he
    exact ⟨hm, htext, fun e he ho => hw e he ((hs e).mpr ho)⟩
  · rintro ⟨hm, rfl, hw⟩
    exact findSome?_of_widest Delimiter.opening (fun e _ => (hs e).mp) hp hm
      (by rw [after?_append, Option.map_some]) fun e he ho => hw e he ((hs e).mp ho)

theorem isSome_behindTag?_iff {g : StringGrammar} {tag text : Text} :
    (g.behindTag? tag text).isSome = true ↔ ∃ left, text = tag ++ left ∧ g.Opens left := by
  simp only [behindTag?, Option.isSome_bind, Option.any_eq_true, after?_eq_some_iff,
    Option.isSome_map, isSome_opening?_iff]

theorem tags_iff {g : StringGrammar} {tag text : Text} :
    g.Tags tag text ↔ tag ∈ g.tags ∧ (g.behindTag? tag text).isSome = true := by
  rw [isSome_behindTag?_iff, Tags]

theorem isSome_tagged?_iff {g : StringGrammar} {text : Text} :
    (g.tagged? text).isSome = true ↔ ∃ tag, g.Tags tag text := by
  simp only [tagged?_eq_findSome?, List.findSome?_isSome_iff, tags_iff]

theorem tagged?_eq_some_iff {g : StringGrammar} (hg : g.defect? = none) {text : Text}
    {c : Commitment} :
    g.tagged? text = some c ↔ ∃ tag ∈ g.tags, g.behindTag? tag text = some c ∧
      ∀ other, g.Tags other text → width other ≤ width tag := by
  have hp := (defect?_eq_none_iff.mp hg).2.2.2
  have hbegins (tag : Text) (_ : tag ∈ g.tags) (hs : (g.behindTag? tag text).isSome = true) :
      tag <+: text := by
    obtain ⟨left, rfl, _⟩ := isSome_behindTag?_iff.mp hs
    exact List.prefix_append tag left
  rw [tagged?_eq_findSome?]
  constructor
  · intro h
    obtain ⟨tag, hm, htag, hw⟩ := widest_of_findSome? id hbegins hp h
    exact ⟨tag, hm, htag, fun other ho => hw other ho.1 (tags_iff.mp ho).2⟩
  · rintro ⟨tag, hm, htag, hw⟩
    exact findSome?_of_widest id hbegins hp hm htag
      fun other hm hs => hw other (tags_iff.mpr ⟨hm, hs⟩)

theorem isSome_commitment?_iff {g : StringGrammar} {text : Text} :
    (g.commitment? text).isSome = true ↔ (∃ tag, g.Tags tag text) ∨ g.Opens text := by
  rw [commitment?_eq_or, Option.isSome_or, Bool.or_eq_true, isSome_tagged?_iff, untagged?,
    Option.isSome_map, isSome_opening?_iff]

theorem longestMatch_of_commitment? {g : StringGrammar} (hg : g.defect? = none) {text : Text}
    {c : Commitment} (h : g.commitment? text = some c) : g.LongestMatch text c := by
  rw [commitment?_eq_or, Option.or_eq_some_iff] at h
  rcases h with h | ⟨hn, h⟩
  · obtain ⟨tag, hm, htag, hwidest⟩ := (tagged?_eq_some_iff hg).mp h
    obtain ⟨hc, left, hleft, ho⟩ := behindTag?_eq_some_iff.mp htag
    obtain rfl := after?_eq_some_iff.mp hleft
    obtain ⟨hd, rfl, hlongest⟩ := (opening?_eq_some_iff hg).mp ho
    refine ⟨?_, ?_, fun other ho => ⟨tag, hc, hwidest other ho⟩, hd, hlongest⟩
    · rw [Commitment.opening, hc, Option.getD_some, List.append_assoc]
    · intro chosen hchosen
      obtain rfl := Option.some.inj (hc.symm.trans hchosen)
      exact tags_iff.mpr ⟨hm, by rw [htag]; rfl⟩
  · obtain ⟨hc, ho⟩ := untagged?_eq_some_iff.mp h
    obtain ⟨hd, rfl, hlongest⟩ := (opening?_eq_some_iff hg).mp ho
    refine ⟨?_, ?_, ?_, hd, hlongest⟩
    · rw [Commitment.opening, hc, Option.getD_none, List.nil_append]
    · intro tag htag
      rw [hc] at htag
      simp at htag
    · intro tag htag
      have hs := isSome_tagged?_iff.mpr ⟨tag, htag⟩
      rw [hn] at hs
      simp at hs

theorem commitment?_of_longestMatch {g : StringGrammar} (hg : g.defect? = none) {text : Text}
    {c : Commitment} (h : g.LongestMatch text c) : g.commitment? text = some c := by
  have htext := h.split
  have ho : opening? g.alternatives (c.delimiter.opening ++ c.rest) = some (c.delimiter, c.rest) :=
    (opening?_eq_some_iff hg).mpr ⟨h.delimiter_mem, rfl, h.delimiter_widest⟩
  rw [commitment?_eq_or, Option.or_eq_some_iff]
  cases hc : c.tag with
  | none =>
      rw [Commitment.opening, hc, Option.getD_none, List.nil_append] at htext
      refine Or.inr ⟨?_, untagged?_eq_some_iff.mpr ⟨hc, by rw [htext]; exact ho⟩⟩
      cases ht : g.tagged? text with
      | none => rfl
      | some other =>
          obtain ⟨tag, htag⟩ := isSome_tagged?_iff.mp (by rw [ht]; rfl)
          obtain ⟨chosen, hchosen, _⟩ := h.tag_widest tag htag
          rw [hc] at hchosen
          simp at hchosen
  | some tag =>
      rw [Commitment.opening, hc, Option.getD_some, List.append_assoc] at htext
      refine Or.inl ((tagged?_eq_some_iff hg).mpr ⟨tag, (h.tags tag hc).1, ?_, ?_⟩)
      · exact behindTag?_eq_some_iff.mpr ⟨hc, _, after?_eq_some_iff.mpr htext, ho⟩
      · intro other hother
        obtain ⟨chosen, hchosen, hw⟩ := h.tag_widest other hother
        obtain rfl := Option.some.inj (hc.symm.trans hchosen)
        exact hw

theorem commitment?_eq_some_iff {g : StringGrammar} (hg : g.defect? = none) {text : Text}
    {c : Commitment} : g.commitment? text = some c ↔ g.LongestMatch text c :=
  ⟨longestMatch_of_commitment? hg, commitment?_of_longestMatch hg⟩

structure SameParts (g other : StringGrammar) : Prop where
  tags : ∀ tag, tag ∈ g.tags ↔ tag ∈ other.tags
  alternatives : ∀ d, d ∈ g.alternatives ↔ d ∈ other.alternatives

theorem SameParts.symm {g other : StringGrammar} (h : g.SameParts other) : other.SameParts g :=
  ⟨fun tag => (h.tags tag).symm, fun d => (h.alternatives d).symm⟩

theorem SameParts.opens {g other : StringGrammar} (h : g.SameParts other) {text : Text}
    (ho : g.Opens text) : other.Opens text := by
  obtain ⟨d, hm, hd⟩ := ho
  exact ⟨d, (h.alternatives d).mp hm, hd⟩

theorem SameParts.tagged {g other : StringGrammar} (h : g.SameParts other) {tag text : Text}
    (ht : g.Tags tag text) : other.Tags tag text := by
  obtain ⟨hm, left, hleft, ho⟩ := ht
  exact ⟨(h.tags tag).mp hm, left, hleft, h.opens ho⟩

theorem SameParts.longestMatch {g other : StringGrammar} (h : g.SameParts other) {text : Text}
    {c : Commitment} (hc : g.LongestMatch text c) : other.LongestMatch text c where
  split := hc.split
  tags := fun tag htag => h.tagged (hc.tags tag htag)
  tag_widest := fun tag htag => hc.tag_widest tag (h.symm.tagged htag)
  delimiter_mem := (h.alternatives _).mp hc.delimiter_mem
  delimiter_widest := fun d hm => hc.delimiter_widest d ((h.alternatives d).mpr hm)

theorem SameParts.commitment?_eq {g other : StringGrammar} (h : g.SameParts other)
    (hg : g.defect? = none) (ho : other.defect? = none) (text : Text) :
    g.commitment? text = other.commitment? text := by
  refine Option.ext fun c => ?_
  rw [commitment?_eq_some_iff hg, commitment?_eq_some_iff ho]
  exact ⟨h.longestMatch, h.symm.longestMatch⟩

theorem probe_longestMatch {g : StringGrammar} (hg : g.defect? = none) :
    (∀ {text rest : Text} {offset : Nat}, suffixAt? text offset = some rest →
      (∀ c, g.commitment? rest = some c ↔ g.LongestMatch rest c) ∧
      (∀ s, probe g.scan text offset = some s ↔
        ∃ c, g.LongestMatch rest c ∧ c.read.spanAt offset = s) ∧
      ((probe g.scan text offset).isSome = true ↔ (∃ tag, g.Tags tag rest) ∨ g.Opens rest)) ∧
    ∀ {other : StringGrammar}, other.defect? = none → g.SameParts other →
      ∀ text offset, probe g.scan text offset = probe other.scan text offset := by
  constructor
  · intro text rest offset hr
    have hprobe : probe g.scan text offset =
        (g.commitment? rest).map fun c => c.read.spanAt offset := by
      rw [probe_of_suffixAt? hr, scan, Option.map_map]
      rfl
    refine ⟨fun c => commitment?_eq_some_iff hg, fun s => ?_, ?_⟩
    · simp only [hprobe, Option.map_eq_some_iff, commitment?_eq_some_iff hg]
    · rw [hprobe, Option.isSome_map, isSome_commitment?_iff]
  · intro other ho hsame text offset
    have hscan : g.scan = other.scan :=
      funext fun text => congrArg (Option.map Commitment.read) (hsame.commitment?_eq hg ho text)
    rw [hscan]

def pythonReordered : StringGrammar where
  tags := (Python.tags.take 16).reverse ++ (Python.tags.drop 16).reverse
  alternatives :=
    [.block ['\'', '\'', '\''], .quote ['\''], .block ['"', '"', '"'], .quote ['"']]

theorem sameParts_pythonReordered : Python.strings.SameParts pythonReordered where
  tags := by
    intro tag
    simp only [pythonReordered, List.mem_append, List.mem_reverse]
    rw [← List.mem_append, List.take_append_drop]
    rfl
  alternatives := fun d => List.Perm.mem_iff (by decide)

theorem python_longestMatch :
    Python.strings.defect? = none ∧ pythonReordered.defect? = none ∧
      Python.strings.LongestMatch ['r', 'b', '\'', '\'', '\'', 'x']
        ⟨some ['r', 'b'], .block ['\'', '\'', '\''], ['x']⟩ ∧
      ∀ text offset,
        probe Python.strings.scan text offset = probe pythonReordered.scan text offset := by
  have hg : Python.strings.defect? = none := by decide +kernel
  have ho : pythonReordered.defect? = none := by decide +kernel
  obtain ⟨hmatch, hsame⟩ := probe_longestMatch hg
  refine ⟨hg, ho, ?_, hsame ho sameParts_pythonReordered⟩
  exact ((hmatch (suffixAt?_zero _)).1 _).mp (by decide +kernel)

end StringGrammar

end LexicalGrammar
