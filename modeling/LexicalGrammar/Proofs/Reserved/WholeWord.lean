import LexicalGrammar.Proofs.Cut.Literal
import LexicalGrammar.Proofs.Declaration.Realized
import LexicalGrammar.Proofs.Probe

namespace LexicalGrammar

namespace IdentifierGrammar

variable {g : IdentifierGrammar} {text word back : Text} {l : Lexeme}

theorem head?_rest_of_scan (h : g.scan text = some l) :
    l.rest.head?.any g.body.contains = false := by
  obtain ⟨s, hs, rfl⟩ := Option.map_eq_some_iff.mp h
  cases hlead : (g.readLead text).rest with
  | nil => simp [hlead, readWord] at hs
  | cons c rest =>
      simp only [hlead, readWord] at hs
      split at hs
      · obtain rfl := Option.some.inj hs
        exact head?_rest_readWhile g.body.contains rest
      · simp at hs

theorem readWord_append {s : Split} (h : g.readWord word = some s) (hs : s.rest = [])
    (hback : back.head?.any g.body.contains = false) :
    g.readWord (word ++ back) = some ⟨s.taken, back⟩ := by
  cases word with
  | nil => simp [readWord] at h
  | cons c tail =>
      simp only [readWord] at h
      split at h
      · next hc =>
        obtain rfl := Option.some.inj h
        -- Nothing is left of the word, so all of it behind its head are body characters.
        have htail : (readWhile g.body.contains tail).taken = tail := by
          have hwhole := whole_readWhile g.body.contains tail
          rwa [Split.whole, show (readWhile g.body.contains tail).rest = [] from hs,
            List.append_nil] at hwhole
        have hall := all_taken_readWhile g.body.contains tail
        rw [htail] at hall
        rw [List.cons_append, readWord, if_pos hc, readWhile_append hall, readWhile_of_head? hback]
        simp [Split.following, htail]
      · simp at h

theorem scan_append_of_readsInFull (h : ReadsInFull g.scan word)
    (hback : back.head?.any g.body.contains = false) :
    g.scan (word ++ back) = some ⟨word, true, back⟩ := by
  obtain ⟨s, hs, hword⟩ := Option.map_eq_some_iff.mp h
  obtain ⟨htaken, -, hrest⟩ := Lexeme.mk.inj hword
  have hlead : g.readLead (word ++ back) =
      ⟨(g.readLead word).taken, (g.readLead word).rest ++ back⟩ := by
    cases word with
    | nil => simp [readLead, readOne, Split.untouched, readWord] at hs
    | cons c tail => exact readOne_cons_append _ c tail back
  rw [scan, hlead, readWord_append hs hrest hback, Option.map_some]
  exact congrArg (fun text => some (⟨text, true, back⟩ : Lexeme)) htaken

theorem scan_eq_some_iff :
    g.scan text = some l ↔
      text = l.whole ∧ l.closed = true ∧ accepts g.scan l.text = true ∧
        l.rest.head?.any g.body.contains = false := by
  constructor
  · intro h
    have hclosed : l.closed = true := by
      obtain ⟨_, _, rfl⟩ := Option.map_eq_some_iff.mp h
      rfl
    exact ⟨(g.faithful text l h).symm, hclosed, accepts_of_scan h, head?_rest_of_scan h⟩
  · obtain ⟨word, closed, rest⟩ := l
    rintro ⟨rfl, rfl, haccepts, hrest⟩
    exact scan_append_of_readsInFull ((accepts_iff_readsInFull g.faithful).mp haccepts) hrest

end IdentifierGrammar

namespace Configuration

variable {d : Declaration} {c : Configuration}

theorem Realizes.accepts_of_isReservedIdentifier (hc : c.Realizes d) {word : Text}
    (h : c.isReservedIdentifier word = true) : accepts c.keywordGrammar.scan word = true := by
  have hm : word ∈ c.reservedIdentifiers.words := Vocabulary.contains_iff.mp h
  exact (accepts_iff_readsInFull c.keywordGrammar.faithful).mpr (hc.wellFormed.readable word hm)

theorem Realizes.scanKeyword_eq_some_iff (hc : c.Realizes d) {text : Text} {l : Lexeme} :
    c.scanKeyword text = some l ↔
      text = l.whole ∧ l.closed = true ∧ c.isReservedIdentifier l.text = true ∧
        l.rest.head?.any c.keywordGrammar.body.contains = false := by
  rw [scanKeyword, Option.filter_eq_some_iff, IdentifierGrammar.scan_eq_some_iff]
  constructor
  · rintro ⟨⟨htext, hclosed, _, hrest⟩, hreserved⟩
    exact ⟨htext, hclosed, hreserved, hrest⟩
  · rintro ⟨htext, hclosed, hreserved, hrest⟩
    exact ⟨⟨htext, hclosed, hc.accepts_of_isReservedIdentifier hreserved, hrest⟩, hreserved⟩

theorem probeKeyword_wholeWord (h : d.build = .ok c) :
    (∀ word front back, c.isReservedIdentifier word = true →
      back.head?.any c.keywordGrammar.body.contains = false →
      c.probeKeyword (front ++ word ++ back) (width front) =
        some ⟨width front, width front + width word, true⟩) ∧
    ∀ text offset m, c.probeKeyword text offset = some m →
      m.start = offset ∧ m.closed = true ∧ slice? text offset m.stop = some (m.slice text) ∧
        c.isReservedIdentifier (m.slice text) = true ∧
        ∃ back, suffixAt? text m.stop = some back ∧
          back.head?.any c.keywordGrammar.body.contains = false := by
  have hc := realizes_of_build h
  refine ⟨fun word front back hword hback => ?_, fun text offset m hm => ?_⟩
  · have hscan : c.scanKeyword (word ++ back) = some ⟨word, true, back⟩ :=
      hc.scanKeyword_eq_some_iff.mpr ⟨rfl, rfl, hword, hback⟩
    rw [List.append_assoc, probeKeyword_eq,
      probe_of_suffixAt? (suffixAt?_width_append front (word ++ back)), hscan]
    rfl
  · rw [probeKeyword_eq] at hm
    cases hrest : suffixAt? text offset with
    | none =>
        have hnil := scan_nil_of_faithful c.faithful_scanKeyword fun _ _ => text_ne_nil_of_scanKeyword
        simp [probe_eq_none_of_suffixAt? hnil hrest] at hm
    | some rest =>
        rw [probe_of_suffixAt? hrest] at hm
        obtain ⟨l, hl, rfl⟩ := Option.map_eq_some_iff.mp hm
        obtain ⟨hslice, hmid⟩ := c.faithful_scanKeyword.slice_spanAt hrest hl
        obtain ⟨rfl, hclosed, hreserved, hback⟩ := hc.scanKeyword_eq_some_iff.mp hl
        obtain ⟨front, rfl, rfl⟩ := suffixAt?_eq_some_iff.mp hrest
        rw [hslice]
        exact ⟨rfl, hclosed, hmid, hreserved, l.rest, suffixAt?_width_append_add, hback⟩

def sigils : Declaration where
  name := "Sigils"
  identifiers := some
    { lead := some '@'
      head := .ofLetters .unicode []
      body := .alphanumeric .unicode ['-'] }
  reservedIdentifiers := spellings ["@si", "où", "où-est"]

theorem sigils_wholeWord :
    sigils.build = .ok sigils.configuration ∧
      sigils.configuration.probeKeyword ['é', '@', 's', 'i', '('] 2 = some ⟨2, 5, true⟩ ∧
      sigils.configuration.isReservedIdentifier ['@', 's', 'i'] = true ∧
      sigils.configuration.probeKeyword ['o', 'ù', '-'] 0 = none := by
  have hbuild : sigils.build = .ok sigils.configuration :=
    Declaration.build_eq_ok_iff.mpr ⟨by decide +kernel, rfl⟩
  have hword : sigils.configuration.isReservedIdentifier ['@', 's', 'i'] = true := by decide +kernel
  obtain ⟨hfound, _⟩ := probeKeyword_wholeWord hbuild
  exact ⟨hbuild, hfound ['@', 's', 'i'] ['é'] ['('] hword (by decide +kernel), hword,
    by decide +kernel⟩

end Configuration

end LexicalGrammar
