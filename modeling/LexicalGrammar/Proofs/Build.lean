import LexicalGrammar.Token

namespace LexicalGrammar

structure Configuration.Proper (c : Configuration) : Prop where
  strings : ∀ d ∈ c.strings.alternatives, d.opening ≠ [] ∧ d.close ≠ []
  characters : ∀ g, c.characters = some g → ∀ d ∈ g.alternatives, d.opening ≠ [] ∧ d.close ≠ []
  line : ∀ line, c.comments.line = some line → line ≠ []
  block : ∀ block, c.comments.block = some block → block.opening ≠ [] ∧ block.close ≠ []

theorem Declaration.proper_of_build {d : Declaration} {c : Configuration} (h : d.build = .ok c) :
    c.Proper := by
  obtain ⟨hd, rfl⟩ := build_eq_ok_iff.mp h
  obtain ⟨hs, hc, _, hm, _⟩ := defect?_eq_none_iff.mp hd
  obtain ⟨hline, hblock⟩ := CommentGrammar.defect?_eq_none_iff.mp hm
  exact ⟨(StringGrammar.defect?_eq_none_iff.mp hs).1,
    fun g hg => (StringGrammar.defect?_eq_none_iff.mp (hc g hg)).1, hline, hblock⟩

theorem StringGrammar.text_ne_nil_of_scan {g : StringGrammar} {text : Text} {l : Lexeme}
    (hg : ∀ d ∈ g.alternatives, d.opening ≠ []) (h : g.scan text = some l) : l.text ≠ [] := by
  obtain ⟨c, hc, rfl⟩ := Option.map_eq_some_iff.mp h
  have ho := hg _ (of_commitment? hc).2.1
  simp [Commitment.read, Commitment.opening, ho]

theorem CommentGrammar.text_ne_nil_of_scan {g : CommentGrammar} {text : Text} {l : Lexeme}
    (hline : ∀ line, g.line = some line → line ≠ [])
    (hblock : ∀ block, g.block = some block → block.opening ≠ []) (h : g.scan text = some l) :
    l.text ≠ [] := by
  have line_ne_nil (h : g.scanLine text = some l) : l.text ≠ [] := by
    obtain ⟨opening, ho, hl⟩ := Option.bind_eq_some_iff.mp h
    obtain ⟨rest, _, rfl⟩ := Option.map_eq_some_iff.mp hl
    simp [hline opening ho]
  have block_ne_nil (h : g.scanBlock text = some l) : l.text ≠ [] := by
    obtain ⟨block, hb, hl⟩ := Option.bind_eq_some_iff.mp h
    obtain ⟨rest, _, rfl⟩ := Option.map_eq_some_iff.mp hl
    simp [hblock block hb]
  simp only [scan, Option.orElse_eq_orElse, Option.orElse_eq_or] at h
  split at h <;> rcases Option.or_eq_some_iff.mp h with h | ⟨_, h⟩
  all_goals first | exact line_ne_nil h | exact block_ne_nil h

namespace Configuration

theorem text_ne_nil_of_scanKeyword {c : Configuration} {text : Text} {l : Lexeme}
    (h : c.scanKeyword text = some l) : l.text ≠ [] :=
  IdentifierGrammar.text_ne_nil_of_scan (Option.filter_eq_some_iff.mp h).1

theorem text_ne_nil_of_scanReservedOperator {c : Configuration} {text : Text} {l : Lexeme}
    (h : c.scanReservedOperator text = some l) : l.text ≠ [] := by
  obtain ⟨s, hs, rfl⟩ := Option.map_eq_some_iff.mp h
  exact (of_longestSpelling? hs).1

theorem text_ne_nil_of_scanOperator {c : Configuration} {text : Text} {l : Lexeme}
    (h : c.scanOperator text = some l) : l.text ≠ [] := by
  cases ho : c.operators with
  | some g =>
      simp only [scanOperator, ho] at h
      exact OperatorGrammar.text_ne_nil_of_scan h
  | none =>
      simp only [scanOperator, ho] at h
      exact text_ne_nil_of_scanReservedOperator h

end Configuration

namespace Category

theorem text_ne_nil_of_single {p : Char → Bool} {text : Text} {l : Lexeme}
    (h : single p text = some l) : l.text ≠ [] := by
  cases text with
  | nil => simp [single] at h
  | cons c rest =>
      simp only [single] at h
      split at h
      · obtain rfl := Option.some.inj h
        simp
      · simp at h

theorem text_ne_nil_of_scan {c : Configuration} (hc : c.Proper) {category : Category} {text : Text}
    {l : Lexeme} (h : category.scan c text = some l) : l.text ≠ [] := by
  cases category with
  | comment =>
      exact CommentGrammar.text_ne_nil_of_scan hc.line (fun b hb => (hc.block b hb).1) h
  | character =>
      obtain ⟨g, hg, hl⟩ := Option.bind_eq_some_iff.mp h
      exact StringGrammar.text_ne_nil_of_scan (fun d hd => (hc.characters g hg d hd).1) hl
  | string => exact StringGrammar.text_ne_nil_of_scan (fun d hd => (hc.strings d hd).1) h
  | number => exact NumberGrammar.text_ne_nil_of_scan h
  | word => exact IdentifierGrammar.text_ne_nil_of_scan h
  | operator => exact Configuration.text_ne_nil_of_scanOperator h
  | bracket => exact text_ne_nil_of_single h
  | plain => exact text_ne_nil_of_single h

theorem read_eq_map {c : Configuration} (hc : c.Proper) (category : Category) (text : Text) :
    category.read c text = (category.scan c text).map fun l => ⟨category.kind c l.text, l⟩ := by
  cases h : category.scan c text with
  | none => simp [read, h]
  | some l =>
      have hn := text_ne_nil_of_scan hc h
      simp [read, h, hn]

end Category

end LexicalGrammar
