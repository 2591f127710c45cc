import LexicalGrammar.Proofs.Declaration.WellFormed

namespace LexicalGrammar

structure Configuration.Realizes (c : Configuration) (d : Declaration) : Prop where
  surface : c.toSurface = d.toSurface
  identifiers : ∀ word, c.isReservedIdentifier word = true ↔ word ∈ d.reservedIdentifiers
  operators : ∀ spelling, c.isReservedOperator spelling = true ↔ spelling ∈ d.reservedOperators
  wellFormed : c.toSurface.WellFormed c.reservedIdentifiers.words c.reservedOperators.words
  longest : d.reservedOperators ≠ [] →
    IsGreatest {n | ∃ spelling ∈ d.reservedOperators, width spelling = n} c.longestOperator
  longest_of_none : d.reservedOperators = [] → c.longestOperator = 0

theorem Vocabulary.isGreatest_widest_ofList {words : List Text} (h : words ≠ []) :
    IsGreatest {n | ∃ word ∈ words, width word = n} (ofList words).widest := by
  have hne : (ofList words).words ≠ [] := by
    obtain ⟨word, rest, rfl⟩ := List.exists_cons_of_ne_nil h
    exact List.ne_nil_of_mem (mem_words_ofList.mpr List.mem_cons_self)
  constructor
  · obtain ⟨word, hm, hw⟩ := exists_width_eq_widest hne
    exact ⟨word, mem_words_ofList.mp hm, hw⟩
  · rintro _ ⟨word, hm, rfl⟩
    exact width_le_widest (mem_words_ofList.mpr hm)

namespace Configuration

theorem realizes_of_build {d : Declaration} {c : Configuration} (h : d.build = .ok c) :
    c.Realizes d := by
  have hwell : d.WellFormed := Declaration.exists_build_iff.mp ⟨c, h⟩
  obtain ⟨_, rfl⟩ := Declaration.build_eq_ok_iff.mp h
  exact
    { surface := rfl
      identifiers := fun word => by simp [isReservedIdentifier, Declaration.configuration]
      operators := fun spelling => by simp [isReservedOperator, Declaration.configuration]
      wellFormed := hwell.mono (fun _ => Vocabulary.mem_words_ofList.mp)
        fun _ => Vocabulary.mem_words_ofList.mp
      longest := Vocabulary.isGreatest_widest_ofList
      longest_of_none := fun hnone => by
        simp [Declaration.configuration, hnone, Vocabulary.ofList, Vocabulary.widest] }

theorem Realizes.withService {d : Declaration} {c : Configuration} (h : c.Realizes d)
    (service : Service) : (c.withService service).Realizes d :=
  ⟨h.surface, h.identifiers, h.operators, h.wellFormed, h.longest, h.longest_of_none⟩

theorem Realizes.withServices {d : Declaration} {c : Configuration} (h : c.Realizes d)
    (services : List Service) : (services.foldl Configuration.withService c).Realizes d := by
  induction services generalizing c with
  | nil => exact h
  | cons service services ih => exact ih (h.withService service)

end Configuration

namespace Declaration

theorem build_ofClauses (name : String) (clauses : List Clause) :
    let d := ofClauses name clauses
    (d.name = name ∧ d.reservedIdentifiers = clauses.flatMap Clause.addedIdentifiers
        ∧ d.reservedOperators = clauses.flatMap Clause.addedOperators) ∧
      ((∃ c, d.build = .ok c) ↔ d.WellFormed) ∧
      (∀ defect, d.build = .error defect ↔ d.BreaksFirst defect) ∧
      ∀ c (services : List Service), d.build = .ok c →
        (services.foldl Configuration.withService c).Realizes d := by
  refine ⟨⟨by simp, by simp, by simp⟩, exists_build_iff, fun _ => build_eq_error_iff_breaksFirst, ?_⟩
  intro c services h
  exact (Configuration.realizes_of_build h).withServices services

def tinyClauses : List Clause :=
  [.strings .plainQuotes, .reserveIdentifiers (spellings ["if", "else", "if"]), .lineComment ['#'],
    .identifiers .unicode, .reserveOperators (spellings ["=", "×", "="]),
    .reserveIdentifiers (spellings ["où", "else"])]

theorem tiny_realizes :
    (ofClauses "Tiny" tinyClauses).build = .ok (ofClauses "Tiny" tinyClauses).configuration ∧
      ([⟨"1", "server"⟩, ⟨"2", "server"⟩].foldl Configuration.withService
        (ofClauses "Tiny" tinyClauses).configuration).Realizes (ofClauses "Tiny" tinyClauses) := by
  have h : (ofClauses "Tiny" tinyClauses).build = .ok (ofClauses "Tiny" tinyClauses).configuration :=
    build_eq_ok_iff.mpr ⟨by decide +kernel, rfl⟩
  exact ⟨h, (build_ofClauses "Tiny" tinyClauses).2.2.2 _ _ h⟩

end Declaration

end LexicalGrammar
