import LexicalGrammar.Language.Python
import LexicalGrammar.Proofs.Declaration.WellFormed
import LexicalGrammar.Tokenizer

namespace LexicalGrammar

inductive Defect.Alike : Defect → Defect → Prop
  | refl (defect : Defect) : defect.Alike defect
  | reservedTwice (language : String) (a b : Text) :
      Alike (.reservedTwice language a) (.reservedTwice language b)
  | notAnIdentifier (language : String) (a b : Text) :
      Alike (.notAnIdentifier language a) (.notAnIdentifier language b)

inductive BuildsAlike : Except Defect Configuration → Except Defect Configuration → Prop
  | error {a b : Defect} (h : a.Alike b) : BuildsAlike (.error a) (.error b)
  | ok {c k : Configuration} (agrees : (c == k) = true)
      (keywords : ∀ text offset, c.probeKeyword text offset = k.probeKeyword text offset)
      (operators : ∀ text offset,
        c.probeReservedOperator text offset = k.probeReservedOperator text offset)
      (tokens : ∀ text, c.tokenize text = k.tokenize text) : BuildsAlike (.ok c) (.ok k)

theorem Configuration.beq_self (c : Configuration) : (c == c) = true := by
  have hservice : sameService c.service c.service = true := by
    cases c.service <;> simp [sameService]
  change c.agrees c = true
  simp [agrees, hservice]

structure Declaration.SameReserved (d e : Declaration) : Prop where
  surface : d.toSurface = e.toSurface
  service : d.service = e.service
  identifiers : ∀ word, word ∈ d.reservedIdentifiers ↔ word ∈ e.reservedIdentifiers
  operators : ∀ spelling, spelling ∈ d.reservedOperators ↔ spelling ∈ e.reservedOperators

section Search

variable {α β : Type} {R : β → β → Prop}

theorem rel_findSome? {f g : α → Option β} {items : List α}
    (h : ∀ a ∈ items, Option.Rel R (f a) (g a)) :
    Option.Rel R (items.findSome? f) (items.findSome? g) := by
  induction items with
  | nil => exact .none
  | cons a items ih =>
      have ha := h a List.mem_cons_self
      rw [List.findSome?_cons, List.findSome?_cons]
      generalize f a = x at ha
      generalize g a = y at ha
      cases ha with
      | none => exact ih fun b hb => h b (List.mem_cons_of_mem _ hb)
      | some hr => exact .some hr

theorem rel_map_find? {p : α → Bool} {f : α → β} {items other : List α}
    (hm : ∀ a, a ∈ items ↔ a ∈ other) (hf : ∀ a b, R (f a) (f b)) :
    Option.Rel R ((items.find? p).map f) ((other.find? p).map f) := by
  cases ha : items.find? p with
  | none =>
      have hb : other.find? p = none :=
        List.find?_eq_none.mpr fun a hb => List.find?_eq_none.mp ha a ((hm a).mpr hb)
      rw [hb]
      exact .none
  | some a =>
      have hs : (other.find? p).isSome = true :=
        List.find?_isSome.mpr ⟨a, (hm a).mp (List.mem_of_find?_eq_some ha), List.find?_some ha⟩
      obtain ⟨b, hb⟩ := Option.isSome_iff_exists.mp hs
      rw [hb]
      exact .some (hf a b)

end Search

namespace Declaration

variable {d e : Declaration}

theorem SameReserved.configuration_eq (h : d.SameReserved e) :
    d.configuration = e.configuration := by
  have hi : Vocabulary.ofList d.reservedIdentifiers = .ofList e.reservedIdentifiers :=
    Vocabulary.ext_of_mem fun word => by simp [h.identifiers]
  have ho : Vocabulary.ofList d.reservedOperators = .ofList e.reservedOperators :=
    Vocabulary.ext_of_mem fun spelling => by simp [h.operators]
  simp only [configuration, h.surface, h.service, hi, ho]

theorem SameReserved.broken?_alike (h : d.SameReserved e) (rule : Rule) :
    Option.Rel Defect.Alike (d.broken? rule) (e.broken? rule) := by
  have hself (found : Option Defect) : Option.Rel Defect.Alike found found := by
    cases found with
    | none => exact .none
    | some defect => exact .some (.refl defect)
  have hname : d.name = e.name := congrArg Surface.name h.surface
  cases rule with
  | strings => simpa only [broken?, h.surface] using hself e.strings.defect?
  | characters => simpa only [broken?, h.surface] using hself (e.characters.bind _)
  | numbers => simpa only [broken?, h.surface] using hself e.numbers.defect?
  | comments => simpa only [broken?, h.surface] using hself e.comments.defect?
  | nonemptyIdentifiers =>
      simpa only [broken?, h.identifiers, hname] using hself (e.broken? .nonemptyIdentifiers)
  | nonemptyOperators =>
      simpa only [broken?, h.operators, hname] using hself (e.broken? .nonemptyOperators)
  | apart =>
      have hp : d.reservedOperators.contains = e.reservedOperators.contains := by
        funext spelling
        rw [Bool.eq_iff_iff, List.contains_iff_mem, List.contains_iff_mem, h.operators]
      simp only [broken?, reservedTwice?, hp, hname]
      exact rel_map_find? h.identifiers (.reservedTwice e.name)
  | readable =>
      simp only [broken?, notAnIdentifier?, h.surface]
      exact rel_map_find? h.identifiers (.notAnIdentifier e.name)

theorem SameReserved.buildsAlike (h : d.SameReserved e) : BuildsAlike d.build e.build := by
  have hdefects : Option.Rel Defect.Alike d.defect? e.defect? := by
    rw [defect?_eq_findSome?, defect?_eq_findSome?]
    exact rel_findSome? fun rule _ => h.broken?_alike rule
  simp only [build, h.configuration_eq]
  generalize d.defect? = a at hdefects
  generalize e.defect? = b at hdefects
  cases hdefects with
  | none => exact .ok e.configuration.beq_self (fun _ _ => rfl) (fun _ _ => rfl) fun _ => rfl
  | some ha => exact .error ha

end Declaration

structure Clause.Rearranged (clauses other : List Clause) : Prop where
  rest : clauses.filter (!·.reserves) = other.filter (!·.reserves)
  identifiers : ∀ word,
    word ∈ clauses.flatMap addedIdentifiers ↔ word ∈ other.flatMap addedIdentifiers
  operators : ∀ spelling,
    spelling ∈ clauses.flatMap addedOperators ↔ spelling ∈ other.flatMap addedOperators

namespace Declaration

theorem frame_add {d e : Declaration} (hs : d.toSurface = e.toSurface) (hv : d.service = e.service)
    (clause : Clause) : (d.add clause).toSurface = (e.add clause).toSurface ∧
      (d.add clause).service = (e.add clause).service := by
  cases clause <;> simp [add, reserveIdentifiers, reserveOperators, hs, hv]

theorem frame_add_of_reserves {clause : Clause} (h : clause.reserves = true) (d : Declaration) :
    (d.add clause).toSurface = d.toSurface ∧ (d.add clause).service = d.service := by
  cases clause <;> simp_all [Clause.reserves, add, reserveIdentifiers, reserveOperators]

theorem frame_foldl_add (clauses : List Clause) {d e : Declaration}
    (hs : d.toSurface = e.toSurface) (hv : d.service = e.service) :
    (clauses.foldl add d).toSurface = ((clauses.filter (!·.reserves)).foldl add e).toSurface ∧
      (clauses.foldl add d).service = ((clauses.filter (!·.reserves)).foldl add e).service := by
  induction clauses generalizing d e with
  | nil => exact ⟨hs, hv⟩
  | cons clause clauses ih =>
      cases hr : clause.reserves with
      | true =>
          obtain ⟨hs', hv'⟩ := frame_add_of_reserves hr d
          simp only [List.foldl_cons, List.filter_cons, hr, Bool.not_true, Bool.false_eq_true, if_false]
          exact ih (hs'.trans hs) (hv'.trans hv)
      | false =>
          obtain ⟨hs', hv'⟩ := frame_add hs hv clause
          simp only [List.foldl_cons, List.filter_cons, hr, Bool.not_false, if_true]
          exact ih hs' hv'

theorem sameReserved_ofClauses (name : String) {clauses other : List Clause}
    (h : Clause.Rearranged clauses other) :
    (ofClauses name clauses).SameReserved (ofClauses name other) := by
  obtain ⟨hs, hv⟩ := frame_foldl_add clauses (d := { name := name }) rfl rfl
  obtain ⟨hs', hv'⟩ := frame_foldl_add other (d := { name := name }) rfl rfl
  rw [← h.rest] at hs' hv'
  exact
    { surface := hs.trans hs'.symm
      service := hv.trans hv'.symm
      identifiers := by simpa using h.identifiers
      operators := by simpa using h.operators }

theorem build_rearranged :
    (∀ {d e : Declaration}, d.SameReserved e → BuildsAlike d.build e.build) ∧
      ∀ (name : String) {clauses other : List Clause}, Clause.Rearranged clauses other →
        BuildsAlike (ofClauses name clauses).build (ofClauses name other).build :=
  ⟨SameReserved.buildsAlike, fun name _ _ h => (sameReserved_ofClauses name h).buildsAlike⟩

def twice : List Clause :=
  [.reserveIdentifiers (spellings ["if", "in"]), .curlyBrackets true,
    .reserveOperators (spellings ["in", "if"])]

def twiceSpread : List Clause :=
  [.reserveOperators (spellings ["if"]), .reserveIdentifiers (spellings ["in"]),
    .reserveOperators (spellings ["in"]), .curlyBrackets true,
    .reserveIdentifiers (spellings ["if", "in", "if"])]

theorem rearranged_twice : Clause.Rearranged twice twiceSpread where
  rest := rfl
  identifiers := by simp [twice, twiceSpread, Clause.addedIdentifiers, spellings, or_comm]
  operators := by simp [twice, twiceSpread, Clause.addedOperators, spellings, or_comm]

def pythonShuffled : Declaration :=
  { Python.declaration with
    reservedIdentifiers := Python.keywords.reverse ++ Python.keywords
    reservedOperators := Python.operators.reverse }

theorem sameReserved_pythonShuffled : Python.declaration.SameReserved pythonShuffled where
  surface := rfl
  service := rfl
  identifiers := by simp [pythonShuffled, Python.declaration]
  operators := by simp [pythonShuffled, Python.declaration]

theorem rearranged_buildsAlike :
    (Python.declaration.SameReserved pythonShuffled ∧
        BuildsAlike Python.declaration.build pythonShuffled.build) ∧
      Clause.Rearranged twice twiceSpread ∧
        (ofClauses "Tiny" twice).build = .error (.reservedTwice "Tiny" ['i', 'f']) ∧
        (ofClauses "Tiny" twiceSpread).build = .error (.reservedTwice "Tiny" ['i', 'n']) ∧
        BuildsAlike (ofClauses "Tiny" twice).build (ofClauses "Tiny" twiceSpread).build :=
  ⟨⟨sameReserved_pythonShuffled, build_rearranged.1 sameReserved_pythonShuffled⟩,
    rearranged_twice, build_eq_error_iff.mpr (by decide +kernel),
    build_eq_error_iff.mpr (by decide +kernel), build_rearranged.2 "Tiny" rearranged_twice⟩

end Declaration

end LexicalGrammar
