import LexicalGrammar.Proofs.Declaration.Rearranged
import LexicalGrammar.Proofs.Probe
import LexicalGrammar.Proofs.Recolouring

namespace LexicalGrammar

theorem Token.recolour_nil (c : Configuration) (t : Token) : t.recolour c [] = t := by
  simp [recolour, Configuration.recolouredKind]

namespace Configuration

inductive Derived : Configuration → Prop
  | build {d : Declaration} {c : Configuration} (h : d.build = .ok c) : Derived c
  | withService {c : Configuration} (h : Derived c) (service : Service) :
      Derived (c.withService service)

def compared (c : Configuration) : Surface × Vocabulary × Vocabulary × Option String :=
  (c.toSurface, c.reservedIdentifiers, c.reservedOperators, c.service.map Service.identity)

structure AnswersAlike (a b : Configuration) : Prop where
  surface : a.toSurface = b.toSurface
  probes : ∀ p text offset, a.probeAt p text offset = b.probeAt p text offset
  keywordGrammar : a.keywordGrammar = b.keywordGrammar
  identifiers : ∀ word, a.isReservedIdentifier word = b.isReservedIdentifier word
  operators : ∀ spelling, a.isReservedOperator spelling = b.isReservedOperator spelling
  tokens : ∀ text, a.tokenize text = b.tokenize text

theorem sameService_iff {s t : Option Service} :
    sameService s t = true ↔ s.map Service.identity = t.map Service.identity := by
  cases s <;> cases t <;> simp [sameService]

theorem beq_iff {a b : Configuration} : (a == b) = true ↔ a.compared = b.compared := by
  change a.agrees b = true ↔ _
  simp only [agrees, compared, Bool.and_eq_true, beq_iff_eq, sameService_iff, Prod.mk.injEq,
    and_assoc]

theorem equivalence_beq : Equivalence fun a b : Configuration => (a == b) = true where
  refl _ := beq_iff.mpr rfl
  symm h := beq_iff.mpr (beq_iff.mp h).symm
  trans hab hbc := beq_iff.mpr ((beq_iff.mp hab).trans (beq_iff.mp hbc))

theorem Derived.longestOperator {c : Configuration} (h : c.Derived) :
    c.longestOperator = c.reservedOperators.widest := by
  induction h with
  | build h =>
      obtain ⟨_, rfl⟩ := Declaration.build_eq_ok_iff.mp h
      rfl
  | withService _ _ ih => exact ih

theorem eq_of_beq {a b : Configuration} (ha : a.Derived) (hb : b.Derived) (h : (a == b) = true) :
    a = { b with service := a.service } := by
  have hcompared := beq_iff.mp h
  simp only [compared, Prod.mk.injEq] at hcompared
  obtain ⟨hsurface, hidentifiers, hoperators, _⟩ := hcompared
  have hlongest : a.longestOperator = b.longestOperator := by
    rw [ha.longestOperator, hb.longestOperator, hoperators]
  cases a
  cases b
  simp_all

theorem answersAlike_service (c : Configuration) (service : Option Service) :
    ({ c with service := service } : Configuration).AnswersAlike c where
  surface := rfl
  probes p _ _ := by cases p <;> rfl
  keywordGrammar := rfl
  identifiers _ := rfl
  operators _ := rfl
  tokens text := by
    -- The same language with no word more.
    have hextends : ({ c with service := service } : Configuration).Extends c [] :=
      ⟨rfl, fun _ => by simp [isReservedIdentifier], rfl⟩
    have hrun := Tokenizer.tokens_recolour (t := .start c text) hextends
    rw [List.map_congr_left fun t _ => t.recolour_nil _, List.map_id'] at hrun
    exact hrun

theorem Derived.answersAlike {a b : Configuration} (ha : a.Derived) (hb : b.Derived)
    (h : (a == b) = true) : a.AnswersAlike b := by
  rw [eq_of_beq ha hb h]
  exact b.answersAlike_service a.service

theorem foldl_withService (c : Configuration) (services : List Service) :
    services.foldl withService c = { c with service := services.getLast?.or c.service } := by
  induction services generalizing c with
  | nil => rfl
  | cons service services ih =>
      rw [List.foldl_cons, ih, List.getLast?_cons]
      cases services.getLast? <;> rfl

theorem build_service (d : Declaration) (service : Service) :
    ({ d with service := some service } : Declaration).build =
      d.build.map (·.withService service) := by
  have hdefect : ({ d with service := some service } : Declaration).defect? = d.defect? := rfl
  simp only [Declaration.build, hdefect]
  cases d.defect? <;> rfl

theorem beq_iff_identity {a b : Configuration} {s t : Service}
    (h : ({ a with service := none } == { b with service := none }) = true)
    (ha : a.service = some s) (hb : b.service = some t) :
    (a == b) = true ↔ s.identity = t.identity := by
  rw [beq_iff] at h ⊢
  simp_all [compared]

theorem agreement_congruence :
    (Equivalence fun a b : Configuration => (a == b) = true) ∧
    (∀ {a b : Configuration}, a.Derived → b.Derived → (a == b) = true → a.AnswersAlike b) ∧
    (∀ (a b : Configuration) (n : Nat), ({ a with longestOperator := n } == b) = (a == b)) ∧
    (∀ (c : Configuration) (services : List Service),
      services.foldl withService c = { c with service := services.getLast?.or c.service } ∧
        (services.foldl withService c).AnswersAlike c) ∧
    (∀ (d : Declaration) (service : Service),
      ({ d with service := some service } : Declaration).build =
        d.build.map (·.withService service)) ∧
    ∀ {a b : Configuration} {s t : Service},
      ({ a with service := none } == { b with service := none }) = true →
      a.service = some s → b.service = some t → ((a == b) = true ↔ s.identity = t.identity) := by
  refine ⟨equivalence_beq, fun ha hb h => ha.answersAlike hb h, fun _ _ _ => rfl, ?_, build_service,
    beq_iff_identity⟩
  intro c services
  have hfold := foldl_withService c services
  exact ⟨hfold, hfold ▸ c.answersAlike_service _⟩

theorem python_agreement :
    let given := Declaration.configuration { Python.declaration with service := some ⟨"1", "server"⟩ }
    let attached := Declaration.pythonShuffled.configuration.withService ⟨"1", "server"⟩
    (given.Derived ∧ attached.Derived ∧ (given == attached) = true ∧ given.AnswersAlike attached) ∧
      ¬ (given == attached.withService ⟨"2", "server"⟩) = true := by
  intro given attached
  obtain ⟨_, hcongruence, _, _, hbuild, hidentity⟩ := agreement_congruence
  have hshuffled : Declaration.pythonShuffled.build = .ok Declaration.pythonShuffled.configuration :=
    Declaration.build_eq_ok_iff.mpr ⟨by decide +kernel, rfl⟩
  have hgiven : given.Derived := .build (by rw [hbuild, Python.build_eq_ok]; rfl)
  have hattached : attached.Derived := .withService (.build hshuffled) _
  have hcompared : given.compared = attached.compared :=
    congrArg (fun c => (c.withService ⟨"1", "server"⟩).compared)
      Declaration.sameReserved_pythonShuffled.configuration_eq
  have hagree := beq_iff.mpr hcompared
  refine ⟨⟨hgiven, hattached, hagree, hcongruence hgiven hattached hagree⟩, fun h => ?_⟩
  have hsame : ({ given with service := none } == { attached with service := none }) = true := by
    rw [eq_of_beq hgiven hattached hagree]
    exact beq_iff.mpr rfl
  have hidentities := (hidentity (b := attached.withService ⟨"2", "server"⟩) hsame rfl rfl).mp h
  simp at hidentities

end Configuration

end LexicalGrammar
