import LexicalGrammar.Proofs.Cut.Literal
import LexicalGrammar.Proofs.Registry
import LexicalGrammar.Tokenizer

namespace LexicalGrammar

def Configuration.wordKind (c : Configuration) : TokenKind :=
  if c.identifiers.isSome then .identifier else .plain

def Configuration.recolouredKind (c : Configuration) (words : List Text) (kind : TokenKind)
    (spelling : Text) : TokenKind :=
  if kind = c.wordKind ∧ accepts c.keywordGrammar.scan spelling = true ∧ words.contains spelling = true
  then .keyword else kind

def Token.recolour (c : Configuration) (words : List Text) (t : Token) : Token :=
  { t with kind := c.recolouredKind words t.kind t.text }

def Reading.recolour (c : Configuration) (words : List Text) (r : Reading) : Reading :=
  { r with kind := c.recolouredKind words r.kind r.lexeme.text }

theorem Reading.recolour_tokenAt (c : Configuration) (words : List Text) (r : Reading) (offset : Nat) :
    (r.recolour c words).tokenAt offset = (r.tokenAt offset).recolour c words := rfl

structure Declaration.Extends (d base : Declaration) (words : List Text) : Prop where
  surface : d.toSurface = { base.toSurface with name := d.name }
  identifiers : ∀ word, word ∈ d.reservedIdentifiers ↔ word ∈ base.reservedIdentifiers ∨ word ∈ words
  operators : ∀ spelling, spelling ∈ d.reservedOperators ↔ spelling ∈ base.reservedOperators

structure Configuration.Extends (k c : Configuration) (words : List Text) : Prop where
  surface : k.toSurface = { c.toSurface with name := k.name }
  identifiers : ∀ word, k.isReservedIdentifier word = true ↔
    c.isReservedIdentifier word = true ∨ word ∈ words
  operators : k.scanReservedOperator = c.scanReservedOperator

theorem Declaration.Extends.configuration {d base : Declaration} {words : List Text}
    (h : d.Extends base words) : d.configuration.Extends base.configuration words where
  surface := h.surface
  identifiers := fun word => by
    simp [Configuration.isReservedIdentifier, Declaration.configuration, h.identifiers]
  operators := by
    have ho : Vocabulary.ofList d.reservedOperators = .ofList base.reservedOperators :=
      Vocabulary.ext_of_mem fun spelling => by simp [h.operators]
    funext text
    simp only [Configuration.scanReservedOperator, Declaration.configuration, ho]
    rfl

section Step

variable {k c : Configuration} {words : List Text}

theorem Configuration.Extends.apply {β : Type} (h : k.Extends c words) (f : Surface → β)
    (hf : ∀ s name, f { s with name := name } = f s) : f k.toSurface = f c.toSurface := by
  rw [h.surface, hf]

theorem Category.scan_eq_of_extends (h : k.Extends c words) (category : Category) :
    category.scan k = category.scan c := by
  cases category with
  | comment => exact h.apply (fun s => s.comments.scan) fun _ _ => rfl
  | character =>
      exact h.apply (fun s (text : Text) => s.characters.bind (·.scan text)) fun _ _ => rfl
  | string => exact h.apply (fun s => s.strings.scan) fun _ _ => rfl
  | number => exact h.apply (fun s => s.numbers.scan) fun _ _ => rfl
  | word => exact h.apply (fun s => s.keywordGrammar.scan) fun _ _ => rfl
  | bracket => exact h.apply (fun s => single s.isBracket) fun _ _ => rfl
  | plain => rfl
  | operator =>
      have ho : k.operators = c.operators := h.apply Surface.operators fun _ _ => rfl
      simp only [scan, Configuration.scanOperator, ho, h.operators]

theorem Category.read_eq_of_extends (h : k.Extends c words) (category : Category) (text : Text) :
    category.read k text = (category.read c text).map fun r =>
      { r with kind := category.kind k r.lexeme.text } := by
  simp only [read, scan_eq_of_extends h, Option.map_map]
  rfl

theorem Configuration.Extends.kindOfWord (h : k.Extends c words) {word : Text}
    (hw : accepts c.keywordGrammar.scan word = true) :
    Category.kindOfWord k word = c.recolouredKind words (Category.kindOfWord c word) word := by
  have hkind : k.wordKind = c.wordKind :=
    h.apply (fun s => if s.identifiers.isSome then TokenKind.identifier else .plain) fun _ _ => rfl
  have hne : TokenKind.keyword ≠ c.wordKind := by
    unfold wordKind
    split <;> simp
  have hword (c : Configuration) (word : Text) : Category.kindOfWord c word =
      if c.isReservedIdentifier word then .keyword else c.wordKind := rfl
  simp only [hword, recolouredKind, hw, hkind, h.identifiers]
  by_cases hr : c.isReservedIdentifier word = true
  · simp [hr, hne]
  · simp [hr]

theorem Category.word_mem_of_precedence {before after : List Category}
    (h : precedence = before ++ plain :: after) : word ∈ before := by
  have hm : word ∈ before ++ plain :: after := h ▸ by decide
  have hp : (before ++ plain :: after).Pairwise fun a _ => a ≠ plain := h ▸ by decide
  rcases List.mem_append.mp hm with hb | ha
  · exact hb
  · rcases List.mem_cons.mp ha with he | ha
    · simp at he
    · exact absurd rfl ((List.pairwise_cons.mp (List.pairwise_append.mp hp).2.1).1 word ha)

theorem Configuration.recolouredKind_of_ne {kind : TokenKind} (hi : kind ≠ .identifier)
    (hp : kind ≠ .plain) (spelling : Text) : c.recolouredKind words kind spelling = kind := by
  have hne : kind ≠ c.wordKind := by
    unfold wordKind
    split
    · exact hi
    · exact hp
  simp [recolouredKind, hne]

theorem Category.scan_word_of_read {text : Text} (h : word.read c text = none) :
    c.keywordGrammar.scan text = none := by
  cases hs : c.keywordGrammar.scan text with
  | none => rfl
  | some l =>
      have hread : word.read c text = some ⟨kindOfWord c l.text, l⟩ :=
        read_eq_some_iff.mpr ⟨hs, IdentifierGrammar.text_ne_nil_of_scan hs, rfl⟩
      rw [hread] at h
      simp at h

theorem Configuration.Extends.kind (h : k.Extends c words) {category : Category} {text : Text}
    {r : Reading} (hread : category.read c text = some r)
    (hword : category = .plain → Category.word.read c text = none) :
    category.kind k r.lexeme.text = c.recolouredKind words r.kind r.lexeme.text := by
  obtain ⟨hscan, _, hkind⟩ := Category.read_eq_some_iff.mp hread
  rw [hkind]
  cases category with
  | word => exact h.kindOfWord (IdentifierGrammar.accepts_of_scan hscan)
  | plain =>
      cases text with
      | nil => simp [Category.scan, Category.single] at hscan
      | cons ch rest =>
          obtain rfl : r = ⟨.plain, [ch], true, rest⟩ :=
            (Option.some.inj ((Category.read_plain_cons c ch rest).symm.trans hread)).symm
          have hnot := IdentifierGrammar.accepts_singleton (Category.scan_word_of_read (hword rfl))
          simp [Category.kind, recolouredKind, hnot]
  | _ => exact (recolouredKind_of_ne (by simp [Category.kind]) (by simp [Category.kind]) _).symm

theorem Configuration.Extends.classify (h : k.Extends c words) (text : Text) :
    k.classify text = (c.classify text).map (Reading.recolour c words) := by
  cases hr : c.classify text with
  | none =>
      rw [classify_eq_none_iff] at hr
      exact classify_eq_none_iff.mpr hr
  | some r =>
      obtain ⟨before, category, after, hsplit, hread, hbefore⟩ := List.findSome?_eq_some_iff.mp hr
      refine List.findSome?_eq_some_iff.mpr ⟨before, category, after, hsplit, ?_, ?_⟩
      · have hkind := h.kind hread fun hplain =>
          hbefore .word (Category.word_mem_of_precedence (hplain ▸ hsplit))
        rw [Category.read_eq_of_extends h, hread, Option.map_some, hkind]
        rfl
      · intro other ho
        rw [Category.read_eq_of_extends h, hbefore other ho, Option.map_none]

end Step

theorem Tokenizer.tokens_recolour {k : Configuration} {words : List Text} {t : Tokenizer}
    (h : k.Extends t.config words) :
    (Tokenizer.mk k t.position t.rest).tokens = t.tokens.map (Token.recolour t.config words) := by
  induction t using run_induction with
  | done t hend =>
      rw [tokens_of_end hend]
      exact tokens_of_end hend
  | token t r hr ih =>
      have hread : k.classify t.skipWhiteSpace.rest = some (r.recolour t.config words) := by
        rw [h.classify, hr, Option.map_some]
      rw [tokens_of_classify hr, tokens_of_classify (t := ⟨k, t.position, t.rest⟩) hread,
        List.map_cons, ← Reading.recolour_tokenAt]
      exact congrArg (List.cons _) (ih h)

namespace EcmaScript

theorem typeScript_extends : typeScript.Extends javaScript typeKeywords where
  surface := rfl
  identifiers := fun _ => List.mem_append
  operators := fun _ => Iff.rfl

theorem not_mem_keywords {word : Text} (h : word ∈ typeKeywords) : word ∉ keywords := by
  have hall : typeKeywords.all (!keywords.contains ·) = true := by decide +kernel
  simpa using List.all_eq_true.mp hall word h

theorem accepts_typeKeyword {word : Text} (h : word ∈ typeKeywords) :
    accepts javaScript.keywordGrammar.scan word = true := by
  have hall : typeKeywords.all (accepts javaScript.keywordGrammar.scan) = true := by decide +kernel
  exact List.all_eq_true.mp hall word h

def IsTypeKeyword (word : Text) : Prop :=
  typeScript.configuration.isReservedIdentifier word = true ∧
    javaScript.configuration.isReservedIdentifier word = false

instance (word : Text) : Decidable (IsTypeKeyword word) := inferInstanceAs (Decidable (_ ∧ _))

theorem isTypeKeyword_iff {word : Text} : IsTypeKeyword word ↔ word ∈ typeKeywords := by
  have hr := typeScript_extends.configuration.identifiers word
  have hj : javaScript.configuration.isReservedIdentifier word = true ↔ word ∈ keywords := by
    simp [Configuration.isReservedIdentifier, Declaration.configuration, javaScript, family]
  rw [IsTypeKeyword, hr, ← Bool.not_eq_true, hj]
  constructor
  · rintro ⟨hk | ht, hn⟩
    · exact absurd hk hn
    · exact ht
  · exact fun h => ⟨Or.inr h, not_mem_keywords h⟩

theorem recolour_typeKeywords (t : Token) :
    t.recolour javaScript.configuration typeKeywords =
      if t.kind = .identifier ∧ IsTypeKeyword t.text then { t with kind := .keyword } else t := by
  have hkind : javaScript.configuration.wordKind = .identifier := rfl
  have hword : accepts javaScript.keywordGrammar.scan t.text = true ∧
      typeKeywords.contains t.text = true ↔ IsTypeKeyword t.text := by
    rw [isTypeKeyword_iff, List.contains_iff_mem]
    exact ⟨And.right, fun h => ⟨accepts_typeKeyword h, h⟩⟩
  have hgrammar : javaScript.configuration.keywordGrammar = javaScript.keywordGrammar := rfl
  simp only [Token.recolour, Configuration.recolouredKind, hkind, hgrammar, hword]
  split <;> rfl

end EcmaScript

namespace Configuration

theorem tokenize_extends :
    (∀ {base d : Declaration} {words : List Text} {c k : Configuration}, d.Extends base words →
      base.build = .ok c → d.build = .ok k → ∀ text,
        k.tokenize text = (c.tokenize text).map (Token.recolour c words)) ∧
      ∀ (service other : Option Service), ∃ c k, Language.javaScript.build service = .ok c ∧
        Language.typeScript.build other = .ok k ∧ ∀ text,
          k.tokenize text = (c.tokenize text).map fun t =>
            if t.kind = .identifier ∧ k.isReservedIdentifier t.text = true
              ∧ c.isReservedIdentifier t.text = false then { t with kind := .keyword } else t := by
  have run {base d : Declaration} {words : List Text} (h : d.Extends base words) (text : Text) :
      d.configuration.tokenize text =
        (base.configuration.tokenize text).map (Token.recolour base.configuration words) :=
    Tokenizer.tokens_recolour (t := .start base.configuration text) h.configuration
  constructor
  · intro base d words c k h hc hk text
    obtain ⟨_, rfl⟩ := Declaration.build_eq_ok_iff.mp hc
    obtain ⟨_, rfl⟩ := Declaration.build_eq_ok_iff.mp hk
    exact run h text
  · intro service other
    refine ⟨_, _, Language.javaScript.build_eq_ok service, Language.typeScript.build_eq_ok other,
      fun text => ?_⟩
    have hextends : (Language.typeScript.declarationWith other).Extends
        (Language.javaScript.declarationWith service) EcmaScript.typeKeywords :=
      ⟨rfl, EcmaScript.typeScript_extends.identifiers, fun _ => Iff.rfl⟩
    exact (run hextends text).trans (List.map_congr_left fun t _ => EcmaScript.recolour_typeKeywords t)

def booleans : Declaration :=
  { Json.declaration with name := "Booleans", reservedIdentifiers := spellings ["true", "false"] }

theorem json_extends_booleans : Json.declaration.Extends booleans (spellings ["null"]) where
  surface := rfl
  identifiers := fun _ => List.mem_append (s := spellings ["true", "false"])
  operators := fun _ => Iff.rfl

theorem json_tokenize_extends :
    Json.declaration.Extends booleans (spellings ["null"]) ∧
      booleans.build = .ok booleans.configuration ∧
      Json.declaration.build = .ok Json.declaration.configuration ∧
      Json.declaration.configuration.tokenize "[null, nul,\"null\"]".toList =
        (booleans.configuration.tokenize "[null, nul,\"null\"]".toList).map
          (Token.recolour booleans.configuration (spellings ["null"])) := by
  have hb : booleans.build = .ok booleans.configuration :=
    Declaration.build_eq_ok_iff.mpr ⟨by decide +kernel, rfl⟩
  have hj : Json.declaration.build = .ok Json.declaration.configuration :=
    Declaration.build_eq_ok_iff.mpr ⟨Language.json.defect?_declaration, rfl⟩
  exact ⟨json_extends_booleans, hb, hj, tokenize_extends.1 json_extends_booleans hb hj _⟩

end Configuration

end LexicalGrammar
