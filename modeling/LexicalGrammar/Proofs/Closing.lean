import LexicalGrammar.Proofs.Partition
import LexicalGrammar.Proofs.Quotation.Body

namespace LexicalGrammar

theorem BlockComment.rest_of_not_closed {block : BlockComment} (ho : block.opening ≠ [])
    (hc : block.close ≠ []) (depth : Nat) (text : Text)
    (h : (block.scanBody depth 0 text).closed = false) :
    (block.scanBody depth 0 text).rest = [] := by
  induction depth, text using block.scanBody_induction ho hc with
  | nil depth => simp [scanBody]
  | close text left hl =>
      rw [scanBody_of_close hc hl] at h
      simp at h
  | innerClose depth text left hl ih =>
      rw [scanBody_of_inner_close hc hl] at h ⊢
      exact ih h
  | innerOpen depth text left hn hnested hl ih =>
      rw [scanBody_of_open ho hn hnested hl] at h ⊢
      exact ih h
  | other depth c rest hn hopen ih =>
      rw [scanBody_of_other hn hopen] at h ⊢
      exact ih h

theorem CommentGrammar.rest_of_not_closed {g : CommentGrammar}
    (hb : ∀ block, g.block = some block → block.opening ≠ [] ∧ block.close ≠ []) {text : Text}
    {l : Lexeme} (h : g.scan text = some l) (hclosed : l.closed = false) : l.rest = [] := by
  have line (h : g.scanLine text = some l) : l.rest = [] := by
    obtain ⟨opening, _, hl⟩ := Option.bind_eq_some_iff.mp h
    obtain ⟨rest, _, rfl⟩ := Option.map_eq_some_iff.mp hl
    simp [Lexeme.ofSplit] at hclosed
  have block (h : g.scanBlock text = some l) : l.rest = [] := by
    obtain ⟨block, hg, hl⟩ := Option.bind_eq_some_iff.mp h
    obtain ⟨rest, _, rfl⟩ := Option.map_eq_some_iff.mp hl
    exact BlockComment.rest_of_not_closed (hb block hg).1 (hb block hg).2 0 rest hclosed
  simp only [scan, Option.orElse_eq_orElse, Option.orElse_eq_or] at h
  split at h <;> rcases Option.or_eq_some_iff.mp h with h | ⟨_, h⟩
  all_goals first | exact line h | exact block h

theorem Configuration.closed_of_scanOperator {c : Configuration} {text : Text} {l : Lexeme}
    (h : c.scanOperator text = some l) : l.closed = true := by
  cases ho : c.operators with
  | some g =>
      simp only [scanOperator, ho, OperatorGrammar.scan] at h
      split at h
      · simp at h
      · obtain rfl := Option.some.inj h
        rfl
  | none =>
      simp only [scanOperator, ho] at h
      obtain ⟨_, _, rfl⟩ := Option.map_eq_some_iff.mp h
      rfl

namespace Category

theorem closed_of_single {p : Char → Bool} {text : Text} {l : Lexeme}
    (h : single p text = some l) : l.closed = true := by
  cases text with
  | nil => simp [single] at h
  | cons c rest =>
      simp only [single] at h
      split at h
      · obtain rfl := Option.some.inj h
        rfl
      · simp at h

theorem of_not_closed {c : Configuration} {category : Category} {text : Text} {l : Lexeme}
    (h : category.scan c text = some l) (hopen : l.closed = false) :
    category = .comment ∨ category = .character ∨ category = .string := by
  cases category with
  | comment => exact Or.inl rfl
  | character => exact Or.inr (Or.inl rfl)
  | string => exact Or.inr (Or.inr rfl)
  | number =>
      obtain ⟨_, _, rfl⟩ := Option.map_eq_some_iff.mp h
      simp [Lexeme.ofSplit] at hopen
  | word =>
      obtain ⟨_, _, rfl⟩ := Option.map_eq_some_iff.mp h
      simp [Lexeme.ofSplit] at hopen
  | operator => simp [Configuration.closed_of_scanOperator h] at hopen
  | bracket => simp [closed_of_single h] at hopen
  | plain => simp [closed_of_single h] at hopen

end Category

def Configuration.quotations? (c : Configuration) : TokenKind → Option StringGrammar
  | .character => c.characters
  | .string => some c.strings
  | _ => none

structure Token.Commits (g : StringGrammar) (text : Text) (t : Token) (k : Commitment) : Prop where
  commitment : ∃ rest, suffixAt? text t.start = some rest ∧ g.commitment? rest = some k
  tag : ∀ tag, k.tag = some tag → tag ∈ g.tags
  delimiter : k.delimiter ∈ g.alternatives

structure Token.EndsText (tokens : List Token) (text : Text) (t : Token) : Prop where
  stop : t.stop = width text
  last : tokens.getLast? = some t

def Token.EndsLine (text : Text) (t : Token) : Prop :=
  t.stop = width text ∨
    ∃ rest, suffixAt? text t.stop = some rest ∧ rest.head?.any isLineBreak = true

structure Token.Quotes (tokens : List Token) (text : Text) (t : Token) (k : Commitment) : Prop where
  openBlock : t.closed = false → k.delimiter.body.multiline = true → t.EndsText tokens text
  openLine : t.closed = false → k.delimiter.body.multiline = false → t.EndsLine text
  closed : t.closed = true → ∃ inner,
    t.text = k.tag.getD [] ++ (k.delimiter.opening ++ (inner ++ k.delimiter.close))
  unbroken : k.delimiter.body.multiline = false →
    (∀ c ∈ k.opening ++ k.delimiter.body.spelled, isLineBreak c = false) →
    ∀ c ∈ t.text, isLineBreak c = false

section Run

variable {c : Configuration} {text : Text} {tokens : List Token} {t : Token}

theorem Partition.endsText (h : Partition c text 0 tokens) (ht : t ∈ tokens)
    (hstop : t.stop = width text) : t.EndsText tokens text := by
  refine ⟨hstop, ?_⟩
  obtain ⟨front, later, rfl⟩ := List.append_of_mem ht
  cases later with
  | nil => simp
  | cons next later =>
      have hle := (List.pairwise_cons.mp (List.pairwise_append.mp h.ordered).2.1).1 next (by simp)
      have hnext := (h.fits next (by simp)).extent
      omega

theorem Partition.exists_classify (h : Partition c text 0 tokens) (hc : c.Proper)
    (ht : t ∈ tokens) :
    ∃ back, suffixAt? text t.start = some (t.text ++ back) ∧
      suffixAt? text t.stop = some back ∧
      c.classify (t.text ++ back) = some ⟨t.kind, t.text, t.closed, back⟩ := by
  have hfits := h.fits t ht
  obtain ⟨back, hback, _⟩ := slice?_eq_some_iff.mp hfits.spelling
  refine ⟨back, hback, ?_, classify_of_isFirstMatch hc hback hfits.first⟩
  obtain ⟨front, rfl, hstart⟩ := suffixAt?_eq_some_iff.mp hback
  rw [Token.stop, ← hstart]
  exact suffixAt?_width_append_add

theorem stop_of_suffixAt? (h : suffixAt? text t.stop = some []) : t.stop = width text := by
  obtain ⟨front, rfl, hstop⟩ := suffixAt?_eq_some_iff.mp h
  rw [List.append_nil, hstop]

theorem quotes_of_read {k : Commitment} {back : Text} (hc : k.delimiter.close ≠ [])
    (hread : k.read = ⟨t.text, t.closed, back⟩) (hback : suffixAt? text t.stop = some back)
    (hends : back = [] → t.EndsText tokens text) : t.Quotes tokens text k := by
  obtain ⟨htext, hclosed, hrest⟩ := Lexeme.mk.inj hread
  have hspelling : t.text = k.opening ++ (k.delimiter.body.scan k.rest).text := htext.symm
  have hending := QuotedBody.rest_of_not_closed hc k.rest
  rw [hclosed, hrest] at hending
  refine ⟨?openBlock, ?openLine, ?closed, ?unbroken⟩
  case openBlock =>
    intro hopen hmultiline
    rcases hending hopen with hnil | ⟨hsingle, _⟩
    · exact hends hnil
    · rw [hmultiline] at hsingle
      simp at hsingle
  case openLine =>
    intro hopen _
    rcases hending hopen with hnil | ⟨_, hbreak⟩
    · exact Or.inl (hends hnil).stop
    · exact Or.inr ⟨back, hback, hbreak⟩
  case closed =>
    intro hclose
    obtain ⟨inner, hinner⟩ := QuotedBody.exists_of_closed hc k.rest (hclosed.trans hclose)
    exact ⟨inner, by rw [hspelling, hinner, Commitment.opening, List.append_assoc]; rfl⟩
  case unbroken =>
    intro hsingle hspelled
    simp only [List.forall_mem_append] at hspelled
    rw [hspelling, List.forall_mem_append]
    exact ⟨hspelled.1, QuotedBody.unbroken_scan hc hsingle hspelled.2 k.rest⟩

theorem commits_and_quotes {g : StringGrammar}
    (hg : ∀ d ∈ g.alternatives, d.opening ≠ [] ∧ d.close ≠ []) {back : Text}
    (hstart : suffixAt? text t.start = some (t.text ++ back))
    (hback : suffixAt? text t.stop = some back)
    (hscan : g.scan (t.text ++ back) = some ⟨t.text, t.closed, back⟩)
    (hends : back = [] → t.EndsText tokens text) :
    ∃ k, t.Commits g text k ∧ t.Quotes tokens text k := by
  obtain ⟨k, hk, hread⟩ := Option.map_eq_some_iff.mp hscan
  obtain ⟨htag, hdelimiter, _⟩ := StringGrammar.of_commitment? hk
  exact ⟨k, ⟨⟨_, hstart, hk⟩, htag, hdelimiter⟩,
    quotes_of_read (hg _ hdelimiter).2 hread hback hends⟩

end Run

theorem Category.eq_of_kind {c : Configuration} {category : Category} {spelling : Text}
    (other : Category) (ho : other = .comment ∨ other = .character ∨ other = .string)
    (h : category.kind c spelling = other.kind c spelling) : category = other := by
  rcases ho with rfl | rfl | rfl <;> cases category <;> grind [kind, kindOfWord]

namespace Configuration

theorem tokenize_closing {d : Declaration} {c : Configuration} (h : d.build = .ok c) (text : Text)
    {t : Token} (ht : t ∈ c.tokenize text) :
    (t.closed = false → t.kind = .comment ∨ t.kind = .character ∨ t.kind = .string) ∧
    (t.kind = .comment → t.closed = false → t.EndsText (c.tokenize text) text) ∧
    (t.kind = .character ∨ t.kind = .string → ∃ g k, c.quotations? t.kind = some g ∧
      t.Commits g text k ∧ t.Quotes (c.tokenize text) text k) := by
  have hc := Declaration.proper_of_build h
  have hpartition : Partition c text 0 (c.tokenize text) :=
    ((Tokenizer.standsIn_start c text).partition_iff hc _).mpr rfl
  obtain ⟨back, hstart, hback, hread⟩ := hpartition.exists_classify hc ht
  obtain ⟨category, _, hcategory⟩ := List.exists_of_findSome?_eq_some hread
  obtain ⟨hscan, _, hkind⟩ := Category.read_eq_some_iff.mp hcategory
  have hends : back = [] → t.EndsText (c.tokenize text) text := by
    rintro rfl
    exact hpartition.endsText ht (stop_of_suffixAt? hback)
  refine ⟨fun hopen => ?_, fun hcomment hopen => ?_, fun hquotation => ?_⟩
  · rcases Category.of_not_closed hscan hopen with rfl | rfl | rfl
    · exact Or.inl hkind
    · exact Or.inr (Or.inl hkind)
    · exact Or.inr (Or.inr hkind)
  · obtain rfl := Category.eq_of_kind .comment (by simp) (hkind.symm.trans hcomment)
    exact hends (CommentGrammar.rest_of_not_closed hc.block hscan hopen)
  · rcases hquotation with hcharacter | hstring
    · obtain rfl := Category.eq_of_kind .character (by simp) (hkind.symm.trans hcharacter)
      obtain ⟨g, hg, hscan⟩ := Option.bind_eq_some_iff.mp hscan
      obtain ⟨k, hk⟩ := commits_and_quotes (hc.characters g hg) hstart hback hscan hends
      exact ⟨g, k, by rw [hcharacter]; exact hg, hk⟩
    · obtain rfl := Category.eq_of_kind .string (by simp) (hkind.symm.trans hstring)
      obtain ⟨k, hk⟩ := commits_and_quotes hc.strings hstart hback hscan hends
      exact ⟨c.strings, k, by rw [hstring]; rfl, hk⟩

def dartSample : Text := "'a\\\nr\"b\"\n/* c".toList

theorem dart_closing :
    let tokens := Dart.declaration.configuration.tokenize dartSample
    let broken : Token := ⟨.string, 0, "'a\\".toList, false⟩
    let tagged : Token := ⟨.string, 4, "r\"b\"".toList, true⟩
    let comment : Token := ⟨.comment, 9, "/* c".toList, false⟩
    Dart.declaration.build = .ok Dart.declaration.configuration ∧
      (broken ∈ tokens ∧ tagged ∈ tokens ∧ comment ∈ tokens) ∧
      (∃ k, broken.Commits Dart.strings dartSample k ∧ broken.Quotes tokens dartSample k) ∧
      (∃ k, tagged.Commits Dart.strings dartSample k ∧ tagged.Quotes tokens dartSample k) ∧
      comment.EndsText tokens dartSample := by
  have h : Dart.declaration.build = .ok Dart.declaration.configuration :=
    Declaration.build_eq_ok_iff.mpr ⟨Language.dart.defect?_declaration, rfl⟩
  have hquotes {t : Token} (ht : t ∈ Dart.declaration.configuration.tokenize dartSample)
      (hkind : t.kind = .string) : ∃ k, t.Commits Dart.strings dartSample k ∧
        t.Quotes (Dart.declaration.configuration.tokenize dartSample) dartSample k := by
    obtain ⟨g, k, hg, hk⟩ := (tokenize_closing h dartSample ht).2.2 (Or.inr hkind)
    rw [hkind] at hg
    obtain rfl : Dart.strings = g := Option.some.inj hg
    exact ⟨k, hk⟩
  intro tokens broken tagged comment
  have hbroken : broken ∈ tokens := by decide +kernel
  have htagged : tagged ∈ tokens := by decide +kernel
  have hcomment : comment ∈ tokens := by decide +kernel
  exact ⟨h, ⟨hbroken, htagged, hcomment⟩, hquotes hbroken rfl, hquotes htagged rfl,
    (tokenize_closing h dartSample hcomment).2.1 rfl rfl⟩

end Configuration

end LexicalGrammar
