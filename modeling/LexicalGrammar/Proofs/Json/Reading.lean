import LexicalGrammar.Proofs.Json.Document
import LexicalGrammar.Proofs.Quotation.DoubleQuoted

namespace LexicalGrammar.Json

def followers : List Char := [' ', '\t', '\n', '\r', ',', ':', ']', '\x7d']

def EndsValue (rest : Text) : Prop := ∀ c, rest.head? = some c → c ∈ followers

theorem EndsValue.head?_any {rest : Text} (h : EndsValue rest) {p : Char → Bool}
    (hp : followers.all (!p ·) = true) : rest.head?.any p = false := by
  cases rest with
  | nil => rfl
  | cons c rest => simpa using List.all_eq_true.mp hp c (h c rfl)

theorem EndsValue.endsNumeral {rest : Text} (h : EndsValue rest) : EndsNumeral rest where
  digit := h.head?_any (by decide)
  point := h.head?_any (by decide)
  marker := h.head?_any (by decide)

section Quotation

variable {rest : Text}

theorem IsUnescaped.plain {c : Char} (h : IsUnescaped c) : c ∉ ['"', '\\', '\n', '\r'] := by
  obtain ⟨hle, hquote, hbackslash⟩ := h
  have hline : c ≠ '\n' := by
    rintro rfl
    exact absurd hle (by decide)
  have hreturn : c ≠ '\r' := by
    rintro rfl
    exact absurd hle (by decide)
  simp [hquote, hbackslash, hline, hreturn]

theorem scan_unescaped {c : Char} (h : IsUnescaped c) :
    quote.body.scan (c :: rest) = (quote.body.scan rest).following [c] :=
  Delimiter.scan_plain h.plain

theorem scan_unescaped_append {run : Text} (h : ∀ c ∈ run, IsUnescaped c) :
    quote.body.scan (run ++ rest) = (quote.body.scan rest).following run := by
  induction run with
  | nil => rfl
  | cons c run ih =>
      rw [List.cons_append, scan_unescaped (h c (by simp)), ih fun d hd => h d (by simp [hd])]
      rfl

theorem isUnescaped_of_mem_hexDigits {c : Char} (h : c ∈ hexDigits) : IsUnescaped c := by
  have hall : hexDigits.all (decide <| IsUnescaped ·) = true := by decide
  simpa using List.all_eq_true.mp hall c h

theorem StringUnit.scan (u : StringUnit) (rest : Text) :
    quote.body.scan (u.text ++ rest) = (quote.body.scan rest).following u.text := by
  cases u with
  | unescaped c h => exact scan_unescaped h
  | escaped c h =>
      by_cases hc : c = '\\'
      · subst hc
        exact QuotedBody.scan_of_protects rfl
      · have hall : ['"', '\\', '/', 'b', 'f', 'n', 'r', 't'].all (fun c =>
            c == '\\' || !(['\\', '\n', '\r'].contains c)) = true := by decide
        have hinner := List.all_eq_true.mp hall c h
        exact Delimiter.scan_escaped (by simpa [hc] using hinner)
  | codeUnit digits _ h =>
      have hdigits : quote.body.scan (digits ++ rest) = (quote.body.scan rest).following digits :=
        scan_unescaped_append fun c hc => isUnescaped_of_mem_hexDigits (h c hc)
      have hmark : quote.body.scan ('\\' :: 'u' :: (digits ++ rest)) =
          (quote.body.scan (digits ++ rest)).following ['\\', 'u'] :=
        Delimiter.scan_escaped (by decide)
      rw [text, List.cons_append, List.cons_append, hmark, hdigits]
      rfl

theorem scan_units (units : List StringUnit) (rest : Text) :
    quote.body.scan (units.flatMap StringUnit.text ++ '"' :: rest) =
      ⟨units.flatMap StringUnit.text ++ ['"'], true, rest⟩ := by
  have hclose : quote.body.scan ('"' :: rest) = ⟨['"'], true, rest⟩ := Delimiter.scan_quote
  rw [QuotedBody.scan_flatMap StringUnit.scan, hclose]
  rfl

theorem StringLiteral.scan (s : StringLiteral) (rest : Text) :
    declaration.strings.scan (s.text ++ rest) = some ⟨s.text, true, rest⟩ := by
  have hopening (rest : Text) : declaration.strings.scan ('"' :: rest) =
      some ((quote.body.scan rest).following ['"']) := rfl
  rw [text, List.cons_append, List.append_assoc, hopening, List.singleton_append, scan_units]
  rfl

end Quotation

def configurationWith (service : Option Service) : Configuration :=
  { Language.json.configuration with service := service }

section Classification

variable {service : Option Service} {text rest : Text}

theorem classify_of_scan (category : Category) (before : List Category) {after : List Category}
    (hsplit : Category.precedence = .comment :: .character :: (before ++ category :: after))
    (hbefore : ∀ other ∈ before, other.scan (configurationWith service) text = none) {l : Lexeme}
    (h : category.scan (configurationWith service) text = some l) (hne : l.text ≠ []) :
    (configurationWith service).classify text =
      some ⟨category.kind (configurationWith service) l.text, l⟩ := by
  refine Configuration.classify_of_scan category (.comment :: .character :: before) hsplit ?_ h hne
  exact List.forall_mem_cons.mpr ⟨rfl, List.forall_mem_cons.mpr ⟨rfl, hbefore⟩⟩

theorem scan_string_eq_none (h : text.head?.any (· == '"') = false) :
    declaration.strings.scan text = none := by
  cases text with
  | nil => rfl
  | cons c rest =>
      have hopening : after? quote.opening (c :: rest) = none := if_neg fun hc => by simp [← hc] at h
      simp [StringGrammar.scan, StringGrammar.commitment?, StringGrammar.tagged?,
        StringGrammar.untagged?, StringGrammar.opening?, declaration, hopening]

theorem classify_string (s : StringLiteral) (rest : Text) :
    (configurationWith service).classify (s.text ++ rest) = some ⟨.string, s.text, true, rest⟩ :=
  classify_of_scan .string [] rfl (by simp) (s.scan rest) (by simp [StringLiteral.text])

theorem classify_number (n : Numeral) (h : EndsValue rest) :
    (configurationWith service).classify (n.text ++ rest) = some ⟨.number, n.text, true, rest⟩ := by
  have hnumber := n.scan h.endsNumeral
  have hstring : declaration.strings.scan (n.text ++ rest) = none := by
    refine scan_string_eq_none (n.head?_text (fun c hc => ?_) (by decide) rest)
    obtain rfl := beq_iff_eq.mp hc
    decide
  exact classify_of_scan .number [.string] rfl (List.forall_mem_singleton.mpr hstring) hnumber
    (NumberGrammar.text_ne_nil_of_scan hnumber)

theorem classify_constant (name : Constant) (h : EndsValue rest) :
    (configurationWith service).classify (name.text ++ rest) =
      some ⟨.keyword, name.text, true, rest⟩ := by
  have hword : IdentifierGrammar.ascii.scan (name.text ++ rest) = some ⟨name.text, true, rest⟩ := by
    cases name <;>
      exact IdentifierGrammar.scan_append rfl rfl (by decide) (h.head?_any (by decide))
  have hstring : declaration.strings.scan (name.text ++ rest) = none := by cases name <;> rfl
  have hnumber : declaration.numbers.scan (name.text ++ rest) = none := by cases name <;> rfl
  have hbefore : ∀ other ∈ [Category.string, .number],
      other.scan (configurationWith service) (name.text ++ rest) = none :=
    List.forall_mem_cons.mpr ⟨hstring, List.forall_mem_singleton.mpr hnumber⟩
  have hkind : Category.word.kind (configurationWith service) name.text = .keyword := by
    cases name <;> rfl
  rw [classify_of_scan .word [.string, .number] rfl hbefore hword
    (IdentifierGrammar.text_ne_nil_of_scan hword), hkind]

theorem classify_mark (mark : Mark) (rest : Text) :
    (configurationWith service).classify (mark.char :: rest) =
      some ⟨mark.kind, [mark.char], true, rest⟩ := by
  cases mark <;> rfl

end Classification

section Layout

variable {service : Option Service} {rest : Text}

theorem Blank.isWhiteSpace (b : Blank) : ∀ c ∈ b.text, Character.isWhiteSpace c = true := by
  have hall : [' ', '\t', '\n', '\r'].all Character.isWhiteSpace = true := by decide
  exact fun c hc => List.all_eq_true.mp hall c (b.spaces c hc)

theorem Blank.endsValue (b : Blank) (h : EndsValue rest) : EndsValue (b.text ++ rest) := by
  intro c hc
  cases hb : b.text with
  | nil => exact h c (by simpa [hb] using hc)
  | cons d others =>
      obtain rfl : d = c := by simpa [hb] using hc
      have hspace := b.spaces d (by simp [hb])
      exact List.mem_append_left [',', ':', ']', '\x7d'] hspace

namespace Structural

variable {mark : Mark}

theorem endsValue (s : Structural mark) (h : mark.char ∈ followers) (rest : Text) :
    EndsValue (spell s.pieces ++ rest) := by
  rw [pieces, spell_cons, List.append_assoc]
  refine s.before.endsValue fun c hc => ?_
  obtain rfl : mark.char = c := by simpa [Piece.text] using hc
  exact h

theorem legible (s : Structural mark) (rest : Text) :
    Legible (configurationWith service) rest s.pieces := by
  have hmark : (Piece.lexeme mark.kind [mark.char]).LegibleBefore (configurationWith service)
      (spell [.blank s.after.text] ++ rest) := ⟨by cases mark <;> rfl, classify_mark mark _⟩
  exact ⟨s.before.isWhiteSpace, hmark, s.after.isWhiteSpace, trivial⟩

end Structural

theorem Constant.legible (name : Constant) (h : EndsValue rest) :
    Legible (configurationWith service) rest [.lexeme .keyword name.text] :=
  ⟨⟨by cases name <;> rfl, classify_constant name h⟩, trivial⟩

theorem Numeral.legible (n : Numeral) (h : EndsValue rest) :
    Legible (configurationWith service) rest [.lexeme .number n.text] := by
  have hhead := n.head?_text (fun _ => Character.not_isDigit_of_isWhiteSpace) (by decide) []
  rw [List.append_nil] at hhead
  exact ⟨⟨hhead, classify_number n h⟩, trivial⟩

theorem StringLiteral.legible (s : StringLiteral) (rest : Text) :
    Legible (configurationWith service) rest [.lexeme .string s.text] :=
  ⟨⟨rfl, classify_string s rest⟩, trivial⟩

theorem legible_separated {mark : Mark} (s : Structural mark) (hm : mark.char ∈ followers)
    {front back : List Piece}
    (hfront : ∀ {rest}, EndsValue rest → Legible (configurationWith service) rest front)
    (hback : Legible (configurationWith service) rest back) :
    Legible (configurationWith service) rest (front ++ (s.pieces ++ back)) := by
  have hends := s.endsValue hm (spell back ++ rest)
  rw [← List.append_assoc, ← spell_append] at hends
  exact legible_append.mpr ⟨hfront hends, legible_append.mpr ⟨s.legible _, hback⟩⟩

theorem legible_enclosed {first last : Mark} (opening : Structural first) (closing : Structural last)
    (hl : last.char ∈ followers) {inner : List Piece}
    (hinner : ∀ {rest}, EndsValue rest → Legible (configurationWith service) rest inner) :
    Legible (configurationWith service) rest (opening.pieces ++ (inner ++ closing.pieces)) :=
  legible_append.mpr ⟨opening.legible _,
    legible_append.mpr ⟨hinner (closing.endsValue hl rest), closing.legible rest⟩⟩

-- By induction on the derivation. A mark is read whatever follows it, so all that the parts of a value
-- ask of each other is that no value stands in front of what it could go on with.
mutual

theorem Value.legible (v : Value) {rest : Text} (h : EndsValue rest) :
    Legible (configurationWith service) rest v.pieces := by
  cases v with
  | constant name => exact name.legible h
  | number n => exact n.legible h
  | string s => exact s.legible rest
  | emptyArray opening closing => exact legible_append.mpr ⟨opening.legible _, closing.legible rest⟩
  | array opening elements closing =>
      exact legible_enclosed opening closing (by decide) elements.legible
  | emptyObject opening closing => exact legible_append.mpr ⟨opening.legible _, closing.legible rest⟩
  | object opening members closing =>
      exact legible_enclosed opening closing (by decide) members.legible

theorem Elements.legible (elements : Elements) {rest : Text} (h : EndsValue rest) :
    Legible (configurationWith service) rest elements.pieces := by
  cases elements with
  | one value => exact value.legible h
  | cons value separator others =>
      exact legible_separated separator (by decide) value.legible (others.legible h)

theorem Member.legible (member : Member) {rest : Text} (h : EndsValue rest) :
    Legible (configurationWith service) rest member.pieces := by
  cases member with
  | mk name separator value =>
      exact legible_append.mpr ⟨name.legible _,
        legible_append.mpr ⟨separator.legible _, value.legible h⟩⟩

theorem Members.legible (members : Members) {rest : Text} (h : EndsValue rest) :
    Legible (configurationWith service) rest members.pieces := by
  cases members with
  | one member => exact member.legible h
  | cons member separator others =>
      exact legible_separated separator (by decide) member.legible (others.legible h)

end

theorem Document.legible (d : Document) : Legible (configurationWith service) [] d.pieces := by
  have hends : EndsValue (spell [.blank d.after.text] ++ []) := by
    rw [spell_cons, List.append_assoc]
    exact d.after.endsValue fun c hc => by simp at hc
  exact ⟨d.before.isWhiteSpace,
    legible_append.mpr ⟨d.value.legible hends, d.after.isWhiteSpace, trivial⟩⟩

end Layout

theorem tokenize_document (service : Option Service) :
    ∃ c, Language.json.build service = .ok c ∧ ∀ d : Document, c.tokenize d.text = d.tokens :=
  ⟨configurationWith service, Language.json.build_eq_ok service,
    fun d => Configuration.tokenize_spell d.legible⟩

example :
    let d : Document :=
      { value := .array {} (.cons (.constant .null) { after := ⟨[' '], by simp⟩ }
          (.one (.string ⟨[.escaped '"' (by decide)]⟩))) {} }
    d.text = "[null, \"\\\"\"]".toList ∧
      d.tokens = [⟨.bracket, 0, ['['], true⟩, ⟨.keyword, 1, "null".toList, true⟩,
        ⟨.plain, 5, [','], true⟩, ⟨.string, 7, ['"', '\\', '"', '"'], true⟩,
        ⟨.bracket, 11, [']'], true⟩] := by decide

end LexicalGrammar.Json
