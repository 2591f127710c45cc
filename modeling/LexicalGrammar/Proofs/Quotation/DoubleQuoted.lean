import LexicalGrammar.Proofs.Layout
import LexicalGrammar.Proofs.Quotation.Body
import LexicalGrammar.Proofs.Quotation.Longest
import LexicalGrammar.Proofs.Registry

namespace LexicalGrammar

inductive QuotedUnit where
  | plain (c : Char) (h : c ∉ ['"', '\\', '\n', '\r'])
  | escaped (c : Char) (h : c ∉ ['\\', '\n', '\r'])

def QuotedUnit.text : QuotedUnit → Text
  | plain c _ => [c]
  | escaped c _ => ['\\', c]

structure DoubleQuoted where
  units : List QuotedUnit

namespace DoubleQuoted

def body (s : DoubleQuoted) : Text := s.units.flatMap QuotedUnit.text

def text (s : DoubleQuoted) : Text := '"' :: (s.body ++ ['"'])

theorem text_append (s : DoubleQuoted) (rest : Text) :
    s.text ++ rest = '"' :: (s.body ++ '"' :: rest) := by
  simp [text]

end DoubleQuoted

namespace Delimiter

def doubleQuote (paired : Bool) : Delimiter :=
  ⟨['"'], { close := ['"'], escape := some ⟨'\\', paired⟩ }⟩

variable {paired : Bool} {c : Char} {rest : Text}

theorem scan_quote : (doubleQuote paired).body.scan ('"' :: rest) = ⟨['"'], true, rest⟩ := by
  have hprotects : rest.head?.any ((doubleQuote paired).body.protects '"') = false := by
    cases rest <;> rfl
  exact QuotedBody.scan_of_after? hprotects rfl

theorem scan_plain (h : c ∉ ['"', '\\', '\n', '\r']) :
    (doubleQuote paired).body.scan (c :: rest) =
      ((doubleQuote paired).body.scan rest).following [c] := by
  simp only [List.mem_cons, List.not_mem_nil, or_false, not_or] at h
  obtain ⟨hquote, hbackslash, hline, hreturn⟩ := h
  have hprotects (d : Char) : (doubleQuote paired).body.protects c d = false := by
    simp [doubleQuote, QuotedBody.protects, Ne.symm hbackslash]
  refine QuotedBody.scan_cons_of_inner (by simp [doubleQuote]) ?_ ?_ ?_
  · cases rest <;> simp [hprotects]
  · simp [doubleQuote, Ne.symm hquote]
  · simp [doubleQuote, QuotedBody.stopsAt, isLineBreak, hline, hreturn]

theorem scan_escaped (h : c ∉ ['\\', '\n', '\r']) :
    (doubleQuote paired).body.scan ('\\' :: c :: rest) =
      ((doubleQuote paired).body.scan rest).following ['\\', c] := by
  by_cases hquote : c = '"'
  · subst hquote
    exact QuotedBody.scan_of_protects rfl
  · -- In front of any other character the backslash stands for itself.
    have hplain : c ∉ ['"', '\\', '\n', '\r'] := by simpa [hquote] using h
    have hprotects : (doubleQuote paired).body.protects '\\' c = false := by
      have hbackslash : '\\' ≠ c := fun he => h (by simp [← he])
      simp [doubleQuote, QuotedBody.protects, Ne.symm hquote, hbackslash]
    rw [QuotedBody.scan_cons_of_inner (by simp [doubleQuote]) (by simpa using hprotects)
      (by simp [doubleQuote]) rfl, scan_plain hplain]
    rfl

end Delimiter

theorem QuotedUnit.scan {paired : Bool} (u : QuotedUnit) (rest : Text) :
    (Delimiter.doubleQuote paired).body.scan (u.text ++ rest) =
      ((Delimiter.doubleQuote paired).body.scan rest).following u.text := by
  cases u with
  | plain c h => exact Delimiter.scan_plain h
  | escaped c h => exact Delimiter.scan_escaped h

theorem DoubleQuoted.scan {paired : Bool} (s : DoubleQuoted) (rest : Text) :
    (Delimiter.doubleQuote paired).body.scan (s.body ++ '"' :: rest) =
      ⟨s.body ++ ['"'], true, rest⟩ := by
  rw [body, QuotedBody.scan_flatMap QuotedUnit.scan, Delimiter.scan_quote]
  rfl

theorem QuotedUnit.exists_cons_text (u : QuotedUnit) :
    ∃ c others, u.text = c :: others ∧ c ≠ '"' := by
  cases u with
  | plain c h => exact ⟨c, [], rfl, fun he => h (by simp [he])⟩
  | escaped c h => exact ⟨'\\', [c], rfl, by decide⟩

theorem DoubleQuoted.not_two_quotes {s : DoubleQuoted} {rest : Text}
    (h : s.units ≠ [] ∨ rest.head? ≠ some '"') : ¬ ['"', '"'] <+: s.body ++ '"' :: rest := by
  rintro ⟨left, hleft⟩
  cases hunits : s.units with
  | nil =>
      have hrest : rest = '"' :: left := by simpa [body, hunits] using hleft.symm
      rcases h with h | h
      · exact h hunits
      · exact h (by rw [hrest]; rfl)
  | cons u units =>
      obtain ⟨c, others, hu, hc⟩ := u.exists_cons_text
      rw [body, hunits, List.flatMap_cons, hu] at hleft
      exact hc (List.cons.inj hleft).1.symm

structure StringGrammar.ReadsDoubleQuotes (g : StringGrammar) (paired : Bool) : Prop where
  proper : g.defect? = none
  tags : g.tags.all (·.head? != some '"') = true
  delimiter : .doubleQuote paired ∈ g.alternatives
  others : g.alternatives.all (fun d => d.opening.head? != some '"' || d.opening == ['"'] ||
    d.opening == ['"', '"', '"']) = true

namespace StringGrammar.ReadsDoubleQuotes

variable {g : StringGrammar} {paired : Bool} {text : Text}

theorem longestMatch (h : g.ReadsDoubleQuotes paired) (ht : ¬ ['"', '"'] <+: text) :
    g.LongestMatch ('"' :: text) ⟨none, .doubleQuote paired, text⟩ where
  split := rfl
  tags := by simp
  tag_widest := by
    rintro tag ⟨hm, left, hleft, _⟩
    have hhead := List.all_eq_true.mp h.tags tag hm
    obtain ⟨c, others, rfl⟩ := List.exists_cons_of_ne_nil
      ((defect?_eq_none_iff.mp h.proper).2.1 tag hm)
    obtain ⟨rfl, _⟩ := List.cons.inj hleft
    simp at hhead
  delimiter_mem := h.delimiter
  delimiter_widest := by
    intro d hd hopens
    obtain ⟨c, others, hopening⟩ := List.exists_cons_of_ne_nil
      ((defect?_eq_none_iff.mp h.proper).1 d hd).1
    have hquotes := List.all_eq_true.mp h.others d hd
    rw [hopening] at hopens hquotes ⊢
    obtain ⟨rfl, hbehind⟩ := List.cons_prefix_cons.mp hopens
    have hcount : others = [] ∨ others = ['"', '"'] := by simpa using hquotes
    rcases hcount with rfl | rfl
    · exact Nat.le_refl _
    · exact absurd hbehind ht

theorem scan (h : g.ReadsDoubleQuotes paired) {s : DoubleQuoted} {rest : Text}
    (hs : s.units ≠ [] ∨ rest.head? ≠ some '"') :
    g.scan (s.text ++ rest) = some ⟨s.text, true, rest⟩ := by
  have hmatch := h.longestMatch (DoubleQuoted.not_two_quotes hs)
  rw [StringGrammar.scan, s.text_append, commitment?_of_longestMatch h.proper hmatch,
    Option.map_some, Commitment.read, s.scan]
  rfl

end StringGrammar.ReadsDoubleQuotes

namespace Language

theorem readsDoubleQuotes (l : Language) :
    l.configuration.strings.ReadsDoubleQuotes (l == .json) where
  proper := (Declaration.defect?_eq_none_iff.mp l.defect?_declaration).1
  tags := by cases l <;> decide
  delimiter := by cases l <;> decide
  others := by cases l <;> decide

theorem scan_comments_quote (l : Language) (text : Text) :
    l.configuration.comments.scan ('"' :: text) = none := by
  cases l <;> rfl

theorem scan_characters_quote (l : Language) (text : Text) :
    (l.configuration.characters.bind (·.scan ('"' :: text))) = none := by
  cases l <;> rfl

theorem classify_doubleQuoted (l : Language) (service : Option Service) {s : DoubleQuoted}
    {rest : Text} (h : s.units ≠ [] ∨ rest.head? ≠ some '"') :
    Configuration.classify { l.configuration with service := service } (s.text ++ rest) =
      some ⟨.string, s.text, true, rest⟩ := by
  have hscan : l.configuration.strings.scan (s.text ++ rest) = some ⟨s.text, true, rest⟩ :=
    l.readsDoubleQuotes.scan h
  refine Configuration.classify_of_scan .string [.comment, .character] rfl ?_ hscan
    (by simp [DoubleQuoted.text])
  rw [s.text_append]
  simpa using ⟨l.scan_comments_quote _, l.scan_characters_quote _⟩

theorem tokenize_doubleQuoted (l : Language) (service : Option Service) :
    ∃ c, l.build service = .ok c ∧
      ∀ (s : DoubleQuoted) (rest : Text), s.units ≠ [] ∨ rest.head? ≠ some '"' →
        (c.tokenize (s.text ++ rest)).head? = some ⟨.string, 0, s.text, true⟩ := by
  refine ⟨_, l.build_eq_ok service, fun s rest h => ?_⟩
  have hpiece : (Piece.lexeme .string s.text).LegibleBefore
      { l.configuration with service := service } rest :=
    ⟨rfl, l.classify_doubleQuoted service h⟩
  exact congrArg List.head? (Tokenizer.tokens_of_lexeme hpiece 0)

theorem python_doubleQuoted :
    ∃ c, python.build none = .ok c ∧
      (c.tokenize "\"\\\"#\"\"\"".toList).head? = some ⟨.string, 0, "\"\\\"#\"".toList, true⟩ := by
  obtain ⟨c, hc, hread⟩ := tokenize_doubleQuoted .python none
  have hliteral := hread ⟨[.escaped '"' (by decide), .plain '#' (by decide)]⟩ ['"', '"']
    (Or.inl (by simp))
  exact ⟨c, hc, hliteral⟩

end Language

end LexicalGrammar
