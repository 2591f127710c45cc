import LexicalGrammar.Proofs.Line.Stable
import LexicalGrammar.Proofs.Splitting

namespace LexicalGrammar

theorem Tokenizer.skipWhiteSpace_append_of_ne_nil {t : Tokenizer} (h : t.skipWhiteSpace.rest ≠ [])
    (back : Text) :
    (Tokenizer.mk t.config t.position (t.rest ++ back)).skipWhiteSpace =
      ⟨t.config, t.skipWhiteSpace.position, t.skipWhiteSpace.rest ++ back⟩ := by
  obtain ⟨blanks, hb, hrest, hp⟩ := t.rest_eq_append
  have hhead := head?_any_append h t.head?_rest_skipWhiteSpace back
  rw [hrest, List.append_assoc, skipWhiteSpace_append hb, skipWhiteSpace_of_head? hhead, hp]

theorem Tokenizer.position_add_width_skipWhiteSpace (t : Tokenizer) :
    t.skipWhiteSpace.position + width t.skipWhiteSpace.rest = t.position + width t.rest := by
  obtain ⟨blanks, _, hrest, hp⟩ := t.rest_eq_append
  rw [hrest, width_append, hp, Nat.add_assoc]

theorem Tokenizer.tokens_append_newline {t : Tokenizer} (hc : t.config.Proper)
    (hn : '\n' ∉ t.config.spelled) (back : Text) (hclosed : ∀ token ∈ t.tokens, token.closed = true) :
    (Tokenizer.mk t.config t.position (t.rest ++ '\n' :: back)).tokens =
      t.tokens ++ (Tokenizer.mk t.config (t.position + (width t.rest + 1)) back).tokens := by
  induction t using run_induction with
  | done t h =>
      obtain ⟨blanks, hb, hrest, _⟩ := t.rest_eq_append
      rw [h, List.append_nil] at hrest
      have hwhite : ∀ c ∈ t.rest ++ ['\n'], Character.isWhiteSpace c = true := by
        intro c hm
        rcases List.mem_append.mp hm with hm | hm
        · exact hb c (hrest ▸ hm)
        · obtain rfl := List.mem_singleton.mp hm
          decide
      have hskip := tokens_append_blanks hwhite t.config t.position back
      rw [List.append_assoc, width_append] at hskip
      rw [tokens_of_end h, List.nil_append]
      exact hskip
  | token t r hr ih =>
      have htokens := tokens_of_classify hr
      rw [htokens] at hclosed ⊢
      have hskip := skipWhiteSpace_append_of_ne_nil (Configuration.ne_nil_of_classify hr) ('\n' :: back)
      have hread := Configuration.classify_append_newline hc hn hr
        (hclosed _ (List.mem_cons_self ..)) back
      have hend := t.position_add_width_skipWhiteSpace
      rw [← Configuration.whole_of_classify hr, Lexeme.whole, width_append] at hend
      have hstop : t.skipWhiteSpace.position + width r.lexeme.text + (width r.lexeme.rest + 1) =
          t.position + (width t.rest + 1) := by
        omega
      rw [tokens_of_classify (t := ⟨t.config, t.position, t.rest ++ '\n' :: back⟩)
        (by rw [hskip]; exact hread)]
      have hrun := ih hc hn fun token hm => hclosed token (List.mem_cons_of_mem _ hm)
      simp only [behind, hskip] at hrun ⊢
      rw [hrun, hstop]
      rfl

namespace Configuration

theorem newline_not_mem_spelled (l : Language) : '\n' ∉ l.configuration.spelled := by
  cases l <;> decide +kernel

theorem tokenize_append_newline :
    (∀ {d : Declaration} {c : Configuration}, d.build = .ok c → '\n' ∉ c.spelled →
      ∀ front back : Text, (∀ t ∈ c.tokenize front, t.closed = true) →
        c.tokenize (front ++ '\n' :: back) =
          c.tokenize front ++ (c.tokenize back).map (Token.shift (width front + 1))) ∧
      ∀ (l : Language) (service : Option Service),
        ∃ c, l.build service = .ok c ∧ '\n' ∉ c.spelled := by
  constructor
  · intro d c h hn front back hclosed
    have hlines := Tokenizer.tokens_append_newline (t := .start c front)
      (Declaration.proper_of_build h) hn back hclosed
    have hshift := (Tokenizer.start c back).tokens_shift (width front + 1)
    simp only [tokenize, Tokenizer.start, Nat.zero_add] at hlines hshift ⊢
    rw [hlines, hshift]
  · intro l service
    exact ⟨_, l.build_eq_ok service, newline_not_mem_spelled l⟩

theorem python_tokenize_lines :
    Python.declaration.build = .ok Python.declaration.configuration ∧
      Python.declaration.configuration.tokenize (['1', '_', ' ', '"', '"'] ++ '\n' :: ['"', '0', '"']) =
        Python.declaration.configuration.tokenize ['1', '_', ' ', '"', '"'] ++
          (Python.declaration.configuration.tokenize ['"', '0', '"']).map (Token.shift 6) :=
  ⟨Python.build_eq_ok, tokenize_append_newline.1 Python.build_eq_ok
    (newline_not_mem_spelled .python) _ _ (by decide +kernel)⟩

end Configuration

end LexicalGrammar
