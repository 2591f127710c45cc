import LexicalGrammar.Proofs.Cut.Category
import LexicalGrammar.Proofs.Registry
import LexicalGrammar.Tokenizer

namespace LexicalGrammar

namespace Tokenizer

theorem skipWhiteSpace_append {blanks : Text}
    (h : ∀ c ∈ blanks, Character.isWhiteSpace c = true) (config : Configuration) (position : Nat)
    (rest : Text) :
    (Tokenizer.mk config position (blanks ++ rest)).skipWhiteSpace =
      (Tokenizer.mk config (position + width blanks) rest).skipWhiteSpace := by
  simp only [skipWhiteSpace, readWhile_append h, Split.taken_following, Split.rest_following,
    width_append, Nat.add_assoc]

theorem skipWhiteSpace_of_head? {rest : Text} (h : rest.head?.any Character.isWhiteSpace = false)
    (config : Configuration) (position : Nat) :
    (Tokenizer.mk config position rest).skipWhiteSpace = ⟨config, position, rest⟩ := by
  simp only [skipWhiteSpace, readWhile_of_head? h]
  rfl

theorem head?_rest_skipWhiteSpace (t : Tokenizer) :
    t.skipWhiteSpace.rest.head?.any Character.isWhiteSpace = false :=
  head?_rest_readWhile _ t.rest

theorem rest_eq_append (t : Tokenizer) :
    ∃ blanks, (∀ c ∈ blanks, Character.isWhiteSpace c = true) ∧ t.rest = blanks ++ t.skipWhiteSpace.rest
      ∧ t.skipWhiteSpace.position = t.position + width blanks :=
  ⟨_, all_taken_readWhile _ t.rest, (whole_readWhile _ t.rest).symm, rfl⟩

theorem tokens_eq_of_skipWhiteSpace {t s : Tokenizer} (h : t.skipWhiteSpace = s.skipWhiteSpace) :
    t.tokens = s.tokens := by
  have hconfig : t.skipWhiteSpace.config = s.skipWhiteSpace.config := congrArg config h
  change t.config = s.config at hconfig
  cases hr : t.config.classify t.skipWhiteSpace.rest with
  | none =>
      have hend := Configuration.classify_eq_none_iff.mp hr
      rw [tokens_of_end hend, tokens_of_end (h ▸ hend)]
  | some r =>
      have hs : s.config.classify s.skipWhiteSpace.rest = some r := by rw [← h, ← hconfig, hr]
      rw [tokens_of_classify hr, tokens_of_classify hs]
      simp only [behind, h, hconfig]

theorem tokens_of_blanks {blanks : Text} (h : ∀ c ∈ blanks, Character.isWhiteSpace c = true)
    (config : Configuration) (position : Nat) : (Tokenizer.mk config position blanks).tokens = [] := by
  have hs := skipWhiteSpace_append h config position []
  rw [List.append_nil] at hs
  exact tokens_of_end (by rw [hs]; rfl)

theorem tokens_append_blanks {blanks : Text} (h : ∀ c ∈ blanks, Character.isWhiteSpace c = true)
    (config : Configuration) (position : Nat) (rest : Text) :
    (Tokenizer.mk config position (blanks ++ rest)).tokens =
      (Tokenizer.mk config (position + width blanks) rest).tokens :=
  tokens_eq_of_skipWhiteSpace (skipWhiteSpace_append h config position rest)

theorem tokens_shift (t : Tokenizer) :
    ∀ n, (Tokenizer.mk t.config (t.position + n) t.rest).tokens = t.tokens.map (Token.shift n) := by
  induction t using run_induction with
  | done t h =>
      intro n
      rw [tokens_of_end h]
      exact tokens_of_end h
  | token t r hr ih =>
      intro n
      have hs : (Tokenizer.mk t.config (t.position + n) t.rest).skipWhiteSpace =
          ⟨t.config, t.skipWhiteSpace.position + n, t.skipWhiteSpace.rest⟩ := by
        simp only [skipWhiteSpace, Nat.add_right_comm]
      rw [tokens_of_classify hr,
        tokens_of_classify (t := ⟨t.config, t.position + n, t.rest⟩) (r := r) (by rw [hs]; exact hr),
        List.map_cons, hs]
      have hb := ih n
      simp only [behind, hs, Nat.add_right_comm _ n] at hb ⊢
      rw [hb, Reading.shift_tokenAt]

theorem skipWhiteSpace_of_not_blanks {t : Tokenizer} {front back : Text}
    (hr : t.rest = front ++ back) (h : ¬∀ c ∈ front, Character.isWhiteSpace c = true) :
    ∃ mid, mid ≠ [] ∧ t.skipWhiteSpace.rest = mid ++ back ∧
      (Tokenizer.mk t.config t.position front).skipWhiteSpace =
        ⟨t.config, t.skipWhiteSpace.position, mid⟩ ∧
      t.skipWhiteSpace.position + width mid = t.position + width front := by
  obtain ⟨blanks, hb, he, hp⟩ := t.rest_eq_append
  rw [hr] at he
  rcases List.append_eq_append_iff.mp he with ⟨mid, rfl, _⟩ | ⟨mid, rfl, hhere⟩
  · exact absurd (fun c hm => hb c (List.mem_append_left _ hm)) h
  · have hne : mid ≠ [] := by
      rintro rfl
      exact h (by simpa using hb)
    have hhead := t.head?_rest_skipWhiteSpace
    rw [hhere] at hhead
    refine ⟨mid, hne, hhere, ?_, ?_⟩
    · rw [skipWhiteSpace_append hb, skipWhiteSpace_of_head? (head?_any_of_append hhead), hp]
    · rw [hp, width_append, Nat.add_assoc]

theorem tokens_append {t : Tokenizer} (hc : t.config.Proper) :
    ∀ {front back : Text}, t.rest = front ++ back →
      (∀ token ∈ t.tokens, ¬(token.start < t.position + width front ∧
        t.position + width front < token.stop)) →
      t.tokens = (Tokenizer.mk t.config t.position front).tokens
        ++ (Tokenizer.mk t.config (t.position + width front) back).tokens := by
  induction t using run_induction with
  | done t h =>
      intro front back hrest _
      obtain ⟨blanks, hb, he, _⟩ := t.rest_eq_append
      rw [h, List.append_nil, hrest] at he
      subst he
      have hfront : ∀ c ∈ front, Character.isWhiteSpace c = true :=
        fun c hm => hb c (List.mem_append_left _ hm)
      have hback : ∀ c ∈ back, Character.isWhiteSpace c = true :=
        fun c hm => hb c (List.mem_append_right _ hm)
      rw [tokens_of_end h, tokens_of_blanks hfront, tokens_of_blanks hback]
      rfl
  | token t r hr ih =>
      intro front back hrest hcut
      by_cases hwhite : ∀ c ∈ front, Character.isWhiteSpace c = true
      · rw [tokens_of_blanks hwhite, List.nil_append, ← tokens_append_blanks hwhite, ← hrest]
      · obtain ⟨mid, hne, hhere, hs, hp⟩ := skipWhiteSpace_of_not_blanks hrest hwhite
        have htokens := tokens_of_classify hr
        rw [htokens] at hcut ⊢
        -- The first token begins before the cut and so does not reach past it.
        have hle : width r.lexeme.text ≤ width mid := by
          have hfirst := hcut _ (List.mem_cons_self ..)
          have hpos := width_pos_of_ne_nil hne
          rw [Reading.stop_tokenAt, ← hp] at hfirst
          simp only [Reading.tokenAt] at hfirst
          omega
        have hwhole := Configuration.whole_of_classify hr
        rw [hhere] at hwhole
        obtain ⟨rest, rfl, hbehind⟩ := exists_append_of_width_le hwhole hle
        have hread := Configuration.classify_keeps hc hr hbehind
        rw [width_append, ← Nat.add_assoc] at hp
        rw [tokens_of_classify (t := ⟨t.config, t.position, front⟩) (by rw [hs]; exact hread)]
        have hrun := ih hc hbehind
        simp only [behind, hs, hp] at hrun ⊢
        rw [hrun fun token hm => hcut token (List.mem_cons_of_mem _ hm)]
        rfl

end Tokenizer

namespace Configuration

theorem tokenize_append {d : Declaration} {c : Configuration} (h : d.build = .ok c)
    (front rest : Text)
    (hcut : ∀ t ∈ c.tokenize (front ++ rest), ¬(t.start < width front ∧ width front < t.stop)) :
    c.tokenize (front ++ rest) =
      c.tokenize front ++ (c.tokenize rest).map (Token.shift (width front)) := by
  have happend := Tokenizer.tokens_append (t := .start c (front ++ rest))
    (Declaration.proper_of_build h) rfl
  have hshift := (Tokenizer.start c rest).tokens_shift (width front)
  simp only [tokenize, Tokenizer.start, Nat.zero_add] at hcut happend hshift ⊢
  rw [happend hcut, hshift]

theorem python_tokenize_split :
    Python.declaration.build = .ok Python.declaration.configuration ∧
      Python.declaration.configuration.tokenize (['1', '.', '5'] ++ ['e', '+', ' ', '"', '"']) =
        Python.declaration.configuration.tokenize ['1', '.', '5'] ++
          (Python.declaration.configuration.tokenize ['e', '+', ' ', '"', '"']).map (Token.shift 3) :=
  ⟨Python.build_eq_ok, tokenize_append Python.build_eq_ok _ _ (by decide +kernel)⟩

end Configuration

end LexicalGrammar
