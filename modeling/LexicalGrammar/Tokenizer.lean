import LexicalGrammar.Character.WhiteSpace
import LexicalGrammar.Token

namespace LexicalGrammar

structure Tokenizer where
  config : Configuration
  position : Nat
  rest : Text

namespace Tokenizer

def start (config : Configuration) (text : Text) : Tokenizer := ⟨config, 0, text⟩

def skipWhiteSpace (t : Tokenizer) : Tokenizer :=
  let blanks := readWhile Character.isWhiteSpace t.rest
  { t with position := t.position + width blanks.taken, rest := blanks.rest }

def next (t : Tokenizer) : Option Token × Tokenizer :=
  let here := t.skipWhiteSpace
  match here.config.classify here.rest with
  | none => (none, here)
  | some r =>
      let token := r.tokenAt here.position
      (some token, { here with position := token.stop, rest := r.lexeme.rest })

theorem length_rest_skipWhiteSpace (t : Tokenizer) :
    t.skipWhiteSpace.rest.length ≤ t.rest.length :=
  (List.dropWhile_sublist Character.isWhiteSpace).length_le

theorem length_rest_next {t after : Tokenizer} {token : Token}
    (h : t.next = (some token, after)) : after.rest.length < t.rest.length := by
  have hs := t.length_rest_skipWhiteSpace
  simp only [next] at h
  split at h
  · simp at h
  · next r hr =>
    have := Configuration.length_rest_lt_of_classify hr
    obtain ⟨_, rfl⟩ := Prod.mk.injEq .. ▸ h
    simp only
    omega

def tokens (t : Tokenizer) : List Token :=
  match _h : t.next with
  | (none, _) => []
  | (some token, after) => token :: after.tokens
termination_by t.rest.length
decreasing_by exact length_rest_next _h

def behind (t : Tokenizer) (r : Reading) : Tokenizer :=
  { t with position := t.skipWhiteSpace.position + width r.lexeme.text, rest := r.lexeme.rest }

theorem next_of_classify {t : Tokenizer} {r : Reading}
    (h : t.config.classify t.skipWhiteSpace.rest = some r) :
    t.next = (some (r.tokenAt t.skipWhiteSpace.position), t.behind r) := by
  have hc : t.skipWhiteSpace.config = t.config := rfl
  simp only [next, hc, h]
  rfl

theorem next_of_end {t : Tokenizer} (h : t.skipWhiteSpace.rest = []) :
    t.next = (none, t.skipWhiteSpace) := by
  have hc : t.skipWhiteSpace.config.classify t.skipWhiteSpace.rest = none :=
    Configuration.classify_eq_none_iff.mpr h
  simp only [next, hc]

theorem tokens_of_end {t : Tokenizer} (h : t.skipWhiteSpace.rest = []) : t.tokens = [] := by
  rw [tokens]
  split
  · rfl
  · next token after hn =>
    rw [next_of_end h] at hn
    simp at hn

theorem tokens_of_classify {t : Tokenizer} {r : Reading}
    (h : t.config.classify t.skipWhiteSpace.rest = some r) :
    t.tokens = r.tokenAt t.skipWhiteSpace.position :: (t.behind r).tokens := by
  rw [tokens]
  split
  · next after hn =>
    rw [next_of_classify h] at hn
    simp at hn
  · next token after hn =>
    rw [next_of_classify h] at hn
    obtain ⟨htoken, rfl⟩ := Prod.mk.injEq .. ▸ hn
    rw [Option.some.inj htoken]

theorem run_induction {motive : Tokenizer → Prop}
    (done : ∀ t, t.skipWhiteSpace.rest = [] → motive t)
    (token : ∀ t r, t.config.classify t.skipWhiteSpace.rest = some r → motive (t.behind r) → motive t)
    (t : Tokenizer) : motive t := by
  induction hn : t.rest.length using Nat.strongRecOn generalizing t with
  | _ n ih =>
    cases hr : t.config.classify t.skipWhiteSpace.rest with
    | none => exact done t (Configuration.classify_eq_none_iff.mp hr)
    | some r =>
        refine token t r hr (ih _ ?_ (t.behind r) rfl)
        rw [← hn]
        exact length_rest_next (next_of_classify hr)

end Tokenizer

def Configuration.tokenize (c : Configuration) (text : Text) : List Token :=
  (Tokenizer.start c text).tokens

end LexicalGrammar
