import LexicalGrammar.Proofs.Partition

namespace LexicalGrammar

def Configuration.firstMatch? (c : Configuration) (text : Text) (offset : Nat) :
    Option (Category × Span) :=
  Category.precedence.findSome? fun k =>
    ((k.probeAt c text offset).filter fun s => offset < s.stop).map fun s => (k, s)

def Configuration.tokenAt? (c : Configuration) (text : Text) (offset : Nat) : Option Token :=
  (c.firstMatch? text offset).bind fun (k, s) =>
    (slice? text s.start s.stop).map fun spelling =>
      ⟨k.kind c spelling, s.start, spelling, s.closed⟩

structure OffsetRun where
  config : Configuration
  text : Text
  position : Nat

namespace OffsetRun

def start (config : Configuration) (text : Text) : OffsetRun := ⟨config, text, 0⟩

def skipped? (r : OffsetRun) : Option Nat :=
  (suffixAt? r.text r.position).map fun rest =>
    r.position + (width rest - width (readWhile Character.isWhiteSpace rest).rest)

def next? (r : OffsetRun) : Option (Option Token × OffsetRun) :=
  r.skipped?.bind fun here =>
    if width r.text ≤ here then some (none, { r with position := here })
    else (r.config.tokenAt? r.text here).map fun t => (some t, { r with position := t.stop })

def answers? : Nat → OffsetRun → Option (List (Option Token × Nat))
  | 0, _ => some []
  | n + 1, r => r.next?.bind fun (token, after) =>
      (after.answers? n).map fun later => (token, after.position) :: later

end OffsetRun

namespace Tokenizer

def answers : Nat → Tokenizer → List (Option Token × Nat)
  | 0, _ => []
  | n + 1, t => (t.next.1, t.next.2.position) :: t.next.2.answers n

def offsetRun (t : Tokenizer) (text : Text) : OffsetRun := ⟨t.config, text, t.position⟩

@[simp] theorem config_offsetRun (t : Tokenizer) (text : Text) :
    (t.offsetRun text).config = t.config := rfl

@[simp] theorem text_offsetRun (t : Tokenizer) (text : Text) : (t.offsetRun text).text = text := rfl

@[simp] theorem position_offsetRun (t : Tokenizer) (text : Text) :
    (t.offsetRun text).position = t.position := rfl

end Tokenizer

theorem Configuration.tokenAt?_of_fits {c : Configuration} {text : Text} {t : Token}
    (h : Fits c text t) : c.tokenAt? text t.start = some t := by
  obtain ⟨before, category, after, hsplit, hbefore, hspan, hkind⟩ := h.first
  have hmatch : c.firstMatch? text t.start = some (category, t.span) := by
    refine List.findSome?_eq_some_iff.mpr ⟨before, category, after, hsplit, ?_, ?_⟩
    · have hadvances : decide (t.start < t.span.stop) = true := decide_eq_true h.extent.1
      rw [hspan, Option.filter_some, if_pos hadvances, Option.map_some]
    · intro k hk
      rw [hbefore k hk]
      rfl
  have hslice : slice? text t.span.start t.span.stop = some t.text := h.spelling
  rw [tokenAt?, hmatch, Option.bind_some]
  simp only [hslice, Option.map_some, ← hkind]
  rfl

namespace Tokenizer

variable {t : Tokenizer} {text : Text}

theorem StandsIn.position_lt (h : t.StandsIn text) (hne : t.rest ≠ []) : t.position < width text := by
  obtain ⟨front, rfl, hp⟩ := suffixAt?_eq_some_iff.mp h
  have hpos := width_pos_of_ne_nil hne
  rw [width_append]
  omega

theorem config_next (t : Tokenizer) : t.next.2.config = t.config := by
  cases hr : t.config.classify t.skipWhiteSpace.rest with
  | none =>
      rw [next_of_end (Configuration.classify_eq_none_iff.mp hr)]
      rfl
  | some r =>
      rw [next_of_classify hr]
      rfl

theorem StandsIn.next (h : t.StandsIn text) : t.next.2.StandsIn text := by
  cases hr : t.config.classify t.skipWhiteSpace.rest with
  | none =>
      rw [next_of_end (Configuration.classify_eq_none_iff.mp hr)]
      exact h.skipWhiteSpace
  | some r =>
      rw [next_of_classify hr]
      exact h.behind hr

theorem tokens_skipWhiteSpace (t : Tokenizer) : t.skipWhiteSpace.tokens = t.tokens :=
  tokens_eq_of_skipWhiteSpace
    (skipWhiteSpace_of_head? t.head?_rest_skipWhiteSpace t.config t.skipWhiteSpace.position)

theorem StandsIn.skipped?_offsetRun (h : t.StandsIn text) :
    (t.offsetRun text).skipped? = some t.skipWhiteSpace.position := by
  obtain ⟨blanks, _, hrest, hp⟩ := t.rest_eq_append
  have hwidth : width t.rest = width blanks + width t.skipWhiteSpace.rest := by
    rw [← width_append, ← hrest]
  have hslice : suffixAt? text t.position = some t.rest := h
  rw [OffsetRun.skipped?, text_offsetRun, position_offsetRun, hslice, Option.map_some, hp]
  change some (t.position + (width t.rest - width t.skipWhiteSpace.rest)) = _
  rw [hwidth, Nat.add_sub_cancel]

theorem StandsIn.next?_offsetRun (h : t.StandsIn text) (hc : t.config.Proper) :
    (t.offsetRun text).next? = some (t.next.1, t.next.2.offsetRun text) := by
  rw [OffsetRun.next?, h.skipped?_offsetRun, Option.bind_some, text_offsetRun, config_offsetRun]
  cases hr : t.config.classify t.skipWhiteSpace.rest with
  | none =>
      have hend := Configuration.classify_eq_none_iff.mp hr
      have hp := h.skipWhiteSpace.position_of_end hend
      rw [next_of_end hend, if_pos (Nat.le_of_eq hp.symm)]
      rfl
  | some r =>
      have hlt := h.skipWhiteSpace.position_lt (Configuration.ne_nil_of_classify hr)
      have htoken := Configuration.tokenAt?_of_fits (h.fits hc hr)
      rw [Reading.start_tokenAt] at htoken
      rw [next_of_classify hr, if_neg (Nat.not_le_of_lt hlt), htoken]
      rfl

theorem StandsIn.answers?_offsetRun (h : t.StandsIn text) (hc : t.config.Proper) (n : Nat) :
    (t.offsetRun text).answers? n = some (t.answers n) := by
  induction n generalizing t with
  | zero => rfl
  | succ n ih =>
      have hlater := ih h.next (t.config_next ▸ hc)
      simp only [OffsetRun.answers?, h.next?_offsetRun hc, Option.bind_some, hlater, Option.map_some]
      rfl

theorem StandsIn.answers_eq (h : t.StandsIn text) (n : Nat) :
    t.answers n = (List.range n).map fun i =>
      (t.tokens[i]?, t.tokens[i]?.elim (width text) Token.stop) := by
  induction n generalizing t with
  | zero => rfl
  | succ n ih =>
      rw [answers, ih h.next, List.range_succ_eq_map, List.map_cons, List.map_map]
      cases hr : t.config.classify t.skipWhiteSpace.rest with
      | none =>
          have hend := Configuration.classify_eq_none_iff.mp hr
          rw [next_of_end hend, tokens_skipWhiteSpace, tokens_of_end hend,
            h.skipWhiteSpace.position_of_end hend]
          rfl
      | some r =>
          rw [next_of_classify hr, tokens_of_classify hr]
          rfl

end Tokenizer

namespace Configuration

theorem partition_iff_eq_tokenize {d : Declaration} {c : Configuration} (h : d.build = .ok c)
    (text : Text) :
    (∀ tokens, Partition c text 0 tokens ↔ tokens = c.tokenize text) ∧
      (∀ n, (Tokenizer.start c text).answers n = (List.range n).map fun i =>
        ((c.tokenize text)[i]?, (c.tokenize text)[i]?.elim (width text) Token.stop)) ∧
      ∀ n, (OffsetRun.start c text).answers? n = some ((Tokenizer.start c text).answers n) := by
  have hstands := Tokenizer.standsIn_start c text
  have hc : (Tokenizer.start c text).config.Proper := Declaration.proper_of_build h
  exact ⟨hstands.partition_iff hc, hstands.answers_eq, hstands.answers?_offsetRun hc⟩

theorem python_partition :
    Python.declaration.build = .ok Python.declaration.configuration ∧
      Partition Python.declaration.configuration ['i', 'f', ' ', 'é', '(', '"', '\n'] 0
        [⟨.keyword, 0, ['i', 'f'], true⟩, ⟨.identifier, 3, ['é'], true⟩, ⟨.bracket, 5, ['('], true⟩,
          ⟨.string, 6, ['"'], false⟩] :=
  ⟨Python.build_eq_ok, ((partition_iff_eq_tokenize Python.build_eq_ok _).1 _).mpr (by decide +kernel)⟩

end Configuration

end LexicalGrammar
