import LexicalGrammar.Proofs.Cut.Longest
import LexicalGrammar.Proofs.Reserved.WholeWord

namespace LexicalGrammar

theorem width_le_width_readWhile {p : Char → Bool} {taken : Text} (h : ∀ c ∈ taken, p c = true)
    (rest : Text) : width taken ≤ width (readWhile p (taken ++ rest)).taken := by
  rw [readWhile_append h, Split.taken_following, width_append]
  exact Nat.le_add_right ..

namespace IdentifierGrammar

inductive Shaped (g : IdentifierGrammar) : Text → Prop where
  | plain {head : Char} {body : Text} (hhead : g.head.contains head = true)
      (hbody : ∀ c ∈ body, g.body.contains c = true) : Shaped g (head :: body)
  | led {lead head : Char} {body : Text} (hlead : g.lead = some lead)
      (hhead : g.head.contains head = true) (hbody : ∀ c ∈ body, g.body.contains c = true) :
      Shaped g (lead :: head :: body)

def Stuck (g : IdentifierGrammar) : Text → Prop
  | [] => False
  | c :: rest => g.lead = some c ∧ g.head.contains c = true ∧ rest.head?.any g.head.contains = false

variable {g : IdentifierGrammar} {text word back : Text} {l : Lexeme}

theorem readLead_of_lead {c : Char} (h : g.lead = some c) (rest : Text) :
    g.readLead (c :: rest) = ⟨[c], rest⟩ := by
  simp [readLead, readOne, h]

theorem readLead_of_ne {c : Char} (h : g.lead ≠ some c) (rest : Text) :
    g.readLead (c :: rest) = .untouched (c :: rest) := by
  simp [readLead, readOne, h]

theorem scan_led {lead head : Char} (hlead : g.lead = some lead)
    (hhead : g.head.contains head = true) (rest : Text) :
    g.scan (lead :: head :: rest) =
      some ((Lexeme.ofSplit (readWhile g.body.contains rest)).following [lead, head]) := by
  rw [scan, readLead_of_lead hlead, readWord, if_pos hhead]
  rfl

theorem scan_plain {head : Char} (hlead : g.lead ≠ some head) (hhead : g.head.contains head = true)
    (rest : Text) :
    g.scan (head :: rest) =
      some ((Lexeme.ofSplit (readWhile g.body.contains rest)).following [head]) := by
  rw [scan, readLead_of_ne hlead, Split.untouched, readWord, if_pos hhead]
  rfl

theorem readWord_eq_none_iff : g.readWord text = none ↔ text.head?.any g.head.contains = false := by
  cases text <;> simp [readWord]

theorem shaped_of_readWord {s : Split} (h : g.readWord text = some s) :
    ∃ head body, s.taken = head :: body ∧ g.head.contains head = true ∧
      ∀ c ∈ body, g.body.contains c = true := by
  cases text with
  | nil => simp [readWord] at h
  | cons c rest =>
      simp only [readWord] at h
      split at h
      · next hc =>
        obtain rfl := Option.some.inj h
        exact ⟨c, _, rfl, hc, all_taken_readWhile g.body.contains rest⟩
      · simp at h

theorem shaped_of_scan (h : g.scan text = some l) : g.Shaped l.text := by
  obtain ⟨s, hs, rfl⟩ := Option.map_eq_some_iff.mp h
  obtain ⟨head, body, hword, hhead, hbody⟩ := shaped_of_readWord hs
  cases text with
  | nil => simp [readLead, readOne, Split.untouched, readWord] at hs
  | cons c rest =>
      change g.Shaped ((g.readLead (c :: rest)).taken ++ s.taken)
      rw [hword]
      by_cases hc : g.lead = some c
      · rw [readLead_of_lead hc]
        exact .led hc hhead hbody
      · rw [readLead_of_ne hc]
        exact .plain hhead hbody

theorem scan_of_stuck (h : g.Stuck text) : g.scan text = none := by
  cases text with
  | nil => exact h.elim
  | cons c rest =>
      obtain ⟨hlead, -, hrest⟩ := h
      rw [scan, readLead_of_lead hlead, Option.map_eq_none_iff]
      exact readWord_eq_none_iff.mpr hrest

theorem Stuck.exists_shaped (h : g.Stuck text) : ∃ word, g.Shaped word ∧ word <+: text := by
  cases text with
  | nil => exact h.elim
  | cons c rest => exact ⟨[c], .plain h.2.1 (by simp), rest, rfl⟩

theorem scan_of_shaped (h : g.Shaped word) (hstuck : ¬g.Stuck (word ++ back)) :
    ∃ l, g.scan (word ++ back) = some l ∧ width word ≤ width l.text := by
  cases h with
  | @led lead head body hlead hhead hbody =>
      refine ⟨_, scan_led hlead hhead (body ++ back), ?_⟩
      have hle := width_le_width_readWhile hbody back
      simp only [Lexeme.text_following, Lexeme.ofSplit, width_append, width_cons, width_nil]
      omega
  | @plain head body hhead hbody =>
      by_cases hlead : g.lead = some head
      · -- The head is taken for the lead, so another head follows it.
        have hnext : (body ++ back).head?.any g.head.contains = true := by
          rw [← Bool.not_eq_false]
          exact fun hn => hstuck ⟨hlead, hhead, hn⟩
        cases body with
        | nil =>
            cases back with
            | nil => simp at hnext
            | cons d back =>
                refine ⟨_, scan_led hlead (by simpa using hnext) back, ?_⟩
                simp [Lexeme.ofSplit]
        | cons d body =>
            refine ⟨_, scan_led hlead (by simpa using hnext) (body ++ back), ?_⟩
            have htail : ∀ c ∈ body, g.body.contains c = true :=
              fun c hc => hbody c (List.mem_cons_of_mem d hc)
            have hle := width_le_width_readWhile htail back
            simp only [Lexeme.text_following, Lexeme.ofSplit, width_append, width_cons, width_nil]
            omega
      · refine ⟨_, scan_plain hlead hhead (body ++ back), ?_⟩
        have hle := width_le_width_readWhile hbody back
        simp only [Lexeme.text_following, Lexeme.ofSplit, width_append, width_cons, width_nil]
        omega

def ends (g : IdentifierGrammar) (offset : Nat) (text : Text) : Set Nat :=
  {n | ∃ word, g.Shaped word ∧ word <+: text ∧ n = offset + width word}

theorem readsLongest_of_not_stuck (h : ¬g.Stuck text) : ReadsLongest g.scan g.Shaped text where
  word _ := shaped_of_scan
  noLess := by
    rintro word hword ⟨back, rfl⟩
    exact scan_of_shaped hword h

theorem not_stuck_of_scan (h : g.scan text = some l) : ¬g.Stuck text :=
  fun hs => by simp [scan_of_stuck hs] at h

theorem accepts_iff_shaped : accepts g.scan word = true ↔ g.Shaped word ∧ ¬g.Stuck word := by
  rw [accepts_iff]
  constructor
  · rintro ⟨l, hl, -, hrest⟩
    have hwhole : l.text ++ l.rest = word := g.faithful word l hl
    rw [hrest, List.append_nil] at hwhole
    exact ⟨hwhole ▸ shaped_of_scan hl, not_stuck_of_scan hl⟩
  · rintro ⟨hword, hstuck⟩
    have hlongest := readsLongest_of_not_stuck hstuck
    obtain ⟨l, hl, -⟩ := hlongest.noLess word hword List.prefix_rfl
    exact ⟨l, hl, (scan_eq_some_iff.mp hl).2.1, hlongest.rest_eq_nil g.faithful hword hl⟩

theorem not_stuck_of_language {l : Language} (h : l.configuration.identifiers = some g)
    (text : Text) : ¬g.Stuck text := by
  have hapart : g.lead.any g.head.contains = false := by
    cases l <;> cases h <;> decide
  cases text with
  | nil => exact id
  | cons c rest =>
      rintro ⟨hlead, hhead, -⟩
      simp [hlead, hhead] at hapart

theorem probe_longest_iff_not_stuck {offset : Nat} {rest : Text}
    (h : suffixAt? text offset = some rest) :
    (((probe g.scan text offset).isSome = true ↔ ∃ word, g.Shaped word ∧ word <+: rest) ↔
        ¬g.Stuck rest) ∧
      (∀ m, probe g.scan text offset = some m →
        m.start = offset ∧ m.closed = true ∧ IsGreatest (g.ends offset rest) m.stop) ∧
      (∀ word, accepts g.scan word = true ↔ g.Shaped word ∧ ¬g.Stuck word) ∧
      ∀ l : Language, l.configuration.identifiers = some g → ¬g.Stuck rest := by
  rw [probe_of_suffixAt? h, Option.isSome_map]
  refine ⟨⟨fun hlongest hstuck => ?_, fun h => (readsLongest_of_not_stuck h).isSome_iff g.faithful⟩,
    fun m hm => ?_, fun _ => accepts_iff_shaped, fun l hl => not_stuck_of_language hl rest⟩
  · have hsome := hlongest.mpr hstuck.exists_shaped
    simp [scan_of_stuck hstuck] at hsome
  · obtain ⟨l, hl, rfl⟩ := Option.map_eq_some_iff.mp hm
    have hlongest := readsLongest_of_not_stuck (not_stuck_of_scan hl)
    exact ⟨rfl, (scan_eq_some_iff.mp hl).2.1, hlongest.isGreatest g.faithful hl offset⟩

theorem css_longest :
    suffixAt? ['é', '-', 'a', '-', 'b', '('] 2 = some ['-', 'a', '-', 'b', '('] ∧
      IsGreatest (Css.names.ends 2 ['-', 'a', '-', 'b', '(']) 6 := by
  have h : suffixAt? ['é', '-', 'a', '-', 'b', '('] 2 = some ['-', 'a', '-', 'b', '('] := by decide
  obtain ⟨_, hlongest, _⟩ := probe_longest_iff_not_stuck (g := Css.names) h
  exact ⟨h, (hlongest ⟨2, 6, true⟩ (by decide)).2.2⟩

def dollarNames : IdentifierGrammar where
  lead := some '$'
  head := .ofLetters .ascii ['_', '$']
  body := .alphanumeric .ascii ['_', '$']

theorem dollarNames_not_longest :
    dollarNames.Shaped ['$', '1'] ∧ accepts dollarNames.scan ['$', '1'] = false ∧
      ¬((probe dollarNames.scan ['$', '1'] 0).isSome = true ↔
        ∃ word, dollarNames.Shaped word ∧ word <+: ['$', '1']) := by
  have hone : dollarNames.body.contains '1' = true := by decide
  have hshaped : dollarNames.Shaped ['$', '1'] := .plain (by decide) (by simpa using hone)
  refine ⟨hshaped, by decide, fun h => ?_⟩
  exact absurd (h.mpr ⟨_, hshaped, List.prefix_rfl⟩) (by decide)

end IdentifierGrammar

end LexicalGrammar
