import LexicalGrammar.Proofs.Cut.Longest
import LexicalGrammar.Proofs.Number.Digits
import LexicalGrammar.Proofs.Number.Loop
import LexicalGrammar.Proofs.Pattern

namespace LexicalGrammar

open RegularExpression

namespace DigitRun

def groupPattern (run : DigitRun) : RegularExpression Char := oneOrMore (oneOf run.radix.alphabet)

/-- `d+(sep d+)*`, or `d+` without a separator. -/
def pattern (run : DigitRun) : RegularExpression Char :=
  match run.separator with
  | none => run.groupPattern
  | some s => run.groupPattern * star (char s * run.groupPattern)

variable {run : DigitRun} {word : Text}

theorem mem_groupPattern_iff :
    word ∈ run.groupPattern.matches' ↔ word ≠ [] ∧ word.all run.radix.isDigit = true := by
  rw [groupPattern, oneOrMore, mem_oneOf_mul_star_iff]
  simp only [← Radix.isDigit_iff_mem_alphabet, List.all_eq_true]
  constructor
  · rintro ⟨c, rest, rfl, hc, hrest⟩
    exact ⟨List.cons_ne_nil c rest, List.forall_mem_cons.mpr ⟨hc, hrest⟩⟩
  · rintro ⟨hne, hword⟩
    obtain ⟨c, rest, rfl⟩ := List.exists_cons_of_ne_nil hne
    exact ⟨c, rest, rfl, List.forall_mem_cons.mp hword⟩

theorem spells_group_append_flatten {s : Char} (hs : run.separator = some s) {words : List Text}
    (h : ∀ w ∈ words, w ∈ (char s * run.groupPattern).matches') :
    ∀ group ∈ run.groupPattern.matches', run.Spells (group ++ words.flatten) := by
  induction words with
  | nil =>
      intro group hgroup
      obtain ⟨hne, hdigits⟩ := mem_groupPattern_iff.mp hgroup
      simpa using Spells.digits hne hdigits
  | cons w words ih =>
      intro group hgroup
      obtain ⟨hne, hdigits⟩ := mem_groupPattern_iff.mp hgroup
      obtain ⟨hw, hwords⟩ := List.forall_mem_cons.mp h
      obtain ⟨_, rfl, next, hnext, rfl⟩ := Language.mem_mul.mp hw
      exact .separated hne hdigits hs (ih hwords next hnext)

theorem Spells.mem_pattern (h : run.Spells word) : word ∈ run.pattern.matches' := by
  induction h with
  | @digits digits hne hd =>
      have hgroup := mem_groupPattern_iff.mpr ⟨hne, hd⟩
      rw [pattern]
      cases run.separator with
      | none => exact hgroup
      | some s =>
          have hstar : [] ∈ (star (char s * run.groupPattern)).matches' := Language.nil_mem_kstar _
          simpa using Language.append_mem_mul hgroup hstar
  | @separated digits rest s hne hd hs _ ih =>
      have hgroup := mem_groupPattern_iff.mpr ⟨hne, hd⟩
      rw [pattern, hs] at ih ⊢
      obtain ⟨next, hnext, later, hlater, rfl⟩ := Language.mem_mul.mp ih
      have hsep : s :: next ∈ (char s * run.groupPattern).matches' :=
        Language.append_mem_mul (show [s] ∈ (char s).matches' from rfl) hnext
      exact Language.append_mem_mul hgroup (append_mem_star hsep hlater)

theorem mem_pattern_iff : word ∈ run.pattern.matches' ↔ run.Spells word := by
  refine ⟨fun h => ?_, Spells.mem_pattern⟩
  rw [pattern] at h
  cases hs : run.separator with
  | none =>
      rw [hs] at h
      obtain ⟨hne, hdigits⟩ := mem_groupPattern_iff.mp h
      exact .digits hne hdigits
  | some s =>
      rw [hs] at h
      obtain ⟨group, hgroup, _, hlater, rfl⟩ := Language.mem_mul.mp h
      obtain ⟨words, rfl, hwords⟩ := Language.mem_kstar.mp hlater
      exact spells_group_append_flatten hs hwords group hgroup

end DigitRun

namespace Exponent

def isSign (e : Exponent) (c : Char) : Bool := e.signed && (c == '+' || c == '-')

def signPattern (e : Exponent) : RegularExpression Char :=
  if e.signed then zeroOrOne (oneOf ['+', '-']) else 1

/-- `marker [+-]? d+(sep d+)*`, with a sign only if signs are allowed. -/
def pattern (e : Exponent) : RegularExpression Char :=
  oneOf e.markers * (e.signPattern * e.digits.pattern)

inductive Spells (e : Exponent) : Text → Prop
  | parts {marker : Char} {sign : Option Char} {digits : Text} (hm : marker ∈ e.markers)
      (hs : ∀ c, sign = some c → e.isSign c = true) (hd : e.digits.Spells digits) :
      Spells e (marker :: (sign.toList ++ digits))

variable {e : Exponent} {word : Text}

theorem mem_signPattern_iff : word ∈ e.signPattern.matches' ↔
    ∃ sign : Option Char, (∀ c, sign = some c → e.isSign c = true) ∧ word = sign.toList := by
  rw [signPattern, Option.exists]
  cases hs : e.signed with
  | false =>
      rw [if_neg Bool.false_ne_true, matches'_epsilon, Language.mem_one]
      simp [isSign, hs]
  | true =>
      rw [if_pos rfl, zeroOrOne, matches'_add, Language.mem_add, matches'_epsilon, Language.mem_one,
        mem_oneOf_iff]
      simp [isSign, hs]

theorem mem_pattern_iff : word ∈ e.pattern.matches' ↔ e.Spells word := by
  rw [pattern, matches'_mul, Language.mem_mul]
  constructor
  · rintro ⟨_, hmarker, _, hrest, rfl⟩
    obtain ⟨marker, hm, rfl⟩ := mem_oneOf_iff.mp hmarker
    obtain ⟨_, hsign, digits, hdigits, rfl⟩ := Language.mem_mul.mp hrest
    obtain ⟨sign, hs, rfl⟩ := mem_signPattern_iff.mp hsign
    exact .parts hm hs (DigitRun.mem_pattern_iff.mp hdigits)
  · rintro ⟨hm, hs, hd⟩
    have hdigits := DigitRun.mem_pattern_iff.mpr hd
    have hsign := mem_signPattern_iff.mpr ⟨_, hs, rfl⟩
    exact ⟨_, mem_oneOf_iff.mpr ⟨_, hm, rfl⟩, _, Language.append_mem_mul hsign hdigits, rfl⟩

theorem isSign_of_isDigit {c : Char} (h : Radix.decimal.isDigit c = true) : e.isSign c = false := by
  have hplus : c ≠ '+' := by
    rintro rfl
    exact absurd h (by decide)
  have hminus : c ≠ '-' := by
    rintro rfl
    exact absurd h (by decide)
  simp [isSign, hplus, hminus]

theorem readSign_append {sign : Option Char} {digits : Text}
    (hs : ∀ c, sign = some c → e.isSign c = true) (hd : e.digits.Spells digits) :
    e.readSign (sign.toList ++ digits) = ⟨sign.toList, digits⟩ := by
  refine readOne_toList hs ?_
  have hhead := hd.head?_any []
  rw [List.append_nil] at hhead
  cases digits with
  | nil => rfl
  | cons c rest => exact isSign_of_isDigit hhead

theorem Spells.scan (h : e.Spells word) : e.scan word = some ⟨word, []⟩ := by
  obtain ⟨hm, hs, hd⟩ := h
  have hmarker := List.contains_iff_mem.mpr hm
  simp only [Exponent.scan, hmarker, if_true, readSign_append hs hd, hd.scan, Option.map_some]
  simp [Split.following]

theorem spells_of_scan {text : Text} {s : Split} (h : e.scan text = some s) : e.Spells s.taken := by
  cases text with
  | nil => cases h
  | cons c rest =>
      rw [Exponent.scan] at h
      split at h
      · next hm =>
        obtain ⟨digits, hdigits, rfl⟩ := Option.map_eq_some_iff.mp h
        have hsign : (e.readSign rest).taken = (rest.head?.filter e.isSign).toList :=
          taken_readOne _ rest
        rw [Split.taken_following, hsign]
        exact .parts (List.contains_iff_mem.mp hm) (fun c hc => (Option.filter_eq_some_iff.mp hc).2)
          (DigitRun.spells_of_scan hdigits)
      · cases h

end Exponent

namespace Cursor

def wordEnds (c : Cursor) (p : RegularExpression Char) : Set Nat :=
  {n | ∃ word ∈ p.matches', word <+: c.rest ∧ n = c.position + width word}

structure TakesLongest (c : Cursor) (p : RegularExpression Char) (e : Bool × Cursor) : Prop where
  found_iff : e.1 = true ↔ ∃ word ∈ p.matches', word <+: c.rest
  source : e.2.source = c.source
  longest : e.1 = true → IsGreatest (c.wordEnds p) e.2.position
  unchanged : e.1 = false → e.2 = c

theorem takesLongest_eatPart {part : Text → Option Split} {p : RegularExpression Char}
    (hstable : PartStable part) (hwhole : ∀ text s, part text = some s → s.whole = text)
    (hsound : ∀ text s, part text = some s → s.taken ∈ p.matches')
    (halone : ∀ word ∈ p.matches', part word = some ⟨word, []⟩) (c : Cursor) :
    c.TakesLongest p (c.eatPart part) := by
  have hf := faithful_ofSplit hwhole
  have hlongest := hstable.readsLongest hwhole hsound halone c.rest
  have hsome := hlongest.isSome_iff hf
  rw [Option.isSome_map] at hsome
  rw [eatPart]
  cases hp : part c.rest with
  | none =>
      rw [hp] at hsome
      exact ⟨hsome, rfl, fun h => absurd h Bool.false_ne_true, fun _ => rfl⟩
  | some s =>
      rw [hp] at hsome
      have hgreatest := hlongest.isGreatest hf (congrArg (Option.map Lexeme.ofSplit) hp) c.position
      refine ⟨hsome, c.source_pass _, fun _ => ?_, fun h => absurd h.symm Bool.false_ne_true⟩
      change IsGreatest (c.wordEnds p) (c.pass s.taken).position
      rw [position_pass (hwhole _ s hp).symm]
      exact hgreatest

end Cursor

theorem DigitRun.takesLongest (run : DigitRun) (c : Cursor) :
    c.TakesLongest run.pattern (c.eatPart run.scan) :=
  Cursor.takesLongest_eatPart run.partStable_scan (fun _ _ => whole_of_scan)
    (fun _ _ h => mem_pattern_iff.mpr (spells_of_scan h)) (fun _ h => (mem_pattern_iff.mp h).scan) c

theorem Exponent.takesLongest (e : Exponent) (c : Cursor) :
    c.TakesLongest e.pattern (c.eatPart e.scan) :=
  Cursor.takesLongest_eatPart e.partStable_scan (fun _ _ => whole_of_scan)
    (fun _ _ h => mem_pattern_iff.mpr (spells_of_scan h)) (fun _ h => (mem_pattern_iff.mp h).scan) c

theorem DigitRun.eatPart_of_separator {run : DigitRun} {c : Cursor} {word left : Text} {s : Char}
    (hword : word ∈ run.pattern.matches') (hrest : c.rest = word ++ s :: left)
    (hs : run.radix.isDigit s = false) (hleft : left.head?.any run.radix.isDigit = false) :
    c.eatPart run.scan = (true, c.pass word) := by
  have hmore := more_of_separator hs hleft
  rw [Cursor.eatPart, hrest, (mem_pattern_iff.mp hword).scan_append_of_more hmore]
  rfl

theorem scans_take_longest (run : DigitRun) (e : Exponent) (c : Cursor) :
    (WellFounded fun m l => run.turn l = .again m) ∧
      (∀ r, run.Scans c r ↔ r = c.eatPart run.scan) ∧
      c.TakesLongest run.pattern (c.eatPart run.scan) ∧
      (∀ word s left, word ∈ run.pattern.matches' → c.rest = word ++ s :: left →
        run.radix.isDigit s = false → left.head?.any run.radix.isDigit = false →
          c.eatPart run.scan = (true, c.pass word)) ∧
      (∀ r, e.Scans c r ↔ r = c.eatPart e.scan) ∧
      c.TakesLongest e.pattern (c.eatPart e.scan) :=
  ⟨run.wellFounded_turn, fun _ => run.scans_iff c, run.takesLongest c,
    fun _ _ _ => DigitRun.eatPart_of_separator, fun _ => e.scans_iff c, e.takesLongest c⟩

theorem decimal_scan_takes_longest :
    let run : DigitRun := ⟨.decimal, some '_'⟩
    let c : Cursor := ⟨['x'], ['1', '_', '0', '_', ';']⟩
    ['1', '_', '0'] ∈ run.pattern.matches' ∧ c.eatPart run.scan = (true, c.pass ['1', '_', '0']) ∧
      IsGreatest (c.wordEnds run.pattern) 4 := by
  intro run c
  have hscan : run.scan c.rest = some ⟨['1', '_', '0'], ['_', ';']⟩ := by decide
  have hword : ['1', '_', '0'] ∈ run.pattern.matches' :=
    DigitRun.mem_pattern_iff.mpr (DigitRun.spells_of_scan hscan)
  obtain ⟨-, -, hrun, hseparator, -⟩ := scans_take_longest run .decimal c
  exact ⟨hword, hseparator _ '_' [';'] hword rfl (by decide) (by decide), hrun.longest (by decide)⟩

-- A separator that is itself a digit is taken as one wherever it stands.
example : Cursor.eatPart ⟨['x'], ['1', '1', '0', '0', ';']⟩ (DigitRun.scan ⟨.binary, some '0'⟩)
    = (true, ⟨['x', '1', '1', '0', '0'], [';']⟩) := by decide

example : Cursor.eatPart ⟨[], ['e', '+', ';']⟩ Exponent.decimal.scan
    = (false, ⟨[], ['e', '+', ';']⟩) := by decide

end LexicalGrammar
