import LexicalGrammar.Proofs.Cut.Longest
import LexicalGrammar.Proofs.Json.Numeral
import LexicalGrammar.Proofs.Pattern
import LexicalGrammar.Proofs.Probe

namespace LexicalGrammar

open RegularExpression

namespace Json

def digit : List Char := ['0', '1', '2', '3', '4', '5', '6', '7', '8', '9']

theorem isDigit_iff {c : Char} : c.isDigit = true ↔ c ∈ digit := by
  rw [← Radix.isDigit_decimal]
  exact Radix.isDigit_iff_mem_alphabet

def digitsPattern : RegularExpression Char := oneOrMore (oneOf digit)

def integerPattern : RegularExpression Char :=
  char '0' + oneOf digit.tail * star (oneOf digit)

def fractionPattern : RegularExpression Char := char '.' * digitsPattern

def exponentPattern : RegularExpression Char :=
  oneOf ['e', 'E'] * (zeroOrOne (oneOf ['+', '-']) * digitsPattern)

/-- `-?(0|[1-9][0-9]*)(\.[0-9]+)?([eE][+-]?[0-9]+)?` -/
def numberPattern : RegularExpression Char :=
  zeroOrOne (char '-') *
    (integerPattern * (zeroOrOne fractionPattern * zeroOrOne exponentPattern))

theorem derives_digits : Derives digitsPattern Digits.text := by
  intro word
  rw [digitsPattern, oneOrMore, mem_oneOf_mul_star_iff]
  constructor
  · rintro ⟨c, rest, rfl, hc, hrest⟩
    refine ⟨⟨c :: rest, ?_, List.cons_ne_nil c rest⟩, rfl⟩
    intro d hd
    rcases List.mem_cons.mp hd with rfl | hd
    · exact isDigit_iff.mpr hc
    · exact isDigit_iff.mpr (hrest d hd)
  · rintro ⟨digits, rfl⟩
    obtain ⟨c, rest, h⟩ := List.exists_cons_of_ne_nil digits.nonempty
    have hdigit : ∀ d ∈ c :: rest, d ∈ digit := fun d hd => isDigit_iff.mp (digits.digits d (h ▸ hd))
    exact ⟨c, rest, h, hdigit c (by simp), fun d hd => hdigit d (by simp [hd])⟩

theorem derives_integer : Derives integerPattern IntegerPart.text := by
  intro word
  rw [integerPattern, matches'_add, Language.mem_add, mem_oneOf_mul_star_iff]
  constructor
  · rintro (h | ⟨c, rest, rfl, hc, hrest⟩)
    · exact ⟨.zero, h.symm⟩
    · have hdigits : c :: rest ∈ digitsPattern.matches' :=
        mem_oneOf_mul_star_iff.mpr ⟨c, rest, rfl, List.mem_of_mem_tail hc, hrest⟩
      obtain ⟨digits, hdigits⟩ := (derives_digits _).mp hdigits
      refine ⟨.positive digits ?_, hdigits⟩
      rw [hdigits, List.head?_cons]
      rintro ⟨⟩
      exact absurd hc (by decide)
  · rintro ⟨integer, rfl⟩
    cases integer with
    | zero => exact Or.inl rfl
    | positive digits hzero =>
        obtain ⟨c, rest, htext, hc, hrest⟩ :=
          mem_oneOf_mul_star_iff.mp ((derives_digits digits.text).mpr ⟨digits, rfl⟩)
        refine Or.inr ⟨c, rest, htext, ?_, hrest⟩
        rw [htext, List.head?_cons] at hzero
        exact (List.mem_cons.mp hc).resolve_left fun h => hzero (congrArg some h)

theorem derives_exponent : Derives exponentPattern ExponentPart.text := by
  have hparts := (derives_oneOf ['e', 'E']).mul
    ((derives_oneOf ['+', '-']).zeroOrOne.mul derives_digits)
  refine hparts.of_texts ?_ ?_
  · rintro ⟨marker, sign, digits⟩
    refine ⟨⟨marker.val, sign.map Subtype.val, digits, marker.property, ?_⟩, ?_⟩
    · intro c hc
      obtain ⟨d, _, rfl⟩ := Option.map_eq_some_iff.mp hc
      exact d.property
    · cases sign <;> rfl
  · rintro ⟨marker, sign, digits, hmarker, hsign⟩
    cases sign with
    | none => exact ⟨(⟨marker, hmarker⟩, none, digits), rfl⟩
    | some c => exact ⟨(⟨marker, hmarker⟩, some ⟨c, hsign c rfl⟩, digits), rfl⟩

theorem derives_number : Derives numberPattern Numeral.text := by
  have hfraction := (derives_char '.').mul derives_digits
  have hparts := (derives_char '-').zeroOrOne.mul
    (derives_integer.mul (hfraction.zeroOrOne.mul derives_exponent.zeroOrOne))
  refine hparts.of_texts ?_ ?_
  · rintro ⟨minus, integer, fraction, exponent⟩
    refine ⟨⟨minus.isSome, integer, fraction.map Prod.snd, exponent⟩, ?_⟩
    cases minus <;> cases fraction <;> rfl
  · rintro ⟨minus, integer, fraction, exponent⟩
    refine ⟨(if minus then some () else none, integer, fraction.map ((), ·), exponent), ?_⟩
    cases minus <;> cases fraction <;> rfl

section Derivation

variable {text : Text}

theorem Digits.exists_of_scan {run : DigitRun} (hradix : run.radix = .decimal)
    (hseparator : run.separator = none) {s : Split} (h : run.scan text = some s) :
    ∃ digits : Digits, digits.text = s.taken := by
  have hdecimal : Radix.decimal.isDigit = Char.isDigit := funext Radix.isDigit_decimal
  have hne := DigitRun.taken_ne_nil_of_scan h
  rw [DigitRun.scan_of_no_separator hseparator, hradix, hdecimal] at h
  split at h
  · simp at h
  · obtain rfl := Option.some.inj h
    exact ⟨⟨_, all_taken_readWhile Char.isDigit text, hne⟩, rfl⟩

theorem IntegerPart.exists_of_read {s : Split} (h : form.readInteger text = some s) :
    ∃ integer : IntegerPart, integer.text = s.taken := by
  by_cases hz : text.head? = some '0'
  · obtain ⟨rest, rfl⟩ := List.head?_eq_some_iff.mp hz
    rw [NumericForm.readInteger_zero rfl] at h
    obtain rfl := Option.some.inj h
    exact ⟨.zero, rfl⟩
  · have hwhole := NumericForm.whole_of_readInteger h
    rw [NumericForm.readInteger_eq_scan fun hh => hz hh.2] at h
    obtain ⟨digits, hdigits⟩ := Digits.exists_of_scan rfl rfl h
    refine ⟨.positive digits fun hzero => hz ?_, hdigits⟩
    rw [← hwhole, Split.whole, ← hdigits, List.head?_append, hzero]
    rfl

theorem exists_of_trailingFraction (text : Text) : ∃ fraction : Option Digits,
    (fraction.elim [] fun digits => '.' :: digits.text) = (form.trailingFraction text).taken := by
  cases hf : form.readFraction text with
  | none => exact ⟨none, by rw [NumericForm.trailingFraction_of_none hf]; rfl⟩
  | some s =>
      rw [NumericForm.trailingFraction_of_some (by decide) hf]
      simp only [NumericForm.readFraction] at hf
      split at hf
      · obtain ⟨d, hd, rfl⟩ := Option.map_eq_some_iff.mp hf
        obtain ⟨digits, hdigits⟩ := Digits.exists_of_scan rfl rfl hd
        exact ⟨some digits, congrArg (List.cons '.') hdigits⟩
      · simp at hf

theorem ExponentPart.exists_of_read {s : Split} (h : form.readExponent text = some s) :
    ∃ e : ExponentPart, e.text = s.taken := by
  cases text with
  | nil => cases h
  | cons c rest =>
      simp only [NumericForm.readExponent, form, Option.bind_some, Exponent.scan] at h
      split at h
      · next hmarker =>
        obtain ⟨d, hd, rfl⟩ := Option.map_eq_some_iff.mp h
        obtain ⟨digits, hdigits⟩ := Digits.exists_of_scan rfl rfl hd
        let e : ExponentPart :=
          { marker := c
            sign := rest.head?.filter fun c => c == '+' || c == '-'
            digits
            marker_mem := List.contains_iff_mem.mp hmarker
            sign_mem := fun c hc => by simpa using (Option.filter_eq_some_iff.mp hc).2 }
        have hsign : (Exponent.readSign ⟨['e', 'E'], true, none⟩ rest).taken = e.sign.toList :=
          taken_readOne _ rest
        exact ⟨e, by rw [Split.taken_following, hsign, ← hdigits]; rfl⟩
      · simp at h

theorem exists_of_exponentAfter (s : Split) : ∃ exponent : Option ExponentPart,
    exponent.elim [] ExponentPart.text = (form.exponentAfter s).taken := by
  cases he : form.readExponent s.rest with
  | none => exact ⟨none, by simp [NumericForm.exponentAfter, readOptional, he, Split.untouched]⟩
  | some e =>
      obtain ⟨exponent, hexponent⟩ := ExponentPart.exists_of_read he
      exact ⟨some exponent, by rw [NumericForm.exponentAfter_of_some he]; exact hexponent⟩

theorem exists_of_readMagnitude {m : NumericForm.Magnitude} (h : form.readMagnitude text = some m)
    (minus : Bool) : ∃ n : Numeral, n.minus = minus ∧ n.magnitudeText = m.split.taken := by
  cases hi : form.readInteger text with
  | none =>
      rw [NumericForm.readMagnitude_of_no_integer hi] at h
      cases h
  | some s =>
      rw [NumericForm.readMagnitude_of_integer hi] at h
      obtain rfl := Option.some.inj h
      obtain ⟨integer, hinteger⟩ := IntegerPart.exists_of_read hi
      obtain ⟨fraction, hfraction⟩ := exists_of_trailingFraction s.rest
      obtain ⟨exponent, hexponent⟩ := exists_of_exponentAfter (form.trailingFraction s.rest)
      have htorn : form.isTorn s.rest = false := rfl
      refine ⟨⟨minus, integer, fraction, exponent⟩, rfl, ?_⟩
      rw [NumericForm.afterInteger_of_not_isTorn htorn, Split.taken_following,
        Split.taken_following, ← hinteger, ← hfraction, ← hexponent]
      rfl

theorem exists_of_scan_form {s : Split} (h : form.scan text = some s) (minus : Bool) :
    ∃ n : Numeral, n.minus = minus ∧ n.magnitudeText = s.taken := by
  obtain ⟨marker, hmarker, hs⟩ := Option.bind_eq_some_iff.mp h
  obtain rfl := Option.some.inj hmarker
  obtain ⟨m, hm, rfl⟩ := Option.map_eq_some_iff.mp hs
  obtain ⟨n, hminus, hn⟩ := exists_of_readMagnitude hm minus
  have hsuffix : form.suffixes.read m.isFloat m.split.rest = .untouched m.split.rest :=
    Suffixes.read_of_head? (by cases m.isFloat <;> cases m.split.rest <;> rfl)
  refine ⟨n, hminus, ?_⟩
  rw [hsuffix, hn]
  simp [Split.untouched]

theorem Numeral.exists_of_scan {l : Lexeme} (h : numbers.scan text = some l) :
    ∃ n : Numeral, n.text = l.text := by
  obtain ⟨_, hc, rfl⟩ := Option.map_eq_some_iff.mp h
  obtain ⟨⟨other, s⟩, hfirst, rfl⟩ := Option.map_eq_some_iff.mp hc
  obtain ⟨hform, hs⟩ := NumberGrammar.scan_of_firstForm? hfirst
  obtain rfl : other = form := List.mem_singleton.mp hform
  have hsign : (numbers.readSign text).taken = (text.head?.filter ['-'].contains).toList :=
    taken_readOne _ text
  obtain ⟨n, hminus, hn⟩ := exists_of_scan_form hs (text.head?.filter ['-'].contains).isSome
  refine ⟨n, ?_⟩
  change n.sign.toList ++ n.magnitudeText = (numbers.readSign text).taken ++ s.taken
  rw [hn, hsign, sign, hminus]
  cases hc : text.head?.filter ['-'].contains with
  | none => rfl
  | some c =>
      obtain rfl : c = '-' := by simpa using (Option.filter_eq_some_iff.mp hc).2
      rfl

end Derivation

theorem accepts_iff_matches {word : Text} :
    accepts numbers.scan word = true ↔ word ∈ numberPattern.matches' := by
  rw [derives_number word]
  constructor
  · intro h
    obtain ⟨l, hl, -, hrest⟩ := accepts_iff.mp h
    obtain ⟨n, hn⟩ := Numeral.exists_of_scan hl
    have hwhole : l.text ++ l.rest = word := numbers.faithful word l hl
    rw [hrest, List.append_nil] at hwhole
    exact ⟨n, hn.trans hwhole⟩
  · rintro ⟨n, rfl⟩
    have hend : EndsNumeral [] := ⟨rfl, rfl, rfl⟩
    have hscan := n.scan hend
    rw [List.append_nil] at hscan
    exact accepts_iff.mpr ⟨_, hscan, rfl, rfl⟩

def numberEnds (offset : Nat) (text : Text) : Set Nat :=
  {n | ∃ word ∈ numberPattern.matches', word <+: text ∧ n = offset + width word}

theorem readsLongest_numbers (text : Text) :
    ReadsLongest numbers.scan (· ∈ numberPattern.matches') text where
  word l hl := (derives_number l.text).mpr (Numeral.exists_of_scan hl)
  noLess := by
    rintro word hword ⟨back, rfl⟩
    exact numbers.cutStable_scan.exists_of_accepts numbers.faithful
      (accepts_iff_matches.mpr hword) back

theorem probeNumber_longest {text rest : Text} {offset : Nat}
    (h : suffixAt? text offset = some rest) :
    ((Language.json.configuration.probeAt .number text offset).isSome = true ↔
        ∃ word ∈ numberPattern.matches', word <+: rest) ∧
      (∀ m, Language.json.configuration.probeAt .number text offset = some m →
        m.start = offset ∧ m.closed = true ∧ IsGreatest (numberEnds offset rest) m.stop) ∧
      ∀ word, accepts Language.json.configuration.numbers.scan word = true ↔
        word ∈ numberPattern.matches' := by
  have hprobe : Language.json.configuration.probeAt .number text offset =
      (numbers.scan rest).map (Lexeme.spanAt offset) := probe_of_suffixAt? h
  rw [hprobe, Option.isSome_map]
  refine ⟨(readsLongest_numbers rest).isSome_iff numbers.faithful, fun m hm => ?_,
    fun _ => accepts_iff_matches⟩
  obtain ⟨l, hl, rfl⟩ := Option.map_eq_some_iff.mp hm
  have hclosed : l.closed = true := by
    obtain ⟨_, _, rfl⟩ := Option.map_eq_some_iff.mp hl
    rfl
  exact ⟨rfl, hclosed, (readsLongest_numbers rest).isGreatest numbers.faithful hl offset⟩

theorem probeNumber_longest_incomplete :
    suffixAt? ['é', '-', '0', '.', '5', 'e', '+'] 2 = some ['-', '0', '.', '5', 'e', '+'] ∧
      IsGreatest (numberEnds 2 ['-', '0', '.', '5', 'e', '+']) 6 := by
  have h : suffixAt? ['é', '-', '0', '.', '5', 'e', '+'] 2 = some ['-', '0', '.', '5', 'e', '+'] := by
    decide
  obtain ⟨_, hlongest, _⟩ := probeNumber_longest h
  exact ⟨h, (hlongest ⟨2, 6, true⟩ (by decide)).2.2⟩

end Json

end LexicalGrammar
