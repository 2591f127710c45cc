import LexicalGrammar.Language.Json
import LexicalGrammar.Proofs.Number.Munch

namespace LexicalGrammar.Json

structure Digits where
  text : Text
  digits : ∀ c ∈ text, c.isDigit = true
  nonempty : text ≠ []

inductive IntegerPart where
  | zero
  | positive (digits : Digits) (h : digits.text.head? ≠ some '0')

structure ExponentPart where
  marker : Char
  sign : Option Char
  digits : Digits
  marker_mem : marker ∈ ['e', 'E']
  sign_mem : ∀ c, sign = some c → c ∈ ['+', '-']

structure Numeral where
  minus : Bool
  integer : IntegerPart
  fraction : Option Digits
  exponent : Option ExponentPart

def IntegerPart.text : IntegerPart → Text
  | zero => ['0']
  | positive digits _ => digits.text

def ExponentPart.text (e : ExponentPart) : Text := e.marker :: (e.sign.toList ++ e.digits.text)

namespace Numeral

def sign (n : Numeral) : Option Char := if n.minus then some '-' else none

def fractionText (n : Numeral) : Text := n.fraction.elim [] fun digits => '.' :: digits.text

def exponentText (n : Numeral) : Text := n.exponent.elim [] ExponentPart.text

def magnitudeText (n : Numeral) : Text := n.integer.text ++ (n.fractionText ++ n.exponentText)

def text (n : Numeral) : Text := n.sign.toList ++ n.magnitudeText

end Numeral

def form : NumericForm :=
  { NumericForm.decimal with
      separator := none, leadingZero := .forbidden, exponent := some ⟨['e', 'E'], true, none⟩ }

theorem forms_numbers : numbers.forms = [form] := rfl

structure EndsNumeral (rest : Text) : Prop where
  digit : rest.head?.any Char.isDigit = false
  point : rest.head?.any (· == '.') = false
  marker : rest.head?.any ['e', 'E'].contains = false

theorem not_isDigit_of_mem (marks : List Char) (hm : marks.all (!·.isDigit) = true) {c : Char}
    (h : c ∈ marks) : c.isDigit = false := by
  simpa using List.all_eq_true.mp hm c h

section Reading

variable {rest : Text}

theorem Digits.head?_any (digits : Digits) {p : Char → Bool}
    (hp : ∀ c, p c = true → c.isDigit = false) (rest : Text) :
    (digits.text ++ rest).head?.any p = false := by
  obtain ⟨c, others, hc⟩ := List.exists_cons_of_ne_nil digits.nonempty
  have hdigit := digits.digits c (by simp [hc])
  rw [hc]
  refine Bool.eq_false_iff.mpr fun h => ?_
  rw [hp c h] at hdigit
  simp at hdigit

theorem Digits.scan (digits : Digits) (run : DigitRun) (hradix : run.radix = .decimal)
    (hseparator : run.separator = none) (h : rest.head?.any Char.isDigit = false) :
    run.scan (digits.text ++ rest) = some ⟨digits.text, rest⟩ := by
  have hdecimal : Radix.decimal.isDigit = Char.isDigit := funext Radix.isDigit_decimal
  rw [DigitRun.scan_of_no_separator hseparator, hradix, hdecimal, readWhile_append digits.digits,
    readWhile_of_head? h]
  simp [Split.following, digits.nonempty]

theorem IntegerPart.head?_any (integer : IntegerPart) {p : Char → Bool}
    (hp : ∀ c, p c = true → c.isDigit = false) (rest : Text) :
    (integer.text ++ rest).head?.any p = false := by
  cases integer with
  | zero =>
      refine Bool.eq_false_iff.mpr fun h => ?_
      simpa using hp '0' h
  | positive digits _ => exact digits.head?_any hp rest

theorem IntegerPart.read (integer : IntegerPart) (h : rest.head?.any Char.isDigit = false) :
    form.readInteger (integer.text ++ rest) = some ⟨integer.text, rest⟩ := by
  cases integer with
  | zero => exact NumericForm.readInteger_zero rfl rest
  | positive digits hzero =>
      have hhead : (digits.text ++ rest).head? ≠ some '0' := by
        rwa [List.head?_append, Option.or_of_isSome (by simpa using digits.nonempty)]
      rw [text, NumericForm.readInteger_eq_scan fun hz => hhead hz.2]
      exact digits.scan form.digits rfl rfl h

theorem ExponentPart.read (e : ExponentPart) (h : rest.head?.any Char.isDigit = false) :
    form.readExponent (e.text ++ rest) = some ⟨e.text, rest⟩ := by
  have hmarker : ['e', 'E'].contains e.marker = true := List.contains_iff_mem.mpr e.marker_mem
  have hsign : readOne (fun c => true && (c == '+' || c == '-'))
      (e.sign.toList ++ (e.digits.text ++ rest)) = ⟨e.sign.toList, e.digits.text ++ rest⟩ := by
    refine readOne_toList (fun c hc => by simpa using e.sign_mem c hc)
      (e.digits.head?_any (fun c hc => ?_) rest)
    exact not_isDigit_of_mem ['+', '-'] (by decide) (by simpa using hc)
  have hdigits := e.digits.scan ⟨.decimal, none⟩ rfl rfl h
  simp only [text, List.cons_append, List.append_assoc]
  simp only [NumericForm.readExponent, form, Option.bind_some, Exponent.scan, hmarker, if_true,
    Exponent.readSign, hsign, Exponent.digits, hdigits]
  simp [Split.following]

namespace Numeral

theorem head?_exponentText (n : Numeral) {p : Char → Bool} (hp : ['e', 'E'].all (!p ·) = true)
    (h : rest.head?.any p = false) : (n.exponentText ++ rest).head?.any p = false := by
  refine head?_any_append_of ?_ h
  cases he : n.exponent with
  | none => simp [exponentText, he]
  | some e =>
      have hmarker := List.all_eq_true.mp hp e.marker e.marker_mem
      simpa [exponentText, he, ExponentPart.text] using hmarker

theorem head?_fractionText (n : Numeral) {p : Char → Bool} (hp : p '.' = false)
    (h : rest.head?.any p = false) : (n.fractionText ++ rest).head?.any p = false := by
  refine head?_any_append_of ?_ h
  cases hf : n.fraction with
  | none => simp [fractionText, hf]
  | some digits => simpa [fractionText, hf] using hp

theorem readExponent (n : Numeral) (h : EndsNumeral rest) :
    readOptional form.readExponent (n.exponentText ++ rest) = ⟨n.exponentText, rest⟩ := by
  cases hn : n.exponent with
  | none =>
      have hnone : form.readExponent rest = none := by
        refine NumericForm.readExponent_of_head? fun e he => ?_
        obtain rfl := Option.some.inj he
        exact h.marker
      simp [exponentText, hn, readOptional, hnone, Split.untouched]
  | some e => simp [exponentText, hn, readOptional, e.read h.digit]

theorem readFraction (n : Numeral) (hdigit : rest.head?.any Char.isDigit = false)
    (hpoint : rest.head?.any (· == '.') = false) :
    form.trailingFraction (n.fractionText ++ rest) = ⟨n.fractionText, rest⟩ := by
  cases hf : n.fraction with
  | none =>
      have hnone : form.readFraction rest = none :=
        NumericForm.readFraction_of_head? fun h => by simp [h] at hpoint
      simp [fractionText, hf, NumericForm.trailingFraction_of_none hnone, Split.untouched]
  | some digits =>
      have hdigits := digits.scan form.digits rfl rfl hdigit
      refine NumericForm.trailingFraction_of_some (by decide) ?_
      simp [fractionText, hf, NumericForm.readFraction, hdigits, Split.following]

theorem head?_text (n : Numeral) {p : Char → Bool} (hdigit : ∀ c, p c = true → c.isDigit = false)
    (hminus : p '-' = false) (rest : Text) : (n.text ++ rest).head?.any p = false := by
  rw [text, magnitudeText, List.append_assoc, List.append_assoc]
  refine head?_any_append_of ?_ (n.integer.head?_any hdigit _)
  cases hm : n.minus with
  | true => simpa [sign, hm] using hminus
  | false => simp [sign, hm]

theorem readMagnitude (n : Numeral) (h : EndsNumeral rest) :
    ∃ isFloat, form.readMagnitude (n.magnitudeText ++ rest) =
      some ⟨⟨n.magnitudeText, rest⟩, isFloat⟩ := by
  have hdigit := n.head?_exponentText (by decide) h.digit
  have hpoint := n.head?_exponentText (by decide) h.point
  have hinteger := n.integer.read (n.head?_fractionText (by decide) hdigit)
  have hfraction := n.readFraction hdigit hpoint
  have hexponent := n.readExponent h
  have htorn : form.isTorn (n.fractionText ++ (n.exponentText ++ rest)) = false := rfl
  rw [magnitudeText, List.append_assoc, List.append_assoc,
    NumericForm.readMagnitude_of_integer hinteger, NumericForm.afterInteger_of_not_isTorn htorn]
  simp only [hfraction, NumericForm.exponentAfter, hexponent]
  exact ⟨_, rfl⟩

theorem scan_form (n : Numeral) (h : EndsNumeral rest) :
    form.scan (n.magnitudeText ++ rest) = some ⟨n.magnitudeText, rest⟩ := by
  obtain ⟨isFloat, hmagnitude⟩ := n.readMagnitude h
  have hmarker (text : Text) : form.readMarker text = some (.untouched text) := rfl
  have hsuffix : form.suffixes.read isFloat rest = .untouched rest :=
    Suffixes.read_of_head? (by cases isFloat <;> cases rest <;> rfl)
  simp only [NumericForm.scan, hmarker, Option.bind_some, Split.untouched, hmagnitude,
    Option.map_some]
  rw [hsuffix]
  simp [Split.following, Split.untouched]

theorem readSign (n : Numeral) (rest : Text) :
    numbers.readSign (n.sign.toList ++ (n.magnitudeText ++ rest)) =
      ⟨n.sign.toList, n.magnitudeText ++ rest⟩ := by
  rw [magnitudeText, List.append_assoc]
  refine readOne_toList (fun c hc => ?_) (n.integer.head?_any (fun c hc => ?_) _)
  · cases hm : n.minus with
    | true =>
        obtain rfl : '-' = c := by simpa [sign, hm] using hc
        rfl
    | false => simp [sign, hm] at hc
  · exact not_isDigit_of_mem numbers.signs (by decide) (List.contains_iff_mem.mp hc)

theorem scan (n : Numeral) (h : EndsNumeral rest) :
    numbers.scan (n.text ++ rest) = some ⟨n.text, true, rest⟩ := by
  simp only [text, List.append_assoc, NumberGrammar.scan, NumberGrammar.commitment?, n.readSign,
    forms_numbers, NumberGrammar.firstForm?, List.findSome?_cons, n.scan_form h]
  rfl

end Numeral

end Reading

end LexicalGrammar.Json
