import LexicalGrammar.Proofs.Number.Digits
import LexicalGrammar.Proofs.Number.Reachable
import Mathlib.Order.Bounds.Defs

namespace LexicalGrammar

theorem Suffixes.read_of_head? {s : Suffixes} {isFloat : Bool} {text : Text}
    (h : text.head?.any (s.letters isFloat).contains = false) :
    s.read isFloat text = .untouched text := by
  cases text with
  | nil => simp only [read]; split <;> rfl
  | cons c rest =>
      have hc : (s.letters isFloat).contains c = false := by simpa using h
      simp only [read]
      split
      · exact readWhile_of_head? h
      · simp only [readOne, hc, Bool.false_eq_true, if_false]

namespace NumericForm

theorem readFraction_of_head? {form : NumericForm} {text : Text} (h : text.head? ≠ some '.') :
    form.readFraction text = none := by
  simp only [readFraction]
  split
  · simp at h
  · rfl

theorem readExponent_of_head? {form : NumericForm} {text : Text}
    (h : ∀ e, form.exponent = some e → text.head?.any e.markers.contains = false) :
    form.readExponent text = none := by
  cases he : form.exponent with
  | none => simp [readExponent, he]
  | some e =>
      have hm := h e he
      cases text with
      | nil => simp [readExponent, he, Exponent.scan]
      | cons c rest =>
          have hc : e.markers.contains c = false := by simpa using hm
          simp only [readExponent, he, Option.bind_some, Exponent.scan, hc, Bool.false_eq_true,
            if_false]

theorem trailingFraction_of_none {form : NumericForm} {text : Text}
    (h : form.readFraction text = none) : form.trailingFraction text = .untouched text := by
  simp [trailingFraction, readOptional, h]

theorem readFraction_eq_none_of_taken {form : NumericForm} {text : Text}
    (hp : form.fraction ≠ .none) (h : (form.trailingFraction text).taken = []) :
    form.readFraction text = none := by
  cases hf : form.readFraction text with
  | none => rfl
  | some s =>
      rw [trailingFraction_of_some hp hf] at h
      exact absurd h (taken_ne_nil_of_readFraction hf)

theorem readExponent_eq_none_of_taken {form : NumericForm} {s : Split}
    (h : (form.exponentAfter s).taken = []) : form.readExponent s.rest = none := by
  cases he : form.readExponent s.rest with
  | none => rfl
  | some e =>
      rw [exponentAfter_of_some he] at h
      exact absurd h (taken_ne_nil_of_readExponent he)

theorem afterInteger_of_untouched {form : NumericForm} {text : Text}
    (hf : form.trailingFraction text = .untouched text) (he : form.readExponent text = none) :
    form.afterInteger text = ⟨.untouched text, false⟩ := by
  simp [afterInteger, hf, readOptional, he, Split.untouched, Split.following]

def stopsBefore (form : NumericForm) (m : Char) : Bool :=
  match form.markers with
  | none =>
      !form.radix.isDigit m && form.separator != some m && m != '.'
        && !form.exponent.any (·.markers.contains m) && !form.suffixes.integer.contains m
  | some [] => !form.radix.isDigit m && m != '.'
  | some markers => !markers.contains m

theorem readInteger_zero_cons {form : NumericForm} {m : Char} {rest : Text}
    (hd : form.radix.isDigit m = false) (hs : form.separator ≠ some m) :
    form.readInteger ('0' :: m :: rest) = some ⟨['0'], m :: rest⟩ := by
  by_cases hz : form.leadingZero = .forbidden
  · exact readInteger_zero hz _
  · have ht : form.digits.takes m rest = false := by simp [DigitRun.takes, digits, hd, hs]
    have hzero : form.digits.radix.isDigit '0' = true := form.radix.isDigit_zero
    rw [readInteger_eq_scan fun h => hz h.1]
    simp [DigitRun.scan, hzero, DigitRun.more, ht, Split.untouched, Split.following]

theorem readMagnitude_zero_cons {form : NumericForm} {m : Char} {rest : Text}
    (hd : form.radix.isDigit m = false) (hs : form.separator ≠ some m) (hp : m ≠ '.')
    (he : ∀ e, form.exponent = some e → e.markers.contains m = false) :
    form.readMagnitude ('0' :: m :: rest) = some ⟨⟨['0'], m :: rest⟩, false⟩ := by
  have hfraction : form.readFraction (m :: rest) = none := readFraction_of_head? (by simpa using hp)
  have hexponent : form.readExponent (m :: rest) = none :=
    readExponent_of_head? fun e h => by rw [List.head?_cons, Option.any_some, he e h]
  rw [readMagnitude_of_integer (readInteger_zero_cons hd hs),
    afterInteger_of_untouched (trailingFraction_of_none hfraction) hexponent]
  rfl

theorem readMagnitude_cons {form : NumericForm} {m : Char} {rest : Text}
    (hd : form.radix.isDigit m = false) (hp : m ≠ '.') : form.readMagnitude (m :: rest) = none := by
  have hfraction : form.readFraction (m :: rest) = none := readFraction_of_head? (by simpa using hp)
  rw [← Option.not_isSome_iff_eq_none, isSome_readMagnitude]
  simp [hd, withoutInteger, hfraction]

theorem scan_zero_cons {form : NumericForm} {m : Char} {rest : Text} (hm : form.markers = none)
    (h : form.stopsBefore m = true) : form.scan ('0' :: m :: rest) = some ⟨['0'], m :: rest⟩ := by
  simp only [stopsBefore, hm, Bool.and_eq_true, Bool.not_eq_true', bne_iff_ne] at h
  obtain ⟨⟨⟨⟨hd, hsep⟩, hpoint⟩, hexponent⟩, hsuffix⟩ := h
  have he (e : Exponent) (he : form.exponent = some e) : e.markers.contains m = false := by
    simpa [he] using hexponent
  have hread : form.suffixes.read false (m :: rest) = .untouched (m :: rest) := by
    refine Suffixes.read_of_head? ?_
    rw [List.head?_cons, Option.any_some, Suffixes.letters]
    exact hsuffix
  simp only [scan, readMarker, hm, Option.bind_some, Split.untouched,
    readMagnitude_zero_cons hd hsep hpoint he, Option.map_some, hread]
  rfl

theorem scan_eq_none_of_stopsBefore {form : NumericForm} {m : Char} (hp : form.isPrefixed = true)
    (h : form.stopsBefore m = true) (rest : Text) : form.scan ('0' :: m :: rest) = none := by
  obtain ⟨markers, hm⟩ := Option.isSome_iff_exists.mp hp
  cases markers with
  | nil =>
      simp only [stopsBefore, hm, Bool.and_eq_true, Bool.not_eq_true', bne_iff_ne] at h
      simp [scan, readMarker, hm, readMagnitude_cons h.1 h.2]
  | cons c markers =>
      simp only [stopsBefore, hm, Bool.not_eq_true'] at h
      simp only [scan, readMarker, hm, h, Bool.false_eq_true, if_false, Option.bind_none]

theorem taken_of_stopsBefore {form : NumericForm} {m : Char} {rest : Text} {s : Split}
    (h : form.stopsBefore m = true) (hs : form.scan ('0' :: m :: rest) = some s) :
    s.taken = ['0'] := by
  cases hp : form.isPrefixed with
  | false =>
      have hm : form.markers = none := by simpa [isPrefixed] using hp
      obtain rfl := Option.some.inj ((scan_zero_cons hm h).symm.trans hs)
      rfl
  | true =>
      rw [scan_eq_none_of_stopsBefore hp h rest] at hs
      simp at hs

def outranks (earlier later : NumericForm) : Bool :=
  match earlier.markers with
  | none | some [] => false
  | some markers => markers.all later.stopsBefore

theorem taken_of_outranks {earlier later : NumericForm} (h : earlier.outranks later = true)
    {text : Text} {s t : Split} (hs : earlier.scan text = some s) (ht : later.scan text = some t) :
    t.taken = ['0'] := by
  obtain ⟨marker, hk, _⟩ := Option.bind_eq_some_iff.mp hs
  rcases readMarker_cases hk with ⟨hm, _⟩ | ⟨hm, _⟩ | ⟨markers, m, hm, hmem, rfl, _⟩
  · simp [outranks, hm] at h
  · simp [outranks, hm] at h
  · have hall : markers.all later.stopsBefore = true := by
      cases markers with
      | nil => simp at hmem
      | cons c markers => simpa only [outranks, hm] using h
    exact taken_of_stopsBefore (List.all_eq_true.mp hall m hmem) ht

def ReadsAsFar (text : Text) (earlier later : NumericForm) : Prop :=
  ∀ s t, earlier.scan text = some s → later.scan text = some t → width t.taken ≤ width s.taken

theorem readsAsFar_of_outranks {earlier later : NumericForm} (h : earlier.outranks later = true)
    (text : Text) : ReadsAsFar text earlier later := by
  intro s t hs ht
  rw [taken_of_outranks h hs ht]
  exact width_pos_of_ne_nil (taken_ne_nil_of_scan hs)

end NumericForm

namespace NumberGrammar

theorem width_le_of_firstForm? {forms : List NumericForm} {body : Text} {form : NumericForm}
    {s : Split} (h : firstForm? forms body = some (form, s))
    (hp : forms.Pairwise (NumericForm.ReadsAsFar body)) :
    ∀ e ∈ forms, ∀ t, e.scan body = some t → width t.taken ≤ width s.taken := by
  have hform := (scan_of_firstForm? h).2
  obtain ⟨a, _, ha, hfirst⟩ := first_of_findSome? hp h
  obtain ⟨_, _, he⟩ := Option.map_eq_some_iff.mp ha
  obtain ⟨rfl, _⟩ := Prod.mk.injEq .. ▸ he
  intro e hm t ht
  rcases hfirst e hm (by rw [ht]; rfl) with rfl | hfar
  · obtain rfl := Option.some.inj (hform.symm.trans ht)
    exact Nat.le_refl _
  · exact hfar s t hform ht

def signAt (g : NumberGrammar) (text : Text) (offset : Nat) : Split :=
  g.readSign (Cursor.ofOffset text offset).rest

def endOf? (g : NumberGrammar) (text : Text) (offset : Nat) (form : NumericForm) : Option Nat :=
  (form.scan (g.signAt text offset).rest).map fun s =>
    (Cursor.ofOffset text offset).position + width ((g.signAt text offset).taken ++ s.taken)

def ends (g : NumberGrammar) (text : Text) (offset : Nat) : Set Nat :=
  {n | ∃ form ∈ g.forms, g.endOf? text offset form = some n}

theorem probe_eq_firstForm? (g : NumberGrammar) (text : Text) (offset : Nat) :
    probe g.scan text offset = (firstForm? g.forms (g.signAt text offset).rest).map fun (_, s) =>
      ⟨offset, (Cursor.ofOffset text offset).position +
        width ((g.signAt text offset).taken ++ s.taken), true⟩ := by
  simp only [probe, scan, commitment?, Option.map_map]
  rfl

theorem isSome_probe_iff (g : NumberGrammar) (text : Text) (offset : Nat) :
    (probe g.scan text offset).isSome = true ↔ ∃ form ∈ g.forms,
      (g.endOf? text offset form).isSome = true := by
  simp only [probe_eq_firstForm?, Option.isSome_map, firstForm?, List.findSome?_isSome_iff, endOf?]

theorem isGreatest_ends_iff {g : NumberGrammar} {text : Text} {offset : Nat} {form : NumericForm}
    {s : Split} (h : firstForm? g.forms (g.signAt text offset).rest = some (form, s)) :
    IsGreatest (g.ends text offset)
        ((Cursor.ofOffset text offset).position + width ((g.signAt text offset).taken ++ s.taken)) ↔
      ∀ e ∈ g.forms, ∀ t, e.scan (g.signAt text offset).rest = some t →
        width t.taken ≤ width s.taken := by
  obtain ⟨hm, hs⟩ := scan_of_firstForm? h
  constructor
  · intro hgreatest e he t ht
    have hle := hgreatest.2 ⟨e, he, by rw [endOf?, ht, Option.map_some]⟩
    simp only [width_append] at hle
    omega
  · intro hle
    refine ⟨⟨form, hm, by rw [endOf?, hs, Option.map_some]⟩, ?_⟩
    rintro n ⟨e, he, hn⟩
    obtain ⟨t, ht, rfl⟩ := Option.map_eq_some_iff.mp hn
    have hw := hle e he t ht
    simp only [width_append]
    omega

end NumberGrammar

namespace C

def hexadecimal : NumericForm :=
  { NumericForm.hexadecimalFloat with strictFloat := false, suffixes := typeSuffixes }

def octal : NumericForm := { NumericForm.legacyOctal with suffixes := typeSuffixes }

def decimal : NumericForm := { NumericForm.decimal with suffixes := typeSuffixes }

theorem forms_numbers : numbers.forms = [hexadecimal, octal, decimal] := rfl

def resumesDecimal (rest : Text) : Bool :=
  !(decimal.digits.more rest).taken.isEmpty || (decimal.readFraction rest).isSome
    || (decimal.readExponent rest).isSome

def cutsShort : Text → Bool
  | '0' :: rest =>
      let digits := readWhile Radix.octal.isDigit rest
      !digits.taken.isEmpty && resumesDecimal digits.rest
  | _ => false

theorem octal_scan (rest : Text) :
    octal.scan ('0' :: rest) =
      if (readWhile Radix.octal.isDigit rest).taken = [] then none
      else some ((typeSuffixes.read false (readWhile Radix.octal.isDigit rest).rest).following
        ('0' :: (readWhile Radix.octal.isDigit rest).taken)) := by
  have hmarker : octal.readMarker ('0' :: rest) = some ⟨['0'], rest⟩ := rfl
  have hradix : octal.digits.radix = .octal := rfl
  have hinteger : octal.readInteger rest = _ := DigitRun.scan_of_no_separator rfl rest
  rw [hradix] at hinteger
  rw [NumericForm.scan, hmarker, Option.bind_some]
  by_cases hd : (readWhile Radix.octal.isDigit rest).taken = []
  · rw [if_pos hd] at hinteger ⊢
    rw [NumericForm.readMagnitude_of_no_integer hinteger]
    rfl
  · have hafter (left : Text) : octal.afterInteger left = ⟨.untouched left, false⟩ := rfl
    rw [if_neg hd] at hinteger ⊢
    simp only [NumericForm.readMagnitude_of_integer hinteger, hafter, Option.map_some]
    simp [Split.following, Split.untouched, octal]

theorem exists_zero_of_octal_scan {body : Text} {s : Split} (h : octal.scan body = some s) :
    ∃ rest, body = '0' :: rest := by
  have hreads : octal.reads body = true := by rw [NumericForm.reads, h]; rfl
  obtain ⟨c, rest, rfl⟩ := NumericForm.exists_cons_of_isPrefixed rfl hreads
  exact ⟨_, rfl⟩

theorem decimal_scan {digits : Text} (hd : ∀ c ∈ digits, Radix.octal.isDigit c = true)
    (rest : Text) :
    decimal.scan ('0' :: (digits ++ rest)) =
      let more := decimal.digits.more rest
      let magnitude := decimal.afterInteger more.rest
      some ((typeSuffixes.read magnitude.isFloat magnitude.split.rest).following
        ('0' :: (digits ++ (more.taken ++ magnitude.split.taken)))) := by
  have hdecimal : ∀ c ∈ digits, decimal.digits.radix.isDigit c = true :=
    fun c hc => Radix.isDigit_mono (by decide) (hd c hc)
  have hmore := DigitRun.more_append_digits hdecimal rest
  have hinteger : decimal.readInteger ('0' :: (digits ++ rest)) =
      some ((decimal.digits.more (digits ++ rest)).following ['0']) := rfl
  rw [hmore] at hinteger
  have hmarker : decimal.readMarker ('0' :: (digits ++ rest)) =
    some (.untouched ('0' :: (digits ++ rest))) := rfl
  rw [NumericForm.scan, hmarker, Option.bind_some, Split.untouched,
    NumericForm.readMagnitude_of_integer hinteger]
  simp [decimal, Split.following]

theorem apart_of_mem_typeSuffixes {c : Char} (h : c ∈ typeSuffixes.integer) :
    Radix.decimal.isDigit c = false ∧ c ≠ '_' ∧ c ≠ '.' ∧ c ≠ 'e' ∧ c ≠ 'E' := by
  have hall : (typeSuffixes.integer.all fun c =>
      !Radix.decimal.isDigit c && (c != '_' && (c != '.' && (c != 'e' && c != 'E')))) = true := by
    decide
  have hc := List.all_eq_true.mp hall c h
  simpa only [Bool.and_eq_true, Bool.not_eq_true', bne_iff_ne] using hc

theorem head?_of_resumesDecimal {rest : Text} (h : resumesDecimal rest = true) :
    rest.head?.any typeSuffixes.integer.contains = false := by
  cases rest with
  | nil => rfl
  | cons c rest =>
      rw [List.head?_cons, Option.any_some, ← Bool.not_eq_true, List.contains_iff_mem]
      intro hm
      obtain ⟨hdigit, hseparator, hpoint, he, hE⟩ := apart_of_mem_typeSuffixes hm
      have htakes : decimal.digits.takes c rest = false := by
        simp [DigitRun.takes, NumericForm.digits, decimal, NumericForm.decimal, hdigit,
          Ne.symm hseparator]
      have hmore : decimal.digits.more (c :: rest) = .untouched (c :: rest) := by
        simp only [DigitRun.more, htakes, Bool.false_eq_true, if_false]
      have hfraction : decimal.readFraction (c :: rest) = none :=
        NumericForm.readFraction_of_head? (by simpa using hpoint)
      have hexponent : decimal.readExponent (c :: rest) = none := by
        refine NumericForm.readExponent_of_head? fun e hform => ?_
        obtain rfl : Exponent.decimal = e := Option.some.inj hform
        simp [Exponent.decimal, he, hE]
      simp [resumesDecimal, hmore, hfraction, hexponent, Split.untouched] at h

theorem afterInteger_of_resumesDecimal {rest : Text} (h : resumesDecimal rest = true) :
    (decimal.digits.more rest).taken ++
      (decimal.afterInteger (decimal.digits.more rest).rest).split.taken ≠ [] := by
  intro hnil
  obtain ⟨hmore, hafter⟩ := List.append_eq_nil_iff.mp hnil
  have huntouched := NumericForm.eq_untouched_of_taken (decimal.digits.whole_more rest) hmore
  have htorn : decimal.isTorn rest = false := rfl
  rw [huntouched, Split.untouched, NumericForm.afterInteger_of_not_isTorn htorn,
    Split.taken_following] at hafter
  obtain ⟨hfraction, hexponent⟩ := List.append_eq_nil_iff.mp hafter
  have hnoFraction := NumericForm.readFraction_eq_none_of_taken (by decide) hfraction
  rw [NumericForm.trailingFraction_of_none hnoFraction] at hexponent
  have hnoExponent := NumericForm.readExponent_eq_none_of_taken hexponent
  rw [Split.untouched] at hnoExponent
  simp [resumesDecimal, hmore, hnoFraction, hnoExponent] at h

theorem decimal_scan_of_not_resumesDecimal {digits rest : Text}
    (hd : ∀ c ∈ digits, Radix.octal.isDigit c = true) (h : resumesDecimal rest = false) :
    decimal.scan ('0' :: (digits ++ rest)) =
      some ((typeSuffixes.read false rest).following ('0' :: digits)) := by
  simp only [resumesDecimal, Bool.or_eq_false_iff, Bool.not_eq_false', List.isEmpty_iff,
    Option.isSome_eq_false_iff, Option.isNone_iff_eq_none] at h
  obtain ⟨⟨hmore, hfraction⟩, hexponent⟩ := h
  have huntouched := NumericForm.eq_untouched_of_taken (decimal.digits.whole_more rest) hmore
  have htrailing := NumericForm.trailingFraction_of_none hfraction
  have hafter := NumericForm.afterInteger_of_untouched htrailing hexponent
  simp only [decimal_scan hd, huntouched, Split.untouched, hafter, List.append_nil]

theorem width_decimal_le_iff {body : Text} {s t : Split} (hs : octal.scan body = some s)
    (ht : decimal.scan body = some t) :
    width t.taken ≤ width s.taken ↔ cutsShort body = false := by
  obtain ⟨rest, rfl⟩ := exists_zero_of_octal_scan hs
  rw [octal_scan] at hs
  have hdigits := all_taken_readWhile Radix.octal.isDigit rest
  have hrest := whole_readWhile Radix.octal.isDigit rest
  simp only [cutsShort]
  generalize readWhile Radix.octal.isDigit rest = digits at hs hdigits hrest ⊢
  rw [← hrest, Split.whole] at ht
  split at hs
  · simp at hs
  · next hne =>
    obtain rfl := Option.some.inj hs
    have hne' : digits.taken.isEmpty = false := List.isEmpty_eq_false_iff.mpr hne
    rw [hne', Bool.not_false, Bool.true_and]
    cases h : resumesDecimal digits.rest with
    | false =>
        rw [decimal_scan_of_not_resumesDecimal hdigits h] at ht
        obtain rfl := Option.some.inj ht
        simp
    | true =>
        have hpos := width_pos_of_ne_nil (afterInteger_of_resumesDecimal h)
        rw [decimal_scan hdigits] at ht
        obtain rfl := Option.some.inj ht
        have hsuffix : typeSuffixes.read false digits.rest = .untouched digits.rest :=
          Suffixes.read_of_head? (head?_of_resumesDecimal h)
        simp [hsuffix, Split.untouched] at hpos ⊢
        omega

theorem pairwise_of_not_cutsShort {body : Text} (h : cutsShort body = false) :
    numbers.forms.Pairwise (NumericForm.ReadsAsFar body) := by
  have hoctal : hexadecimal.outranks octal = true := by decide
  have hdecimal : hexadecimal.outranks decimal = true := by decide
  simp only [forms_numbers, List.pairwise_cons, List.mem_cons, forall_eq_or_imp, List.not_mem_nil,
    false_implies, implies_true, and_true, List.Pairwise.nil]
  exact ⟨⟨NumericForm.readsAsFar_of_outranks hoctal body,
    NumericForm.readsAsFar_of_outranks hdecimal body⟩,
    fun _ _ hs ht => (width_decimal_le_iff hs ht).mpr h⟩

theorem exists_zero_of_cutsShort {body : Text} (h : cutsShort body = true) :
    ∃ rest, body = '0' :: rest ∧ (readWhile Radix.octal.isDigit rest).taken ≠ [] := by
  simp only [cutsShort] at h
  split at h
  · next rest =>
    simp only [Bool.and_eq_true, Bool.not_eq_true', List.isEmpty_eq_false_iff] at h
    exact ⟨rest, rfl, h.1⟩
  · simp at h

theorem firstForm?_of_cutsShort {body : Text} (h : cutsShort body = true) :
    ∃ s t, NumberGrammar.firstForm? numbers.forms body = some (octal, s) ∧
      octal.scan body = some s ∧ decimal.scan body = some t := by
  obtain ⟨rest, rfl, hdigits⟩ := exists_zero_of_cutsShort h
  have hoctal := octal_scan rest
  rw [if_neg hdigits] at hoctal
  have hreads : decimal.reads ('0' :: rest) = true := NumericForm.reads_of_not_isPrefixed rfl rest
  obtain ⟨t, ht⟩ := Option.isSome_iff_exists.mp hreads
  refine ⟨_, t, ?_, hoctal, ht⟩
  cases hhex : hexadecimal.scan ('0' :: rest) with
  | none => simp [NumberGrammar.firstForm?, forms_numbers, hhex, hoctal]
  | some s =>
      -- Behind a marker the octal form would stop after the zero.
      have hzero := NumericForm.taken_of_outranks (by decide) hhex hoctal
      simp [hdigits] at hzero

theorem width_le_iff_of_firstForm? {body : Text} {form : NumericForm} {s : Split}
    (h : NumberGrammar.firstForm? numbers.forms body = some (form, s)) :
    (∀ e ∈ numbers.forms, ∀ t, e.scan body = some t → width t.taken ≤ width s.taken) ↔
      cutsShort body = false := by
  constructor
  · intro hle
    rw [← Bool.not_eq_true]
    intro hcut
    obtain ⟨o, t, ho, hoctal, hdecimal⟩ := firstForm?_of_cutsShort hcut
    obtain ⟨rfl, rfl⟩ := Prod.mk.injEq .. ▸ Option.some.inj (h.symm.trans ho)
    have hshort := (width_decimal_le_iff hoctal hdecimal).mp (hle decimal (by decide) t hdecimal)
    rw [hcut] at hshort
    simp at hshort
  · intro hcut
    exact NumberGrammar.width_le_of_firstForm? h (pairwise_of_not_cutsShort hcut)

end C

namespace Language

theorem pairwise_outranks {l : Language} (h : l ≠ .c) :
    l.configuration.numbers.forms.Pairwise fun earlier later => earlier.outranks later = true := by
  cases l with
  | c => exact absurd rfl h
  | _ => decide

theorem isGreatest_numberEnd_iff (l : Language) (text : Text) (offset : Nat) :
    ((probe l.configuration.numbers.scan text offset).isSome = true ↔
      ∃ form ∈ l.configuration.numbers.forms,
        (l.configuration.numbers.endOf? text offset form).isSome = true) ∧
    ∀ span, probe l.configuration.numbers.scan text offset = some span →
      (IsGreatest (l.configuration.numbers.ends text offset) span.stop ↔
        ¬ (l = .c ∧ C.cutsShort (C.numbers.signAt text offset).rest = true)) := by
  refine ⟨NumberGrammar.isSome_probe_iff _ text offset, fun span h => ?_⟩
  rw [NumberGrammar.probe_eq_firstForm?] at h
  obtain ⟨⟨form, s⟩, hfirst, rfl⟩ := Option.map_eq_some_iff.mp h
  rw [NumberGrammar.isGreatest_ends_iff hfirst]
  by_cases hl : l = .c
  · subst hl
    rw [and_iff_right rfl, Bool.not_eq_true]
    exact C.width_le_iff_of_firstForm? hfirst
  · refine iff_of_true ?_ fun hc => hl hc.1
    exact NumberGrammar.width_le_of_firstForm? hfirst
      ((pairwise_outranks hl).imp fun hab => NumericForm.readsAsFar_of_outranks hab _)

theorem c_decimal_isGreatest :
    probe C.numbers.scan ['0', '8', '.', '5'] 0 = some ⟨0, 4, true⟩ ∧
      IsGreatest (C.numbers.ends ['0', '8', '.', '5'] 0) 4 := by
  have h : probe C.numbers.scan ['0', '8', '.', '5'] 0 = some ⟨0, 4, true⟩ := by decide
  exact ⟨h, ((isGreatest_numberEnd_iff .c _ 0).2 _ h).mpr (by decide)⟩

theorem c_octal_not_isGreatest :
    probe C.numbers.scan ['0', '1', '.', '5'] 0 = some ⟨0, 2, true⟩ ∧
      ¬ IsGreatest (C.numbers.ends ['0', '1', '.', '5'] 0) 2 := by
  refine ⟨by decide, fun h => ?_⟩
  have hdecimal : 4 ∈ C.numbers.ends ['0', '1', '.', '5'] 0 := ⟨C.decimal, by decide, by decide⟩
  exact absurd (h.2 hdecimal) (by decide)

end Language

end LexicalGrammar
