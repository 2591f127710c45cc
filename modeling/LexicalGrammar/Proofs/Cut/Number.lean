import LexicalGrammar.Number.Grammar
import LexicalGrammar.Proofs.Cut.Basic

namespace LexicalGrammar

namespace DigitRun

theorem takes_eq_false_of_append {run : DigitRun} {c : Char} {front back : Text}
    (h : run.takes c (front ++ back) = false) : run.takes c front = false := by
  simp only [takes, Bool.or_eq_false_iff, Bool.and_eq_false_imp] at h ⊢
  exact ⟨h.1, fun hs => head?_any_of_append (h.2 hs)⟩

theorem takes_append_of_ne_nil {run : DigitRun} {c : Char} {front : Text} (h : front ≠ [])
    (back : Text) : run.takes c (front ++ back) = run.takes c front := by
  cases front with
  | nil => exact absurd rfl h
  | cons d front => simp [takes]

theorem takes_more_append {run : DigitRun} {c : Char} {rest : Text} (h : run.takes c rest = true)
    (front : Text) : run.takes c ((run.more rest).taken ++ front) = true := by
  simp only [takes, Bool.or_eq_true, Bool.and_eq_true] at h ⊢
  rcases h with hc | ⟨hs, hd⟩
  · exact Or.inl hc
  · refine Or.inr ⟨hs, ?_⟩
    cases rest with
    | nil => simp at hd
    | cons d rest =>
        have ht : run.takes d rest = true := by
          simp only [takes, Bool.or_eq_true]
          exact Or.inl (by simpa using hd)
        simpa [more, ht] using hd

theorem runStable_more (run : DigitRun) : RunStable run.more := by
  intro text
  induction text with
  | nil =>
      intro front back hr
      have hf : front = [] := (List.append_eq_nil_iff.mp hr.symm).1
      subst hf
      rfl
  | cons c rest ih =>
      intro front back hr
      cases ht : run.takes c rest with
      | true =>
          simp only [more, ht, if_true, Split.rest_following, Split.taken_following] at hr ⊢
          have hk := takes_more_append ht front
          simp only [List.cons_append, List.nil_append, more, hk, if_true, ih hr]
          rfl
      | false =>
          simp only [more, ht, Bool.false_eq_true, if_false, Split.untouched] at hr ⊢
          cases front with
          | nil => rfl
          | cons d front =>
              obtain ⟨rfl, rfl⟩ := List.cons.inj hr
              simp [more, takes_eq_false_of_append ht, Split.untouched]

theorem partStable_scan (run : DigitRun) : PartStable run.scan where
  keeps := by
    intro text front back s hs hr
    cases text with
    | nil => simp [scan] at hs
    | cons c rest =>
        simp only [scan] at hs
        split at hs
        · next hc =>
          obtain rfl := Option.some.inj hs
          have hm := run.runStable_more (show (run.more rest).rest = _ from hr)
          simp only [Split.taken_following, List.cons_append, List.nil_append, scan, hc, if_true, hm]
          rfl
        · simp at hs
  refuses := by
    intro front back hn
    cases front with
    | nil => rfl
    | cons c front => simpa [scan] using hn

theorem more_append {run : DigitRun} {text : Text} (h : 2 ≤ (run.more text).rest.length)
    (back : Text) :
    run.more (text ++ back) = ⟨(run.more text).taken, (run.more text).rest ++ back⟩ := by
  induction text with
  | nil => simp [more, Split.untouched] at h
  | cons c rest ih =>
      cases ht : run.takes c rest with
      | true =>
          simp only [more, ht, if_true, Split.rest_following, Split.taken_following] at h ⊢
          have hr : rest ≠ [] := by
            rintro rfl
            simp [more, Split.untouched] at h
          have hk := (takes_append_of_ne_nil hr back).trans ht
          simp only [List.cons_append, more, hk, if_true, ih h]
          rfl
      | false =>
          simp only [more, ht, Bool.false_eq_true, if_false, Split.untouched, List.length_cons] at h ⊢
          have hr : rest ≠ [] := by
            rintro rfl
            simp at h
          have hk := (takes_append_of_ne_nil hr back).trans ht
          simp only [List.cons_append, more, hk, Bool.false_eq_true, if_false, Split.untouched]

theorem scan_append {run : DigitRun} {text : Text} {s : Split} (hs : run.scan text = some s)
    (h : 2 ≤ s.rest.length) (back : Text) :
    run.scan (text ++ back) = some ⟨s.taken, s.rest ++ back⟩ := by
  cases text with
  | nil => simp [scan] at hs
  | cons c rest =>
      simp only [scan] at hs
      split at hs
      · next hc =>
        obtain rfl := Option.some.inj hs
        simp only [List.cons_append, scan, hc, if_true, more_append h back]
        rfl
      · simp at hs

end DigitRun

namespace Exponent

theorem runStable_readSign (e : Exponent) : RunStable e.readSign := runStable_readOne _

theorem readSign_cons_append (e : Exponent) (c : Char) (front back : Text) :
    e.readSign (c :: front ++ back) =
      ⟨(e.readSign (c :: front)).taken, (e.readSign (c :: front)).rest ++ back⟩ :=
  readOne_cons_append _ c front back

theorem partStable_scan (e : Exponent) : PartStable e.scan where
  keeps := by
    intro text front back s hs hr
    cases text with
    | nil => simp [scan] at hs
    | cons c rest =>
        simp only [scan] at hs
        split at hs
        · next hc =>
          obtain ⟨d, hd, rfl⟩ := Option.map_eq_some_iff.mp hs
          rw [Split.rest_following] at hr
          have hsign := e.runStable_readSign (Split.eq_cut (DigitRun.whole_of_scan hd) hr)
          have hdigits := e.digits.partStable_scan.keeps hd hr
          simp only [Split.taken_following, List.cons_append, List.append_assoc, scan, hc, if_true,
            hsign, hdigits, Option.map_some]
          simp [Split.following]
        · simp at hs
  refuses := by
    intro front back hn
    cases front with
    | nil => rfl
    | cons c front =>
        simp only [List.cons_append, scan] at hn ⊢
        split at hn
        · next hc =>
          simp only [hc, if_true, Option.map_eq_none_iff] at hn ⊢
          cases front with
          | nil => rfl
          | cons d front =>
              rw [readSign_cons_append] at hn
              exact e.digits.partStable_scan.refuses back hn
        · next hc => rw [if_neg hc]

theorem taken_ne_nil_of_scan {e : Exponent} {text : Text} {s : Split}
    (h : e.scan text = some s) : s.taken ≠ [] := by
  cases text with
  | nil => simp [scan] at h
  | cons c rest =>
      simp only [scan] at h
      split at h
      · obtain ⟨d, _, rfl⟩ := Option.map_eq_some_iff.mp h
        simp
      · simp at h

theorem two_le_length_of_scan {e : Exponent} {text : Text} {s : Split} (h : e.scan text = some s) :
    2 ≤ text.length := by
  cases text with
  | nil => simp [scan] at h
  | cons c rest =>
      cases rest with
      | nil => simp [scan, readSign, readOne, DigitRun.scan, Split.untouched] at h
      | cons d rest => simp

end Exponent

namespace Suffixes

theorem runStable_read (s : Suffixes) (isFloat : Bool) : RunStable (s.read isFloat) := by
  unfold read
  split
  · exact runStable_readWhile _
  · exact runStable_readOne _

end Suffixes

namespace NumericForm

theorem readMarker_taken_append {form : NumericForm} {text : Text} {s : Split}
    (h : form.readMarker text = some s) (rest : Text) :
    form.readMarker (s.taken ++ rest) = some ⟨s.taken, rest⟩ := by
  simp only [readMarker] at h
  split at h
  · next hm =>
    obtain rfl := Option.some.inj h
    simp [readMarker, hm, Split.untouched]
  · next hm =>
    obtain rfl := Option.some.inj h
    simp [readMarker, hm]
  · next hm =>
    split at h
    · next hc =>
      obtain rfl := Option.some.inj h
      simpa [readMarker, hm] using hc
    · simp at h
  · simp at h

theorem readMarker_append {form : NumericForm} {text : Text} {s : Split}
    (h : form.readMarker text = some s) (back : Text) :
    form.readMarker (text ++ back) = some ⟨s.taken, s.rest ++ back⟩ := by
  rw [← whole_of_readMarker h, Split.whole, List.append_assoc]
  exact readMarker_taken_append h _

theorem readInteger_zero {form : NumericForm} (h : form.leadingZero = .forbidden) (rest : Text) :
    form.readInteger ('0' :: rest) = some ⟨['0'], rest⟩ := by
  simp [readInteger, h]

theorem readInteger_eq_scan {form : NumericForm} {text : Text}
    (h : ¬(form.leadingZero = .forbidden ∧ text.head? = some '0')) :
    form.readInteger text = form.digits.scan text := by
  simp only [readInteger]
  split
  · next hz => exact absurd ⟨hz, rfl⟩ h
  · rfl

theorem partStable_readInteger (form : NumericForm) : PartStable form.readInteger where
  keeps := by
    intro text front back s hs hr
    by_cases hz : form.leadingZero = .forbidden ∧ text.head? = some '0'
    · obtain ⟨hz, ht⟩ := hz
      obtain ⟨rest, rfl⟩ := List.head?_eq_some_iff.mp ht
      rw [readInteger_zero hz] at hs
      obtain rfl := Option.some.inj hs
      exact readInteger_zero hz front
    · rw [readInteger_eq_scan hz] at hs
      have hn := DigitRun.taken_ne_nil_of_scan hs
      have hh : (s.taken ++ front).head? = text.head? := by
        rw [← DigitRun.whole_of_scan hs, Split.whole]
        obtain ⟨c, taken, ht⟩ := List.exists_cons_of_ne_nil hn
        simp [ht]
      rw [readInteger_eq_scan (by rwa [hh])]
      exact form.digits.partStable_scan.keeps hs hr
  refuses := by
    intro front back hn
    cases front with
    | nil => simp [readInteger, DigitRun.scan]
    | cons c front =>
        by_cases hz : form.leadingZero = .forbidden ∧ c = '0'
        · obtain ⟨hz, rfl⟩ := hz
          rw [List.cons_append, readInteger_zero hz] at hn
          simp at hn
        · rw [readInteger_eq_scan (by simpa using hz)] at hn ⊢
          exact form.digits.partStable_scan.refuses back hn

theorem partStable_readFraction (form : NumericForm) : PartStable form.readFraction where
  keeps := by
    intro text front back s hs hr
    simp only [readFraction] at hs
    split at hs
    · obtain ⟨d, hd, rfl⟩ := Option.map_eq_some_iff.mp hs
      have hk := form.digits.partStable_scan.keeps hd hr
      simp [readFraction, hk, Split.following]
    · simp at hs
  refuses := by
    intro front back hn
    simp only [readFraction]
    split
    · rw [List.cons_append] at hn
      simp only [readFraction, Option.map_eq_none_iff] at hn ⊢
      exact form.digits.partStable_scan.refuses back hn
    · rfl

theorem readFraction_append {form : NumericForm} {text : Text} {s : Split}
    (hs : form.readFraction text = some s) (h : 2 ≤ s.rest.length) (back : Text) :
    form.readFraction (text ++ back) = some ⟨s.taken, s.rest ++ back⟩ := by
  simp only [readFraction] at hs
  split at hs
  · obtain ⟨d, hd, rfl⟩ := Option.map_eq_some_iff.mp hs
    have ha := DigitRun.scan_append hd h back
    simp [readFraction, ha, Split.following]
  · simp at hs

theorem partStable_readExponent (form : NumericForm) : PartStable form.readExponent := by
  unfold readExponent
  cases form.exponent with
  | none => exact ⟨by simp, by simp⟩
  | some e =>
      simp only [Option.bind_some]
      exact e.partStable_scan

theorem two_le_length_of_readExponent {form : NumericForm} {text : Text} {s : Split}
    (h : form.readExponent text = some s) : 2 ≤ text.length := by
  obtain ⟨e, _, he⟩ := Option.bind_eq_some_iff.mp h
  exact Exponent.two_le_length_of_scan he

theorem fraction_exponent_append {form : NumericForm} {text : Text} {fraction exponent : Split}
    (hf : form.readFraction text = some fraction)
    (he : form.readExponent fraction.rest = some exponent) (back : Text) :
    ∃ rest e, form.readFraction (text ++ back) = some ⟨fraction.taken, rest⟩ ∧
      form.readExponent rest = some e := by
  have hl := two_le_length_of_readExponent he
  obtain ⟨e, he'⟩ := form.partStable_readExponent.exists_of_append he back
  exact ⟨fraction.rest ++ back, e, readFraction_append hf hl back, he'⟩

theorem taken_ne_nil_of_readExponent {form : NumericForm} {text : Text} {s : Split}
    (h : form.readExponent text = some s) : s.taken ≠ [] := by
  obtain ⟨e, _, he⟩ := Option.bind_eq_some_iff.mp h
  exact Exponent.taken_ne_nil_of_scan he

theorem runStable_trailingFraction (form : NumericForm) : RunStable form.trailingFraction := by
  intro text front back hr
  by_cases hp : form.fraction = .none
  · simp only [trailingFraction, if_pos hp, Split.untouched] at hr ⊢
    rfl
  · simp only [trailingFraction, if_neg hp] at hr ⊢
    exact runStable_readOptional form.partStable_readFraction hr

def exponentAfter (form : NumericForm) (fraction : Split) : Split :=
  readOptional form.readExponent fraction.rest

def isTorn (form : NumericForm) (text : Text) : Bool :=
  let fraction := form.trailingFraction text
  form.strictFloat && (!fraction.taken.isEmpty) != (!(form.exponentAfter fraction).taken.isEmpty)

theorem isTorn_eq_false_iff {form : NumericForm} {text : Text} :
    form.isTorn text = false ↔ (form.strictFloat = true →
      ((form.trailingFraction text).taken = [] ↔
        (form.exponentAfter (form.trailingFraction text)).taken = [])) := by
  simp only [isTorn, ← List.isEmpty_iff]
  cases form.strictFloat <;> cases List.isEmpty (form.trailingFraction text).taken <;>
    cases List.isEmpty (form.exponentAfter (form.trailingFraction text)).taken <;> simp

theorem afterInteger_of_isTorn {form : NumericForm} {text : Text} (h : form.isTorn text = true) :
    form.afterInteger text = ⟨.untouched text, false⟩ := by
  simp only [isTorn, exponentAfter] at h
  simp only [afterInteger, h, if_true]

theorem afterInteger_of_not_isTorn {form : NumericForm} {text : Text}
    (h : form.isTorn text = false) :
    form.afterInteger text =
      ⟨(form.exponentAfter (form.trailingFraction text)).following (form.trailingFraction text).taken,
        !(form.trailingFraction text).taken.isEmpty
          || !(form.exponentAfter (form.trailingFraction text)).taken.isEmpty⟩ := by
  simp only [isTorn, exponentAfter] at h
  simp only [afterInteger, h, Bool.false_eq_true, if_false, exponentAfter]

theorem readFraction_of_trailingFraction {form : NumericForm} {text : Text}
    (h : (form.trailingFraction text).taken ≠ []) :
    form.fraction ≠ .none ∧ form.readFraction text = some (form.trailingFraction text) := by
  by_cases hp : form.fraction = .none
  · simp [trailingFraction, hp, Split.untouched] at h
  · refine ⟨hp, ?_⟩
    cases hf : form.readFraction text with
    | none => simp [trailingFraction, hp, readOptional, hf, Split.untouched] at h
    | some s => simp [trailingFraction, hp, readOptional, hf]

theorem readExponent_of_exponentAfter {form : NumericForm} {s : Split}
    (h : (form.exponentAfter s).taken ≠ []) :
    form.readExponent s.rest = some (form.exponentAfter s) := by
  cases he : form.readExponent s.rest with
  | none => simp [exponentAfter, readOptional, he, Split.untouched] at h
  | some e => simp [exponentAfter, readOptional, he]

theorem trailingFraction_of_some {form : NumericForm} {text : Text} {s : Split}
    (hp : form.fraction ≠ .none) (h : form.readFraction text = some s) :
    form.trailingFraction text = s := by
  simp [trailingFraction, hp, readOptional, h]

theorem exponentAfter_of_some {form : NumericForm} {s e : Split}
    (h : form.readExponent s.rest = some e) : form.exponentAfter s = e := by
  simp [exponentAfter, readOptional, h]

theorem eq_untouched_of_taken {s : Split} {text : Text} (hw : s.whole = text)
    (ht : s.taken = []) : s = .untouched text := by
  obtain ⟨taken, rest⟩ := s
  simp only [Split.whole] at hw ht
  subst ht
  simpa [Split.untouched] using hw

theorem whole_exponentAfter_rest (form : NumericForm) (s : Split) :
    (form.exponentAfter s).whole = s.rest :=
  whole_readOptional fun _ he => whole_of_readExponent he

theorem exponentAfter_keeps {form : NumericForm} {fraction : Split} {front back : Text}
    (hr : (form.exponentAfter fraction).rest = front ++ back) :
    form.exponentAfter ⟨fraction.taken, (form.exponentAfter fraction).taken ++ front⟩ =
      ⟨(form.exponentAfter fraction).taken, front⟩ :=
  runStable_readOptional form.partStable_readExponent hr

theorem rest_eq_of_exponentAfter {form : NumericForm} {fraction : Split} {front back : Text}
    (hr : (form.exponentAfter fraction).rest = front ++ back) :
    fraction.rest = ((form.exponentAfter fraction).taken ++ front) ++ back :=
  Split.eq_cut (form.whole_exponentAfter_rest fraction) hr

theorem afterInteger_of_isTorn_append {form : NumericForm} {front back : Text}
    (h : form.isTorn (front ++ back) = true) : form.afterInteger front = ⟨.untouched front, false⟩ := by
  cases ht : form.isTorn front with
  | true => exact afterInteger_of_isTorn ht
  | false =>
      have hstrict : form.strictFloat = true := by
        simp only [isTorn, Bool.and_eq_true] at h
        exact h.1
      have hiff := isTorn_eq_false_iff.mp ht hstrict
      by_cases hf : (form.trailingFraction front).taken = []
      · have he := hiff.mp hf
        have hfront := eq_untouched_of_taken (form.whole_trailingFraction front) hf
        have hrest := eq_untouched_of_taken (form.whole_exponentAfter_rest _) he
        rw [afterInteger_of_not_isTorn ht, hf, hrest, hfront]
        rfl
      · have he := mt hiff.mpr hf
        obtain ⟨hp, hread⟩ := readFraction_of_trailingFraction hf
        obtain ⟨rest, e, hf', he'⟩ :=
          fraction_exponent_append hread (readExponent_of_exponentAfter he) back
        -- A fraction and an exponent in the beginning are both there in the whole text too.
        have hboth : form.isTorn (front ++ back) = false := by
          rw [isTorn_eq_false_iff, trailingFraction_of_some hp hf', exponentAfter_of_some he']
          exact fun _ => iff_of_false hf (taken_ne_nil_of_readExponent he')
        rw [hboth] at h
        simp at h

theorem afterInteger_keeps {form : NumericForm} {text front back : Text}
    (hr : (form.afterInteger text).split.rest = front ++ back) :
    form.afterInteger ((form.afterInteger text).split.taken ++ front) =
      ⟨⟨(form.afterInteger text).split.taken, front⟩, (form.afterInteger text).isFloat⟩ := by
  cases ht : form.isTorn text with
  | true =>
      rw [afterInteger_of_isTorn ht] at hr ⊢
      simp only [Split.untouched, List.nil_append] at hr ⊢
      subst hr
      exact afterInteger_of_isTorn_append ht
  | false =>
      rw [afterInteger_of_not_isTorn ht] at hr ⊢
      simp only [Split.rest_following, Split.taken_following] at hr ⊢
      generalize hf : form.trailingFraction text = fraction at hr ⊢
      have hrest := rest_eq_of_exponentAfter hr
      have hexponent := exponentAfter_keeps hr
      generalize he : form.exponentAfter fraction = exponent at hr hrest hexponent ⊢
      have hfraction : form.trailingFraction (fraction.taken ++ (exponent.taken ++ front)) =
          ⟨fraction.taken, exponent.taken ++ front⟩ := by
        rw [← hf] at hrest ⊢
        exact form.runStable_trailingFraction hrest
      have ht' : form.isTorn (fraction.taken ++ (exponent.taken ++ front)) = false := by
        rw [isTorn, hf, he] at ht
        simpa only [isTorn, hfraction, hexponent] using ht
      rw [List.append_assoc, afterInteger_of_not_isTorn ht', hfraction, hexponent]
      rfl

theorem withoutInteger_eq_some_iff {form : NumericForm} {text : Text} {m : Magnitude} :
    form.withoutInteger text = some m ↔ form.fraction = .trailingOrLeading ∧
      ∃ fraction, form.readFraction text = some fraction ∧
        (form.strictFloat = true → (form.exponentAfter fraction).taken ≠ []) ∧
        m = ⟨(form.exponentAfter fraction).following fraction.taken, true⟩ := by
  by_cases hp : form.fraction = .trailingOrLeading
  · rw [withoutInteger, if_pos hp, Option.bind_eq_some_iff, and_iff_right hp]
    refine exists_congr fun fraction => and_congr_right fun _ => ?_
    change (if form.strictFloat && (form.exponentAfter fraction).taken.isEmpty then none
      else some ⟨(form.exponentAfter fraction).following fraction.taken, true⟩) = some m ↔ _
    split
    · next h =>
      simp only [Bool.and_eq_true, List.isEmpty_iff] at h
      simp [h]
    · next h =>
      have hs : form.strictFloat = true → (form.exponentAfter fraction).taken ≠ [] :=
        fun hs he => h (by simp [hs, he])
      rw [and_iff_right hs, Option.some_inj, eq_comm]
  · simp [withoutInteger, hp]

theorem withoutInteger_keeps {form : NumericForm} {text front back : Text} {m : Magnitude}
    (hm : form.withoutInteger text = some m) (hr : m.split.rest = front ++ back) :
    form.withoutInteger (m.split.taken ++ front) = some ⟨⟨m.split.taken, front⟩, m.isFloat⟩ := by
  obtain ⟨hp, fraction, hf, hs, rfl⟩ := withoutInteger_eq_some_iff.mp hm
  rw [Split.rest_following] at hr
  have hf' := form.partStable_readFraction.keeps hf (rest_eq_of_exponentAfter hr)
  have he := exponentAfter_keeps hr
  refine withoutInteger_eq_some_iff.mpr
    ⟨hp, ⟨fraction.taken, (form.exponentAfter fraction).taken ++ front⟩, ?_, ?_, ?_⟩
  · rw [Split.taken_following, List.append_assoc]
    exact hf'
  · rwa [he]
  · rw [he]
    rfl

theorem withoutInteger_refuses {form : NumericForm} {front back : Text}
    (hn : form.withoutInteger (front ++ back) = none) : form.withoutInteger front = none := by
  cases hm : form.withoutInteger front with
  | none => rfl
  | some m =>
      obtain ⟨hp, fraction, hf, hs, _⟩ := withoutInteger_eq_some_iff.mp hm
      suffices h : ∃ m, form.withoutInteger (front ++ back) = some m by
        obtain ⟨m, h⟩ := h
        rw [hn] at h
        simp at h
      by_cases hstrict : form.strictFloat = true
      · have hread := readExponent_of_exponentAfter (hs hstrict)
        obtain ⟨rest, e, hf', he⟩ := fraction_exponent_append hf hread back
        refine ⟨_, withoutInteger_eq_some_iff.mpr ⟨hp, _, hf', fun _ => ?_, rfl⟩⟩
        rw [exponentAfter_of_some he]
        exact taken_ne_nil_of_readExponent he
      · obtain ⟨fraction', hf'⟩ := form.partStable_readFraction.exists_of_append hf back
        exact ⟨_, withoutInteger_eq_some_iff.mpr ⟨hp, _, hf', fun h => absurd h hstrict, rfl⟩⟩

theorem readMagnitude_of_integer {form : NumericForm} {text : Text} {s : Split}
    (h : form.readInteger text = some s) :
    form.readMagnitude text = some { form.afterInteger s.rest with
      split := (form.afterInteger s.rest).split.following s.taken } := by
  simp [readMagnitude, h]

theorem readMagnitude_of_no_integer {form : NumericForm} {text : Text}
    (h : form.readInteger text = none) : form.readMagnitude text = form.withoutInteger text := by
  simp [readMagnitude, h]

theorem readMagnitude_keeps {form : NumericForm} {text front back : Text} {m : Magnitude}
    (hm : form.readMagnitude text = some m) (hr : m.split.rest = front ++ back) :
    form.readMagnitude (m.split.taken ++ front) = some ⟨⟨m.split.taken, front⟩, m.isFloat⟩ := by
  cases hi : form.readInteger text with
  | none =>
      have hw := whole_of_readMagnitude hm
      rw [readMagnitude_of_no_integer hi] at hm
      have hn : form.readInteger (m.split.taken ++ front) = none := by
        apply form.partStable_readInteger.refuses back
        rwa [← Split.eq_cut hw hr]
      rw [readMagnitude_of_no_integer hn]
      exact withoutInteger_keeps hm hr
  | some integer =>
      rw [readMagnitude_of_integer hi] at hm
      obtain rfl := Option.some.inj hm
      simp only [Split.rest_following, Split.taken_following, List.append_assoc] at hr ⊢
      have hrest := Split.eq_cut (form.whole_afterInteger integer.rest) hr
      rw [readMagnitude_of_integer (form.partStable_readInteger.keeps hi hrest)]
      simp only [afterInteger_keeps hr]
      rfl

theorem readMagnitude_refuses {form : NumericForm} {front back : Text}
    (hn : form.readMagnitude (front ++ back) = none) : form.readMagnitude front = none := by
  cases hi : form.readInteger (front ++ back) with
  | none =>
      rw [readMagnitude_of_no_integer hi] at hn
      rw [readMagnitude_of_no_integer (form.partStable_readInteger.refuses back hi)]
      exact withoutInteger_refuses hn
  | some s => rw [readMagnitude_of_integer hi] at hn; simp at hn

theorem partStable_scan (form : NumericForm) : PartStable form.scan where
  keeps := by
    intro text front back s hs hr
    obtain ⟨marker, hk, hs⟩ := Option.bind_eq_some_iff.mp hs
    obtain ⟨m, hm, rfl⟩ := Option.map_eq_some_iff.mp hs
    rw [Split.rest_following] at hr
    generalize hx : form.suffixes.read m.isFloat m.split.rest = suffix at hr ⊢
    have hrest : m.split.rest = (suffix.taken ++ front) ++ back :=
      Split.eq_cut (hx ▸ Suffixes.whole_read ..) hr
    have hsuffix : form.suffixes.read m.isFloat (suffix.taken ++ front) = ⟨suffix.taken, front⟩ := by
      rw [← hx] at hr ⊢
      exact form.suffixes.runStable_read m.isFloat hr
    have hmagnitude := readMagnitude_keeps hm hrest
    rw [Split.taken_following, List.append_assoc, List.append_assoc, scan,
      readMarker_taken_append hk, Option.bind_some, hmagnitude, Option.map_some, hsuffix]
    simp [Split.following]
  refuses := by
    intro front back hn
    cases hk : form.readMarker front with
    | none => simp [scan, hk]
    | some marker =>
        simp only [scan, readMarker_append hk back, Option.bind_some, Option.map_eq_none_iff] at hn
        simp [scan, hk, readMagnitude_refuses hn]

end NumericForm

namespace NumberGrammar

theorem firstForm?_keeps {forms : List NumericForm} {text front back : Text} {form : NumericForm}
    {s : Split} (h : firstForm? forms text = some (form, s)) (hr : s.rest = front ++ back) :
    firstForm? forms (s.taken ++ front) = some (form, ⟨s.taken, front⟩) := by
  have hw := NumericForm.whole_of_scan (scan_of_firstForm? h).2
  refine findSome?_keeps (fun (form : NumericForm) text => (form.scan text).map (form, ·)) ?_ ?_ h
  · intro f _ hf
    obtain ⟨s', hs, he⟩ := Option.map_eq_some_iff.mp hf
    obtain ⟨rfl, rfl⟩ := Prod.mk.injEq .. ▸ he
    rw [f.partStable_scan.keeps hs hr, Option.map_some]
  · intro f _ hf
    rw [Option.map_eq_none_iff] at hf ⊢
    apply f.partStable_scan.refuses back
    rwa [← Split.eq_cut hw hr]

theorem firstForm?_refuses {forms : List NumericForm} {front : Text} (back : Text)
    (h : firstForm? forms (front ++ back) = none) : firstForm? forms front = none := by
  simp only [firstForm?, List.findSome?_eq_none_iff, Option.map_eq_none_iff] at h ⊢
  exact fun form hm => form.partStable_scan.refuses back (h form hm)

theorem commitment?_keeps {g : NumberGrammar} {text front back : Text} {form : NumericForm}
    {s : Split} (h : g.commitment? text = some (form, s)) (hr : s.rest = front ++ back) :
    g.commitment? (s.taken ++ front) = some (form, ⟨s.taken, front⟩) := by
  obtain ⟨⟨f, s'⟩, hf, he⟩ := Option.map_eq_some_iff.mp h
  obtain ⟨rfl, rfl⟩ := Prod.mk.injEq .. ▸ he
  rw [Split.rest_following] at hr
  have hrest := Split.eq_cut (NumericForm.whole_of_scan (scan_of_firstForm? hf).2) hr
  have hsign : g.readSign ((g.readSign text).taken ++ (s'.taken ++ front)) = _ :=
    runStable_readOne _ hrest
  rw [Split.taken_following, List.append_assoc, commitment?, hsign]
  simp only [firstForm?_keeps hf hr, Option.map_some]
  rfl

theorem cutStable_scan (g : NumberGrammar) : CutStable g.scan where
  keeps := by
    intro text front back l hl hr
    obtain ⟨⟨form, s⟩, hc, rfl⟩ := Option.map_eq_some_iff.mp hl
    have hk := commitment?_keeps hc (show s.rest = front ++ back from hr)
    simp only [Lexeme.ofSplit, scan, hk, Option.map_some]
  refuses := by
    intro front back hn
    simp only [scan, commitment?, Option.map_eq_none_iff] at hn ⊢
    cases front with
    | nil =>
        exact firstForm?_refuses (g.readSign back).rest hn
    | cons c front =>
        rw [readSign, readOne_cons_append] at hn
        exact firstForm?_refuses back hn

end NumberGrammar

end LexicalGrammar
