import LexicalGrammar.Language.Registry
import LexicalGrammar.Proofs.Choice
import LexicalGrammar.Proofs.Cut.Number

namespace LexicalGrammar

theorem Radix.isDigit_mono {a b : Radix} (h : a.value ≤ b.value) {c : Char}
    (hc : a.isDigit c = true) : b.isDigit c = true := by
  obtain ⟨n, hn, hlt⟩ := (Option.any_eq_true ..).mp hc
  rw [decide_eq_true_eq] at hlt
  exact (Option.any_eq_true ..).mpr ⟨n, hn, decide_eq_true (Nat.lt_of_lt_of_le hlt h)⟩

namespace NumericForm

def reads (form : NumericForm) (text : Text) : Bool := (form.scan text).isSome

theorem isSome_digits_scan (run : DigitRun) (text : Text) :
    (run.scan text).isSome = text.head?.any run.radix.isDigit := by
  cases text with
  | nil => rfl
  | cons c rest =>
      simp only [DigitRun.scan, List.head?_cons, Option.any_some]
      split <;> simp_all

theorem isSome_readInteger (form : NumericForm) (text : Text) :
    (form.readInteger text).isSome = text.head?.any form.radix.isDigit := by
  by_cases hz : form.leadingZero = .forbidden ∧ text.head? = some '0'
  · obtain ⟨hz, ht⟩ := hz
    obtain ⟨rest, rfl⟩ := List.head?_eq_some_iff.mp ht
    rw [readInteger_zero hz, ht, Option.any_some, form.radix.isDigit_zero]
    rfl
  · rw [readInteger_eq_scan hz]
    exact isSome_digits_scan form.digits text

theorem isSome_readMagnitude (form : NumericForm) (text : Text) :
    (form.readMagnitude text).isSome =
      (text.head?.any form.radix.isDigit || (form.withoutInteger text).isSome) := by
  rw [← isSome_readInteger]
  cases hi : form.readInteger text with
  | some s => simp [readMagnitude_of_integer hi]
  | none => simp [readMagnitude_of_no_integer hi]

theorem reads_eq (form : NumericForm) (text : Text) :
    form.reads text = (form.readMarker text).any fun marker =>
      (form.readMagnitude marker.rest).isSome := by
  simp only [reads, scan, Option.isSome_bind, Option.isSome_map]

theorem reads_of_not_isPrefixed {form : NumericForm} (h : form.isPrefixed = false) (rest : Text) :
    form.reads ('0' :: rest) = true := by
  have hm : form.markers = none := by simpa [isPrefixed] using h
  have hmarker : form.readMarker ('0' :: rest) = some (.untouched ('0' :: rest)) := by
    simp [readMarker, hm]
  rw [reads_eq, hmarker, Option.any_some, isSome_readMagnitude]
  simp [Split.untouched, form.radix.isDigit_zero]

theorem readMarker_cases {form : NumericForm} {text : Text} {s : Split}
    (h : form.readMarker text = some s) :
    (form.markers = none ∧ s = .untouched text) ∨
      (form.markers = some [] ∧ text = '0' :: s.rest ∧ s.taken = ['0']) ∨
      ∃ markers m, form.markers = some markers ∧ m ∈ markers ∧ text = '0' :: m :: s.rest ∧
        s.taken = ['0', m] := by
  simp only [readMarker] at h
  split at h
  · next hm => exact Or.inl ⟨hm, (Option.some.inj h).symm⟩
  · next hm =>
    obtain rfl := Option.some.inj h
    exact Or.inr (Or.inl ⟨hm, rfl, rfl⟩)
  · next markers m rest _ hm =>
    split at h
    · next hc =>
      obtain rfl := Option.some.inj h
      exact Or.inr (Or.inr ⟨markers, m, hm, by simpa using hc, rfl, rfl⟩)
    · simp at h
  · simp at h

theorem readMagnitude_nil (form : NumericForm) : form.readMagnitude [] = none := by
  rw [← Option.not_isSome_iff_eq_none, isSome_readMagnitude]
  simp [withoutInteger, readFraction]

theorem exists_cons_of_isPrefixed {form : NumericForm} (h : form.isPrefixed = true) {text : Text}
    (hr : form.reads text = true) : ∃ c rest, text = '0' :: c :: rest := by
  rw [reads_eq] at hr
  obtain ⟨marker, hk, hmagnitude⟩ := (Option.any_eq_true ..).mp hr
  have hne : marker.rest ≠ [] := by
    intro hnil
    rw [hnil, readMagnitude_nil] at hmagnitude
    simp at hmagnitude
  rcases readMarker_cases hk with ⟨hm, _⟩ | ⟨_, rfl, _⟩ | ⟨_, m, _, _, rfl, _⟩
  · rw [isPrefixed, hm] at h
    simp at h
  · obtain ⟨c, rest, hrest⟩ := List.exists_cons_of_ne_nil hne
    exact ⟨c, rest, by rw [hrest]⟩
  · exact ⟨m, marker.rest, rfl⟩

theorem reads_eq_false_of_isPrefixed {form : NumericForm} (h : form.isPrefixed = true) {text : Text}
    (ht : ∀ c rest, text ≠ '0' :: c :: rest) : form.reads text = false := by
  rw [← Bool.not_eq_true]
  intro hr
  obtain ⟨c, rest, he⟩ := exists_cons_of_isPrefixed h hr
  exact ht c rest he

theorem reads_of_reads {earlier later : NumericForm} (hm : earlier.markers = later.markers)
    (hd : ∀ c, later.radix.isDigit c = true → earlier.radix.isDigit c = true)
    (hf : later.fraction ≠ .trailingOrLeading) {text : Text} (h : later.reads text = true) :
    earlier.reads text = true := by
  have hmarker : earlier.readMarker text = later.readMarker text := by simp only [readMarker, hm]
  rw [reads_eq] at h ⊢
  obtain ⟨marker, hk, hmagnitude⟩ := (Option.any_eq_true ..).mp h
  have hnone : later.withoutInteger marker.rest = none := by simp [withoutInteger, hf]
  rw [isSome_readMagnitude, hnone, Option.isSome_none, Bool.or_false] at hmagnitude
  obtain ⟨c, hc, hdigit⟩ := (Option.any_eq_true ..).mp hmagnitude
  rw [hmarker, hk, Option.any_some, isSome_readMagnitude, hc, Option.any_some, hd c hdigit,
    Bool.true_or]

end NumericForm

namespace NumberGrammar

def chosenForm? (g : NumberGrammar) (text : Text) : Option Nat :=
  g.forms.findIdx? (·.reads (g.readSign text).rest)

theorem getElem?_chosenForm? (g : NumberGrammar) (text : Text) :
    (g.chosenForm? text).bind (g.forms[·]?) = (g.commitment? text).map Prod.fst := by
  rw [commitment?, firstForm?, findSome?_eq_bind_findIdx?]
  simp only [Option.isSome_map]
  change (g.chosenForm? text).bind _ = Option.map _ (Option.map _ ((g.chosenForm? text).bind _))
  cases hi : g.chosenForm? text with
  | none => rfl
  | some i =>
      obtain ⟨hlt, hreads, _⟩ := List.findIdx?_eq_some_iff_getElem.mp hi
      obtain ⟨s, hs⟩ := Option.isSome_iff_exists.mp hreads
      simp [List.getElem?_eq_getElem hlt, hs]

theorem exists_readSign (g : NumberGrammar) (body : Text) :
    ∃ text, (g.readSign text).rest = body := by
  cases hs : g.signs with
  | nil =>
      refine ⟨body, ?_⟩
      cases body with
      | nil => rfl
      | cons c rest => simp [readSign, readOne, hs, Split.untouched]
  | cons sign signs => exact ⟨sign :: body, by simp [readSign, readOne, hs]⟩

theorem chosenForm?_reachable_iff {g : NumberGrammar} {i : Nat} :
    (∃ text, g.chosenForm? text = some i) ↔
      ∃ body, ∃ hi : i < g.forms.length, g.forms[i].reads body = true ∧
        ∀ j (hj : j < i), g.forms[j].reads body = false := by
  simp only [chosenForm?, List.findIdx?_eq_some_iff_getElem, Bool.not_eq_true]
  constructor
  · rintro ⟨text, h⟩
    exact ⟨_, h⟩
  · rintro ⟨body, h⟩
    obtain ⟨text, rfl⟩ := g.exists_readSign body
    exact ⟨text, h⟩

section Order

variable {g : NumberGrammar}

theorem chosenForm?_ne_of_lt {i j : Nat} (hij : i < j) (hj : j < g.forms.length)
    (h : ∀ body, g.forms[j].reads body = true → g.forms[i].reads body = true) (text : Text) :
    g.chosenForm? text ≠ some j :=
  have hnever : NeverFirst NumericForm.reads g.forms j := neverFirst_of_lt hij hj h
  hnever _

theorem chosenForm?_ne_of_shadowedForm {earlier later : NumericForm}
    (h : g.defect? = some (.shadowedForm earlier later)) :
    ∃ i, g.forms[i]? = some later ∧ ∀ text, g.chosenForm? text ≠ some i := by
  obtain ⟨⟨a, b⟩, hhidden, he⟩ := Option.map_eq_some_iff.mp h
  obtain ⟨rfl, rfl⟩ := Defect.shadowedForm.injEq .. ▸ he
  obtain ⟨i, j, hij, hj, rfl, rfl⟩ := exists_lt_of_firstHidden? hhidden
  have hhides := hides_of_firstHidden? hhidden
  simp only [hides, Bool.and_eq_true, Bool.not_eq_true'] at hhides
  refine ⟨j, List.getElem?_eq_getElem hj, chosenForm?_ne_of_lt hij hj fun body hreads => ?_⟩
  obtain ⟨c, rest, rfl⟩ := NumericForm.exists_cons_of_isPrefixed hhides.2 hreads
  exact NumericForm.reads_of_not_isPrefixed hhides.1 _

theorem reachable_of_kind (hg : g.defect? = none) {i : Nat} (hi : i < g.forms.length) {body : Text}
    (hreads : g.forms[i].reads body = true)
    (hkind : ∀ j (hj : j < i), g.forms[j].isPrefixed = g.forms[i].isPrefixed →
      g.forms[j].reads body = false) : ∃ text, g.chosenForm? text = some i := by
  have hp := List.pairwise_iff_getElem.mp (defect?_eq_none_iff.mp hg)
  rw [chosenForm?_reachable_iff]
  cases hk : g.forms[i].isPrefixed with
  | true => exact ⟨body, hi, hreads, fun j hj => hkind j hj (by rw [hp j i _ hi hj hk, hk])⟩
  | false =>
      by_cases hzero : ∃ rest, body = '0' :: rest
      · -- Every form without a marker reads a `0`, so none stands before this one.
        obtain ⟨rest, rfl⟩ := hzero
        refine ⟨['0'], hi, NumericForm.reads_of_not_isPrefixed hk [], fun j hj => ?_⟩
        cases hkj : g.forms[j].isPrefixed with
        | false =>
            have hnot := hkind j hj (by rw [hkj, hk])
            rw [NumericForm.reads_of_not_isPrefixed hkj] at hnot
            simp at hnot
        | true => exact NumericForm.reads_eq_false_of_isPrefixed hkj fun c rest => by simp
      · refine ⟨body, hi, hreads, fun j hj => ?_⟩
        cases hkj : g.forms[j].isPrefixed with
        | false => exact hkind j hj (by rw [hkj, hk])
        | true =>
            exact NumericForm.reads_eq_false_of_isPrefixed hkj fun c rest h => hzero ⟨_, h⟩

theorem reachable_within_kind (g : NumberGrammar) :
    (∀ earlier later, g.defect? = some (.shadowedForm earlier later) →
      ∃ i, g.forms[i]? = some later ∧ ∀ text, g.chosenForm? text ≠ some i) ∧
    (g.defect? = none → ∀ i (hi : i < g.forms.length),
      (∃ text, g.chosenForm? text = some i) ↔
        ∃ body, g.forms[i].reads body = true ∧ ∀ j (hj : j < i),
          g.forms[j].isPrefixed = g.forms[i].isPrefixed → g.forms[j].reads body = false) := by
  refine ⟨fun _ _ => chosenForm?_ne_of_shadowedForm, fun hg i hi => ⟨fun h => ?_, ?_⟩⟩
  · obtain ⟨body, _, hreads, hbefore⟩ := chosenForm?_reachable_iff.mp h
    exact ⟨body, hreads, fun j hj _ => hbefore j hj⟩
  · rintro ⟨body, hreads, hkind⟩
    exact reachable_of_kind hg hi hreads hkind

end Order

theorem c_decimal_reachable :
    C.numbers.defect? = none ∧ C.numbers.forms[2].isPrefixed = false ∧
      ∃ text, C.numbers.chosenForm? text = some 2 := by
  have hg : C.numbers.defect? = none := by decide
  refine ⟨hg, rfl, ((reachable_within_kind C.numbers).2 hg 2 (by decide)).mpr ?_⟩
  exact ⟨['0', '7'], by decide, by decide⟩

def zeroPrefixedDecimal : NumericForm := { NumericForm.decimal with markers := some [] }

def zeroPrefixed : NumberGrammar where
  forms := [zeroPrefixedDecimal, .legacyOctal]

example :
    ({ forms := [.legacyOctal, zeroPrefixedDecimal] } : NumberGrammar).chosenForm? ['0', '9'] =
      some 1 := by decide

theorem zeroPrefixed_octal_unreachable :
    zeroPrefixed.defect? = none ∧ ∀ text, zeroPrefixed.chosenForm? text ≠ some 1 := by
  have hm : zeroPrefixedDecimal.markers = NumericForm.legacyOctal.markers := rfl
  have hf : NumericForm.legacyOctal.fraction ≠ .trailingOrLeading := by decide
  have hcovers (body : Text) (h : NumericForm.legacyOctal.reads body = true) :
      zeroPrefixedDecimal.reads body = true :=
    NumericForm.reads_of_reads hm (fun _ => Radix.isDigit_mono (by decide)) hf h
  exact ⟨by decide, chosenForm?_ne_of_lt Nat.zero_lt_one (by decide) hcovers⟩

end NumberGrammar

namespace Language

def sample (form : NumericForm) : Text :=
  match form.markers with
  | none => ['0']
  | some [] => ['0', '0']
  | some (m :: _) => ['0', m, '0']

theorem chosenForm?_sample (l : Language) (i : Nat)
    (hi : i < l.configuration.numbers.forms.length) :
    l.configuration.numbers.chosenForm? (sample l.configuration.numbers.forms[i]) = some i := by
  revert i
  cases l <;> decide

end Language

end LexicalGrammar
