import LexicalGrammar.Proofs.Number.Munch
import LexicalGrammar.Proofs.Registry

namespace LexicalGrammar

namespace NumericForm

structure EndsBefore (form : NumericForm) (rest : Text) : Prop where
  digit : rest.head?.any form.radix.isDigit = false
  separator : rest.head?.any (form.separator == some ·) = false
  point : rest.head?.any (· == '.') = false
  exponent : ∀ e, form.exponent = some e → rest.head?.any e.markers.contains = false
  suffix : ∀ isFloat, rest.head?.any (form.suffixes.letters isFloat).contains = false

variable {form : NumericForm} {m : Char} {digits rest : Text}

theorem readMarker_of_mem (hm : m ∈ form.markers.getD []) (rest : Text) :
    form.readMarker ('0' :: m :: rest) = some ⟨['0', m], rest⟩ := by
  cases hk : form.markers with
  | none => simp [hk] at hm
  | some markers =>
      cases markers with
      | nil => simp [hk] at hm
      | cons c markers =>
          have hc : (c :: markers).contains m = true := by simpa [hk] using hm
          simp only [readMarker, hk, hc, if_true]

theorem readMagnitude_of_spells (hz : form.leadingZero = .permitted)
    (hd : form.digits.Spells digits) (h : form.EndsBefore rest) :
    form.readMagnitude (digits ++ rest) = some ⟨⟨digits, rest⟩, false⟩ := by
  have hinteger : form.readInteger (digits ++ rest) = some ⟨digits, rest⟩ := by
    rw [readInteger_eq_scan (by simp [hz])]
    exact hd.scan_append h.digit h.separator
  have hfraction : form.readFraction rest = none :=
    readFraction_of_head? fun hp => by simpa [hp] using h.point
  have hexponent : form.readExponent rest = none := readExponent_of_head? h.exponent
  rw [readMagnitude_of_integer hinteger,
    afterInteger_of_untouched (trailingFraction_of_none hfraction) hexponent]
  simp [Split.following, Split.untouched]

theorem scan_marked (hm : m ∈ form.markers.getD []) (hz : form.leadingZero = .permitted)
    (hd : form.digits.Spells digits) (h : form.EndsBefore rest) :
    form.scan ('0' :: m :: (digits ++ rest)) = some ⟨'0' :: m :: digits, rest⟩ := by
  simp only [scan, readMarker_of_mem hm, Option.bind_some, readMagnitude_of_spells hz hd h,
    Option.map_some, Suffixes.read_of_head? (h.suffix false)]
  simp [Split.following, Split.untouched]

end NumericForm

namespace NumberGrammar

structure MarkedLiteral (g : NumberGrammar) where
  sign : Option Char
  form : NumericForm
  marker : Char
  digits : Text
  sign_mem : ∀ c, sign = some c → c ∈ g.signs
  form_mem : form ∈ g.forms
  marker_mem : marker ∈ form.markers.getD []
  spells : form.digits.Spells digits

namespace MarkedLiteral

variable {g : NumberGrammar}

def magnitude (n : g.MarkedLiteral) : Text := '0' :: n.marker :: n.digits

def text (n : g.MarkedLiteral) : Text := n.sign.toList ++ n.magnitude

theorem isPrefixed (n : g.MarkedLiteral) : n.form.isPrefixed = true := by
  have hm := n.marker_mem
  cases hk : n.form.markers with
  | none => simp [hk] at hm
  | some markers => simp [NumericForm.isPrefixed, hk]

end MarkedLiteral

structure KeepsMarked (g : NumberGrammar) : Prop where
  proper : g.defect? = none
  signs : g.signs.contains '0' = false
  zeros : g.forms.all (fun form =>
    decide (form.leadingZero = .permitted) || !form.isPrefixed) = true
  stops : g.forms.Pairwise fun earlier later =>
    (later.markers.getD []).all earlier.stopsBefore = true

namespace KeepsMarked

variable {g : NumberGrammar} {rest : Text}

theorem leadingZero (h : g.KeepsMarked) (n : g.MarkedLiteral) :
    n.form.leadingZero = .permitted := by
  have hform := List.all_eq_true.mp h.zeros n.form n.form_mem
  simpa [n.isPrefixed] using hform

theorem firstForm? (h : g.KeepsMarked) (n : g.MarkedLiteral) (hrest : n.form.EndsBefore rest) :
    firstForm? g.forms (n.magnitude ++ rest) = some (n.form, ⟨n.magnitude, rest⟩) := by
  have hread : n.form.scan (n.magnitude ++ rest) = some ⟨n.magnitude, rest⟩ :=
    NumericForm.scan_marked n.marker_mem (h.leadingZero n) n.spells hrest
  refine findSome?_of_pairwise ((defect?_eq_none_iff.mp h.proper).and h.stops) n.form_mem
    (by rw [hread, Option.map_some]) fun e he => ?_
  have hstops := List.all_eq_true.mp he.2 n.marker n.marker_mem
  exact Option.map_eq_none_iff.mpr
    (NumericForm.scan_eq_none_of_stopsBefore (he.1 n.isPrefixed) hstops _)

theorem scan (h : g.KeepsMarked) (n : g.MarkedLiteral) (hrest : n.form.EndsBefore rest) :
    g.scan (n.text ++ rest) = some ⟨n.text, true, rest⟩ := by
  have hsign : g.readSign (n.sign.toList ++ (n.magnitude ++ rest)) =
      ⟨n.sign.toList, n.magnitude ++ rest⟩ :=
    readOne_toList (fun c hc => List.contains_iff_mem.mpr (n.sign_mem c hc)) h.signs
  rw [MarkedLiteral.text, List.append_assoc, NumberGrammar.scan, commitment?, hsign,
    h.firstForm? n hrest]
  rfl

end KeepsMarked

end NumberGrammar

namespace Language

theorem keepsMarked (l : Language) : l.configuration.numbers.KeepsMarked where
  proper := (Declaration.defect?_eq_none_iff.mp l.defect?_declaration).2.2.1
  signs := by cases l <;> decide
  zeros := by cases l <;> decide
  stops := by cases l <;> decide

theorem probe_marked (l : Language) (service : Option Service) :
    ∃ c, l.build service = .ok c ∧
      ∀ (n : c.numbers.MarkedLiteral) (rest : Text), n.form.EndsBefore rest →
        probe c.numbers.scan (n.text ++ rest) 0 = some ⟨0, width n.text, true⟩ := by
  refine ⟨_, l.build_eq_ok service, fun n rest h => ?_⟩
  rw [probe_of_suffixAt? (suffixAt?_zero _), l.keepsMarked.scan n h]
  simp [Lexeme.spanAt]

theorem python_marked :
    ∃ c, python.build none = .ok c ∧
      probe c.numbers.scan "-0b10_12".toList 0 = some ⟨0, 7, true⟩ := by
  obtain ⟨c, hc, hread⟩ := probe_marked .python none
  obtain rfl := Except.ok.inj ((python.build_eq_ok none).symm.trans hc)
  have hspells : NumericForm.binary.digits.Spells (['1', '0'] ++ '_' :: ['1']) :=
    .separated (by decide) (by decide) rfl (.digits (by decide) (by decide))
  let n : Python.numbers.MarkedLiteral :=
    { sign := some '-', form := .binary, marker := 'b', digits := ['1', '0', '_', '1'],
      sign_mem := by simp [Python.numbers], form_mem := by decide, marker_mem := by decide,
      spells := hspells }
  have hends : NumericForm.binary.EndsBefore ['2'] :=
    ⟨rfl, rfl, rfl, fun e he => by simp [NumericForm.binary] at he, by decide⟩
  exact ⟨_, hc, hread n ['2'] hends⟩

end Language

end LexicalGrammar
