import LexicalGrammar.Proofs.Cursor.Pass
import LexicalGrammar.Proofs.Number.OrderedChoice

namespace LexicalGrammar

namespace Cursor

variable {c : Cursor}

def afterPart (c : Cursor) (o : Option Split) : Bool × Cursor :=
  o.elim (false, c) fun s => (true, c.pass s.taken)

def eatPart (c : Cursor) (part : Text → Option Split) : Bool × Cursor := c.afterPart (part c.rest)

def orBack (c : Cursor) (e : Bool × Cursor) : Bool × Cursor :=
  if e.1 then e else (false, e.2.moveTo c.position)

structure Tried (c : Cursor) (o : Option Split) (e : Bool × Cursor) : Prop where
  source : e.2.source = c.source
  hit : ∀ s, o = some s → e = (true, c.pass s.taken)
  miss : o = none → e.1 = false

theorem tried_afterPart (c : Cursor) (o : Option Split) : c.Tried o (c.afterPart o) := by
  cases o with
  | none => exact ⟨rfl, by simp, fun _ => rfl⟩
  | some s => exact ⟨c.source_pass _, by rintro _ ⟨⟩; rfl, by simp⟩

theorem eatIf_eq (c : Cursor) (p : Char → Bool) : c.eatIf p = c.afterPart (takeOne p c.rest) := by
  rw [eatIf, current]
  cases c.rest with
  | nil => rfl
  | cons d rest => cases hp : p d <;> simp [takeOne, afterPart, hp, pass, advance]

theorem eatIf_readOne (c : Cursor) (p : Char → Bool) :
    (c.eatIf p).2 = c.pass (readOne p c.rest).taken := by
  rw [eatIf_eq]
  cases c.rest with
  | nil => simp [takeOne, afterPart, readOne, Split.untouched]
  | cons d rest => cases hp : p d <;> simp [takeOne, afterPart, readOne, Split.untouched, hp]

theorem tried_eatIf (c : Cursor) (p : Char → Bool) : c.Tried (takeOne p c.rest) (c.eatIf p) := by
  rw [eatIf_eq]
  exact c.tried_afterPart _

theorem Tried.orBack_eq {o : Option Split} {e : Bool × Cursor} (h : c.Tried o e) :
    c.orBack e = c.afterPart o := by
  cases ho : o with
  | none =>
      rw [orBack, h.miss ho, if_neg Bool.false_ne_true, moveTo_position_of_source h.source]
      rfl
  | some s =>
      rw [orBack, h.hit s ho]
      rfl

theorem Tried.following {a : Text} {o : Option Split} {e : Bool × Cursor}
    (h : (c.pass a).Tried o e) : c.Tried (o.map (Split.following a)) e where
  source := h.source.trans (c.source_pass a)
  hit := by
    intro s hs
    obtain ⟨t, ht, rfl⟩ := Option.map_eq_some_iff.mp hs
    rw [h.hit t ht, pass_pass]
    rfl
  miss hn := h.miss (Option.map_eq_none_iff.mp hn)

theorem Tried.andThen {first second : Text → Option Split} {e : Bool × Cursor}
    {next : Cursor → Bool × Cursor} (he : c.Tried (first c.rest) e)
    (hwhole : ∀ s, first c.rest = some s → s.whole = c.rest)
    (hnext : ∀ d : Cursor, d.Tried (second d.rest) (next d)) :
    c.Tried (readThen first second c.rest) (if e.1 then next e.2 else e) := by
  cases hs : first c.rest with
  | none =>
      have hmiss := he.miss hs
      rw [readThen, hs, hmiss]
      exact ⟨he.source, by simp, fun _ => hmiss⟩
  | some s =>
      have hn := hnext (c.pass s.taken)
      rw [rest_pass (hwhole s hs)] at hn
      rw [readThen, hs, he.hit s hs]
      exact hn.following

end Cursor

namespace Exponent

def eatSigned (e : Exponent) (c : Cursor) : Bool × Cursor :=
  (if e.signed then (c.eatIf fun d => d == '+' || d == '-').2 else c).eatPart e.digits.scan

def eat (e : Exponent) (c : Cursor) : Bool × Cursor :=
  let marker := c.eatIf e.markers.contains
  c.orBack (if marker.1 then e.eatSigned marker.2 else marker)

theorem eatSigned_eq (e : Exponent) (c : Cursor) :
    e.eatSigned c = (c.pass (e.readSign c.rest).taken).eatPart e.digits.scan := by
  rw [eatSigned, readSign, ← Cursor.eatIf_readOne]
  cases e.signed <;> simp [Cursor.eatIf]

theorem tried_eatSigned (e : Exponent) (c : Cursor) :
    c.Tried (readThen (fun text => some (e.readSign text)) e.digits.scan c.rest) (e.eatSigned c) := by
  have hr := Cursor.rest_pass (show (e.readSign c.rest).whole = c.rest from whole_readOne _ _)
  rw [eatSigned_eq, Cursor.eatPart, hr]
  exact (Cursor.tried_afterPart _ _).following

theorem eat_eq (e : Exponent) (c : Cursor) : e.eat c = c.afterPart (e.scan c.rest) := by
  rw [scan_eq]
  exact ((c.tried_eatIf _).andThen (fun _ => whole_of_takeOne) e.tried_eatSigned).orBack_eq

end Exponent

namespace NumericForm

variable (form : NumericForm)

def eatMarker (c : Cursor) : Bool × Cursor :=
  match form.markers with
  | none => (true, c)
  | some [] => c.eatIf (· == '0')
  | some markers =>
      let zero := c.eatIf (· == '0')
      if zero.1 then zero.2.eatIf markers.contains else zero

def eatInteger (c : Cursor) : Bool × Cursor :=
  match form.leadingZero with
  | .forbidden =>
      let zero := c.eatIf (· == '0')
      if zero.1 then zero else zero.2.eatPart form.digits.scan
  | .permitted => c.eatPart form.digits.scan

def eatFraction (c : Cursor) : Bool × Cursor :=
  let point := c.eatIf (· == '.')
  -- Without digits the cursor is left behind the point.
  if point.1 then point.2.eatPart form.digits.scan else point

def eatExponent (c : Cursor) : Bool × Cursor :=
  (form.exponent.map fun e => e.eat c).getD (false, c)

def eatFractionAfter (integer : Bool × Cursor) : Option (Bool × Cursor) :=
  let fraction := form.eatFraction integer.2
  if integer.1 then
    some (if form.fraction = .none then (false, integer.2) else integer.2.orBack fraction)
  else if form.fraction = .trailingOrLeading ∧ fraction.1 = true then some fraction
  else none

def eatExponentAfter (integer fraction : Bool × Cursor) : Option (Bool × Cursor) :=
  let exponent := form.eatExponent fraction.2
  if form.strictFloat && fraction.1 != exponent.1 then
    if integer.1 then some (false, exponent.2.moveTo integer.2.position) else none
  else some (fraction.1 || exponent.1, exponent.2)

def eatMagnitude (c : Cursor) : Option (Bool × Cursor) :=
  let integer := form.eatInteger c
  (form.eatFractionAfter integer).bind (form.eatExponentAfter integer)

def eatSuffixes (isFloat : Bool) (c : Cursor) : Cursor :=
  c.pass (form.suffixes.read isFloat c.rest).taken

def eat (c : Cursor) : Bool × Cursor :=
  let marker := form.eatMarker c
  match (if marker.1 then form.eatMagnitude marker.2 else none) with
  | some (isFloat, behind) => (true, form.eatSuffixes isFloat behind)
  | none => (false, marker.2.moveTo c.position)

theorem tried_eatMarker (c : Cursor) : c.Tried (form.readMarker c.rest) (form.eatMarker c) := by
  rw [readMarker_eq, eatMarker]
  cases form.markers with
  | none =>
      have h := c.tried_afterPart (some (.untouched c.rest))
      simpa [Cursor.afterPart, Split.untouched] using h
  | some markers =>
      cases markers with
      | nil => exact c.tried_eatIf _
      | cons m markers =>
          exact (c.tried_eatIf _).andThen (fun _ => whole_of_takeOne) fun d => d.tried_eatIf _

theorem eatInteger_eq (c : Cursor) : form.eatInteger c = c.afterPart (form.readInteger c.rest) := by
  rw [readInteger_eq, eatInteger]
  cases form.leadingZero with
  | permitted => rfl
  | forbidden =>
      simp only [Cursor.eatIf_eq]
      cases takeOne (· == '0') c.rest <;> rfl

theorem tried_eatFraction (c : Cursor) :
    c.Tried (form.readFraction c.rest) (form.eatFraction c) := by
  rw [readFraction_eq]
  exact (c.tried_eatIf _).andThen (fun _ => whole_of_takeOne) fun d => d.tried_afterPart _

theorem eatExponent_eq (c : Cursor) :
    form.eatExponent c = c.afterPart (form.readExponent c.rest) := by
  rw [eatExponent, readExponent]
  cases form.exponent with
  | none => rfl
  | some e => exact e.eat_eq c

theorem eatFractionAfter_of_integer (c : Cursor) :
    form.eatFractionAfter (true, c) = some (c.afterPart (form.fractionAt c.rest)) := by
  rw [eatFractionAfter, fractionAt]
  by_cases hp : form.fraction = .none
  · simp [hp, Cursor.afterPart]
  · simp [hp, (form.tried_eatFraction c).orBack_eq]

theorem eatFractionAfter_of_no_integer (c : Cursor) :
    form.eatFractionAfter (false, c) = if form.fraction = .trailingOrLeading then
      (form.fractionAt c.rest).map fun s => (true, c.pass s.taken) else none := by
  have h := form.tried_eatFraction c
  by_cases hp : form.fraction = .trailingOrLeading
  · cases hf : form.readFraction c.rest with
    | none => simp [eatFractionAfter, fractionAt, hp, hf, h.miss hf]
    | some s => simp [eatFractionAfter, fractionAt, hp, hf, h.hit s hf]
  · simp [eatFractionAfter, hp]

theorem eatMagnitude_of_integer (c : Cursor) :
    (form.eatFractionAfter (true, c)).bind (form.eatExponentAfter (true, c))
      = some ((form.afterInteger c.rest).isFloat, c.pass (form.afterInteger c.rest).split.taken) := by
  rw [eatFractionAfter_of_integer, Option.bind_some, eatExponentAfter, afterInteger_eq]
  cases hf : form.fractionAt c.rest with
  | none =>
      cases hx : form.readExponent c.rest <;> cases form.strictFloat <;>
        simp [eatExponent_eq, Cursor.afterPart, Split.untouched, hx]
  | some fraction =>
      have hr := Cursor.rest_pass (whole_of_readFraction (readFraction_of_fractionAt hf))
      cases hx : form.readExponent fraction.rest <;> cases form.strictFloat <;>
        simp [eatExponent_eq, Cursor.afterPart, Cursor.pass_pass, Split.untouched, hr, hx]

theorem eatMagnitude_of_no_integer (c : Cursor) :
    (form.eatFractionAfter (false, c)).bind (form.eatExponentAfter (false, c))
      = (form.withoutInteger c.rest).map fun m => (m.isFloat, c.pass m.split.taken) := by
  rw [eatFractionAfter_of_no_integer, withoutInteger_eq]
  split
  · cases hf : form.fractionAt c.rest with
    | none => rfl
    | some fraction =>
        have hr := Cursor.rest_pass (whole_of_readFraction (readFraction_of_fractionAt hf))
        cases hx : form.readExponent fraction.rest <;> cases hs : form.strictFloat <;>
          simp [eatExponentAfter, eatExponent_eq, Cursor.afterPart, Cursor.pass_pass, hr, hx, hs]
  · rfl

theorem eatMagnitude_eq (c : Cursor) :
    form.eatMagnitude c
      = (form.readMagnitude c.rest).map fun m => (m.isFloat, c.pass m.split.taken) := by
  rw [eatMagnitude, eatInteger_eq]
  cases hi : form.readInteger c.rest with
  | none =>
      rw [readMagnitude_of_no_integer hi]
      exact form.eatMagnitude_of_no_integer c
  | some integer =>
      have hr := Cursor.rest_pass (whole_of_readInteger hi)
      rw [readMagnitude_of_integer hi, ← hr]
      refine (form.eatMagnitude_of_integer _).trans ?_
      simp [Cursor.pass_pass]

theorem eat_eq (c : Cursor) : form.eat c = c.afterPart (form.scan c.rest) := by
  have h := form.tried_eatMarker c
  rw [eat, scan]
  cases hk : form.readMarker c.rest with
  | none =>
      simp [h.miss hk, Cursor.moveTo_position_of_source h.source, Cursor.afterPart]
  | some marker =>
      have hr := Cursor.rest_pass (whole_of_readMarker hk)
      rw [h.hit marker hk, if_pos rfl, eatMagnitude_eq, hr]
      cases hm : form.readMagnitude marker.rest with
      | none =>
          simp [hm, Cursor.moveTo_position_of_source, Cursor.afterPart]
      | some m =>
          have hm' := Cursor.rest_pass (c := c.pass marker.taken)
            ((whole_of_readMagnitude hm).trans hr.symm)
          simp only [Option.map_some, Option.bind_some, hm, eatSuffixes, hm']
          simp [Cursor.afterPart, Cursor.pass_pass]

theorem eat_ordered_choice (c : Cursor) :
    (∀ o, form.expression.Reads c.rest o ↔ o = form.scan c.rest) ∧
      form.eat c = (form.scan c.rest).elim (false, c) fun s => (true, c.pass s.taken) :=
  ⟨fun _ => form.denotes_expression.reads_iff, form.eat_eq c⟩

-- A strict form that finds no exponent gives back the fraction it has read.
example : hexadecimalFloat.eat (.start ['0', 'x', '1', '.', '8'])
    = (true, ⟨['0', 'x', '1'], ['.', '8']⟩) := by decide

end NumericForm

end LexicalGrammar
