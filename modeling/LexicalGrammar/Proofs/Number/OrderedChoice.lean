import LexicalGrammar.Proofs.Cut.Number
import LexicalGrammar.Proofs.Expression

namespace LexicalGrammar

open Expression

namespace DigitRun

def expression (run : DigitRun) : Expression :=
  .seq (plus (.one run.radix.isDigit))
    (.many (.seq (.one (run.separator == some ·)) (plus (.one run.radix.isDigit))))

theorem exists_groups (run : DigitRun) : ∀ text : Text, ∃ digits groups,
    (many (.one run.radix.isDigit)).Reads text (some digits)
      ∧ (many (.seq (.one (run.separator == some ·)) (plus (.one run.radix.isDigit)))).Reads
          digits.rest (some groups)
      ∧ run.more text = groups.following digits.taken
  | [] => ⟨_, _, .many_done (.one_refuses rfl), .many_done (.seq_first (.one_refuses rfl)), rfl⟩
  | c :: rest => by
      cases hc : run.radix.isDigit c with
      | true =>
          obtain ⟨digits, groups, hdigits, hgroups, hmore⟩ := exists_groups run rest
          refine ⟨_, groups, .many_more (.one rest hc) hdigits, hgroups, ?_⟩
          simp [more, takes, hc, hmore]
      | false =>
          have hstop : (many (.one run.radix.isDigit)).Reads (c :: rest) _ :=
            .many_done (.one_refuses hc)
          cases hs : run.separator == some c with
          | false =>
              refine ⟨_, _, hstop, .many_done (.seq_first (.one_refuses hs)), ?_⟩
              simp [more, takes, hc, hs, Split.untouched]
          | true =>
              cases rest with
              | nil =>
                  have hnone : (plus (.one run.radix.isDigit)).Reads [] none :=
                    .seq_first (.one_refuses rfl)
                  refine ⟨_, _, hstop, .many_done (.seq_second (.one [] hs) hnone), ?_⟩
                  simp [more, takes, hc, Split.untouched]
              | cons d rest =>
                  cases hd : run.radix.isDigit d with
                  | false =>
                      have hnone : (plus (.one run.radix.isDigit)).Reads (d :: rest) none :=
                        .seq_first (.one_refuses hd)
                      refine ⟨_, _, hstop, .many_done (.seq_second (.one _ hs) hnone), ?_⟩
                      simp [more, takes, hc, hd, Split.untouched]
                  | true =>
                      obtain ⟨digits, groups, hdigits, hgroups, hmore⟩ := exists_groups run rest
                      have hgroup : (plus (.one run.radix.isDigit)).Reads (d :: rest) _ :=
                        .seq (.one rest hd) hdigits
                      refine ⟨_, _, hstop, .many_more (.seq (.one _ hs) hgroup) hgroups, ?_⟩
                      simp [more, takes, hs, hd, hmore, Split.untouched]

theorem denotes_expression (run : DigitRun) : run.expression.Denotes run.scan := by
  intro text
  cases text with
  | nil => exact .seq_first (.seq_first (.one_refuses rfl))
  | cons c rest =>
      cases hc : run.radix.isDigit c with
      | false =>
          have hnone : run.expression.Reads (c :: rest) none := .seq_first (.seq_first (.one_refuses hc))
          simpa [scan, hc] using hnone
      | true =>
          obtain ⟨digits, groups, hdigits, hgroups, hmore⟩ := run.exists_groups rest
          have hrun : run.expression.Reads (c :: rest) _ := .seq (.seq (.one rest hc) hdigits) hgroups
          simpa [scan, hc, hmore] using hrun

end DigitRun

namespace Exponent

def signExpression (e : Exponent) : Expression :=
  if e.signed then .optional (.one fun c => c == '+' || c == '-') else .empty

def expression (e : Exponent) : Expression :=
  .seq (.one e.markers.contains) (.seq e.signExpression e.digits.expression)

theorem denotes_signExpression (e : Exponent) :
    e.signExpression.Denotes fun text => some (e.readSign text) := by
  rw [signExpression]
  cases hs : e.signed with
  | true =>
      refine (denotes_one _).optional.congr fun text => ?_
      rw [readOptional_takeOne]
      simp [readSign, hs]
  | false =>
      refine denotes_empty.congr fun text => ?_
      cases text <;> simp [readSign, readOne, hs, Split.untouched]

theorem scan_eq (e : Exponent) (text : Text) :
    e.scan text = readThen (takeOne e.markers.contains)
      (readThen (fun text => some (e.readSign text)) e.digits.scan) text := by
  cases text with
  | nil => rfl
  | cons c rest =>
      rw [scan, readThen_takeOne_cons]
      simp [readThen, Function.comp_def]

theorem denotes_expression (e : Exponent) : e.expression.Denotes e.scan := by
  have hrest := e.denotes_signExpression.seq e.digits.denotes_expression
  exact ((denotes_one _).seq hrest).congr fun text => (e.scan_eq text).symm

end Exponent

namespace Suffixes

def expression (s : Suffixes) (isFloat : Bool) : Expression :=
  if s.repeated then many (.one (s.letters isFloat).contains)
  else .optional (.one (s.letters isFloat).contains)

theorem denotes_expression (s : Suffixes) (isFloat : Bool) :
    (s.expression isFloat).Denotes fun text => some (s.read isFloat text) := by
  rw [expression]
  cases hr : s.repeated with
  | true =>
      refine (denotes_many_one _).congr fun text => ?_
      simp [read, hr]
  | false =>
      refine (denotes_one _).optional.congr fun text => ?_
      rw [readOptional_takeOne]
      simp [read, hr]

end Suffixes

namespace NumericForm

variable (form : NumericForm)

def markerExpression : Expression :=
  match form.markers with
  | none => .empty
  | some [] => .one (· == '0')
  | some markers => .seq (.one (· == '0')) (.one markers.contains)

def integerExpression : Expression :=
  match form.leadingZero with
  | .forbidden => .choice (.one (· == '0')) form.digits.expression
  | .permitted => form.digits.expression

def fractionExpression : Expression :=
  if form.fraction = .none then never else .seq (.one (· == '.')) form.digits.expression

def exponentExpression : Expression := (form.exponent.map Exponent.expression).getD never

structure Shape where
  integer : Bool
  fraction : Bool
  exponent : Bool

def shapes : List Shape :=
  [⟨true, true, true⟩]
    ++ (if form.strictFloat then [] else [⟨true, true, false⟩, ⟨true, false, true⟩])
    ++ [⟨true, false, false⟩]
    ++ (if form.fraction = .trailingOrLeading then
          [⟨false, true, true⟩] ++ if form.strictFloat then [] else [⟨false, true, false⟩]
        else [])

def Shape.expression (s : Shape) : Expression :=
  .seq (if s.integer then form.integerExpression else .empty)
    (.seq (if s.fraction then form.fractionExpression else .empty)
      (.seq (if s.exponent then form.exponentExpression else .empty)
        (form.suffixes.expression (s.fraction || s.exponent))))

def expression : Expression :=
  .seq form.markerExpression (choose (form.shapes.map (Shape.expression form)))

def fractionAt (text : Text) : Option Split :=
  if form.fraction = .none then none else form.readFraction text

theorem readMarker_eq (text : Text) :
    form.readMarker text = match form.markers with
      | none => some (.untouched text)
      | some [] => takeOne (· == '0') text
      | some markers => readThen (takeOne (· == '0')) (takeOne markers.contains) text := by
  cases hm : form.markers with
  | none => simp [readMarker, hm]
  | some markers =>
      cases text with
      | nil => cases markers <;> simp [readMarker, readThen, takeOne, hm]
      | cons c rest =>
          by_cases hc : c = '0'
          · subst hc
            cases markers with
            | nil => simp [readMarker, takeOne, hm]
            | cons m markers =>
                cases rest with
                | nil => simp [readMarker, readThen, takeOne, hm]
                | cons d rest =>
                    simp only [readMarker, hm, readThen_takeOne_cons, takeOne, beq_self_eq_true,
                      if_true]
                    split <;> rfl
          · cases markers <;> simp [readMarker, readThen, takeOne, hm, hc]

theorem readInteger_eq (text : Text) :
    form.readInteger text = match form.leadingZero with
      | .forbidden => (takeOne (· == '0') text).or (form.digits.scan text)
      | .permitted => form.digits.scan text := by
  cases hz : form.leadingZero with
  | permitted => simp [readInteger, hz]
  | forbidden =>
      cases text with
      | nil => simp [readInteger, takeOne, hz]
      | cons c rest =>
          by_cases hc : c = '0'
          · subst hc
            simp [readInteger, takeOne, hz]
          · simp [readInteger, takeOne, hz, hc]

theorem readFraction_eq (text : Text) :
    form.readFraction text = readThen (takeOne (· == '.')) form.digits.scan text := by
  cases text with
  | nil => rfl
  | cons c rest => by_cases hc : c = '.' <;> simp [readFraction, hc]

theorem denotes_markerExpression : form.markerExpression.Denotes form.readMarker := by
  refine Denotes.congr ?_ fun text => (form.readMarker_eq text).symm
  rw [markerExpression]
  cases form.markers with
  | none => exact denotes_empty
  | some markers =>
      cases markers with
      | nil => exact denotes_one _
      | cons m markers => exact (denotes_one _).seq (denotes_one _)

theorem denotes_integerExpression : form.integerExpression.Denotes form.readInteger := by
  refine Denotes.congr ?_ fun text => (form.readInteger_eq text).symm
  rw [integerExpression]
  cases form.leadingZero with
  | permitted => exact form.digits.denotes_expression
  | forbidden => exact (denotes_one _).choice form.digits.denotes_expression

theorem denotes_fractionExpression : form.fractionExpression.Denotes form.fractionAt := by
  rw [fractionExpression]
  split
  · next hp => exact denotes_never.congr fun text => by rw [fractionAt, if_pos hp]
  · next hp =>
    refine ((denotes_one _).seq form.digits.denotes_expression).congr fun text => ?_
    rw [fractionAt, if_neg hp, readFraction_eq]

theorem denotes_exponentExpression : form.exponentExpression.Denotes form.readExponent := by
  rw [exponentExpression]
  cases he : form.exponent with
  | none => exact denotes_never.congr fun text => by simp [readExponent, he]
  | some e => exact e.denotes_expression.congr fun text => by simp [readExponent, he]

theorem denotes_part (b : Bool) {e : Expression} {read : Text → Option Split} (h : e.Denotes read) :
    (if b then e else .empty).Denotes (if b then read else fun text => some (.untouched text)) := by
  cases b with
  | true => exact h
  | false => exact denotes_empty

def Shape.read (s : Shape) : Text → Option Split :=
  readThen (if s.integer then form.readInteger else fun text => some (.untouched text))
    (readThen (if s.fraction then form.fractionAt else fun text => some (.untouched text))
      (readThen (if s.exponent then form.readExponent else fun text => some (.untouched text))
        fun text => some (form.suffixes.read (s.fraction || s.exponent) text)))

theorem Shape.denotes_expression (s : Shape) : (s.expression form).Denotes (s.read form) :=
  (denotes_part _ form.denotes_integerExpression).seq
    ((denotes_part _ form.denotes_fractionExpression).seq
      ((denotes_part _ form.denotes_exponentExpression).seq (form.suffixes.denotes_expression _)))

theorem readFraction_of_fractionAt {form : NumericForm} {text : Text} {s : Split}
    (h : form.fractionAt text = some s) : form.readFraction text = some s := by
  rw [fractionAt] at h
  split at h
  · cases h
  · exact h

theorem trailingFraction_eq (text : Text) :
    form.trailingFraction text = readOptional form.fractionAt text := by
  rw [trailingFraction, readOptional]
  by_cases hp : form.fraction = .none <;> simp [fractionAt, readOptional, hp]

theorem afterInteger_eq (text : Text) :
    form.afterInteger text = match form.fractionAt text with
      | none => match form.readExponent text with
        | none => ⟨.untouched text, false⟩
        | some exponent =>
            if form.strictFloat then ⟨.untouched text, false⟩ else ⟨exponent, true⟩
      | some fraction => match form.readExponent fraction.rest with
        | none => if form.strictFloat then ⟨.untouched text, false⟩ else ⟨fraction, true⟩
        | some exponent => ⟨exponent.following fraction.taken, true⟩ := by
  rw [afterInteger, trailingFraction_eq, readOptional]
  cases hf : form.fractionAt text with
  | none =>
      cases hx : form.readExponent text with
      | none => simp [readOptional, Split.untouched, hx]
      | some exponent =>
          have he := List.isEmpty_eq_false_iff.mpr (taken_ne_nil_of_readExponent hx)
          simp [readOptional, Split.untouched, hx, he]
  | some fraction =>
      have hn := List.isEmpty_eq_false_iff.mpr
        (taken_ne_nil_of_readFraction (readFraction_of_fractionAt hf))
      cases hx : form.readExponent fraction.rest with
      | none => simp [readOptional, Split.untouched, Split.following, hx, hn]
      | some exponent =>
          have he := List.isEmpty_eq_false_iff.mpr (taken_ne_nil_of_readExponent hx)
          simp [readOptional, hx, hn, he]

theorem withoutInteger_eq (text : Text) :
    form.withoutInteger text =
      if form.fraction = .trailingOrLeading then
        (form.fractionAt text).bind fun fraction => match form.readExponent fraction.rest with
          | none => if form.strictFloat then none else some ⟨fraction, true⟩
          | some exponent => some ⟨exponent.following fraction.taken, true⟩
      else none := by
  rw [withoutInteger]
  split
  · next hp =>
    have hf : form.fractionAt text = form.readFraction text := by simp [fractionAt, hp]
    rw [hf]
    congr 1
    funext fraction
    cases hx : form.readExponent fraction.rest with
    | none => simp [readOptional, Split.untouched, Split.following, hx]
    | some exponent =>
        have he := List.isEmpty_eq_false_iff.mpr (taken_ne_nil_of_readExponent hx)
        simp [readOptional, hx, he]
  · rfl

def suffixed (m : Magnitude) : Split :=
  (form.suffixes.read m.isFloat m.split.rest).following m.split.taken

theorem findSome?_shapes_of_integer {text : Text} {integer : Split}
    (hi : form.readInteger text = some integer) :
    form.shapes.findSome? (fun s => s.read form text)
      = (form.readMagnitude text).map form.suffixed := by
  rw [readMagnitude_of_integer hi, afterInteger_eq]
  cases hf : form.fractionAt integer.rest with
  | none =>
      cases hx : form.readExponent integer.rest <;> cases hs : form.strictFloat <;>
        simp [shapes, Shape.read, readThen, suffixed, Split.untouched, hi, hf, hx, hs]
  | some fraction =>
      cases hx : form.readExponent fraction.rest <;> cases hs : form.strictFloat <;>
        simp [shapes, Shape.read, readThen, suffixed, Split.untouched, hi, hf, hx, hs]

theorem findSome?_shapes_of_no_integer {text : Text} (hi : form.readInteger text = none) :
    form.shapes.findSome? (fun s => s.read form text)
      = (form.readMagnitude text).map form.suffixed := by
  rw [readMagnitude_of_no_integer hi, withoutInteger_eq]
  by_cases hp : form.fraction = .trailingOrLeading
  · cases hf : form.fractionAt text with
    | none =>
        cases hs : form.strictFloat <;>
          simp [shapes, Shape.read, readThen, Split.untouched, hi, hp, hf, hs]
    | some fraction =>
        cases hx : form.readExponent fraction.rest <;> cases hs : form.strictFloat <;>
          simp [shapes, Shape.read, readThen, suffixed, Split.untouched, hi, hp, hf, hx, hs]
  · cases hs : form.strictFloat <;> simp [shapes, Shape.read, readThen, hi, hp, hs]

theorem denotes_expression : form.expression.Denotes form.scan := by
  have hchoice := Denotes.choose (Shape.denotes_expression form) form.shapes
  refine (form.denotes_markerExpression.seq hchoice).congr fun text => ?_
  rw [readThen, scan]
  congr 1
  funext marker
  have hshapes : form.shapes.findSome? (fun s => s.read form marker.rest)
      = (form.readMagnitude marker.rest).map form.suffixed := by
    cases hi : form.readInteger marker.rest with
    | none => exact form.findSome?_shapes_of_no_integer hi
    | some integer => exact form.findSome?_shapes_of_integer hi
  rw [hshapes, Option.map_map]
  congr 1
  funext m
  exact Split.following_following ..

end NumericForm

end LexicalGrammar
