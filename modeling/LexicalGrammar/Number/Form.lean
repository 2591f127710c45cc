import LexicalGrammar.Number.DigitRun

namespace LexicalGrammar

inductive LeadingZero where
  | permitted
  | forbidden
deriving DecidableEq, Repr

inductive Fraction where
  | none
  | trailing
  | trailingOrLeading
deriving DecidableEq, Repr

structure Suffixes where
  integer : List Char := []
  float : List Char := []
  repeated : Bool := false
deriving DecidableEq, Repr

namespace Suffixes

def integerOnly (letters : List Char) : Suffixes := { integer := letters }

def any (letters : List Char) (repeated : Bool) : Suffixes := ⟨letters, letters, repeated⟩

def letters (s : Suffixes) (isFloat : Bool) : List Char := if isFloat then s.float else s.integer

def read (s : Suffixes) (isFloat : Bool) : Text → Split :=
  if s.repeated then readWhile (s.letters isFloat).contains
  else readOne (s.letters isFloat).contains

@[simp] theorem whole_read (s : Suffixes) (isFloat : Bool) (text : Text) :
    (s.read isFloat text).whole = text := by
  simp only [read]; split <;> simp

end Suffixes

/-- Without `markers` there is no base marker; with them a literal begins with a `0` and one of them,
or with a bare `0` if there are none to choose from. -/
structure NumericForm where
  radix : Radix
  markers : Option (List Char) := none
  separator : Option Char := some '_'
  leadingZero : LeadingZero := .permitted
  fraction : Fraction := .none
  exponent : Option Exponent := none
  strictFloat : Bool := false
  suffixes : Suffixes := {}
deriving DecidableEq, Repr

namespace NumericForm

def binary : NumericForm := { radix := .binary, markers := some ['b', 'B'] }

def octal : NumericForm := { radix := .octal, markers := some ['o', 'O'] }

def legacyOctal : NumericForm := { radix := .octal, markers := some [], separator := none }

def hexadecimal : NumericForm := { radix := .hexadecimal, markers := some ['x', 'X'] }

def hexadecimalFloat : NumericForm :=
  { hexadecimal with fraction := .trailing, exponent := some .binary, strictFloat := true }

def decimal : NumericForm :=
  { radix := .decimal, fraction := .trailing, exponent := some .decimal }

def isPrefixed (form : NumericForm) : Bool := form.markers.isSome

def digits (form : NumericForm) : DigitRun := ⟨form.radix, form.separator⟩

def description (form : NumericForm) : String :=
  match form.markers, form.radix with
  | none, radix => radix.name
  | some _, .binary => "0b binary"
  | some _, .octal => "0o octal"
  | some _, .decimal => "0-prefixed decimal"
  | some _, .hexadecimal => "0x hexadecimal"

def readMarker (form : NumericForm) (text : Text) : Option Split :=
  match form.markers, text with
  | none, _ => some (.untouched text)
  | some [], '0' :: rest => some ⟨['0'], rest⟩
  | some markers, '0' :: m :: rest => if markers.contains m then some ⟨['0', m], rest⟩ else none
  | some _, _ => none

def readInteger (form : NumericForm) (text : Text) : Option Split :=
  match form.leadingZero, text with
  | .forbidden, '0' :: rest => some ⟨['0'], rest⟩
  | _, _ => form.digits.scan text

def readFraction (form : NumericForm) : Text → Option Split
  | '.' :: rest => (form.digits.scan rest).map (Split.following ['.'])
  | _ => none

def readExponent (form : NumericForm) (text : Text) : Option Split :=
  form.exponent.bind (·.scan text)

structure Magnitude where
  split : Split
  isFloat : Bool

def trailingFraction (form : NumericForm) (text : Text) : Split :=
  if form.fraction = .none then .untouched text else readOptional form.readFraction text

/-- A strict float keeps its fraction and its exponent together or drops both. -/
def afterInteger (form : NumericForm) (text : Text) : Magnitude :=
  let fraction := form.trailingFraction text
  let exponent := readOptional form.readExponent fraction.rest
  let hasFraction := !fraction.taken.isEmpty
  let hasExponent := !exponent.taken.isEmpty
  if form.strictFloat && hasFraction != hasExponent then ⟨.untouched text, false⟩
  else ⟨exponent.following fraction.taken, hasFraction || hasExponent⟩

def withoutInteger (form : NumericForm) (text : Text) : Option Magnitude :=
  if form.fraction = .trailingOrLeading then
    (form.readFraction text).bind fun fraction =>
      let exponent := readOptional form.readExponent fraction.rest
      if form.strictFloat && exponent.taken.isEmpty then none
      else some ⟨exponent.following fraction.taken, true⟩
  else none

def readMagnitude (form : NumericForm) (text : Text) : Option Magnitude :=
  match form.readInteger text with
  | some integer =>
      let m := form.afterInteger integer.rest
      some { m with split := m.split.following integer.taken }
  | none => form.withoutInteger text

def scan (form : NumericForm) (text : Text) : Option Split :=
  (form.readMarker text).bind fun marker =>
    (form.readMagnitude marker.rest).map fun m =>
      (form.suffixes.read m.isFloat m.split.rest).following (marker.taken ++ m.split.taken)

theorem whole_of_readMarker {form : NumericForm} {text : Text} {s : Split}
    (h : form.readMarker text = some s) : s.whole = text := by
  simp only [readMarker] at h
  split at h
  · obtain rfl := Option.some.inj h; rfl
  · obtain rfl := Option.some.inj h; rfl
  · split at h
    · obtain rfl := Option.some.inj h; rfl
    · simp at h
  · simp at h

theorem whole_of_readInteger {form : NumericForm} {text : Text} {s : Split}
    (h : form.readInteger text = some s) : s.whole = text := by
  simp only [readInteger] at h
  split at h
  · obtain rfl := Option.some.inj h; rfl
  · exact DigitRun.whole_of_scan h

theorem taken_ne_nil_of_readInteger {form : NumericForm} {text : Text} {s : Split}
    (h : form.readInteger text = some s) : s.taken ≠ [] := by
  simp only [readInteger] at h
  split at h
  · obtain rfl := Option.some.inj h; simp
  · exact DigitRun.taken_ne_nil_of_scan h

theorem whole_of_readFraction {form : NumericForm} {text : Text} {s : Split}
    (h : form.readFraction text = some s) : s.whole = text := by
  simp only [readFraction] at h
  split at h
  · obtain ⟨d, hd, rfl⟩ := Option.map_eq_some_iff.mp h
    simp [DigitRun.whole_of_scan hd]
  · simp at h

theorem taken_ne_nil_of_readFraction {form : NumericForm} {text : Text} {s : Split}
    (h : form.readFraction text = some s) : s.taken ≠ [] := by
  simp only [readFraction] at h
  split at h
  · obtain ⟨d, hd, rfl⟩ := Option.map_eq_some_iff.mp h
    simp
  · simp at h

theorem whole_of_readExponent {form : NumericForm} {text : Text} {s : Split}
    (h : form.readExponent text = some s) : s.whole = text := by
  obtain ⟨e, _, he⟩ := Option.bind_eq_some_iff.mp h
  exact Exponent.whole_of_scan he

@[simp] theorem whole_trailingFraction (form : NumericForm) (text : Text) :
    (form.trailingFraction text).whole = text := by
  simp only [trailingFraction]
  split
  · rfl
  · exact whole_readOptional fun s hs => whole_of_readFraction hs

theorem whole_exponentAfter (form : NumericForm) (s : Split) :
    ((readOptional form.readExponent s.rest).following s.taken).whole = s.whole := by
  rw [Split.whole_following, whole_readOptional fun e he => whole_of_readExponent he]
  rfl

@[simp] theorem whole_afterInteger (form : NumericForm) (text : Text) :
    (form.afterInteger text).split.whole = text := by
  simp only [afterInteger]
  split
  · rfl
  · rw [whole_exponentAfter, whole_trailingFraction]

theorem whole_of_withoutInteger {form : NumericForm} {text : Text} {m : Magnitude}
    (h : form.withoutInteger text = some m) : m.split.whole = text := by
  simp only [withoutInteger] at h
  split at h
  · obtain ⟨fraction, hf, hm⟩ := Option.bind_eq_some_iff.mp h
    split at hm
    · simp at hm
    · obtain rfl := Option.some.inj hm
      rw [whole_exponentAfter, whole_of_readFraction hf]
  · simp at h

theorem taken_ne_nil_of_withoutInteger {form : NumericForm} {text : Text} {m : Magnitude}
    (h : form.withoutInteger text = some m) : m.split.taken ≠ [] := by
  simp only [withoutInteger] at h
  split at h
  · obtain ⟨fraction, hf, hm⟩ := Option.bind_eq_some_iff.mp h
    split at hm
    · simp at hm
    · obtain rfl := Option.some.inj hm
      simp [taken_ne_nil_of_readFraction hf]
  · simp at h

theorem whole_of_readMagnitude {form : NumericForm} {text : Text} {m : Magnitude}
    (h : form.readMagnitude text = some m) : m.split.whole = text := by
  simp only [readMagnitude] at h
  split at h
  · next integer hi =>
    obtain rfl := Option.some.inj h
    rw [Split.whole_following, whole_afterInteger]
    exact whole_of_readInteger hi
  · exact whole_of_withoutInteger h

theorem taken_ne_nil_of_readMagnitude {form : NumericForm} {text : Text} {m : Magnitude}
    (h : form.readMagnitude text = some m) : m.split.taken ≠ [] := by
  simp only [readMagnitude] at h
  split at h
  · next integer hi =>
    obtain rfl := Option.some.inj h
    simp [taken_ne_nil_of_readInteger hi]
  · exact taken_ne_nil_of_withoutInteger h

theorem whole_of_scan {form : NumericForm} {text : Text} {s : Split}
    (h : form.scan text = some s) : s.whole = text := by
  obtain ⟨marker, hk, hs⟩ := Option.bind_eq_some_iff.mp h
  obtain ⟨m, hm, rfl⟩ := Option.map_eq_some_iff.mp hs
  rw [Split.whole_following, Suffixes.whole_read, List.append_assoc]
  exact (congrArg _ (whole_of_readMagnitude hm)).trans (whole_of_readMarker hk)

theorem taken_ne_nil_of_scan {form : NumericForm} {text : Text} {s : Split}
    (h : form.scan text = some s) : s.taken ≠ [] := by
  obtain ⟨marker, hk, hs⟩ := Option.bind_eq_some_iff.mp h
  obtain ⟨m, hm, rfl⟩ := Option.map_eq_some_iff.mp hs
  simp [taken_ne_nil_of_readMagnitude hm]

end NumericForm

end LexicalGrammar
