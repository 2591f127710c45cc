import LexicalGrammar.Text.Basic

namespace LexicalGrammar

inductive Radix where
  | binary
  | octal
  | decimal
  | hexadecimal
deriving DecidableEq, Repr

namespace Radix

def value : Radix → Nat
  | binary => 2
  | octal => 8
  | decimal => 10
  | hexadecimal => 16

def name : Radix → String
  | binary => "binary"
  | octal => "octal"
  | decimal => "decimal"
  | hexadecimal => "hexadecimal"

def digitValue? (c : Char) : Option Nat :=
  if '0' ≤ c ∧ c ≤ '9' then some (c.toNat - '0'.toNat)
  else if 'a' ≤ c ∧ c ≤ 'f' then some (c.toNat - 'a'.toNat + 10)
  else if 'A' ≤ c ∧ c ≤ 'F' then some (c.toNat - 'A'.toNat + 10)
  else none

def isDigit (radix : Radix) (c : Char) : Bool := (digitValue? c).any (· < radix.value)

theorem isDigit_zero (radix : Radix) : radix.isDigit '0' = true := by
  cases radix <;> decide

theorem isDigit_decimal (c : Char) : decimal.isDigit c = c.isDigit := by
  have hdigit : c.isDigit = decide ('0' ≤ c ∧ c ≤ '9') := by simp [Char.isDigit, Char.le_def]
  simp only [hdigit, isDigit, digitValue?, value]
  by_cases h : '0' ≤ c ∧ c ≤ '9'
  · have hle : c.toNat ≤ '9'.toNat := UInt32.le_iff_toNat_le.mp (Char.le_def.mp h.2)
    have hlt : c.toNat - '0'.toNat < 10 := by
      have h9 : '9'.toNat = 57 := rfl
      have h0 : '0'.toNat = 48 := rfl
      omega
    rw [if_pos h, decide_eq_true h]
    exact decide_eq_true hlt
  · have hletter (n : Nat) : decide (n + 10 < 10) = false := decide_eq_false (by omega)
    rw [if_neg h, decide_eq_false h]
    split
    · exact hletter (c.toNat - 'a'.toNat)
    · split
      · exact hletter (c.toNat - 'A'.toNat)
      · rfl

end Radix

structure DigitRun where
  radix : Radix
  separator : Option Char
deriving DecidableEq, Repr

namespace DigitRun

def takes (run : DigitRun) (c : Char) (rest : Text) : Bool :=
  run.radix.isDigit c || (run.separator == some c && rest.head?.any run.radix.isDigit)

def more (run : DigitRun) : Text → Split
  | [] => .untouched []
  | c :: rest =>
      if run.takes c rest then (run.more rest).following [c] else .untouched (c :: rest)

def scan (run : DigitRun) : Text → Option Split
  | [] => none
  | c :: rest => if run.radix.isDigit c then some ((run.more rest).following [c]) else none

@[simp] theorem whole_more (run : DigitRun) (text : Text) : (run.more text).whole = text := by
  induction text with
  | nil => rfl
  | cons c rest ih => simp only [more]; split <;> simp [ih]

theorem whole_of_scan {run : DigitRun} {text : Text} {s : Split} (h : run.scan text = some s) :
    s.whole = text := by
  cases text with
  | nil => simp [scan] at h
  | cons c rest =>
      simp only [scan] at h
      split at h
      · obtain rfl := Option.some.inj h; simp
      · simp at h

theorem taken_ne_nil_of_scan {run : DigitRun} {text : Text} {s : Split}
    (h : run.scan text = some s) : s.taken ≠ [] := by
  cases text with
  | nil => simp [scan] at h
  | cons c rest =>
      simp only [scan] at h
      split at h
      · obtain rfl := Option.some.inj h; simp
      · simp at h

end DigitRun

structure Exponent where
  markers : List Char
  signed : Bool
  separator : Option Char
deriving DecidableEq, Repr

namespace Exponent

def decimal : Exponent := ⟨['e', 'E'], true, some '_'⟩

def binary : Exponent := ⟨['p', 'P'], true, some '_'⟩

def digits (e : Exponent) : DigitRun := ⟨.decimal, e.separator⟩

def readSign (e : Exponent) : Text → Split :=
  readOne fun c => e.signed && (c == '+' || c == '-')

def scan (e : Exponent) : Text → Option Split
  | [] => none
  | c :: rest =>
      if e.markers.contains c then
        let sign := e.readSign rest
        (e.digits.scan sign.rest).map (Split.following (c :: sign.taken))
      else none

theorem whole_of_scan {e : Exponent} {text : Text} {s : Split} (h : e.scan text = some s) :
    s.whole = text := by
  cases text with
  | nil => simp [scan] at h
  | cons c rest =>
      simp only [scan] at h
      split at h
      · obtain ⟨d, hd, rfl⟩ := Option.map_eq_some_iff.mp h
        have hw : (e.readSign rest).whole = rest := whole_readOne _ _
        rw [Split.whole_following, DigitRun.whole_of_scan hd, List.cons_append]
        exact congrArg _ hw
      · simp at h

end Exponent

end LexicalGrammar
