import LexicalGrammar.Toml.Reader

namespace LexicalGrammar.Toml

structure Date where
  year : Nat
  month : Nat
  day : Nat
deriving DecidableEq, Repr

/-- The fraction of a second is given by its digits, at most nine and the last of them not zero. -/
structure TimeOfDay where
  hour : Nat
  minute : Nat
  second : Nat
  fraction : Text
deriving DecidableEq, Repr

inductive Offset where
  | universal
  | minutes (east : Int)
deriving DecidableEq, Repr

inductive Moment where
  | date (d : Date)
  | time (t : TimeOfDay)
  | dateTime (d : Date) (t : TimeOfDay) (offset : Option Offset)
deriving DecidableEq, Repr

def daysIn (year month : Nat) : Nat :=
  if month = 2 then
    if year % 4 = 0 ∧ (year % 100 ≠ 0 ∨ year % 400 = 0) then 29 else 28
  else if month = 4 ∨ month = 6 ∨ month = 9 ∨ month = 11 then 30
  else 31

def Date.read : Reader Date
  | text => do
      let (year, text) ← digits 4 text
      let (month, text) ← digits 2 (← symbol '-' text)
      let (day, text) ← digits 2 (← symbol '-' text)
      if 1 ≤ month ∧ month ≤ 12 ∧ 1 ≤ day ∧ day ≤ daysIn year month then
        some (⟨year, month, day⟩, text)
      else none

def withoutLastZeros (run : Text) : Text := (run.reverse.dropWhile (· == '0')).reverse

def readFraction : Reader Text
  | '.' :: rest =>
      let run := rest.takeWhile Char.isDigit
      if run.isEmpty then none else some (withoutLastZeros (run.take 9), rest.dropWhile Char.isDigit)
  | text => some ([], text)

def readClock : Reader (Nat × Nat)
  | text => do
      let (hour, text) ← digits 2 text
      let (minute, text) ← digits 2 (← symbol ':' text)
      if hour ≤ 23 ∧ minute ≤ 59 then some ((hour, minute), text) else none

def TimeOfDay.read : Reader TimeOfDay
  | text => do
      let ((hour, minute), text) ← readClock text
      let (second, text) ← digits 2 (← symbol ':' text)
      let (part, text) ← readFraction text
      if second ≤ 60 then some (⟨hour, minute, second, part⟩, text) else none

namespace Offset

def east (hour minute : Nat) : Offset := .minutes (60 * hour + minute : Nat)

def west (hour minute : Nat) : Offset := .minutes (-(60 * hour + minute : Nat))

def ofText? : Text → Option Offset
  | ['Z'] | ['z'] => some .universal
  | sign :: text =>
      match readClock text with
      | some ((hour, minute), []) =>
          if sign = '+' then some (east hour minute)
          else if sign = '-' then some (west hour minute)
          else none
      | _ => none
  | [] => none

end Offset

def offsetTime? (text : Text) : Option (TimeOfDay × Option Offset) := do
  match ← TimeOfDay.read text with
  | (t, []) => return (t, none)
  | (t, rest) => return (t, some (← Offset.ofText? rest))

namespace Moment

def ofText? (text : Text) : Option Moment :=
  match TimeOfDay.read text, Date.read text with
  | some (t, []), _ => some (.time t)
  | _, some (d, []) => some (.date d)
  | _, some (d, 'T' :: rest) | _, some (d, 't' :: rest) =>
      (offsetTime? rest).map fun (t, offset) => .dateTime d t offset
  | _, _ => none

end Moment

def padded (size n : Nat) : Text := (Nat.toDigits 10 n).leftpad size '0'

def Date.write (d : Date) : Text :=
  padded 4 d.year ++ '-' :: padded 2 d.month ++ '-' :: padded 2 d.day

def TimeOfDay.write (t : TimeOfDay) : Text :=
  padded 2 t.hour ++ ':' :: padded 2 t.minute ++ ':' :: padded 2 t.second
    ++ if t.fraction.isEmpty then [] else '.' :: t.fraction

def Offset.write : Offset → Text
  | universal => ['Z']
  | minutes east =>
      (if east < 0 then '-' else '+') :: padded 2 (east.natAbs / 60) ++ ':' :: padded 2 (east.natAbs % 60)

def Moment.write : Moment → Text
  | date d => d.write
  | time t => t.write
  | dateTime d t offset => d.write ++ 'T' :: t.write ++ (offset.map Offset.write).getD []

end LexicalGrammar.Toml
