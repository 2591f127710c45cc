import LexicalGrammar.Proofs.Number.Rollback

namespace LexicalGrammar

namespace DigitRun

inductive Loop where
  | inner (c : Cursor)
  | outer (c : Cursor)
deriving DecidableEq, Repr

inductive Turn where
  | again (l : Loop)
  | leave (c : Cursor)
deriving DecidableEq, Repr

def separates (run : DigitRun) (c : Cursor) : Bool :=
  run.separator.any fun s => c.current == some s && (c.peek 1).any run.radix.isDigit

def turn (run : DigitRun) : Loop → Turn
  | .inner c =>
      let digit := c.eatIf run.radix.isDigit
      if digit.1 then .again (.inner digit.2) else .again (.outer digit.2)
  | .outer c => if run.separates c then .again (.inner c.advance) else .leave c

inductive Runs (run : DigitRun) : Loop → Cursor → Prop
  | leave {l : Loop} {c : Cursor} (h : run.turn l = .leave c) : Runs run l c
  | again {l m : Loop} {c : Cursor} (h : run.turn l = .again m) (hm : Runs run m c) : Runs run l c

inductive Scans (run : DigitRun) (c : Cursor) : Bool × Cursor → Prop
  | refused (h : (c.eatIf run.radix.isDigit).1 = false) :
      Scans run c (false, (c.eatIf run.radix.isDigit).2)
  | digits {d : Cursor} (h : (c.eatIf run.radix.isDigit).1 = true)
      (hd : run.Runs (.inner (c.eatIf run.radix.isDigit).2) d) : Scans run c (true, d)

section Turns

variable {run : DigitRun} {c : Cursor} {x : Char} {left : Text}

theorem separates_of_rest (h : c.rest = x :: left) :
    run.separates c = (run.separator == some x && left.head?.any run.radix.isDigit) := by
  rw [separates, Cursor.current, Cursor.peek, h, List.getElem?_cons_succ, ← List.head?_eq_getElem?]
  cases run.separator with
  | none => rfl
  | some s => simp [Bool.beq_comm]

theorem separates_of_end (h : c.rest = []) : run.separates c = false := by
  cases hs : run.separator <;> simp [separates, Cursor.current, h, hs]

theorem takes_eq (h : c.rest = x :: left) (hx : run.radix.isDigit x = false) :
    run.takes x left = run.separates c := by
  rw [separates_of_rest h, takes, hx, Bool.false_or]

theorem turn_digit (h : c.rest = x :: left) (hx : run.radix.isDigit x = true) :
    run.turn (.inner c) = .again (.inner (c.pass [x])) := by
  simp only [turn, Cursor.eatIf_of_rest h hx, if_true]

theorem turn_other (h : c.rest.head?.any run.radix.isDigit = false) :
    run.turn (.inner c) = .again (.outer c) := by
  simp only [turn, Cursor.eatIf_of_head? h, Bool.false_eq_true, if_false]

theorem turn_separator (h : run.separates c = true) :
    run.turn (.outer c) = .again (.inner c.advance) := if_pos h

theorem turn_end (h : run.separates c = false) : run.turn (.outer c) = .leave c :=
  if_neg (Bool.eq_false_iff.mp h)

inductive Loop.Turns (run : DigitRun) : Loop → Turn → Prop
  | digit {c : Cursor} {x : Char} {left : Text} (hrest : c.rest = x :: left)
      (hx : run.radix.isDigit x = true) : Turns run (.inner c) (.again (.inner (c.pass [x])))
  | other {c : Cursor} (h : c.rest.head?.any run.radix.isDigit = false) :
      Turns run (.inner c) (.again (.outer c))
  | separator {c : Cursor} {x : Char} {left : Text} (hrest : c.rest = x :: left)
      (hs : run.separates c = true) : Turns run (.outer c) (.again (.inner (c.pass [x])))
  | leave {c : Cursor} (h : run.separates c = false) : Turns run (.outer c) (.leave c)

theorem turns (run : DigitRun) (l : Loop) : l.Turns run (run.turn l) := by
  cases l with
  | inner c =>
      cases hrest : c.rest with
      | nil =>
          have hnone : c.rest.head?.any run.radix.isDigit = false := by rw [hrest]; rfl
          rw [turn_other hnone]
          exact .other hnone
      | cons x left =>
          cases hx : run.radix.isDigit x with
          | true =>
              rw [turn_digit hrest hx]
              exact .digit hrest hx
          | false =>
              have hnone : c.rest.head?.any run.radix.isDigit = false := by rw [hrest]; exact hx
              rw [turn_other hnone]
              exact .other hnone
  | outer c =>
      cases hs : run.separates c with
      | false =>
          rw [turn_end hs]
          exact .leave hs
      | true =>
          cases hrest : c.rest with
          | nil => simp [separates_of_end hrest] at hs
          | cons x left =>
              rw [turn_separator hs]
              exact .separator hrest hs

end Turns

def Loop.bound : Loop → Nat
  | .inner c => 2 * c.rest.length + 1
  | .outer c => 2 * c.rest.length

-- The turn from the inner loop to the outer one does not move the cursor, but it does lower the bound.
theorem bound_lt_of_again {run : DigitRun} {l m : Loop} (h : run.turn l = .again m) :
    m.bound < l.bound := by
  cases h ▸ run.turns l with
  | digit hrest _ =>
      have hlength := Cursor.length_rest_pass_one hrest
      simp only [Loop.bound]
      omega
  | other _ => exact Nat.lt_succ_self _
  | separator hrest _ =>
      have hlength := Cursor.length_rest_pass_one hrest
      simp only [Loop.bound]
      omega

theorem wellFounded_turn (run : DigitRun) : WellFounded fun m l => run.turn l = .again m :=
  Subrelation.wf bound_lt_of_again (measure Loop.bound).wf

theorem Runs.unique {run : DigitRun} {l : Loop} {c d : Cursor} (h : run.Runs l c)
    (h' : run.Runs l d) : c = d := by
  induction h with
  | leave h =>
      cases h' with
      | leave h' => exact Turn.leave.inj (h.symm.trans h')
      | again h' _ => cases h.symm.trans h'
  | again h _ ih =>
      cases h' with
      | leave h' => cases h.symm.trans h'
      | again h' hm =>
          obtain rfl := Turn.again.inj (h.symm.trans h')
          exact ih hm

theorem runs_more (run : DigitRun) (text : Text) :
    ∀ c : Cursor, c.rest = text → run.Runs (.inner c) (c.pass (run.more text).taken) := by
  induction text with
  | nil =>
      intro c hc
      have hnone : c.rest.head?.any run.radix.isDigit = false := by rw [hc]; rfl
      rw [more, Split.untouched, Cursor.pass_nil]
      exact .again (turn_other hnone) (.leave (turn_end (separates_of_end hc)))
  | cons x left ih =>
      intro c hc
      have hlater := ih (c.pass [x]) (Cursor.rest_pass_of_rest hc)
      rw [Cursor.pass_pass] at hlater
      cases hx : run.radix.isDigit x with
      | true =>
          have ht : run.takes x left = true := by rw [takes, hx, Bool.true_or]
          rw [more, if_pos ht]
          exact .again (turn_digit hc hx) hlater
      | false =>
          -- The inner loop stops here, and the outer one looks at the same character.
          have hnone : c.rest.head?.any run.radix.isDigit = false := by rw [hc]; exact hx
          have ht := takes_eq hc hx
          rw [more, ht]
          refine .again (turn_other hnone) ?_
          cases hs : run.separates c with
          | true => exact .again (turn_separator hs) hlater
          | false =>
              rw [if_neg Bool.false_ne_true, Split.untouched, Cursor.pass_nil]
              exact .leave (turn_end hs)

theorem Scans.unique {run : DigitRun} {c : Cursor} {e e' : Bool × Cursor} (h : run.Scans c e)
    (h' : run.Scans c e') : e = e' := by
  cases h with
  | refused h =>
      cases h' with
      | refused => rfl
      | digits h' _ => cases h.symm.trans h'
  | digits h hd =>
      cases h' with
      | refused h' => cases h.symm.trans h'
      | digits _ hd' => rw [hd.unique hd']

theorem scans_scan (run : DigitRun) (c : Cursor) : run.Scans c (c.eatPart run.scan) := by
  have hrefused (h : c.rest.head?.any run.radix.isDigit = false) : run.Scans c (false, c) := by
    have he := Cursor.eatIf_of_head? h
    simpa [he] using Scans.refused (congrArg Prod.fst he)
  rw [Cursor.eatPart]
  cases hc : c.rest with
  | nil => exact hrefused (by rw [hc]; rfl)
  | cons x left =>
      cases hx : run.radix.isDigit x with
      | false =>
          rw [scan, hx, if_neg Bool.false_ne_true]
          exact hrefused (by rw [hc]; exact hx)
      | true =>
          have he := Cursor.eatIf_of_rest hc hx
          have hd := run.runs_more left (c.pass [x]) (Cursor.rest_pass_of_rest hc)
          rw [Cursor.pass_pass] at hd
          rw [scan, if_pos hx]
          exact .digits (congrArg Prod.fst he) (by rw [he]; exact hd)

theorem scans_iff (run : DigitRun) (c : Cursor) {e : Bool × Cursor} :
    run.Scans c e ↔ e = c.eatPart run.scan := by
  constructor
  · exact fun h => h.unique (run.scans_scan c)
  · rintro rfl
    exact run.scans_scan c

end DigitRun

namespace Exponent

def passSign (e : Exponent) (c : Cursor) : Cursor :=
  if e.signed then (c.eatIf fun d => d == '+' || d == '-').2 else c

inductive Scans (e : Exponent) (c : Cursor) : Bool × Cursor → Prop
  | refused (h : (c.eatIf e.markers.contains).1 = false) :
      Scans e c (false, (c.eatIf e.markers.contains).2)
  | digits {d : Cursor} (h : (c.eatIf e.markers.contains).1 = true)
      (hd : e.digits.Scans (e.passSign (c.eatIf e.markers.contains).2) (true, d)) :
      Scans e c (true, d)
  | back {d : Cursor} (h : (c.eatIf e.markers.contains).1 = true)
      (hd : e.digits.Scans (e.passSign (c.eatIf e.markers.contains).2) (false, d)) :
      Scans e c (false, d.moveTo c.position)

theorem Scans.unique {e : Exponent} {c : Cursor} {r r' : Bool × Cursor} (h : e.Scans c r)
    (h' : e.Scans c r') : r = r' := by
  cases h with
  | refused h =>
      cases h' with
      | refused => rfl
      | digits h' _ => cases h.symm.trans h'
      | back h' _ => cases h.symm.trans h'
  | digits h hd =>
      cases h' with
      | refused h' => cases h.symm.trans h'
      | digits _ hd' => exact hd.unique hd'
      | back _ hd' => cases hd.unique hd'
  | back h hd =>
      cases h' with
      | refused h' => cases h.symm.trans h'
      | digits _ hd' => cases hd.unique hd'
      | back _ hd' =>
          obtain ⟨-, rfl⟩ := Prod.mk.inj (hd.unique hd')
          rfl

theorem scans_eat (e : Exponent) (c : Cursor) : e.Scans c (e.eat c) := by
  have hd : e.digits.Scans (e.passSign (c.eatIf e.markers.contains).2)
      (e.eatSigned (c.eatIf e.markers.contains).2) := e.digits.scans_scan _
  rw [eat]
  cases hm : (c.eatIf e.markers.contains).1 with
  | false =>
      have hc := Cursor.snd_eatIf hm
      have hrefused := Scans.refused hm
      rw [hc] at hrefused
      simpa [Cursor.orBack, hm, hc, Cursor.moveTo_position] using hrefused
  | true =>
      rw [if_pos rfl]
      cases hs : e.eatSigned (c.eatIf e.markers.contains).2 with
      | mk found d =>
          rw [hs] at hd
          cases found with
          | true => exact .digits hm hd
          | false => exact .back hm hd

theorem scans_iff (e : Exponent) (c : Cursor) {r : Bool × Cursor} :
    e.Scans c r ↔ r = c.eatPart e.scan := by
  have heat : e.eat c = c.eatPart e.scan := e.eat_eq c
  rw [← heat]
  constructor
  · exact fun h => h.unique (e.scans_eat c)
  · rintro rfl
    exact e.scans_eat c

end Exponent

end LexicalGrammar
