import LexicalGrammar.Comment
import LexicalGrammar.Proofs.Cursor.Pass
import Mathlib.Logic.Relation

namespace LexicalGrammar

namespace BlockComment

structure Delimited (block : BlockComment) : Prop where
  opening_ne_nil : block.opening ≠ []
  close_ne_nil : block.close ≠ []

theorem delimited_of_defect? {g : CommentGrammar} {block : BlockComment} (hg : g.defect? = none)
    (hb : g.block = some block) : block.Delimited :=
  have h := (CommentGrammar.defect?_eq_none_iff.mp hg).2 block hb
  ⟨h.1, h.2⟩

structure Loop where
  depth : Nat
  cursor : Cursor
deriving DecidableEq, Repr

inductive Turn where
  | again (l : Loop)
  | leave (closed : Bool) (c : Cursor)
  | underflow
deriving DecidableEq, Repr

def turn (block : BlockComment) (l : Loop) : Turn :=
  if l.cursor.isAtEnd then .leave false l.cursor
  else
    let close := l.cursor.eatText block.close
    if close.1 then
      match l.depth with
      | 0 => .underflow
      | 1 => .leave true close.2
      | depth + 2 => .again ⟨depth + 1, close.2⟩
    else
      let opening := if block.nested then close.2.eatText block.opening else (false, close.2)
      if opening.1 then .again ⟨l.depth + 1, opening.2⟩ else .again ⟨l.depth, opening.2.advance⟩

inductive Runs (block : BlockComment) : Loop → Bool × Cursor → Prop
  | leave {l : Loop} {closed : Bool} {c : Cursor} (h : block.turn l = .leave closed c) :
      Runs block l (closed, c)
  | again {l m : Loop} {e : Bool × Cursor} (h : block.turn l = .again m) (hm : Runs block m e) :
      Runs block l e

def Reaches (block : BlockComment) : Loop → Loop → Prop :=
  Relation.ReflTransGen fun l m => block.turn l = .again m

theorem Runs.unique {block : BlockComment} {l : Loop} {e e' : Bool × Cursor} (h : block.Runs l e)
    (h' : block.Runs l e') : e = e' := by
  induction h with
  | leave h =>
      cases h' with
      | leave h' =>
          obtain ⟨rfl, rfl⟩ := Turn.leave.inj (h.symm.trans h')
          rfl
      | again h' _ => cases h.symm.trans h'
  | again h _ ih =>
      cases h' with
      | leave h' => cases h.symm.trans h'
      | again h' hm =>
          obtain rfl := Turn.again.inj (h.symm.trans h')
          exact ih hm

theorem Reaches.runs {block : BlockComment} {l m : Loop} {e : Bool × Cursor}
    (h : block.Reaches l m) (hm : block.Runs m e) : block.Runs l e := by
  induction h using Relation.ReflTransGen.head_induction_on with
  | refl => exact hm
  | head h _ ih => exact .again h ih

section Turn

variable {block : BlockComment} {c : Cursor}

theorem turn_of_end (h : c.rest = []) (depth : Nat) : block.turn ⟨depth, c⟩ = .leave false c := by
  simp [turn, Cursor.isAtEnd_iff.mpr h]

theorem turn_of_close (hb : block.Delimited) (h : block.close <+: c.rest) (depth : Nat) :
    block.turn ⟨depth, c⟩ = match depth with
      | 0 => .underflow
      | 1 => .leave true (c.pass block.close)
      | depth + 2 => .again ⟨depth + 1, c.pass block.close⟩ := by
  obtain ⟨left, hleft⟩ := h
  have hend := Cursor.isAtEnd_of_isPrefix hb.close_ne_nil ⟨left, hleft⟩
  simp [turn, hend, Cursor.eatText_of_rest hleft.symm]

theorem turn_of_opening (hb : block.Delimited) (hc : ¬block.close <+: c.rest)
    (hn : block.nested = true) (h : block.opening <+: c.rest) (depth : Nat) :
    block.turn ⟨depth, c⟩ = .again ⟨depth + 1, c.pass block.opening⟩ := by
  obtain ⟨left, hleft⟩ := h
  have hend := Cursor.isAtEnd_of_isPrefix hb.opening_ne_nil ⟨left, hleft⟩
  simp [turn, hend, hn, Cursor.eatText_of_not hc, Cursor.eatText_of_rest hleft.symm]

theorem turn_of_other (hend : c.isAtEnd = false) (hc : ¬block.close <+: c.rest)
    (ho : block.nested = true → ¬block.opening <+: c.rest) (depth : Nat) :
    block.turn ⟨depth, c⟩ = .again ⟨depth, c.advance⟩ := by
  cases hn : block.nested with
  | false => simp [turn, hend, hn, Cursor.eatText_of_not hc]
  | true => simp [turn, hend, hn, Cursor.eatText_of_not hc, Cursor.eatText_of_not (ho hn)]

end Turn

inductive Faces (block : BlockComment) (c : Cursor) : Prop
  | nothing (h : c.rest = [])
  | close (h : block.close <+: c.rest)
  | opening (hclose : ¬block.close <+: c.rest) (hn : block.nested = true)
      (h : block.opening <+: c.rest)
  | other (hend : c.isAtEnd = false) (hclose : ¬block.close <+: c.rest)
      (hopening : block.nested = true → ¬block.opening <+: c.rest)

theorem faces (block : BlockComment) (c : Cursor) : block.Faces c := by
  by_cases hend : c.rest = []
  · exact .nothing hend
  · by_cases hclose : block.close <+: c.rest
    · exact .close hclose
    · by_cases hopening : block.nested = true ∧ block.opening <+: c.rest
      · exact .opening hclose hopening.1 hopening.2
      · refine .other (by simpa [Cursor.isAtEnd] using hend) hclose fun hn h => hopening ⟨hn, h⟩

inductive Loop.Turns (l : Loop) : Turn → Prop
  | finish (h : l.cursor.rest = []) : Turns l (.leave false l.cursor)
  | underflow (h : l.depth = 0) : Turns l .underflow
  | leave {taken left : Text} (hne : taken ≠ []) (hrest : l.cursor.rest = taken ++ left)
      (h : l.depth = 1) : Turns l (.leave true (l.cursor.pass taken))
  | again {taken left : Text} {depth : Nat} (hne : taken ≠ [])
      (hrest : l.cursor.rest = taken ++ left)
      (h : depth = l.depth ∨ depth = l.depth + 1 ∨ 0 < depth ∧ depth + 1 = l.depth) :
      Turns l (.again ⟨depth, l.cursor.pass taken⟩)

theorem turns {block : BlockComment} (hb : block.Delimited) (l : Loop) : l.Turns (block.turn l) := by
  obtain ⟨depth, c⟩ := l
  cases block.faces c with
  | nothing hend =>
      rw [turn_of_end hend]
      exact .finish hend
  | close hclose =>
      rw [turn_of_close hb hclose]
      obtain ⟨left, hleft⟩ := hclose
      match depth with
      | 0 => exact .underflow rfl
      | 1 => exact .leave hb.close_ne_nil hleft.symm rfl
      | depth + 2 =>
          exact .again hb.close_ne_nil hleft.symm (Or.inr (Or.inr ⟨Nat.succ_pos depth, rfl⟩))
  | opening hclose hn hopening =>
      rw [turn_of_opening hb hclose hn hopening]
      obtain ⟨left, hleft⟩ := hopening
      exact .again hb.opening_ne_nil hleft.symm (Or.inr (Or.inl rfl))
  | other hend hclose hopening =>
      rw [turn_of_other hend hclose hopening]
      have hne : c.rest ≠ [] := mt Cursor.isAtEnd_iff.mpr (Bool.eq_false_iff.mp hend)
      obtain ⟨x, left, hrest⟩ := List.exists_cons_of_ne_nil hne
      exact .again (List.cons_ne_nil x []) hrest (Or.inl rfl)

structure Loop.Within (c : Cursor) (l : Loop) : Prop where
  source : l.cursor.source = c.source
  depth_pos : 0 < l.depth
  depth_le : l.depth + c.position ≤ l.cursor.position + 1

section Turns

variable {block : BlockComment} {c d : Cursor} {l m : Loop}

theorem position_lt_of_again (hb : block.Delimited) (h : block.turn l = .again m) :
    l.cursor.position < m.cursor.position := by
  cases h ▸ turns hb l with
  | again hne hrest _ => exact Cursor.position_lt_pass hne hrest

theorem position_lt_of_leave (hb : block.Delimited) (h : block.turn l = .leave true d) :
    l.cursor.position < d.position := by
  cases h ▸ turns hb l with
  | leave hne hrest _ => exact Cursor.position_lt_pass hne hrest

theorem turn_ne_underflow (hb : block.Delimited) (h : 0 < l.depth) : block.turn l ≠ .underflow := by
  intro hturn
  cases hturn ▸ turns hb l with
  | underflow hzero => exact Nat.ne_of_gt h hzero

theorem Loop.Within.start (c : Cursor) : Loop.Within c ⟨1, c⟩ :=
  ⟨rfl, Nat.one_pos, Nat.le_of_eq (Nat.add_comm 1 c.position)⟩

theorem Loop.Within.again (hb : block.Delimited) (hl : l.Within c) (h : block.turn l = .again m) :
    m.Within c := by
  obtain ⟨hsource, hpos, hle⟩ := hl
  cases h ▸ turns hb l with
  | again hne hrest hdepth =>
      have hlt := Cursor.position_lt_pass hne hrest
      refine ⟨(Cursor.source_pass ..).trans hsource, ?_, ?_⟩
      · simp only
        omega
      · simp only
        omega

theorem Reaches.within (hb : block.Delimited) (hl : l.Within c) (h : block.Reaches l m) :
    m.Within c := by
  induction h with
  | refl => exact hl
  | tail _ hturn ih => exact ih.again hb hturn

end Turns

theorem runs_scanBody {block : BlockComment} (hb : block.Delimited) (depth : Nat) (text : Text) :
    ∀ c : Cursor, c.rest = text → block.Runs ⟨depth + 1, c⟩
      ((block.scanBody depth 0 text).closed, c.pass (block.scanBody depth 0 text).text) := by
  induction depth, text using block.scanBody_induction hb.opening_ne_nil hb.close_ne_nil with
  | nil depth =>
      intro c hc
      rw [scanBody, Cursor.pass_nil]
      exact .leave (turn_of_end hc _)
  | close text left hl =>
      intro c hc
      have hsplit : block.close ++ left = c.rest := ((after?_eq_some_iff.mp hl).symm).trans hc.symm
      rw [scanBody_of_close hb.close_ne_nil hl]
      exact .leave (turn_of_close hb ⟨left, hsplit⟩ 1)
  | innerClose depth text left hl ih =>
      intro c hc
      have hsplit : block.close ++ left = c.rest := ((after?_eq_some_iff.mp hl).symm).trans hc.symm
      have hrun := ih _ (Cursor.rest_pass_of_rest hsplit.symm)
      rw [Cursor.pass_pass] at hrun
      rw [scanBody_of_inner_close hb.close_ne_nil hl]
      exact .again (turn_of_close hb ⟨left, hsplit⟩ (depth + 2)) hrun
  | innerOpen depth text left hn hnested hl ih =>
      intro c hc
      have hsplit : block.opening ++ left = c.rest := ((after?_eq_some_iff.mp hl).symm).trans hc.symm
      have hclose : ¬block.close <+: c.rest := by simp [← isSome_after?_iff, hc, hn]
      have hrun := ih _ (Cursor.rest_pass_of_rest hsplit.symm)
      rw [Cursor.pass_pass] at hrun
      rw [scanBody_of_open hb.opening_ne_nil hn hnested hl]
      exact .again (turn_of_opening hb hclose hnested ⟨left, hsplit⟩ _) hrun
  | other depth ch rest hn hopen ih =>
      intro c hc
      have hend : c.isAtEnd = false := by simp [Cursor.isAtEnd, hc]
      have hclose : ¬block.close <+: c.rest := by simp [← isSome_after?_iff, hc, hn]
      have hopening (h : block.nested = true) : ¬block.opening <+: c.rest := by
        simp [← isSome_after?_iff, hc, hopen h]
      have hsplit : c.rest = [ch] ++ rest := hc
      have hrun := ih _ (Cursor.rest_pass_of_rest hsplit)
      rw [Cursor.pass_pass] at hrun
      rw [scanBody_of_other hn hopen]
      exact .again (turn_of_other hend hclose hopening _) hrun

def readBody (block : BlockComment) (c : Cursor) : Bool × Cursor :=
  ((block.scanBody 0 0 c.rest).closed, c.pass (block.scanBody 0 0 c.rest).text)

theorem runs_iff {block : BlockComment} (hb : block.Delimited) (c : Cursor) {e : Bool × Cursor} :
    block.Runs ⟨1, c⟩ e ↔ e = block.readBody c := by
  have hrun := runs_scanBody hb 0 c.rest c rfl
  constructor
  · exact fun h => h.unique hrun
  · rintro rfl
    exact hrun

end BlockComment

end LexicalGrammar
