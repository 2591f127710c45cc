import LexicalGrammar.Proofs.Cursor.Bytes

namespace LexicalGrammar

namespace Cursor

def Step.savedAfter (n : Nat) : Step → Nat
  | .snapshot => n + 1
  | _ => n

def Step.isWithin (n : Nat) : Step → Bool
  | .restore index => index < n
  | _ => true

def restorable : Nat → List Step → Bool
  | _, [] => true
  | n, s :: steps => s.isWithin n && restorable (s.savedAfter n) steps

def Run.answers? (r : Run) : List Step → Option (List (Answer × Nat))
  | [] => some []
  | s :: steps => (r.step s).bind fun (a, after) =>
      (after.answers? steps).map fun later => (a, after.cursor.position) :: later

end Cursor

namespace ByteCursor

structure Shows (c : ByteCursor) (front rest : Text) : Prop where
  split : c.text = front ++ rest
  boundary : IsBoundary c.text c.offset
  within : c.offset ≤ width c.text
  passed : slice? c.text 0 c.offset = some front
  remaining : c.remaining? = some rest
  atEnd : c.isAtEnd = true ↔ rest = []
  current : c.current? = some rest.head?
  peek : ∀ n, c.peek? n = some rest[n]?

namespace Run

def past (r : Run) (matched : Text) : Run := { r with cursor := r.cursor.past matched }

def moveTo (r : Run) (offset : Nat) : Run := { r with cursor := { r.cursor with offset } }

def save (r : Run) : Run := { r with saved := r.saved ++ [r.cursor.offset] }

def answers? (r : Run) : List Cursor.Step → Option (List (Cursor.Answer × Nat))
  | [] => some []
  | s :: steps => (r.step? s).bind fun (a, after) =>
      (after.answers? steps).map fun later => (a, after.cursor.offset) :: later

inductive Eats (r : Run) (rest : Text) (P : Char → Prop) : Cursor.Answer → Run → Prop
  | hit (c : Char) (left : Text) (split : rest = c :: left) (matched : P c) :
      Eats r rest P (.flag true) (r.past [c])
  | miss (other : ∀ c ∈ rest.head?, ¬P c) : Eats r rest P (.flag false) r

inductive Obeys (r : Run) (rest : Text) : Cursor.Step → Cursor.Answer → Run → Prop
  | current : Obeys r rest .current (.character rest.head?) r
  | peek (n : Nat) : Obeys r rest (.peek n) (.character rest[n]?) r
  | advance (moved left : Text) (split : rest = moved ++ left)
      (count : moved.length = min 1 rest.length) : Obeys r rest .advance .done (r.past moved)
  | advanceBy (n : Nat) (moved left : Text) (split : rest = moved ++ left)
      (count : moved.length = min n rest.length) : Obeys r rest (.advanceBy n) .done (r.past moved)
  | eat (c : Char) {a : Cursor.Answer} {after : Run} (eats : Eats r rest (· = c) a after) :
      Obeys r rest (.eat c) a after
  | eatAny (set : List Char) {a : Cursor.Answer} {after : Run}
      (eats : Eats r rest (· ∈ set) a after) : Obeys r rest (.eatAny set) a after
  | eatIf (p : Char → Bool) {a : Cursor.Answer} {after : Run}
      (eats : Eats r rest (p · = true) a after) : Obeys r rest (.eatIf p) a after
  | eatText (text : Text) (opens : text <+: rest) :
      Obeys r rest (.eatText text) (.flag true) (r.past text)
  | eatText_miss (text : Text) (other : ¬text <+: rest) :
      Obeys r rest (.eatText text) (.flag false) r
  | startsWith (text : Text) : Obeys r rest (.startsWith text) (.flag (decide (text <+: rest))) r
  | remaining : Obeys r rest .remaining (.text rest) r
  | sliceFrom (start : Nat) (mid : Text) (slice : slice? r.cursor.text start r.cursor.offset = some mid)
      (ordered : start ≤ r.cursor.offset) (boundary : IsBoundary r.cursor.text start) :
      Obeys r rest (.sliceFrom start) (.text mid) r
  | sliceFrom_refused (start : Nat)
      (refused : r.cursor.offset < start ∨ ¬IsBoundary r.cursor.text start) :
      Obeys r rest (.sliceFrom start) .badSlice r
  | snapshot : Obeys r rest .snapshot (.position r.cursor.offset) r.save
  | restore (index offset : Nat) (saved : r.saved[index]? = some offset) :
      Obeys r rest (.restore index) .done (r.moveTo offset)

def Lawful (r : Run) : List Cursor.Step → Prop
  | [] => ∃ front rest, r.cursor.Shows front rest
  | s :: steps => ∃ front rest a after, r.cursor.Shows front rest ∧ r.step? s = some (a, after)
      ∧ r.Obeys rest s a after ∧ after.Lawful steps

variable {r after : Run} {rest : Text} {s : Cursor.Step} {a : Cursor.Answer}

theorem Obeys.text_eq (h : r.Obeys rest s a after) : after.cursor.text = r.cursor.text := by
  cases h with
  | eat c eats => cases eats <;> rfl
  | eatAny set eats => cases eats <;> rfl
  | eatIf p eats => cases eats <;> rfl
  | _ => rfl

theorem Obeys.saved_eq (h : r.Obeys rest s a after) :
    after.saved = r.saved ∧ s.savedAfter r.saved.length = r.saved.length
      ∨ after.saved = r.saved ++ [r.cursor.offset]
        ∧ s.savedAfter r.saved.length = r.saved.length + 1 := by
  cases h with
  | eat c eats => cases eats <;> exact Or.inl ⟨rfl, rfl⟩
  | eatAny set eats => cases eats <;> exact Or.inl ⟨rfl, rfl⟩
  | eatIf p eats => cases eats <;> exact Or.inl ⟨rfl, rfl⟩
  | snapshot => exact Or.inr ⟨rfl, rfl⟩
  | _ => exact Or.inl ⟨rfl, rfl⟩

end Run

end ByteCursor

namespace Cursor

theorem shows_bytes (c : Cursor) : c.bytes.Shows c.passed c.rest := by
  have hremaining := c.remaining?_bytes
  have hslice : slice? c.bytes.text 0 c.bytes.offset = some c.passed :=
    slice?_eq_some_iff.mpr ⟨c.rest, suffixAt?_zero _, (Nat.zero_add _).symm⟩
  have hboundary : IsBoundary c.bytes.text c.bytes.offset := ⟨c.rest, hremaining⟩
  refine ⟨rfl, hboundary, le_width_of_isBoundary hboundary, hslice, hremaining, ?_,
    c.current?_bytes, c.peek?_bytes⟩
  rw [isAtEnd_bytes]
  exact List.isEmpty_iff

theorem bytes_moveTo (c : Cursor) {offset : Nat} (h : IsBoundary c.source offset) :
    (c.moveTo offset).bytes = ⟨c.source, offset⟩ := by
  obtain ⟨rest, hrest⟩ := h
  rw [moveTo, bytes_ofOffset, ByteCursor.ofOffset, hrest]
  rfl

namespace Run

def start (text : Text) (offset : Nat) : Run := ⟨ofOffset text offset, []⟩

def bytes (r : Run) : ByteCursor.Run := ⟨r.cursor.bytes, r.saved⟩

def Sound (r : Run) : Prop := ∀ offset ∈ r.saved, IsBoundary r.cursor.source offset

variable {r after : Run} {s : Step} {a : Answer}

theorem step?_bytes (h : r.Sound) (s : Step) :
    r.bytes.step? s = (r.step s).map fun (a, after) => (a, after.bytes) := by
  have hcursor : r.bytes.cursor = r.cursor.bytes := rfl
  cases s with
  | current => rw [ByteCursor.Run.step?, hcursor, current?_bytes]; rfl
  | peek n => rw [ByteCursor.Run.step?, hcursor, peek?_bytes]; rfl
  | advance => rw [ByteCursor.Run.step?, hcursor, advance?_bytes]; rfl
  | advanceBy n => rw [ByteCursor.Run.step?, hcursor, advanceBy?_bytes]; rfl
  | eat c => rw [ByteCursor.Run.step?, hcursor, eatIf?_bytes]; rfl
  | eatAny set => rw [ByteCursor.Run.step?, hcursor, eatIf?_bytes]; rfl
  | eatIf p => rw [ByteCursor.Run.step?, hcursor, eatIf?_bytes]; rfl
  | eatText text => rw [ByteCursor.Run.step?, hcursor, eatText?_bytes]; rfl
  | startsWith text => rw [ByteCursor.Run.step?, hcursor, startsWith?_bytes]; rfl
  | remaining => rw [ByteCursor.Run.step?, hcursor, remaining?_bytes]; rfl
  | sliceFrom start =>
      rw [ByteCursor.Run.step?, hcursor, sliceFrom?_bytes, step]
      cases r.cursor.sliceFrom? start <;> rfl
  | snapshot => rfl
  | restore index =>
      change r.saved[index]?.map _ = (r.saved[index]?.map _).map _
      cases ho : r.saved[index]? with
      | none => rfl
      | some offset =>
          have hmove := r.cursor.bytes_moveTo (h offset (List.mem_of_getElem? ho))
          simp [bytes, hmove]
          rfl

theorem bytes_advanceBy (r : Run) (n : Nat) :
    { r with cursor := r.cursor.advanceBy n : Run }.bytes = r.bytes.past (r.cursor.rest.take n) := by
  rw [bytes, Cursor.bytes_advanceBy]
  rfl

theorem bytes_advanceBy_length (r : Run) {matched left : Text}
    (h : r.cursor.rest = matched ++ left) :
    { r with cursor := r.cursor.advanceBy matched.length : Run }.bytes = r.bytes.past matched := by
  rw [bytes, ← r.cursor.past_bytes h]
  rfl

theorem eats_eatIf (r : Run) {p : Char → Bool} {P : Char → Prop} (h : ∀ c, p c = true ↔ P c) :
    r.bytes.Eats r.cursor.rest P (.flag (r.cursor.eatIf p).1)
      { r with cursor := (r.cursor.eatIf p).2 : Run }.bytes := by
  rw [Cursor.eatIf, current]
  cases hr : r.cursor.rest with
  | nil => exact .miss (by simp)
  | cons c left =>
      rw [List.head?_cons, Option.any_some]
      split
      · next hp =>
        have hsplit : r.cursor.rest = [c] ++ left := hr
        exact r.bytes_advanceBy_length hsplit ▸ .hit c left rfl ((h c).mp hp)
      · next hp => exact .miss (by simpa [← h] using hp)

theorem obeys_sliceFrom (r : Run) (start : Nat) :
    ∃ a, r.step (.sliceFrom start) = some (a, r)
      ∧ r.bytes.Obeys r.cursor.rest (.sliceFrom start) a r.bytes := by
  have hslice : r.cursor.sliceFrom? start = slice? r.bytes.cursor.text start r.bytes.cursor.offset :=
    (r.cursor.sliceFrom?_bytes start).symm
  have hstop : IsBoundary r.bytes.cursor.text r.bytes.cursor.offset := r.cursor.shows_bytes.boundary
  rw [step, hslice]
  cases hs : slice? r.bytes.cursor.text start r.bytes.cursor.offset with
  | some mid =>
      obtain ⟨_, _, hwidth⟩ := slice?_eq_some_iff.mp hs
      exact ⟨_, rfl, .sliceFrom start mid hs (by omega) (isBoundary_of_slice? hs).1⟩
  | none =>
      refine ⟨_, rfl, .sliceFrom_refused start ?_⟩
      rcases Nat.lt_or_ge r.bytes.cursor.offset start with hlt | hle
      · exact Or.inl hlt
      · refine Or.inr fun hstart => ?_
        obtain ⟨mid, hmid⟩ := exists_slice? hstart hstop hle
        rw [hs] at hmid
        cases hmid

theorem exists_obeys (h : r.Sound) (hs : s.isWithin r.saved.length = true) :
    ∃ a after, r.step s = some (a, after) ∧ r.bytes.Obeys r.cursor.rest s a after.bytes := by
  have hsplit (n : Nat) := (List.take_append_drop n r.cursor.rest).symm
  cases s with
  | current => exact ⟨_, _, rfl, .current⟩
  | peek n => exact ⟨_, _, rfl, .peek n⟩
  | advance =>
      refine ⟨_, _, rfl, ?_⟩
      rw [Cursor.advance, bytes_advanceBy]
      exact .advance _ _ (hsplit 1) List.length_take
  | advanceBy n =>
      refine ⟨_, _, rfl, ?_⟩
      rw [bytes_advanceBy]
      exact .advanceBy n _ _ (hsplit n) List.length_take
  | eat c => exact ⟨_, _, rfl, .eat c (r.eats_eatIf fun d => beq_iff_eq)⟩
  | eatAny set => exact ⟨_, _, rfl, .eatAny set (r.eats_eatIf fun d => List.contains_iff_mem)⟩
  | eatIf p => exact ⟨_, _, rfl, .eatIf p (r.eats_eatIf fun d => Iff.rfl)⟩
  | eatText text =>
      refine ⟨_, _, rfl, ?_⟩
      rw [Cursor.eatText]
      split
      · next hstarts =>
        have hopens := isSome_after?_iff.mp hstarts
        obtain ⟨left, hleft⟩ := hopens
        exact r.bytes_advanceBy_length hleft.symm ▸ .eatText text ⟨left, hleft⟩
      · next hstarts => exact .eatText_miss text fun hopens => hstarts (isSome_after?_iff.mpr hopens)
  | startsWith text =>
      have hflag : r.cursor.startsWith text = decide (text <+: r.cursor.rest) :=
        Bool.eq_iff_iff.mpr (isSome_after?_iff.trans decide_eq_true_iff.symm)
      refine ⟨_, _, rfl, ?_⟩
      rw [hflag]
      exact .startsWith text
  | remaining => exact ⟨_, _, rfl, .remaining⟩
  | sliceFrom start =>
      obtain ⟨a, hstep, hobeys⟩ := r.obeys_sliceFrom start
      exact ⟨a, r, hstep, hobeys⟩
  | snapshot => exact ⟨_, _, rfl, .snapshot⟩
  | restore index =>
      have hlt : index < r.saved.length := of_decide_eq_true hs
      have hget := List.getElem?_eq_getElem hlt
      have hmove : { r with cursor := r.cursor.moveTo r.saved[index] : Run }.bytes
          = r.bytes.moveTo r.saved[index] := by
        rw [bytes, r.cursor.bytes_moveTo (h _ (List.getElem_mem hlt))]
        rfl
      refine ⟨_, _, by rw [step, hget]; rfl, ?_⟩
      rw [hmove]
      exact .restore index _ hget

theorem Sound.bytes_after (h : r.Sound) (hs : s.isWithin r.saved.length = true) :
    ∃ a after, r.step s = some (a, after) ∧ r.bytes.Obeys r.cursor.rest s a after.bytes
      ∧ after.Sound ∧ after.saved.length = s.savedAfter r.saved.length := by
  obtain ⟨a, after, hstep, hobeys⟩ := exists_obeys h hs
  have hsource : after.cursor.source = r.cursor.source := hobeys.text_eq
  refine ⟨a, after, hstep, hobeys, ?_⟩
  rcases hobeys.saved_eq with ⟨hsaved, hcount⟩ | ⟨hsaved, hcount⟩
  · have hsame : after.saved = r.saved := hsaved
    refine ⟨fun offset hoffset => ?_, by rw [hsame]; exact hcount.symm⟩
    rw [hsource]
    exact h offset (hsame ▸ hoffset)
  · have hmore : after.saved = r.saved ++ [r.cursor.position] := hsaved
    refine ⟨fun offset hoffset => ?_, by rw [hmore, List.length_append]; exact hcount.symm⟩
    rw [hsource]
    rw [hmore, List.mem_append, List.mem_singleton] at hoffset
    rcases hoffset with hoffset | rfl
    · exact h offset hoffset
    · exact r.cursor.shows_bytes.boundary

theorem Sound.lawful (h : r.Sound) {steps : List Step} (hs : restorable r.saved.length steps = true) :
    r.bytes.Lawful steps ∧ r.bytes.answers? steps = r.answers? steps := by
  induction steps generalizing r with
  | nil => exact ⟨⟨_, _, r.cursor.shows_bytes⟩, rfl⟩
  | cons s steps ih =>
      rw [restorable, Bool.and_eq_true] at hs
      obtain ⟨a, after, hstep, hobeys, hsound, hcount⟩ := h.bytes_after hs.1
      have hbytes : r.bytes.step? s = some (a, after.bytes) := by
        rw [step?_bytes h, hstep]
        rfl
      obtain ⟨hlawful, hanswers⟩ := ih hsound (hcount ▸ hs.2)
      refine ⟨⟨_, _, a, after.bytes, r.cursor.shows_bytes, hbytes, hobeys, hlawful⟩, ?_⟩
      rw [ByteCursor.Run.answers?, answers?, hbytes, hstep, Option.bind_some, Option.bind_some]
      simp only [hanswers]
      rfl

end Run

end Cursor

namespace ByteCursor

theorem run_lawful (text : Text) (offset : Nat) (steps : List Cursor.Step)
    (h : Cursor.restorable 0 steps = true) :
    (Run.start text offset).Lawful steps
      ∧ (Run.start text offset).answers? steps = (Cursor.Run.start text offset).answers? steps := by
  have hstart : (Cursor.Run.start text offset).bytes = Run.start text offset := by
    rw [Run.start, ← Cursor.bytes_ofOffset]
    rfl
  have hsound : (Cursor.Run.start text offset).Sound := fun _ hoffset => absurd hoffset List.not_mem_nil
  rw [← hstart]
  exact hsound.lawful h

theorem run_lawful_greek :
    Cursor.restorable 0 [.snapshot, .eat 'α', .sliceFrom 1, .advanceBy 7, .restore 0] = true
      ∧ (Run.start ['α', 'β', 'c'] 0).Lawful
          [.snapshot, .eat 'α', .sliceFrom 1, .advanceBy 7, .restore 0]
      ∧ (Run.start ['α', 'β', 'c'] 0).answers?
          [.snapshot, .eat 'α', .sliceFrom 1, .advanceBy 7, .restore 0]
        = some [(.position 0, 0), (.flag true, 2), (.badSlice, 2), (.done, 5), (.done, 0)] :=
  have h := run_lawful ['α', 'β', 'c'] 0
    [.snapshot, .eat 'α', .sliceFrom 1, .advanceBy 7, .restore 0] (by decide)
  ⟨by decide, h.1, h.2.trans (by decide)⟩

end ByteCursor

end LexicalGrammar
