import LexicalGrammar.Proofs.Boundary
import LexicalGrammar.Text.Position
import Mathlib.Data.List.DropRight

namespace LexicalGrammar

def lastLine (text : Text) : Text := text.rtakeWhile (· != '\n')

section LastLine

variable {text : Text}

theorem lastLine_append (front : Text) (h : '\n' ∉ text) :
    lastLine (front ++ text) = lastLine front ++ text := by
  have hpass : ∀ c ∈ text.reverse, (c != '\n') = true := by
    intro c hc
    rw [bne_iff_ne]
    rintro rfl
    exact h (List.mem_reverse.mp hc)
  rw [lastLine, List.rtakeWhile, List.reverse_append, List.takeWhile_append_of_pos hpass]
  simp [lastLine, List.rtakeWhile]

theorem lastLine_of_not_mem (h : '\n' ∉ text) : lastLine text = text := lastLine_append [] h

theorem lastLine_append_newline_cons (front : Text) (h : '\n' ∉ text) :
    lastLine (front ++ '\n' :: text) = text := by
  have hnil : lastLine (front ++ ['\n']) = [] := List.rtakeWhile_concat_neg _ _ _ (by simp)
  rw [List.append_cons, lastLine_append _ h, hnil, List.nil_append]

theorem exists_last_newline (h : '\n' ∈ text) :
    ∃ front line, text = front ++ '\n' :: line ∧ '\n' ∉ line := by
  obtain ⟨line, front, htext, hline⟩ := List.eq_append_cons_of_mem (List.mem_reverse.mpr h)
  refine ⟨front.reverse, line.reverse, ?_, by simpa using hline⟩
  rw [← List.reverse_reverse text, htext]
  simp

end LastLine

def LineStart.extend (rest : Text) (s : LineStart) : LineStart := { s with tail := s.tail ++ rest }

theorem laterLines_append (offset : Nat) (front rest : Text) :
    laterLines offset (front ++ rest) =
      (laterLines offset front).map (LineStart.extend rest) ++
        laterLines (offset + width front) rest := by
  induction front generalizing offset with
  | nil => rfl
  | cons c front ih =>
      simp only [List.cons_append, laterLines, width_cons, ← Nat.add_assoc]
      split <;> simp [ih, LineStart.extend]

theorem lineStarts_append (front rest : Text) :
    lineStarts (front ++ rest) =
      (lineStarts front).map (LineStart.extend rest) ++ laterLines (width front) rest := by
  rw [lineStarts, laterLines_append, Nat.zero_add]
  rfl

theorem laterLines_of_not_mem {line : Text} (h : '\n' ∉ line) (offset : Nat) :
    laterLines offset line = [] := by
  induction line generalizing offset with
  | nil => rfl
  | cons c line ih =>
      rw [List.mem_cons, not_or] at h
      rw [laterLines, if_neg (Ne.symm h.1), ih h.2]

theorem length_laterLines (offset : Nat) (text : Text) :
    (laterLines offset text).length = text.count '\n' := by
  induction text generalizing offset with
  | nil => rfl
  | cons c text ih =>
      rw [laterLines, List.count_cons]
      split <;> simp_all

theorem lt_offset_of_mem_laterLines {s : LineStart} {offset : Nat} {text : Text}
    (h : s ∈ laterLines offset text) : offset < s.offset ∧ s.offset ≤ offset + width text := by
  induction text generalizing offset with
  | nil => cases h
  | cons c text ih =>
      have hpos := c.utf8Size_pos
      have hlater (hs : s ∈ laterLines (offset + c.utf8Size) text) :
          offset < s.offset ∧ s.offset ≤ offset + width (c :: text) := by
        have := ih hs
        rw [width_cons]
        omega
      rw [laterLines] at h
      split at h
      · rcases List.mem_cons.mp h with rfl | hs
        · rw [width_cons]
          simp only
          omega
        · exact hlater hs
      · exact hlater h

theorem offset_le_of_mem_lineStarts {s : LineStart} {text : Text} (h : s ∈ lineStarts text) :
    s.offset ≤ width text := by
  rcases List.mem_cons.mp h with rfl | hs
  · exact Nat.zero_le _
  · have := lt_offset_of_mem_laterLines hs
    omega

theorem length_lineStarts (text : Text) : (lineStarts text).length = text.count '\n' + 1 := by
  rw [lineStarts, List.length_cons, length_laterLines]

theorem getLast?_lineStarts (text : Text) :
    ∃ before, text = before ++ lastLine text ∧
      (lineStarts text).getLast? = some ⟨width before, lastLine text⟩ := by
  by_cases h : '\n' ∈ text
  · obtain ⟨front, line, rfl, hline⟩ := exists_last_newline h
    refine ⟨front ++ ['\n'], ?_, ?_⟩
    · rw [lastLine_append_newline_cons front hline, List.append_assoc]
      rfl
    · rw [lastLine_append_newline_cons front hline, lineStarts_append, laterLines, if_pos rfl,
        laterLines_of_not_mem hline, List.getLast?_append]
      simp
  · refine ⟨[], (lastLine_of_not_mem h).symm, ?_⟩
    rw [lineStarts, laterLines_of_not_mem h, lastLine_of_not_mem h]
    rfl

section Prefix

variable (front rest : Text)

theorem offset_le_of_mem_extend {s : LineStart}
    (h : s ∈ (lineStarts front).map (LineStart.extend rest)) : s.offset ≤ width front := by
  obtain ⟨own, hown, rfl⟩ := List.mem_map.mp h
  exact offset_le_of_mem_lineStarts (s := own) hown

theorem takeWhile_lineStarts :
    (lineStarts (front ++ rest)).takeWhile (fun s => decide (s.offset ≤ width front)) =
      (lineStarts front).map (LineStart.extend rest) := by
  rw [lineStarts_append, List.takeWhile_append_of_pos]
  · cases hlater : laterLines (width front) rest with
    | nil => simp
    | cons s later =>
        have hs : s ∈ laterLines (width front) rest := by simp [hlater]
        have hlt := (lt_offset_of_mem_laterLines hs).1
        simp [Nat.not_le_of_lt hlt]
  · intro s hs
    exact decide_eq_true (offset_le_of_mem_extend front rest hs)

theorem positionAt_eq :
    positionAt (front ++ rest) (width front) =
      ⟨front.count '\n' + 1, (lastLine front).length + 1⟩ := by
  obtain ⟨before, hfront, hlast⟩ := getLast?_lineStarts front
  have hwidth : width front - width before = width (lastLine front) := by
    have := congrArg width hfront
    rw [width_append] at this
    omega
  rw [positionAt, positionIn, takeWhile_lineStarts, List.getLast?_map, hlast, List.length_map,
    length_lineStarts]
  simp [LineStart.extend, hwidth]

theorem offset_le_iff {i : Nat} {s : LineStart} (h : (lineStarts (front ++ rest))[i]? = some s) :
    s.offset ≤ width front ↔ i < front.count '\n' + 1 := by
  have hlength : ((lineStarts front).map (LineStart.extend rest)).length = front.count '\n' + 1 := by
    rw [List.length_map, length_lineStarts]
  rw [lineStarts_append] at h
  rw [← hlength]
  rcases Nat.lt_or_ge i ((lineStarts front).map (LineStart.extend rest)).length with hi | hi
  · rw [List.getElem?_append_left hi] at h
    exact iff_of_true (offset_le_of_mem_extend front rest (List.mem_of_getElem? h)) hi
  · rw [List.getElem?_append_right hi] at h
    have hlt := (lt_offset_of_mem_laterLines (List.mem_of_getElem? h)).1
    exact iff_of_false (Nat.not_le_of_lt hlt) (Nat.not_lt_of_le hi)

theorem getElem?_lineStarts : ∃ before, front = before ++ lastLine front ∧
    (lineStarts (front ++ rest))[front.count '\n']? =
      some ⟨width before, lastLine front ++ rest⟩ := by
  obtain ⟨before, hfront, hlast⟩ := getLast?_lineStarts front
  refine ⟨before, hfront, ?_⟩
  have hlength : ((lineStarts front).map (LineStart.extend rest)).length = front.count '\n' + 1 := by
    rw [List.length_map, length_lineStarts]
  rw [lineStarts_append, List.getElem?_append_left (by omega), List.getElem?_map,
    show front.count '\n' = (lineStarts front).length - 1 by rw [length_lineStarts]; rfl,
    ← List.getLast?_eq_getElem?, hlast]
  rfl

end Prefix

structure LineIndex where
  starts : List Nat
deriving DecidableEq, Repr

namespace LineIndex

def ofText (text : Text) : LineIndex := ⟨(lineStarts text).map LineStart.offset⟩

def search? (starts : List Nat) (offset low high : Nat) : Option Nat :=
  if low < high then
    (starts[(low + high) / 2]?).bind fun start =>
      if start ≤ offset then search? starts offset ((low + high) / 2 + 1) high
      else search? starts offset low ((low + high) / 2)
  else some low
termination_by high - low

def position? (index : LineIndex) (text : Text) (offset : Nat) : Option Position :=
  (search? index.starts offset 0 index.starts.length).bind fun line =>
    if line = 0 then none
    else (index.starts[line - 1]?).bind fun start =>
      (slice? text start offset).map fun passed => ⟨line, passed.length + 1⟩

theorem search?_eq_some {starts : List Nat} {offset n low high : Nat}
    (hn : ∀ i start, starts[i]? = some start → (start ≤ offset ↔ i < n))
    (hlow : low ≤ n) (hhigh : n ≤ high) (hlength : high ≤ starts.length) :
    search? starts offset low high = some n := by
  -- The range is halved, and the place between the starts stays within it.
  fun_induction search? starts offset low high with
  | case1 low high hlt ih ih' =>
      obtain ⟨start, hstart⟩ : ∃ start, starts[(low + high) / 2]? = some start :=
        ⟨_, List.getElem?_eq_getElem (by omega)⟩
      have hmiddle := hn _ _ hstart
      rw [hstart, Option.bind_some]
      split
      · exact ih (by omega) hhigh hlength
      · exact ih' hlow (by omega) (by omega)
  | case2 low high hge => exact congrArg some (by omega)

theorem position?_ofText (front rest : Text) :
    (ofText (front ++ rest)).position? (front ++ rest) (width front) =
      some (positionAt (front ++ rest) (width front)) := by
  obtain ⟨before, hfront, hline⟩ := getElem?_lineStarts front rest
  have hstart : (ofText (front ++ rest)).starts[front.count '\n']? = some (width before) := by
    rw [ofText, List.getElem?_map, hline]
    rfl
  have hlength : front.count '\n' + 1 ≤ (ofText (front ++ rest)).starts.length :=
    (List.getElem?_eq_some_iff.mp hstart).1
  have hbefore : ∀ i start, (ofText (front ++ rest)).starts[i]? = some start →
      (start ≤ width front ↔ i < front.count '\n' + 1) := by
    intro i start h
    rw [ofText, List.getElem?_map] at h
    obtain ⟨s, hs, rfl⟩ := Option.map_eq_some_iff.mp h
    exact offset_le_iff front rest hs
  have hslice : slice? (front ++ rest) (width before) (width front) = some (lastLine front) := by
    have hwhole : front ++ rest = before ++ (lastLine front ++ rest) := by
      rw [← List.append_assoc, ← hfront]
    refine slice?_eq_some_iff.mpr ⟨rest, ?_, ?_⟩
    · rw [hwhole, suffixAt?_width_append]
    · rw [← width_append, ← hfront]
  rw [position?, search?_eq_some hbefore (Nat.zero_le _) hlength (Nat.le_refl _), Option.bind_some,
    if_neg (Nat.succ_ne_zero _), Nat.add_sub_cancel, hstart, Option.bind_some, hslice, positionAt_eq]
  rfl

end LineIndex

def Position.Before (a b : Position) : Prop :=
  a.line < b.line ∨ a.line = b.line ∧ a.column < b.column

theorem positionAt_before {text : Text} {a b : Nat} (ha : IsBoundary text a) (hb : IsBoundary text b)
    (h : a < b) : (positionAt text a).Before (positionAt text b) := by
  obtain ⟨front, rest, rfl, rfl⟩ := isBoundary_iff.mp ha
  obtain ⟨front', back, hwhole, rfl⟩ := isBoundary_iff.mp hb
  obtain ⟨mid, rfl, rfl⟩ := exists_append_of_width_le hwhole (Nat.le_of_lt h)
  have hmid : 0 < mid.length := by
    refine List.length_pos_iff.mpr ?_
    rintro rfl
    simp at h
  rw [positionAt_eq, ← List.append_assoc, positionAt_eq, List.count_append]
  by_cases hm : '\n' ∈ mid
  · have := List.count_pos_iff.mpr hm
    exact Or.inl (by simp only; omega)
  · refine Or.inr ⟨by simp [List.count_eq_zero.mpr hm], ?_⟩
    rw [lastLine_append front hm, List.length_append]
    simp only
    omega

theorem positionAt_before_iff {text : Text} {a b : Nat} (ha : IsBoundary text a)
    (hb : IsBoundary text b) : (positionAt text a).Before (positionAt text b) ↔ a < b := by
  refine ⟨fun h => ?_, positionAt_before ha hb⟩
  refine Nat.lt_of_not_le fun hle => ?_
  rcases Nat.lt_or_eq_of_le hle with hlt | rfl
  · have hback := positionAt_before hb ha hlt
    simp only [Position.Before] at h hback
    omega
  · simp [Position.Before] at h

theorem length_splitOn (text : Text) : (text.splitOn '\n').length = text.count '\n' + 1 := by
  induction text with
  | nil => rfl
  | cons c text ih =>
      rw [List.splitOn] at ih ⊢
      rw [List.splitOnP_cons_eq_if_modifyHead, List.count_cons]
      split <;> simp_all

def textFrom? (text : Text) (p : Position) : Option Text :=
  match (text.splitOn '\n').drop (p.line - 1) with
  | [] => none
  | line :: later =>
      if p.column - 1 ≤ line.length then
        some (List.intercalate ['\n'] (line.drop (p.column - 1) :: later))
      else none

theorem splitOn_append_of_not_mem {line : Text} (h : '\n' ∉ line) (rest : Text) :
    (line ++ rest).splitOn '\n' = (rest.splitOn '\n').modifyHead (line ++ ·) := by
  induction line with
  | nil => cases hr : rest.splitOn '\n' <;> simp [hr]
  | cons c line ih =>
      rw [List.mem_cons, not_or] at h
      have hc : ¬(c == '\n') = true := by simpa using Ne.symm h.1
      have hrest := ih h.2
      rw [List.splitOn] at hrest ⊢
      rw [List.cons_append, List.splitOnP_cons_eq_if_modifyHead, if_neg hc, hrest,
        List.modifyHead_modifyHead]
      rfl

theorem drop_splitOn (front rest : Text) :
    ((front ++ rest).splitOn '\n').drop (front.count '\n') =
      (rest.splitOn '\n').modifyHead (lastLine front ++ ·) := by
  by_cases h : '\n' ∈ front
  · obtain ⟨before, line, rfl, hline⟩ := exists_last_newline h
    have hcount : (before ++ '\n' :: line).count '\n' = (before.splitOn '\n').length := by
      simp [length_splitOn, List.count_eq_zero.mpr hline]
    rw [lastLine_append_newline_cons before hline, List.append_assoc, List.cons_append,
      List.splitOn_append_cons_self, hcount, List.drop_left, splitOn_append_of_not_mem hline]
  · rw [List.count_eq_zero.mpr h, List.drop_zero, lastLine_of_not_mem h,
      splitOn_append_of_not_mem h]

theorem textFrom?_positionAt (front rest : Text) :
    textFrom? (front ++ rest) (positionAt (front ++ rest) (width front)) = some rest := by
  obtain ⟨line, later, hrest⟩ := List.exists_cons_of_ne_nil (List.splitOn_ne_nil '\n' rest)
  have hdrop : ((front ++ rest).splitOn '\n').drop (front.count '\n') =
      (lastLine front ++ line) :: later := by
    rw [drop_splitOn, hrest]
    rfl
  have hjoin : List.intercalate ['\n'] (line :: later) = rest := by
    rw [← hrest, List.intercalate_splitOn]
  simp [textFrom?, positionAt_eq, hdrop, hjoin]

end LexicalGrammar
