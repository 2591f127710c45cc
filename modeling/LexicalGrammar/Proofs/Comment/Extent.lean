import LexicalGrammar.Proofs.Choice
import LexicalGrammar.Proofs.Comment.Loop
import LexicalGrammar.Proofs.Cut.Basic
import LexicalGrammar.Proofs.Occurrence

namespace LexicalGrammar

def lineBreaks (text : Text) (start : Nat) : Set Nat :=
  standing (fun rest => rest.head?.any isLineBreak = true) text start

def occurrences (pattern text : Text) (start : Nat) : Set Nat := standing (pattern <+: ·) text start

theorem readWhile_lineBreak (front left : Text) :
    let line := (readWhile (!isLineBreak ·) left).taken
    IsLeast (lineBreaks (front ++ left) (width front)) (width front + width line) ∨
      lineBreaks (front ++ left) (width front) = ∅ ∧ line = left := by
  intro line
  have hsplit : line ++ (readWhile (!isLineBreak ·) left).rest = left := whole_readWhile _ left
  have hclear (tail : Text) : Clear (fun rest => rest.head?.any isLineBreak = true) line tail :=
    .of_head fun c hc => by simpa using all_taken_readWhile _ left c hc
  cases hrest : (readWhile (!isLineBreak ·) left).rest with
  | nil =>
      rw [hrest, List.append_nil] at hsplit
      rw [hsplit] at hclear
      exact Or.inr ⟨standing_eq_empty (by simp) (hclear []), hsplit⟩
  | cons c tail =>
      have hbreak := head?_rest_readWhile (!isLineBreak ·) left
      rw [hrest] at hsplit hbreak
      refine Or.inl ?_
      rw [← hsplit]
      exact isLeast_standing (by simpa using hbreak) (hclear _)

namespace BlockComment

variable {block : BlockComment}

theorem scanBody_first (hclose : block.close ≠ []) (hn : block.nested = false) (text : Text) :
    (∃ mid left, text = mid ++ (block.close ++ left)
        ∧ Clear (block.close <+: ·) mid (block.close ++ left)
        ∧ block.scanBody 0 0 text = ⟨mid ++ block.close, true, left⟩)
      ∨ Clear (block.close <+: ·) text [] ∧ block.scanBody 0 0 text = ⟨text, false, []⟩ := by
  induction text with
  | nil => exact Or.inr ⟨.nil, rfl⟩
  | cons c rest ih =>
      cases hafter : after? block.close (c :: rest) with
      | some left =>
          have hsplit := after?_eq_some_iff.mp hafter
          refine Or.inl ⟨[], left, hsplit, .nil, ?_⟩
          exact scanBody_of_close hclose hafter
      | none =>
          have hnot : ¬block.close <+: c :: rest := by simp [← isSome_after?_iff, hafter]
          rw [scanBody_of_other hafter fun h => by simp [hn] at h]
          rcases ih with ⟨mid, left, rfl, hclear, hscan⟩ | ⟨hclear, hscan⟩
          · exact Or.inl ⟨c :: mid, left, rfl, hclear.cons hnot, by rw [hscan]; rfl⟩
          · refine Or.inr ⟨hclear.cons ?_, by rw [hscan]; rfl⟩
            rwa [List.append_nil]

def spanFrom (block : BlockComment) (text : Text) (offset : Nat) : Span :=
  let body := block.readBody (.ofOffset text (offset + width block.opening))
  ⟨offset, body.2.position, body.1⟩

end BlockComment

namespace CommentGrammar

variable {g : CommentGrammar} {line rest : Text} {block : BlockComment}

structure OpensLine (g : CommentGrammar) (line rest : Text) : Prop where
  declared : g.line = some line
  begins : line <+: rest
  longer : ∀ block, g.block = some block → block.opening <+: rest → width block.opening < width line

structure OpensBlock (g : CommentGrammar) (block : BlockComment) (rest : Text) : Prop where
  declared : g.block = some block
  begins : block.opening <+: rest
  longest : ∀ line, g.line = some line → line <+: rest → width line ≤ width block.opening

def Opens (g : CommentGrammar) (rest : Text) : Prop :=
  (∃ line, g.line = some line ∧ line <+: rest) ∨
    ∃ block, g.block = some block ∧ block.opening <+: rest

theorem Opens.form (h : g.Opens rest) :
    (∃ line, g.OpensLine line rest) ∨ ∃ block, g.OpensBlock block rest := by
  by_cases hline : ∃ line, g.OpensLine line rest
  · exact Or.inl hline
  · have hblock : ∃ block, g.block = some block ∧ block.opening <+: rest := by
      rcases h with ⟨line, hdeclared, hbegins⟩ | h
      · by_contra hnone
        exact hline ⟨line, hdeclared, hbegins, fun block hb ho => absurd ⟨block, hb, ho⟩ hnone⟩
      · exact h
    obtain ⟨block, hdeclared, hbegins⟩ := hblock
    refine Or.inr ⟨block, hdeclared, hbegins, fun line hl hlb => Nat.not_lt.mp fun hlt => ?_⟩
    refine hline ⟨line, hl, hlb, fun b hb _ => ?_⟩
    obtain rfl := Option.some.inj (hdeclared.symm.trans hb)
    exact hlt

theorem isSome_scanLine_iff :
    (g.scanLine rest).isSome = true ↔ ∃ line, g.line = some line ∧ line <+: rest := by
  simp only [scanLine, Option.isSome_bind, Option.any_eq_true, Option.isSome_map, isSome_after?_iff]

theorem isSome_scanBlock_iff :
    (g.scanBlock rest).isSome = true ↔ ∃ block, g.block = some block ∧ block.opening <+: rest := by
  simp only [scanBlock, BlockComment.scan, Option.isSome_bind, Option.any_eq_true,
    Option.isSome_map, isSome_after?_iff]

theorem scan_eq_or (g : CommentGrammar) (rest : Text) :
    g.scan rest = if g.blockFirst then (g.scanBlock rest).or (g.scanLine rest)
      else (g.scanLine rest).or (g.scanBlock rest) := by
  simp only [scan, Option.orElse_eq_orElse, Option.orElse_eq_or]

theorem isSome_scan_iff : (g.scan rest).isSome = true ↔ g.Opens rest := by
  rw [Opens, ← isSome_scanLine_iff, ← isSome_scanBlock_iff, scan_eq_or]
  split
  · rw [Option.isSome_or, Bool.or_eq_true, or_comm]
  · rw [Option.isSome_or, Bool.or_eq_true]

theorem blockFirst_iff :
    g.blockFirst = true ↔ ∀ line block, g.line = some line → g.block = some block →
      width line ≤ width block.opening := by
  rw [blockFirst]
  cases g.line <;> cases g.block <;> simp

theorem scan_of_opensLine (h : g.OpensLine line rest) : g.scan rest = g.scanLine rest := by
  rw [scan_eq_or]
  split
  · next hfirst =>
    have hnone : g.scanBlock rest = none := by
      rw [← Option.not_isSome_iff_eq_none, isSome_scanBlock_iff]
      rintro ⟨block, hblock, hbegins⟩
      have hle := blockFirst_iff.mp hfirst line block h.declared hblock
      exact Nat.not_lt.mpr hle (h.longer block hblock hbegins)
    rw [hnone, Option.none_or]
  · exact Option.or_of_isSome (isSome_scanLine_iff.mpr ⟨line, h.declared, h.begins⟩)

theorem scan_of_opensBlock (h : g.OpensBlock block rest) : g.scan rest = block.scan rest := by
  have hblock : g.scanBlock rest = block.scan rest := by rw [scanBlock, h.declared, Option.bind_some]
  have hsome := isSome_scanBlock_iff.mpr ⟨block, h.declared, h.begins⟩
  rw [scan_eq_or, ← hblock]
  split
  · exact Option.or_of_isSome hsome
  · next hfirst =>
    have hnone : g.scanLine rest = none := by
      rw [← Option.not_isSome_iff_eq_none, isSome_scanLine_iff]
      rintro ⟨line, hline, hbegins⟩
      refine hfirst (blockFirst_iff.mpr fun l b hl hb => ?_)
      obtain rfl := Option.some.inj (hline.symm.trans hl)
      obtain rfl := Option.some.inj (h.declared.symm.trans hb)
      exact h.longest line hline hbegins
    rw [hnone, Option.none_or]

variable {text : Text} {offset : Nat}

theorem probe_of_opensLine (hrest : suffixAt? text offset = some rest) (h : g.OpensLine line rest) :
    (∃ stop, IsLeast (lineBreaks text (offset + width line)) stop
        ∧ probe g.scan text offset = some ⟨offset, stop, true⟩)
      ∨ lineBreaks text (offset + width line) = ∅
        ∧ probe g.scan text offset = some ⟨offset, width text, true⟩ := by
  obtain ⟨front, rfl, rfl⟩ := suffixAt?_eq_some_iff.mp hrest
  obtain ⟨left, rfl⟩ := h.begins
  have hprobe : probe g.scan (front ++ (line ++ left)) (width front) = some ⟨width front,
      width (front ++ line) + width (readWhile (!isLineBreak ·) left).taken, true⟩ := by
    rw [probe_of_suffixAt? hrest, scan_of_opensLine h, scanLine, h.declared]
    simp [Lexeme.spanAt, Lexeme.ofSplit, Lexeme.following, Nat.add_assoc]
  rw [hprobe, ← width_append, ← List.append_assoc]
  rcases readWhile_lineBreak (front ++ line) left with hleast | ⟨hnone, hall⟩
  · exact Or.inl ⟨_, hleast, rfl⟩
  · exact Or.inr ⟨hnone, by rw [hall, ← width_append]⟩

theorem probe_of_opening {front left : Text} (h : g.OpensBlock block (block.opening ++ left)) :
    probe g.scan (front ++ (block.opening ++ left)) (width front) = some ⟨width front,
      width (front ++ block.opening) + width (block.scanBody 0 0 left).text,
      (block.scanBody 0 0 left).closed⟩ := by
  rw [probe_of_suffixAt? (suffixAt?_width_append ..), scan_of_opensBlock h, BlockComment.scan]
  simp [Lexeme.spanAt, Lexeme.following, Nat.add_assoc]

theorem probe_of_opensBlock (hrest : suffixAt? text offset = some rest)
    (h : g.OpensBlock block rest) : probe g.scan text offset = some (block.spanFrom text offset) := by
  obtain ⟨front, rfl, rfl⟩ := suffixAt?_eq_some_iff.mp hrest
  obtain ⟨left, rfl⟩ := h.begins
  have hleft : suffixAt? (front ++ (block.opening ++ left)) (width (front ++ block.opening))
      = some left := by
    rw [width_append, suffixAt?_append_add, suffixAt?_width_append]
  have hwhole := block.whole_scanBody 0 0 left
  rw [probe_of_opening h, BlockComment.spanFrom, ← width_append front block.opening]
  simp only [BlockComment.readBody, Cursor.rest_ofOffset hleft]
  rw [Cursor.position_pass ((Cursor.rest_ofOffset hleft).trans hwhole.symm),
    Cursor.position_ofOffset hleft]

theorem probe_of_flat (hclose : block.close ≠ []) (hn : block.nested = false)
    (hrest : suffixAt? text offset = some rest) (h : g.OpensBlock block rest) :
    (∃ i, IsLeast (occurrences block.close text (offset + width block.opening)) i
        ∧ probe g.scan text offset = some ⟨offset, i + width block.close, true⟩)
      ∨ occurrences block.close text (offset + width block.opening) = ∅
        ∧ probe g.scan text offset = some ⟨offset, width text, false⟩ := by
  obtain ⟨front, rfl, rfl⟩ := suffixAt?_eq_some_iff.mp hrest
  obtain ⟨left, rfl⟩ := h.begins
  rw [probe_of_opening h, ← width_append, ← List.append_assoc]
  rcases BlockComment.scanBody_first hclose hn left with
    ⟨mid, back, rfl, hclear, hscan⟩ | ⟨hclear, hscan⟩
  · refine Or.inl ⟨_, isLeast_standing (List.prefix_append block.close back) hclear, ?_⟩
    rw [hscan, width_append mid, Nat.add_assoc]
  · refine Or.inr ⟨standing_eq_empty (mt List.prefix_nil.mp hclose) hclear, ?_⟩
    rw [hscan, ← width_append]

theorem probe_extent (hg : g.defect? = none) (hrest : suffixAt? text offset = some rest) :
    ((probe g.scan text offset).isSome = true ↔ g.Opens rest) ∧
    (g.Opens rest → (∃ line, g.OpensLine line rest) ∨ ∃ block, g.OpensBlock block rest) ∧
    (∀ line block, g.line = some line → g.block = some block → line <+: rest →
      block.opening <+: rest → line <+: block.opening ∨ block.opening <+: line) ∧
    (∀ line, g.OpensLine line rest →
      (∃ stop, IsLeast (lineBreaks text (offset + width line)) stop
          ∧ probe g.scan text offset = some ⟨offset, stop, true⟩)
        ∨ lineBreaks text (offset + width line) = ∅
          ∧ probe g.scan text offset = some ⟨offset, width text, true⟩) ∧
    ∀ block, g.OpensBlock block rest →
      probe g.scan text offset = some (block.spanFrom text offset) ∧
      (block.nested = false →
        (∃ i, IsLeast (occurrences block.close text (offset + width block.opening)) i
            ∧ probe g.scan text offset = some ⟨offset, i + width block.close, true⟩)
          ∨ occurrences block.close text (offset + width block.opening) = ∅
            ∧ probe g.scan text offset = some ⟨offset, width text, false⟩) := by
  refine ⟨?_, Opens.form, fun line block _ _ hline hblock => ?_,
    fun line h => probe_of_opensLine hrest h,
    fun block h => ⟨probe_of_opensBlock hrest h, fun hn => ?_⟩⟩
  · rw [probe_of_suffixAt? hrest, Option.isSome_map, isSome_scan_iff]
  · exact List.prefix_or_prefix_of_prefix hline hblock
  · exact probe_of_flat (BlockComment.delimited_of_defect? hg h.declared).close_ne_nil hn hrest h

def longBrackets : CommentGrammar where
  line := some ['-', '-']
  block := some { opening := ['-', '-', '[', '['], close := [']', ']'] }

theorem longBrackets_extent :
    let text := ['é', '-', '-', '[', '[', 'a', ']', 'b', ']', ']', ']', '\n']
    longBrackets.defect? = none ∧ suffixAt? text 2 = some text.tail ∧
      IsLeast (occurrences [']', ']'] text 6) 9 ∧
      probe longBrackets.scan text 2 = some ⟨2, 11, true⟩ := by
  intro text
  have hg : longBrackets.defect? = none := by decide
  have hrest : suffixAt? text 2 = some text.tail := by decide
  have hprobe : probe longBrackets.scan text 2 = some ⟨2, 11, true⟩ := by decide
  have hopens : longBrackets.OpensBlock ⟨['-', '-', '[', '['], [']', ']'], false⟩ text.tail :=
    ⟨rfl, by decide, by rintro _ ⟨⟩ _; decide⟩
  obtain ⟨_, _, _, _, hblock⟩ := probe_extent hg hrest
  refine ⟨hg, hrest, ?_, hprobe⟩
  rcases (hblock _ hopens).2 rfl with ⟨i, hleast, hspan⟩ | ⟨_, hspan⟩
  · have hstop : 11 = i + 2 := congrArg Span.stop (Option.some.inj (hprobe.symm.trans hspan))
    obtain rfl : i = 9 := by omega
    exact hleast
  · cases hprobe.symm.trans hspan

end CommentGrammar

end LexicalGrammar
