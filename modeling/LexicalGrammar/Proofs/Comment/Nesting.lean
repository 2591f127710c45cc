import LexicalGrammar.Language.Haskell
import LexicalGrammar.Proofs.Comment.Loop

namespace LexicalGrammar

namespace BlockComment

def descend (block : BlockComment) (hb : block.Delimited) (c : Cursor) :
    Option {d : Cursor // d.rest.length < c.rest.length} :=
  if hend : c.isAtEnd then none
  else if hclose : c.startsWith block.close then
    some ⟨c.pass block.close, Cursor.length_rest_pass hb.close_ne_nil hclose⟩
  else if hopen : block.nested ∧ c.startsWith block.opening then
    have hinner := Cursor.length_rest_pass hb.opening_ne_nil hopen.2
    match block.descend hb (c.pass block.opening) with
    | none => none
    | some inner =>
        (block.descend hb inner.1).map fun d => ⟨d.1, Nat.lt_trans d.2 (Nat.lt_trans inner.2 hinner)⟩
  else
    have hnext := Cursor.length_rest_advance hend
    (block.descend hb c.advance).map fun d => ⟨d.1, Nat.lt_trans d.2 hnext⟩
termination_by c.rest.length

def body? (block : BlockComment) (hb : block.Delimited) (c : Cursor) : Option Cursor :=
  (block.descend hb c).map Subtype.val

theorem body?_eq (block : BlockComment) (hb : block.Delimited) (c : Cursor) :
    block.body? hb c =
      if c.isAtEnd then none
      else if c.startsWith block.close then some (c.pass block.close)
      else if block.nested ∧ c.startsWith block.opening then
        (block.body? hb (c.pass block.opening)).bind (block.body? hb)
      else block.body? hb c.advance := by
  rw [body?, descend]
  split
  · rfl
  · split
    · rfl
    · split
      · simp only [body?]
        cases block.descend hb (c.pass block.opening) with
        | none => rfl
        | some inner => simp [body?, Function.comp_def]
      · simp [body?, Function.comp_def]

section Body

variable {block : BlockComment} {hb : block.Delimited} {c d : Cursor}

theorem body?_of_end (h : c.rest = []) : block.body? hb c = none := by
  rw [body?_eq, if_pos (Cursor.isAtEnd_iff.mpr h)]

theorem body?_of_close (h : block.close <+: c.rest) :
    block.body? hb c = some (c.pass block.close) := by
  simp [body?_eq, Cursor.isAtEnd_of_isPrefix hb.close_ne_nil h, Cursor.startsWith_iff.mpr h]

theorem body?_of_opening (hclose : ¬block.close <+: c.rest) (hn : block.nested = true)
    (h : block.opening <+: c.rest) :
    block.body? hb c = (block.body? hb (c.pass block.opening)).bind (block.body? hb) := by
  rw [body?_eq]
  simp [Cursor.isAtEnd_of_isPrefix hb.opening_ne_nil h, Cursor.startsWith_iff, hclose, hn, h]

theorem body?_of_other (hend : c.isAtEnd = false) (hclose : ¬block.close <+: c.rest)
    (hopening : block.nested = true → ¬block.opening <+: c.rest) :
    block.body? hb c = block.body? hb c.advance := by
  rw [body?_eq]
  simp [hend, Cursor.startsWith_iff, hclose]
  exact fun hn h => absurd h (hopening hn)

theorem length_rest_of_body? (h : block.body? hb c = some d) : d.rest.length < c.rest.length := by
  obtain ⟨e, _, rfl⟩ := Option.map_eq_some_iff.mp h
  exact e.2

theorem reaches_close (h : block.body? hb c = some d) :
    ∃ e, block.close <+: e.rest ∧ d = e.pass block.close ∧
      ∀ depth, block.Reaches ⟨depth + 1, c⟩ ⟨depth + 1, e⟩ := by
  induction hlength : c.rest.length using Nat.strongRecOn generalizing c d with
  | _ n ih =>
    subst hlength
    cases block.faces c with
    | nothing hend => simp [body?_of_end hend] at h
    | close hclose =>
        rw [body?_of_close hclose] at h
        exact ⟨c, hclose, (Option.some.inj h).symm, fun _ => .refl⟩
    | opening hclose hn hopening =>
        rw [body?_of_opening hclose hn hopening] at h
        obtain ⟨inner, hinner, hd⟩ := Option.bind_eq_some_iff.mp h
        have hlt := Cursor.length_rest_pass hb.opening_ne_nil (Cursor.startsWith_iff.mpr hopening)
        have hlt' := Nat.lt_trans (length_rest_of_body? hinner) hlt
        obtain ⟨e, he, rfl, hreach⟩ := ih _ hlt hinner rfl
        obtain ⟨f, hf, rfl, hreach'⟩ := ih _ hlt' hd rfl
        refine ⟨f, hf, rfl, fun depth => .head (turn_of_opening hb hclose hn hopening _) ?_⟩
        exact (hreach (depth + 1)).trans (.head (turn_of_close hb he (depth + 2)) (hreach' depth))
    | other hend hclose hopening =>
        rw [body?_of_other hend hclose hopening] at h
        have hlt := Cursor.length_rest_advance (Bool.eq_false_iff.mp hend)
        obtain ⟨e, he, rfl, hreach⟩ := ih _ hlt h rfl
        exact ⟨e, he, rfl, fun depth => .head (turn_of_other hend hclose hopening _) (hreach depth)⟩

theorem reaches_end (h : block.body? hb c = none) (depth : Nat) :
    ∃ more e, e.rest = [] ∧ block.Reaches ⟨depth + 1, c⟩ ⟨more + 1, e⟩ := by
  induction hlength : c.rest.length using Nat.strongRecOn generalizing c depth with
  | _ n ih =>
    subst hlength
    cases block.faces c with
    | nothing hend => exact ⟨depth, c, hend, .refl⟩
    | close hclose => simp [body?_of_close hclose] at h
    | opening hclose hn hopening =>
        rw [body?_of_opening hclose hn hopening] at h
        have hlt := Cursor.length_rest_pass hb.opening_ne_nil (Cursor.startsWith_iff.mpr hopening)
        have hturn := turn_of_opening hb hclose hn hopening (depth + 1)
        cases hinner : block.body? hb (c.pass block.opening) with
        | none =>
            obtain ⟨more, e, he, hreach⟩ := ih _ hlt hinner (depth + 1) rfl
            exact ⟨more, e, he, .head hturn hreach⟩
        | some inner =>
            rw [hinner, Option.bind_some] at h
            have hlt' := Nat.lt_trans (length_rest_of_body? hinner) hlt
            obtain ⟨e, he, rfl, hclosing⟩ := reaches_close hinner
            obtain ⟨more, f, hf, hreach⟩ := ih _ hlt' h depth rfl
            refine ⟨more, f, hf, .head hturn ((hclosing (depth + 1)).trans ?_)⟩
            exact .head (turn_of_close hb he (depth + 2)) hreach
    | other hend hclose hopening =>
        rw [body?_of_other hend hclose hopening] at h
        have hlt := Cursor.length_rest_advance (Bool.eq_false_iff.mp hend)
        obtain ⟨more, e, he, hreach⟩ := ih _ hlt h depth rfl
        exact ⟨more, e, he, .head (turn_of_other hend hclose hopening _) hreach⟩

end Body

section ReadBody

variable {block : BlockComment} (hb : block.Delimited) (c : Cursor)
include hb

theorem readBody_of_body? {d : Cursor} (h : block.body? hb c = some d) :
    block.readBody c = (true, d) := by
  obtain ⟨e, he, rfl, hreach⟩ := reaches_close h
  exact ((runs_iff hb c).mp ((hreach 0).runs (.leave (turn_of_close hb he 1)))).symm

theorem readBody_of_no_body? (h : block.body? hb c = none) :
    block.readBody c = (false, ⟨c.source, []⟩) := by
  obtain ⟨more, e, he, hreach⟩ := reaches_end h 0
  have hsource : e.source = c.source := (hreach.within hb (.start c)).source
  rw [← (runs_iff hb c).mp (hreach.runs (.leave (turn_of_end he _))), ← hsource,
    ← Cursor.eq_end_of_rest he]

end ReadBody

end BlockComment

namespace CommentGrammar

theorem readBody_eq_recursion {g : CommentGrammar} {block : BlockComment} (hg : g.defect? = none)
    (hblock : g.block = some block) (c : Cursor) :
    let hb := BlockComment.delimited_of_defect? hg hblock
    (∀ d, block.readBody c = (true, d) ↔ block.body? hb c = some d) ∧
      (block.readBody c = (false, ⟨c.source, []⟩) ↔ block.body? hb c = none) ∧
      (∀ e, block.Runs ⟨1, c⟩ e ↔ e = block.readBody c) ∧
      ∀ l, block.Reaches ⟨1, c⟩ l → l.Within c ∧ block.turn l ≠ .underflow ∧
        (∀ m, block.turn l = .again m → l.cursor.position < m.cursor.position) ∧
        ∀ d, block.turn l = .leave true d → l.cursor.position < d.position := by
  intro hb
  refine ⟨fun d => ?_, ?_, fun e => BlockComment.runs_iff hb c, fun l hl => ?_⟩
  · refine ⟨fun h => ?_, BlockComment.readBody_of_body? hb c⟩
    cases hbody : block.body? hb c with
    | none => cases h.symm.trans (BlockComment.readBody_of_no_body? hb c hbody)
    | some e =>
        obtain ⟨_, rfl⟩ := Prod.mk.inj (h.symm.trans (BlockComment.readBody_of_body? hb c hbody))
        rfl
  · refine ⟨fun h => ?_, BlockComment.readBody_of_no_body? hb c⟩
    cases hbody : block.body? hb c with
    | none => rfl
    | some e => cases h.symm.trans (BlockComment.readBody_of_body? hb c hbody)
  · have hwithin := hl.within hb (.start c)
    exact ⟨hwithin, BlockComment.turn_ne_underflow hb hwithin.depth_pos,
      fun m => BlockComment.position_lt_of_again hb, fun d => BlockComment.position_lt_of_leave hb⟩

theorem haskell_overlapping :
    let text := ['é', '\x7b', '-', 'a', '\x7b', '-', '\x7d', '-', '\x7d', '-', '\x7d', 'b']
    ∃ (hg : Haskell.declaration.comments.defect? = none)
      (hblock : Haskell.declaration.comments.block = some Haskell.blockComment),
      Haskell.blockComment.body? (BlockComment.delimited_of_defect? hg hblock) (.ofOffset text 4)
        = some (.ofOffset text 12) := by
  have hg : Haskell.declaration.comments.defect? = none := by decide
  exact ⟨hg, rfl, ((readBody_eq_recursion hg rfl _).1 _).mp (by decide)⟩

end CommentGrammar

end LexicalGrammar
