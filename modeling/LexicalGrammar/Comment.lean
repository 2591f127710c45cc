import LexicalGrammar.Grammar.Defect
import LexicalGrammar.Quotation.Body

namespace LexicalGrammar

structure BlockComment where
  opening : Text
  close : Text
  nested : Bool := false
deriving DecidableEq, Repr

namespace BlockComment

def slashStar : BlockComment := ⟨['/', '*'], ['*', '/'], false⟩

/-- The first `skip` characters belong to a delimiter that has been counted. -/
def scanBody (block : BlockComment) : (depth skip : Nat) → Text → Lexeme
  | _, _, [] => ⟨[], false, []⟩
  | depth, skip + 1, c :: rest => (block.scanBody depth skip rest).following [c]
  | depth, 0, c :: rest =>
      match after? block.close (c :: rest) with
      | some left =>
          match depth with
          | 0 => ⟨block.close, true, left⟩
          | depth + 1 => (block.scanBody depth (block.close.length - 1) rest).following [c]
      | none =>
          if block.nested && (after? block.opening (c :: rest)).isSome then
            (block.scanBody (depth + 1) (block.opening.length - 1) rest).following [c]
          else (block.scanBody depth 0 rest).following [c]

def scan (block : BlockComment) (text : Text) : Option Lexeme :=
  (after? block.opening text).map fun rest => (block.scanBody 0 0 rest).following block.opening

@[simp] theorem whole_scanBody (block : BlockComment) (depth skip : Nat) (text : Text) :
    (block.scanBody depth skip text).whole = text := by
  fun_induction scanBody block depth skip text with
  | case1 => rfl
  | case2 depth skip c rest ih => simp [ih]
  | case3 c rest left hl => exact (after?_eq_some_iff.mp hl).symm
  | case4 c rest left hl depth ih => simp [ih]
  | case5 depth c rest hl hn ih => simp [ih]
  | case6 depth c rest hl hn ih => simp [ih]

theorem scanBody_append (block : BlockComment) (depth : Nat) (front text : Text) :
    block.scanBody depth front.length (front ++ text) =
      (block.scanBody depth 0 text).following front := by
  induction front with
  | nil => rfl
  | cons c front ih => simp [scanBody, ih, Lexeme.following]

theorem scanBody_of_close {block : BlockComment} {text left : Text} (hc : block.close ≠ [])
    (h : after? block.close text = some left) : block.scanBody 0 0 text = ⟨block.close, true, left⟩ := by
  cases text with
  | nil => exact absurd (List.append_eq_nil_iff.mp (after?_eq_some_iff.mp h).symm).1 hc
  | cons c rest => simp [scanBody, h]

theorem scanBody_of_inner_close {block : BlockComment} {depth : Nat} {text left : Text}
    (hc : block.close ≠ []) (h : after? block.close text = some left) :
    block.scanBody (depth + 1) 0 text = (block.scanBody depth 0 left).following block.close := by
  obtain ⟨o, close, he⟩ := List.exists_cons_of_ne_nil hc
  obtain rfl := after?_eq_some_iff.mp h
  rw [he] at h ⊢
  simp only [List.cons_append] at h ⊢
  simp only [scanBody, he, h, List.length_cons, Nat.add_sub_cancel, scanBody_append]
  rfl

theorem scanBody_of_open {block : BlockComment} {depth : Nat} {text left : Text}
    (ho : block.opening ≠ []) (hn : after? block.close text = none) (hnested : block.nested = true)
    (h : after? block.opening text = some left) :
    block.scanBody depth 0 text = (block.scanBody (depth + 1) 0 left).following block.opening := by
  obtain ⟨o, opening, he⟩ := List.exists_cons_of_ne_nil ho
  obtain rfl := after?_eq_some_iff.mp h
  rw [he] at h hn ⊢
  simp only [List.cons_append] at h hn ⊢
  simp only [scanBody, hn, hnested, he, h, Option.isSome_some, Bool.and_self, if_true,
    List.length_cons, Nat.add_sub_cancel, scanBody_append]
  rfl

theorem scanBody_of_other {block : BlockComment} {depth : Nat} {c : Char} {rest : Text}
    (hn : after? block.close (c :: rest) = none)
    (ho : block.nested = true → after? block.opening (c :: rest) = none) :
    block.scanBody depth 0 (c :: rest) = (block.scanBody depth 0 rest).following [c] := by
  have hb : (block.nested && (after? block.opening (c :: rest)).isSome) = false := by
    cases hnested : block.nested with
    | false => rfl
    | true => simp [ho hnested]
  simp only [scanBody, hn, hb, Bool.false_eq_true, if_false]

theorem scanBody_induction (block : BlockComment) (ho : block.opening ≠ []) (hc : block.close ≠ [])
    {motive : Nat → Text → Prop} (nil : ∀ depth, motive depth [])
    (close : ∀ text left, after? block.close text = some left → motive 0 text)
    (innerClose : ∀ depth text left, after? block.close text = some left → motive depth left →
      motive (depth + 1) text)
    (innerOpen : ∀ depth text left, after? block.close text = none → block.nested = true →
      after? block.opening text = some left → motive (depth + 1) left → motive depth text)
    (other : ∀ depth c rest, after? block.close (c :: rest) = none →
      (block.nested = true → after? block.opening (c :: rest) = none) → motive depth rest →
      motive depth (c :: rest)) (depth : Nat) (text : Text) : motive depth text := by
  induction hn : text.length using Nat.strongRecOn generalizing depth text with
  | _ n ih =>
    have shorter {opening left : Text} (hne : opening ≠ []) (h : after? opening text = some left) :
        left.length < n := by
      have hp := List.length_pos_iff.mpr hne
      rw [after?_eq_some_iff.mp h, List.length_append] at hn
      omega
    cases hclose : after? block.close text with
    | some left =>
        cases depth with
        | zero => exact close text left hclose
        | succ depth => exact innerClose depth text left hclose (ih _ (shorter hc hclose) depth left rfl)
    | none =>
        by_cases hopen : block.nested = true ∧ ∃ left, after? block.opening text = some left
        · obtain ⟨hnested, left, hl⟩ := hopen
          exact innerOpen depth text left hclose hnested hl (ih _ (shorter ho hl) (depth + 1) left rfl)
        · cases text with
          | nil => exact nil depth
          | cons c rest =>
              refine other depth c rest hclose (fun hnested => ?_) (ih _ ?_ depth rest rfl)
              · cases hl : after? block.opening (c :: rest) with
                | none => rfl
                | some left => exact absurd ⟨hnested, left, hl⟩ hopen
              · rw [← hn, List.length_cons]
                omega

theorem faithful (block : BlockComment) : Faithful block.scan := by
  intro text l h
  obtain ⟨rest, hr, rfl⟩ := Option.map_eq_some_iff.mp h
  simpa using (after?_eq_some_iff.mp hr).symm

end BlockComment

structure CommentGrammar where
  line : Option Text := none
  block : Option BlockComment := none
deriving DecidableEq, Repr

namespace CommentGrammar

def isEmpty (g : CommentGrammar) : Bool := g.line.isNone && g.block.isNone

def scanLine (g : CommentGrammar) (text : Text) : Option Lexeme :=
  g.line.bind fun opening =>
    (after? opening text).map fun rest =>
      (Lexeme.ofSplit (readWhile (!isLineBreak ·) rest)).following opening

def scanBlock (g : CommentGrammar) (text : Text) : Option Lexeme := g.block.bind (·.scan text)

/-- Where one opening begins with the other, the longer one decides. -/
def blockFirst (g : CommentGrammar) : Bool :=
  match g.line, g.block with
  | some line, some block => width line ≤ width block.opening
  | _, _ => true

def scan (g : CommentGrammar) (text : Text) : Option Lexeme :=
  if g.blockFirst then g.scanBlock text <|> g.scanLine text
  else g.scanLine text <|> g.scanBlock text

def defect? (g : CommentGrammar) : Option Defect :=
  if g.line.any List.isEmpty then some (.emptyPart .lineComment)
  else if g.block.any fun block => block.opening.isEmpty || block.close.isEmpty then
    some (.emptyPart .blockComment)
  else none

theorem whole_of_scanLine {g : CommentGrammar} {text : Text} {l : Lexeme}
    (h : g.scanLine text = some l) : l.whole = text := by
  obtain ⟨opening, _, hl⟩ := Option.bind_eq_some_iff.mp h
  obtain ⟨rest, hr, rfl⟩ := Option.map_eq_some_iff.mp hl
  simpa using (after?_eq_some_iff.mp hr).symm

theorem whole_of_scanBlock {g : CommentGrammar} {text : Text} {l : Lexeme}
    (h : g.scanBlock text = some l) : l.whole = text := by
  obtain ⟨block, _, hl⟩ := Option.bind_eq_some_iff.mp h
  exact block.faithful text l hl

theorem faithful (g : CommentGrammar) : Faithful g.scan := by
  intro text l h
  simp only [scan, Option.orElse_eq_orElse, Option.orElse_eq_or] at h
  split at h <;> rcases Option.or_eq_some_iff.mp h with h | ⟨_, h⟩
  all_goals first | exact whole_of_scanBlock h | exact whole_of_scanLine h

theorem defect?_eq_none_iff {g : CommentGrammar} :
    g.defect? = none ↔ (∀ line, g.line = some line → line ≠ [])
      ∧ ∀ block, g.block = some block → block.opening ≠ [] ∧ block.close ≠ [] := by
  simp only [defect?]
  split
  · next h =>
    obtain ⟨line, hl, he⟩ := (Option.any_eq_true ..).mp h
    simp only [reduceCtorEq, false_iff]
    exact fun hn => hn.1 line hl (List.isEmpty_iff.mp he)
  · next h =>
    have hline : ∀ line, g.line = some line → line ≠ [] :=
      fun line hl he => h (by simp [hl, he])
    rw [and_iff_right hline]
    cases g.block <;> simp

end CommentGrammar

end LexicalGrammar
