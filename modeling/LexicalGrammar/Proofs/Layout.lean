import LexicalGrammar.Proofs.Splitting

namespace LexicalGrammar

inductive Piece where
  | blank (text : Text)
  | lexeme (kind : TokenKind) (text : Text)
deriving DecidableEq, Repr

namespace Piece

def text : Piece → Text
  | blank text => text
  | lexeme _ text => text

def LegibleBefore (c : Configuration) (rest : Text) : Piece → Prop
  | blank text => ∀ ch ∈ text, Character.isWhiteSpace ch = true
  | lexeme kind text =>
      text.head?.any Character.isWhiteSpace = false ∧
        c.classify (text ++ rest) = some ⟨kind, text, true, rest⟩

end Piece

def spell (pieces : List Piece) : Text := pieces.flatMap Piece.text

@[simp] theorem spell_nil : spell [] = [] := rfl

@[simp] theorem spell_cons (piece : Piece) (pieces : List Piece) :
    spell (piece :: pieces) = piece.text ++ spell pieces := rfl

@[simp] theorem spell_append (front back : List Piece) :
    spell (front ++ back) = spell front ++ spell back := List.flatMap_append

def tokensFrom : (offset : Nat) → List Piece → List Token
  | _, [] => []
  | offset, .blank text :: pieces => tokensFrom (offset + width text) pieces
  | offset, .lexeme kind text :: pieces =>
      ⟨kind, offset, text, true⟩ :: tokensFrom (offset + width text) pieces

def Legible (c : Configuration) (rest : Text) : List Piece → Prop
  | [] => True
  | piece :: pieces => piece.LegibleBefore c (spell pieces ++ rest) ∧ Legible c rest pieces

variable {c : Configuration} {rest : Text}

@[simp] theorem legible_nil : Legible c rest [] := trivial

@[simp] theorem legible_cons {piece : Piece} {pieces : List Piece} :
    Legible c rest (piece :: pieces) ↔
      piece.LegibleBefore c (spell pieces ++ rest) ∧ Legible c rest pieces := Iff.rfl

theorem legible_append {front back : List Piece} :
    Legible c rest (front ++ back) ↔ Legible c (spell back ++ rest) front ∧ Legible c rest back := by
  induction front with
  | nil => simp
  | cons piece front ih => simp [ih, and_assoc]

theorem Configuration.classify_of_scan (category : Category) (before : List Category)
    {after : List Category} (hsplit : Category.precedence = before ++ category :: after)
    {text : Text} (hbefore : ∀ other ∈ before, other.scan c text = none) {l : Lexeme}
    (h : category.scan c text = some l) (hne : l.text ≠ []) :
    c.classify text = some ⟨category.kind c l.text, l⟩ := by
  refine List.findSome?_eq_some_iff.mpr ⟨before, category, after, hsplit, ?_, fun other ho => ?_⟩
  · exact Category.read_eq_some_iff.mpr ⟨h, hne, rfl⟩
  · simp [Category.read, hbefore other ho]

theorem Tokenizer.tokens_of_lexeme {kind : TokenKind} {text : Text}
    (h : (Piece.lexeme kind text).LegibleBefore c rest) (position : Nat) :
    (Tokenizer.mk c position (text ++ rest)).tokens =
      ⟨kind, position, text, true⟩ :: (Tokenizer.mk c (position + width text) rest).tokens := by
  obtain ⟨hhead, hread⟩ := h
  have hne : text ≠ [] := Configuration.text_ne_nil_of_classify hread
  have hskip := skipWhiteSpace_of_head? (head?_any_append hne hhead rest) c position
  have hread' : c.classify (Tokenizer.mk c position (text ++ rest)).skipWhiteSpace.rest = _ :=
    (congrArg (fun t => c.classify t.rest) hskip).trans hread
  rw [tokens_of_classify hread', behind, hskip]
  rfl

theorem Tokenizer.tokens_spell {pieces : List Piece} (h : Legible c rest pieces) (position : Nat) :
    (Tokenizer.mk c position (spell pieces ++ rest)).tokens =
      tokensFrom position pieces ++ (Tokenizer.mk c (position + width (spell pieces)) rest).tokens := by
  induction pieces generalizing position with
  | nil => rfl
  | cons piece pieces ih =>
      obtain ⟨hpiece, hpieces⟩ := h
      rw [spell_cons, List.append_assoc, width_append, ← Nat.add_assoc]
      cases piece with
      | blank text => exact (tokens_append_blanks hpiece c position _).trans (ih hpieces _)
      | lexeme kind text =>
          exact (tokens_of_lexeme hpiece position).trans (congrArg (List.cons _) (ih hpieces _))

theorem Configuration.tokenize_spell {pieces : List Piece} (h : Legible c [] pieces) :
    c.tokenize (spell pieces) = tokensFrom 0 pieces := by
  have hrun := Tokenizer.tokens_spell h 0
  have hend : (Tokenizer.mk c (0 + width (spell pieces)) []).tokens = [] := Tokenizer.tokens_of_end rfl
  rwa [List.append_nil, hend, List.append_nil] at hrun

end LexicalGrammar
