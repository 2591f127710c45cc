import LexicalGrammar.Proofs.Build
import LexicalGrammar.Proofs.Cut.Literal
import LexicalGrammar.Proofs.Cut.Number

namespace LexicalGrammar

namespace Category

theorem cutStable_single (p : Char → Bool) : CutStable (single p) where
  keeps := by
    intro text front back l hl hr
    cases text with
    | nil => simp [single] at hl
    | cons c rest =>
        simp only [single] at hl
        split at hl
        · next hc =>
          obtain rfl := Option.some.inj hl
          simp [single, hc]
        · simp at hl
  refuses := by
    intro front back hn
    cases front with
    | nil => rfl
    | cons c front => simpa [single] using hn

theorem cutStable_scanOperator (c : Configuration) : CutStable c.scanOperator := by
  unfold Configuration.scanOperator
  cases c.operators with
  | some g => exact g.cutStable_scan
  | none => exact (partStable_longestSpelling? _ _).ofSplit

theorem cutStable_scan {c : Configuration} (hc : c.Proper) (category : Category) :
    CutStable (category.scan c) := by
  cases category with
  | comment => exact CommentGrammar.cutStable_scan hc.block
  | character =>
      simp only [scan]
      cases hg : c.characters with
      | none => exact cutStable_none
      | some g => exact StringGrammar.cutStable_scan fun d hd => (hc.characters g hg d hd).2
  | string => exact StringGrammar.cutStable_scan fun d hd => (hc.strings d hd).2
  | number => exact c.numbers.cutStable_scan
  | word => exact c.keywordGrammar.cutStable_scan
  | operator => exact cutStable_scanOperator c
  | bracket => exact cutStable_single _
  | plain => exact cutStable_single _

theorem read_keeps {c : Configuration} (hc : c.Proper) (category : Category)
    {text front back : Text} {r : Reading} (h : category.read c text = some r)
    (hr : r.lexeme.rest = front ++ back) :
    category.read c (r.lexeme.text ++ front) = some ⟨r.kind, { r.lexeme with rest := front }⟩ := by
  obtain ⟨hl, hn, hk⟩ := read_eq_some_iff.mp h
  exact read_eq_some_iff.mpr ⟨(cutStable_scan hc category).keeps hl hr, hn, hk⟩

theorem read_refuses {c : Configuration} (hc : c.Proper) (category : Category) {front : Text}
    (back : Text) (h : category.read c (front ++ back) = none) : category.read c front = none := by
  rw [read_eq_map hc, Option.map_eq_none_iff] at h ⊢
  exact (cutStable_scan hc category).refuses back h

end Category

theorem Configuration.classify_keeps {c : Configuration} (hc : c.Proper) {text front back : Text}
    {r : Reading} (h : c.classify text = some r) (hr : r.lexeme.rest = front ++ back) :
    c.classify (r.lexeme.text ++ front) = some ⟨r.kind, { r.lexeme with rest := front }⟩ := by
  refine findSome?_keeps (fun (category : Category) text => category.read c text) ?_ ?_ h
  · exact fun category _ hk => category.read_keeps hc hk hr
  · intro category _ hn
    rw [Lexeme.eq_cut (whole_of_classify h) hr] at hn
    exact category.read_refuses hc back hn

end LexicalGrammar
