import LexicalGrammar.Grammar.Defect
import LexicalGrammar.Grammar.Order
import LexicalGrammar.Lexeme

namespace LexicalGrammar

structure NumberGrammar where
  signs : List Char := []
  forms : List NumericForm := []
deriving DecidableEq, Repr

namespace NumberGrammar

def isEmpty (g : NumberGrammar) : Bool := g.forms.isEmpty

def readSign (g : NumberGrammar) : Text → Split := readOne g.signs.contains

def firstForm? (forms : List NumericForm) (text : Text) : Option (NumericForm × Split) :=
  forms.findSome? fun form => (form.scan text).map (form, ·)

def commitment? (g : NumberGrammar) (text : Text) : Option (NumericForm × Split) :=
  let sign := g.readSign text
  (firstForm? g.forms sign.rest).map fun (form, s) => (form, s.following sign.taken)

def scan (g : NumberGrammar) (text : Text) : Option Lexeme :=
  (g.commitment? text).map fun (_, s) => .ofSplit s

def hides (earlier later : NumericForm) : Bool := !earlier.isPrefixed && later.isPrefixed

def defect? (g : NumberGrammar) : Option Defect :=
  (firstHidden? hides g.forms).map fun (earlier, later) => .shadowedForm earlier later

theorem scan_of_firstForm? {forms : List NumericForm} {text : Text} {form : NumericForm}
    {s : Split} (h : firstForm? forms text = some (form, s)) :
    form ∈ forms ∧ form.scan text = some s := by
  obtain ⟨f, hm, hf⟩ := List.exists_of_findSome?_eq_some h
  obtain ⟨s', hs, he⟩ := Option.map_eq_some_iff.mp hf
  obtain ⟨rfl, rfl⟩ := Prod.mk.injEq .. ▸ he
  exact ⟨hm, hs⟩

theorem whole_of_commitment? {g : NumberGrammar} {text : Text} {form : NumericForm} {s : Split}
    (h : g.commitment? text = some (form, s)) : s.whole = text := by
  obtain ⟨⟨f, s'⟩, hf, he⟩ := Option.map_eq_some_iff.mp h
  obtain ⟨rfl, rfl⟩ := Prod.mk.injEq .. ▸ he
  rw [Split.whole_following, NumericForm.whole_of_scan (scan_of_firstForm? hf).2]
  exact whole_readOne _ _

theorem faithful (g : NumberGrammar) : Faithful g.scan := by
  intro text l h
  obtain ⟨⟨form, s⟩, hc, rfl⟩ := Option.map_eq_some_iff.mp h
  exact whole_of_commitment? hc

theorem text_ne_nil_of_scan {g : NumberGrammar} {text : Text} {l : Lexeme}
    (h : g.scan text = some l) : l.text ≠ [] := by
  obtain ⟨⟨form, s⟩, hc, rfl⟩ := Option.map_eq_some_iff.mp h
  obtain ⟨⟨f, s'⟩, hf, he⟩ := Option.map_eq_some_iff.mp hc
  obtain ⟨rfl, rfl⟩ := Prod.mk.injEq .. ▸ he
  have hn := NumericForm.taken_ne_nil_of_scan (scan_of_firstForm? hf).2
  simp [Lexeme.ofSplit, hn]

theorem defect?_eq_none_iff {g : NumberGrammar} :
    g.defect? = none ↔
      g.forms.Pairwise fun earlier later => later.isPrefixed = true → earlier.isPrefixed = true := by
  simp only [defect?, Option.map_eq_none_iff, firstHidden?_eq_none_iff, hides]
  constructor <;> intro h <;> refine h.imp ?_ <;> intro a b <;>
    cases a.isPrefixed <;> cases b.isPrefixed <;> simp

end NumberGrammar

end LexicalGrammar
