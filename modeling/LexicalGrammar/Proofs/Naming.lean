import LexicalGrammar.Proofs.Path
import LexicalGrammar.Settings.Basic

namespace LexicalGrammar.Language

def GoesBy (l : Language) (name : Text) : Prop :=
  ∃ known ∈ l.name :: l.aliases, foldCase known.toList = foldCase (trim name)

def UsesExtension (l : Language) (ext : Text) : Prop :=
  ∃ known ∈ l.extensions, foldCase known.toList = foldCase ext

theorem hasName_iff {l : Language} {name : Text} :
    l.hasName (foldCase (trim name)) = true ↔ l.GoesBy name := by
  simp only [hasName, GoesBy, List.any_eq_true, beq_iff_eq]

theorem hasExtension_iff {l : Language} {ext : Text} :
    l.hasExtension (foldCase ext) = true ↔ l.UsesExtension ext := by
  simp only [hasExtension, UsesExtension, List.any_eq_true, beq_iff_eq]

theorem eq_of_shared (spellings : Language → List String)
    (hapart : ∀ l ∈ all, ∀ m ∈ all, ∀ a ∈ spellings l, ∀ b ∈ spellings m,
      foldCase a.toList = foldCase b.toList → l = m)
    {l m : Language} {folded : Text} (hl : ∃ a ∈ spellings l, foldCase a.toList = folded)
    (hm : ∃ b ∈ spellings m, foldCase b.toList = folded) : l = m := by
  obtain ⟨a, ha, hal⟩ := hl
  obtain ⟨b, hb, hbm⟩ := hm
  exact hapart l (mem_all l) m (mem_all m) a ha b hb (hal.trans hbm.symm)

theorem GoesBy.unique {l m : Language} {name : Text} (hl : l.GoesBy name) (hm : m.GoesBy name) :
    l = m := by
  refine eq_of_shared (fun l => l.name :: l.aliases) ?_ hl hm
  decide +kernel

theorem UsesExtension.unique {l m : Language} {ext : Text} (hl : l.UsesExtension ext)
    (hm : m.UsesExtension ext) : l = m := by
  refine eq_of_shared extensions ?_ hl hm
  decide +kernel

theorem find?_all_eq_some_iff {p : Language → Bool} {l : Language}
    (hp : ∀ a b, p a = true → p b = true → a = b) : all.find? p = some l ↔ p l = true := by
  refine ⟨List.find?_some, fun hl => ?_⟩
  obtain ⟨m, hm⟩ := Option.isSome_iff_exists.mp (List.find?_isSome.mpr ⟨l, mem_all l, hl⟩)
  rw [hm, hp m l (List.find?_some hm) hl]

theorem find?_all_eq_none_iff {p : Language → Bool} :
    all.find? p = none ↔ ∀ l, ¬ p l = true := by
  rw [List.find?_eq_none]
  exact ⟨fun h l => h l (mem_all l), fun h l _ => h l⟩

theorem ofName?_eq_some_iff {name : Text} {l : Language} :
    ofName? name = some l ↔ l.GoesBy name := by
  rw [ofName?, find?_all_eq_some_iff, hasName_iff]
  intro a b ha hb
  exact (hasName_iff.mp ha).unique (hasName_iff.mp hb)

theorem ofName?_eq_none_iff {name : Text} : ofName? name = none ↔ ∀ l : Language, ¬ l.GoesBy name := by
  simp only [ofName?, find?_all_eq_none_iff, hasName_iff]

theorem ofExtension?_eq_some_iff {ext : Text} (h : '.' ∉ ext) {l : Language} :
    ofExtension? ext = some l ↔ l.UsesExtension ext := by
  rw [ofExtension?, dropPoint_of_not_mem h, find?_all_eq_some_iff, hasExtension_iff]
  intro a b ha hb
  exact (hasExtension_iff.mp ha).unique (hasExtension_iff.mp hb)

theorem ofExtension?_eq_none_iff {ext : Text} (h : '.' ∉ ext) :
    ofExtension? ext = none ↔ ∀ l : Language, ¬ l.UsesExtension ext := by
  simp only [ofExtension?, dropPoint_of_not_mem h, find?_all_eq_none_iff, hasExtension_iff]

inductive Answers (name : Text) : Except Failure Language → Prop
  | known {l : Language} : l.GoesBy name → Answers name (.ok l)
  | unknown : (∀ l : Language, ¬ l.GoesBy name) → Answers name (.error (.unknownLanguage name))

theorem answers_iff {name : Text} {answer : Except Failure Language} :
    Answers name answer ↔ named name = answer := by
  constructor
  · intro h
    cases h with
    | known hl => rw [named, ofName?_eq_some_iff.mpr hl]
    | unknown hnone => rw [named, ofName?_eq_none_iff.mpr hnone]
  · rintro rfl
    cases h : ofName? name with
    | some l =>
        rw [named, h]
        exact .known (ofName?_eq_some_iff.mp h)
    | none =>
        rw [named, h]
        exact .unknown (ofName?_eq_none_iff.mp h)

end LexicalGrammar.Language
