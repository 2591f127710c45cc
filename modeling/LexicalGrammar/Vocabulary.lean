import LexicalGrammar.Text.Order

namespace LexicalGrammar

def spellings (words : List String) : List Text := words.map String.toList

structure Vocabulary where
  words : List Text
  increasing : words.Pairwise (precedes · ·) := by simp
deriving DecidableEq

namespace Vocabulary

def place (word : Text) : List Text → List Text
  | [] => [word]
  | w :: words =>
      if word = w then w :: words
      else if precedes word w then word :: w :: words
      else w :: place word words

@[simp] theorem mem_place {x word : Text} {words : List Text} :
    x ∈ place word words ↔ x = word ∨ x ∈ words := by
  induction words with
  | nil => simp [place]
  | cons w words ih => simp only [place]; grind

theorem increasing_place {word : Text} {words : List Text} (h : words.Pairwise (precedes · ·)) :
    (place word words).Pairwise (precedes · ·) := by
  induction words with
  | nil => simp [place]
  | cons w words ih =>
      simp only [place]
      have hw := List.pairwise_cons.mp h
      split
      · exact h
      · next hne =>
        split
        · next hlt =>
          refine List.pairwise_cons.mpr ⟨?_, h⟩
          intro x hx
          rcases List.mem_cons.mp hx with rfl | hx
          · exact hlt
          · exact precedes_trans hlt (hw.1 x hx)
        · next hnlt =>
          refine List.pairwise_cons.mpr ⟨?_, ih hw.2⟩
          intro x hx
          rcases mem_place.mp hx with rfl | hx
          · exact precedes_of_ne hne (by simpa using hnlt)
          · exact hw.1 x hx

def insert (v : Vocabulary) (word : Text) : Vocabulary :=
  ⟨place word v.words, increasing_place v.increasing⟩

def ofList (words : List Text) : Vocabulary := words.foldl insert ⟨[], .nil⟩

def contains (v : Vocabulary) (word : Text) : Bool := v.words.contains word

def size (v : Vocabulary) : Nat := v.words.length

def widest (v : Vocabulary) : Nat := v.words.foldl (fun n word => max n (width word)) 0

theorem contains_iff {v : Vocabulary} {word : Text} : v.contains word = true ↔ word ∈ v.words :=
  List.contains_iff_mem

@[simp] theorem mem_words_insert {v : Vocabulary} {word x : Text} :
    x ∈ (v.insert word).words ↔ x = word ∨ x ∈ v.words := mem_place

theorem mem_words_foldl_insert {words : List Text} {v : Vocabulary} {x : Text} :
    x ∈ (words.foldl insert v).words ↔ x ∈ words ∨ x ∈ v.words := by
  induction words generalizing v with
  | nil => simp
  | cons w words ih => simp [ih, or_assoc, or_left_comm]

@[simp] theorem mem_words_ofList {words : List Text} {x : Text} :
    x ∈ (ofList words).words ↔ x ∈ words := by
  simp [ofList, mem_words_foldl_insert]

@[simp] theorem contains_ofList {words : List Text} {x : Text} :
    (ofList words).contains x = words.contains x := by
  rw [Bool.eq_iff_iff]
  simp [contains]

theorem width_le_foldl_max (words : List Text) (n : Nat) :
    n ≤ words.foldl (fun n word => max n (width word)) n ∧
      ∀ word ∈ words, width word ≤ words.foldl (fun n word => max n (width word)) n := by
  induction words generalizing n with
  | nil => simp
  | cons w words ih =>
      obtain ⟨hn, hall⟩ := ih (max n (width w))
      rw [List.foldl_cons]
      refine ⟨by omega, fun word hm => ?_⟩
      rcases List.mem_cons.mp hm with rfl | hm
      · omega
      · exact hall word hm

theorem foldl_max_attained (words : List Text) (n : Nat) :
    words.foldl (fun n word => max n (width word)) n = n ∨
      ∃ word ∈ words, width word = words.foldl (fun n word => max n (width word)) n := by
  induction words generalizing n with
  | nil => simp
  | cons w words ih =>
      rw [List.foldl_cons]
      rcases ih (max n (width w)) with he | ⟨word, hm, hw⟩
      · rw [he]
        rcases Nat.le_total (width w) n with hle | hle
        · exact Or.inl (Nat.max_eq_left hle)
        · exact Or.inr ⟨w, by simp, (Nat.max_eq_right hle).symm⟩
      · exact Or.inr ⟨word, List.mem_cons_of_mem _ hm, hw⟩

theorem width_le_widest {v : Vocabulary} {word : Text} (h : word ∈ v.words) :
    width word ≤ v.widest :=
  (width_le_foldl_max v.words 0).2 word h

theorem exists_width_eq_widest {v : Vocabulary} (h : v.words ≠ []) :
    ∃ word ∈ v.words, width word = v.widest := by
  rcases foldl_max_attained v.words 0 with hzero | hw
  · obtain ⟨word, words, he⟩ := List.exists_cons_of_ne_nil h
    have hm : word ∈ v.words := by simp [he]
    have hle := width_le_widest hm
    have hz : v.widest = 0 := hzero
    exact ⟨word, hm, by omega⟩
  · exact hw

theorem eq_of_mem_iff_mem {a b : List Text} (ha : a.Pairwise (precedes · ·)) (hb : b.Pairwise (precedes · ·))
    (h : ∀ x, x ∈ a ↔ x ∈ b) : a = b := by
  induction a generalizing b with
  | nil => exact (List.eq_nil_iff_forall_not_mem.mpr fun x hx => by simpa using (h x).mpr hx).symm
  | cons w a ih =>
      cases b with
      | nil => simpa using (h w).mp (by simp)
      | cons v b =>
          have ha' := List.pairwise_cons.mp ha
          have hb' := List.pairwise_cons.mp hb
          have hwv : w = v := by
            rcases List.mem_cons.mp ((h w).mp (by simp)) with e | hw
            · exact e
            · rcases List.mem_cons.mp ((h v).mpr (by simp)) with e | hv
              · exact e.symm
              · exact absurd (precedes_trans (ha'.1 v hv) (hb'.1 w hw)) (by simp)
          subst hwv
          congr 1
          refine ih ha'.2 hb'.2 fun x => ?_
          constructor
          · intro hx
            rcases List.mem_cons.mp ((h x).mp (List.mem_cons_of_mem _ hx)) with rfl | hx'
            · exact absurd (ha'.1 x hx) (by simp)
            · exact hx'
          · intro hx
            rcases List.mem_cons.mp ((h x).mpr (List.mem_cons_of_mem _ hx)) with rfl | hx'
            · exact absurd (hb'.1 x hx) (by simp)
            · exact hx'

theorem ext_of_mem {v w : Vocabulary} (h : ∀ x, x ∈ v.words ↔ x ∈ w.words) : v = w := by
  obtain ⟨a, ha⟩ := v
  obtain ⟨b, hb⟩ := w
  obtain rfl := eq_of_mem_iff_mem ha hb h
  rfl

end Vocabulary

end LexicalGrammar
