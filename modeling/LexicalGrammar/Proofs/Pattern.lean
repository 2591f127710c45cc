import LexicalGrammar.Text.Basic
import Mathlib.Computability.RegularExpressions

namespace LexicalGrammar

open RegularExpression

def oneOf (set : List Char) : RegularExpression Char := (set.map char).sum

def zeroOrOne (p : RegularExpression Char) : RegularExpression Char := 1 + p

def oneOrMore (p : RegularExpression Char) : RegularExpression Char := p * star p

theorem mem_oneOf_iff {set : List Char} {word : Text} :
    word ∈ (oneOf set).matches' ↔ ∃ c ∈ set, word = [c] := by
  induction set with
  | nil => simp [oneOf]
  | cons d set ih =>
      have hcons : oneOf (d :: set) = char d + oneOf set := rfl
      rw [hcons, matches'_add, Language.mem_add, ih]
      simp only [List.mem_cons, exists_eq_or_imp]
      exact Iff.rfl

theorem mem_star_oneOf_iff {set : List Char} {word : Text} :
    word ∈ (star (oneOf set)).matches' ↔ ∀ c ∈ word, c ∈ set := by
  rw [matches'_star, Language.mem_kstar]
  constructor
  · rintro ⟨words, rfl, hwords⟩ c hc
    obtain ⟨part, hpart, hc⟩ := List.mem_flatten.mp hc
    obtain ⟨d, hd, rfl⟩ := mem_oneOf_iff.mp (hwords part hpart)
    obtain rfl := List.mem_singleton.mp hc
    exact hd
  · intro h
    refine ⟨word.map fun c => [c], by simp [← List.flatMap_def], ?_⟩
    intro part hpart
    obtain ⟨c, hc, rfl⟩ := List.mem_map.mp hpart
    exact mem_oneOf_iff.mpr ⟨c, h c hc, rfl⟩

theorem mem_oneOf_mul_star_iff {first later : List Char} {word : Text} :
    word ∈ (oneOf first * star (oneOf later)).matches' ↔
      ∃ c rest, word = c :: rest ∧ c ∈ first ∧ ∀ d ∈ rest, d ∈ later := by
  rw [matches'_mul, Language.mem_mul]
  constructor
  · rintro ⟨a, ha, b, hb, rfl⟩
    obtain ⟨c, hc, rfl⟩ := mem_oneOf_iff.mp ha
    exact ⟨c, b, rfl, hc, mem_star_oneOf_iff.mp hb⟩
  · rintro ⟨c, rest, rfl, hc, hrest⟩
    exact ⟨[c], mem_oneOf_iff.mpr ⟨c, hc, rfl⟩, rest, mem_star_oneOf_iff.mpr hrest, rfl⟩

theorem append_mem_star {p : RegularExpression Char} {word later : Text} (hword : word ∈ p.matches')
    (hlater : later ∈ (star p).matches') : word ++ later ∈ (star p).matches' := by
  rw [matches'_star] at hlater ⊢
  rw [← Language.one_add_self_mul_kstar_eq_kstar]
  exact Or.inr (Language.append_mem_mul hword hlater)

def Derives {α : Type} (p : RegularExpression Char) (text : α → Text) : Prop :=
  ∀ word, word ∈ p.matches' ↔ ∃ a, text a = word

section Derives

variable {α β : Type} {p q : RegularExpression Char} {f : α → Text} {g : β → Text}

theorem Derives.mul (hp : Derives p f) (hq : Derives q g) :
    Derives (p * q) fun x : α × β => f x.1 ++ g x.2 := by
  intro word
  rw [matches'_mul, Language.mem_mul]
  constructor
  · rintro ⟨_, ha, _, hb, rfl⟩
    obtain ⟨a, rfl⟩ := (hp _).mp ha
    obtain ⟨b, rfl⟩ := (hq _).mp hb
    exact ⟨(a, b), rfl⟩
  · rintro ⟨⟨a, b⟩, rfl⟩
    exact ⟨f a, (hp _).mpr ⟨a, rfl⟩, g b, (hq _).mpr ⟨b, rfl⟩, rfl⟩

theorem Derives.of_texts (hp : Derives p f) (hto : ∀ a, ∃ b, g b = f a)
    (hfrom : ∀ b, ∃ a, f a = g b) : Derives p g := by
  intro word
  rw [hp word]
  constructor
  · rintro ⟨a, rfl⟩
    exact hto a
  · rintro ⟨b, rfl⟩
    exact hfrom b

theorem Derives.zeroOrOne (hp : Derives p f) :
    Derives (1 + p) fun o : Option α => o.elim [] f := by
  intro word
  rw [matches'_add, Language.mem_add, matches'_epsilon, Language.mem_one, hp word, Option.exists]
  exact or_congr eq_comm Iff.rfl

theorem derives_char (c : Char) : Derives (char c) fun _ : Unit => [c] := by
  intro word
  exact ⟨fun h => ⟨(), h.symm⟩, fun ⟨_, h⟩ => h.symm⟩

theorem derives_oneOf (set : List Char) : Derives (oneOf set) fun c : { c // c ∈ set } => [c.val] := by
  intro word
  rw [mem_oneOf_iff]
  exact ⟨fun ⟨c, hc, h⟩ => ⟨⟨c, hc⟩, h.symm⟩, fun ⟨c, h⟩ => ⟨c.val, c.property, h.symm⟩⟩

end Derives

end LexicalGrammar
