import Mathlib.Data.List.Induction
import LexicalGrammar.Number.DigitRun
import LexicalGrammar.Text.Quoted

namespace LexicalGrammar

theorem append_cons_inj {sep : Char} {a b x y : Text} (ha : sep ∉ a) (hb : sep ∉ b)
    (h : a ++ sep :: x = b ++ sep :: y) : a = b ∧ x = y := by
  induction a generalizing b with
  | nil =>
      cases b with
      | nil => exact ⟨rfl, (List.cons.inj h).2⟩
      | cons d b =>
          obtain rfl := (List.cons.inj h).1
          simp at hb
  | cons c a ih =>
      cases b with
      | nil =>
          obtain rfl := (List.cons.inj h).1
          simp at ha
      | cons d b =>
          obtain ⟨rfl, htail⟩ := List.cons.inj h
          obtain ⟨rfl, rfl⟩ := ih (List.not_mem_of_not_mem_cons ha)
            (List.not_mem_of_not_mem_cons hb) htail
          exact ⟨rfl, rfl⟩

def lowerDigits : Text := "0123456789abcdef".toList

def valueOf (base : Nat) (digits : Text) : Nat :=
  digits.foldl (fun n d => base * n + (Radix.digitValue? d).getD 0) 0

structure IsNumeral (base n : Nat) (digits : Text) : Prop where
  value : valueOf base digits = n
  digits_mem : ∀ d ∈ digits, d ∈ lowerDigits.take base
  ne_nil : digits ≠ []
  shortest : digits.head? = some '0' → digits = ['0']

theorem valueOf_concat (base : Nat) (digits : Text) (d : Char) :
    valueOf base (digits ++ [d]) = base * valueOf base digits + (Radix.digitValue? d).getD 0 := by
  simp [valueOf]

theorem digitValue?_digitChar {n : Nat} (h : n < 16) :
    Radix.digitValue? (Nat.digitChar n) = some n :=
  (by decide : ∀ n : Fin 16, Radix.digitValue? (Nat.digitChar n) = some n.val) ⟨n, h⟩

theorem getElem?_lowerDigits {n : Nat} (h : n < 16) : lowerDigits[n]? = some (Nat.digitChar n) :=
  (by decide : ∀ n : Fin 16, lowerDigits[n.val]? = some (Nat.digitChar n)) ⟨n, h⟩

theorem digitChar_mem {base n : Nat} (h : n < base) (hb : base ≤ 16) :
    Nat.digitChar n ∈ lowerDigits.take base :=
  List.mem_of_getElem? ((List.getElem?_take_of_lt h).trans (getElem?_lowerDigits (by omega)))

theorem exists_digit {base : Nat} {d : Char} (h : d ∈ lowerDigits.take base) :
    ∃ n < base, n < 16 ∧ d = Nat.digitChar n := by
  obtain ⟨n, hn⟩ := List.mem_iff_getElem?.mp h
  rw [List.getElem?_take] at hn
  split at hn
  · next hlt =>
    have hlen : n < 16 := (List.getElem?_eq_some_iff.mp hn).1
    rw [getElem?_lowerDigits hlen] at hn
    exact ⟨n, hlt, hlen, (Option.some.inj hn).symm⟩
  · cases hn

theorem isNumeral_toDigits {base : Nat} (h1 : 1 < base) (hb : base ≤ 16) (n : Nat) :
    IsNumeral base n (Nat.toDigits base n) := by
  induction n using Nat.strongRecOn with
  | _ n ih =>
  by_cases hn : n < base
  · have hv := digitValue?_digitChar (show n < 16 by omega)
    rw [Nat.toDigits_of_lt_base hn]
    exact ⟨by simp [valueOf, hv], by simpa using digitChar_mem hn hb, by simp, by simp⟩
  · have hd := ih (n / base) (Nat.div_lt_self (by omega) h1)
    have hm := Nat.mod_lt n (show 0 < base by omega)
    rw [Nat.toDigits_of_base_le h1 (by omega)]
    refine ⟨?_, fun d hmem => ?_, by simp, fun hz => ?_⟩
    · rw [valueOf_concat, hd.value, digitValue?_digitChar (by omega)]
      exact Nat.div_add_mod n base
    · rcases List.mem_append.mp hmem with hmem | hmem
      · exact hd.digits_mem d hmem
      · obtain rfl := List.mem_singleton.mp hmem
        exact digitChar_mem hm hb
    · -- The front begins with a zero only if it is the numeral of zero.
      have hhead : (Nat.toDigits base (n / base)).head? = some '0' := by
        obtain ⟨c, rest, hc⟩ := List.exists_cons_of_ne_nil hd.ne_nil
        simpa [hc] using hz
      have hvalue := hd.value
      have hpos := Nat.div_pos (show base ≤ n by omega) (show 0 < base by omega)
      rw [hd.shortest hhead] at hvalue
      rw [← hvalue] at hpos
      exact absurd hpos (by simp [valueOf, Radix.digitValue?])

theorem IsNumeral.front {base n : Nat} {front : Text} {d : Char}
    (h : IsNumeral base n (front ++ [d])) (hf : front ≠ []) :
    front.head? ≠ some '0' ∧ IsNumeral base (valueOf base front) front := by
  have hnz : front.head? ≠ some '0' := fun hz => by
    obtain ⟨c, rest, rfl⟩ := List.exists_cons_of_ne_nil hf
    simpa using h.shortest hz
  exact ⟨hnz, rfl, fun c hc => h.digits_mem c (by simp [hc]), hf, fun hz => absurd hz hnz⟩

theorem IsNumeral.eq_toDigits {base n : Nat} {digits : Text} (h1 : 1 < base)
    (h : IsNumeral base n digits) : digits = Nat.toDigits base n := by
  induction digits using List.reverseRecOn generalizing n with
  | nil => exact absurd rfl h.ne_nil
  | append_singleton front d ih =>
      obtain ⟨k, hk, hk', rfl⟩ := exists_digit (h.digits_mem d (by simp))
      have hvalue := h.value
      rw [valueOf_concat, digitValue?_digitChar hk', Option.getD_some] at hvalue
      by_cases hf : front = []
      · subst hf
        have hkn : k = n := by simpa [valueOf] using hvalue
        rw [← hkn, Nat.toDigits_of_lt_base hk, List.nil_append]
      · obtain ⟨hnz, hfront⟩ := h.front hf
        have hdigits := ih hfront
        have hpos : 0 < valueOf base front := by
          refine Nat.pos_of_ne_zero fun hz => hnz ?_
          rw [hdigits, hz]
          simp
        calc front ++ [Nat.digitChar k]
            = Nat.toDigits base (valueOf base front) ++ Nat.toDigits base k := by
              rw [← hdigits, Nat.toDigits_of_lt_base hk]
          _ = Nat.toDigits base n := by rw [Nat.toDigits_append_toDigits h1 hpos hk, hvalue]

theorem toDigits_injective {base : Nat} (h1 : 1 < base) (hb : base ≤ 16) {m n : Nat}
    (h : Nat.toDigits base m = Nat.toDigits base n) : m = n := by
  rw [← (isNumeral_toDigits h1 hb m).value, h, (isNumeral_toDigits h1 hb n).value]

theorem IsNumeral.not_mem {base n : Nat} {digits : Text} {c : Char} (h : IsNumeral base n digits)
    (hc : c ∉ lowerDigits) : c ∉ digits :=
  fun hm => hc (List.mem_of_mem_take (h.digits_mem c hm))

namespace Quoted

def letters : List (Char × Char) :=
  [('\x00', '0'), ('\t', 't'), ('\n', 'n'), ('\r', 'r'), ('"', '"'), ('\\', '\\')]

inductive Writes (c : Char) : Text → Prop
  | letter {l : Char} (h : (c, l) ∈ letters) : Writes c ['\\', l]
  | plain (hl : c ∉ letters.map Prod.fst) (h : isPlain c = true) : Writes c [c]
  | codePoint {digits : Text} (hl : c ∉ letters.map Prod.fst) (h : isPlain c = false)
      (hd : IsNumeral 16 c.toNat digits) : Writes c (['\\', 'u', '\x7b'] ++ digits ++ ['\x7d'])

inductive WritesAll : Text → Text → Prop
  | nil : WritesAll [] []
  | cons {c : Char} {text front back : Text} (first : Writes c front) (later : WritesAll text back) :
      WritesAll (c :: text) (front ++ back)

def Quotes (text quoted : Text) : Prop :=
  ∃ body, WritesAll text body ∧ quoted = '"' :: body ++ ['"']

theorem writeChar_of_letter : ∀ p ∈ letters, writeChar p.1 = ['\\', p.2] := by decide

theorem writeChar_of_no_letter {c : Char} (h : c ∉ letters.map Prod.fst) :
    writeChar c = if isPlain c then [c] else codePoint c := by
  unfold writeChar
  split <;> first | rfl | exact absurd (by decide) h

theorem writes_iff {c : Char} {text : Text} : Writes c text ↔ text = writeChar c := by
  constructor
  · intro h
    cases h with
    | letter h => exact (writeChar_of_letter _ h).symm
    | plain hl h => rw [writeChar_of_no_letter hl, if_pos h]
    | codePoint hl h hd =>
        rw [writeChar_of_no_letter hl, h, if_neg Bool.false_ne_true, codePoint,
          hd.eq_toDigits (by decide)]
  · rintro rfl
    by_cases hl : c ∈ letters.map Prod.fst
    · obtain ⟨p, hp, rfl⟩ := List.mem_map.mp hl
      rw [writeChar_of_letter p hp]
      exact .letter hp
    · rw [writeChar_of_no_letter hl]
      cases hp : isPlain c with
      | true => exact .plain hl hp
      | false => exact .codePoint hl hp (isNumeral_toDigits (by decide) (by decide) _)

theorem writesAll_iff {text body : Text} : WritesAll text body ↔ body = text.flatMap writeChar := by
  constructor
  · intro h
    induction h with
    | nil => rfl
    | cons first _ ih => rw [writes_iff.mp first, ih, List.flatMap_cons]
  · rintro rfl
    induction text with
    | nil => exact .nil
    | cons c text ih => exact .cons (writes_iff.mpr rfl) ih

theorem quotes_iff {text quoted : Text} : Quotes text quoted ↔ quoted = write text := by
  simp only [Quotes, writesAll_iff, exists_eq_left, write]

theorem writes_writeChar (c : Char) : Writes c (writeChar c) := writes_iff.mpr rfl

theorem exists_head_of_writes {c : Char} {text : Text} (h : Writes c text) :
    ∃ d rest, text = d :: rest ∧ d ≠ '"' := by
  cases h with
  | letter => exact ⟨_, _, rfl, by decide⟩
  | plain hl =>
      refine ⟨_, _, rfl, ?_⟩
      rintro rfl
      exact absurd (by decide) hl
  | codePoint => exact ⟨_, _, rfl, by decide⟩

theorem newline_not_mem_of_writes {c : Char} {text : Text} (h : Writes c text) : '\n' ∉ text := by
  cases h with
  | @letter l h =>
      have hl := (by decide : ∀ p ∈ letters, p.2 ≠ '\n') _ h
      simpa [eq_comm] using hl
  | plain hl h =>
      intro hm
      obtain rfl := List.mem_singleton.mp hm
      exact absurd (by decide) hl
  | codePoint hl h hd =>
      have hn := hd.not_mem (c := '\n') (by decide)
      simpa using hn

theorem letters_injective : ∀ p ∈ letters, ∀ q ∈ letters, p.2 = q.2 → p.1 = q.1 := by decide

theorem letters_ne_u : ∀ p ∈ letters, p.2 ≠ 'u' := by decide

theorem ne_backslash {c : Char} (h : c ∉ letters.map Prod.fst) : c ≠ '\\' := by
  rintro rfl
  exact absurd (by decide) h

theorem writes_append_inj {c d : Char} {s t a b : Text} (hs : Writes c s) (ht : Writes d t)
    (h : s ++ a = t ++ b) : c = d ∧ a = b := by
  cases hs with
  | letter hs =>
      cases ht with
      | letter ht =>
          obtain ⟨hl, hrest⟩ := List.cons.inj (List.cons.inj h).2
          exact ⟨letters_injective _ hs _ ht hl, hrest⟩
      | plain hl => exact absurd (List.cons.inj h).1.symm (ne_backslash hl)
      | codePoint => exact absurd (List.cons.inj (List.cons.inj h).2).1 (letters_ne_u _ hs)
  | plain hl =>
      cases ht with
      | plain => exact List.cons.inj h
      | letter => exact absurd (List.cons.inj h).1 (ne_backslash hl)
      | codePoint => exact absurd (List.cons.inj h).1 (ne_backslash hl)
  | codePoint _ _ hs =>
      cases ht with
      | letter ht => exact absurd (List.cons.inj (List.cons.inj h).2).1.symm (letters_ne_u _ ht)
      | plain hl => exact absurd (List.cons.inj h).1.symm (ne_backslash hl)
      | codePoint _ _ ht =>
          have hbrace : ∀ {n : Nat} {digits : Text}, IsNumeral 16 n digits → '\x7d' ∉ digits :=
            fun hd => hd.not_mem (by decide)
          simp only [List.cons_append, List.nil_append, List.append_assoc, List.cons.injEq,
            true_and] at h
          obtain ⟨rfl, hrest⟩ := append_cons_inj (hbrace hs) (hbrace ht) h
          exact ⟨Char.toNat_inj.mp (hs.value.symm.trans ht.value), hrest⟩

theorem flatMap_writeChar_inj {s t a b : Text}
    (h : s.flatMap writeChar ++ '"' :: a = t.flatMap writeChar ++ '"' :: b) : s = t ∧ a = b := by
  have hquote {c : Char} {x y : Text} (h : '"' :: x = writeChar c ++ y) : False := by
    obtain ⟨d, rest, hd, hne⟩ := exists_head_of_writes (writes_writeChar c)
    rw [hd] at h
    exact hne (List.cons.inj h).1.symm
  induction s generalizing t with
  | nil =>
      cases t with
      | nil => exact ⟨rfl, (List.cons.inj h).2⟩
      | cons d t =>
          rw [List.flatMap_cons, List.append_assoc] at h
          exact (hquote h).elim
  | cons c s ih =>
      cases t with
      | nil =>
          rw [List.flatMap_cons, List.append_assoc] at h
          exact (hquote h.symm).elim
      | cons d t =>
          rw [List.flatMap_cons, List.flatMap_cons, List.append_assoc, List.append_assoc] at h
          obtain ⟨rfl, hrest⟩ := writes_append_inj (writes_writeChar c) (writes_writeChar d) h
          obtain ⟨rfl, rfl⟩ := ih hrest
          exact ⟨rfl, rfl⟩

theorem write_append_inj {s t a b : Text} (h : write s ++ a = write t ++ b) : s = t ∧ a = b := by
  simp only [write, List.cons_append, List.append_assoc, List.nil_append, List.cons.injEq,
    true_and] at h
  exact flatMap_writeChar_inj h

theorem newline_not_mem_write (text : Text) : '\n' ∉ write text := by
  simp only [write, List.cons_append, List.mem_cons, List.mem_append, List.mem_flatMap]
  rintro (h | ⟨c, _, h⟩ | h)
  · cases h
  · exact newline_not_mem_of_writes (writes_writeChar c) h
  · simp at h

end Quoted

end LexicalGrammar
