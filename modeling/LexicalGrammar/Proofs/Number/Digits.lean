import LexicalGrammar.Number.DigitRun

namespace LexicalGrammar

namespace Radix

def alphabet : Radix → List Char
  | binary => ['0', '1']
  | octal => ['0', '1', '2', '3', '4', '5', '6', '7']
  | decimal => ['0', '1', '2', '3', '4', '5', '6', '7', '8', '9']
  | hexadecimal => ['0', '1', '2', '3', '4', '5', '6', '7', '8', '9', 'a', 'b', 'c', 'd', 'e', 'f',
      'A', 'B', 'C', 'D', 'E', 'F']

theorem toNat_lt_of_isDigit {radix : Radix} {c : Char} (h : radix.isDigit c = true) :
    c.toNat < 128 := by
  have hle {last : Char} (hc : c ≤ last) : c.toNat ≤ last.toNat :=
    UInt32.le_iff_toNat_le.mp (Char.le_def.mp hc)
  rw [isDigit, digitValue?] at h
  split at h
  · next hc => exact Nat.lt_of_le_of_lt (hle hc.2) (by decide)
  · split at h
    · next hc => exact Nat.lt_of_le_of_lt (hle hc.2) (by decide)
    · split at h
      · next hc => exact Nat.lt_of_le_of_lt (hle hc.2) (by decide)
      · cases h

theorem isDigit_iff_mem_alphabet {radix : Radix} {c : Char} :
    radix.isDigit c = true ↔ c ∈ radix.alphabet := by
  constructor
  · intro h
    have hcodes : ∀ n < 128, radix.isDigit (Char.ofNat n) = true → Char.ofNat n ∈ radix.alphabet := by
      cases radix <;> decide
    have hc := hcodes c.toNat (toNat_lt_of_isDigit h)
    rw [Char.ofNat_toNat] at hc
    exact hc h
  · intro h
    have hall : radix.alphabet.all radix.isDigit = true := by cases radix <;> decide
    exact List.all_eq_true.mp hall c h

end Radix

namespace DigitRun

theorem more_append_digits {run : DigitRun} {digits : Text}
    (h : ∀ c ∈ digits, run.radix.isDigit c = true) (rest : Text) :
    run.more (digits ++ rest) = (run.more rest).following digits := by
  induction digits with
  | nil => rfl
  | cons c digits ih =>
      have ht : run.takes c (digits ++ rest) = true := by
        rw [takes, h c (List.mem_cons_self ..), Bool.true_or]
      rw [List.cons_append, more, ht, if_pos rfl, ih fun d hd => h d (List.mem_cons_of_mem _ hd)]
      rfl

theorem more_of_no_separator {run : DigitRun} (h : run.separator = none) (text : Text) :
    run.more text = readWhile run.radix.isDigit text := by
  induction text with
  | nil => rfl
  | cons c rest ih =>
      have ht : run.takes c rest = run.radix.isDigit c := by simp [takes, h]
      simp only [more, ht, ih, readWhile, List.takeWhile_cons, List.dropWhile_cons]
      split <;> rfl

theorem scan_of_no_separator {run : DigitRun} (h : run.separator = none) (text : Text) :
    run.scan text =
      if (readWhile run.radix.isDigit text).taken = [] then none
      else some (readWhile run.radix.isDigit text) := by
  cases text with
  | nil => rfl
  | cons c rest =>
      simp only [scan, more_of_no_separator h, readWhile, List.takeWhile_cons, List.dropWhile_cons]
      split <;> simp [Split.following]

inductive Spells (run : DigitRun) : Text → Prop where
  | digits {digits : Text} (hne : digits ≠ []) (h : digits.all run.radix.isDigit = true) :
      run.Spells digits
  | separated {digits rest : Text} {separator : Char} (hne : digits ≠ [])
      (h : digits.all run.radix.isDigit = true) (hs : run.separator = some separator)
      (hrest : run.Spells rest) : run.Spells (digits ++ separator :: rest)

variable {run : DigitRun} {digits rest : Text}

theorem Spells.head?_any (h : run.Spells digits) (rest : Text) :
    (digits ++ rest).head?.any run.radix.isDigit = true := by
  cases h with
  | digits hne hd =>
      obtain ⟨c, others, rfl⟩ := List.exists_cons_of_ne_nil hne
      exact List.all_eq_true.mp hd c (by simp)
  | separated hne hd _ _ =>
      obtain ⟨c, others, rfl⟩ := List.exists_cons_of_ne_nil hne
      exact List.all_eq_true.mp hd c (by simp)

theorem more_separator_cons {separator : Char} (hs : run.separator = some separator)
    (h : rest.head?.any run.radix.isDigit = true) :
    run.more (separator :: rest) = (run.more rest).following [separator] := by
  have ht : run.takes separator rest = true := by simp [takes, hs, h]
  rw [more, if_pos ht]

theorem more_of_head? (hd : rest.head?.any run.radix.isDigit = false)
    (hs : rest.head?.any (run.separator == some ·) = false) : run.more rest = .untouched rest := by
  cases rest with
  | nil => rfl
  | cons c rest =>
      have ht : run.takes c rest = false := by simp_all [takes]
      simp only [more, ht, Bool.false_eq_true, if_false]

theorem Spells.more_append (h : run.Spells digits) (rest : Text) :
    run.more (digits ++ rest) = (run.more rest).following digits := by
  induction h with
  | digits hne hd => exact more_append_digits (List.all_eq_true.mp hd) rest
  | separated hne hd hs hrest ih =>
      rw [List.append_assoc, more_append_digits (List.all_eq_true.mp hd), List.cons_append,
        more_separator_cons hs (hrest.head?_any rest), ih]
      simp [Split.following]

theorem scan_eq_more {text : Text} (h : text.head?.any run.radix.isDigit = true) :
    run.scan text = some (run.more text) := by
  cases text with
  | nil => simp at h
  | cons c rest =>
      have hc : run.radix.isDigit c = true := by simpa using h
      have ht : run.takes c rest = true := by simp [takes, hc]
      rw [scan, more, if_pos hc, if_pos ht]

theorem more_of_separator {separator : Char} (hc : run.radix.isDigit separator = false)
    (h : rest.head?.any run.radix.isDigit = false) :
    run.more (separator :: rest) = .untouched (separator :: rest) := by
  have ht : run.takes separator rest = false := by simp [takes, hc, h]
  rw [more, ht, if_neg Bool.false_ne_true]

theorem Spells.scan_append_of_more (h : run.Spells digits) (hmore : run.more rest = .untouched rest) :
    run.scan (digits ++ rest) = some ⟨digits, rest⟩ := by
  rw [scan_eq_more (h.head?_any rest), h.more_append, hmore]
  simp [Split.following, Split.untouched]

theorem Spells.scan_append (h : run.Spells digits) (hd : rest.head?.any run.radix.isDigit = false)
    (hs : rest.head?.any (run.separator == some ·) = false) :
    run.scan (digits ++ rest) = some ⟨digits, rest⟩ :=
  h.scan_append_of_more (more_of_head? hd hs)

theorem Spells.scan (h : run.Spells digits) : run.scan digits = some ⟨digits, []⟩ := by
  have hend : run.more [] = .untouched [] := rfl
  simpa using h.scan_append_of_more hend

theorem Spells.cons {c : Char} (hc : run.radix.isDigit c = true) (h : run.Spells digits) :
    run.Spells (c :: digits) := by
  cases h with
  | digits hne hd => exact .digits (List.cons_ne_nil _ _) (by rw [List.all_cons, hc, hd]; rfl)
  | @separated front _ _ hne hd hs hrest =>
      have hfront : (c :: front).all run.radix.isDigit = true := by rw [List.all_cons, hc, hd]; rfl
      exact .separated (List.cons_ne_nil _ _) hfront hs hrest

theorem spells_cons_more (run : DigitRun) {c : Char} (hc : run.radix.isDigit c = true) :
    ∀ rest : Text, run.Spells (c :: (run.more rest).taken)
  | [] => .digits (List.cons_ne_nil _ _) (by simp [more, Split.untouched, hc])
  | d :: rest => by
      have hone : run.Spells [c] := .digits (List.cons_ne_nil _ _) (by simp [hc])
      cases ht : run.takes d rest with
      | false => simpa [more, ht, Split.untouched] using hone
      | true =>
          rw [more, ht, if_pos rfl, Split.taken_following, List.singleton_append]
          cases hd : run.radix.isDigit d with
          | true => exact (spells_cons_more run hd rest).cons hc
          | false =>
              -- The separator takes a digit with it, and another group begins there.
              rw [takes, hd, Bool.false_or, Bool.and_eq_true, beq_iff_eq] at ht
              cases rest with
              | nil => simp at ht
              | cons e rest =>
                  have he : run.radix.isDigit e = true := ht.2
                  have hte : run.takes e rest = true := by rw [takes, he, Bool.true_or]
                  rw [more, hte, if_pos rfl, Split.taken_following, List.singleton_append]
                  have hgroups : run.Spells ([c] ++ d :: e :: (run.more rest).taken) :=
                    .separated (List.cons_ne_nil _ _) (by simp [hc]) ht.1 (spells_cons_more run he rest)
                  exact hgroups

theorem spells_of_scan {text : Text} {s : Split} (h : run.scan text = some s) :
    run.Spells s.taken := by
  cases text with
  | nil => cases h
  | cons c rest =>
      rw [DigitRun.scan] at h
      split at h
      · next hc =>
        obtain rfl := Option.some.inj h
        exact run.spells_cons_more hc rest
      · cases h

end DigitRun

end LexicalGrammar
