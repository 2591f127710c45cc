namespace LexicalGrammar

abbrev Text := List Char

def width : Text → Nat
  | [] => 0
  | c :: rest => c.utf8Size + width rest

@[simp] theorem width_nil : width [] = 0 := rfl

@[simp] theorem width_cons (c : Char) (rest : Text) :
    width (c :: rest) = c.utf8Size + width rest := rfl

@[simp] theorem width_append (front rest : Text) :
    width (front ++ rest) = width front + width rest := by
  induction front with
  | nil => simp
  | cons c front ih => simp [ih, Nat.add_assoc]

def utf8 (text : Text) : List UInt8 := text.flatMap String.utf8EncodeChar

@[simp] theorem utf8_cons (c : Char) (rest : Text) :
    utf8 (c :: rest) = String.utf8EncodeChar c ++ utf8 rest := List.flatMap_cons

theorem width_pos_of_ne_nil {text : Text} (h : text ≠ []) : 0 < width text := by
  cases text with
  | nil => exact absurd rfl h
  | cons c rest => have := c.utf8Size_pos; simp; omega

theorem eq_nil_of_width_eq_zero {text : Text} (h : width text = 0) : text = [] := by
  cases text with
  | nil => rfl
  | cons c rest => have := c.utf8Size_pos; simp at h; omega

theorem exists_append_of_width_le {a b front back : Text} (h : a ++ front = b ++ back)
    (hw : width a ≤ width b) : ∃ mid, b = a ++ mid ∧ front = mid ++ back := by
  rcases List.append_eq_append_iff.mp h with ⟨mid, rfl, rfl⟩ | ⟨mid, rfl, rfl⟩
  · exact ⟨mid, rfl, rfl⟩
  · rw [width_append] at hw
    obtain rfl := eq_nil_of_width_eq_zero (show width mid = 0 by omega)
    exact ⟨[], by simp, by simp⟩

theorem append_inj_of_width_eq {a b front back : Text} (h : a ++ front = b ++ back)
    (hw : width a = width b) : a = b ∧ front = back := by
  obtain ⟨mid, rfl, rfl⟩ := exists_append_of_width_le h (Nat.le_of_eq hw)
  rw [width_append] at hw
  obtain rfl := eq_nil_of_width_eq_zero (show width mid = 0 by omega)
  exact ⟨by simp, by simp⟩

/-- An offset counts the bytes of UTF-8. Nothing stands past the end or inside a character. -/
def suffixAt? : Text → Nat → Option Text
  | text, 0 => some text
  | [], _ + 1 => none
  | c :: rest, offset + 1 =>
      if c.utf8Size ≤ offset + 1 then suffixAt? rest (offset + 1 - c.utf8Size) else none

@[simp] theorem suffixAt?_zero (text : Text) : suffixAt? text 0 = some text := by
  cases text <;> rfl

theorem suffixAt?_cons_of_le {c : Char} {rest : Text} {offset : Nat} (h : c.utf8Size ≤ offset) :
    suffixAt? (c :: rest) offset = suffixAt? rest (offset - c.utf8Size) := by
  cases offset with
  | zero => have := c.utf8Size_pos; omega
  | succ offset => simp [suffixAt?, h]

@[simp] theorem suffixAt?_width_append (front rest : Text) :
    suffixAt? (front ++ rest) (width front) = some rest := by
  induction front with
  | nil => simp
  | cons c front ih =>
      rw [List.cons_append, width_cons, suffixAt?_cons_of_le (Nat.le_add_right ..)]
      simpa using ih

theorem suffixAt?_eq_some_iff {text rest : Text} {offset : Nat} :
    suffixAt? text offset = some rest ↔ ∃ front, text = front ++ rest ∧ width front = offset := by
  constructor
  · intro h
    fun_induction suffixAt? text offset with
    | case1 text => exact ⟨[], by simpa using h, rfl⟩
    | case2 => simp at h
    | case3 c tail offset hc ih =>
        obtain ⟨front, rfl, hw⟩ := ih h
        exact ⟨c :: front, rfl, by simp [hw]; omega⟩
    | case4 => simp at h
  · rintro ⟨front, rfl, rfl⟩
    exact suffixAt?_width_append front rest

theorem suffixAt?_eq_none_of_width_lt {text : Text} {offset : Nat} (h : width text < offset) :
    suffixAt? text offset = none := by
  cases hs : suffixAt? text offset with
  | none => rfl
  | some rest =>
      obtain ⟨front, rfl, rfl⟩ := suffixAt?_eq_some_iff.mp hs
      rw [width_append] at h
      omega

def after? : Text → Text → Option Text
  | [], text => some text
  | _ :: _, [] => none
  | o :: opening, c :: rest => if o = c then after? opening rest else none

@[simp] theorem after?_nil (text : Text) : after? [] text = some text := by
  cases text <;> rfl

theorem after?_eq_some_iff {opening text rest : Text} :
    after? opening text = some rest ↔ text = opening ++ rest := by
  induction opening generalizing text with
  | nil => simp [eq_comm]
  | cons o opening ih =>
      cases text with
      | nil => simp [after?]
      | cons c text =>
          simp only [after?]
          split
          · next h => subst h; simp [ih]
          · next h => simp [Ne.symm h]

@[simp] theorem after?_append (opening rest : Text) : after? opening (opening ++ rest) = some rest :=
  after?_eq_some_iff.mpr rfl

theorem isSome_after?_iff {opening text : Text} :
    (after? opening text).isSome = true ↔ opening <+: text := by
  simp only [Option.isSome_iff_exists, after?_eq_some_iff]
  exact ⟨fun ⟨rest, h⟩ => ⟨rest, h.symm⟩, fun ⟨rest, h⟩ => ⟨rest, h.symm⟩⟩

structure Split where
  taken : Text
  rest : Text
deriving DecidableEq, Repr

namespace Split

def whole (s : Split) : Text := s.taken ++ s.rest

def untouched (text : Text) : Split := ⟨[], text⟩

def following (front : Text) (s : Split) : Split := ⟨front ++ s.taken, s.rest⟩

@[simp] theorem whole_untouched (text : Text) : (untouched text).whole = text := rfl

@[simp] theorem whole_following (front : Text) (s : Split) :
    (s.following front).whole = front ++ s.whole := by
  simp [whole, following]

@[simp] theorem rest_following (front : Text) (s : Split) : (s.following front).rest = s.rest := rfl

@[simp] theorem taken_following (front : Text) (s : Split) :
    (s.following front).taken = front ++ s.taken := rfl

@[simp] theorem following_following (front mid : Text) (s : Split) :
    (s.following mid).following front = s.following (front ++ mid) := by
  simp [following]

@[simp] theorem following_nil (s : Split) : s.following [] = s := rfl

end Split

def readWhile (p : Char → Bool) (text : Text) : Split := ⟨text.takeWhile p, text.dropWhile p⟩

@[simp] theorem whole_readWhile (p : Char → Bool) (text : Text) : (readWhile p text).whole = text := by
  simp [readWhile, Split.whole]

def readOne (p : Char → Bool) : Text → Split
  | [] => .untouched []
  | c :: rest => if p c then ⟨[c], rest⟩ else .untouched (c :: rest)

@[simp] theorem whole_readOne (p : Char → Bool) (text : Text) : (readOne p text).whole = text := by
  cases text with
  | nil => rfl
  | cons c rest => simp only [readOne]; split <;> simp [Split.whole, Split.untouched]

def readOptional (part : Text → Option Split) (text : Text) : Split :=
  (part text).getD (.untouched text)

theorem whole_readOptional {part : Text → Option Split} {text : Text}
    (h : ∀ s, part text = some s → s.whole = text) : (readOptional part text).whole = text := by
  simp only [readOptional]
  cases hp : part text with
  | none => rfl
  | some s => exact h s hp

end LexicalGrammar
