import LexicalGrammar.Text.Basic

namespace LexicalGrammar

/-- The bytes of a path need not be those of a text. -/
structure FilePath where
  bytes : List UInt8
deriving DecidableEq, Repr

namespace FilePath

def ofText (t : Text) : FilePath := ⟨utf8 t⟩

def IsUnicode (p : FilePath) : Prop := ∃ t, p = ofText t

theorem isUnicode_ofText (t : Text) : (ofText t).IsUnicode := ⟨t, rfl⟩

def firstChar? (bytes : List UInt8) : Option Char := bytes.toByteArray.utf8DecodeChar? 0

def replacement : Char := Char.ofNat 0xFFFD

def isContinuation (b : UInt8) : Bool := 0x80 ≤ b && b ≤ 0xBF

/-- Neither overlong forms nor surrogates nor code points past the last one open a character. -/
def opensLong (first second : UInt8) : Bool :=
  if first = 0xE0 then 0xA0 ≤ second && second ≤ 0xBF
  else if first = 0xED then 0x80 ≤ second && second ≤ 0x9F
  else if first = 0xF0 then 0x90 ≤ second && second ≤ 0xBF
  else if first = 0xF4 then 0x80 ≤ second && second ≤ 0x8F
  else 0xE1 ≤ first && first ≤ 0xF3 && isContinuation second

/-- How many bytes one replacement stands for: as many as could begin a character. -/
def strayLength : List UInt8 → Nat
  | first :: second :: rest =>
      if opensLong first second then
        if 0xF0 ≤ first && rest.head?.any isContinuation then 3 else 2
      else 1
  | _ => 1

def displayFrom : (passed : Nat) → List UInt8 → Text
  | _, [] => []
  | passed + 1, _ :: bytes => displayFrom passed bytes
  | 0, b :: bytes =>
      match firstChar? (b :: bytes) with
      | some c => c :: displayFrom (c.utf8Size - 1) bytes
      | none => replacement :: displayFrom (strayLength (b :: bytes) - 1) bytes

def display (p : FilePath) : Text := displayFrom 0 p.bytes

def text? (p : FilePath) : Option Text :=
  if ofText p.display = p then some p.display else none

@[simp] theorem displayFrom_length_append (front bytes : List UInt8) :
    displayFrom front.length (front ++ bytes) = displayFrom 0 bytes := by
  induction front with
  | nil => rfl
  | cons b front ih => exact ih

theorem firstChar?_encoded (c : Char) (bytes : List UInt8) :
    firstChar? (String.utf8EncodeChar c ++ bytes) = some c := by
  rw [firstChar?, List.toByteArray_append, ByteArray.utf8DecodeChar?_utf8EncodeChar_append]

theorem eq_encoded_append_of_firstChar? {bytes : List UInt8} {c : Char}
    (h : firstChar? bytes = some c) : ∃ rest, bytes = String.utf8EncodeChar c ++ rest := by
  obtain ⟨rest, hrest⟩ := ByteArray.exists_of_utf8DecodeChar?_eq_some h
  refine ⟨rest.data.toList, ?_⟩
  simpa using congrArg (fun array => array.data.toList) hrest

theorem displayFrom_encoded (c : Char) (bytes : List UInt8) :
    displayFrom 0 (String.utf8EncodeChar c ++ bytes) = c :: displayFrom 0 bytes := by
  have hfirst := firstChar?_encoded c bytes
  have hlength := String.length_utf8EncodeChar c
  cases he : String.utf8EncodeChar c with
  | nil => exact absurd he String.utf8EncodeChar_ne_nil
  | cons b more =>
      rw [he] at hfirst hlength
      have hsize : c.utf8Size - 1 = more.length := by rw [← hlength]; rfl
      rw [List.cons_append] at hfirst ⊢
      rw [displayFrom, hfirst]
      simp only [hsize, displayFrom_length_append]

@[simp] theorem display_ofText (t : Text) : (ofText t).display = t := by
  rw [display, ofText]
  induction t with
  | nil => rfl
  | cons c t ih => rw [utf8_cons, displayFrom_encoded, ih]

theorem display_injective {p q : FilePath} (hp : p.IsUnicode) (hq : q.IsUnicode)
    (h : p.display = q.display) : p = q := by
  obtain ⟨t, rfl⟩ := hp
  obtain ⟨u, rfl⟩ := hq
  rw [display_ofText, display_ofText] at h
  rw [h]

theorem text?_eq_some_iff {p : FilePath} {t : Text} : p.text? = some t ↔ p = ofText t := by
  rw [text?]
  constructor
  · intro h
    split at h
    · next heq => rw [← Option.some.inj h, heq]
    · cases h
  · rintro rfl
    rw [display_ofText, if_pos rfl]

theorem newline_mem_of_mem_displayFrom {passed : Nat} {bytes : List UInt8}
    (h : '\n' ∈ displayFrom passed bytes) : 0x0A ∈ bytes := by
  fun_induction displayFrom passed bytes with
  | case1 => cases h
  | case2 passed b bytes ih => exact List.mem_cons_of_mem _ (ih h)
  | case3 b bytes c hc ih =>
      rcases List.mem_cons.mp h with rfl | h
      · obtain ⟨rest, hrest⟩ := eq_encoded_append_of_firstChar? hc
        rw [hrest]
        exact List.mem_append_left _ (by decide)
      · exact List.mem_cons_of_mem _ (ih h)
  | case4 b bytes hc ih =>
      rcases List.mem_cons.mp h with h | h
      · exact absurd h (by decide)
      · exact List.mem_cons_of_mem _ (ih h)

theorem newline_mem_of_mem_display {p : FilePath} (h : '\n' ∈ p.display) : 0x0A ∈ p.bytes :=
  newline_mem_of_mem_displayFrom h

end FilePath

end LexicalGrammar
