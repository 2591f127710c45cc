import LexicalGrammar.Text.Basic

namespace LexicalGrammar

def readThen (first second : Text → Option Split) (text : Text) : Option Split :=
  (first text).bind fun s => (second s.rest).map (Split.following s.taken)

def takeOne (p : Char → Bool) : Text → Option Split
  | [] => none
  | c :: rest => if p c then some ⟨[c], rest⟩ else none

theorem whole_of_takeOne {p : Char → Bool} {text : Text} {s : Split} (h : takeOne p text = some s) :
    s.whole = text := by
  cases text with
  | nil => cases h
  | cons c rest =>
      rw [takeOne] at h
      split at h
      · obtain rfl := Option.some.inj h
        rfl
      · cases h

@[simp] theorem readThen_takeOne_cons (p : Char → Bool) (second : Text → Option Split) (c : Char)
    (rest : Text) : readThen (takeOne p) second (c :: rest)
      = if p c then (second rest).map (Split.following [c]) else none := by
  cases hp : p c <;> simp [readThen, takeOne, hp]

theorem readOptional_takeOne (p : Char → Bool) (text : Text) :
    readOptional (takeOne p) text = readOne p text := by
  cases text with
  | nil => rfl
  | cons c rest => cases hp : p c <;> simp [readOptional, takeOne, readOne, hp]

inductive Expression where
  | empty
  | one (p : Char → Bool)
  | seq (first second : Expression)
  | choice (first second : Expression)
  | many (e : Expression)

namespace Expression

def never : Expression := .one fun _ => false

def optional (e : Expression) : Expression := .choice e .empty

def plus (e : Expression) : Expression := .seq e (.many e)

def choose (alternatives : List Expression) : Expression := alternatives.foldr .choice never

inductive Reads : Expression → Text → Option Split → Prop
  | empty (text : Text) : Reads .empty text (some (.untouched text))
  | one {p : Char → Bool} {c : Char} (rest : Text) (h : p c = true) :
      Reads (.one p) (c :: rest) (some ⟨[c], rest⟩)
  | one_refuses {p : Char → Bool} {text : Text} (h : text.head?.any p = false) :
      Reads (.one p) text none
  | seq {a b : Expression} {text : Text} {s t : Split} (first : Reads a text (some s))
      (second : Reads b s.rest (some t)) : Reads (.seq a b) text (some (t.following s.taken))
  | seq_first {a b : Expression} {text : Text} (first : Reads a text none) :
      Reads (.seq a b) text none
  | seq_second {a b : Expression} {text : Text} {s : Split} (first : Reads a text (some s))
      (second : Reads b s.rest none) : Reads (.seq a b) text none
  | choice_first {a b : Expression} {text : Text} {s : Split} (first : Reads a text (some s)) :
      Reads (.choice a b) text (some s)
  | choice_second {a b : Expression} {text : Text} {o : Option Split} (first : Reads a text none)
      (second : Reads b text o) : Reads (.choice a b) text o
  | many_more {a : Expression} {text : Text} {s t : Split} (first : Reads a text (some s))
      (later : Reads (.many a) s.rest (some t)) : Reads (.many a) text (some (t.following s.taken))
  | many_done {a : Expression} {text : Text} (first : Reads a text none) :
      Reads (.many a) text (some (.untouched text))

theorem Reads.unique {e : Expression} {text : Text} {o : Option Split} (h : e.Reads text o) :
    ∀ {o'}, e.Reads text o' → o = o' := by
  induction h with
  | empty text =>
      rintro _ ⟨⟩
      rfl
  | one rest h =>
      intro _ h'
      cases h' with
      | one => rfl
      | one_refuses h' => simp [h] at h'
  | one_refuses h =>
      intro _ h'
      cases h' with
      | one _ h' => simp [h'] at h
      | one_refuses => rfl
  | seq _ _ iha ihb =>
      intro _ h'
      cases h' with
      | seq first second =>
          obtain rfl := Option.some.inj (iha first)
          obtain rfl := Option.some.inj (ihb second)
          rfl
      | seq_first first => cases iha first
      | seq_second first second =>
          obtain rfl := Option.some.inj (iha first)
          cases ihb second
  | seq_first _ iha =>
      intro _ h'
      cases h' with
      | seq first _ => cases iha first
      | seq_first => rfl
      | seq_second => rfl
  | seq_second _ _ iha ihb =>
      intro _ h'
      cases h' with
      | seq first second =>
          obtain rfl := Option.some.inj (iha first)
          cases ihb second
      | seq_first => rfl
      | seq_second => rfl
  | choice_first _ iha =>
      intro _ h'
      cases h' with
      | choice_first first => exact iha first
      | choice_second first _ => cases iha first
  | choice_second _ _ iha ihb =>
      intro _ h'
      cases h' with
      | choice_first first => cases iha first
      | choice_second _ second => exact ihb second
  | many_more _ _ iha ihb =>
      intro _ h'
      cases h' with
      | many_more first later =>
          obtain rfl := Option.some.inj (iha first)
          obtain rfl := Option.some.inj (ihb later)
          rfl
      | many_done first => cases iha first
  | many_done _ iha =>
      intro _ h'
      cases h' with
      | many_more first _ => cases iha first
      | many_done => rfl

def Denotes (e : Expression) (read : Text → Option Split) : Prop := ∀ text, e.Reads text (read text)

theorem Denotes.reads_iff {e : Expression} {read : Text → Option Split} (h : e.Denotes read)
    {text : Text} {o : Option Split} : e.Reads text o ↔ o = read text :=
  ⟨fun ho => ho.unique (h text), fun ho => ho ▸ h text⟩

theorem Denotes.congr {e : Expression} {read read' : Text → Option Split} (h : e.Denotes read)
    (heq : ∀ text, read text = read' text) : e.Denotes read' :=
  fun text => heq text ▸ h text

theorem denotes_empty : empty.Denotes fun text => some (.untouched text) := .empty

theorem denotes_one (p : Char → Bool) : (one p).Denotes (takeOne p) := by
  intro text
  cases text with
  | nil => exact .one_refuses rfl
  | cons c rest =>
      cases hp : p c with
      | true => simpa [takeOne, hp] using Reads.one rest hp
      | false =>
          have hrefuses : (one p).Reads (c :: rest) none := .one_refuses hp
          simpa [takeOne, hp] using hrefuses

theorem denotes_never : never.Denotes fun _ => none := fun text => .one_refuses (by cases text <;> rfl)

section

variable {a b : Expression} {first second : Text → Option Split}

theorem Denotes.seq (ha : a.Denotes first) (hb : b.Denotes second) :
    (Expression.seq a b).Denotes (readThen first second) := by
  intro text
  have hfirst := ha text
  rw [readThen]
  cases hs : first text with
  | none => exact .seq_first (hs ▸ hfirst)
  | some s =>
      have hsecond := hb s.rest
      rw [Option.bind_some]
      cases ht : second s.rest with
      | none => exact .seq_second (hs ▸ hfirst) (ht ▸ hsecond)
      | some t => exact .seq (hs ▸ hfirst) (ht ▸ hsecond)

theorem Denotes.choice (ha : a.Denotes first) (hb : b.Denotes second) :
    (Expression.choice a b).Denotes fun text => (first text).or (second text) := by
  intro text
  have hfirst := ha text
  change (Expression.choice a b).Reads text ((first text).or (second text))
  cases hs : first text with
  | none => exact .choice_second (hs ▸ hfirst) (hb text)
  | some s => exact .choice_first (hs ▸ hfirst)

theorem Denotes.optional (ha : a.Denotes first) :
    (optional a).Denotes fun text => some (readOptional first text) := by
  intro text
  have h := ha.choice denotes_empty text
  change (Expression.choice a .empty).Reads text (some ((first text).getD (.untouched text)))
  cases hs : first text <;> simpa [hs] using h

theorem Denotes.choose {α : Type} {expression : α → Expression} {read : α → Text → Option Split}
    (h : ∀ i, (expression i).Denotes (read i)) (items : List α) :
    (choose (items.map expression)).Denotes fun text => items.findSome? (read · text) := by
  induction items with
  | nil => exact denotes_never
  | cons i items ih =>
      intro text
      have hchoice := (h i).choice ih text
      change (Expression.choice (expression i) (Expression.choose (items.map expression))).Reads text
        ((i :: items).findSome? (read · text))
      rw [List.findSome?_cons]
      cases hs : read i text <;> simpa [hs] using hchoice

end

theorem denotes_many_one (p : Char → Bool) :
    (many (one p)).Denotes fun text => some (readWhile p text) := by
  intro text
  induction text with
  | nil => exact .many_done (denotes_one p [])
  | cons c rest ih =>
      cases hp : p c with
      | true => simpa [readWhile, hp, Split.following] using Reads.many_more (.one rest hp) ih
      | false =>
          have hrefuses : (one p).Reads (c :: rest) none := .one_refuses hp
          simpa [readWhile, hp, Split.untouched] using Reads.many_done hrefuses

end Expression

end LexicalGrammar
