import LexicalGrammar.Proofs.Cursor.Pass
import LexicalGrammar.Proofs.Occurrence
import LexicalGrammar.Proofs.Quotation.Body

namespace LexicalGrammar

namespace Escape

variable {e : Escape}

def covers (e : Escape) (before : Text) : Bool :=
  if e.escapesItself then (before.reverse.takeWhile (· == e.character)).length % 2 == 1
  else before.getLast? == some e.character

@[simp] theorem covers_nil (e : Escape) : e.covers [] = false := by
  simp [covers]

theorem covers_append_of_ne {c : Char} (h : c ≠ e.character) (before : Text) :
    e.covers (before ++ [c]) = false := by
  simp [covers, h]

theorem covers_append_self (e : Escape) (before : Text) :
    e.covers (before ++ [e.character]) = !(e.escapesItself && e.covers before) := by
  cases hs : e.escapesItself with
  | false => simp [covers, hs]
  | true =>
      simp only [covers, hs, if_true, Bool.true_and, List.reverse_append, List.reverse_singleton,
        List.singleton_append, List.takeWhile_cons, BEq.rfl, List.length_cons]
      rw [Bool.eq_iff_iff, Bool.not_eq_true', beq_iff_eq, beq_eq_false_iff_ne]
      omega

end Escape

namespace QuotedBody

variable {body : QuotedBody}

structure Apart (body : QuotedBody) : Prop where
  close_ne_nil : body.close ≠ []
  close_unbroken : ∀ o ∈ body.close.head?, isLineBreak o = false
  escape_unbroken : ∀ e ∈ body.escape, isLineBreak e.character = false
  escape_ne_close : ∀ e ∈ body.escape, body.close.head? ≠ some e.character

def ClosesAt (body : QuotedBody) (before rest : Text) : Prop :=
  body.close <+: rest ∧ ∀ e ∈ body.escape, e.covers before = false

def BreaksAt (body : QuotedBody) (rest : Text) : Prop := rest.head?.any body.stopsAt = true

def Ready (body : QuotedBody) (before rest : Text) : Prop :=
  ∀ e ∈ body.escape, e.covers before = true → rest.head?.any (body.protects e.character) = false

def Passes (body : QuotedBody) (before mid tail : Text) : Prop :=
  ∀ a b, mid = a ++ b → b ≠ [] →
    ¬body.ClosesAt (before ++ a) (b ++ tail) ∧ ¬body.BreaksAt (b ++ tail)

inductive Stops (body : QuotedBody) (before mid : Text) : Text → Lexeme → Prop
  | close (left : Text) (closes : body.ClosesAt (before ++ mid) (body.close ++ left)) :
      Stops body before mid (body.close ++ left) ⟨mid ++ body.close, true, left⟩
  | line (tail : Text) (breaks : body.BreaksAt tail) : Stops body before mid tail ⟨mid, false, tail⟩
  | finish : Stops body before mid [] ⟨mid, false, []⟩

theorem protects_iff {c d : Char} :
    body.protects c d = true ↔ ∃ e ∈ body.escape, e.character = c ∧
      (body.close.head? = some d ∨ e.escapesItself = true ∧ e.character = d) := by
  simp only [protects, Option.any_eq_true, Bool.and_eq_true, Bool.or_eq_true, beq_iff_eq]
  rfl

theorem head?_of_isPrefix (hc : body.close ≠ []) {c : Char} {rest : Text}
    (h : body.close <+: c :: rest) : body.close.head? = some c := by
  obtain ⟨o, close, ho⟩ := List.exists_cons_of_ne_nil hc
  rw [ho] at h ⊢
  rw [(List.cons_prefix_cons.mp h).1]
  rfl

theorem Ready.start (body : QuotedBody) (rest : Text) : body.Ready [] rest := by
  intro e _ h
  simp at h

theorem Ready.single {c : Char} {rest : Text} (h : rest.head?.any (body.protects c) = false)
    (before : Text) : body.Ready (before ++ [c]) rest := by
  intro e _ hcovers
  by_cases hc : c = e.character
  · exact hc ▸ h
  · rw [Escape.covers_append_of_ne hc] at hcovers
    cases hcovers

theorem Ready.uncovered {before rest : Text} {c : Char} (h : body.Ready before (c :: rest))
    {e : Escape} (he : e ∈ body.escape) (hp : body.protects e.character c = true) :
    e.covers before = false := by
  cases hcovers : e.covers before with
  | false => rfl
  | true =>
      have hnot : body.protects e.character c = false := h e he hcovers
      rw [hp] at hnot
      cases hnot

theorem protects_close {e : Escape} (he : e ∈ body.escape) {d : Char}
    (hd : body.close.head? = some d) : body.protects e.character d = true :=
  protects_iff.mpr ⟨e, he, rfl, Or.inl hd⟩

theorem covers_pair (ha : body.Apart) {before rest : Text} {c d : Char}
    (h : body.Ready before (c :: d :: rest)) (hp : body.protects c d = true) {e : Escape}
    (he : e ∈ body.escape) :
    e.covers (before ++ [c]) = true ∧ e.covers (before ++ [c, d]) = false := by
  obtain ⟨e', he', rfl, hd⟩ := protects_iff.mp hp
  obtain rfl : e' = e := Option.some.inj (he'.symm.trans he)
  have hsplit : before ++ [e'.character, d] = before ++ [e'.character] ++ [d] := by simp
  rw [hsplit, Escape.covers_append_self]
  rcases hd with hd | ⟨hself, rfl⟩
  · have hne : d ≠ e'.character := fun heq => ha.escape_ne_close e' he (heq ▸ hd)
    refine ⟨?_, Escape.covers_append_of_ne hne _⟩
    cases hself : e'.escapesItself with
    | false => rfl
    | true =>
        have hcovers := h.uncovered he (protects_iff.mpr ⟨e', he, rfl, Or.inr ⟨hself, rfl⟩⟩)
        rw [hcovers]
        rfl
  · have hcovers := h.uncovered he hp
    rw [Escape.covers_append_self, Escape.covers_append_self, hcovers, hself]
    exact ⟨rfl, rfl⟩

theorem stopsAt_of_protects (ha : body.Apart) {c d : Char} (hp : body.protects c d = true) :
    body.stopsAt c = false ∧ body.stopsAt d = false := by
  obtain ⟨e, he, rfl, hd⟩ := protects_iff.mp hp
  have hescape := ha.escape_unbroken e he
  have hunbroken : isLineBreak d = false := by
    rcases hd with hd | ⟨_, rfl⟩
    · exact ha.close_unbroken d hd
    · exact hescape
  simp [stopsAt, hescape, hunbroken]

theorem Ready.pair (ha : body.Apart) {before rest : Text} {c d : Char}
    (h : body.Ready before (c :: d :: rest)) (hp : body.protects c d = true) :
    body.Ready (before ++ [c, d]) rest := by
  intro e he hcovers
  rw [(covers_pair ha h hp he).2] at hcovers
  cases hcovers

theorem Passes.nil {before tail : Text} : body.Passes before [] tail := by
  intro a b hab hb
  exact absurd (List.append_eq_nil_iff.mp hab.symm).2 hb

theorem Passes.cons {before mid tail : Text} {c : Char} (h : body.Passes (before ++ [c]) mid tail)
    (hcloses : ¬body.ClosesAt before (c :: (mid ++ tail))) (hbreaks : body.stopsAt c = false) :
    body.Passes before (c :: mid) tail := by
  intro a b hab hb
  cases a with
  | nil =>
      obtain rfl : b = c :: mid := hab.symm
      rw [List.append_nil]
      exact ⟨hcloses, by simp [BreaksAt, hbreaks]⟩
  | cons o a =>
      obtain ⟨rfl, rfl⟩ := List.cons.inj hab
      have hlater := h a b rfl hb
      rw [List.append_assoc] at hlater
      exact hlater

theorem Stops.following {before front mid tail : Text} {l : Lexeme}
    (h : body.Stops (before ++ front) mid tail l) :
    body.Stops before (front ++ mid) tail (l.following front) := by
  cases h with
  | close left closes =>
      rw [List.append_assoc] at closes
      rw [Lexeme.following, ← List.append_assoc]
      exact .close left closes
  | line tail breaks => exact .line tail breaks
  | finish => exact .finish

theorem exists_stops (ha : body.Apart) (text : Text) : ∀ before, body.Ready before text →
    ∃ mid tail, text = mid ++ tail ∧ body.Passes before mid tail
      ∧ body.Stops before mid tail (body.scan text) := by
  refine scan_cases ha.close_ne_nil (motive := fun text l => ∀ before, body.Ready before text →
    ∃ mid tail, text = mid ++ tail ∧ body.Passes before mid tail ∧ body.Stops before mid tail l)
    ?atEnd ?atClose ?atBreak ?pair ?single text
  case atEnd => exact fun before _ => ⟨[], [], rfl, Passes.nil, .finish⟩
  case atClose =>
    intro c rest left _ hafter before hready
    have hsplit := after?_eq_some_iff.mp hafter
    have hhead := head?_of_isPrefix ha.close_ne_nil ⟨left, hsplit.symm⟩
    have hcloses : body.ClosesAt before (body.close ++ left) :=
      ⟨List.prefix_append .., fun e he => hready.uncovered he (protects_close he hhead)⟩
    refine ⟨[], body.close ++ left, hsplit, Passes.nil, ?_⟩
    exact .close left (by rwa [List.append_nil])
  case atBreak =>
    intro c rest _ _ hs before _
    exact ⟨[], c :: rest, rfl, Passes.nil, .line _ (by simpa [BreaksAt] using hs)⟩
  case pair =>
    intro c d rest hp ih before hready
    obtain ⟨mid, tail, rfl, hpasses, hstops⟩ := ih _ (hready.pair ha hp)
    obtain ⟨hc, hd⟩ := stopsAt_of_protects ha hp
    obtain ⟨e, he, rfl, _⟩ := protects_iff.mp hp
    have hsecond : ¬body.ClosesAt (before ++ [e.character]) (d :: (mid ++ tail)) := fun h => by
      have hcovers := (covers_pair ha hready hp he).1
      rw [h.2 e he] at hcovers
      cases hcovers
    have hfirst : ¬body.ClosesAt before (e.character :: (d :: mid ++ tail)) := fun h =>
      ha.escape_ne_close e he (head?_of_isPrefix ha.close_ne_nil h.1)
    have hsplit : before ++ [e.character, d] = before ++ [e.character] ++ [d] := by simp
    exact ⟨e.character :: d :: mid, tail, rfl, ((hsplit ▸ hpasses).cons hsecond hd).cons hfirst hc,
      hstops.following⟩
  case single =>
    intro c rest hp hafter hs ih before hready
    obtain ⟨mid, tail, rfl, hpasses, hstops⟩ := ih _ (Ready.single hp before)
    refine ⟨c :: mid, tail, rfl, hpasses.cons ?_ hs, hstops.following⟩
    rintro ⟨⟨left, hleft⟩, _⟩
    rw [after?_eq_some_iff.mpr hleft.symm] at hafter
    cases hafter

def closings (body : QuotedBody) (text : Text) (position : Nat) : Set Nat :=
  {i | ∃ before rest, slice? text position i = some before ∧ suffixAt? text i = some rest
    ∧ body.ClosesAt before rest}

def breaks (body : QuotedBody) (text : Text) (position : Nat) : Set Nat :=
  {b | position ≤ b ∧ ∃ rest, suffixAt? text b = some rest ∧ body.BreaksAt rest}

def stopFrom (body : QuotedBody) (c : Cursor) : Bool × Nat :=
  ((body.scan c.rest).closed, (c.pass (body.scan c.rest).text).position)

variable {c : Cursor}

theorem suffixAt?_source_iff {offset : Nat} {rest : Text} :
    c.position ≤ offset ∧ suffixAt? c.source offset = some rest ↔
      ∃ before, c.rest = before ++ rest ∧ offset = c.position + width before := by
  constructor
  · rintro ⟨hle, hrest⟩
    obtain ⟨front, hsource, rfl⟩ := suffixAt?_eq_some_iff.mp hrest
    obtain ⟨before, rfl, hsplit⟩ := exists_append_of_width_le hsource hle
    exact ⟨before, hsplit, width_append ..⟩
  · rintro ⟨before, hsplit, rfl⟩
    refine ⟨Nat.le_add_right .., ?_⟩
    rw [Cursor.source, hsplit, Cursor.position, suffixAt?_append_add, suffixAt?_width_append]

theorem mem_closings_iff {i : Nat} :
    i ∈ body.closings c.source c.position ↔ ∃ before rest, c.rest = before ++ rest
      ∧ i = c.position + width before ∧ body.ClosesAt before rest := by
  constructor
  · rintro ⟨before, rest, hslice, hrest, hcloses⟩
    obtain ⟨back, hback, rfl⟩ := slice?_eq_some_iff.mp hslice
    have hsplit : c.rest = before ++ back := Option.some.inj (c.suffixAt?_position.symm.trans hback)
    obtain ⟨_, hback⟩ := suffixAt?_source_iff.mpr ⟨before, hsplit, rfl⟩
    obtain rfl : back = rest := Option.some.inj (hback.symm.trans hrest)
    exact ⟨before, back, hsplit, rfl, hcloses⟩
  · rintro ⟨before, rest, hsplit, rfl, hcloses⟩
    have hslice := hsplit ▸ c.suffixAt?_position
    obtain ⟨_, hrest⟩ := suffixAt?_source_iff.mpr ⟨before, hsplit, rfl⟩
    exact ⟨before, rest, slice?_eq_some_iff.mpr ⟨rest, hslice, rfl⟩, hrest, hcloses⟩

theorem mem_breaks_iff {b : Nat} :
    b ∈ body.breaks c.source c.position ↔ ∃ before rest, c.rest = before ++ rest
      ∧ b = c.position + width before ∧ body.BreaksAt rest := mem_standing_iff

theorem cut_cases {before rest mid tail : Text} (h : before ++ rest = mid ++ tail) :
    (∃ b, mid = before ++ b ∧ b ≠ [] ∧ rest = b ++ tail) ∨ before = mid ∧ rest = tail
      ∨ width mid < width before := by
  rcases Nat.lt_trichotomy (width before) (width mid) with hlt | heq | hgt
  · obtain ⟨b, rfl, hb⟩ := exists_append_of_width_le h (Nat.le_of_lt hlt)
    refine Or.inl ⟨b, rfl, ?_, hb⟩
    rintro rfl
    simp at hlt
  · exact Or.inr (Or.inl (append_inj_of_width_eq h heq))
  · exact Or.inr (Or.inr hgt)

section

variable {mid tail : Text} (hsplit : c.rest = mid ++ tail) (hp : body.Passes [] mid tail)
include hsplit hp

theorem Passes.closing_cases {i : Nat} (hi : i ∈ body.closings c.source c.position) :
    c.position + width mid < i ∨ i = c.position + width mid ∧ body.ClosesAt mid tail := by
  obtain ⟨before, rest, hrest, rfl, hcloses⟩ := mem_closings_iff.mp hi
  rcases cut_cases (hrest.symm.trans hsplit) with ⟨b, rfl, hb, rfl⟩ | ⟨rfl, rfl⟩ | hlt
  · exact absurd hcloses (hp before b rfl hb).1
  · exact Or.inr ⟨rfl, hcloses⟩
  · exact Or.inl (Nat.add_lt_add_left hlt _)

theorem Passes.break_cases {b : Nat} (hb : b ∈ body.breaks c.source c.position) :
    c.position + width mid < b ∨ b = c.position + width mid ∧ body.BreaksAt tail := by
  obtain ⟨before, rest, hrest, rfl, hbreaks⟩ := mem_breaks_iff.mp hb
  rcases cut_cases (hrest.symm.trans hsplit) with ⟨a, rfl, ha, rfl⟩ | ⟨rfl, rfl⟩ | hlt
  · exact absurd hbreaks (hp before a rfl ha).2
  · exact Or.inr ⟨rfl, hbreaks⟩
  · exact Or.inl (Nat.add_lt_add_left hlt _)

end

theorem not_breaksAt_close (ha : body.Apart) (left : Text) : ¬body.BreaksAt (body.close ++ left) := by
  obtain ⟨o, close, ho⟩ := List.exists_cons_of_ne_nil ha.close_ne_nil
  have hunbroken := ha.close_unbroken o (by rw [ho]; rfl)
  simp [BreaksAt, ho, stopsAt, hunbroken]

theorem stopFrom_eq {text : Text} {closed : Bool} {rest : Text}
    (h : body.scan c.rest = ⟨text, closed, rest⟩) :
    body.stopFrom c = (closed, c.position + width text) := by
  have hwhole : c.rest = text ++ rest := by
    rw [← whole_scan body c.rest, h]
    rfl
  rw [stopFrom, h, Cursor.position_pass hwhole]

theorem stopFrom_first_closing (ha : body.Apart) (c : Cursor) :
    (∃ i, IsLeast (body.closings c.source c.position) i
        ∧ (∀ b ∈ body.breaks c.source c.position, i < b)
        ∧ body.stopFrom c = (true, i + width body.close))
      ∨ (¬∃ i, IsLeast (body.closings c.source c.position) i
            ∧ ∀ b ∈ body.breaks c.source c.position, i < b)
        ∧ ((∃ b, IsLeast (body.breaks c.source c.position) b ∧ body.stopFrom c = (false, b))
          ∨ body.breaks c.source c.position = ∅ ∧ body.stopFrom c = (false, width c.source)) := by
  obtain ⟨mid, tail, hsplit, hpasses, hstops⟩ := exists_stops ha c.rest [] (Ready.start body c.rest)
  generalize hl : body.scan c.rest = l at hstops
  cases hstops with
  | close left closes =>
      refine Or.inl ⟨c.position + width mid, ⟨?_, fun i hi => ?_⟩, fun b hb => ?_, ?_⟩
      · exact mem_closings_iff.mpr ⟨mid, _, hsplit, rfl, closes⟩
      · rcases hpasses.closing_cases hsplit hi with hlt | ⟨rfl, _⟩
        · exact Nat.le_of_lt hlt
        · exact Nat.le_refl _
      · rcases hpasses.break_cases hsplit hb with hlt | ⟨_, hbreaks⟩
        · exact hlt
        · exact absurd hbreaks (not_breaksAt_close ha left)
      · rw [stopFrom_eq hl, width_append, Nat.add_assoc]
  | line _ breaks =>
      have hmem : c.position + width mid ∈ body.breaks c.source c.position :=
        mem_breaks_iff.mpr ⟨mid, tail, hsplit, rfl, breaks⟩
      refine Or.inr ⟨?_, Or.inl ⟨_, ⟨hmem, fun b hb => ?_⟩, stopFrom_eq hl⟩⟩
      · rintro ⟨i, hi, hlt⟩
        have hbefore := hlt _ hmem
        rcases hpasses.closing_cases hsplit hi.1 with hle | ⟨rfl, _⟩
        · omega
        · omega
      · rcases hpasses.break_cases hsplit hb with hlt | ⟨rfl, _⟩
        · exact Nat.le_of_lt hlt
        · exact Nat.le_refl _
  | finish =>
      have hend : c.position + width mid = width c.source := by
        rw [Cursor.source, width_append, hsplit, List.append_nil, Cursor.position]
      have hclosings (i) : i ∉ body.closings c.source c.position := fun hi => by
        rcases hpasses.closing_cases hsplit hi with hlt | ⟨_, hcloses⟩
        · obtain ⟨_, rest, _, hrest, _⟩ := hi
          have hle := le_width_of_isBoundary ⟨rest, hrest⟩
          omega
        · exact ha.close_ne_nil (List.prefix_nil.mp hcloses.1)
      have hbreaks (b) : b ∉ body.breaks c.source c.position := fun hb => by
        rcases hpasses.break_cases hsplit hb with hlt | ⟨_, hnone⟩
        · obtain ⟨_, rest, hrest, _⟩ := hb
          have hle := le_width_of_isBoundary ⟨rest, hrest⟩
          omega
        · cases hnone
      refine Or.inr ⟨?_, Or.inr ⟨Set.ext fun b => iff_of_false (hbreaks b) id, ?_⟩⟩
      · rintro ⟨i, hi, _⟩
        exact hclosings i hi.1
      · rw [stopFrom_eq hl, hend]

def tripleQuoted : QuotedBody := { close := ['"', '"', '"'], escape := some .backslashPaired }

theorem apart_tripleQuoted : tripleQuoted.Apart where
  close_ne_nil := by decide
  close_unbroken := by
    rintro _ ⟨⟩
    decide
  escape_unbroken := by
    rintro _ ⟨⟩
    decide
  escape_ne_close := by
    rintro _ ⟨⟩
    decide

theorem tripleQuoted_first_closing :
    let c := Cursor.ofOffset ['é', '\\', '"', '"', '"', '\\', '\\', '"', '"', '"', '\n'] 2
    tripleQuoted.Apart ∧ IsLeast (tripleQuoted.closings c.source c.position) 8
      ∧ (∀ b ∈ tripleQuoted.breaks c.source c.position, 8 < b)
      ∧ tripleQuoted.stopFrom c = (true, 11) := by
  intro c
  have hstop : tripleQuoted.stopFrom c = (true, 11) := by decide
  refine ⟨apart_tripleQuoted, ?_⟩
  rcases stopFrom_first_closing apart_tripleQuoted c with
    ⟨i, hi, hbefore, heq⟩ | ⟨_, ⟨_, _, heq⟩ | ⟨_, heq⟩⟩
  · have hi8 : i = 8 := by
      have := (Prod.mk.inj (hstop.symm.trans heq)).2
      have : width tripleQuoted.close = 3 := by decide
      omega
    exact ⟨hi8 ▸ hi, hi8 ▸ hbefore, hstop⟩
  · cases hstop.symm.trans heq
  · cases hstop.symm.trans heq

end QuotedBody

end LexicalGrammar
