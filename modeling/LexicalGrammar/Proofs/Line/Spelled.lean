import LexicalGrammar.Proofs.Cut.Category

namespace LexicalGrammar

def QuotedBody.spelled (body : QuotedBody) : Text :=
  body.close ++ (body.escape.map Escape.character).toList

def StringGrammar.spelled (g : StringGrammar) : Text :=
  g.tags.flatten ++ g.alternatives.flatMap fun d => d.opening ++ d.body.spelled

def BlockComment.spelled (block : BlockComment) : Text := block.opening ++ block.close

def CommentGrammar.spelled (g : CommentGrammar) : Text :=
  g.line.getD [] ++ g.block.elim [] BlockComment.spelled

def DigitRun.spelled (run : DigitRun) : Text := run.separator.toList

def Exponent.spelled (e : Exponent) : Text := e.markers ++ e.separator.toList

def NumericForm.spelled (form : NumericForm) : Text :=
  form.markers.getD [] ++ form.separator.toList ++ form.exponent.elim [] Exponent.spelled
    ++ form.suffixes.integer ++ form.suffixes.float

def NumberGrammar.spelled (g : NumberGrammar) : Text :=
  g.signs ++ g.forms.flatMap NumericForm.spelled

def IdentifierGrammar.spelled (g : IdentifierGrammar) : Text :=
  g.lead.toList ++ g.head.extra ++ g.body.extra

def Configuration.spelled (c : Configuration) : Text :=
  c.comments.spelled ++ c.characters.elim [] StringGrammar.spelled ++ c.strings.spelled
    ++ c.numbers.spelled ++ c.identifiers.elim [] IdentifierGrammar.spelled
    ++ c.operators.elim [] OperatorGrammar.symbols ++ c.reservedOperators.words.flatten

theorem newline_not_mem_readWhile {p : Char → Bool} (h : p '\n' = false) (text : Text) :
    '\n' ∉ (readWhile p text).taken := by
  intro hm
  rw [all_taken_readWhile p text _ hm] at h
  simp at h

theorem newline_not_mem_readOne {p : Char → Bool} (h : p '\n' = false) (text : Text) :
    '\n' ∉ (readOne p text).taken := by
  cases text with
  | nil => simp [readOne, Split.untouched]
  | cons c rest =>
      cases hc : p c with
      | false => simp [readOne, hc, Split.untouched]
      | true =>
          have hne : '\n' ≠ c := by
            rintro rfl
            rw [h] at hc
            simp at hc
          simpa [readOne, hc] using hne

theorem newline_not_mem_readOptional {part : Text → Option Split} {text : Text}
    (h : ∀ s, part text = some s → '\n' ∉ s.taken) : '\n' ∉ (readOptional part text).taken := by
  cases hp : part text with
  | none => simp [readOptional, hp, Split.untouched]
  | some s => simpa [readOptional, hp] using h s hp

namespace DigitRun

theorem isDigit_newline (radix : Radix) : radix.isDigit '\n' = false := by
  cases radix <;> decide

theorem newline_not_mem_more {run : DigitRun} (h : '\n' ∉ run.spelled) (text : Text) :
    '\n' ∉ (run.more text).taken := by
  have hsep : run.separator ≠ some '\n' := fun he => h (by simp [spelled, he])
  induction text with
  | nil => simp [more, Split.untouched]
  | cons c rest ih =>
      cases ht : run.takes c rest with
      | false => simp [more, ht, Split.untouched]
      | true =>
          have hne : '\n' ≠ c := by
            rintro rfl
            simp [takes, isDigit_newline, hsep] at ht
          simp [more, ht, hne, ih]

theorem newline_not_mem_of_scan {run : DigitRun} (h : '\n' ∉ run.spelled) {text : Text} {s : Split}
    (hs : run.scan text = some s) : '\n' ∉ s.taken := by
  cases text with
  | nil => simp [scan] at hs
  | cons c rest =>
      simp only [scan] at hs
      split at hs
      · next hc =>
        have hne : '\n' ≠ c := by
          rintro rfl
          simp [isDigit_newline] at hc
        obtain rfl := Option.some.inj hs
        simp [hne, newline_not_mem_more h rest]
      · simp at hs

end DigitRun

theorem Exponent.newline_not_mem_of_scan {e : Exponent} (h : '\n' ∉ e.spelled) {text : Text}
    {s : Split} (hs : e.scan text = some s) : '\n' ∉ s.taken := by
  simp only [spelled, List.mem_append, not_or] at h
  cases text with
  | nil => simp [scan] at hs
  | cons c rest =>
      simp only [scan] at hs
      split at hs
      · next hc =>
        obtain ⟨digits, hd, rfl⟩ := Option.map_eq_some_iff.mp hs
        have hne : '\n' ≠ c := by
          rintro rfl
          exact h.1 (by simpa using hc)
        have hsign : '\n' ∉ (e.readSign rest).taken := newline_not_mem_readOne (by simp) rest
        have hseparator : '\n' ∉ e.digits.spelled := h.2
        have hdigits := DigitRun.newline_not_mem_of_scan hseparator hd
        simp [hne, hsign, hdigits]
      · simp at hs

namespace NumericForm

variable {form : NumericForm} {text : Text}

theorem newline_not_mem_of_readMarker (h : '\n' ∉ form.markers.getD []) {s : Split}
    (hs : form.readMarker text = some s) : '\n' ∉ s.taken := by
  simp only [readMarker] at hs
  split at hs
  · obtain rfl := Option.some.inj hs
    simp [Split.untouched]
  · obtain rfl := Option.some.inj hs
    simp
  · next markers m rest _ hm =>
    split at hs
    · next hc =>
      have hne : '\n' ≠ m := by
        rintro rfl
        exact h (by simpa [hm] using hc)
      obtain rfl := Option.some.inj hs
      simpa using hne
    · simp at hs
  · simp at hs

theorem newline_not_mem_of_readInteger (h : '\n' ∉ form.digits.spelled) {s : Split}
    (hs : form.readInteger text = some s) : '\n' ∉ s.taken := by
  simp only [readInteger] at hs
  split at hs
  · obtain rfl := Option.some.inj hs
    simp
  · exact DigitRun.newline_not_mem_of_scan h hs

theorem newline_not_mem_of_readFraction (h : '\n' ∉ form.digits.spelled) {s : Split}
    (hs : form.readFraction text = some s) : '\n' ∉ s.taken := by
  simp only [readFraction] at hs
  split at hs
  · obtain ⟨digits, hd, rfl⟩ := Option.map_eq_some_iff.mp hs
    simp [DigitRun.newline_not_mem_of_scan h hd]
  · simp at hs

theorem newline_not_mem_of_readExponent (h : '\n' ∉ form.exponent.elim [] Exponent.spelled)
    {s : Split} (hs : form.readExponent text = some s) : '\n' ∉ s.taken := by
  obtain ⟨e, he, hscan⟩ := Option.bind_eq_some_iff.mp hs
  rw [he] at h
  exact Exponent.newline_not_mem_of_scan h hscan

theorem newline_not_mem_exponentAfter (h : '\n' ∉ form.exponent.elim [] Exponent.spelled)
    (fraction : Split) : '\n' ∉ (form.exponentAfter fraction).taken :=
  newline_not_mem_readOptional fun _ hs => newline_not_mem_of_readExponent h hs

theorem newline_not_mem_trailingFraction (h : '\n' ∉ form.digits.spelled) (text : Text) :
    '\n' ∉ (form.trailingFraction text).taken := by
  simp only [trailingFraction]
  split
  · simp [Split.untouched]
  · exact newline_not_mem_readOptional fun _ hs => newline_not_mem_of_readFraction h hs

theorem newline_not_mem_afterInteger (hd : '\n' ∉ form.digits.spelled)
    (he : '\n' ∉ form.exponent.elim [] Exponent.spelled) (text : Text) :
    '\n' ∉ (form.afterInteger text).split.taken := by
  cases ht : form.isTorn text with
  | true => simp [afterInteger_of_isTorn ht, Split.untouched]
  | false =>
      have hfraction := newline_not_mem_trailingFraction hd text
      have hexponent := newline_not_mem_exponentAfter he (form.trailingFraction text)
      simp [afterInteger_of_not_isTorn ht, hfraction, hexponent]

theorem newline_not_mem_of_readMagnitude (hd : '\n' ∉ form.digits.spelled)
    (he : '\n' ∉ form.exponent.elim [] Exponent.spelled) {m : Magnitude}
    (hm : form.readMagnitude text = some m) : '\n' ∉ m.split.taken := by
  simp only [readMagnitude] at hm
  split at hm
  · next integer hi =>
    obtain rfl := Option.some.inj hm
    have hinteger := newline_not_mem_of_readInteger hd hi
    have hafter := newline_not_mem_afterInteger hd he integer.rest
    simp [hinteger, hafter]
  · obtain ⟨_, fraction, hf, _, rfl⟩ := withoutInteger_eq_some_iff.mp hm
    have hfraction := newline_not_mem_of_readFraction hd hf
    have hexponent := newline_not_mem_exponentAfter he fraction
    simp [hfraction, hexponent]

theorem newline_not_mem_suffixes {s : Suffixes} (hi : '\n' ∉ s.integer) (hf : '\n' ∉ s.float)
    (isFloat : Bool) (text : Text) : '\n' ∉ (s.read isFloat text).taken := by
  have hl : (s.letters isFloat).contains '\n' = false := by
    cases isFloat
    · simpa [Suffixes.letters] using hi
    · simpa [Suffixes.letters] using hf
  simp only [Suffixes.read]
  split
  · exact newline_not_mem_readWhile hl text
  · exact newline_not_mem_readOne hl text

theorem newline_not_mem_of_scan (h : '\n' ∉ form.spelled) {s : Split}
    (hs : form.scan text = some s) : '\n' ∉ s.taken := by
  simp only [spelled, List.mem_append, not_or] at h
  obtain ⟨⟨⟨⟨hmarkers, hdigits⟩, hexponent⟩, hinteger⟩, hfloat⟩ := h
  obtain ⟨marker, hk, hs⟩ := Option.bind_eq_some_iff.mp hs
  obtain ⟨m, hm, rfl⟩ := Option.map_eq_some_iff.mp hs
  have hmarker := newline_not_mem_of_readMarker hmarkers hk
  have hmagnitude := newline_not_mem_of_readMagnitude hdigits hexponent hm
  have hsuffix := newline_not_mem_suffixes hinteger hfloat m.isFloat m.split.rest
  simp [hmarker, hmagnitude, hsuffix]

end NumericForm

theorem NumberGrammar.newline_not_mem_of_scan {g : NumberGrammar} (h : '\n' ∉ g.spelled)
    {text : Text} {l : Lexeme} (hl : g.scan text = some l) : '\n' ∉ l.text := by
  simp only [spelled, List.mem_append, not_or, List.mem_flatMap, not_exists, not_and] at h
  obtain ⟨⟨form, s⟩, hc, rfl⟩ := Option.map_eq_some_iff.mp hl
  obtain ⟨⟨f, s'⟩, hf, he⟩ := Option.map_eq_some_iff.mp hc
  obtain ⟨rfl, rfl⟩ := Prod.mk.injEq .. ▸ he
  obtain ⟨hm, hscan⟩ := scan_of_firstForm? hf
  have hsign : '\n' ∉ (g.readSign text).taken :=
    newline_not_mem_readOne (by simpa using h.1) text
  have hform := NumericForm.newline_not_mem_of_scan (h.2 f hm) hscan
  simp [Lexeme.ofSplit, hsign, hform]

theorem CharSet.contains_newline {set : CharSet} (h : '\n' ∉ set.extra) :
    set.contains '\n' = false := by
  have hletter : set.letters.isLetter '\n' = false := by cases set.letters <;> decide
  have hdigit : set.letters.isDigit '\n' = false := by cases set.letters <;> decide
  simp [contains, hletter, hdigit, h]

theorem IdentifierGrammar.newline_not_mem_of_scan {g : IdentifierGrammar} (h : '\n' ∉ g.spelled)
    {text : Text} {l : Lexeme} (hl : g.scan text = some l) : '\n' ∉ l.text := by
  simp only [spelled, List.mem_append, not_or, Option.mem_toList] at h
  obtain ⟨⟨hlead, hhead⟩, hbody⟩ := h
  obtain ⟨word, hword, rfl⟩ := Option.map_eq_some_iff.mp hl
  have hfront : '\n' ∉ (g.readLead text).taken := newline_not_mem_readOne (by simpa using hlead) text
  generalize (g.readLead text).rest = rest at hword
  cases rest with
  | nil => simp [readWord] at hword
  | cons c rest =>
      simp only [readWord] at hword
      split at hword
      · next hc =>
        have hne : '\n' ≠ c := by
          rintro rfl
          rw [CharSet.contains_newline hhead] at hc
          simp at hc
        obtain rfl := Option.some.inj hword
        have hrun := newline_not_mem_readWhile (CharSet.contains_newline hbody) rest
        simp [Lexeme.ofSplit, hfront, hne, hrun]
      · simp at hword

theorem OperatorGrammar.newline_not_mem_of_scan {g : OperatorGrammar} (h : '\n' ∉ g.symbols)
    {text : Text} {l : Lexeme} (hl : g.scan text = some l) : '\n' ∉ l.text := by
  simp only [scan] at hl
  split at hl
  · simp at hl
  · obtain rfl := Option.some.inj hl
    exact newline_not_mem_readWhile (by simpa using h) text

theorem Configuration.newline_not_mem_of_scanReservedOperator {c : Configuration}
    (h : '\n' ∉ c.reservedOperators.words.flatten) {text : Text} {l : Lexeme}
    (hl : c.scanReservedOperator text = some l) : '\n' ∉ l.text := by
  obtain ⟨s, hs, rfl⟩ := Option.map_eq_some_iff.mp hl
  have hword : s.taken ∈ c.reservedOperators.words :=
    Vocabulary.contains_iff.mp (of_longestSpelling? hs).2.2
  exact fun hm => h (List.mem_flatten.mpr ⟨s.taken, hword, hm⟩)

theorem CommentGrammar.newline_not_mem_of_scanLine {g : CommentGrammar}
    (h : '\n' ∉ g.line.getD []) {text : Text} {l : Lexeme} (hl : g.scanLine text = some l) :
    '\n' ∉ l.text := by
  obtain ⟨opening, ho, hl⟩ := Option.bind_eq_some_iff.mp hl
  obtain ⟨rest, _, rfl⟩ := Option.map_eq_some_iff.mp hl
  rw [ho, Option.getD_some] at h
  have hrun := newline_not_mem_readWhile (p := (!isLineBreak ·)) (by decide) rest
  simp [Lexeme.ofSplit, h, hrun]

end LexicalGrammar
