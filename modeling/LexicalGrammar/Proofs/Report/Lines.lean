import LexicalGrammar.Proofs.Report.Quoted
import LexicalGrammar.Report.Tokens

namespace LexicalGrammar

inductive ReportLine where
  | file (path : Text) (language : Language)
  | token (position : Position) (kind : TokenKind) (text : Text) (closed : Bool)
deriving DecidableEq, Repr

namespace TokenRecord

def line (r : TokenRecord) : ReportLine := .token r.position r.kind r.text r.closed

def shown (r : TokenRecord) : Position × TokenKind × Text × Bool :=
  (r.position, r.kind, r.text, r.closed)

end TokenRecord

namespace FileTokens

def lines (f : FileTokens) : List ReportLine :=
  .file f.path.display f.language :: f.tokens.map TokenRecord.line

def shown (f : FileTokens) : Text × Language × List (Position × TokenKind × Text × Bool) :=
  (f.path.display, f.language, f.tokens.map TokenRecord.shown)

def named (f : FileTokens) : FilePath × Language × List (Position × TokenKind × Text × Bool) :=
  (f.path, f.language, f.tokens.map TokenRecord.shown)

end FileTokens

namespace ReportLine

def marker (closed : Bool) : Text := if closed then [] else "  (unterminated)".toList

def around (position : Position) (kind : TokenKind) (quoted : Text) (closed : Bool) : Text :=
  [' ', ' '] ++ Nat.toDigits 10 position.line ++ ':' :: Nat.toDigits 10 position.column
    ++ '\t' :: kind.name.toList ++ '\t' :: quoted ++ marker closed

def write : ReportLine → Text
  | file path language => path ++ [' ', '('] ++ language.name.toList ++ [')']
  | token position kind text closed => around position kind (Quoted.write text) closed

theorem marker_injective {a b : Bool} (h : marker a = marker b) : a = b := by
  revert a b
  decide

theorem language_name_injective {l m : Language} (h : l.name.toList = m.name.toList) : l = m :=
  (by decide : ∀ l ∈ Language.all, ∀ m ∈ Language.all, l.name.toList = m.name.toList → l = m)
    l l.mem_all m m.mem_all h

theorem kind_name_injective {k m : TokenKind} (h : k.name.toList = m.name.toList) : k = m := by
  revert h
  cases k <;> cases m <;> decide

theorem tab_not_mem_kind (k : TokenKind) : '\t' ∉ k.name.toList := by cases k <;> decide

theorem not_mem_toDigits {c : Char} (h : c ∉ lowerDigits) (n : Nat) : c ∉ Nat.toDigits 10 n :=
  (isNumeral_toDigits (by decide) (by decide) n).not_mem h

theorem toDigits_inj {m n : Nat} (h : Nat.toDigits 10 m = Nat.toDigits 10 n) : m = n :=
  toDigits_injective (by decide) (by decide) h

theorem around_inj {p : Position} {k : TokenKind} {a b : Text} {closed : Bool}
    (h : around p k a closed = around p k b closed) : a = b := by
  simpa [around] using h

theorem token_write_inj {p q : Position} {k m : TokenKind} {s t : Text} {a b : Bool}
    (h : (token p k s a).write = (token q m t b).write) : token p k s a = token q m t b := by
  simp only [write, around, List.append_assoc, List.cons_append, List.nil_append, List.cons.injEq,
    true_and] at h
  have hcolon (n : Nat) : ':' ∉ Nat.toDigits 10 n := not_mem_toDigits (by decide) n
  have htab (n : Nat) : '\t' ∉ Nat.toDigits 10 n := not_mem_toDigits (by decide) n
  obtain ⟨hline, h⟩ := append_cons_inj (hcolon _) (hcolon _) h
  obtain ⟨hcolumn, h⟩ := append_cons_inj (htab _) (htab _) h
  obtain ⟨hkind, h⟩ := append_cons_inj (tab_not_mem_kind _) (tab_not_mem_kind _) h
  obtain ⟨rfl, hmarker⟩ := Quoted.write_append_inj h
  obtain ⟨pl, pc⟩ := p
  obtain ⟨ql, qc⟩ := q
  obtain rfl : pl = ql := toDigits_inj hline
  obtain rfl : pc = qc := toDigits_inj hcolumn
  obtain rfl := kind_name_injective hkind
  obtain rfl := marker_injective hmarker
  rfl

theorem paren_not_mem_language (l : Language) : '(' ∉ l.name.toList := by cases l <;> decide

theorem newline_not_mem_language (l : Language) : '\n' ∉ l.name.toList := by cases l <;> decide

theorem newline_not_mem_kind (k : TokenKind) : '\n' ∉ k.name.toList := by cases k <;> decide

theorem file_write_inj {p q : Text} {l m : Language} (h : (file p l).write = (file q m).write) :
    file p l = file q m := by
  -- The last opening parenthesis of the line is the one in front of the language.
  have hparen (l : Language) : '(' ∉ (l.name.toList ++ [')']).reverse := by
    simpa using paren_not_mem_language l
  have hr : (l.name.toList ++ [')']).reverse ++ '(' :: ' ' :: p.reverse
      = (m.name.toList ++ [')']).reverse ++ '(' :: ' ' :: q.reverse := by
    simpa [write] using congrArg List.reverse h
  obtain ⟨hname, hpath⟩ := append_cons_inj (hparen l) (hparen m) hr
  obtain rfl := language_name_injective (List.append_cancel_right (List.reverse_inj.mp hname))
  obtain rfl := List.reverse_inj.mp (List.cons.inj hpath).2
  rfl

theorem last_language (l : Language) : ∃ front c, l.name.toList = front ++ [c] ∧ c ≠ 'd' := by
  have hlast : l.name.toList.getLast? ≠ none ∧ l.name.toList.getLast? ≠ some 'd' := by
    cases l <;> decide
  obtain hnil | ⟨front, c, hc⟩ := List.eq_nil_or_concat l.name.toList
  · simp [hnil] at hlast
  · rw [List.concat_eq_append] at hc
    refine ⟨front, c, hc, ?_⟩
    rintro rfl
    simp [hc] at hlast

theorem file_write_ne_token {path : Text} {l : Language} {p : Position} {k : TokenKind} {s : Text}
    {closed : Bool} (h : (file path l).write = (token p k s closed).write) : False := by
  obtain ⟨front, c, hname, hc⟩ := last_language l
  have hfile : (file path l).write = (path ++ [' ', '('] ++ front) ++ [c, ')'] := by
    simp [write, hname]
  -- A token's line ends with the closing quote or with the marker, and no language does.
  cases closed with
  | true =>
      have htoken : ∃ front, (token p k s true).write = front ++ ['"'] := by
        rw [write, around, marker, if_pos rfl, Quoted.write, List.append_nil, ← List.cons_append,
          ← List.append_assoc]
        exact ⟨_, rfl⟩
      obtain ⟨back, hback⟩ := htoken
      rw [write, hback] at h
      exact absurd (List.append_inj_right' h rfl) (by decide)
  | false =>
      have hmarker : marker false = "  (unterminate".toList ++ ['d', ')'] := by decide
      rw [hfile, write, around, hmarker, ← List.append_assoc] at h
      exact hc (List.cons.inj (List.append_inj_right' h rfl)).1

theorem write_injective {a b : ReportLine} (h : a.write = b.write) : a = b := by
  cases a with
  | file p l =>
      cases b with
      | file => exact file_write_inj h
      | token => exact (file_write_ne_token h).elim
  | token =>
      cases b with
      | file => exact (file_write_ne_token h.symm).elim
      | token => exact token_write_inj h

theorem newline_not_mem_token (p : Position) (k : TokenKind) (s : Text) (closed : Bool) :
    '\n' ∉ (token p k s closed).write := by
  have hline := not_mem_toDigits (c := '\n') (by decide) p.line
  have hcolumn := not_mem_toDigits (c := '\n') (by decide) p.column
  have hmarker : ∀ closed, '\n' ∉ marker closed := by decide
  simp [write, around, hline, hcolumn, newline_not_mem_kind, Quoted.newline_not_mem_write, hmarker]

theorem newline_not_mem_file {path : Text} (h : '\n' ∉ path) (l : Language) :
    '\n' ∉ (file path l).write := by
  simp [write, h, newline_not_mem_language]

end ReportLine

theorem lines_inj {a b : List Text} (ha : ∀ line ∈ a, '\n' ∉ line) (hb : ∀ line ∈ b, '\n' ∉ line)
    (h : a.flatMap (· ++ ['\n']) = b.flatMap (· ++ ['\n'])) : a = b := by
  induction a generalizing b with
  | nil =>
      cases b with
      | nil => rfl
      | cons m b => simp at h
  | cons l a ih =>
      cases b with
      | nil => simp at h
      | cons m b =>
          simp only [List.flatMap_cons, List.append_assoc, List.cons_append, List.nil_append] at h
          obtain ⟨rfl, hrest⟩ := append_cons_inj (ha l (by simp)) (hb m (by simp)) h
          rw [ih (fun l hl => ha l (by simp [hl])) (fun l hl => hb l (by simp [hl])) hrest]

namespace TokenRecord

theorem writeLine_eq (r : TokenRecord) : r.writeLine = r.line.write ++ ['\n'] := rfl

theorem quotes_iff {r : TokenRecord} {quoted : Text} : Quoted.Quotes r.text quoted ↔
    r.writeLine = ReportLine.around r.position r.kind quoted r.closed ++ ['\n'] := by
  rw [Quoted.quotes_iff, writeLine_eq, line, ReportLine.write, List.append_left_inj]
  constructor
  · rintro rfl
    rfl
  · intro h
    exact (ReportLine.around_inj h).symm

theorem shown_of_line {r q : TokenRecord} (h : r.line = q.line) : r.shown = q.shown := by
  injection h with hposition hkind htext hclosed
  rw [shown, shown, hposition, hkind, htext, hclosed]

theorem shown_of_lines {a b : List TokenRecord} {x y : List ReportLine}
    (hx : ∀ r : TokenRecord, x.head? ≠ some r.line) (hy : ∀ r : TokenRecord, y.head? ≠ some r.line)
    (h : a.map line ++ x = b.map line ++ y) : a.map shown = b.map shown ∧ x = y := by
  induction a generalizing b with
  | nil =>
      cases b with
      | nil => exact ⟨rfl, h⟩
      | cons q b => exact absurd (congrArg List.head? h) (hx q)
  | cons r a ih =>
      cases b with
      | nil => exact absurd (congrArg List.head? h.symm) (hy r)
      | cons q b =>
          obtain ⟨hline, hrest⟩ := List.cons.inj h
          obtain ⟨hshown, rfl⟩ := ih hrest
          exact ⟨List.cons_eq_cons.mpr ⟨shown_of_line hline, hshown⟩, rfl⟩

end TokenRecord

namespace FileTokens

theorem writeLines_eq (f : FileTokens) :
    f.writeLines = (f.lines.map ReportLine.write).flatMap (· ++ ['\n']) := by
  have htokens : f.tokens.flatMap TokenRecord.writeLine
      = ((f.tokens.map TokenRecord.line).map ReportLine.write).flatMap (· ++ ['\n']) := by
    rw [List.map_map, List.flatMap_map]
    exact congrArg (List.flatMap · f.tokens) (funext TokenRecord.writeLine_eq)
  rw [writeLines, htokens, lines, List.map_cons, List.flatMap_cons]
  simp [ReportLine.write]

theorem report_eq (files : List FileTokens) :
    report .text files
      = ((files.flatMap lines).map ReportLine.write).flatMap (· ++ ['\n']) := by
  rw [report, report?, Option.getD_some, List.map_flatMap, List.flatMap_assoc]
  exact congrArg (List.flatMap · files) (funext writeLines_eq)

theorem newline_not_mem_lines {files : List FileTokens} (h : ∀ f ∈ files, 0x0A ∉ f.path.bytes) :
    ∀ line ∈ (files.flatMap lines).map ReportLine.write, '\n' ∉ line := by
  intro line hline
  obtain ⟨l, hl, rfl⟩ := List.mem_map.mp hline
  obtain ⟨f, hf, hl⟩ := List.mem_flatMap.mp hl
  rcases List.mem_cons.mp hl with rfl | hl
  · have hpath : '\n' ∉ f.path.display := fun hm => h f hf (FilePath.newline_mem_of_mem_display hm)
    exact ReportLine.newline_not_mem_file hpath _
  · obtain ⟨r, _, rfl⟩ := List.mem_map.mp hl
    exact ReportLine.newline_not_mem_token _ _ _ _

theorem head?_flatMap_lines (files : List FileTokens) (r : TokenRecord) :
    (files.flatMap lines).head? ≠ some r.line := by
  cases files <;> simp [lines, TokenRecord.line]

theorem shown_of_lines {files others : List FileTokens}
    (h : files.flatMap lines = others.flatMap lines) : files.map shown = others.map shown := by
  induction files generalizing others with
  | nil =>
      cases others with
      | nil => rfl
      | cons g others => cases h
  | cons f files ih =>
      cases others with
      | nil => cases h
      | cons g others =>
          -- The tokens of a file end in front of the line of the next file.
          obtain ⟨hfile, hrest⟩ := List.cons.inj h
          injection hfile with hpath hlanguage
          obtain ⟨htokens, hlines⟩ := TokenRecord.shown_of_lines (head?_flatMap_lines files)
            (head?_flatMap_lines others) hrest
          rw [List.map_cons, List.map_cons, ih hlines, shown, shown, hpath, hlanguage, htokens]

theorem length_lines (files : List FileTokens) :
    (files.flatMap lines).length = files.length + (files.flatMap FileTokens.tokens).length := by
  induction files with
  | nil => rfl
  | cons f files ih =>
      simp [lines, ih]
      omega

theorem named_of_shown {files others : List FileTokens} (hfiles : ∀ f ∈ files, f.path.IsUnicode)
    (hothers : ∀ f ∈ others, f.path.IsUnicode) (h : files.map shown = others.map shown) :
    files.map named = others.map named := by
  induction files generalizing others with
  | nil =>
      cases others with
      | nil => rfl
      | cons g others => cases h
  | cons f files ih =>
      cases others with
      | nil => cases h
      | cons g others =>
          obtain ⟨hshown, hrest⟩ := List.cons.inj h
          obtain ⟨hpath, hmore⟩ := Prod.mk.inj hshown
          have hpath := FilePath.display_injective (hfiles f (by simp)) (hothers g (by simp)) hpath
          have hrest := ih (fun f hf => hfiles f (by simp [hf])) (fun g hg => hothers g (by simp [hg]))
            hrest
          rw [List.map_cons, List.map_cons, hrest, named, named, hpath, hmore]

theorem report_lossless {files others : List FileTokens}
    (hfiles : ∀ f ∈ files, 0x0A ∉ f.path.bytes) (hothers : ∀ f ∈ others, 0x0A ∉ f.path.bytes) :
    (∃ lines : List Text, report .text files = lines.flatMap (· ++ ['\n']) ∧
        (∀ line ∈ lines, '\n' ∉ line) ∧
        lines.length = files.length + (files.flatMap FileTokens.tokens).length) ∧
      (report .text files = report .text others → files.map shown = others.map shown) ∧
      ((∀ f ∈ files, f.path.IsUnicode) → (∀ f ∈ others, f.path.IsUnicode) →
        report .text files = report .text others → files.map named = others.map named) ∧
      ∀ f ∈ files, ∀ r ∈ f.tokens, ∀ quoted, Quoted.Quotes r.text quoted ↔
        r.writeLine = ReportLine.around r.position r.kind quoted r.closed ++ ['\n'] := by
  have hshown (h : report .text files = report .text others) : files.map shown = others.map shown := by
    rw [report_eq, report_eq] at h
    have hlines := lines_inj (newline_not_mem_lines hfiles) (newline_not_mem_lines hothers) h
    exact shown_of_lines ((List.map_inj_right fun _ _ => ReportLine.write_injective).mp hlines)
  refine ⟨⟨_, report_eq files, newline_not_mem_lines hfiles, ?_⟩, hshown,
    fun hf ho h => named_of_shown hf ho (hshown h), fun _ _ _ _ _ => TokenRecord.quotes_iff⟩
  rw [List.length_map, length_lines]

theorem report_lossless_marker :
    report .text
        [⟨.ofText "a (C).c".toList, .c, [⟨⟨.string, 0, "\"a".toList, false⟩, ⟨1, 1⟩⟩]⟩] ≠
      report .text
        [⟨.ofText "a (C).c".toList, .c,
          [⟨⟨.string, 0, "\"a\"  (unterminated)".toList, true⟩, ⟨1, 1⟩⟩]⟩] :=
  fun h => absurd
    ((report_lossless (by decide) (by decide)).2.2.1
      (by simp [FilePath.isUnicode_ofText]) (by simp [FilePath.isUnicode_ofText]) h)
    (by simp [named, TokenRecord.shown])

/-- In two of the paths a byte begins no character, and in one the replacement itself stands there. -/
def displayedAlike : List FilePath :=
  [⟨[0x61, 0xFF, 0x2E, 0x63]⟩, ⟨[0x61, 0xFE, 0x2E, 0x63]⟩,
    .ofText ['a', FilePath.replacement, '.', 'c']]

theorem report_displayedAlike :
    (∀ p ∈ displayedAlike, 0x0A ∉ p.bytes) ∧ displayedAlike.Pairwise fun p q =>
      report .text [⟨p, .c, []⟩] = report .text [⟨q, .c, []⟩] ∧
        [named ⟨p, .c, []⟩] ≠ [named ⟨q, .c, []⟩] := by
  refine ⟨by decide, ?_⟩
  have hreport : ∀ p ∈ displayedAlike, report .text [⟨p, .c, []⟩] =
      ['a', FilePath.replacement] ++ ".c (C)\n".toList := by decide
  have hdistinct : displayedAlike.Pairwise (· ≠ ·) := by decide
  refine hdistinct.imp_of_mem fun hp hq hne => ⟨(hreport _ hp).trans (hreport _ hq).symm, ?_⟩
  simpa [named] using hne

end FileTokens

end LexicalGrammar
