import LexicalGrammar.Comment
import LexicalGrammar.Identifier
import LexicalGrammar.Operator
import LexicalGrammar.Proofs.Cut.Basic
import LexicalGrammar.Quotation.Grammar

namespace LexicalGrammar

namespace QuotedBody

theorem ending?_eq_some {body : QuotedBody} {text : Text} {l : Lexeme}
    (h : body.ending? text = some l) :
    (∃ left, after? body.close text = some left ∧ l = ⟨body.close, true, left⟩) ∨
      (text.head?.any body.stopsAt = true ∧ after? body.close text = none ∧ l = ⟨[], false, text⟩) := by
  simp only [ending?] at h
  split at h
  · next left hl => exact Or.inl ⟨left, hl, (Option.some.inj h).symm⟩
  · next hn =>
    split at h
    · next hs => exact Or.inr ⟨hs, hn, (Option.some.inj h).symm⟩
    · simp at h

theorem ending?_of_after? {body : QuotedBody} {text left : Text}
    (h : after? body.close text = some left) : body.ending? text = some ⟨body.close, true, left⟩ := by
  simp [ending?, h]

theorem ending?_of_stopsAt {body : QuotedBody} {text : Text} (hn : after? body.close text = none)
    (hs : text.head?.any body.stopsAt = true) : body.ending? text = some ⟨[], false, text⟩ := by
  simp [ending?, hn, hs]

theorem ending?_eq_none_of_append {body : QuotedBody} {c : Char} {front back : Text}
    (h : body.ending? (c :: front ++ back) = none) : body.ending? (c :: front) = none := by
  cases he : body.ending? (c :: front) with
  | none => rfl
  | some l =>
      rcases ending?_eq_some he with ⟨left, hl, _⟩ | ⟨hs, hn, _⟩
      · rw [ending?_of_after? (after?_append_of_some hl back)] at h
        simp at h
      · cases ha : after? body.close (c :: front ++ back) with
        | some left => rw [ending?_of_after? ha] at h; simp at h
        | none =>
            have hs' : (c :: front ++ back).head?.any body.stopsAt = true := by simpa using hs
            rw [ending?_of_stopsAt ha hs'] at h
            simp at h

theorem scan_cons_of_ending? {body : QuotedBody} {c : Char} {rest : Text} {l : Lexeme}
    (hp : rest.head?.any (body.protects c) = false) (h : body.ending? (c :: rest) = some l) :
    body.scan (c :: rest) = l := by
  rw [scan_cons hp, h, Option.getD_some]

theorem scan_cons_of_ending?_eq_none {body : QuotedBody} {c : Char} {rest : Text}
    (hp : rest.head?.any (body.protects c) = false) (h : body.ending? (c :: rest) = none) :
    body.scan (c :: rest) = (body.scan rest).following [c] := by
  rw [scan_cons hp, h, Option.getD_none]

theorem scan_of_after? {body : QuotedBody} {c : Char} {rest left : Text}
    (hp : rest.head?.any (body.protects c) = false) (h : after? body.close (c :: rest) = some left) :
    body.scan (c :: rest) = ⟨body.close, true, left⟩ :=
  scan_cons_of_ending? hp (ending?_of_after? h)

theorem scan_keeps {body : QuotedBody} (hc : body.close ≠ []) (text : Text) :
    ∀ {front back : Text}, (body.scan text).rest = front ++ back →
      body.scan ((body.scan text).text ++ front) = { body.scan text with rest := front } := by
  induction text using body.scan_induction with
  | nil =>
      intro front back hr
      rw [scan_nil hc] at hr ⊢
      obtain rfl := (List.append_eq_nil_iff.mp hr.symm).1
      exact scan_nil hc
  | pair c d rest hp ih =>
      intro front back hr
      rw [scan_of_protects hp] at hr ⊢
      simp only [Lexeme.text_following, List.cons_append, List.nil_append, scan_of_protects hp, ih hr]
      rfl
  | cons c rest hp ih =>
      intro front back hr
      cases he : body.ending? (c :: rest) with
      | none =>
          rw [scan_cons_of_ending?_eq_none hp he] at hr ⊢
          have hcut := Lexeme.eq_cut (body.whole_scan rest) hr
          rw [hcut] at hp he
          have hkeep := scan_cons_of_ending?_eq_none (head?_any_of_append hp)
            (ending?_eq_none_of_append he)
          simp only [Lexeme.text_following, List.cons_append, List.nil_append, hkeep, ih hr]
          rfl
      | some l =>
          rw [scan_cons_of_ending? hp he] at hr ⊢
          rcases ending?_eq_some he with ⟨left, hl, rfl⟩ | ⟨hs, hn, rfl⟩
          · obtain ⟨o, close, ho⟩ := List.exists_cons_of_ne_nil hc
            have hcut := after?_eq_some_iff.mp hl
            rw [ho, show left = front ++ back from hr, List.cons_append, ← List.append_assoc] at hcut
            obtain ⟨rfl, rfl⟩ := List.cons.inj hcut
            have hclose : after? body.close (c :: (close ++ front)) = some front := by
              rw [ho, ← List.cons_append, after?_append]
            have hkeep := scan_of_after? (head?_any_of_append hp) hclose
            simpa only [ho, List.cons_append] using hkeep
          · -- Where the cut has taken the line break away, the body ends with the text instead.
            simp only [List.nil_append] at hr ⊢
            cases front with
            | nil => rw [scan_nil hc]
            | cons d front =>
                obtain ⟨rfl, rfl⟩ := List.cons.inj hr
                refine scan_cons_of_ending? (head?_any_of_append hp) ?_
                exact ending?_of_stopsAt (after?_eq_none_of_append hn) (by simpa using hs)

end QuotedBody

namespace StringGrammar

theorem opening?_append_of_some {alternatives : List Delimiter} {text front back : Text}
    {d : Delimiter} {rest : Text} (h : opening? alternatives text = some (d, rest))
    (hr : rest = front ++ back) :
    opening? alternatives (d.opening ++ front) = some (d, front) := by
  obtain ⟨_, rfl⟩ := mem_of_opening? h
  subst hr
  refine findSome?_keeps (fun (d : Delimiter) text => (after? d.opening text).map (d, ·)) ?_ ?_ h
  · intro e _ he
    obtain ⟨_, _, hp⟩ := Option.map_eq_some_iff.mp he
    obtain ⟨rfl, _⟩ := Prod.mk.injEq .. ▸ hp
    simp
  · intro e _ he
    rw [Option.map_eq_none_iff, ← List.append_assoc] at he
    rw [after?_eq_none_of_append he, Option.map_none]

theorem opening?_eq_none_of_append {alternatives : List Delimiter} {front back : Text}
    (h : opening? alternatives (front ++ back) = none) : opening? alternatives front = none := by
  simp only [opening?, List.findSome?_eq_none_iff, Option.map_eq_none_iff] at h ⊢
  exact fun d hm => after?_eq_none_of_append (h d hm)

def behindTag? (g : StringGrammar) (tag text : Text) : Option Commitment :=
  (after? tag text).bind fun left =>
    (opening? g.alternatives left).map fun (d, rest) => ⟨some tag, d, rest⟩

theorem tagged?_eq_findSome? (g : StringGrammar) (text : Text) :
    g.tagged? text = g.tags.findSome? (g.behindTag? · text) := rfl

theorem behindTag?_eq_some_iff {g : StringGrammar} {tag text : Text} {c : Commitment} :
    g.behindTag? tag text = some c ↔ c.tag = some tag ∧
      ∃ left, after? tag text = some left ∧
        opening? g.alternatives left = some (c.delimiter, c.rest) := by
  obtain ⟨t, d, rest⟩ := c
  simp only [behindTag?, Option.bind_eq_some_iff, Option.map_eq_some_iff, Prod.exists,
    Commitment.mk.injEq]
  constructor
  · rintro ⟨left, hl, d', rest', ho, rfl, rfl, rfl⟩
    exact ⟨rfl, left, hl, ho⟩
  · rintro ⟨rfl, left, hl, ho⟩
    exact ⟨left, hl, d, rest, ho, rfl, rfl, rfl⟩

theorem behindTag?_eq_none_of_append {g : StringGrammar} {tag front back : Text}
    (h : g.behindTag? tag (front ++ back) = none) : g.behindTag? tag front = none := by
  cases ha : after? tag front with
  | none => simp [behindTag?, ha]
  | some left =>
      simp only [behindTag?, after?_append_of_some ha back, Option.bind_some,
        Option.map_eq_none_iff] at h
      simp [behindTag?, ha, opening?_eq_none_of_append h]

theorem untagged?_eq_some_iff {g : StringGrammar} {text : Text} {c : Commitment} :
    g.untagged? text = some c ↔
      c.tag = none ∧ opening? g.alternatives text = some (c.delimiter, c.rest) := by
  obtain ⟨t, d, rest⟩ := c
  simp only [untagged?, Option.map_eq_some_iff, Prod.exists, Commitment.mk.injEq]
  constructor
  · rintro ⟨d', rest', ho, rfl, rfl, rfl⟩
    exact ⟨rfl, ho⟩
  · rintro ⟨rfl, ho⟩
    exact ⟨d, rest, ho, rfl, rfl, rfl⟩

theorem commitment?_eq_or (g : StringGrammar) (text : Text) :
    g.commitment? text = (g.tagged? text).or (g.untagged? text) := by
  simp [commitment?]

theorem commitment?_refuses {g : StringGrammar} {front : Text} (back : Text)
    (h : g.commitment? (front ++ back) = none) : g.commitment? front = none := by
  rw [commitment?_eq_or, Option.or_eq_none_iff, tagged?_eq_findSome?,
    List.findSome?_eq_none_iff] at h ⊢
  refine ⟨fun tag hm => behindTag?_eq_none_of_append (h.1 tag hm), ?_⟩
  simp only [untagged?, Option.map_eq_none_iff] at h ⊢
  exact opening?_eq_none_of_append h.2

theorem commitment?_keeps {g : StringGrammar} {text front back : Text} {c : Commitment}
    (h : g.commitment? text = some c) (hr : c.rest = front ++ back) :
    g.commitment? (c.opening ++ front) = some { c with rest := front } := by
  have htext := (of_commitment? h).2.2
  rw [hr, ← List.append_assoc] at htext
  rw [commitment?_eq_or, Option.or_eq_some_iff] at h ⊢
  have hrefuse (tag : Text) (hn : g.behindTag? tag text = none) :
      g.behindTag? tag (c.opening ++ front) = none := by
    rw [htext] at hn
    exact behindTag?_eq_none_of_append hn
  rcases h with h | ⟨hn, h⟩
  · refine Or.inl (findSome?_keeps g.behindTag? ?_ (fun tag _ => hrefuse tag) h)
    intro tag _ ht
    obtain ⟨htag, left, hl, ho⟩ := behindTag?_eq_some_iff.mp ht
    refine behindTag?_eq_some_iff.mpr ⟨htag, c.delimiter.opening ++ front, ?_,
      opening?_append_of_some ho hr⟩
    rw [Commitment.opening, htag, Option.getD_some, List.append_assoc, after?_append]
  · refine Or.inr ⟨?_, ?_⟩
    · rw [tagged?_eq_findSome?, List.findSome?_eq_none_iff] at hn ⊢
      exact fun tag hm => hrefuse tag (hn tag hm)
    · obtain ⟨htag, ho⟩ := untagged?_eq_some_iff.mp h
      refine untagged?_eq_some_iff.mpr ⟨htag, ?_⟩
      rw [Commitment.opening, htag, Option.getD_none, List.nil_append]
      exact opening?_append_of_some ho hr

theorem cutStable_scan {g : StringGrammar} (hc : ∀ d ∈ g.alternatives, d.close ≠ []) :
    CutStable g.scan where
  keeps := by
    intro text front back l hl hr
    obtain ⟨c, hcommit, rfl⟩ := Option.map_eq_some_iff.mp hl
    have hclose := hc _ (of_commitment? hcommit).2.1
    have hbody := QuotedBody.scan_keeps hclose c.rest hr
    have hcut := Lexeme.eq_cut (c.delimiter.body.whole_scan c.rest) hr
    have hkeep := commitment?_keeps hcommit hcut
    simp only [Commitment.read, Lexeme.text_following, List.append_assoc, scan, hkeep,
      Option.map_some, hbody]
    rfl
  refuses := by
    intro front back hn
    simp only [scan, Option.map_eq_none_iff] at hn ⊢
    exact commitment?_refuses back hn

end StringGrammar

namespace BlockComment

theorem scanBody_keeps {block : BlockComment} (ho : block.opening ≠ []) (hc : block.close ≠ [])
    (depth : Nat) (text : Text) :
    ∀ {front back : Text}, (block.scanBody depth 0 text).rest = front ++ back →
      block.scanBody depth 0 ((block.scanBody depth 0 text).text ++ front) =
        { block.scanBody depth 0 text with rest := front } := by
  induction depth, text using block.scanBody_induction ho hc with
  | nil depth =>
      intro front back hr
      simp only [scanBody] at hr ⊢
      obtain rfl := (List.append_eq_nil_iff.mp hr.symm).1
      rfl
  | close text left hl =>
      intro front back hr
      rw [scanBody_of_close hc hl] at hr ⊢
      exact scanBody_of_close hc (after?_append block.close front)
  | innerClose depth text left hl ih =>
      intro front back hr
      rw [scanBody_of_inner_close hc hl] at hr ⊢
      rw [Lexeme.text_following, List.append_assoc,
        scanBody_of_inner_close hc (after?_append block.close _), ih hr]
      rfl
  | innerOpen depth text left hn hnested hl ih =>
      intro front back hr
      rw [scanBody_of_open ho hn hnested hl] at hr ⊢
      have hcut := Lexeme.eq_cut (block.whole_scanBody _ 0 left) hr
      rw [after?_eq_some_iff.mp hl, hcut, ← List.append_assoc] at hn
      rw [Lexeme.text_following, List.append_assoc,
        scanBody_of_open ho (after?_eq_none_of_append hn) hnested (after?_append block.opening _), ih hr]
      rfl
  | other depth c rest hn hopen ih =>
      intro front back hr
      rw [scanBody_of_other hn hopen] at hr ⊢
      have hcut := Lexeme.eq_cut (block.whole_scanBody depth 0 rest) hr
      rw [hcut, ← List.cons_append] at hn hopen
      have hother : block.scanBody depth 0 (c :: ((block.scanBody depth 0 rest).text ++ front)) = _ :=
        scanBody_of_other (after?_eq_none_of_append hn)
          (fun h => after?_eq_none_of_append (hopen h))
      simp only [Lexeme.text_following, List.cons_append, List.nil_append, hother, ih hr]
      rfl

theorem cutStable_scan {block : BlockComment} (ho : block.opening ≠ []) (hc : block.close ≠ []) :
    CutStable block.scan where
  keeps := by
    intro text front back l hl hr
    obtain ⟨rest, hrest, rfl⟩ := Option.map_eq_some_iff.mp hl
    have hkeep := scanBody_keeps ho hc 0 rest hr
    simp only [Lexeme.text_following, List.append_assoc, scan, after?_append, Option.map_some, hkeep]
    rfl
  refuses := by
    intro front back hn
    simp only [scan, Option.map_eq_none_iff] at hn ⊢
    exact after?_eq_none_of_append hn

end BlockComment

theorem cutStable_none : CutStable fun _ => none := ⟨by simp, by simp⟩

theorem CutStable.or {first second : Scanner} (hf : CutStable first) (hs : CutStable second)
    (hw : Faithful second) : CutStable fun text => (first text).or (second text) where
  keeps := by
    intro text front back l hl hr
    rcases Option.or_eq_some_iff.mp hl with h | ⟨hn, h⟩
    · exact Option.or_eq_some_iff.mpr (Or.inl (hf.keeps h hr))
    · refine Option.or_eq_some_iff.mpr (Or.inr ⟨hf.refuses back ?_, hs.keeps h hr⟩)
      rwa [← Lexeme.eq_cut (hw text l h) hr]
  refuses := by
    intro front back hn
    rw [Option.or_eq_none_iff] at hn ⊢
    exact ⟨hf.refuses back hn.1, hs.refuses back hn.2⟩

namespace CommentGrammar

theorem cutStable_scanLine (g : CommentGrammar) : CutStable g.scanLine := by
  unfold scanLine
  cases g.line with
  | none => exact cutStable_none
  | some opening =>
      refine ⟨?_, ?_⟩
      · intro text front back l hl hr
        obtain ⟨rest, hrest, rfl⟩ := Option.map_eq_some_iff.mp hl
        have hkeep := runStable_readWhile (!isLineBreak ·)
          (show (readWhile (!isLineBreak ·) rest).rest = front ++ back from hr)
        simp only [Lexeme.text_following, List.append_assoc, Option.bind_some, after?_append,
          Option.map_some, Lexeme.ofSplit, hkeep]
        rfl
      · intro front back hn
        simp only [Option.bind_some, Option.map_eq_none_iff] at hn ⊢
        exact after?_eq_none_of_append hn

theorem cutStable_scanBlock {g : CommentGrammar}
    (h : ∀ block, g.block = some block → block.opening ≠ [] ∧ block.close ≠ []) :
    CutStable g.scanBlock := by
  unfold scanBlock
  cases hb : g.block with
  | none => exact cutStable_none
  | some block => exact block.cutStable_scan (h block hb).1 (h block hb).2

theorem cutStable_scan {g : CommentGrammar}
    (h : ∀ block, g.block = some block → block.opening ≠ [] ∧ block.close ≠ []) :
    CutStable g.scan := by
  have hline := g.cutStable_scanLine
  have hblock := cutStable_scanBlock h
  unfold scan
  simp only [Option.orElse_eq_orElse, Option.orElse_eq_or]
  cases g.blockFirst with
  | true => exact hblock.or hline fun _ _ => whole_of_scanLine
  | false => exact hline.or hblock fun _ _ => whole_of_scanBlock

end CommentGrammar

namespace IdentifierGrammar

theorem partStable_readWord (g : IdentifierGrammar) : PartStable g.readWord where
  keeps := by
    intro text front back s hs hr
    cases text with
    | nil => simp [readWord] at hs
    | cons c rest =>
        simp only [readWord] at hs
        split at hs
        · next hc =>
          obtain rfl := Option.some.inj hs
          have hkeep := runStable_readWhile g.body.contains
            (show (readWhile g.body.contains rest).rest = front ++ back from hr)
          simp only [Split.taken_following, List.cons_append, List.nil_append, readWord, hc, if_true,
            hkeep]
          rfl
        · simp at hs
  refuses := by
    intro front back hn
    cases front with
    | nil => rfl
    | cons c front => simpa [readWord] using hn

theorem scan_append {g : IdentifierGrammar} {c : Char} {word rest : Text}
    (hlead : g.lead = none) (hc : g.head.contains c = true) (hw : word.all g.body.contains = true)
    (hr : rest.head?.any g.body.contains = false) :
    g.scan (c :: (word ++ rest)) = some ⟨c :: word, true, rest⟩ := by
  have hnolead : g.readLead (c :: (word ++ rest)) = .untouched (c :: (word ++ rest)) := by
    simp [readLead, readOne, hlead]
  have hword : readWhile g.body.contains (word ++ rest) = ⟨word, rest⟩ := by
    simp [readWhile_append (List.all_eq_true.mp hw), readWhile_of_head? hr, Split.following]
  simp [scan, hnolead, Split.untouched, readWord, hc, hword, Split.following, Lexeme.ofSplit]

theorem cutStable_scan (g : IdentifierGrammar) : CutStable g.scan where
  keeps := by
    intro text front back l hl hr
    obtain ⟨word, hword, rfl⟩ := Option.map_eq_some_iff.mp hl
    have hkeep := g.partStable_readWord.keeps hword (show word.rest = front ++ back from hr)
    have hlead := runStable_readOne (g.lead == some ·) (Split.eq_cut (whole_of_readWord hword) hr)
    change g.readLead ((g.readLead text).taken ++ (word.taken ++ front)) = _ at hlead
    simp only [Lexeme.ofSplit, Split.taken_following, List.append_assoc, scan, hlead, hkeep,
      Option.map_some]
    rfl
  refuses := by
    intro front back hn
    simp only [scan, Option.map_eq_none_iff] at hn ⊢
    cases front with
    | nil => rfl
    | cons c front =>
        rw [readLead, readOne_cons_append] at hn
        exact g.partStable_readWord.refuses back hn

theorem accepts_of_scan {g : IdentifierGrammar} {text : Text} {l : Lexeme}
    (h : g.scan text = some l) : accepts g.scan l.text = true := by
  have hk : g.scan (l.text ++ []) = some { l with rest := [] } :=
    g.cutStable_scan.keeps h (List.nil_append l.rest).symm
  rw [List.append_nil] at hk
  obtain ⟨word, _, rfl⟩ := Option.map_eq_some_iff.mp h
  exact accepts_iff.mpr ⟨_, hk, rfl, rfl⟩

theorem accepts_singleton {g : IdentifierGrammar} {ch : Char} {rest : Text}
    (h : g.scan (ch :: rest) = none) : accepts g.scan [ch] = false := by
  have hn : g.scan [ch] = none := g.cutStable_scan.refuses rest h
  simp [accepts, hn]

end IdentifierGrammar

namespace OperatorGrammar

theorem cutStable_scan (g : OperatorGrammar) : CutStable g.scan where
  keeps := by
    intro text front back l hl hr
    simp only [scan] at hl
    split at hl
    · simp at hl
    · next hne =>
      obtain rfl := Option.some.inj hl
      have hkeep := runStable_readWhile g.symbols.contains
        (show (readWhile g.symbols.contains text).rest = front ++ back from hr)
      simp only [Lexeme.ofSplit, scan, hkeep, if_neg hne]
  refuses := by
    intro front back hn
    rw [scan_eq_none_iff] at hn ⊢
    exact head?_any_of_append hn

end OperatorGrammar

theorem mem_cutsWithin_append {bound : Nat} {front : Text} {s : Split}
    (h : s ∈ cutsWithin bound front) (back : Text) :
    ⟨s.taken, s.rest ++ back⟩ ∈ cutsWithin bound (front ++ back) := by
  obtain ⟨hn, hw, hb⟩ := mem_cutsWithin_iff.mp h
  exact mem_cutsWithin_iff.mpr ⟨hn, by rw [← hw]; simp [Split.whole], hb⟩

theorem partStable_longestSpelling? (isSpelling : Text → Bool) (bound : Nat) :
    PartStable (longestSpelling? isSpelling bound) where
  keeps := by
    intro text front back s hs hr
    obtain ⟨hm, hspelled, hmax⟩ := longestSpelling?_eq_some_iff.mp hs
    obtain ⟨hn, hw, hb⟩ := mem_cutsWithin_iff.mp hm
    have hcut := Split.eq_cut hw hr
    refine longestSpelling?_eq_some_iff.mpr ⟨mem_cutsWithin_iff.mpr ⟨hn, rfl, hb⟩, hspelled, ?_⟩
    intro t ht htspelled
    have htext := mem_cutsWithin_append ht back
    rw [← hcut] at htext
    exact hmax ⟨t.taken, t.rest ++ back⟩ htext htspelled
  refuses := by
    intro front back hn
    rw [longestSpelling?_eq_none_iff] at hn ⊢
    exact fun s hs => hn ⟨s.taken, s.rest ++ back⟩ (mem_cutsWithin_append hs back)

end LexicalGrammar
