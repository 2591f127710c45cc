import LexicalGrammar.Proofs.Line.Spelled

namespace LexicalGrammar

structure LineStable (scan : Scanner) : Prop where
  keeps : ∀ {text : Text} {l : Lexeme} (back : Text), text ≠ [] → scan text = some l →
    l.closed = true → scan (text ++ '\n' :: back) = some { l with rest := l.rest ++ '\n' :: back }
  refuses : ∀ {text : Text} (back : Text), text ≠ [] → scan text = none →
    scan (text ++ '\n' :: back) = none

theorem exists_append_of_newline_not_mem {taken left text back : Text}
    (h : taken ++ left = text ++ '\n' :: back) (hn : '\n' ∉ taken) :
    ∃ rest, text = taken ++ rest ∧ left = rest ++ '\n' :: back := by
  rcases List.append_eq_append_iff.mp h with ⟨rest, hrest, hleft⟩ | ⟨mid, rfl, hmid⟩
  · exact ⟨rest, hrest, hleft⟩
  · cases mid with
    | nil => exact ⟨[], by simp, by simpa using hmid.symm⟩
    | cons c mid =>
        obtain ⟨rfl, _⟩ := List.cons.inj hmid
        simp at hn

theorem LineStable.of_newline_not_mem {scan : Scanner} (hf : Faithful scan) (hcut : CutStable scan)
    (hn : ∀ text l, scan text = some l → '\n' ∉ l.text) : LineStable scan := by
  have before {text back : Text} {l : Lexeme} (h : scan (text ++ '\n' :: back) = some l) :
      ∃ rest, l.rest = rest ++ '\n' :: back ∧ scan text = some { l with rest := rest } := by
    obtain ⟨rest, rfl, hrest⟩ := exists_append_of_newline_not_mem (hf _ l h) (hn _ l h)
    exact ⟨rest, hrest, hcut.keeps h hrest⟩
  refine ⟨?_, ?_⟩
  · intro text l back _ hl _
    cases hs : scan (text ++ '\n' :: back) with
    | none =>
        rw [hcut.refuses _ hs] at hl
        simp at hl
    | some m =>
        obtain ⟨rest, hrest, hm⟩ := before hs
        obtain rfl := Option.some.inj (hm.symm.trans hl)
        simp only [← hrest]
  · intro text back _ hl
    cases hs : scan (text ++ '\n' :: back) with
    | none => rfl
    | some m =>
        obtain ⟨rest, _, hm⟩ := before hs
        rw [hm] at hl
        simp at hl

theorem lineStable_none : LineStable fun _ => none := ⟨by simp, by simp⟩

theorem LineStable.or {first second : Scanner} (hf : LineStable first) (hs : LineStable second) :
    LineStable fun text => (first text).or (second text) where
  keeps := by
    intro text l back hne hl hclosed
    rcases Option.or_eq_some_iff.mp hl with h | ⟨hn, h⟩
    · exact Option.or_eq_some_iff.mpr (Or.inl (hf.keeps back hne h hclosed))
    · exact Option.or_eq_some_iff.mpr
        (Or.inr ⟨hf.refuses back hne hn, hs.keeps back hne h hclosed⟩)
  refuses := by
    intro text back hne hn
    rw [Option.or_eq_none_iff] at hn ⊢
    exact ⟨hf.refuses back hne hn.1, hs.refuses back hne hn.2⟩

theorem after?_append_newline {opening : Text} (h : '\n' ∉ opening) (text back : Text) :
    after? opening (text ++ '\n' :: back) = (after? opening text).map (· ++ '\n' :: back) := by
  induction opening generalizing text with
  | nil => simp
  | cons o opening ih =>
      simp only [List.mem_cons, not_or] at h
      cases text with
      | nil => simp [after?, Ne.symm h.1]
      | cons c text =>
          simp only [List.cons_append, after?]
          split
          · exact ih h.2 text
          · rfl

theorem findSome?_eq_map {α β : Type} {f g : α → Option β} {k : β → β} {items : List α}
    (h : ∀ item ∈ items, g item = (f item).map k) :
    items.findSome? g = (items.findSome? f).map k := by
  induction items with
  | nil => rfl
  | cons item items ih =>
      rw [List.findSome?_cons, List.findSome?_cons, h item (by simp)]
      cases f item with
      | none => exact ih fun i hi => h i (List.mem_cons_of_mem _ hi)
      | some b => rfl

namespace QuotedBody

theorem protects_newline {body : QuotedBody} (h : '\n' ∉ body.spelled) (c : Char) :
    body.protects c '\n' = false := by
  simp only [spelled, List.mem_append, not_or] at h
  have hclose : body.close.head? ≠ some '\n' := fun he => h.1 (List.mem_of_head? he)
  cases he : body.escape with
  | none => simp [protects, he]
  | some escape =>
      have hne : '\n' ≠ escape.character := by simpa [he] using h.2
      simp [protects, he, hclose, Ne.symm hne]

theorem scan_append_newline {body : QuotedBody} (hc : body.close ≠ []) (h : '\n' ∉ body.spelled)
    (back text : Text) (hclosed : (body.scan text).closed = true) :
    body.scan (text ++ '\n' :: back) =
      { body.scan text with rest := (body.scan text).rest ++ '\n' :: back } := by
  have hclose : '\n' ∉ body.close := fun hm => h (List.mem_append_left _ hm)
  induction text using body.scan_induction with
  | nil => simp [scan_nil hc] at hclosed
  | pair c d rest hp ih =>
      rw [scan_of_protects hp] at hclosed ⊢
      have hpair : body.scan (c :: d :: (rest ++ '\n' :: back)) = _ := scan_of_protects hp
      simp only [List.cons_append, hpair, ih hclosed]
      rfl
  | cons c rest hp ih =>
      -- A last character that could escape the next one does not escape the line feed.
      have hp' : (rest ++ '\n' :: back).head?.any (body.protects c) = false := by
        cases rest with
        | nil => simpa using protects_newline h c
        | cons d rest => exact hp
      have hafter := after?_append_newline hclose (c :: rest) back
      cases ha : after? body.close (c :: rest) with
      | some left =>
          rw [ha] at hafter
          rw [scan_of_after? hp ha]
          exact scan_of_after? hp' hafter
      | none =>
          cases hs : body.stopsAt c with
          | true =>
              rw [scan_cons_of_ending? hp (ending?_of_stopsAt ha hs)] at hclosed
              simp at hclosed
          | false =>
              have he (rest : Text) (hn : after? body.close (c :: rest) = none) :
                  body.ending? (c :: rest) = none := by
                simp [ending?, hn, hs]
              rw [scan_cons_of_ending?_eq_none hp (he rest ha)] at hclosed ⊢
              rw [ha] at hafter
              rw [List.cons_append, scan_cons_of_ending?_eq_none hp' (he _ hafter), ih hclosed]
              rfl

end QuotedBody

namespace StringGrammar

variable {g : StringGrammar}

theorem opening?_append_newline {alternatives : List Delimiter}
    (h : ∀ d ∈ alternatives, '\n' ∉ d.opening) (text back : Text) :
    opening? alternatives (text ++ '\n' :: back) =
      (opening? alternatives text).map fun (d, rest) => (d, rest ++ '\n' :: back) := by
  refine findSome?_eq_map fun d hd => ?_
  rw [after?_append_newline (h d hd), Option.map_map, Option.map_map]
  rfl

theorem behindTag?_append_newline (ho : ∀ d ∈ g.alternatives, '\n' ∉ d.opening) {tag : Text}
    (ht : '\n' ∉ tag) (text back : Text) :
    g.behindTag? tag (text ++ '\n' :: back) =
      (g.behindTag? tag text).map fun c => { c with rest := c.rest ++ '\n' :: back } := by
  simp only [behindTag?, after?_append_newline ht]
  cases after? tag text with
  | none => rfl
  | some left =>
      simp only [Option.map_some, Option.bind_some, opening?_append_newline ho, Option.map_map]
      rfl

theorem tagged?_append_newline (ho : ∀ d ∈ g.alternatives, '\n' ∉ d.opening)
    (ht : ∀ tag ∈ g.tags, '\n' ∉ tag) (text back : Text) :
    g.tagged? (text ++ '\n' :: back) =
      (g.tagged? text).map fun c => { c with rest := c.rest ++ '\n' :: back } := by
  simp only [tagged?_eq_findSome?]
  exact findSome?_eq_map fun tag hm => behindTag?_append_newline ho (ht tag hm) text back

theorem commitment?_append_newline (ho : ∀ d ∈ g.alternatives, '\n' ∉ d.opening)
    (ht : ∀ tag ∈ g.tags, '\n' ∉ tag) (text back : Text) :
    g.commitment? (text ++ '\n' :: back) =
      (g.commitment? text).map fun c => { c with rest := c.rest ++ '\n' :: back } := by
  have huntagged : g.untagged? (text ++ '\n' :: back) =
      (g.untagged? text).map fun c => { c with rest := c.rest ++ '\n' :: back } := by
    simp only [untagged?, opening?_append_newline ho, Option.map_map]
    rfl
  rw [commitment?_eq_or, commitment?_eq_or, tagged?_append_newline ho ht, huntagged, Option.map_or]

theorem lineStable_scan (hc : ∀ d ∈ g.alternatives, d.close ≠ []) (h : '\n' ∉ g.spelled) :
    LineStable g.scan := by
  simp only [spelled, List.mem_append, not_or, List.mem_flatten, List.mem_flatMap, not_exists,
    not_and] at h
  obtain ⟨htags, halternatives⟩ := h
  have hcommit := commitment?_append_newline (fun d hd => (halternatives d hd).1)
    fun tag ht hm => htags tag ht hm
  refine ⟨?_, ?_⟩
  · intro text l back _ hl hclosed
    obtain ⟨c, hs, rfl⟩ := Option.map_eq_some_iff.mp hl
    have hd := (of_commitment? hs).2.1
    have hbody := QuotedBody.scan_append_newline (hc _ hd) (halternatives _ hd).2 back c.rest hclosed
    rw [scan, hcommit, hs, Option.map_some, Option.map_some, Commitment.read, hbody]
    rfl
  · intro text back _ hn
    rw [scan, Option.map_eq_none_iff] at hn
    rw [scan, hcommit, hn]
    rfl

end StringGrammar

namespace BlockComment

theorem scanBody_append_newline {block : BlockComment} (ho : block.opening ≠ [])
    (hc : block.close ≠ []) (h : '\n' ∉ block.spelled) (back : Text) (depth : Nat) (text : Text)
    (hclosed : (block.scanBody depth 0 text).closed = true) :
    block.scanBody depth 0 (text ++ '\n' :: back) =
      { block.scanBody depth 0 text with
        rest := (block.scanBody depth 0 text).rest ++ '\n' :: back } := by
  simp only [spelled, List.mem_append, not_or] at h
  have hclose (text : Text) := after?_append_newline h.2 text back
  have hopen (text : Text) := after?_append_newline h.1 text back
  induction depth, text using block.scanBody_induction ho hc with
  | nil depth => simp [scanBody] at hclosed
  | close text left hl =>
      have hl' := hclose text
      rw [hl] at hl'
      rw [scanBody_of_close hc hl, scanBody_of_close hc hl']
  | innerClose depth text left hl ih =>
      have hl' := hclose text
      rw [hl] at hl'
      rw [scanBody_of_inner_close hc hl] at hclosed ⊢
      rw [scanBody_of_inner_close hc hl', ih hclosed]
      rfl
  | innerOpen depth text left hn hnested hl ih =>
      have hn' := hclose text
      have hl' := hopen text
      rw [hn] at hn'
      rw [hl] at hl'
      rw [scanBody_of_open ho hn hnested hl] at hclosed ⊢
      rw [scanBody_of_open ho hn' hnested hl', ih hclosed]
      rfl
  | other depth c rest hn hno ih =>
      have hn' := hclose (c :: rest)
      have hno' := hopen (c :: rest)
      rw [hn] at hn'
      rw [scanBody_of_other hn hno] at hclosed ⊢
      have hother : block.scanBody depth 0 (c :: (rest ++ '\n' :: back)) = _ :=
        scanBody_of_other hn' fun hnested => hno'.trans (by rw [hno hnested]; rfl)
      rw [List.cons_append, hother, ih hclosed]
      rfl

theorem lineStable_scan {block : BlockComment} (ho : block.opening ≠ []) (hc : block.close ≠ [])
    (h : '\n' ∉ block.spelled) : LineStable block.scan := by
  have hopen (text back : Text) :=
    after?_append_newline (fun hm => h (List.mem_append_left _ hm)) text back
  refine ⟨?_, ?_⟩
  · intro text l back _ hl hclosed
    obtain ⟨rest, hr, rfl⟩ := Option.map_eq_some_iff.mp hl
    have hbody := scanBody_append_newline ho hc h back 0 rest hclosed
    rw [scan, hopen, hr, Option.map_some, Option.map_some, hbody]
    rfl
  · intro text back _ hn
    rw [scan, Option.map_eq_none_iff] at hn
    rw [scan, hopen, hn]
    rfl

end BlockComment

namespace CommentGrammar

theorem lineStable_scan {g : CommentGrammar}
    (hb : ∀ block, g.block = some block → block.opening ≠ [] ∧ block.close ≠ [])
    (h : '\n' ∉ g.spelled) : LineStable g.scan := by
  simp only [spelled, List.mem_append, not_or] at h
  have hline : LineStable g.scanLine :=
    .of_newline_not_mem (fun _ _ => whole_of_scanLine) g.cutStable_scanLine
      fun _ _ => newline_not_mem_of_scanLine h.1
  have hblock : LineStable g.scanBlock := by
    unfold scanBlock
    cases hg : g.block with
    | none => exact lineStable_none
    | some block =>
        refine BlockComment.lineStable_scan (hb block hg).1 (hb block hg).2 ?_
        simpa [hg] using h.2
  unfold scan
  simp only [Option.orElse_eq_orElse, Option.orElse_eq_or]
  cases g.blockFirst with
  | true => exact hblock.or hline
  | false => exact hline.or hblock

end CommentGrammar

namespace Category

theorem lineStable_single (p : Char → Bool) : LineStable (single p) where
  keeps := by
    intro text l back hne hl _
    cases text with
    | nil => exact absurd rfl hne
    | cons c rest =>
        simp only [single] at hl
        split at hl
        · next hc =>
          obtain rfl := Option.some.inj hl
          simp [single, hc]
        · simp at hl
  refuses := by
    intro text back hne hn
    cases text with
    | nil => exact absurd rfl hne
    | cons c rest => simpa [single] using hn

theorem lineStable_scan {c : Configuration} (hc : c.Proper) (h : '\n' ∉ c.spelled)
    (category : Category) : LineStable (category.scan c) := by
  have hcut := cutStable_scan hc category
  have hfaithful := category.faithful_scan c
  simp only [Configuration.spelled, List.mem_append, not_or] at h
  obtain ⟨⟨⟨⟨⟨⟨hcomments, hcharacters⟩, hstrings⟩, hnumbers⟩, hidentifiers⟩, hsymbols⟩, hreserved⟩ := h
  cases category with
  | comment => exact CommentGrammar.lineStable_scan hc.block hcomments
  | character =>
      cases hg : c.characters with
      | none => simpa [scan, hg] using lineStable_none
      | some g =>
          rw [hg] at hcharacters
          have hstable := StringGrammar.lineStable_scan
            (fun d hd => (hc.characters g hg d hd).2) hcharacters
          simpa [scan, hg] using hstable
  | string => exact StringGrammar.lineStable_scan (fun d hd => (hc.strings d hd).2) hstrings
  | number =>
      exact .of_newline_not_mem hfaithful hcut fun _ _ => NumberGrammar.newline_not_mem_of_scan hnumbers
  | word =>
      refine .of_newline_not_mem hfaithful hcut fun _ _ => ?_
      refine IdentifierGrammar.newline_not_mem_of_scan ?_
      cases hg : c.identifiers with
      | none => simp [Surface.keywordGrammar, hg, IdentifierGrammar.spelled, IdentifierGrammar.ascii,
          CharSet.ofLetters, CharSet.alphanumeric]
      | some g => simpa [Surface.keywordGrammar, hg] using hidentifiers
  | operator =>
      refine .of_newline_not_mem hfaithful hcut fun text l hl => ?_
      cases hg : c.operators with
      | none =>
          simp only [scan, Configuration.scanOperator, hg] at hl
          exact Configuration.newline_not_mem_of_scanReservedOperator hreserved hl
      | some g =>
          simp only [scan, Configuration.scanOperator, hg] at hl
          exact OperatorGrammar.newline_not_mem_of_scan (by simpa [hg] using hsymbols) hl
  | bracket => exact lineStable_single _
  | plain => exact lineStable_single _

end Category

theorem Configuration.classify_append_newline {c : Configuration} (hc : c.Proper)
    (h : '\n' ∉ c.spelled) {text : Text} {r : Reading} (hr : c.classify text = some r)
    (hclosed : r.lexeme.closed = true) (back : Text) :
    c.classify (text ++ '\n' :: back) =
      some { r with lexeme := { r.lexeme with rest := r.lexeme.rest ++ '\n' :: back } } := by
  have hne := ne_nil_of_classify hr
  refine findSome?_keeps (fun (category : Category) text => category.read c text) ?_ ?_ hr
  · intro category _ hread
    obtain ⟨hscan, hn, hk⟩ := Category.read_eq_some_iff.mp hread
    have hkeep := (Category.lineStable_scan hc h category).keeps back hne hscan hclosed
    exact Category.read_eq_some_iff.mpr ⟨hkeep, hn, hk⟩
  · intro category _ hnone
    rw [Category.read_eq_map hc, Option.map_eq_none_iff] at hnone ⊢
    exact (Category.lineStable_scan hc h category).refuses back hne hnone

end LexicalGrammar
