import LexicalGrammar.Proofs.Line.Spelled

namespace LexicalGrammar

namespace QuotedBody

variable {body : QuotedBody}

theorem scan_cases (hc : body.close ≠ []) {motive : Text → Lexeme → Prop}
    (atEnd : motive [] ⟨[], false, []⟩)
    (atClose : ∀ c rest left, rest.head?.any (body.protects c) = false →
      after? body.close (c :: rest) = some left → motive (c :: rest) ⟨body.close, true, left⟩)
    (atBreak : ∀ c rest, rest.head?.any (body.protects c) = false →
      after? body.close (c :: rest) = none → body.stopsAt c = true →
      motive (c :: rest) ⟨[], false, c :: rest⟩)
    (pair : ∀ c d rest, body.protects c d = true → motive rest (body.scan rest) →
      motive (c :: d :: rest) ((body.scan rest).following [c, d]))
    (single : ∀ c rest, rest.head?.any (body.protects c) = false →
      after? body.close (c :: rest) = none → body.stopsAt c = false → motive rest (body.scan rest) →
      motive (c :: rest) ((body.scan rest).following [c]))
    (text : Text) : motive text (body.scan text) := by
  induction text using body.scan_induction with
  | nil =>
      rw [scan_nil hc]
      exact atEnd
  | pair c d rest hp ih =>
      rw [scan_of_protects hp]
      exact pair c d rest hp ih
  | cons c rest hp ih =>
      cases ha : after? body.close (c :: rest) with
      | some left =>
          rw [scan_of_after? hp ha]
          exact atClose c rest left hp ha
      | none =>
          cases hs : body.stopsAt c with
          | true =>
              rw [scan_cons_of_ending? hp (ending?_of_stopsAt ha hs)]
              exact atBreak c rest hp ha hs
          | false =>
              rw [scan_cons_of_ending?_eq_none hp (by simp [ending?, ha, hs])]
              exact single c rest hp ha hs ih

theorem scan_cons_of_inner (hc : body.close ≠ []) {c : Char} {rest : Text}
    (hp : rest.head?.any (body.protects c) = false) (hclose : body.close.head? ≠ some c)
    (hs : body.stopsAt c = false) : body.scan (c :: rest) = (body.scan rest).following [c] := by
  have ha : after? body.close (c :: rest) = none := by
    obtain ⟨o, close, he⟩ := List.exists_cons_of_ne_nil hc
    have ho : o ≠ c := by simpa [he] using hclose
    rw [he]
    exact if_neg ho
  exact scan_cons_of_ending?_eq_none hp (by simp [ending?, ha, hs])

theorem scan_flatMap {α : Type} {text : α → Text}
    (h : ∀ u rest, body.scan (text u ++ rest) = (body.scan rest).following (text u))
    (units : List α) (rest : Text) :
    body.scan (units.flatMap text ++ rest) = (body.scan rest).following (units.flatMap text) := by
  induction units with
  | nil => rfl
  | cons u units ih =>
      rw [List.flatMap_cons, List.append_assoc, h, ih]
      simp [Lexeme.following]

theorem stopsAt_iff {c : Char} :
    body.stopsAt c = true ↔ body.multiline = false ∧ isLineBreak c = true := by
  simp [stopsAt]

theorem rest_of_not_closed (hc : body.close ≠ []) (text : Text)
    (h : (body.scan text).closed = false) :
    (body.scan text).rest = [] ∨
      body.multiline = false ∧ (body.scan text).rest.head?.any isLineBreak = true := by
  revert h
  refine scan_cases hc (motive := fun _ l => l.closed = false → l.rest = [] ∨
    body.multiline = false ∧ l.rest.head?.any isLineBreak = true)
    ?atEnd ?atClose ?atBreak ?pair ?single text
  case atEnd => exact fun _ => Or.inl rfl
  case atClose => simp
  case atBreak => exact fun c rest _ _ hs _ => Or.inr (stopsAt_iff.mp hs)
  case pair => exact fun _ _ _ _ ih => ih
  case single => exact fun _ _ _ _ _ ih => ih

theorem exists_of_closed (hc : body.close ≠ []) (text : Text)
    (h : (body.scan text).closed = true) :
    ∃ inner, (body.scan text).text = inner ++ body.close := by
  revert h
  refine scan_cases hc
    (motive := fun _ l => l.closed = true → ∃ inner, l.text = inner ++ body.close)
    ?atEnd ?atClose ?atBreak ?pair ?single text
  case atEnd => simp
  case atClose => exact fun _ _ _ _ _ _ => ⟨[], rfl⟩
  case atBreak => simp
  case pair =>
    intro c d rest _ ih h
    obtain ⟨inner, hinner⟩ := ih h
    exact ⟨c :: d :: inner, by simp [hinner]⟩
  case single =>
    intro c rest _ _ _ ih h
    obtain ⟨inner, hinner⟩ := ih h
    exact ⟨c :: inner, by simp [hinner]⟩

theorem mem_spelled_of_protects {c d : Char} (h : body.protects c d = true) :
    c ∈ body.spelled ∧ d ∈ body.spelled := by
  obtain ⟨escape, he, h⟩ := (Option.any_eq_true ..).mp h
  simp only [Bool.and_eq_true, Bool.or_eq_true, beq_iff_eq] at h
  obtain ⟨rfl, hd⟩ := h
  have hescape : escape.character ∈ body.spelled := by simp [spelled, he]
  refine ⟨hescape, ?_⟩
  rcases hd with hd | ⟨_, rfl⟩
  · exact List.mem_append_left _ (List.mem_of_mem_head? hd)
  · exact hescape

theorem unbroken_scan (hc : body.close ≠ []) (hm : body.multiline = false)
    (h : ∀ c ∈ body.spelled, isLineBreak c = false) (text : Text) :
    ∀ c ∈ (body.scan text).text, isLineBreak c = false := by
  refine scan_cases hc (motive := fun _ l => ∀ c ∈ l.text, isLineBreak c = false)
    ?atEnd ?atClose ?atBreak ?pair ?single text
  case atEnd => simp
  case atClose => exact fun _ _ _ _ _ c hm => h c (List.mem_append_left _ hm)
  case atBreak => simp
  case pair =>
    intro c d rest hp ih
    obtain ⟨hc, hd⟩ := mem_spelled_of_protects hp
    simpa using ⟨h c hc, h d hd, ih⟩
  case single =>
    intro c rest _ _ hs ih
    have hbreak : isLineBreak c = false := by simpa [stopsAt, hm] using hs
    simpa using ⟨hbreak, ih⟩

end QuotedBody

end LexicalGrammar
