import LexicalGrammar.Grammar.Defect
import LexicalGrammar.Grammar.Order
import LexicalGrammar.Quotation.Body

namespace LexicalGrammar

structure Delimiter where
  opening : Text
  body : QuotedBody
deriving DecidableEq, Repr

namespace Delimiter

def quote (q : Text) : Delimiter := ⟨q, { close := q, escape := some .backslash }⟩

def block (q : Text) : Delimiter :=
  ⟨q, { close := q, escape := some .backslash, multiline := true }⟩

def close (d : Delimiter) : Text := d.body.close

end Delimiter

structure StringGrammar where
  tags : List Text := []
  alternatives : List Delimiter := []
deriving DecidableEq, Repr

structure Commitment where
  tag : Option Text
  delimiter : Delimiter
  rest : Text
deriving DecidableEq, Repr

namespace Commitment

def opening (c : Commitment) : Text := c.tag.getD [] ++ c.delimiter.opening

def read (c : Commitment) : Lexeme := (c.delimiter.body.scan c.rest).following c.opening

end Commitment

namespace StringGrammar

def plainQuotes : StringGrammar := { alternatives := [.quote ['"'], .quote ['\'']] }

def opening? (alternatives : List Delimiter) (text : Text) : Option (Delimiter × Text) :=
  alternatives.findSome? fun d => (after? d.opening text).map (d, ·)

def tagged? (g : StringGrammar) (text : Text) : Option Commitment :=
  g.tags.findSome? fun tag =>
    (after? tag text).bind fun left =>
      (opening? g.alternatives left).map fun (d, rest) => ⟨some tag, d, rest⟩

def untagged? (g : StringGrammar) (text : Text) : Option Commitment :=
  (opening? g.alternatives text).map fun (d, rest) => ⟨none, d, rest⟩

def commitment? (g : StringGrammar) (text : Text) : Option Commitment :=
  g.tagged? text <|> g.untagged? text

def scan (g : StringGrammar) (text : Text) : Option Lexeme :=
  (g.commitment? text).map Commitment.read

def emptyDelimiter? (d : Delimiter) : Option Defect :=
  if d.opening.isEmpty then some (.emptyPart .openingDelimiter)
  else if d.close.isEmpty then some (.emptyPart .closingDelimiter)
  else none

def hides (earlier later : Text) : Bool := earlier.isPrefixOf later

def defect? (g : StringGrammar) : Option Defect :=
  g.alternatives.findSome? emptyDelimiter?
    <|> (if g.tags.any List.isEmpty then some (.emptyPart .tag) else none)
    <|> (firstHidden? hides (g.alternatives.map Delimiter.opening)).map
      (fun (earlier, later) => .shadowedDelimiter earlier later)
    <|> (firstHidden? hides g.tags).map fun (earlier, later) => .shadowedTag earlier later

theorem mem_of_opening? {alternatives : List Delimiter} {text rest : Text} {d : Delimiter}
    (h : opening? alternatives text = some (d, rest)) :
    d ∈ alternatives ∧ text = d.opening ++ rest := by
  obtain ⟨e, hm, he⟩ := List.exists_of_findSome?_eq_some h
  obtain ⟨left, hl, hp⟩ := Option.map_eq_some_iff.mp he
  obtain ⟨rfl, rfl⟩ := Prod.mk.injEq .. ▸ hp
  exact ⟨hm, after?_eq_some_iff.mp hl⟩

theorem of_commitment? {g : StringGrammar} {text : Text} {c : Commitment}
    (h : g.commitment? text = some c) :
    (∀ tag, c.tag = some tag → tag ∈ g.tags) ∧ c.delimiter ∈ g.alternatives
      ∧ text = c.opening ++ c.rest := by
  simp only [commitment?, Option.orElse_eq_orElse, Option.orElse_eq_or, Option.or_eq_some_iff] at h
  rcases h with h | ⟨_, h⟩
  · obtain ⟨tag, hm, ht⟩ := List.exists_of_findSome?_eq_some h
    obtain ⟨left, hl, hp⟩ := Option.bind_eq_some_iff.mp ht
    obtain ⟨⟨d, rest⟩, ho, rfl⟩ := Option.map_eq_some_iff.mp hp
    obtain ⟨hd, rfl⟩ := mem_of_opening? ho
    refine ⟨?_, hd, ?_⟩
    · intro t he
      obtain rfl := Option.some.inj he
      exact hm
    · simpa [Commitment.opening] using after?_eq_some_iff.mp hl
  · obtain ⟨⟨d, rest⟩, ho, rfl⟩ := Option.map_eq_some_iff.mp h
    obtain ⟨hd, rfl⟩ := mem_of_opening? ho
    exact ⟨by simp, hd, by simp [Commitment.opening]⟩

@[simp] theorem whole_read (c : Commitment) : c.read.whole = c.opening ++ c.rest := by
  simp [Commitment.read]

theorem faithful (g : StringGrammar) : Faithful g.scan := by
  intro text l h
  obtain ⟨c, hc, rfl⟩ := Option.map_eq_some_iff.mp h
  rw [whole_read, ← (of_commitment? hc).2.2]

theorem emptyDelimiter?_eq_none_iff {d : Delimiter} :
    emptyDelimiter? d = none ↔ d.opening ≠ [] ∧ d.close ≠ [] := by
  simp only [emptyDelimiter?]
  cases d.opening <;> cases d.close <;> simp

theorem defect?_eq_none_iff {g : StringGrammar} :
    g.defect? = none ↔
      (∀ d ∈ g.alternatives, d.opening ≠ [] ∧ d.close ≠ []) ∧ (∀ tag ∈ g.tags, tag ≠ [])
        ∧ (g.alternatives.Pairwise fun earlier later => ¬ earlier.opening <+: later.opening)
        ∧ g.tags.Pairwise fun earlier later => ¬ earlier <+: later := by
  have hh (a b : Text) : hides a b = false ↔ ¬ a <+: b := by
    rw [hides, ← List.isPrefixOf_iff_prefix, Bool.not_eq_true]
  have ht : (if g.tags.any List.isEmpty then some (Defect.emptyPart .tag) else none) = none ↔
      ∀ tag ∈ g.tags, tag ≠ [] := by
    simp only [ite_eq_right_iff, reduceCtorEq, imp_false, List.any_eq_true, List.isEmpty_iff]
    exact ⟨fun h tag hm he => h ⟨tag, hm, he⟩, fun h ⟨tag, hm, he⟩ => h tag hm he⟩
  simp only [defect?, Option.orElse_eq_orElse, Option.orElse_eq_or, Option.or_eq_none_iff,
    List.findSome?_eq_none_iff, emptyDelimiter?_eq_none_iff, ht, Option.map_eq_none_iff,
    firstHidden?_eq_none_iff, hh, List.pairwise_map]

end StringGrammar

end LexicalGrammar
