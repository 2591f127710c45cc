import LexicalGrammar.Lexeme

namespace LexicalGrammar

structure Escape where
  character : Char
  escapesItself : Bool
deriving DecidableEq, Repr

namespace Escape

def backslash : Escape := ⟨'\\', false⟩

def backslashPaired : Escape := ⟨'\\', true⟩

end Escape

def isLineBreak (c : Char) : Bool := c == '\n' || c == '\r'

structure QuotedBody where
  close : Text
  escape : Option Escape := none
  multiline : Bool := false
deriving DecidableEq, Repr

namespace QuotedBody

def protects (body : QuotedBody) (c next : Char) : Bool :=
  body.escape.any fun escape =>
    escape.character == c
      && (body.close.head? == some next || (escape.escapesItself && escape.character == next))

def stopsAt (body : QuotedBody) (c : Char) : Bool := !body.multiline && isLineBreak c

def ending? (body : QuotedBody) (text : Text) : Option Lexeme :=
  match after? body.close text with
  | some left => some ⟨body.close, true, left⟩
  | none => if text.head?.any body.stopsAt then some ⟨[], false, text⟩ else none

def scan (body : QuotedBody) : Text → Lexeme
  | [] => (body.ending? []).getD ⟨[], false, []⟩
  | [c] => (body.ending? [c]).getD ((body.scan []).following [c])
  | c :: d :: rest =>
      if body.protects c d then (body.scan rest).following [c, d]
      else match body.ending? (c :: d :: rest) with
        | some l => l
        | none => (body.scan (d :: rest)).following [c]

theorem whole_of_ending? {body : QuotedBody} {text : Text} {l : Lexeme}
    (h : body.ending? text = some l) : l.whole = text := by
  simp only [ending?] at h
  split at h
  · next left hl =>
    obtain rfl := Option.some.inj h
    exact (after?_eq_some_iff.mp hl).symm
  · split at h
    · obtain rfl := Option.some.inj h
      rfl
    · simp at h

theorem whole_getD_ending? {body : QuotedBody} {text : Text} {l : Lexeme} (h : l.whole = text) :
    ((body.ending? text).getD l).whole = text := by
  cases he : body.ending? text with
  | none => exact h
  | some e => exact whole_of_ending? he

@[simp] theorem whole_scan (body : QuotedBody) (text : Text) : (body.scan text).whole = text := by
  fun_induction scan body text with
  | case1 => exact whole_getD_ending? rfl
  | case2 c ih => exact whole_getD_ending? (by simp [ih])
  | case3 c d rest hp ih => simp [ih]
  | case4 c d rest hp l he => exact whole_of_ending? he
  | case5 c d rest hp he ih => simp [ih]

theorem scan_nil {body : QuotedBody} (h : body.close ≠ []) : body.scan [] = ⟨[], false, []⟩ := by
  have hn : after? body.close [] = none := by
    cases hc : body.close with
    | nil => exact absurd hc h
    | cons o close => rfl
  simp [scan, ending?, hn]

theorem scan_of_protects {body : QuotedBody} {c d : Char} {rest : Text}
    (h : body.protects c d = true) :
    body.scan (c :: d :: rest) = (body.scan rest).following [c, d] := by
  simp [scan, h]

theorem scan_cons {body : QuotedBody} {c : Char} {rest : Text}
    (h : rest.head?.any (body.protects c) = false) :
    body.scan (c :: rest) = (body.ending? (c :: rest)).getD ((body.scan rest).following [c]) := by
  cases rest with
  | nil => simp [scan]
  | cons d rest =>
      have hp : body.protects c d = false := by simpa using h
      simp only [scan, hp, Bool.false_eq_true, if_false]
      cases body.ending? (c :: d :: rest) <;> rfl

theorem scan_induction (body : QuotedBody) {motive : Text → Prop} (nil : motive [])
    (pair : ∀ c d rest, body.protects c d = true → motive rest → motive (c :: d :: rest))
    (cons : ∀ c rest, rest.head?.any (body.protects c) = false → motive rest → motive (c :: rest)) :
    ∀ text, motive text
  | [] => nil
  | [c] => cons c [] rfl nil
  | c :: d :: rest => by
      cases hp : body.protects c d with
      | true => exact pair c d rest hp (scan_induction body nil pair cons rest)
      | false => exact cons c (d :: rest) (by simpa using hp) (scan_induction body nil pair cons (d :: rest))

end QuotedBody

end LexicalGrammar
