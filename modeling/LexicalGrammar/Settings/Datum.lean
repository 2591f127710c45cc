import LexicalGrammar.Settings.Basic
import LexicalGrammar.Text.Order

namespace LexicalGrammar

inductive Datum where
  | null
  | flag (b : Bool)
  | text (t : Text)
  | other
  | list (items : List Datum)
  | table (fields : List (Text × Datum))
deriving Inhabited

inductive Dialect where
  | json
  | toml
deriving DecidableEq, Repr

namespace Datum

def flag? : Datum → Option Bool
  | .flag b => some b
  | _ => none

def text? : Datum → Option Text
  | .text t => some t
  | _ => none

def optionalText? : Datum → Option (Option Text)
  | .null => some none
  | .text t => some (some t)
  | _ => none

def isEmpty : Dialect → Datum → Bool
  | .json, .null => true
  | .toml, .list [] => true
  | .toml, .table [] => true
  | _, _ => false

def word? (dialect : Dialect) : Datum → Option Text
  | .text t => some t
  | .table [(name, value)] => if value.isEmpty dialect then some name else none
  | _ => none

def format? (dialect : Dialect) (d : Datum) : Option Format :=
  (d.word? dialect).bind Format.ofName?

def placeEntry (entry : Text × Text) : List (Text × Text) → List (Text × Text)
  | [] => [entry]
  | e :: entries =>
      if entry.1 = e.1 then entry :: entries
      else if precedes entry.1 e.1 then entry :: e :: entries
      else e :: placeEntry entry entries

def texts? : Datum → Option (List (Text × Text))
  | .table fields =>
      fields.foldlM (fun entries field => do
        return placeEntry (field.1, ← field.2.text?) entries) []
  | _ => none

def fields? (dialect : Dialect) (names : List String) : Datum → Option (List (Option Datum))
  | .list items =>
      if dialect = .json ∧ names.length < items.length then none
      else some ((List.range names.length).map fun i => items[i]?)
  | .table fields =>
      some (names.map fun name => (fields.find? fun f => f.1 == name.toList).map Prod.snd)
  | _ => none

def readField {α : Type} (read : Datum → Option α) (default : α) : Option Datum → Option α
  | some d => read d
  | none => some default

def outputSettings? (dialect : Dialect) (d : Datum) : Option OutputSettings := do
  match ← d.fields? dialect ["format", "show_plain"] with
  | [format, showPlain] =>
      return { format := ← readField (format? dialect) .text format
               showPlain := ← readField flag? false showPlain }
  | _ => none

def settings? (dialect : Dialect) (d : Datum) : Option Settings := do
  match ← d.fields? dialect ["verbose", "default_language", "extensions", "output"] with
  | [verbose, defaultLanguage, extensions, output] =>
      return { verbose := ← readField flag? false verbose
               defaultLanguage := ← readField optionalText? none defaultLanguage
               extensions := ← readField texts? [] extensions
               output := ← readField (outputSettings? dialect) {} output }
  | _ => none

end Datum

end LexicalGrammar
