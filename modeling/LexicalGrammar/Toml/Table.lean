import LexicalGrammar.Settings.Datum
import LexicalGrammar.Toml.Scalar

namespace LexicalGrammar.Toml

inductive Origin where
  | header
  | parent
  | dotted
  | braces
deriving DecidableEq, Repr

inductive Node where
  | flag (b : Bool)
  | text (t : Text)
  | other
  | array (items : List Node)
  | table (origin : Origin) (fields : List (Text × Node))
  | tables (latest : Node) (earlier : List Node)

namespace Node

def empty (origin : Origin) : Node := .table origin []

def momentField : Text := "$__toml_private_datetime".toList

def ofScalar : Scalar → Node
  | .number => .other
  | .moment m => .table .braces [(momentField, .text m.write)]

def lookup (key : Text) (fields : List (Text × Node)) : Option Node :=
  (fields.find? fun f => f.1 == key).map Prod.snd

def store (key : Text) (value : Node) : List (Text × Node) → List (Text × Node)
  | [] => [(key, value)]
  | f :: fields => if f.1 = key then (key, value) :: fields else f :: store key value fields

/-- The last of several tables is meant; a dotted key may not lead through a table with a header,
and nothing leads through braces. -/
def enter (dotted : Bool) (change : Node → Option Node) : Node → Option Node
  | .table origin fields =>
      if origin = .braces ∨ (dotted ∧ origin = .header) then none else change (.table origin fields)
  | .tables latest earlier => (change latest).map fun n => .tables n earlier
  | _ => none

def within (dotted : Bool) (change : Node → Option Node) : List Text → Node → Option Node
  | [], node => change node
  | key :: path, .table origin fields => do
      let fresh := empty (if dotted then .dotted else .parent)
      let child ← match lookup key fields with
        | some child => enter dotted (within dotted change path) child
        | none => within dotted change path fresh
      return .table origin (store key child fields)
  | _, _ => none

def addField (isDotted : Bool) (key : Text) (value : Node) : Node → Option Node
  | .table origin fields =>
      if decide (origin = .dotted) == isDotted && (lookup key fields).isNone then
        some (.table origin (fields ++ [(key, value)]))
      else none
  | _ => none

def addKey (path : List Text) (key : Text) (value : Node) (table : Node) : Option Node :=
  within true (addField (!path.isEmpty) key value) path table

/-- Opens a table by its header. It may have been made by headers below it, but not otherwise. -/
def openTable (key : Text) : Node → Option Node
  | .table origin fields =>
      match lookup key fields with
      | none => some (.table origin (store key (empty .header) fields))
      | some (.table .parent inner) => some (.table origin (store key (.table .header inner) fields))
      | some _ => none
  | _ => none

def openNext (key : Text) : Node → Option Node
  | .table origin fields =>
      match lookup key fields with
      | none => some (.table origin (store key (.tables (empty .header) []) fields))
      | some (.tables latest earlier) =>
          some (.table origin (store key (.tables (empty .header) (latest :: earlier)) fields))
      | some _ => none
  | _ => none

mutual

def toDatum : Node → Datum
  | .flag b => .flag b
  | .text t => .text t
  | .other => .other
  | .array items => .list (toData items)
  | .table _ fields => .table (toFields fields)
  | .tables latest earlier => .list (toDatum latest :: toData earlier).reverse

def toData : List Node → List Datum
  | [] => []
  | n :: nodes => toDatum n :: toData nodes

def toFields : List (Text × Node) → List (Text × Datum)
  | [] => []
  | (key, n) :: fields => (key, toDatum n) :: toFields fields

end

end Node

end LexicalGrammar.Toml
