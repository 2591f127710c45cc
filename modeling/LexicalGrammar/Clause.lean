import LexicalGrammar.Configuration

namespace LexicalGrammar

inductive Clause where
  | squareBrackets (supported : Bool)
  | curlyBrackets (supported : Bool)
  | indentationSensitive (sensitive : Bool)
  | strings (grammar : StringGrammar)
  | characters (grammar : StringGrammar)
  | numbers (grammar : NumberGrammar)
  | lineComment (opening : Text)
  | blockComment (block : BlockComment)
  | identifiers (grammar : IdentifierGrammar)
  | operators (grammar : OperatorGrammar)
  | reserveIdentifiers (words : List Text)
  | reserveOperators (spellings : List Text)
  | service (service : Option Service)
deriving DecidableEq, Repr

namespace Clause

def addedIdentifiers : Clause → List Text
  | reserveIdentifiers words => words
  | _ => []

def addedOperators : Clause → List Text
  | reserveOperators spellings => spellings
  | _ => []

def reserves : Clause → Bool
  | reserveIdentifiers _ => true
  | reserveOperators _ => true
  | _ => false

end Clause

namespace Declaration

def add (d : Declaration) : Clause → Declaration
  | .squareBrackets supported => { d with squareBrackets := supported }
  | .curlyBrackets supported => { d with curlyBrackets := supported }
  | .indentationSensitive sensitive => { d with indentationSensitive := sensitive }
  | .strings grammar => { d with strings := grammar }
  | .characters grammar => { d with characters := some grammar }
  | .numbers grammar => { d with numbers := grammar }
  | .lineComment opening => { d with comments := { d.comments with line := some opening } }
  | .blockComment block => { d with comments := { d.comments with block := some block } }
  | .identifiers grammar => { d with identifiers := some grammar }
  | .operators grammar => { d with operators := some grammar }
  | .reserveIdentifiers words => d.reserveIdentifiers words
  | .reserveOperators spellings => d.reserveOperators spellings
  | .service service => { d with service := service }

def ofClauses (name : String) (clauses : List Clause) : Declaration :=
  clauses.foldl add { name := name }

@[simp] theorem name_add (d : Declaration) (clause : Clause) : (d.add clause).name = d.name := by
  cases clause <;> rfl

@[simp] theorem reservedIdentifiers_add (d : Declaration) (clause : Clause) :
    (d.add clause).reservedIdentifiers = d.reservedIdentifiers ++ clause.addedIdentifiers := by
  cases clause <;> simp [add, Clause.addedIdentifiers, reserveIdentifiers, reserveOperators]

@[simp] theorem reservedOperators_add (d : Declaration) (clause : Clause) :
    (d.add clause).reservedOperators = d.reservedOperators ++ clause.addedOperators := by
  cases clause <;> simp [add, Clause.addedOperators, reserveIdentifiers, reserveOperators]

theorem name_foldl_add (clauses : List Clause) (d : Declaration) :
    (clauses.foldl add d).name = d.name := by
  induction clauses generalizing d with
  | nil => rfl
  | cons clause clauses ih => rw [List.foldl_cons, ih, name_add]

theorem foldl_add_eq_append {field : Declaration → List Text} {added : Clause → List Text}
    (h : ∀ d clause, field (d.add clause) = field d ++ added clause) (clauses : List Clause)
    (d : Declaration) : field (clauses.foldl add d) = field d ++ clauses.flatMap added := by
  induction clauses generalizing d with
  | nil => simp
  | cons clause clauses ih => rw [List.foldl_cons, ih, h, List.flatMap_cons, List.append_assoc]

@[simp] theorem name_ofClauses (name : String) (clauses : List Clause) :
    (ofClauses name clauses).name = name :=
  name_foldl_add clauses _

@[simp] theorem reservedIdentifiers_ofClauses (name : String) (clauses : List Clause) :
    (ofClauses name clauses).reservedIdentifiers = clauses.flatMap Clause.addedIdentifiers :=
  foldl_add_eq_append reservedIdentifiers_add clauses _

@[simp] theorem reservedOperators_ofClauses (name : String) (clauses : List Clause) :
    (ofClauses name clauses).reservedOperators = clauses.flatMap Clause.addedOperators :=
  foldl_add_eq_append reservedOperators_add clauses _

end Declaration

end LexicalGrammar
