import LexicalGrammar.Language.Registry

namespace LexicalGrammar

namespace Language

theorem defect?_declaration (l : Language) : l.declaration.defect? = none := by
  cases l <;> decide +kernel

theorem build_eq_ok (l : Language) (service : Option Service) :
    l.build service = .ok { l.configuration with service := service } :=
  Declaration.build_eq_ok_iff.mpr ⟨l.defect?_declaration, rfl⟩

end Language

theorem Python.build_eq_ok : declaration.build = .ok declaration.configuration :=
  Declaration.build_eq_ok_iff.mpr ⟨Language.python.defect?_declaration, rfl⟩

end LexicalGrammar
