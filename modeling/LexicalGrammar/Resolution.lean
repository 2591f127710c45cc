import LexicalGrammar.Path
import LexicalGrammar.Settings.Basic

namespace LexicalGrammar

def languageOfPath (settings : Settings) (path : Text) : Except Failure (Option Language) :=
  match Path.extension? path with
  | none => .ok none
  | some ext =>
      match Language.ofExtension? ext with
      | some l => .ok (some l)
      | none => settings.languageOfExtension ext

def fallbackLanguage (settings : Settings) (path : Text) : Except Failure Language := do
  match ← settings.languageByDefault with
  | some l => .ok l
  | none => .error (.undetermined path)

def resolveLanguage (asked : Option Text) (settings : Settings) (path : Text) :
    Except Failure Language := do
  match asked with
  | some name => Language.named name
  | none =>
      match ← languageOfPath settings path with
      | some l => .ok l
      | none => fallbackLanguage settings path

theorem resolveLanguage_asked (name : Text) (settings : Settings) (path : Text) :
    resolveLanguage (some name) settings path = Language.named name := rfl

theorem resolveLanguage_of_extension {settings : Settings} {path ext : Text} {l : Language}
    (he : Path.extension? path = some ext) (hl : Language.ofExtension? ext = some l) :
    resolveLanguage none settings path = .ok l := by
  simp only [resolveLanguage, languageOfPath, he, hl]
  rfl

end LexicalGrammar
