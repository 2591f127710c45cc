import LexicalGrammar.Toml.Document

namespace LexicalGrammar.Settings

def fileName : Text := "lexat.toml".toList

def load (disk : Disk) (path : Text) : Except Failure Settings :=
  if disk.exists path then
    match disk path with
    | .error cause => .error (.settingsUnreadable cause)
    | .ok text =>
        match ofToml? text with
        | some settings => .ok settings
        | none => .error .settingsMalformed
  else .error (.settingsNotFound path)

structure Places where
  disk : Disk
  home : Option Text := none
  configHome : Option Text := none

namespace Places

def userDirectory? (p : Places) : Option Text := p.home.filter (!·.isEmpty)

/-- A relative directory for settings does not count; without one they are kept with the user. -/
def settingsDirectory? (p : Places) : Option Text :=
  match p.configHome.filter (·.head? == some '/') with
  | some dir => some dir
  | none => p.userDirectory?.map fun dir => dir ++ "/.config".toList

end Places

def candidates (p : Places) : List Text :=
  [fileName]
    ++ (p.userDirectory?.map fun dir => dir ++ "/.config/lexat/".toList ++ fileName).toList
    ++ (p.settingsDirectory?.map fun dir => dir ++ "/lexat/".toList ++ fileName).toList

def find (p : Places) (named : Option Text) : Except Failure Settings :=
  match named with
  | some path => load p.disk path
  | none =>
      match (candidates p).find? p.disk.exists with
      | some path => load p.disk path
      | none => .ok {}

end LexicalGrammar.Settings
