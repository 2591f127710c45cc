import LexicalGrammar.FilePath
import LexicalGrammar.Language.Registry
import LexicalGrammar.Report.Document
import LexicalGrammar.Resolution
import LexicalGrammar.Text.Position
import LexicalGrammar.Text.Quoted
import LexicalGrammar.Tokenizer

namespace LexicalGrammar

structure TokenRecord extends Token where
  position : Position
deriving DecidableEq, Repr

structure FileTokens where
  path : FilePath
  language : Language
  tokens : List TokenRecord
deriving DecidableEq, Repr

namespace TokenRecord

def ofToken (lines : List LineStart) (t : Token) : TokenRecord :=
  { t with position := positionIn lines t.start }

def writeLine (r : TokenRecord) : Text :=
  [' ', ' '] ++ Nat.toDigits 10 r.position.line ++ ':' :: Nat.toDigits 10 r.position.column
    ++ '\t' :: r.kind.name.toList ++ '\t' :: Quoted.write r.text
    ++ (if r.closed then [] else "  (unterminated)".toList) ++ ['\n']

def document (r : TokenRecord) : Document :=
  .record [
    ("kind", .ofString r.kind.name),
    ("start", .number r.start),
    ("end", .number r.stop),
    ("line", .number r.position.line),
    ("column", .number r.position.column),
    ("text", .text r.text),
    ("closed", .flag r.closed)]

end TokenRecord

def tokenRecords (l : Language) (showPlain : Bool) (source : Text) : List TokenRecord :=
  let lines := lineStarts source
  ((l.configuration.tokenize source).filter fun t => showPlain || t.kind != .plain).map
    (TokenRecord.ofToken lines)

namespace FileTokens

def writeLines (f : FileTokens) : Text :=
  f.path.display ++ [' ', '('] ++ f.language.name.toList ++ [')', '\n']
    ++ f.tokens.flatMap TokenRecord.writeLine

def document? (f : FileTokens) : Option Document :=
  f.path.text?.map fun path => .record [
    ("path", .text path),
    ("language", .ofString f.language.name),
    ("tokens", .list (f.tokens.map TokenRecord.document))]

def report? (format : Format) (files : List FileTokens) : Option Text :=
  match format with
  | .text => some (files.flatMap writeLines)
  | .json =>
      (files.mapM document?).map fun documents => (Document.list documents).write 0 ++ ['\n']

def report (format : Format) (files : List FileTokens) : Text := (report? format files).getD []

theorem exists_document? {f : FileTokens} (h : f.path.IsUnicode) :
    ∃ document, f.document? = some document := by
  obtain ⟨t, ht⟩ := h
  exact ⟨_, by rw [document?, FilePath.text?_eq_some_iff.mpr ht, Option.map_some]⟩

theorem exists_mapM_document? {files : List FileTokens} (h : ∀ f ∈ files, f.path.IsUnicode) :
    ∃ documents, files.mapM document? = some documents := by
  induction files with
  | nil => exact ⟨[], rfl⟩
  | cons f files ih =>
      obtain ⟨document, hf⟩ := exists_document? (h f (by simp))
      obtain ⟨documents, hfiles⟩ := ih fun g hg => h g (by simp [hg])
      exact ⟨document :: documents, by simp [hf, hfiles]⟩

theorem report?_eq_some_report {files : List FileTokens} (h : ∀ f ∈ files, f.path.IsUnicode)
    (format : Format) : report? format files = some (report format files) := by
  cases format with
  | text => rfl
  | json =>
      obtain ⟨documents, hd⟩ := exists_mapM_document? h
      simp [report, report?, hd]

end FileTokens

structure TokensRequest where
  language : Option Text := none
  format : Option Format := none
  showPlain : Bool := false
  files : List Text
deriving DecidableEq, Repr

namespace TokensRequest

def formatUnder (r : TokensRequest) (settings : Settings) : Format :=
  r.format.getD settings.output.format

def showPlainUnder (r : TokensRequest) (settings : Settings) : Bool :=
  r.showPlain || settings.output.showPlain

def fileTokens (r : TokensRequest) (settings : Settings) (disk : Disk) (path : Text) :
    Except Failure FileTokens := do
  let l ← resolveLanguage r.language settings path
  match disk path with
  | .error cause => .error (.unreadable path cause)
  | .ok source => .ok ⟨.ofText path, l, tokenRecords l (r.showPlainUnder settings) source⟩

def files? (r : TokensRequest) (settings : Settings) (disk : Disk) :
    Except Failure (List FileTokens) :=
  if r.files.isEmpty then .error .noInputFiles else r.files.mapM (r.fileTokens settings disk)

theorem exists_of_mem_mapM {α β ε : Type} {f : α → Except ε β} {xs : List α} {ys : List β}
    (h : xs.mapM f = .ok ys) {y : β} (hy : y ∈ ys) : ∃ x ∈ xs, f x = .ok y := by
  induction xs generalizing ys with
  | nil =>
      obtain rfl := Except.ok.inj h
      cases hy
  | cons x xs ih =>
      simp only [List.mapM_cons] at h
      cases hx : f x with
      | error e => simp [hx, bind, Except.bind] at h
      | ok z =>
          cases hxs : xs.mapM f with
          | error e => simp [hx, hxs, bind, Except.bind] at h
          | ok zs =>
              simp only [hx, hxs, bind, Except.bind] at h
              obtain rfl := Except.ok.inj h
              rcases List.mem_cons.mp hy with rfl | hy
              · exact ⟨x, by simp, hx⟩
              · obtain ⟨w, hw, hfw⟩ := ih hxs hy
                exact ⟨w, by simp [hw], hfw⟩

section Unicode

variable {r : TokensRequest} {settings : Settings} {disk : Disk} {files : List FileTokens}

theorem path_of_fileTokens {path : Text} {f : FileTokens}
    (h : r.fileTokens settings disk path = .ok f) : f.path = .ofText path := by
  simp only [fileTokens, bind, Except.bind] at h
  split at h
  · cases h
  · split at h
    · cases h
    · rw [← Except.ok.inj h]

theorem isUnicode_of_files? (h : r.files? settings disk = .ok files) :
    ∀ f ∈ files, f.path.IsUnicode := by
  rw [files?] at h
  split at h
  · cases h
  · intro f hf
    obtain ⟨path, _, hpath⟩ := exists_of_mem_mapM h hf
    exact ⟨path, path_of_fileTokens hpath⟩

theorem report?_of_files? (h : r.files? settings disk = .ok files) (format : Format) :
    FileTokens.report? format files = some (FileTokens.report format files) :=
  FileTokens.report?_eq_some_report (isUnicode_of_files? h) format

end Unicode

end TokensRequest

end LexicalGrammar
