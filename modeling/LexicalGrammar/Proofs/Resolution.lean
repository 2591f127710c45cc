import LexicalGrammar.Proofs.ByteOrder
import LexicalGrammar.Proofs.Choice
import LexicalGrammar.Proofs.Naming
import LexicalGrammar.Proofs.Settings.Ordered
import LexicalGrammar.Report.Tokens

namespace LexicalGrammar

namespace Settings

def IsKeyOf (ext key : Text) : Prop :=
  ∃ points bare, key = List.replicate points '.' ++ bare ∧ bare.head? ≠ some '.' ∧
    foldCase bare = foldCase ext

structure FirstEntry (settings : Settings) (ext key name : Text) : Prop where
  listed : (key, name) ∈ settings.extensions
  isKey : IsKeyOf ext key
  first : ∀ entry ∈ settings.extensions, IsKeyOf ext entry.1 →
    entry = (key, name) ∨ utf8 key < utf8 entry.1

def Unmapped (settings : Settings) (path : Text) : Prop :=
  ∀ ext, Path.extension? path = some ext →
    (∀ l : Language, ¬ l.UsesExtension ext) ∧
      ∀ entry ∈ settings.extensions, ¬ IsKeyOf ext entry.1

inductive Resolves (settings : Settings) (path : Text) :
    Option Text → Except Failure Language → Prop
  | asked {name answer} : Language.Answers name answer → Resolves settings path (some name) answer
  | builtIn {ext l} : Path.extension? path = some ext → l.UsesExtension ext →
      Resolves settings path none (.ok l)
  | configured {ext key name answer} : Path.extension? path = some ext →
      (∀ l : Language, ¬ l.UsesExtension ext) → settings.FirstEntry ext key name →
      Language.Answers name answer → Resolves settings path none answer
  | byDefault {name answer} : settings.Unmapped path → settings.defaultLanguage = some name →
      Language.Answers name answer → Resolves settings path none answer
  | undetermined : settings.Unmapped path → settings.defaultLanguage = none →
      Resolves settings path none (.error (.undetermined path))

inductive AgreeOn (settings other : Settings) (path : Text) : Option Text → Prop
  | asked {name} : AgreeOn settings other path (some name)
  | builtIn {ext l} : Path.extension? path = some ext → Language.UsesExtension l ext →
      AgreeOn settings other path none
  | configured {ext key key' name} : Path.extension? path = some ext →
      settings.FirstEntry ext key name → other.FirstEntry ext key' name →
      AgreeOn settings other path none
  | byDefault : settings.Unmapped path → other.Unmapped path →
      settings.defaultLanguage = other.defaultLanguage → AgreeOn settings other path none

theorem isEntryOf_iff {ext key : Text} : isEntryOf ext key = true ↔ IsKeyOf ext key := by
  rw [isEntryOf, beq_iff_eq]
  constructor
  · intro h
    refine ⟨(key.takeWhile (· == '.')).length, key.dropWhile (· == '.'), ?_, ?_, h⟩
    · have hpoints : key.takeWhile (· == '.') = List.replicate _ '.' :=
        List.eq_replicate_iff.mpr
          ⟨rfl, fun c hc => by simpa using List.all_eq_true.mp List.all_takeWhile c hc⟩
      rw [← hpoints, List.takeWhile_append_dropWhile]
    · intro hhead
      have := List.head?_dropWhile_not (· == '.') key
      simp [hhead] at this
  · rintro ⟨points, bare, rfl, hhead, hfold⟩
    have hbare : bare.dropWhile (· == '.') = bare := by
      cases bare with
      | nil => rfl
      | cons c rest =>
          have hc : c ≠ '.' := by simpa using hhead
          simp [hc]
    rw [List.dropWhile_append_of_pos (by simp), hbare, hfold]

section Deciding

variable {settings other : Settings} {ext key name path : Text}

theorem nameOfExtension?_eq_some_iff (hs : settings.Ordered) (hext : '.' ∉ ext) :
    settings.nameOfExtension? ext = some name ↔ ∃ key, settings.FirstEntry ext key name := by
  have hasymm (a b : Text × Text) (hab : precedes a.1 b.1 = true) : ¬ precedes b.1 a.1 = true :=
    fun hba => by simpa using precedes_trans hab hba
  have hfirst (key : Text) :
      (settings.extensions.find? fun entry => isEntryOf ext entry.1) = some (key, name) ↔
        settings.FirstEntry ext key name := by
    rw [find?_eq_some_iff_of_pairwise hasymm (List.pairwise_map.mp hs)]
    simp only [isEntryOf_iff, ← utf8_lt_iff]
    exact ⟨fun ⟨hm, hk, hall⟩ => ⟨hm, hk, hall⟩, fun ⟨hm, hk, hall⟩ => ⟨hm, hk, hall⟩⟩
  simp only [nameOfExtension?, dropPoint_of_not_mem hext, Option.map_eq_some_iff,
    Prod.exists, exists_eq_right, hfirst]

theorem nameOfExtension?_eq_none_iff (hext : '.' ∉ ext) :
    settings.nameOfExtension? ext = none ↔
      ∀ entry ∈ settings.extensions, ¬ IsKeyOf ext entry.1 := by
  simp only [nameOfExtension?, dropPoint_of_not_mem hext, Option.map_eq_none_iff,
    List.find?_eq_none, isEntryOf_iff]

theorem languageOfPath_of_firstEntry (hs : settings.Ordered)
    (he : Path.extension? path = some ext) (hnone : ∀ l : Language, ¬ l.UsesExtension ext)
    (hf : settings.FirstEntry ext key name) :
    languageOfPath settings path = some <$> Language.named name := by
  have hext := Path.point_not_mem_of_extension? he
  have hname := (nameOfExtension?_eq_some_iff hs hext).mpr ⟨key, hf⟩
  simp only [languageOfPath, he, (Language.ofExtension?_eq_none_iff hext).mpr hnone,
    languageOfExtension, hname]

theorem languageOfPath_of_unmapped (h : settings.Unmapped path) :
    languageOfPath settings path = .ok none := by
  cases he : Path.extension? path with
  | none => simp only [languageOfPath, he]
  | some ext =>
      obtain ⟨hnone, hentries⟩ := h ext he
      have hext := Path.point_not_mem_of_extension? he
      simp only [languageOfPath, he, (Language.ofExtension?_eq_none_iff hext).mpr hnone,
        languageOfExtension, (nameOfExtension?_eq_none_iff hext).mpr hentries]

theorem resolveLanguage_of_unmapped (h : settings.Unmapped path) :
    resolveLanguage none settings path = fallbackLanguage settings path := by
  rw [resolveLanguage, languageOfPath_of_unmapped h]
  rfl

theorem resolveLanguage_of_firstEntry (hs : settings.Ordered)
    (he : Path.extension? path = some ext) (hnone : ∀ l : Language, ¬ l.UsesExtension ext)
    (hf : settings.FirstEntry ext key name) :
    resolveLanguage none settings path = Language.named name := by
  rw [resolveLanguage, languageOfPath_of_firstEntry hs he hnone hf]
  cases Language.named name <;> rfl

theorem resolveLanguage_of_usesExtension {l : Language} (he : Path.extension? path = some ext)
    (hl : l.UsesExtension ext) : resolveLanguage none settings path = .ok l :=
  resolveLanguage_of_extension he
    ((Language.ofExtension?_eq_some_iff (Path.point_not_mem_of_extension? he)).mpr hl)

theorem fallbackLanguage_eq_named (h : settings.defaultLanguage = some name) :
    fallbackLanguage settings path = Language.named name := by
  simp only [fallbackLanguage, languageByDefault, h]
  cases Language.named name <;> rfl

theorem fallbackLanguage_eq_undetermined (h : settings.defaultLanguage = none) :
    fallbackLanguage settings path = .error (.undetermined path) := by
  simp only [fallbackLanguage, languageByDefault, h]
  rfl

theorem Resolves.eq (hs : settings.Ordered) {asked : Option Text} {answer : Except Failure Language}
    (h : settings.Resolves path asked answer) : resolveLanguage asked settings path = answer := by
  cases h with
  | asked hname => rw [resolveLanguage_asked, Language.answers_iff.mp hname]
  | builtIn he hl => exact resolveLanguage_of_usesExtension he hl
  | configured he hnone hf hname =>
      rw [resolveLanguage_of_firstEntry hs he hnone hf, Language.answers_iff.mp hname]
  | byDefault hu hd hname =>
      rw [resolveLanguage_of_unmapped hu, fallbackLanguage_eq_named hd,
        Language.answers_iff.mp hname]
  | undetermined hu hd =>
      rw [resolveLanguage_of_unmapped hu, fallbackLanguage_eq_undetermined hd]

theorem deciding_cases (hs : settings.Ordered) (path : Text) :
    (∃ ext, ∃ l : Language, Path.extension? path = some ext ∧ l.UsesExtension ext) ∨
      (∃ ext key name, Path.extension? path = some ext ∧
        (∀ l : Language, ¬ l.UsesExtension ext) ∧ settings.FirstEntry ext key name) ∨
      settings.Unmapped path := by
  cases he : Path.extension? path with
  | none => exact Or.inr (Or.inr fun ext h => by rw [he] at h; cases h)
  | some ext =>
      have hext := Path.point_not_mem_of_extension? he
      by_cases hl : ∃ l : Language, l.UsesExtension ext
      · obtain ⟨l, hl⟩ := hl
        exact Or.inl ⟨ext, l, rfl, hl⟩
      · have hnone (l : Language) : ¬ l.UsesExtension ext := fun h => hl ⟨l, h⟩
        cases hn : settings.nameOfExtension? ext with
        | some name =>
            obtain ⟨key, hf⟩ := (nameOfExtension?_eq_some_iff hs hext).mp hn
            exact Or.inr (Or.inl ⟨ext, key, name, rfl, hnone, hf⟩)
        | none =>
            refine Or.inr (Or.inr fun ext' h => ?_)
            obtain rfl := Option.some.inj (he.symm.trans h)
            exact ⟨hnone, (nameOfExtension?_eq_none_iff hext).mp hn⟩

theorem exists_resolves (hs : settings.Ordered) (path : Text) (asked : Option Text) :
    ∃ answer, settings.Resolves path asked answer := by
  have hnamed (name : Text) : Language.Answers name (Language.named name) :=
    Language.answers_iff.mpr rfl
  cases asked with
  | some name => exact ⟨_, .asked (hnamed name)⟩
  | none =>
      rcases deciding_cases hs path with
        ⟨ext, l, he, hl⟩ | ⟨ext, key, name, he, hnone, hf⟩ | hu
      · exact ⟨_, .builtIn he hl⟩
      · exact ⟨_, .configured he hnone hf (hnamed name)⟩
      · cases hd : settings.defaultLanguage with
        | some name => exact ⟨_, .byDefault hu hd (hnamed name)⟩
        | none => exact ⟨_, .undetermined hu hd⟩

theorem resolves_iff (hs : settings.Ordered) {asked : Option Text}
    {answer : Except Failure Language} :
    settings.Resolves path asked answer ↔ resolveLanguage asked settings path = answer := by
  refine ⟨Resolves.eq hs, ?_⟩
  rintro rfl
  obtain ⟨answer, h⟩ := exists_resolves hs path asked
  exact h.eq hs ▸ h

theorem AgreeOn.resolveLanguage_eq (hs : settings.Ordered) (ho : other.Ordered)
    {asked : Option Text} (h : settings.AgreeOn other path asked) :
    resolveLanguage asked other path = resolveLanguage asked settings path := by
  cases h with
  | asked => rfl
  | builtIn he hl =>
      rw [resolveLanguage_of_usesExtension he hl, resolveLanguage_of_usesExtension he hl]
  | @configured ext _ _ _ he hf hf' =>
      by_cases hl : ∃ l : Language, l.UsesExtension ext
      · obtain ⟨l, hl⟩ := hl
        rw [resolveLanguage_of_usesExtension he hl, resolveLanguage_of_usesExtension he hl]
      · have hnone (l : Language) : ¬ l.UsesExtension ext := fun h => hl ⟨l, h⟩
        rw [resolveLanguage_of_firstEntry hs he hnone hf,
          resolveLanguage_of_firstEntry ho he hnone hf']
  | byDefault hu hu' hd =>
      rw [resolveLanguage_of_unmapped hu, resolveLanguage_of_unmapped hu', fallbackLanguage,
        fallbackLanguage, languageByDefault, languageByDefault, hd]

end Deciding

end Settings

def Failure.concerning (path : Text) : Failure → Failure
  | undetermined _ => undetermined path
  | failure => failure

section Case

variable {settings : Settings} {path path' : Text}

theorem Language.Answers.mapError_concerning {name : Text} {answer : Except Failure Language}
    (h : Language.Answers name answer) : answer.mapError (.concerning path') = answer := by
  cases h <;> rfl

theorem Language.UsesExtension.of_foldCase {l : Language} {ext ext' : Text}
    (h : foldCase ext' = foldCase ext) (hl : l.UsesExtension ext) : l.UsesExtension ext' := by
  obtain ⟨known, hm, he⟩ := hl
  exact ⟨known, hm, he.trans h.symm⟩

namespace Settings

theorem IsKeyOf.of_foldCase {ext ext' key : Text} (h : foldCase ext' = foldCase ext)
    (hk : IsKeyOf ext key) : IsKeyOf ext' key := by
  obtain ⟨points, bare, hkey, hhead, hfold⟩ := hk
  exact ⟨points, bare, hkey, hhead, hfold.trans h.symm⟩

theorem FirstEntry.of_foldCase {ext ext' key name : Text} (h : foldCase ext' = foldCase ext)
    (hf : settings.FirstEntry ext key name) : settings.FirstEntry ext' key name where
  listed := hf.listed
  isKey := hf.isKey.of_foldCase h
  first entry hm hk := hf.first entry hm (hk.of_foldCase h.symm)

theorem Unmapped.of_foldCase (h : foldCase path' = foldCase path) (hu : settings.Unmapped path) :
    settings.Unmapped path' := by
  intro ext' he'
  obtain ⟨ext, he, hext⟩ := Path.extension?_of_foldCase h.symm he'
  obtain ⟨hnone, hentries⟩ := hu ext he
  exact ⟨fun l hl => hnone l (hl.of_foldCase hext),
    fun entry hm hk => hentries entry hm (hk.of_foldCase hext)⟩

theorem Resolves.of_foldCase (h : foldCase path' = foldCase path) {asked : Option Text}
    {answer : Except Failure Language} (hr : settings.Resolves path asked answer) :
    settings.Resolves path' asked (answer.mapError (Failure.concerning path')) := by
  cases hr with
  | asked hname =>
      rw [hname.mapError_concerning]
      exact .asked hname
  | builtIn he hl =>
      obtain ⟨ext', he', hext⟩ := Path.extension?_of_foldCase h he
      exact .builtIn he' (hl.of_foldCase hext)
  | configured he hnone hf hname =>
      obtain ⟨ext', he', hext⟩ := Path.extension?_of_foldCase h he
      rw [hname.mapError_concerning]
      exact .configured he' (fun l hl => hnone l (hl.of_foldCase hext.symm))
        (hf.of_foldCase hext) hname
  | byDefault hu hd hname =>
      rw [hname.mapError_concerning]
      exact .byDefault (hu.of_foldCase h) hd hname
  | undetermined hu hd => exact .undetermined (hu.of_foldCase h) hd

end Settings

end Case

namespace TokensRequest

variable {request : TokensRequest} {settings : Settings} {path : Text}

theorem fileTokens_of_error {failure : Failure}
    (h : resolveLanguage request.language settings path = .error failure) (disk : Disk) :
    request.fileTokens settings disk path = .error failure := by
  simp only [fileTokens, h]
  rfl

theorem language_fileTokens {l : Language}
    (h : resolveLanguage request.language settings path = .ok l) (disk : Disk) :
    (request.fileTokens settings disk path).map FileTokens.language =
      ((disk path).mapError (.unreadable path)).map fun _ => l := by
  simp only [fileTokens, h]
  cases disk path <;> rfl

end TokensRequest

theorem resolveLanguage_by_rank {settings : Settings} (hs : settings.Ordered)
    (request : TokensRequest) (path : Text) :
    (∀ answer, settings.Resolves path request.language answer ↔
        resolveLanguage request.language settings path = answer) ∧
      (∀ failure, settings.Resolves path request.language (.error failure) →
        ∀ disk, request.fileTokens settings disk path = .error failure) ∧
      (∀ l, settings.Resolves path request.language (.ok l) → ∀ disk,
        (request.fileTokens settings disk path).map FileTokens.language =
          ((disk path).mapError (.unreadable path)).map fun _ => l) ∧
      (∀ other : Settings, other.Ordered → settings.AgreeOn other path request.language →
        resolveLanguage request.language other path =
          resolveLanguage request.language settings path) ∧
      ∀ path', foldCase path' = foldCase path →
        resolveLanguage request.language settings path' =
          (resolveLanguage request.language settings path).mapError (.concerning path') := by
  refine ⟨fun answer => Settings.resolves_iff hs,
    fun failure h disk => TokensRequest.fileTokens_of_error (h.eq hs) disk,
    fun l h disk => TokensRequest.language_fileTokens (h.eq hs) disk,
    fun other ho h => h.resolveLanguage_eq hs ho, fun path' h => ?_⟩
  have hr : settings.Resolves path request.language
      (resolveLanguage request.language settings path) := (Settings.resolves_iff hs).mpr rfl
  exact (hr.of_foldCase h).eq hs

def twoKeys : Settings where
  defaultLanguage := some "python".toList
  extensions := [("..ino".toList, " C".toList), (".INO".toList, "cobol".toList)]

theorem resolveLanguage_twoKeys :
    twoKeys.Ordered ∧ resolveLanguage none twoKeys "blink.Ino".toList = .ok .c := by
  have hs : twoKeys.Ordered := by decide
  have he : Path.extension? "blink.Ino".toList = some "Ino".toList := by decide
  have hnone (l : Language) : ¬ l.UsesExtension "Ino".toList :=
    (Language.ofExtension?_eq_none_iff (by decide)).mp (by decide) l
  have hfirst : twoKeys.FirstEntry "Ino".toList "..ino".toList " C".toList :=
    { listed := by decide
      isKey := ⟨2, "ino".toList, by decide, by decide, by decide⟩
      first := fun entry hm _ => by
        rcases List.mem_cons.mp hm with rfl | hm
        · exact Or.inl rfl
        · obtain rfl := List.mem_singleton.mp hm
          exact Or.inr (utf8_lt_iff.mpr (by decide)) }
  have hc : Language.Answers " C".toList (.ok .c) :=
    .known (Language.ofName?_eq_some_iff.mp (by decide))
  exact ⟨hs, ((resolveLanguage_by_rank hs { files := [] } "blink.Ino".toList).1 _).mp
    (.configured he hnone hfirst hc)⟩

end LexicalGrammar
