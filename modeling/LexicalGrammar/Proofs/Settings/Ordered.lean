import LexicalGrammar.Settings.Load
import LexicalGrammar.Vocabulary

namespace LexicalGrammar

def Increasing (entries : List (Text × Text)) : Prop :=
  (entries.map Prod.fst).Pairwise (precedes · ·)

theorem increasing_nil : Increasing [] := List.Pairwise.nil

namespace Datum

theorem map_fst_placeEntry (entry : Text × Text) (entries : List (Text × Text)) :
    (placeEntry entry entries).map Prod.fst = Vocabulary.place entry.1 (entries.map Prod.fst) := by
  induction entries with
  | nil => rfl
  | cons e entries ih =>
      rw [placeEntry, List.map_cons, Vocabulary.place]
      split
      · next heq => rw [List.map_cons, heq]
      · split
        · rfl
        · rw [List.map_cons, ih]

theorem increasing_placeEntry {entry : Text × Text} {entries : List (Text × Text)}
    (h : Increasing entries) : Increasing (placeEntry entry entries) := by
  rw [Increasing, map_fst_placeEntry]
  exact Vocabulary.increasing_place h

theorem increasing_of_foldlM {fields : List (Text × Datum)} {before after : List (Text × Text)}
    (hb : Increasing before)
    (h : fields.foldlM (fun entries field => do
      return placeEntry (field.1, ← field.2.text?) entries) before = some after) :
    Increasing after := by
  induction fields generalizing before with
  | nil => exact Option.some.inj h ▸ hb
  | cons field fields ih =>
      rw [List.foldlM_cons] at h
      obtain ⟨next, hnext, hrest⟩ := Option.bind_eq_some_iff.mp h
      obtain ⟨text, -, hplaced⟩ := Option.bind_eq_some_iff.mp hnext
      exact ih (Option.some.inj hplaced ▸ increasing_placeEntry hb) hrest

theorem increasing_of_texts? {d : Datum} {entries : List (Text × Text)}
    (h : d.texts? = some entries) : Increasing entries := by
  cases d with
  | table fields => exact increasing_of_foldlM increasing_nil h
  | _ => simp [texts?] at h

end Datum

namespace Settings

def Ordered (s : Settings) : Prop := Increasing s.extensions

instance (s : Settings) : Decidable s.Ordered :=
  inferInstanceAs (Decidable ((s.extensions.map Prod.fst).Pairwise (precedes · ·)))

theorem ordered_default : ({} : Settings).Ordered := increasing_nil

theorem ordered_of_settings? {dialect : Dialect} {d : Datum} {s : Settings}
    (h : d.settings? dialect = some s) : s.Ordered := by
  obtain ⟨fields, -, h⟩ := Option.bind_eq_some_iff.mp h
  split at h
  · next verbose defaultLanguage extensions output =>
    obtain ⟨_, -, h⟩ := Option.bind_eq_some_iff.mp h
    obtain ⟨_, -, h⟩ := Option.bind_eq_some_iff.mp h
    obtain ⟨entries, hentries, h⟩ := Option.bind_eq_some_iff.mp h
    obtain ⟨_, -, h⟩ := Option.bind_eq_some_iff.mp h
    obtain rfl := Option.some.inj h
    cases extensions with
    | none => exact Option.some.inj hentries ▸ increasing_nil
    | some d => exact Datum.increasing_of_texts? hentries
  · simp at h

theorem ordered_of_load {disk : Disk} {path : Text} {s : Settings}
    (h : load disk path = .ok s) : s.Ordered := by
  simp only [load] at h
  split at h
  · split at h
    · simp at h
    · next text _ =>
      cases hs : ofToml? text with
      | none => simp [hs] at h
      | some read =>
          obtain ⟨d, -, hread⟩ := Option.bind_eq_some_iff.mp hs
          have hsame : read = s := by simpa [hs] using h
          exact hsame ▸ ordered_of_settings? hread
  · simp at h

theorem ordered_of_find {places : Places} {named : Option Text} {s : Settings}
    (h : find places named = .ok s) : s.Ordered := by
  cases named with
  | some path => exact ordered_of_load h
  | none =>
      simp only [find] at h
      split at h
      · exact ordered_of_load h
      · exact Except.ok.inj h ▸ ordered_default

end Settings

end LexicalGrammar
