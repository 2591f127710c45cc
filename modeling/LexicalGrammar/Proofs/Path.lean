import LexicalGrammar.Language.Basic
import LexicalGrammar.Path

namespace LexicalGrammar

theorem toLower_eq_iff {c mark : Char} (hm : mark.toNat < 65) : c.toLower = mark ↔ c = mark := by
  by_cases h : c.val ≥ 'A'.val ∧ c.val ≤ 'Z'.val
  · have hA : 65 ≤ c.toNat := h.1
    have hZ : c.toNat ≤ 90 := h.2
    have hlow : c.toLower.toNat = c.toNat + 32 := by
      have hval : c.toLower.val = c.val + 32 := congrArg Char.val (dif_pos h)
      have hc : c.val.toNat = c.toNat := rfl
      have hstep : (32 : UInt32).toNat = 32 := rfl
      rw [Char.toNat, hval, UInt32.toNat_add, hstep, hc]
      omega
    constructor
    · rintro rfl
      omega
    · rintro rfl
      omega
  · rw [show c.toLower = c from dif_neg h]

theorem foldCase_eq_points_iff {text : Text} {n : Nat} :
    foldCase text = List.replicate n '.' ↔ text = List.replicate n '.' := by
  have hpoint (c : Char) : c.toLower = '.' ↔ c = '.' := toLower_eq_iff (by decide)
  simp [List.eq_replicate_iff, foldCase, hpoint]

theorem dropPoint_of_not_mem {ext : Text} (h : '.' ∉ ext) : dropPoint ext = ext := by
  cases ext with
  | nil => rfl
  | cons c rest =>
      have hc : c ≠ '.' := fun hc => h (hc ▸ List.mem_cons_self ..)
      simp [dropPoint, hc]

namespace Path

theorem afterLastPoint?_eq_none_iff {name : Text} : afterLastPoint? name = none ↔ '.' ∉ name := by
  induction name with
  | nil => simp [afterLastPoint?]
  | cons c rest ih =>
      rw [afterLastPoint?, Option.or_eq_none_iff, ih, List.mem_cons, not_or, and_comm]
      simp [eq_comm]

theorem afterLastPoint?_eq_some_iff {name ext : Text} :
    afterLastPoint? name = some ext ↔ ∃ stem, name = stem ++ '.' :: ext ∧ '.' ∉ ext := by
  constructor
  · intro h
    induction name generalizing ext with
    | nil => simp [afterLastPoint?] at h
    | cons c rest ih =>
        rw [afterLastPoint?] at h
        rcases Option.or_eq_some_iff.mp h with h | ⟨hnone, h⟩
        · obtain ⟨stem, rfl, hext⟩ := ih h
          exact ⟨c :: stem, rfl, hext⟩
        · obtain ⟨rfl, rfl⟩ := by simpa using h
          exact ⟨[], rfl, afterLastPoint?_eq_none_iff.mp hnone⟩
  · rintro ⟨stem, rfl, hext⟩
    induction stem with
    | nil => simp [afterLastPoint?, afterLastPoint?_eq_none_iff.mpr hext]
    | cons c stem ih => simp [afterLastPoint?, ih]

theorem extension?_eq_some_iff {path ext : Text} :
    extension? path = some ext ↔
      ∃ stem, stem ≠ [] ∧ fileName? path = some (stem ++ '.' :: ext) ∧ '.' ∉ ext := by
  rw [extension?, Option.bind_eq_some_iff]
  constructor
  · rintro ⟨name, hname, h⟩
    cases name with
    | nil => simp [extensionOfName?] at h
    | cons c rest =>
        obtain ⟨stem, rfl, hext⟩ := afterLastPoint?_eq_some_iff.mp h
        exact ⟨c :: stem, List.cons_ne_nil _ _, hname, hext⟩
  · rintro ⟨stem, hstem, hname, hext⟩
    obtain ⟨c, stem, rfl⟩ := List.exists_cons_of_ne_nil hstem
    exact ⟨_, hname, afterLastPoint?_eq_some_iff.mpr ⟨stem, rfl, hext⟩⟩

theorem point_not_mem_of_extension? {path ext : Text} (h : extension? path = some ext) :
    '.' ∉ ext := by
  obtain ⟨_, _, _, hext⟩ := extension?_eq_some_iff.mp h
  exact hext

theorem splitOn_foldCase (path : Text) :
    splitOn '/' (foldCase path) = (splitOn '/' path).map foldCase := by
  induction path with
  | nil => rfl
  | cons c rest ih =>
      have hc : foldCase (c :: rest) = c.toLower :: foldCase rest := rfl
      have hsep : c.toLower = '/' ↔ c = '/' := toLower_eq_iff (by decide)
      rw [hc, splitOn, splitOn, ih]
      by_cases h : c = '/'
      · rw [if_pos (hsep.mpr h), if_pos h]
        rfl
      · rw [if_neg (mt hsep.mp h), if_neg h]
        cases splitOn '/' rest <;> rfl

theorem components_foldCase (path : Text) :
    components (foldCase path) = (components path).map foldCase := by
  rw [components, components, splitOn_foldCase, List.filter_map]
  congr 2
  funext part
  have hempty : foldCase part = [] ↔ part = [] := foldCase_eq_points_iff (n := 0)
  have hpoint : foldCase part = ['.'] ↔ part = ['.'] := foldCase_eq_points_iff (n := 1)
  simp [hempty, hpoint]

theorem fileName?_foldCase (path : Text) :
    fileName? (foldCase path) = (fileName? path).map foldCase := by
  rw [fileName?, fileName?, components_foldCase, List.getLast?_map, Option.filter_map]
  congr 2
  funext part
  have hpoints : foldCase part = ['.', '.'] ↔ part = ['.', '.'] := foldCase_eq_points_iff (n := 2)
  simp [hpoints]

theorem afterLastPoint?_foldCase (name : Text) :
    afterLastPoint? (foldCase name) = (afterLastPoint? name).map foldCase := by
  induction name with
  | nil => rfl
  | cons c rest ih =>
      have hc : foldCase (c :: rest) = c.toLower :: foldCase rest := rfl
      have hpoint : c.toLower = '.' ↔ c = '.' := toLower_eq_iff (by decide)
      rw [hc, afterLastPoint?, afterLastPoint?, ih, Option.map_or]
      congr 1
      by_cases h : c = '.'
      · rw [if_pos (hpoint.mpr h), if_pos h]
        rfl
      · rw [if_neg (mt hpoint.mp h), if_neg h]
        rfl

theorem extension?_foldCase (path : Text) :
    extension? (foldCase path) = (extension? path).map foldCase := by
  rw [extension?, extension?, fileName?_foldCase]
  cases fileName? path with
  | none => rfl
  | some name =>
      cases name with
      | nil => rfl
      | cons c rest => exact afterLastPoint?_foldCase rest

theorem extension?_of_foldCase {path path' ext : Text} (h : foldCase path' = foldCase path)
    (he : extension? path = some ext) :
    ∃ ext', extension? path' = some ext' ∧ foldCase ext' = foldCase ext := by
  have hsame : (extension? path').map foldCase = some (foldCase ext) := by
    rw [← extension?_foldCase, h, extension?_foldCase, he]
    rfl
  exact Option.map_eq_some_iff.mp hsame

end Path

end LexicalGrammar
