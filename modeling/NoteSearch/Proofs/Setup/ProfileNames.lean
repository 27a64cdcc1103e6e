-- SUMMARY: The listed names are those of the profile files, each once and in order, and the default one.
import Mathlib.Data.List.Nodup
import NoteSearch.Proofs.Files.Volumes
import NoteSearch.Setup.ProfileStore

/-!
# Names of profiles

The file of a profile is its name with an extension, and the name is what is left of the file name
without it. So each profile file has a name of its own, and a name is listed exactly if there is a
file at the path that the name gives, or if it is the name of the default profile.
-/

namespace NoteSearch.ProfileStore

open Files Volume

variable {v : Volume} {dir : FilePath} {name file : String}

/-! ## Names of files -/

theorem isName_profiles : FilePath.IsName "profiles" :=
  ⟨by decide, by decide, by decide, by decide⟩

theorem isName_current : FilePath.IsName "current" := ⟨by decide, by decide, by decide, by decide⟩

/-- What a name is followed by in the name of its file. -/
theorem toList_toml (name : String) :
    (name ++ ".toml").toList = name.toList ++ '.' :: ['t', 'o', 'm', 'l'] :=
  String.toList_append

theorem isName_toml (h : '/' ∉ name.toList) : FilePath.IsName (name ++ ".toml") := by
  have hlong : 5 ≤ (name ++ ".toml").toList.length := by simp
  refine ⟨?_, ?_, ?_, ?_⟩
  · intro hname
    simp [hname] at hlong
  · intro hname
    simp [hname] at hlong
  · intro hname
    simp [hname] at hlong
  · simp [h]

/-- A file name gives back the name that it was made of, unless this is empty. -/
theorem nameOfFile?_eq_some_iff :
    nameOfFile? file = some name ↔ name ≠ "" ∧ file = name ++ ".toml" := by
  constructor
  · intro h
    unfold nameOfFile? at h
    split at h
    · rename_i stem hsplit
      obtain ⟨-, hstem, -, hfile⟩ := FilePath.splitName_eq_iff.1 hsplit
      obtain rfl : String.ofList stem = name := Option.some.inj h
      refine ⟨fun hempty => hstem ?_, ?_⟩
      · rw [← String.toList_ofList (l := stem), hempty]
        rfl
      · rw [← String.toList_inj, toList_toml, String.toList_ofList, hfile]
    · cases h
  · rintro ⟨hne, rfl⟩
    have hsplit : FilePath.splitName (name ++ ".toml").toList =
        (name.toList, some ['t', 'o', 'm', 'l']) := by
      refine FilePath.splitName_eq_iff.2 ⟨by decide, mt String.toList_eq_nil_iff.1 hne, ?_,
        toList_toml name⟩
      intro hdots
      have hlength := congrArg List.length (toList_toml name ▸ hdots)
      simp at hlength
    simp only [nameOfFile?, hsplit, String.ofList_toList]

/-! ## Files of profiles -/

/-- Whether a regular file holds the profile of a name. -/
def HasFile (v : Volume) (dir : FilePath) (name : String) : Prop :=
  ∃ text, v.stat? (profilePath dir name) = some (.file text)

theorem nameAt?_eq_some_iff : nameAt? v (profilesPath dir) file = some name ↔
    name ≠ "" ∧ file = name ++ ".toml" ∧ HasFile v dir name := by
  unfold nameAt?
  constructor
  · intro h
    split at h
    · rename_i text hstat
      obtain ⟨hne, rfl⟩ := nameOfFile?_eq_some_iff.1 h
      exact ⟨hne, rfl, text, hstat⟩
    · cases h
  · rintro ⟨hne, rfl, text, hstat⟩
    have hstat : v.stat? ((profilesPath dir).join ⟨name ++ ".toml"⟩) = some (.file text) := hstat
    rw [hstat]
    exact nameOfFile?_eq_some_iff.2 ⟨hne, rfl⟩

/-- The file of a profile is an entry of the directory of profiles. -/
theorem HasFile.mem_namesIn (h : HasFile v dir name) (hslash : '/' ∉ name.toList) :
    v.stat? (profilesPath dir) = some .directory ∧
      name ++ ".toml" ∈ v.namesIn (v.destination (profilesPath dir)) := by
  obtain ⟨text, hstat⟩ := h
  obtain ⟨hreaches, hfind⟩ := stat?_eq_some_iff.1 hstat
  rw [profilePath, destination_join v _ (isName_toml hslash)] at hfind
  have hdir := hreaches.of_join (isName_toml hslash)
    (FilePath.join_text_ne_empty dir isName_profiles)
  exact ⟨stat?_eq_some_iff.2 hdir, Volume.mem_namesIn hfind⟩

/-! ## Lists of names -/

/-- Unless a file has taken the place of the directory of profiles, the files of profiles can be
listed, and each gives a name of its own. -/
theorem keptNames_spec (h : ∀ text, v.stat? (profilesPath dir) ≠ some (.file text)) :
    ∃ kept, keptNames v dir = .ok kept ∧ kept.Nodup ∧
      ∀ name, name ≠ "" → '/' ∉ name.toList → (name ∈ kept ↔ HasFile v dir name) := by
  unfold keptNames
  cases hstat : v.stat? (profilesPath dir) with
  | none =>
    have hcontains : v.contains (profilesPath dir) = false := by rw [contains, hstat]; rfl
    refine ⟨[], by simp [hcontains], List.nodup_nil, fun name _ hslash => ?_⟩
    simp only [List.not_mem_nil, false_iff]
    intro hfile
    rw [(hfile.mem_namesIn hslash).1] at hstat
    cases hstat
  | some entry =>
    cases entry with
    | file text => exact absurd hstat (h text)
    | directory =>
      have hcontains : v.contains (profilesPath dir) = true := by rw [contains, hstat]; rfl
      refine ⟨(v.namesIn (v.destination (profilesPath dir))).filterMap
          (nameAt? v (profilesPath dir)),
        by simp [hcontains, list?_of_stat? hstat], ?_, fun name hne hslash => ?_⟩
      · refine (nodup_namesIn v _).filterMap fun a b name ha hb => ?_
        obtain ⟨-, rfl, -⟩ := nameAt?_eq_some_iff.1 ha
        obtain ⟨-, rfl, -⟩ := nameAt?_eq_some_iff.1 hb
        rfl
      · simp only [List.mem_filterMap, nameAt?_eq_some_iff]
        constructor
        · rintro ⟨file, -, -, -, hfile⟩
          exact hfile
        · intro hfile
          exact ⟨_, (hfile.mem_namesIn hslash).2, hne, rfl, hfile⟩

theorem mem_withDefault {names : List String} :
    name ∈ withDefault names ↔ name = defaultProfile ∨ name ∈ names := by
  unfold withDefault
  split
  · rename_i hmem
    refine ⟨.inr, ?_⟩
    rintro (rfl | h)
    · exact hmem
    · exact h
  · rw [List.mem_append, List.mem_singleton, or_comm]

theorem nodup_withDefault {names : List String} (h : names.Nodup) : (withDefault names).Nodup := by
  unfold withDefault
  split
  · exact h
  · rename_i hmem
    rw [List.nodup_append]
    refine ⟨h, List.nodup_singleton _, ?_⟩
    rintro a ha b hb rfl
    exact hmem (List.mem_singleton.1 hb ▸ ha)

/-- Sorting a list without repetitions puts it into strictly increasing order. -/
theorem pairwise_mergeSort_of_nodup {names : List String} (h : names.Nodup) :
    (names.mergeSort (· ≤ ·)).Pairwise (· < ·) := by
  have hsorted : (names.mergeSort (· ≤ ·)).Pairwise (fun a b => decide (a ≤ b) = true) := by
    refine List.pairwise_mergeSort (fun a b c hab hbc => ?_) (fun a b => ?_) names
    · simp only [decide_eq_true_eq] at hab hbc ⊢
      exact String.le_trans hab hbc
    · simpa using String.le_total a b
  refine hsorted.imp₂ (fun a b hle hne => ?_) (List.nodup_mergeSort.2 h)
  exact Std.lt_of_le_of_ne (of_decide_eq_true hle) hne

/-- The listed names are the default one and those that a file is kept under, in order. -/
theorem names_spec (h : ∀ text, v.stat? (profilesPath dir) ≠ some (.file text)) :
    ∃ listed, names v dir = .ok listed ∧ listed.Pairwise (· < ·) ∧
      ∀ name, name ≠ "" → '/' ∉ name.toList →
        (name ∈ listed ↔ name = defaultProfile ∨ HasFile v dir name) := by
  obtain ⟨kept, hkept, hnodup, hmem⟩ := keptNames_spec h
  refine ⟨(withDefault kept).mergeSort (· ≤ ·), by rw [names, hkept]; rfl,
    pairwise_mergeSort_of_nodup (nodup_withDefault hnodup), fun name hne hslash => ?_⟩
  rw [List.mem_mergeSort, mem_withDefault, hmem name hne hslash]

end NoteSearch.ProfileStore
