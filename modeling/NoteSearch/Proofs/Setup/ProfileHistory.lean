-- SUMMARY: What a store of profiles tells after any history: the files that are there, and the name set last.
import NoteSearch.Proofs.Setup.ProfileNames
import NoteSearch.Proofs.Text.Trimmed

/-!
# Histories of a profile store

Profiles are saved, one after another is marked as the current one, and others change files at the
same time. They may do what they like below the directory of profiles, and elsewhere too as long as
they leave the marker alone, do not put a file where the directory of profiles belongs, and leave
the directories that the path of the store comes through. After any such history the listed names
are those of the files that are there, and the current profile is the one that was marked last.

There is one thing that the store itself can put in the way of its marker: a directory. It does if
its own path comes through the place of the marker, since the directories on this path are made.
-/

namespace NoteSearch.ProfileStore

open Files Volume

variable {v w : Volume} {dir : FilePath} {name : String} {place : Place}

/-! ## Changes that spare the store -/

/-- A name that a profile can have. -/
structure IsProfileName (name : String) : Prop where
  trimmed : Text.IsTrimmed name
  no_slash : '/' ∉ name.toList
  no_nul : '\x00' ∉ name.toList

theorem IsProfileName.ne_empty (h : IsProfileName name) : name ≠ "" := by
  rintro rfl
  exact absurd (Text.isTrimmed_iff.1 h.trimmed).1 (by decide)

/-- No file takes the place of the directory of profiles. -/
structure SparesProfiles (dir : FilePath) (v w : Volume) : Prop where
  workingDirectory : w.workingDirectory = v.workingDirectory
  profiles : ∀ text, w.find? (v.destination (profilesPath dir)) = some (.file text) →
    v.find? (v.destination (profilesPath dir)) = some (.file text)

/-- Besides, the marker is left as it is, and the directories on the way to the store are. -/
structure SparesStore (dir : FilePath) (v w : Volume) : Prop extends SparesProfiles dir v w where
  marker : w.find? (v.destination (currentPath dir)) = v.find? (v.destination (currentPath dir))
  ways : ∀ place, v.ComesThrough dir place → v.find? place = some .directory →
    w.find? place = some .directory

/-- Whether the path of the store comes through the place of its marker. -/
def PassesMarker (v : Volume) (dir : FilePath) : Prop :=
  v.ComesThrough dir (v.destination (currentPath dir))

instance (v : Volume) (dir : FilePath) : Decidable (PassesMarker v dir) :=
  inferInstanceAs (Decidable (v.ComesThrough dir _))

theorem destination_profilesPath (v : Volume) (dir : FilePath) :
    v.destination (profilesPath dir) = v.destination dir ++ ["profiles"] :=
  destination_join v dir isName_profiles

theorem destination_currentPath (v : Volume) (dir : FilePath) :
    v.destination (currentPath dir) = v.destination dir ++ ["current"] :=
  destination_join v dir isName_current

theorem destination_profilePath (v : Volume) (dir : FilePath) (h : '/' ∉ name.toList) :
    v.destination (profilePath dir name) = v.destination (profilesPath dir) ++ [name ++ ".toml"] :=
  destination_join v _ (isName_toml h)

theorem destination_profilesPath_ne (v : Volume) (dir : FilePath) :
    v.destination (profilesPath dir) ≠ v.destination (currentPath dir) := by
  simp [destination_profilesPath, destination_currentPath]

theorem SparesProfiles.trans {u : Volume} (h : SparesProfiles dir v w)
    (k : SparesProfiles dir w u) : SparesProfiles dir v u where
  workingDirectory := k.workingDirectory.trans h.workingDirectory
  profiles text hfile := by
    have hsame := destination_congr h.workingDirectory (profilesPath dir)
    exact h.profiles text (hsame ▸ k.profiles text (hsame.symm ▸ hfile))

theorem SparesStore.trans {u : Volume} (h : SparesStore dir v w) (k : SparesStore dir w u) :
    SparesStore dir v u where
  toSparesProfiles := h.toSparesProfiles.trans k.toSparesProfiles
  marker := by
    have hsame := destination_congr h.workingDirectory (currentPath dir)
    exact (hsame ▸ k.marker).trans h.marker
  ways place hway hdir :=
    k.ways place ((comesThrough_congr h.workingDirectory dir place).2 hway) (h.ways place hway hdir)

theorem sparesProfiles_of_grows {may : Place → Prop} (h : Grows may v w) : SparesProfiles dir v w :=
  ⟨h.workingDirectory, fun _ hfile => h.find?_eq_file_iff.1 hfile⟩

theorem sparesStore_of_grows {may : Place → Prop} (h : Grows may v w)
    (hmay : ¬ may (v.destination (currentPath dir))) : SparesStore dir v w where
  toSparesProfiles := sparesProfiles_of_grows h
  marker := by
    cases hbefore : v.find? (v.destination (currentPath dir)) with
    | none => exact h.find?_eq_none hbefore hmay
    | some entry => exact h.keeps _ _ hbefore
  ways place _ hdir := h.keeps place _ hdir

theorem sparesProfiles_put (hplace : v.find? place ≠ some .directory)
    (hprofiles : place ≠ v.destination (profilesPath dir)) (entry : Entry) :
    SparesProfiles dir v (v.put place entry) := by
  refine ⟨rfl, fun text hfile => ?_⟩
  rwa [find?_put v (ne_root_of_find? hplace), if_neg hprofiles.symm] at hfile

theorem sparesStore_put (hplace : v.find? place ≠ some .directory)
    (hprofiles : place ≠ v.destination (profilesPath dir))
    (hmarker : place ≠ v.destination (currentPath dir)) (entry : Entry) :
    SparesStore dir v (v.put place entry) where
  toSparesProfiles := sparesProfiles_put hplace hprofiles entry
  marker := by rw [find?_put v (ne_root_of_find? hplace), if_neg hmarker.symm]
  ways _ _ hdir := find?_directory_put hplace entry hdir

/-! ## Saving a profile -/

/-- A profile that is saved is written into a file of the directory of profiles, which is made
first. -/
theorem save_cases (profile : Profile) (v : Volume) (dir : FilePath) (h : '/' ∉ name.toList) :
    let made := (v.makePath (profilesPath dir)).1
    let saved := profile.save v (profilePath dir name)
    (saved.1 = v ∨ saved.1 = made) ∧ saved.2 ≠ none ∨
    ∃ text, profile.toText? = some text ∧ made.write (profilePath dir name) text = .ok saved.1 ∧
      saved.2 = none := by
  intro made saved
  have hparent : v.makeParent (profilePath dir name) = v.makePath (profilesPath dir) := by
    rw [makeParent, profilePath, profilesPath,
      FilePath.parent_join dir isName_profiles (isName_toml h)]
  have hsaved : saved = profile.save v (profilePath dir name) := rfl
  unfold Profile.save at hsaved
  rw [hparent] at hsaved
  split at hsaved
  · exact .inl ⟨.inl (by rw [hsaved]), by simp [hsaved]⟩
  · rename_i text htext
    split at hsaved
    · rename_i w fault hmade
      exact .inl ⟨.inr (by simp [hsaved, made, hmade]), by simp [hsaved]⟩
    · rename_i w hmade
      obtain rfl : made = w := congrArg Prod.fst hmade
      split at hsaved
      · rename_i u hwrite
        exact .inr ⟨text, htext, by rw [hwrite, hsaved], by rw [hsaved]⟩
      · exact .inl ⟨.inr (by rw [hsaved]), by simp [hsaved]⟩

theorem sparesProfiles_save (profile : Profile) (v : Volume) (dir : FilePath)
    (h : '/' ∉ name.toList) :
    SparesProfiles dir v (profile.save v (profilePath dir name)).1 := by
  have hmakes : SparesProfiles dir v (v.makePath (profilesPath dir)).1 :=
    sparesProfiles_of_grows (.makePath v _)
  rcases save_cases profile v dir h with ⟨hsame | hmade, -⟩ | ⟨text, -, hwrite, -⟩
  · rw [hsame]
    exact ⟨rfl, fun _ hfile => hfile⟩
  · rw [hmade]
    exact hmakes
  · obtain ⟨-, hfree, hsaved⟩ := write_eq_ok_iff.1 hwrite
    rw [hsaved]
    refine hmakes.trans (sparesProfiles_put hfree ?_ _)
    simp [destination_profilePath _ dir h]

/-- The path to the profiles comes through the marker only if that to the store does. -/
theorem not_comesThrough_profilesPath (h : ¬ PassesMarker v dir) :
    ¬ v.ComesThrough (profilesPath dir) (v.destination (currentPath dir)) := by
  rw [profilesPath, comesThrough_join isName_profiles, not_or]
  refine ⟨h, ?_⟩
  simp [destination_currentPath]

theorem sparesStore_save (profile : Profile) (h : '/' ∉ name.toList) (hdir : ¬ PassesMarker v dir) :
    SparesStore dir v (profile.save v (profilePath dir name)).1 := by
  have hmakes := sparesStore_of_grows (Grows.makePath v (profilesPath dir))
    (not_comesThrough_profilesPath hdir)
  rcases save_cases profile v dir h with ⟨hsame | hmade, -⟩ | ⟨text, -, hwrite, -⟩
  · rw [hsame]
    exact sparesStore_of_grows (Grows.refl v) hdir
  · rw [hmade]
    exact hmakes
  · obtain ⟨-, hfree, hsaved⟩ := write_eq_ok_iff.1 hwrite
    rw [hsaved]
    refine hmakes.trans (sparesStore_put hfree ?_ ?_ _)
    · simp [destination_profilePath _ dir h]
    · intro hsame
      have hlength := congrArg List.length hsame
      simp [destination_profilePath _ dir h, destination_profilesPath, destination_currentPath]
        at hlength

/-- What has been saved is in the file of its name. -/
theorem stat?_save {profile : Profile} (h : '/' ∉ name.toList)
    (hsaved : (profile.save v (profilePath dir name)).2 = none) :
    ∃ text, profile.toText? = some text ∧
      (profile.save v (profilePath dir name)).1.stat? (profilePath dir name) =
        some (.file text) := by
  rcases save_cases profile v dir h with ⟨-, hfailed⟩ | ⟨text, htext, hwrite, -⟩
  · exact absurd hsaved hfailed
  · exact ⟨text, htext, stat?_of_write hwrite⟩

/-! ## Marking the current profile -/

/-- A mark is written into the directory of the store, which is made first. -/
theorem setCurrent_cases (v : Volume) (dir : FilePath) (name : String) :
    let made := (v.makePath dir).1
    let marked := setCurrent v dir name
    marked.1 = made ∧ marked.2 ≠ none ∧
      ((v.makePath dir).2 ≠ none ∨ ∀ w, made.write (currentPath dir) name ≠ .ok w) ∨
    (v.makePath dir).2 = none ∧ made.write (currentPath dir) name = .ok marked.1 ∧
      marked.2 = none := by
  intro made marked
  have hmarked : marked = setCurrent v dir name := rfl
  unfold setCurrent at hmarked
  split at hmarked
  · rename_i w fault hmade
    exact .inl ⟨by simp [hmarked, made, hmade], by simp [hmarked], .inl (by simp [hmade])⟩
  · rename_i w hmade
    obtain rfl : made = w := congrArg Prod.fst hmade
    split at hmarked
    · rename_i u hwrite
      exact .inr ⟨by rw [hmade], by rw [hwrite, hmarked], by rw [hmarked]⟩
    · rename_i fault hwrite
      exact .inl ⟨by rw [hmarked], by simp [hmarked], .inr (by simp [hwrite])⟩

theorem sparesProfiles_setCurrent (v : Volume) (dir : FilePath) (name : String) :
    SparesProfiles dir v (setCurrent v dir name).1 := by
  have hmakes : SparesProfiles dir v (v.makePath dir).1 := sparesProfiles_of_grows (.makePath v dir)
  rcases setCurrent_cases v dir name with ⟨hmade, -, -⟩ | ⟨-, hwrite, -⟩
  · rw [hmade]
    exact hmakes
  · obtain ⟨-, hfree, hmarked⟩ := write_eq_ok_iff.1 hwrite
    rw [hmarked]
    exact hmakes.trans (sparesProfiles_put hfree (destination_profilesPath_ne _ dir).symm _)

/-! ## Histories -/

/-- What happens to the files of a store. -/
inductive Deed where
  | save (name : String) (profile : Profile)
  | setCurrent (name : String)
  /-- Others change files and directories, and this is what they leave. -/
  | others (volume : Volume)

/-- What a deed makes of a volume, and why it failed, if it did. -/
def Deed.perform (dir : FilePath) (v : Volume) : Deed → Volume × Option StoreFailure
  | save name profile => profile.save v (profilePath dir name)
  | setCurrent name => ProfileStore.setCurrent v dir name
  | others w => (w, none)

@[simp] theorem Deed.perform_save (v : Volume) (name : String) (profile : Profile) :
    (Deed.save name profile).perform dir v = profile.save v (profilePath dir name) := rfl

@[simp] theorem Deed.perform_setCurrent (v : Volume) (name : String) :
    (Deed.setCurrent name).perform dir v = ProfileStore.setCurrent v dir name := rfl

@[simp] theorem Deed.perform_others (v w : Volume) :
    (Deed.others w).perform dir v = (w, none) := rfl

/-- The name that a deed marks as the current one, if it does not fail. -/
def Deed.name? : Deed → Option String
  | setCurrent name => some name
  | _ => none

def Deed.IsFair (dir : FilePath) (v : Volume) : Deed → Prop
  | save name _ => IsProfileName name
  | setCurrent name => IsProfileName name
  | others w => SparesStore dir v w

/-- A volume, and the name that was marked last without a failure. -/
structure Course where
  volume : Volume
  marked : Option String := none

def Course.step (dir : FilePath) (c : Course) (d : Deed) : Course :=
  match d.perform dir c.volume with
  | (v, none) => ⟨v, d.name?.or c.marked⟩
  | (v, some _) => ⟨v, c.marked⟩

def Course.run (dir : FilePath) (c : Course) (deeds : List Deed) : Course :=
  deeds.foldl (Course.step dir) c

def AreFair (dir : FilePath) : Course → List Deed → Prop
  | _, [] => True
  | c, d :: deeds => d.IsFair dir c.volume ∧ AreFair dir (c.step dir d) deeds

theorem AreFair.concat {c : Course} {deeds : List Deed} {d : Deed} (h : AreFair dir c deeds)
    (hd : d.IsFair dir (c.run dir deeds).volume) : AreFair dir c (deeds ++ [d]) := by
  induction deeds generalizing c with
  | nil => exact ⟨hd, trivial⟩
  | cons first deeds ih => exact ⟨h.1, ih h.2 hd⟩

theorem Course.step_of_done {c : Course} {d : Deed} (h : (d.perform dir c.volume).2 = none) :
    c.step dir d = ⟨(d.perform dir c.volume).1, d.name?.or c.marked⟩ := by
  unfold Course.step
  split
  · rename_i hperform
    rw [hperform]
  · rename_i hperform
    rw [hperform] at h
    cases h

theorem Course.step_of_failed {c : Course} {d : Deed} (h : (d.perform dir c.volume).2 ≠ none) :
    c.step dir d = ⟨(d.perform dir c.volume).1, c.marked⟩ := by
  unfold Course.step
  split
  · rename_i hperform
    rw [hperform] at h
    exact absurd rfl h
  · rename_i hperform
    rw [hperform]

theorem Course.volume_step (dir : FilePath) (c : Course) (d : Deed) :
    (c.step dir d).volume = (d.perform dir c.volume).1 := by
  by_cases h : (d.perform dir c.volume).2 = none
  · rw [Course.step_of_done h]
  · rw [Course.step_of_failed h]

/-! ## The directory of profiles -/

theorem sparesProfiles_step {c : Course} {d : Deed} (h : d.IsFair dir c.volume) :
    SparesProfiles dir c.volume (c.step dir d).volume := by
  rw [Course.volume_step]
  cases d with
  | save name profile =>
    have hname : IsProfileName name := h
    rw [Deed.perform_save]
    exact sparesProfiles_save profile c.volume dir hname.no_slash
  | setCurrent name =>
    rw [Deed.perform_setCurrent]
    exact sparesProfiles_setCurrent c.volume dir name
  | others w =>
    have hspares : SparesStore dir c.volume w := h
    rw [Deed.perform_others]
    exact hspares.toSparesProfiles

theorem sparesProfiles_run {c : Course} {deeds : List Deed} (h : AreFair dir c deeds) :
    SparesProfiles dir c.volume (c.run dir deeds).volume := by
  induction deeds generalizing c with
  | nil => exact ⟨rfl, fun _ hfile => hfile⟩
  | cons d deeds ih => exact (sparesProfiles_step h.1).trans (ih h.2)

/-! ## The marker -/

/-- The marker is where it belongs and has the name that was marked last. -/
structure Tells (dir : FilePath) (c : Course) : Prop where
  way : ¬ PassesMarker c.volume dir
  unmarked : c.marked = none → c.volume.find? (c.volume.destination (currentPath dir)) = none
  marked : ∀ name ∈ c.marked, Text.IsTrimmed name ∧
    c.volume.stat? (currentPath dir) = some (.file name)

theorem Tells.not_directory {c : Course} (h : Tells dir c) :
    c.volume.find? (c.volume.destination (currentPath dir)) ≠ some .directory := by
  cases hmarked : c.marked with
  | none => simp [h.unmarked hmarked]
  | some name => simp [(stat?_eq_some_iff.1 (h.marked name hmarked).2).2]

theorem passesMarker_congr (hcwd : w.workingDirectory = v.workingDirectory) :
    PassesMarker w dir ↔ PassesMarker v dir := by
  rw [PassesMarker, comesThrough_congr hcwd, destination_congr hcwd, PassesMarker]

/-- A marker that is a file stays within reach while the directories on the way to the store do. -/
theorem stat?_currentPath_of_spares (h : SparesStore dir v w)
    (hfile : v.stat? (currentPath dir) = some (.file name)) :
    w.stat? (currentPath dir) = some (.file name) := by
  obtain ⟨hreaches, hfind⟩ := stat?_eq_some_iff.1 hfile
  rw [stat?_eq_some_iff, destination_congr h.workingDirectory, h.marker]
  refine ⟨hreaches.of_directories h.workingDirectory fun place hway hdir => ?_, hfind⟩
  rw [currentPath, comesThrough_join isName_current] at hway
  rcases hway with hway | rfl
  · exact h.ways place hway hdir
  · rw [← destination_currentPath, hfind] at hdir
    cases hdir

theorem Tells.spared {m : Option String} (h : Tells dir ⟨v, m⟩) (hspares : SparesStore dir v w) :
    Tells dir ⟨w, m⟩ where
  way := (passesMarker_congr hspares.workingDirectory).not.2 h.way
  unmarked hnone := by
    rw [destination_congr hspares.workingDirectory, hspares.marker]
    exact h.unmarked hnone
  marked name hname :=
    (h.marked name hname).imp_right fun hfile => stat?_currentPath_of_spares hspares hfile

/-- Making the directory of the store does not put anything in the way of its marker. -/
theorem Tells.made {c : Course} (h : Tells dir c) :
    Tells dir ⟨(c.volume.makePath dir).1, c.marked⟩ :=
  h.spared (sparesStore_of_grows (.makePath c.volume dir) h.way)

theorem Tells.setCurrent {c : Course} (h : Tells dir c) (hname : IsProfileName name) :
    Tells dir (c.step dir (.setCurrent name)) := by
  rcases setCurrent_cases c.volume dir name with ⟨hkept, hfailed, -⟩ | ⟨-, hwrite, hdone⟩
  · rw [← Deed.perform_setCurrent] at hfailed
    rw [Course.step_of_failed hfailed, Deed.perform_setCurrent, hkept]
    exact h.made
  · rw [← Deed.perform_setCurrent] at hdone
    rw [Course.step_of_done hdone, Deed.perform_setCurrent]
    have hcwd := congrArg Volume.workingDirectory (write_eq_ok_iff.1 hwrite).2.2
    refine ⟨(passesMarker_congr hcwd).not.2 h.made.way, nofun, ?_⟩
    rintro other ⟨⟩
    exact ⟨hname.trimmed, stat?_of_write hwrite⟩

/-- A deed that marks nothing and spares the store leaves the marker as it is. -/
theorem Tells.unnamed {c : Course} {d : Deed} (h : Tells dir c) (hname : d.name? = none)
    (hspares : SparesStore dir c.volume (d.perform dir c.volume).1) : Tells dir (c.step dir d) := by
  have hstep : c.step dir d = ⟨(d.perform dir c.volume).1, c.marked⟩ := by
    by_cases hdone : (d.perform dir c.volume).2 = none
    · rw [Course.step_of_done hdone, hname, Option.none_or]
    · exact Course.step_of_failed hdone
  rw [hstep]
  exact h.spared hspares

theorem Tells.step {c : Course} {d : Deed} (h : Tells dir c) (hd : d.IsFair dir c.volume) :
    Tells dir (c.step dir d) := by
  cases d with
  | save name profile =>
    have hname : IsProfileName name := hd
    have hspares := sparesStore_save profile hname.no_slash h.way
    rw [← Deed.perform_save] at hspares
    exact h.unnamed rfl hspares
  | setCurrent name => exact h.setCurrent hd
  | others w => exact h.unnamed rfl hd

theorem Tells.run {c : Course} {deeds : List Deed} (h : Tells dir c)
    (hdeeds : AreFair dir c deeds) : Tells dir (c.run dir deeds) := by
  induction deeds generalizing c with
  | nil => exact h
  | cons d deeds ih => exact ih (h.step hdeeds.1) hdeeds.2

theorem Tells.current_eq {c : Course} (h : Tells dir c) :
    current c.volume dir = .ok (c.marked.getD defaultProfile) := by
  unfold current
  cases hmarked : c.marked with
  | none =>
    have hcontains : c.volume.contains (currentPath dir) = false := by
      rw [Bool.eq_false_iff, ne_eq, contains_iff]
      rintro ⟨entry, hstat⟩
      rw [stat?_eq_some_iff, h.unmarked hmarked] at hstat
      cases hstat.2
    simp [hcontains]
  | some name =>
    obtain ⟨htrimmed, hstat⟩ := h.marked name hmarked
    have htrimmed : Text.trimmedNonBlank? name = some name := htrimmed
    simp [contains_iff.2 ⟨_, hstat⟩, read?_of_stat? hstat, htrimmed]

/-! ## What the store tells -/

/-- Nothing has been marked yet, and no file is where the directory of profiles belongs. -/
structure IsFresh (v : Volume) (dir : FilePath) : Prop where
  marker : v.find? (v.destination (currentPath dir)) = none
  profiles : ∀ text, v.find? (v.destination (profilesPath dir)) ≠ some (.file text)

/-- The store can only fail to mark a profile if its directory cannot be made or the path of the
marker cannot be followed. Nothing else is in the way. -/
theorem Tells.setCurrent_eq_none_iff {c : Course} (h : Tells dir c) (name : String) :
    (ProfileStore.setCurrent c.volume dir name).2 = none ↔
      (c.volume.makePath dir).2 = none ∧ (c.volume.makePath dir).1.Reaches (currentPath dir) := by
  rcases setCurrent_cases c.volume dir name with ⟨-, hfailed, hwhy⟩ | ⟨hmake, hwrite, hdone⟩
  · rw [iff_false_left hfailed]
    rintro ⟨hmake, hreaches⟩
    rcases hwhy with hnomake | hnowrite
    · exact hnomake hmake
    · exact hnowrite _ (write_eq_ok_iff.2 ⟨hreaches, h.made.not_directory, rfl⟩)
  · exact iff_of_true hdone ⟨hmake, (write_eq_ok_iff.1 hwrite).1⟩

/-- After any history, the listed names are in order, each of them once, and they are the default
one and those under which there is a file. A profile whose saving has not failed is in its file. If
the path of the store does not come through its own marker, then the current profile is the one that
was marked last, or the default one before that, and marking one only fails if the path of the
marker cannot be followed. -/
theorem store_tells_files_and_last_mark {start : Volume} {dir : FilePath}
    (hstart : IsFresh start dir) {deeds : List Deed} (hdeeds : AreFair dir ⟨start, none⟩ deeds) :
    let c := Course.run dir ⟨start, none⟩ deeds
    (∃ listed, names c.volume dir = .ok listed ∧ listed.Pairwise (· < ·) ∧
      ∀ name, IsProfileName name →
        (name ∈ listed ↔ name = defaultProfile ∨ HasFile c.volume dir name)) ∧
    (∀ name (profile : Profile), IsProfileName name →
      (profile.save c.volume (profilePath dir name)).2 = none →
      ∃ text, profile.toText? = some text ∧
        (profile.save c.volume (profilePath dir name)).1.stat? (profilePath dir name) =
          some (.file text)) ∧
    (¬ PassesMarker start dir →
      current c.volume dir = .ok (c.marked.getD defaultProfile) ∧
      ∀ name, (setCurrent c.volume dir name).2 = none ↔
        (c.volume.makePath dir).2 = none ∧
          (c.volume.makePath dir).1.Reaches (currentPath dir)) := by
  intro c
  refine ⟨?listed, fun name profile hname hsaved => stat?_save hname.no_slash hsaved, ?marker⟩
  case listed =>
    have hspares : SparesProfiles dir start c.volume := sparesProfiles_run hdeeds
    have hfree (text : String) : c.volume.stat? (profilesPath dir) ≠ some (.file text) := by
      intro hstat
      have hfile := (stat?_eq_some_iff.1 hstat).2
      rw [destination_congr hspares.workingDirectory] at hfile
      exact hstart.profiles text (hspares.profiles text hfile)
    obtain ⟨listed, hlisted, hsorted, hmem⟩ := names_spec hfree
    exact ⟨listed, hlisted, hsorted, fun name hname => hmem name hname.ne_empty hname.no_slash⟩
  case marker =>
    intro hdir
    have hbegin : Tells dir ⟨start, none⟩ := ⟨hdir, fun _ => hstart.marker, nofun⟩
    have htells : Tells dir c := hbegin.run hdeeds
    exact ⟨htells.current_eq, htells.setCurrent_eq_none_iff⟩

/-- Names with dots, and one of them with an extension of its own. Others have made a directory
where the file of the other name would be. -/
theorem store_tells_name_with_extension :
    let dir : FilePath := ⟨"cfg"⟩
    let deeds : List Deed := [.setCurrent "v1.2", .save ".a.toml" {}]
    let saved := Course.run dir ⟨{}, none⟩ deeds
    let left := saved.volume.put ["cfg", "profiles", "v1.2.toml"] .directory
    let c := Course.run dir ⟨{}, none⟩ (deeds ++ [.others left])
    current c.volume dir = .ok "v1.2" ∧
      ∃ listed, names c.volume dir = .ok listed ∧ listed.Pairwise (· < ·) ∧
        ".a.toml" ∈ listed ∧ "v1.2" ∉ listed := by
  intro dir deeds saved left c
  have hstart : IsFresh {} dir := by
    have hnone : ({} : Volume).find? (({} : Volume).destination (profilesPath dir)) = none := by
      decide +kernel
    exact ⟨by decide +kernel, fun text => by simp [hnone]⟩
  have hmarked : IsProfileName "v1.2" :=
    ⟨(by decide +kernel : Text.trimmedNonBlank? "v1.2" = _), by decide, by decide⟩
  have hsaved : IsProfileName ".a.toml" :=
    ⟨(by decide +kernel : Text.trimmedNonBlank? ".a.toml" = _), by decide, by decide⟩
  have hspares : SparesStore dir saved.volume left :=
    sparesStore_put (by decide +kernel) (by decide +kernel) (by decide +kernel) _
  have hfair : AreFair dir ⟨{}, none⟩ (deeds ++ [.others left]) :=
    AreFair.concat ⟨hmarked, hsaved, trivial⟩ hspares
  obtain ⟨⟨listed, hlisted, hsorted, hmem⟩, -, htells⟩ :=
    store_tells_files_and_last_mark hstart hfair
  have hfile : HasFile c.volume dir ".a.toml" :=
    ⟨(Profile.toText? {}).getD "", by decide +kernel⟩
  have hdirectory : c.volume.stat? (profilePath dir "v1.2") = some .directory := by decide +kernel
  have hlast : c.marked = some "v1.2" := by decide +kernel
  have hcurrent : current c.volume dir = .ok (c.marked.getD defaultProfile) :=
    (htells (by decide +kernel)).1
  rw [hlast] at hcurrent
  refine ⟨hcurrent, listed, hlisted, hsorted, (hmem _ hsaved).2 (.inr hfile), ?_⟩
  rw [hmem _ hmarked, not_or]
  refine ⟨by decide, ?_⟩
  rintro ⟨text, hstat⟩
  rw [hdirectory] at hstat
  cases hstat

/-- The path of the store comes through its marker, so marking a profile makes a directory there. It
fails, and the marker cannot be read, although nothing has been marked. -/
theorem marker_taken_by_directory :
    let dir : FilePath := ⟨"jot-search/current/../../jot-search"⟩
    let c := Course.run dir ⟨{}, none⟩ [.setCurrent "work"]
    IsFresh {} dir ∧ AreFair dir ⟨{}, none⟩ [.setCurrent "work"] ∧ c.marked = none ∧
      current c.volume dir = .error .readCurrent ∧
      current c.volume dir ≠ .ok (c.marked.getD defaultProfile) := by
  intro dir c
  have hcurrent : current c.volume dir = .error .readCurrent := by decide +kernel
  have hname : Text.trimmedNonBlank? "work" = some "work" := by decide +kernel
  refine ⟨⟨by decide +kernel, ?_⟩, ⟨⟨hname, by decide, by decide⟩, trivial⟩, by decide +kernel,
    hcurrent, ?_⟩
  · intro text
    have hnone : ({} : Volume).find? (({} : Volume).destination (profilesPath dir)) = none := by
      decide +kernel
    simp [hnone]
  · simp [hcurrent]

end NoteSearch.ProfileStore
