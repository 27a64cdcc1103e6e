-- SUMMARY: Where the parts of a path lead, what writing and making directories do, and what they leave as it is.
import Mathlib.Data.List.Infix
import NoteSearch.Files.Volume
import NoteSearch.Proofs.Files.Paths

/-!
# Ways through a volume

A path that can be followed leads to the place that its parts spell (`destination`), and it can be
followed as long as the directories it comes through stay. Making a path adds directories where
nothing stood, at places that the path comes through, and changes nothing else. If it does not fail,
a directory stands where the path leads.
-/

namespace NoteSearch.Files.Volume

open FilePath

variable {v w u : Volume} {p : FilePath} {place q : Place} {parts : List String}
  {name text : String} {entry : Entry} {may : Place → Prop}

/-! ## What stands at a place -/

@[simp] theorem find?_root (v : Volume) : v.find? [] = some .directory := rfl

theorem find?_of_ne_root (v : Volume) (h : place ≠ []) :
    v.find? place = v.entries.lookup place := by
  simp [find?, h]

theorem lookup_filter_ne (entries : List (Place × Entry)) (h : q ≠ place) :
    (entries.filter fun e => e.1 != place).lookup q = entries.lookup q := by
  induction entries with
  | nil => rfl
  | cons e rest ih =>
    obtain ⟨here, entry⟩ := e
    by_cases hhere : here = place
    · have hq : (q == here) = false := beq_eq_false_iff_ne.2 (hhere ▸ h)
      simp [List.lookup_cons, hhere ▸ hq, hhere, ih]
    · simp [List.lookup_cons, hhere, ih]

theorem find?_put (v : Volume) (hplace : place ≠ []) (entry : Entry) (q : Place) :
    (v.put place entry).find? q = if q = place then some entry else v.find? q := by
  rcases eq_or_ne q [] with rfl | hq
  · rw [if_neg hplace.symm, find?_root, find?_root]
  · rw [find?_of_ne_root _ hq, find?_of_ne_root _ hq, put, List.lookup_cons]
    by_cases hsame : q = place
    · simp [hsame]
    · rw [if_neg hsame, beq_eq_false_iff_ne.2 hsame]
      exact lookup_filter_ne v.entries hsame

@[simp] theorem workingDirectory_put (v : Volume) (place : Place) (entry : Entry) :
    (v.put place entry).workingDirectory = v.workingDirectory := rfl

theorem ne_root_of_find? (h : v.find? place ≠ some .directory) : place ≠ [] := by
  rintro rfl
  exact h v.find?_root

theorem ne_root_of_none (h : v.find? place = none) : place ≠ [] :=
  ne_root_of_find? (by rw [h]; exact nofun)

/-! ## Names in a directory -/

theorem mem_namesIn (h : v.find? (place ++ [name]) = some entry) : name ∈ v.namesIn place := by
  rw [find?_of_ne_root v (by simp), List.lookup_eq_some_iff] at h
  obtain ⟨before, after, hentries, -⟩ := h
  simp [namesIn, hentries]

/-- A directory has at most one entry of a name. -/
theorem nodup_namesIn (v : Volume) (place : Place) : (v.namesIn place).Nodup := by
  have hplaces : v.entries.Pairwise fun a b => a.1 ≠ b.1 := List.pairwise_map.1 v.nodup_places
  refine hplaces.filterMap _ ?_
  rintro a b hne name ha other hb rfl
  simp only [Option.ite_none_right_eq_some] at ha hb
  refine hne ?_
  rw [← List.dropLast_append_getLast? name ha.2, ← List.dropLast_append_getLast? name hb.2, ha.1,
    hb.1]

/-! ## Ways -/

/-- Where parts lead, whatever is on the way. -/
def landing (place : Place) (parts : List String) : Place := parts.foldl onward place

/-- Where a path starts. -/
def origin (v : Volume) (absolute : Bool) : Place := if absolute then [] else v.workingDirectory

/-- Where a path leads, whatever is on the way. -/
def destination (v : Volume) (p : FilePath) : Place := landing (v.origin p.isAbsolute) p.parts

/-- Whether a place is on the way along parts, or at its end. -/
def OnWay (start : Place) (parts : List String) (place : Place) : Prop :=
  ∃ before, before <+: parts ∧ landing start before = place

instance (start : Place) (parts : List String) (place : Place) :
    Decidable (OnWay start parts place) :=
  decidable_of_iff (∃ before ∈ parts.inits, landing start before = place) <| by
    simp [OnWay, List.mem_inits]

/-- Whether a path comes through a place, or leads to it. -/
def ComesThrough (v : Volume) (p : FilePath) (place : Place) : Prop :=
  OnWay (v.origin p.isAbsolute) p.parts place

instance (v : Volume) (p : FilePath) (place : Place) : Decidable (v.ComesThrough p place) :=
  inferInstanceAs (Decidable (OnWay _ _ _))

/-- Whether a directory is in front of each step, and no step is too long for a name. -/
def IsOpen (v : Volume) : Place → List String → Prop
  | _, [] => True
  | place, step :: rest =>
    v.find? place = some .directory ∧ step.utf8ByteSize ≤ maxName ∧
      v.IsOpen (onward place step) rest

theorem origin_congr (hcwd : w.workingDirectory = v.workingDirectory) (absolute : Bool) :
    w.origin absolute = v.origin absolute := by
  rw [origin, hcwd, origin]

theorem destination_congr (hcwd : w.workingDirectory = v.workingDirectory) (p : FilePath) :
    w.destination p = v.destination p := by
  rw [destination, origin_congr hcwd, destination]

theorem comesThrough_congr (hcwd : w.workingDirectory = v.workingDirectory) (p : FilePath)
    (place : Place) : w.ComesThrough p place ↔ v.ComesThrough p place := by
  rw [ComesThrough, origin_congr hcwd, ComesThrough]

theorem landing_append (place : Place) (a b : List String) :
    landing place (a ++ b) = landing (landing place a) b := List.foldl_append

theorem isOpen_append {a b : List String} :
    v.IsOpen place (a ++ b) ↔ v.IsOpen place a ∧ v.IsOpen (landing place a) b := by
  induction a generalizing place with
  | nil => simp [IsOpen, landing]
  | cons part rest ih =>
    simp only [List.cons_append, IsOpen, ih, and_assoc]
    rfl

theorem IsOpen.of_directories (h : v.IsOpen place parts)
    (hstay : ∀ q, OnWay place parts q → v.find? q = some .directory → w.find? q = some .directory) :
    w.IsOpen place parts := by
  induction parts generalizing place with
  | nil => trivial
  | cons part rest ih =>
    obtain ⟨hhere, hname, hrest⟩ := h
    refine ⟨hstay place ⟨[], List.nil_prefix, rfl⟩ hhere, hname, ih hrest ?_⟩
    rintro q ⟨before, hbefore, hq⟩
    exact hstay q ⟨part :: before, List.cons_prefix_cons.2 ⟨rfl, hbefore⟩, hq⟩

theorem follow_eq_ok_iff :
    v.follow place parts = .ok q ↔ v.IsOpen place parts ∧ landing place parts = q := by
  induction parts generalizing place with
  | nil => simp [follow, IsOpen, landing]
  | cons step rest ih =>
    rw [follow]
    cases hhere : v.find? place with
    | none => simp [IsOpen, hhere]
    | some entry =>
      cases entry with
      | file text => simp [IsOpen, hhere]
      | directory =>
        have hland : landing place (step :: rest) = landing (onward place step) rest := rfl
        by_cases hfits : step.utf8ByteSize ≤ maxName <;> simp [IsOpen, hhere, hland, hfits, ih]

/-! ## Steps of a path -/

/-- The steps of a path lead where its parts lead. -/
@[simp] theorem landing_steps (start : Place) (p : FilePath) :
    landing start p.steps = landing start p.parts := by
  unfold steps
  split
  · rw [landing_append]
    rfl
  · rfl

theorem onWay_steps {start : Place} : OnWay start p.steps place ↔ OnWay start p.parts place := by
  unfold steps
  split
  · simp only [OnWay, List.prefix_concat_iff]
    constructor
    · rintro ⟨before, rfl | hbefore, rfl⟩
      · exact ⟨p.parts, List.prefix_rfl, by rw [landing_append]; rfl⟩
      · exact ⟨before, hbefore, rfl⟩
    · rintro ⟨before, hbefore, rfl⟩
      exact ⟨before, .inr hbefore, rfl⟩
  · rfl

theorem isOpen_steps {start : Place} (h : v.IsOpen start p.parts)
    (hdir : v.find? (landing start p.parts) = some .directory) : v.IsOpen start p.steps := by
  unfold steps
  split
  · exact isOpen_append.2 ⟨h, hdir, by decide, trivial⟩
  · exact h

/-! ## Paths that can be followed -/

/-- Whether a path can be followed. There need not be anything at its end. -/
structure Reaches (v : Volume) (p : FilePath) : Prop where
  ne_empty : p.text ≠ ""
  short : isTooLong p = false
  plain : ∀ step ∈ p.steps, '\x00' ∉ step.toList
  isOpen : v.IsOpen (v.origin p.isAbsolute) p.steps

theorem resolveSteps_eq_ok_iff {absolute : Bool} : v.resolveSteps absolute parts = .ok q ↔
    (∀ step ∈ parts, '\x00' ∉ step.toList) ∧ v.IsOpen (v.origin absolute) parts ∧
      landing (v.origin absolute) parts = q := by
  unfold resolveSteps
  split
  · rename_i hnul
    simp only [List.any_eq_true, List.contains_iff_mem] at hnul
    obtain ⟨step, hstep, hmem⟩ := hnul
    simp only [reduceCtorEq, false_iff, not_and]
    exact fun hplain => absurd hmem (hplain step hstep)
  · rename_i hplain
    have hplain : ∀ step ∈ parts, '\x00' ∉ step.toList := by simpa using hplain
    rw [follow_eq_ok_iff, and_iff_right hplain]
    rfl

theorem resolve_eq_ok_iff : v.resolve p = .ok q ↔ v.Reaches p ∧ v.destination p = q := by
  unfold resolve
  split
  · rename_i hempty
    simp only [reduceCtorEq, false_iff, not_and]
    exact fun h => absurd (String.isEmpty_iff.1 hempty) h.ne_empty
  · rename_i hne
    split
    · rename_i hlong
      simp only [reduceCtorEq, false_iff, not_and]
      exact fun h => absurd hlong (Bool.eq_false_iff.1 h.short)
    · rename_i hshort
      rw [resolveSteps_eq_ok_iff, landing_steps]
      constructor
      · rintro ⟨hplain, hopen, hq⟩
        exact ⟨⟨mt String.isEmpty_iff.2 hne, Bool.eq_false_iff.2 hshort, hplain, hopen⟩, hq⟩
      · rintro ⟨h, hq⟩
        exact ⟨h.plain, h.isOpen, hq⟩

theorem stat?_eq_some_iff :
    v.stat? p = some entry ↔ v.Reaches p ∧ v.find? (v.destination p) = some entry := by
  unfold stat?
  cases hresolve : v.resolve p with
  | ok q =>
    obtain ⟨hreaches, rfl⟩ := resolve_eq_ok_iff.1 hresolve
    rw [and_iff_right hreaches]
  | error fault =>
    simp only [reduceCtorEq, false_iff, not_and]
    intro hreaches
    rw [resolve_eq_ok_iff.2 ⟨hreaches, rfl⟩] at hresolve
    cases hresolve

theorem contains_iff : v.contains p = true ↔ ∃ entry, v.stat? p = some entry :=
  Option.isSome_iff_exists

theorem read?_of_stat? (h : v.stat? p = some (.file text)) : v.read? p = some text := by
  rw [read?, h]

theorem list?_of_stat? (h : v.stat? p = some .directory) :
    v.list? p = some (v.namesIn (v.destination p)) := by
  obtain ⟨hreaches, hfind⟩ := stat?_eq_some_iff.1 h
  rw [list?, resolve_eq_ok_iff.2 ⟨hreaches, rfl⟩]
  exact if_pos hfind

/-- A path can be followed as long as the directories that it comes through stay. -/
theorem Reaches.of_directories (h : v.Reaches p) (hcwd : w.workingDirectory = v.workingDirectory)
    (hstay : ∀ place, v.ComesThrough p place → v.find? place = some .directory →
      w.find? place = some .directory) : w.Reaches p := by
  refine { h with isOpen := ?_ }
  rw [origin_congr hcwd]
  exact h.isOpen.of_directories fun place hway => hstay place (onWay_steps.1 hway)

/-! ## Names behind a path -/

theorem onward_name (place : Place) (h : IsName name) : onward place name = place ++ [name] := by
  rw [onward, if_neg h.ne_dot, if_neg h.ne_parent]

theorem destination_join (v : Volume) (p : FilePath) (h : IsName name) :
    v.destination (p.join ⟨name⟩) = v.destination p ++ [name] := by
  rw [destination, isAbsolute_join p h.isAbsolute, parts_join p h.isAbsolute, h.parts,
    landing_append]
  exact onward_name _ h

theorem comesThrough_join (h : IsName name) : v.ComesThrough (p.join ⟨name⟩) place ↔
    v.ComesThrough p place ∨ place = v.destination p ++ [name] := by
  have hparts : (p.join ⟨name⟩).parts = p.parts ++ [name] := by
    rw [parts_join p h.isAbsolute, h.parts]
  have hend : landing (v.origin p.isAbsolute) (p.parts ++ [name]) = v.destination p ++ [name] := by
    rw [← destination_join v p h, destination, isAbsolute_join p h.isAbsolute, hparts]
  simp only [ComesThrough, OnWay, hparts, isAbsolute_join p h.isAbsolute, List.prefix_concat_iff]
  constructor
  · rintro ⟨before, rfl | hbefore, rfl⟩
    · exact .inr hend
    · exact .inl ⟨before, hbefore, rfl⟩
  · rintro (⟨before, hbefore, rfl⟩ | rfl)
    · exact ⟨before, .inr hbefore, rfl⟩
    · exact ⟨_, .inl rfl, hend⟩

/-- In front of a name that a path can be followed to, there is a directory. -/
theorem Reaches.of_join (h : v.Reaches (p.join ⟨name⟩)) (hname : IsName name) (hp : p.text ≠ "") :
    v.Reaches p ∧ v.find? (v.destination p) = some .directory := by
  have hsteps := steps_join p hname
  have hopen := h.isOpen
  rw [isAbsolute_join p hname.isAbsolute, hsteps, isOpen_append] at hopen
  have hdir : v.find? (v.destination p) = some .directory := hopen.2.1
  refine ⟨⟨hp, ?_, fun step hstep => ?_, isOpen_steps hopen.1 hdir⟩, hdir⟩
  · have hshort := h.short
    have hsize := utf8ByteSize_join p hname.isAbsolute
    simp only [isTooLong, decide_eq_false_iff_not] at hshort ⊢
    omega
  · rcases mem_steps hstep with hpart | rfl
    · exact h.plain step (hsteps ▸ List.mem_append_left _ hpart)
    · decide

/-! ## Writing -/

theorem write_eq_ok_iff : v.write p text = .ok w ↔ v.Reaches p ∧
    v.find? (v.destination p) ≠ some .directory ∧
      w = v.put (v.destination p) (.file text) := by
  unfold write
  cases hresolve : v.resolve p with
  | ok q =>
    obtain ⟨hreaches, rfl⟩ := resolve_eq_ok_iff.1 hresolve
    simp only [bind, Except.bind, hreaches, true_and]
    split
    · rename_i hdir
      simp [hdir]
    · rename_i hdir
      exact ⟨fun h => ⟨hdir, (Except.ok.inj h).symm⟩, fun h => congrArg Except.ok h.2.symm⟩
  | error fault =>
    simp only [bind, Except.bind, reduceCtorEq, false_iff, not_and]
    intro hreaches
    rw [resolve_eq_ok_iff.2 ⟨hreaches, rfl⟩] at hresolve
    cases hresolve

/-- Nothing that is put where no directory stands takes the place of a directory. -/
theorem find?_directory_put (hplace : v.find? place ≠ some .directory) (entry : Entry)
    (hdir : v.find? q = some .directory) : (v.put place entry).find? q = some .directory := by
  rw [find?_put v (ne_root_of_find? hplace), if_neg, hdir]
  rintro rfl
  exact hplace hdir

/-- What has been written is what stands there afterwards. -/
theorem stat?_of_write (h : v.write p text = .ok w) : w.stat? p = some (.file text) := by
  obtain ⟨hreaches, hfree, rfl⟩ := write_eq_ok_iff.1 h
  have hcwd := workingDirectory_put v (v.destination p) (.file text)
  rw [stat?_eq_some_iff, destination_congr hcwd, find?_put v (ne_root_of_find? hfree), if_pos rfl]
  exact ⟨hreaches.of_directories hcwd fun _ _ hdir => find?_directory_put hfree _ hdir, rfl⟩

/-! ## Making directories -/

/-- What stands in `v` stands in `w`, which may have more directories at certain places. -/
structure Grows (may : Place → Prop) (v w : Volume) : Prop where
  workingDirectory : w.workingDirectory = v.workingDirectory
  keeps : ∀ place entry, v.find? place = some entry → w.find? place = some entry
  adds : ∀ place, v.find? place = none →
    w.find? place = none ∨ w.find? place = some .directory ∧ may place

theorem Grows.refl (v : Volume) : Grows may v v := ⟨rfl, fun _ _ h => h, fun _ h => .inl h⟩

theorem Grows.trans (h : Grows may v w) (k : Grows may w u) : Grows may v u where
  workingDirectory := k.workingDirectory.trans h.workingDirectory
  keeps place entry hentry := k.keeps place entry (h.keeps place entry hentry)
  adds place hnone := by
    rcases h.adds place hnone with hnone | ⟨hdir, hmay⟩
    · exact k.adds place hnone
    · exact .inr ⟨k.keeps place _ hdir, hmay⟩

theorem Grows.mono {more : Place → Prop} (h : Grows may v w)
    (himp : ∀ place, may place → more place) : Grows more v w :=
  { h with adds := fun place hnone => (h.adds place hnone).imp_right fun hdir =>
      ⟨hdir.1, himp place hdir.2⟩ }

/-- A file stays, and no file comes. -/
theorem Grows.find?_eq_file_iff (h : Grows may v w) :
    w.find? place = some (.file text) ↔ v.find? place = some (.file text) := by
  refine ⟨fun hfile => ?_, h.keeps place _⟩
  cases hbefore : v.find? place with
  | some entry =>
    rw [← hfile, h.keeps place entry hbefore]
  | none =>
    rcases h.adds place hbefore with hnone | ⟨hdir, -⟩
    · rw [hnone] at hfile
      cases hfile
    · rw [hdir] at hfile
      cases hfile

theorem Grows.find?_eq_none (h : Grows may v w) (hnone : v.find? place = none)
    (hmay : ¬ may place) : w.find? place = none :=
  (h.adds place hnone).resolve_right fun hdir => hmay hdir.2

theorem Grows.put_directory (h : v.find? place = none) :
    Grows (· = place) v (v.put place .directory) := by
  have hplace := ne_root_of_none h
  refine ⟨rfl, fun q entry hentry => ?_, fun q hfree => ?_⟩
  · rw [find?_put v hplace, if_neg, hentry]
    rintro rfl
    rw [h] at hentry
    cases hentry
  · rw [find?_put v hplace]
    split
    · rename_i hsame
      exact .inr ⟨rfl, hsame⟩
    · exact .inl hfree

theorem makeDirectory_eq_ok {absolute : Bool} (h : v.makeDirectory absolute parts = .ok w) :
    v.find? (landing (v.origin absolute) parts) = none ∧
      w = v.put (landing (v.origin absolute) parts) .directory := by
  unfold Volume.makeDirectory at h
  cases hresolve : v.resolveSteps absolute parts with
  | error fault =>
    rw [hresolve] at h
    cases h
  | ok q =>
    obtain ⟨-, -, rfl⟩ := resolveSteps_eq_ok_iff.1 hresolve
    simp only [hresolve, bind, Except.bind] at h
    split at h
    · cases h
    · rename_i hnone
      exact ⟨hnone, (Except.ok.inj h).symm⟩

theorem Grows.ensureDirectory (v : Volume) (absolute : Bool) (parts : List String) :
    Grows (· = landing (v.origin absolute) parts) v (v.ensureDirectory absolute parts).1 := by
  unfold Volume.ensureDirectory
  split
  · rename_i hmade
    obtain ⟨hnone, rfl⟩ := makeDirectory_eq_ok hmade
    exact .put_directory hnone
  · exact .refl v

/-- Making a directory behind others adds what they add, and at most one more at its own place. -/
theorem Grows.makeBehind {absolute : Bool} {front : Volume × Option Fault}
    (hfront : Grows may v front.1) (hmay : may (landing (v.origin absolute) parts)) :
    Grows may v (v.makeBehind absolute parts front).1 := by
  have hlast (w : Volume) (hcwd : w.workingDirectory = v.workingDirectory) :
      Grows may w (w.ensureDirectory absolute parts).1 := by
    refine (Grows.ensureDirectory w absolute parts).mono fun place hplace => ?_
    rw [hplace, origin_congr hcwd]
    exact hmay
  unfold Volume.makeBehind
  split
  · split
    · exact hfront.trans (hlast _ hfront.workingDirectory)
    · exact hfront
  · exact hlast v rfl

theorem Grows.makeDirectories (v : Volume) (absolute : Bool) (parts : List String) :
    Grows (OnWay (v.origin absolute) parts.reverse) v (v.makeDirectories absolute parts).1 := by
  induction parts with
  | nil => exact .refl v
  | cons part before ih =>
    refine .makeBehind (ih.mono fun place ⟨first, hfirst, hplace⟩ => ?_) ⟨_, List.prefix_rfl, rfl⟩
    refine ⟨first, hfirst.trans ?_, hplace⟩
    rw [List.reverse_cons]
    exact List.prefix_append _ _

/-- A dot behind the parts of a path leads where they lead. -/
theorem landing_reverse {part : String} {before : List String} (v : Volume)
    (h : p.parts.reverse = part :: before) :
    landing (v.origin p.isAbsolute)
      ((part :: before).reverse ++ if p.endsInDot then ["."] else []) = v.destination p := by
  rw [← h, List.reverse_reverse, landing_append]
  split <;> rfl

theorem Grows.makePath (v : Volume) (p : FilePath) :
    Grows (v.ComesThrough p) v (v.makePath p).1 := by
  unfold Volume.makePath
  split
  · exact .refl v
  · split
    · exact .refl v
    · rename_i part before hreverse
      have hparts : p.parts = before.reverse ++ [part] := by
        rw [← List.reverse_cons, ← hreverse, List.reverse_reverse]
      refine .makeBehind ((Grows.makeDirectories v _ before).mono ?_)
        ⟨p.parts, List.prefix_rfl, (landing_reverse v hreverse).symm⟩
      rintro place ⟨first, hfirst, hplace⟩
      exact ⟨first, hparts ▸ hfirst.trans (List.prefix_append _ _), hplace⟩

/-! ## Directories that have been made -/

theorem find?_ensureDirectory {absolute : Bool} (h : (v.ensureDirectory absolute parts).2 = none) :
    (v.ensureDirectory absolute parts).1.find? (landing (v.origin absolute) parts) =
      some .directory := by
  unfold Volume.ensureDirectory at h ⊢
  cases hmake : v.makeDirectory absolute parts with
  | ok w =>
    obtain ⟨hnone, rfl⟩ := makeDirectory_eq_ok hmake
    dsimp only
    rw [find?_put v (ne_root_of_none hnone), if_pos rfl]
  | error fault =>
    simp only [hmake, ite_eq_left_iff, reduceCtorEq, imp_false, Bool.not_eq_true,
      Bool.not_eq_false] at h
    unfold isDirectory at h
    split at h
    · rename_i q hresolve
      obtain ⟨-, -, rfl⟩ := resolveSteps_eq_ok_iff.1 hresolve
      exact eq_of_beq h
    · cases h

theorem find?_makeBehind {absolute : Bool} {front : Volume × Option Fault}
    (hcwd : front.1.workingDirectory = v.workingDirectory)
    (h : (v.makeBehind absolute parts front).2 = none) :
    (v.makeBehind absolute parts front).1.find? (landing (v.origin absolute) parts) =
      some .directory := by
  revert h
  fun_cases Volume.makeBehind v absolute parts front with
  | case1 hmissing w =>
    intro h
    rw [← origin_congr hcwd]
    exact find?_ensureDirectory h
  | case2 hmissing =>
    rename_i hfailed
    intro h
    exact absurd (show front = (front.1, none) from Prod.ext rfl h) (hfailed front.1)
  | case3 => exact find?_ensureDirectory

/-- Where a path has been made, a directory stands at its end. -/
theorem find?_makePath (h : (v.makePath p).2 = none) (hparts : p.parts ≠ []) :
    (v.makePath p).1.find? (v.destination p) = some .directory := by
  unfold Volume.makePath at h ⊢
  split at h
  · cases h
  · rename_i hshort
    rw [if_neg hshort]
    cases hreverse : p.parts.reverse with
    | nil => exact absurd (List.reverse_eq_nil_iff.1 hreverse) hparts
    | cons part before =>
      rw [← landing_reverse v hreverse]
      rw [hreverse] at h
      exact find?_makeBehind (Grows.makeDirectories v _ before).workingDirectory h

/-- Behind a dot at the end of a path no directory is made. -/
example : (Volume.makePath {} ⟨"cfg/."⟩).2 = some .notFound ∧
    (Volume.makePath {} ⟨"cfg/./sub"⟩).2 = none := by decide +kernel

end NoteSearch.Files.Volume
