-- SUMMARY: The directory in which profiles are kept, with the marker of the current one.
import NoteSearch.Files.Volume
import NoteSearch.Setup.Profile
import NoteSearch.Text.Blank

/-!
# The profile store

A configuration directory holds one file for each profile and a marker with the name of the
current profile. The default profile always counts as one of them, and it is current as long as
no other one is marked.
-/

namespace NoteSearch

open Files

inductive StoreFailure where
  | readProfile
  | parseProfile
  | formatProfile
  | makeProfileDirectory
  | writeProfile
  | readCurrent
  | makeConfigDirectory
  | writeCurrent
  | listProfiles
  deriving DecidableEq, Inhabited

def StoreFailure.message : StoreFailure → String
  | readProfile => "Failed to read profile file"
  | parseProfile => "Failed to deserialize profile"
  | formatProfile => "Failed to serialize profile"
  | makeProfileDirectory => "Failed to create profile directory"
  | writeProfile => "Failed to write profile"
  | readCurrent => "Failed to read current profile"
  | makeConfigDirectory => "Failed to create config directory"
  | writeCurrent => "Failed to write current profile"
  | listProfiles => "Failed to read profiles directory"

def defaultProfile : String := "default"

/-! ## One profile -/

/-- Reads the profile in a file. A file that is missing holds none. -/
def Profile.load (v : Volume) (p : FilePath) : Except StoreFailure (Option Profile) :=
  if !v.contains p then .ok none
  else
    match v.read? p with
    | none => .error .readProfile
    | some text =>
      match Profile.ofText? text with
      | none => .error .parseProfile
      | some profile => .ok (some profile)

/-- Writes a profile to a file. The answer tells why it failed, if it did. -/
def Profile.save (profile : Profile) (v : Volume) (p : FilePath) : Volume × Option StoreFailure :=
  match profile.toText? with
  | none => (v, some .formatProfile)
  | some text =>
    match v.makeParent p with
    | (v, some _) => (v, some .makeProfileDirectory)
    | (v, none) =>
      match v.write p text with
      | .ok v => (v, none)
      | .error _ => (v, some .writeProfile)

namespace ProfileStore

/-! ## Places in the configuration directory -/

def profilesPath (dir : FilePath) : FilePath := dir.join ⟨"profiles"⟩

def profilePath (dir : FilePath) (name : String) : FilePath :=
  (profilesPath dir).join ⟨name ++ ".toml"⟩

/-- The marker of the current profile. -/
def currentPath (dir : FilePath) : FilePath := dir.join ⟨"current"⟩

/-! ## The current profile -/

def current (v : Volume) (dir : FilePath) : Except StoreFailure String :=
  if !v.contains (currentPath dir) then .ok defaultProfile
  else
    match v.read? (currentPath dir) with
    | none => .error .readCurrent
    | some text => .ok ((Text.trimmedNonBlank? text).getD defaultProfile)

/-- Marks the current profile. The answer tells why it failed, if it did. -/
def setCurrent (v : Volume) (dir : FilePath) (name : String) : Volume × Option StoreFailure :=
  match v.makePath dir with
  | (v, some _) => (v, some .makeConfigDirectory)
  | (v, none) =>
    match v.write (currentPath dir) name with
    | .ok v => (v, none)
    | .error _ => (v, some .writeCurrent)

/-! ## All profiles -/

def nameOfFile? (file : String) : Option String :=
  match FilePath.splitName file.toList with
  | (name, some ['t', 'o', 'm', 'l']) => some (String.ofList name)
  | _ => none

/-- The name of the profile that an entry of a directory holds. Only files hold profiles. -/
def nameAt? (v : Volume) (dir : FilePath) (file : String) : Option String :=
  match v.stat? (dir.join ⟨file⟩) with
  | some (.file _) => nameOfFile? file
  | _ => none

/-- The names of the profiles that are kept in files. -/
def keptNames (v : Volume) (dir : FilePath) : Except StoreFailure (List String) :=
  if !v.contains (profilesPath dir) then .ok []
  else
    match v.list? (profilesPath dir) with
    | none => .error .listProfiles
    | some files => .ok (files.filterMap (nameAt? v (profilesPath dir)))

/-- Names with the default one, which comes last unless it is among them. -/
def withDefault (names : List String) : List String :=
  if defaultProfile ∈ names then names else names ++ [defaultProfile]

def names (v : Volume) (dir : FilePath) : Except StoreFailure (List String) :=
  (keptNames v dir).map fun kept => (withDefault kept).mergeSort (· ≤ ·)

end ProfileStore

end NoteSearch
