-- SUMMARY: The configuration of a session: a profile with the overrides of the environment.
import NoteSearch.Setup.EnvFile
import NoteSearch.Setup.ProfileStore

/-!
# Configuration

A configuration says where the service is, with which token to call it, and how a session is
tuned. An override wins over the profile, and a blank part of a profile counts as absent.
-/

namespace NoteSearch

open Files

structure Configuration where
  profilePath : FilePath
  profileExists : Bool
  /-- The address of the service, without slashes at its end. -/
  apiUrl : String
  token : Option String
  settings : Settings
  deriving DecidableEq, Inhabited

namespace Configuration

/-- The address that is taken where none is given. -/
def defaultApiUrl : String := "http://localhost:8000/api"

/-- A text without the slashes at its end. -/
def dropSlashes (s : String) : String :=
  String.ofList (s.toList.reverse.dropWhile (· == '/')).reverse

/-- The configuration that a profile and overrides give. -/
def ofProfile (path : FilePath) (profile? : Option Profile) (o : Overrides) : Configuration where
  profilePath := path
  profileExists := profile?.isSome
  apiUrl := dropSlashes ((o.apiUrl.or ((profile?.bind (·.apiUrl)).bind Text.nonBlank?)).getD
    defaultApiUrl)
  token := o.token.or ((profile?.bind (·.token)).bind Text.nonBlank?)
  settings := (profile?.map (·.settings)).getD {}

/-- The file of the profile that is asked for, or else of the current one. -/
def activePath (v : Volume) (dir : FilePath) (name? : Option String) : FilePath :=
  ProfileStore.profilePath dir <|
    match name? with
    | some name => name
    | none =>
      match ProfileStore.current v dir with
      | .ok name => name
      | .error _ => defaultProfile

/-- The configuration that the files and the variables of a user give. -/
def load (v : Volume) (vars : Variables) : Except StoreFailure Configuration := do
  let o := Overrides.ofVariables vars
  let path := activePath v vars.configDirectory o.profile
  let profile? ← Profile.load v path
  return ofProfile path profile? o

end Configuration

end NoteSearch
