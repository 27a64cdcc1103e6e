-- SUMMARY: Environment variables, and the places and overrides they give.
import NoteSearch.Files.FilePath
import NoteSearch.Text.Blank

/-!
# Variables

The environment says where the configuration directory is, and it may override the choice of the
profile, the address of the service and the token. A blank override counts as none.
-/

namespace NoteSearch

open Files

structure Variables where
  toList : List (String × String) := []
  deriving Inhabited

namespace Variables

def get? (vars : Variables) (name : String) : Option String := vars.toList.lookup name

def set (vars : Variables) (name value : String) : Variables :=
  ⟨(name, value) :: vars.toList.filter fun v => v.1 != name⟩

def setNew (vars : Variables) (name value : String) : Variables :=
  if (vars.get? name).isSome then vars else vars.set name value

/-! ## Places -/

/-- The name of the configuration directory among those of other programs. -/
def directoryName : String := "jot-search"

def home? (vars : Variables) : Option FilePath :=
  match vars.get? "HOME" with
  | some text => if text.isEmpty then none else some ⟨text⟩
  | none => none

/-- The configuration directory. Without a home it is where the program runs. -/
def configDirectory (vars : Variables) : FilePath :=
  match vars.get? "XDG_CONFIG_HOME" with
  | some text => (FilePath.mk text).join ⟨directoryName⟩
  | none =>
    match vars.home? with
    | some home => (home.join ⟨".config"⟩).join ⟨directoryName⟩
    | none => ⟨"."⟩

end Variables

/-! ## Overrides -/

/-- What takes the place of parts of a profile. -/
structure Overrides where
  profile : Option String := none
  apiUrl : Option String := none
  token : Option String := none
  deriving DecidableEq, Inhabited

def Overrides.ofVariables (vars : Variables) : Overrides where
  profile := (vars.get? "JOT_SEARCH_PROFILE").bind Text.nonBlank?
  apiUrl := (vars.get? "JOT_SEARCH_API_URL").bind Text.nonBlank?
  token := (vars.get? "JOT_SEARCH_TOKEN").bind Text.nonBlank?

end NoteSearch
