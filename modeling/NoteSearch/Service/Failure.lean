-- SUMMARY: How calls and actions on saved searches fail, and the texts shown for it.
import NoteSearch.Text.Blank

/-!
# Failures

A call to the service fails on the way, by an answer that reports an error, or by an answer that
cannot be understood. The user sees the explanation that the service gave, where it gave one.
-/

namespace NoteSearch

/-- Why a call to the service failed. -/
inductive Failure where
  /-- No answer came. -/
  | transport (message : String)
  /-- The service answered with an error, and perhaps explained it. -/
  | status (code : UInt16) (detail : Option String)
  /-- The answer could not be understood. -/
  | undecodable (message : String)
  deriving DecidableEq, Inhabited

namespace Failure

def message : Failure → String
  | transport text => "Request failed: " ++ text
  | status code _ => "Server responded with " ++ toString code.toNat
  | undecodable text => "Invalid response: " ++ text

/-- What the service says about a failure, if it says anything. -/
def explanation? : Failure → Option String
  | status _ (some detail) => Text.nonBlank? detail
  | _ => none

/-- What the user is told: the explanation of the service, or else `fallback`. -/
def userMessage (f : Failure) (fallback : String) : String := f.explanation?.getD fallback

/-- The explanation of the service, or else the failure in words. -/
def description (f : Failure) : String := f.userMessage f.message

end Failure

/-- Why an action on a saved search failed. -/
inductive SavedSearchFailure where
  | emptyName
  | notSaved (reason : String)
  | notExecuted (reason : String)
  | notDeleted (reason : String)
  /-- A later execution was started before this one was under way. -/
  | superseded
  deriving DecidableEq, Inhabited

/-- The failure of an action on a saved search in words. -/
def SavedSearchFailure.message : SavedSearchFailure → String
  | emptyName => "Please enter a name for this search"
  | notSaved reason => "Failed to save search: " ++ reason
  | notExecuted reason => "Failed to execute saved search: " ++ reason
  | notDeleted reason => "Failed to delete saved search: " ++ reason
  | superseded => "Saved search execution was superseded"

end NoteSearch
