-- SUMMARY: The calls that can be made to the service, and the replies to them.
import NoteSearch.Service.Results
import NoteSearch.Service.SavedSearch
import NoteSearch.Service.Usage
import NoteSearch.Service.Notes
import NoteSearch.Service.Failure

/-!
# Calls and replies

The service as a session sees it: a call goes out, and some time later a reply of the same kind
comes in, which is a value or a failure.
-/

namespace NoteSearch

inductive Call where
  | search (request : Request)
  | suggestions (text : String) (limit : UInt32)
  | listSaved
  | createSaved (draft : SavedSearch.Draft)
  /-- Counts a use of a saved search and runs it on the side of the service. -/
  | executeSaved (id : Int64)
  | deleteSaved (id : Int64)
  | popular (limit : UInt32)
  | trending (limit days : UInt32)
  | stats
  | notes (query : NoteQuery)
  deriving DecidableEq, Inhabited

inductive Reply where
  | search (r : Except Failure ResultPage)
  | suggestions (r : Except Failure (List Candidate))
  | listSaved (r : Except Failure (List SavedSearch))
  | createSaved (r : Except Failure SavedSearch)
  | executeSaved (r : Except Failure ResultPage)
  | deleteSaved (r : Except Failure Unit)
  | popular (r : Except Failure (List PopularQuery))
  | trending (r : Except Failure (List TrendingQuery))
  | stats (r : Except Failure UsageStats)
  | notes (r : Except Failure NotePage)

/-- How a search or a fetch of notes ended for the one who asked for it. -/
inductive Outcome where
  | applied
  | failed (message : String)
  /-- A later request was made in the meantime; the reply was dropped. -/
  | superseded
  deriving DecidableEq, Inhabited

end NoteSearch
