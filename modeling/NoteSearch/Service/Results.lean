-- SUMMARY: Pages of search results and candidates for completing a query.
import NoteSearch.Search.Facets
import NoteSearch.Calendar.Timestamp

/-!
# Results

What the service finds for a request: one page of hits with the totals of the whole search, and
the candidates it offers for a query that is still being typed.
-/

namespace NoteSearch

open Calendar

/-- One note that a search has found. -/
structure Hit where
  id : Int64
  title : String
  noteType : Option NoteType := none
  snippet : String := ""
  tags : List String := []
  createdAt : Option Timestamp := none
  updatedAt : Option Timestamp := none
  relevance : Float := 0
  matchedIn : List String := []
  deriving Inhabited

structure ResultPage where
  hits : List Hit := []
  total : UInt64 := 0
  page : UInt32 := 1
  perPage : UInt32 := defaultPerPage
  hasNext : Bool := false
  hasPrev : Bool := false
  elapsedMs : Float := 0
  deriving Inhabited

namespace ResultPage

/-- Whether the paging flags agree with the totals. -/
def isConsistent (r : ResultPage) : Bool :=
  r.hasNext == decide (r.page.toNat * r.perPage.toNat < r.total.toNat) &&
    r.hasPrev == decide (1 < r.page)

def isEmpty (r : ResultPage) : Bool := r.hits.isEmpty

end ResultPage

/-- A query that the service offers as a completion. -/
structure Candidate where
  text : String
  searchCount : UInt32 := 0
  relevance : Float := 0
  deriving Inhabited

/-- The relevance above which a candidate is hot. -/
def hotRelevance : Float := 0.7

def Candidate.isHot (c : Candidate) : Bool := hotRelevance < c.relevance

end NoteSearch
