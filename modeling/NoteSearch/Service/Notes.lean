-- SUMMARY: The plain list of notes: what is asked for and the pages that come back.
import NoteSearch.Search.Facets
import NoteSearch.Calendar.Timestamp
import NoteSearch.Json.Value

/-!
# Lists of notes

Besides searching, the service lists notes page by page, narrowed by a plain text, a kind of
notes and tags.
-/

namespace NoteSearch

open Calendar

/-- Which page of which notes is asked for. -/
structure NoteQuery where
  page : UInt32
  perPage : UInt32
  search : Option String := none
  noteType : Option NoteType := none
  /-- Tags with commas between them. -/
  tags : Option String := none
  deriving DecidableEq, Inhabited

structure Note where
  id : Int64
  title : String
  noteType : Option NoteType := none
  /-- The body of the note: a text, or texts by the names of their sections. -/
  content : Json.Value := .null
  tags : List String := []
  createdAt : Option Timestamp := none
  updatedAt : Option Timestamp := none
  deriving Inhabited

structure NotePage where
  notes : List Note := []
  total : UInt64 := 0
  page : UInt32 := 1
  perPage : UInt32 := 10
  hasNext : Bool := false
  hasPrev : Bool := false
  deriving Inhabited

end NoteSearch
