-- SUMMARY: The JSON form of pages of results and of completions.
import NoteSearch.Wire.Facets
import NoteSearch.Service.Results

/-!
# JSON form of results
-/

namespace NoteSearch.Wire

open Json Calendar

def hitFields : List String :=
  ["id", "title", "note_type", "snippet", "tags", "created_at", "updated_at", "relevance_score",
    "match_locations"]

def hit : Reader Hit := fun t => do
  let [id, title, type, snippet, tags, createdAt, updatedAt, relevance, matchedIn] ←
    t.fields? hitFields 0 | none
  let id ← Reader.required Reader.int64 id
  let title ← Reader.required Reader.string title
  let noteType ← Reader.optional noteType type
  let snippet ← Reader.withDefault Reader.string "" snippet
  let tags ← Reader.withDefault (Reader.list Reader.string) [] tags
  let createdAt ← Reader.optional timestamp createdAt
  let updatedAt ← Reader.optional timestamp updatedAt
  let relevance ← Reader.withDefault Reader.float 0 relevance
  let matchedIn ← Reader.withDefault (Reader.list Reader.string) [] matchedIn
  some { id, title, noteType, snippet, tags, createdAt, updatedAt, relevance, matchedIn }

def resultPageFields : List String :=
  ["results", "total", "page", "per_page", "has_next", "has_prev", "execution_time_ms"]

def resultPage : Reader ResultPage := fun t => do
  let [hits, total, page, perPage, hasNext, hasPrev, elapsed] ← t.fields? resultPageFields 0
    | none
  let hits ← Reader.required (Reader.list hit) hits
  let total ← Reader.required Reader.uint64 total
  let page ← Reader.required Reader.uint32 page
  let perPage ← Reader.required Reader.uint32 perPage
  let hasNext ← Reader.required Reader.bool hasNext
  let hasPrev ← Reader.required Reader.bool hasPrev
  let elapsedMs ← Reader.withDefault Reader.float 0 elapsed
  some { hits, total, page, perPage, hasNext, hasPrev, elapsedMs }

def candidate : Reader Candidate := fun t => do
  let [text, count, relevance] ←
    t.fields? ["query_text", "search_count", "relevance_score"] 0 | none
  let text ← Reader.required Reader.string text
  let searchCount ← Reader.withDefault Reader.uint32 0 count
  let relevance ← Reader.withDefault Reader.float 0 relevance
  some { text, searchCount, relevance }

end NoteSearch.Wire
