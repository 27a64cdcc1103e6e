-- SUMMARY: The JSON form of saved searches, and the two shapes of a list of them.
import NoteSearch.Wire.Request

/-!
# JSON form of saved searches

A list of saved searches comes either by itself or as the member `saved_searches` of an object.
To tell the two apart the whole document has to be read, so every part of it has to be readable.
-/

namespace NoteSearch.Wire

open Json Calendar

def savedSearchFields : List String :=
  ["id", "name", "search_query", "use_count", "last_used_at", "created_at"]

def savedSearch : Reader SavedSearch := fun t => do
  let [id, name, search, useCount, lastUsedAt, createdAt] ← t.fields? savedSearchFields 0 | none
  let id ← Reader.required Reader.int64 id
  let name ← Reader.required Reader.string name
  let request ← Reader.required request search
  let useCount ← Reader.withDefault Reader.uint32 0 useCount
  let lastUsedAt ← Reader.optional timestamp lastUsedAt
  let createdAt ← Reader.optional timestamp createdAt
  some { id, name, request, useCount, lastUsedAt, createdAt }

def ofInt64 (i : Int64) : Tree := .number (.ofInt i.toInt)

def ofSavedSearch (s : SavedSearch) : Tree :=
  ofMembers
    [("id", ofInt64 s.id),
      ("name", ofString s.name),
      ("search_query", ofRequest s.request),
      ("use_count", ofNat s.useCount.toNat),
      ("last_used_at", ofOption (fun t => ofString t.toText) s.lastUsedAt),
      ("created_at", ofOption (fun t => ofString t.toText) s.createdAt)]

/-- Reads the object form of a list of saved searches. -/
def wrappedListing : Reader (List SavedSearch)
  | .object members => do
    let [searches] ← (Tree.object members).fields? ["saved_searches"] 0 | none
    Reader.required (Reader.list savedSearch) searches
  | _ => none

/-- Reads a list of saved searches in either form. -/
def savedListing : Reader (List SavedSearch) := fun t =>
  if t.isReadable Value.maxDepth then wrappedListing t <|> Reader.list savedSearch t else none

end NoteSearch.Wire
