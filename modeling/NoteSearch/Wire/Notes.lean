-- SUMMARY: The JSON form of lists of notes and of what is asked for to see them.
import NoteSearch.Wire.Facets
import NoteSearch.Service.Notes

/-!
# JSON form of lists of notes

The body of a note is free JSON. It stands three containers deep in its document, which counts
towards the bound on nesting.
-/

namespace NoteSearch.Wire

open Json Calendar

/-- How deep the body of a note may nest. -/
def contentDepth : Nat := Value.maxDepth - 3

def note : Reader Note := fun t => do
  let [id, title, type, content, tags, createdAt, updatedAt] ←
    t.fields? ["id", "title", "note_type", "content", "tags", "created_at", "updated_at"] 0
    | none
  let id ← Reader.required Reader.int64 id
  let title ← Reader.required Reader.string title
  let noteType ← Reader.optional noteType type
  let content ← Reader.withDefault (Value.ofTree? contentDepth) .null content
  let tags ← Reader.withDefault (Reader.list Reader.string) [] tags
  let createdAt ← Reader.optional timestamp createdAt
  let updatedAt ← Reader.optional timestamp updatedAt
  some { id, title, noteType, content, tags, createdAt, updatedAt }

def notePage : Reader NotePage := fun t => do
  let [notes, total, page, perPage, hasNext, hasPrev] ←
    t.fields? ["notes", "total", "page", "per_page", "has_next", "has_prev"] 0 | none
  let notes ← Reader.required (Reader.list note) notes
  let total ← Reader.required Reader.uint64 total
  let page ← Reader.required Reader.uint32 page
  let perPage ← Reader.required Reader.uint32 perPage
  let hasNext ← Reader.required Reader.bool hasNext
  let hasPrev ← Reader.withDefault Reader.bool false hasPrev
  some { notes, total, page, perPage, hasNext, hasPrev }

/-- Reads what is asked for to see a page of notes. -/
def noteQuery : Reader NoteQuery := fun t => do
  let [page, perPage, search, type, tags] ←
    t.fields? ["page", "per_page", "search", "note_type", "tags"] 5 | none
  let page ← Reader.required Reader.uint32 page
  let perPage ← Reader.required Reader.uint32 perPage
  let search ← Reader.optional Reader.string search
  let noteType ← Reader.optional noteType type
  let tags ← Reader.optional Reader.string tags
  some { page, perPage, search, noteType, tags }

end NoteSearch.Wire
