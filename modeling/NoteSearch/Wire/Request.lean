-- SUMMARY: The JSON form of requests and of the searches that are to be saved.
import NoteSearch.Wire.Facets
import NoteSearch.Search.Request
import NoteSearch.Service.SavedSearch

/-!
# JSON form of requests

A request is written with all of its fields and read with defaults for the missing ones.
-/

namespace NoteSearch.Wire

open Json Calendar

/-! ## Requests -/

def requestFields : List String :=
  ["query", "tags", "tag_mode", "exclude_tags", "note_type", "created_after", "created_before",
    "updated_after", "updated_before", "title_only", "has_attachments", "sort_by", "page",
    "per_page"]

def request : Reader Request := fun t => do
  let [query, tags, mode, excluded, type, createdAfter, createdBefore, updatedAfter,
    updatedBefore, titleOnly, hasAttachments, sortBy, page, perPage] ← t.fields? requestFields 0
    | none
  let query ← Reader.optional Reader.string query
  let tags ← Reader.optional (Reader.list Reader.string) tags
  let tagMode ← Reader.withDefault tagMode .all mode
  let excludedTags ← Reader.optional (Reader.list Reader.string) excluded
  let noteType ← Reader.optional noteType type
  let createdAfter ← Reader.optional date createdAfter
  let createdBefore ← Reader.optional date createdBefore
  let updatedAfter ← Reader.optional date updatedAfter
  let updatedBefore ← Reader.optional date updatedBefore
  let titleOnly ← Reader.withDefault Reader.bool false titleOnly
  let hasAttachments ← Reader.optional Reader.bool hasAttachments
  let sortBy ← Reader.withDefault Reader.string defaultSort sortBy
  let page ← Reader.withDefault Reader.uint32 1 page
  let perPage ← Reader.withDefault Reader.uint32 defaultPerPage perPage
  some
    { query, tags, tagMode, excludedTags, noteType
      created := ⟨createdAfter, createdBefore⟩, updated := ⟨updatedAfter, updatedBefore⟩
      titleOnly, hasAttachments, sortBy, page, perPage }

def ofRequest (r : Request) : Tree :=
  ofMembers
    [("query", ofOption ofString r.query),
      ("tags", ofOption ofStrings r.tags),
      ("tag_mode", ofString r.tagMode.toText),
      ("exclude_tags", ofOption ofStrings r.excludedTags),
      ("note_type", ofOption (fun k => ofString k.toText) r.noteType),
      ("created_after", ofOption (fun d => ofString d.toText) r.created.after),
      ("created_before", ofOption (fun d => ofString d.toText) r.created.before),
      ("updated_after", ofOption (fun d => ofString d.toText) r.updated.after),
      ("updated_before", ofOption (fun d => ofString d.toText) r.updated.before),
      ("title_only", .bool r.titleOnly),
      ("has_attachments", ofOption .bool r.hasAttachments),
      ("sort_by", ofString r.sortBy),
      ("page", ofNat r.page.toNat),
      ("per_page", ofNat r.perPage.toNat)]

/-! ## Searches that are to be saved -/

def draft : Reader SavedSearch.Draft := fun t => do
  let [name, search] ← t.fields? ["name", "search_query"] 0 | none
  let name ← Reader.required Reader.string name
  let request ← Reader.required request search
  some { name, request }

def ofDraft (d : SavedSearch.Draft) : Tree :=
  ofMembers [("name", ofString d.name), ("search_query", ofRequest d.request)]

end NoteSearch.Wire
