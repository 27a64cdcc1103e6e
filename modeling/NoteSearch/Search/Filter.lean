-- SUMMARY: The filter: what to search for, the actions that change it, and its requests.
import NoteSearch.Search.Request
import NoteSearch.Search.TagSet

/-!
# The filter

A filter holds what the user currently wants to search for. Every change goes through an
`Action`, and any change but a move to another page goes back to the first page. A filter stands
for a request, and a request can be loaded back into a filter.
-/

namespace NoteSearch

open Calendar

/-- What the user wants to search for. -/
structure Filter where
  /-- Free text; it may hold operators that only the service understands. -/
  query : String := ""
  tags : TagSet := .empty
  tagMode : TagMode := .all
  excludedTags : TagSet := .empty
  noteType : Option NoteType := none
  created : DateRange := {}
  updated : DateRange := {}
  titleOnly : Bool := false
  hasAttachments : Option Bool := none
  /-- The order of the results; the service knows the valid ones. -/
  sortBy : String := defaultSort
  page : UInt32 := 1
  perPage : UInt32 := defaultPerPage
  deriving DecidableEq, Inhabited

namespace Filter

/-! ## Single changes -/

/-- A new value for one field. -/
inductive Change where
  | tags (values : List String)
  | excludedTags (values : List String)
  | tagMode (value : TagMode)
  | noteType (value : Option NoteType)
  | createdAfter (value : Option Date)
  | createdBefore (value : Option Date)
  | updatedAfter (value : Option Date)
  | updatedBefore (value : Option Date)
  | titleOnly (value : Bool)
  | hasAttachments (value : Option Bool)
  | sortBy (value : String)
  | perPage (value : UInt32)
  | page (value : UInt32)
  deriving DecidableEq

/-- Whether a change only moves to another page. -/
def Change.isPage : Change → Bool
  | page _ => true
  | _ => false

/-- Stores a new value, in its normal form. -/
def store (f : Filter) : Change → Filter
  | .tags v => { f with tags := .ofList v }
  | .excludedTags v => { f with excludedTags := .ofList v }
  | .tagMode v => { f with tagMode := v }
  | .noteType v => { f with noteType := v }
  | .createdAfter v => { f with created := { f.created with after := v } }
  | .createdBefore v => { f with created := { f.created with before := v } }
  | .updatedAfter v => { f with updated := { f.updated with after := v } }
  | .updatedBefore v => { f with updated := { f.updated with before := v } }
  | .titleOnly v => { f with titleOnly := v }
  | .hasAttachments v => { f with hasAttachments := v }
  | .sortBy v => { f with sortBy := normalSort v }
  | .perPage v => { f with perPage := atLeastOne v }
  | .page v => { f with page := atLeastOne v }

def toFirstPage (f : Filter) : Filter := { f with page := 1 }

def setQuery (f : Filter) (text : String) : Filter :=
  { f with query := normalQuery text, page := 1 }

def change (f : Filter) (c : Change) : Filter :=
  if c.isPage then f.store c else (f.store c).toFirstPage

def setPage (f : Filter) (page : UInt32) : Filter := f.change (.page page)

/-! ## Several changes at once -/

structure Patch where
  query : Option String := none
  tags : Option (List String) := none
  excludedTags : Option (List String) := none
  tagMode : Option TagMode := none
  noteType : Option (Option NoteType) := none
  createdAfter : Option (Option Date) := none
  createdBefore : Option (Option Date) := none
  updatedAfter : Option (Option Date) := none
  updatedBefore : Option (Option Date) := none
  titleOnly : Option Bool := none
  hasAttachments : Option (Option Bool) := none
  sortBy : Option String := none
  perPage : Option UInt32 := none
  page : Option UInt32 := none
  deriving DecidableEq, Inhabited

/-- The changes that a patch carries besides its query. -/
def Patch.changes (p : Patch) : List Change :=
  (p.tags.map Change.tags).toList ++
  (p.excludedTags.map Change.excludedTags).toList ++
  (p.tagMode.map Change.tagMode).toList ++
  (p.noteType.map Change.noteType).toList ++
  (p.createdAfter.map Change.createdAfter).toList ++
  (p.createdBefore.map Change.createdBefore).toList ++
  (p.updatedAfter.map Change.updatedAfter).toList ++
  (p.updatedBefore.map Change.updatedBefore).toList ++
  (p.titleOnly.map Change.titleOnly).toList ++
  (p.hasAttachments.map Change.hasAttachments).toList ++
  (p.sortBy.map Change.sortBy).toList ++
  (p.perPage.map Change.perPage).toList ++
  (p.page.map Change.page).toList

/-- Whether a patch carries nothing but a page. -/
def Patch.isPageOnly (p : Patch) : Bool := p.query.isNone && p.changes.all Change.isPage

def storeQuery (f : Filter) : Option String → Filter
  | some text => { f with query := normalQuery text }
  | none => f

def patch (f : Filter) (p : Patch) : Filter :=
  let g := p.changes.foldl store (f.storeQuery p.query)
  if p.isPageOnly then g else g.toFirstPage

/-! ## Starting over -/

/-- Takes every constraint back; query, order and page size stay. -/
def resetFacets (f : Filter) : Filter :=
  { query := f.query, sortBy := f.sortBy, perPage := f.perPage }

/-- Takes everything back; the page size stays. -/
def clear (f : Filter) : Filter := { perPage := f.perPage }

/-- The number of facets that constrain the search. -/
def activeFacets (f : Filter) : Nat :=
  [!f.tags.isEmpty, !f.excludedTags.isEmpty, f.noteType.isSome, f.created.isBounded,
    f.updated.isBounded, f.titleOnly, f.hasAttachments.isSome].count true

/-! ## Requests -/

/-- The tags of a set as a request has them: an empty set constrains nothing. -/
def wireTags (s : TagSet) : Option (List String) := if s.isEmpty then none else some s.toList

def request (f : Filter) (page : UInt32) : Request where
  query := Text.nonBlank? f.query
  tags := wireTags f.tags
  tagMode := f.tagMode
  excludedTags := wireTags f.excludedTags
  noteType := f.noteType
  created := f.created
  updated := f.updated
  titleOnly := f.titleOnly
  hasAttachments := f.hasAttachments
  sortBy := normalSort f.sortBy
  page := atLeastOne page
  perPage := atLeastOne f.perPage

/-- The filter that a request stands for, on the first page. -/
def ofRequest (r : Request) : Filter where
  query := normalQuery (r.query.getD "")
  tags := .ofList (r.tags.getD [])
  tagMode := r.tagMode
  excludedTags := .ofList (r.excludedTags.getD [])
  noteType := r.noteType
  created := r.created
  updated := r.updated
  titleOnly := r.titleOnly
  hasAttachments := r.hasAttachments
  sortBy := normalSort r.sortBy
  page := 1
  perPage := atLeastOne r.perPage

/-! ## Actions -/

/-- Everything that may be done to a filter. -/
inductive Action where
  | setQuery (text : String)
  | change (c : Change)
  | patch (p : Patch)
  | setPage (page : UInt32)
  | resetFacets
  | clear
  | load (r : Request)
  deriving DecidableEq

def act (f : Filter) : Action → Filter
  | .setQuery text => f.setQuery text
  | .change c => f.change c
  | .patch p => f.patch p
  | .setPage page => f.setPage page
  | .resetFacets => f.resetFacets
  | .clear => f.clear
  | .load r => ofRequest r

end Filter

end NoteSearch
