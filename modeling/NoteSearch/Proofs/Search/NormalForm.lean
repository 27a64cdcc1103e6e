-- SUMMARY: Filters stay in normal form, and a filter in normal form is told from its request again.
import NoteSearch.Proofs.Text.Trimmed
import NoteSearch.Search.Filter

/-!
# Filters and requests in normal form

Every action stores what it is given in a normal form: no blank query, trimmed tags, a trimmed
order of results, and pages that count from one. In that form nothing is lost on the way to a
request and back, so a filter and its request stand for each other, and any request stands for
the same filter as the normal one that is built from it.
-/

namespace NoteSearch

/-! ## Fields in normal form -/

theorem normalQuery_blank_or (text : String) :
    normalQuery text = "" ∨ Text.isBlankString (normalQuery text) = false := by
  unfold normalQuery Text.nonBlank?
  split
  · exact .inl rfl
  · rename_i h
    exact .inr (Bool.eq_false_iff.2 h)

theorem normalQuery_eq_self {query : String}
    (h : query = "" ∨ Text.isBlankString query = false) : normalQuery query = query := by
  rcases h with rfl | h
  · rfl
  · simp [normalQuery, Text.nonBlank?, h]

theorem nonBlank?_normalQuery (text : String) :
    Text.nonBlank? (normalQuery text) = Text.nonBlank? text := by
  cases hblank : Text.isBlankString text with
  | true =>
    have hempty : Text.isBlankString "" = true := rfl
    simp [normalQuery, Text.nonBlank?, hblank, hempty]
  | false => simp [normalQuery, Text.nonBlank?, hblank]

theorem isTrimmed_defaultSort : Text.IsTrimmed defaultSort := by
  have hblank : Text.isBlankString defaultSort = false := by decide +kernel
  have htrim : Text.trimmed defaultSort = defaultSort := by decide +kernel
  simp [Text.IsTrimmed, Text.trimmedNonBlank?, hblank, htrim]

theorem isTrimmed_normalSort (name : String) : Text.IsTrimmed (normalSort name) := by
  unfold normalSort
  cases h : Text.trimmedNonBlank? name with
  | none => exact isTrimmed_defaultSort
  | some t => exact Text.isTrimmed_of_trimmedNonBlank? h

theorem normalSort_eq_self {name : String} (h : Text.IsTrimmed name) : normalSort name = name := by
  rw [normalSort, h, Option.getD_some]

theorem atLeastOne_eq_self {n : UInt32} (h : 1 ≤ n) : atLeastOne n = n := by
  refine if_neg ?_
  rintro rfl
  exact absurd h (by decide)

/-! ## Sets of tags -/

namespace Text

theorem insertOrdered_eq_cons {s : String} {l : List String} (h : ∀ x ∈ l, s < x) :
    insertOrdered s l = s :: l := by
  cases l with
  | nil => rfl
  | cons other rest => exact if_pos (h other List.mem_cons_self)

theorem ordered_eq_self {l : List String} (h : l.Pairwise (· < ·)) : ordered l = l := by
  induction h with
  | nil => rfl
  | @cons s rest hs _ ih =>
    calc ordered (s :: rest) = insertOrdered s (ordered rest) := rfl
      _ = s :: rest := by rw [ih, insertOrdered_eq_cons hs]

end Text

namespace TagSet

theorem isTrimmed_of_mem_ofList {tags : List String} {tag : String}
    (h : tag ∈ (ofList tags).toList) : Text.IsTrimmed tag := by
  obtain ⟨given, -, hgiven⟩ := mem_ofList.1 h
  exact Text.isTrimmed_of_trimmedNonBlank? hgiven

theorem ofList_toList {s : TagSet} (h : ∀ tag ∈ s.toList, Text.IsTrimmed tag) :
    ofList s.toList = s := by
  have hkept : s.toList.filterMap Text.trimmedNonBlank? = s.toList := by
    rw [List.filterMap_congr h, List.filterMap_some]
  cases s with
  | mk l sorted =>
    simp only [ofList, TagSet.mk.injEq]
    rw [hkept, Text.ordered_eq_self sorted]

end TagSet

namespace Filter

/-! ## Filters -/

/-- A filter as the actions leave it. -/
structure Normal (f : Filter) : Prop where
  query : f.query = "" ∨ Text.isBlankString f.query = false
  tags : ∀ tag ∈ f.tags.toList, Text.IsTrimmed tag
  excludedTags : ∀ tag ∈ f.excludedTags.toList, Text.IsTrimmed tag
  sortBy : Text.IsTrimmed f.sortBy
  page : 1 ≤ f.page
  perPage : 1 ≤ f.perPage

theorem Normal.default : Normal {} where
  query := .inl rfl
  tags := nofun
  excludedTags := nofun
  sortBy := isTrimmed_defaultSort
  page := by decide
  perPage := by decide

theorem Normal.ofRequest (r : Request) : Normal (ofRequest r) where
  query := normalQuery_blank_or _
  tags := fun _ => TagSet.isTrimmed_of_mem_ofList
  excludedTags := fun _ => TagSet.isTrimmed_of_mem_ofList
  sortBy := isTrimmed_normalSort _
  page := UInt32.le_refl _
  perPage := one_le_atLeastOne _

variable {f : Filter}

theorem Normal.toFirstPage (h : f.Normal) : f.toFirstPage.Normal :=
  { h with page := UInt32.le_refl _ }

theorem Normal.store (h : f.Normal) (c : Change) : (f.store c).Normal := by
  cases c with
  | tags v => exact { h with tags := fun _ => TagSet.isTrimmed_of_mem_ofList }
  | excludedTags v => exact { h with excludedTags := fun _ => TagSet.isTrimmed_of_mem_ofList }
  | sortBy v => exact { h with sortBy := isTrimmed_normalSort v }
  | perPage v => exact { h with perPage := one_le_atLeastOne v }
  | page v => exact { h with page := one_le_atLeastOne v }
  | _ => exact { h with }

theorem Normal.storeQuery (h : f.Normal) (query : Option String) : (f.storeQuery query).Normal := by
  cases query with
  | none => exact h
  | some text => exact { h with query := normalQuery_blank_or text }

theorem Normal.foldl_store (h : f.Normal) (changes : List Change) :
    (changes.foldl Filter.store f).Normal := by
  induction changes generalizing f with
  | nil => exact h
  | cons c rest ih => exact ih (h.store c)

theorem Normal.change (h : f.Normal) (c : Change) : (f.change c).Normal := by
  unfold Filter.change
  split
  · exact h.store c
  · exact (h.store c).toFirstPage

theorem Normal.patch (h : f.Normal) (p : Patch) : (f.patch p).Normal := by
  have hstored := (h.storeQuery p.query).foldl_store p.changes
  unfold Filter.patch
  dsimp only
  split
  · exact hstored
  · exact hstored.toFirstPage

theorem Normal.act (h : f.Normal) (a : Action) : (f.act a).Normal := by
  cases a with
  | setQuery text => exact { h.toFirstPage with query := normalQuery_blank_or text }
  | change c => exact h.change c
  | patch p => exact h.patch p
  | setPage page => exact h.change (.page page)
  | resetFacets =>
    exact { Normal.default with query := h.query, sortBy := h.sortBy, perPage := h.perPage }
  | clear => exact { Normal.default with perPage := h.perPage }
  | load r => exact .ofRequest r

/-- The filter that actions lead to, from the default filter or from one that a request stands
for. -/
def reached (start : Option Request) (actions : List Action) : Filter :=
  actions.foldl act (start.elim {} ofRequest)

theorem normal_reached (start : Option Request) (actions : List Action) :
    (reached start actions).Normal := by
  have hact (f : Filter) (h : f.Normal) : (actions.foldl Filter.act f).Normal := by
    induction actions generalizing f with
    | nil => exact h
    | cons a rest ih => exact ih _ (h.act a)
  cases start with
  | none => exact hact _ .default
  | some r => exact hact _ (.ofRequest r)

/-! ## Round trips -/

theorem wireTags_getD (s : TagSet) : (wireTags s).getD [] = s.toList := by
  unfold wireTags TagSet.isEmpty
  split
  · rename_i h
    exact (List.isEmpty_iff.1 h).symm
  · rfl

/-- A filter in normal form is the one that its request stands for, but for the page. -/
theorem Normal.ofRequest_request (h : f.Normal) (page : UInt32) :
    Filter.ofRequest (f.request page) = f.toFirstPage := by
  have hquery : normalQuery ((Text.nonBlank? f.query).getD "") = f.query := by
    rw [← normalQuery, normalQuery_eq_self (normalQuery_blank_or _), normalQuery_eq_self h.query]
  have htags : TagSet.ofList ((wireTags f.tags).getD []) = f.tags := by
    rw [wireTags_getD, TagSet.ofList_toList h.tags]
  have hexcluded : TagSet.ofList ((wireTags f.excludedTags).getD []) = f.excludedTags := by
    rw [wireTags_getD, TagSet.ofList_toList h.excludedTags]
  have hsort : normalSort (normalSort f.sortBy) = f.sortBy := by
    rw [normalSort_eq_self (isTrimmed_normalSort _), normalSort_eq_self h.sortBy]
  have hperPage : atLeastOne (atLeastOne f.perPage) = f.perPage := by
    rw [atLeastOne_atLeastOne, atLeastOne_eq_self h.perPage]
  simp only [Filter.ofRequest, request, Filter.toFirstPage, hquery, htags, hexcluded, hsort,
    hperPage]

theorem request_atLeastOne (f : Filter) (page : UInt32) :
    f.request (atLeastOne page) = f.request page := by
  simp only [request, atLeastOne_atLeastOne]

/-! ## Queries -/

theorem setQuery_eq (f : Filter) (text : String) : f.setQuery text =
    { f with query := if Text.isBlankString text then "" else text, page := 1 } := by
  rw [Filter.setQuery, normalQuery, Text.nonBlank?]
  split <;> rfl

theorem setQuery_trimmed (f : Filter) (text : String) :
    f.setQuery (Text.trimmed text) = { f with query := Text.trimmed text, page := 1 } := by
  rw [Filter.setQuery, normalQuery_trimmed]

theorem request_setQuery (f : Filter) (text : String) :
    (f.setQuery text).request 1 = { f.request 1 with query := Text.nonBlank? text } := by
  simp only [Filter.setQuery, Filter.request, nonBlank?_normalQuery]

end Filter

/-- The request that is sent for a request as it was stored. -/
def Request.normal (r : Request) : Request := (Filter.ofRequest r).request r.page

namespace Filter

theorem ofRequest_normal (r : Request) : ofRequest r.normal = ofRequest r :=
  (Normal.ofRequest r).ofRequest_request r.page

/-- However a filter has come about, its request for any page stands for that filter on the first
page. What any request is made into stands for the same filter as the request itself, and it is
not changed any more. -/
theorem request_round_trip :
    (∀ (start : Option Request) (actions : List Action) (page : UInt32),
      ofRequest ((reached start actions).request page) = (reached start actions).toFirstPage) ∧
    ∀ r : Request, r.normal.normal = r.normal ∧ ofRequest r.normal = ofRequest r := by
  constructor
  · intro start actions page
    exact (normal_reached start actions).ofRequest_request page
  · intro r
    refine ⟨?_, ofRequest_normal r⟩
    calc r.normal.normal
        = (ofRequest r.normal).request (atLeastOne r.page) := rfl
      _ = (ofRequest r).request (atLeastOne r.page) := by rw [ofRequest_normal]
      _ = r.normal := request_atLeastOne _ _

/-- Blank and padded values are brought into their normal form on the way. -/
example :
    let r : Request :=
      { query := some " ", tags := some [" b", "a ", "", "b"], sortBy := " ", page := 0 }
    r.normal = { tags := some ["a", "b"] } := by decide +kernel

end Filter

end NoteSearch
