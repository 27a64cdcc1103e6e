-- SUMMARY: A search that is saved, sent, listed and loaded is the search that was saved.
import NoteSearch.Proofs.Session.SentRequests
import NoteSearch.Proofs.Wire.Records

/-!
# Stored searches

What a session saves goes out as a document, is stored elsewhere and comes back in a list. No text
on this way loses anything (`Records`), and no filter of a session loses anything in its request
(`Filter.Normal.ofRequest_request`); so the search that is loaded is the one that was saved, from
its first page. A list comes back only if each of its searches can be read, and only after the whole
document has been found readable.
-/

namespace NoteSearch.Wire

open Json Calendar
open Json.Tree (isReadable areReadable membersReadable)

variable {α : Type} {write : α → Tree} {depth : Nat}

/-! ## Readable documents -/

theorem isReadable_ofInt {i : Int} (hlow : -9223372036854775808 ≤ i)
    (hhigh : i < 18446744073709551616) :
    isReadable depth (.number (.ofInt i)) = true := by
  have hvalue : (Number.ofInt i).toInt? = some i := int_ofInt i
  have hfits : Value.fitsWord i = true := by
    simp only [Value.fitsWord, Bool.and_eq_true, decide_eq_true_eq]
    exact ⟨hlow, hhigh⟩
  simp [isReadable, Value.ofNumber?, hvalue, hfits]

@[simp] theorem isReadable_ofUInt32 (n : UInt32) :
    isReadable depth (ofNat n.toNat) = true := by
  have hn := n.toNat_lt
  exact isReadable_ofInt (i := n.toNat) (by omega) (by omega)

@[simp] theorem isReadable_ofInt64 (i : Int64) : isReadable depth (ofInt64 i) = true := by
  have hlow := i.le_toInt
  have hhigh := i.toInt_lt
  exact isReadable_ofInt hlow (by omega)

@[simp] theorem isReadable_ofString (s : String) : isReadable depth (ofString s) = true := by
  simp [ofString, isReadable]

@[simp] theorem isReadable_bool (b : Bool) : isReadable depth (.bool b) = true := by
  simp [isReadable]

@[simp] theorem isReadable_ofOption (h : ∀ a, isReadable depth (write a) = true) (a : Option α) :
    isReadable depth (ofOption write a) = true := by
  cases a with
  | none => rfl
  | some a => exact h a

@[simp] theorem isReadable_array {items : List Tree} :
    isReadable (depth + 1) (.array items) = true ↔
      ∀ item ∈ items, isReadable depth item = true := by
  have hitems : areReadable depth items = true ↔ ∀ item ∈ items, isReadable depth item = true := by
    induction items with
    | nil => simp [areReadable]
    | cons item items ih => simp [areReadable, ih]
  simpa [isReadable] using hitems

@[simp] theorem isReadable_ofMembers {l : List (String × Tree)} :
    isReadable (depth + 1) (ofMembers l) = true ↔ ∀ m ∈ l, isReadable depth m.2 = true := by
  have hmembers : membersReadable depth (l.map fun m => (some m.1, m.2)) = true ↔
      ∀ m ∈ l, isReadable depth m.2 = true := by
    induction l with
    | nil => simp [membersReadable]
    | cons m l ih => simp [membersReadable, ih]
  rw [ofMembers, isReadable, ← hmembers]
  simp

@[simp] theorem isReadable_ofStrings (l : List String) :
    isReadable (depth + 1) (ofStrings l) = true := by
  simp [ofStrings]

theorem isReadable_ofRequest (r : Request) : isReadable (depth + 2) (ofRequest r) = true := by
  simp [ofRequest]

theorem isReadable_ofSavedSearch (s : SavedSearch) :
    isReadable (depth + 3) (ofSavedSearch s) = true := by
  simp [ofSavedSearch, isReadable_ofRequest]

/-! ## Lists -/

/-- A list of saved searches by itself. -/
def ofListing (l : List SavedSearch) : Tree := .array (l.map ofSavedSearch)

/-- A list of saved searches as a member of an object. -/
def ofWrappedListing (l : List SavedSearch) : Tree := ofMembers [("saved_searches", ofListing l)]

theorem isReadable_ofListing (l : List SavedSearch) :
    isReadable (depth + 4) (ofListing l) = true := by
  simp [ofListing, isReadable_ofSavedSearch]

theorem isReadable_ofWrappedListing (l : List SavedSearch) :
    isReadable (depth + 5) (ofWrappedListing l) = true := by
  simp [ofWrappedListing, isReadable_ofListing]

theorem isWritten_ofListing (l : List SavedSearch) : (ofListing l).IsWritten := by
  simp [ofListing, isWritten_ofSavedSearch]

theorem isWritten_ofWrappedListing (l : List SavedSearch) : (ofWrappedListing l).IsWritten := by
  simp [ofWrappedListing, isWritten_ofListing]

variable {l : List SavedSearch}

theorem list_ofListing (h : ∀ s ∈ l, HasPlainTimes s) :
    Reader.list savedSearch (ofListing l) = some l :=
  list_map fun s hs => by rw [savedSearch_ofSavedSearch, if_pos (h s hs)]

theorem savedListing_ofListing (h : ∀ s ∈ l, HasPlainTimes s) :
    savedListing (ofListing l) = some l := by
  have hreadable : isReadable Value.maxDepth (ofListing l) = true :=
    show isReadable (123 + 4) _ = true from isReadable_ofListing l
  rw [savedListing, if_pos hreadable, list_ofListing h]
  rfl

theorem savedListing_ofWrappedListing (h : ∀ s ∈ l, HasPlainTimes s) :
    savedListing (ofWrappedListing l) = some l := by
  have hreadable : isReadable Value.maxDepth (ofWrappedListing l) = true :=
    show isReadable (122 + 5) _ = true from isReadable_ofWrappedListing l
  have hnames : ["saved_searches"].Nodup := by decide
  have hfields : (ofWrappedListing l).fields? ["saved_searches"] 0 = some [some (ofListing l)] :=
    fields?_ofMembers hnames rfl 0
  have hwrapped : wrappedListing (ofWrappedListing l) = some l := by
    rw [ofWrappedListing, ofMembers] at hfields ⊢
    rw [wrappedListing, hfields]
    exact list_ofListing h
  rw [savedListing, if_pos hreadable, hwrapped]
  rfl

/-! ## Lists written elsewhere -/

/-- The document of the request that a saved search holds. -/
def storedRequest? (t : Tree) : Option Tree :=
  match t.fields? savedSearchFields 0 with
  | some [_, _, search, _, _, _] => search
  | _ => none

/-- A saved search that holds the document of a request is read with that request, however its
other fields are written. -/
theorem savedSearch_request {t : Tree} {saved : SavedSearch} {r : Request}
    (hstored : storedRequest? t = some (ofRequest r)) (h : savedSearch t = some saved) :
    saved.request = r := by
  unfold storedRequest? at hstored
  split at hstored
  · rename_i hfields
    have hrequest : Reader.required request (some (ofRequest r)) = some r := request_ofRequest r
    simp only [savedSearch, hfields, hstored, hrequest, Option.bind_eq_bind, Option.bind_some,
      Option.bind_eq_some_iff, Option.some.injEq] at h
    obtain ⟨_, -, _, -, _, -, _, -, _, -, rfl⟩ := h
    rfl
  · cases hstored

/-! ## Saving and loading -/

theorem save_effects (s : Session) (op : OperationId) {name trimmed : String}
    (h : Text.trimmedNonBlank? name = some trimmed) :
    (s.step (.command op (.save name))).2 =
      [.call s.called (.createSaved ⟨trimmed, s.filter.value.request 1⟩)] := by
  show (s.save op name).2 = _
  rw [Session.save, h]
  rfl

/-- The filter stays in normal form in every run of a session that is given any filter that actions
can lead to. -/
theorem filter_normal (settings : Settings) (mode : Mode) (first : Option Request)
    (actions : List Filter.Action) (revision : Nat) (es : List Event) :
    ((Session.startWith settings mode ⟨Filter.reached first actions, revision⟩).steps
      es).1.filter.value.Normal := by
  have hstart : Session.Fit settings
      (Session.startWith settings mode ⟨Filter.reached first actions, revision⟩) :=
    { Session.Fit.start settings mode with filter := Filter.normal_reached first actions }
  exact (Session.keep_moments (Session.Fit settings) (fun time h => h.setClock time)
    (fun hwait h => h.step hwait) hstart es).2.filter

/-- Any request, and any search that is to be saved, is read back from its text. So what a session
saves after any run, however that has led to the filter, is sent and read as it is. A saved search
that holds the request as sent is listed with that request, however the rest of it is written, and a
list whose instants are in plain years is read back as it is written, in both forms. Loading the
search from there, in any session at any time, brings the filter back as it was saved, on its first
page. -/
theorem stored_searches_restore_filters :
    (∀ r : Request, (Tree.ofText? (ofRequest r).toText).bind request = some r) ∧
    (∀ d : SavedSearch.Draft, (Tree.ofText? (ofDraft d).toText).bind draft = some d) ∧
    ∀ settings mode first actions revision es op name trimmed,
      Text.trimmedNonBlank? name = some trimmed →
      let start := Session.startWith settings mode ⟨Filter.reached first actions, revision⟩
      let s := (start.steps es).1
      let sent : SavedSearch.Draft := ⟨trimmed, s.filter.value.request 1⟩
      (s.step (.command op (.save name))).2 = [.call s.called (.createSaved sent)] ∧
      (∀ t saved, storedRequest? t = some (ofRequest sent.request) → savedSearch t = some saved →
        saved.request = sent.request) ∧
      (∀ listed : List SavedSearch, (∀ saved ∈ listed, HasPlainTimes saved) →
        (Tree.ofText? (ofListing listed).toText).bind savedListing = some listed ∧
        (Tree.ofText? (ofWrappedListing listed).toText).bind savedListing = some listed) ∧
      ∀ (saved : SavedSearch), saved.request = sent.request → ∀ (t : Session) (op' : OperationId),
        (t.step (.command op' (.filter (.load saved.request)))).1.filter.value =
          s.filter.value.toFirstPage := by
  refine ⟨fun r => ?_, fun d => ?_, ?_⟩
  · rw [Tree.ofText?_toText (isWritten_ofRequest r), Option.bind_some, request_ofRequest]
  · rw [Tree.ofText?_toText (isWritten_ofDraft d), Option.bind_some, draft_ofDraft]
  intro settings mode first actions revision es op name trimmed hname start s sent
  have hnormal : s.filter.value.Normal := filter_normal settings mode first actions revision es
  refine ⟨save_effects s op hname, fun t saved => savedSearch_request,
    fun listed htimes => ⟨?_, ?_⟩, fun saved hrequest t op' => ?_⟩
  · rw [Tree.ofText?_toText (isWritten_ofListing listed), Option.bind_some,
      savedListing_ofListing htimes]
  · rw [Tree.ofText?_toText (isWritten_ofWrappedListing listed), Option.bind_some,
      savedListing_ofWrappedListing htimes]
  · show Filter.ofRequest saved.request = _
    rw [hrequest]
    exact hnormal.ofRequest_request 1

/-- A search with a control character and tags is saved from its third page and comes back on its
first one. -/
theorem stored_search_restored :
    let f := Filter.reached none [.setQuery "milk\x07", .change (.tags ["b", "a"])]
    let start := Session.startWith {} .standalone ⟨f, 0⟩
    let s := (start.steps [.command 0 (.filter (.setPage 3))]).1
    let saved : SavedSearch :=
      { id := 1, name := "recent", request := s.filter.value.request 1
        createdAt := Timestamp.ofText? "2026-07-03T10:00:00" }
    s.filter.value = { f with page := 3 } ∧ HasPlainTimes saved ∧
      storedRequest? (ofSavedSearch saved) = some (ofRequest (s.filter.value.request 1)) ∧
      savedSearch (ofSavedSearch saved) = some saved ∧
      saved.request = s.filter.value.request 1 ∧
      (Tree.ofText? (ofListing [saved]).toText).bind savedListing = some [saved] ∧
      (start.step (.command 1 (.filter (.load saved.request)))).1.filter.value = f := by
  intro f start s saved
  have htimes : HasPlainTimes saved := by decide +kernel
  have hread : savedSearch (ofSavedSearch saved) = some saved := by
    rw [savedSearch_ofSavedSearch, if_pos htimes]
  have hname : Text.trimmedNonBlank? " recent " = some "recent" := by decide +kernel
  obtain ⟨-, -, hsessions⟩ := stored_searches_restore_filters
  obtain ⟨-, hstored, hlisted, hloaded⟩ := hsessions {} .standalone none
    [.setQuery "milk\x07", .change (.tags ["b", "a"])] 0 [.command 0 (.filter (.setPage 3))] 1
    " recent " "recent" hname
  refine ⟨rfl, htimes, rfl, hread, hstored (ofSavedSearch saved) saved rfl hread,
    (hlisted [saved] (by simpa using htimes)).1, ?_⟩
  exact (hloaded saved rfl start 1).trans rfl

end NoteSearch.Wire
