-- SUMMARY: Everything that a session sends is in normal form and stands for what the session shows.
import NoteSearch.Proofs.Search.NormalForm
import NoteSearch.Proofs.Session.CompletionCalls
import NoteSearch.Proofs.Session.Completions

/-!
# Sent requests

Texts come from the user, from stored searches and from the settings, in any form. What is sent is
in normal form all the same (`Call.Normal`), and it stands for the filters as they are at that
moment (`SentFrom`): a search is for the page of the filter unless the host has asked for another
one.
`Sends` says so for one step, `sent_calls_normal` for every run.
-/

namespace NoteSearch

/-! ## Normal calls -/

/-- Tags as they are sent: at least one, in order, without duplicates. -/
structure IsTagList (tags : List String) : Prop where
  ne_nil : tags ≠ []
  sorted : tags.Pairwise (· < ·)
  trimmed : ∀ tag ∈ tags, Text.IsTrimmed tag

/-- A search as it is sent. -/
structure Request.Normal (r : Request) : Prop where
  query : ∀ query ∈ r.query, Text.isBlankString query = false
  tags : ∀ tags ∈ r.tags, IsTagList tags
  excludedTags : ∀ tags ∈ r.excludedTags, IsTagList tags
  sortBy : Text.IsTrimmed r.sortBy
  page : 1 ≤ r.page
  perPage : 1 ≤ r.perPage

/-- A request for notes as it is sent. -/
structure NoteQuery.Normal (q : NoteQuery) : Prop where
  page : 1 ≤ q.page
  perPage : 1 ≤ q.perPage
  search : ∀ text ∈ q.search, Text.IsTrimmed text
  tags : ∀ text ∈ q.tags, Text.IsTrimmed text

/-- A text for which completions are fetched. -/
structure IsCompletable (settings : Settings) (text : String) : Prop where
  trimmed : Text.trimmed text = text
  length : settings.minSuggestionLength.toNat ≤ text.length

/-- A call as it is sent. -/
def Call.Normal (settings : Settings) : Call → Prop
  | .search r => r.Normal
  | .suggestions text _ => IsCompletable settings text
  | .createSaved draft => Text.IsTrimmed draft.name ∧ draft.request.Normal ∧ draft.request.page = 1
  | .notes q => q.Normal
  | _ => True

theorem isTagList_of_wireTags {tags : TagSet} (h : ∀ tag ∈ tags.toList, Text.IsTrimmed tag)
    {sent : List String} (hsent : sent ∈ Filter.wireTags tags) : IsTagList sent := by
  unfold Filter.wireTags at hsent
  split at hsent
  · cases hsent
  · rename_i hempty
    cases hsent
    exact ⟨by simpa [TagSet.isEmpty] using hempty, tags.sorted, h⟩

/-- What a filter in normal form sends is in normal form. -/
theorem Filter.Normal.request {f : Filter} (h : f.Normal) (page : UInt32) :
    (f.request page).Normal where
  query := fun query hquery => by
    unfold Filter.request Text.nonBlank? at hquery
    split at hquery
    · cases hquery
    · rename_i hblank
      cases hquery
      exact Bool.eq_false_iff.2 hblank
  tags := fun _ htags => isTagList_of_wireTags h.tags htags
  excludedTags := fun _ htags => isTagList_of_wireTags h.excludedTags htags
  sortBy := isTrimmed_normalSort _
  page := one_le_atLeastOne _
  perPage := one_le_atLeastOne _

theorem NotePane.query_normal {p : NotePane} (h : 1 ≤ p.perPage) (page : UInt32) :
    (p.query page).Normal where
  page := one_le_atLeastOne _
  perPage := h
  search := fun _ htext => Text.isTrimmed_of_trimmedNonBlank? htext
  tags := fun _ htext => Text.isTrimmed_of_trimmedNonBlank? htext

theorem NotePane.perPage_receive (w : Watched NotePane) (ticket : Nat) (query : NoteQuery)
    (a : Except Failure NotePage) :
    (NotePane.receive w ticket query a).1.value.perPage = w.value.perPage := by
  unfold NotePane.receive
  split
  · cases a <;> rfl
  · rfl

/-- The page that the host asks for in a search of its own. -/
def Event.asked? : Event → Option UInt32
  | .command _ (.run page) => page
  | _ => none

namespace Session

variable {s t : Session} {st : Step} {asked : Option UInt32}

/-! ## What a step sends -/

/-- A call that stands for the filters of a session. A search is for the page of the filter, or for
the page that has been asked for. -/
def SentFrom (asked : Option UInt32) (t : Session) : Call → Prop
  | .search r =>
    r = t.filter.value.request r.page ∧
      r.page = (asked.map atLeastOne).getD t.filter.value.page
  | .createSaved draft =>
    Text.IsTrimmed draft.name ∧ draft.request = t.filter.value.request 1
  | .notes q => q = t.notes.value.query q.page
  | _ => True

/-- A step that keeps the filters in normal form and sends what stands for them. -/
structure Sends (asked : Option UInt32) (s : Session) (st : Step) : Prop where
  filter : s.filter.value.Normal → st.1.filter.value.Normal
  perPage : st.1.notes.value.perPage = s.notes.value.perPage
  calls : s.filter.value.Normal → ∀ id call, .call id call ∈ st.2 → SentFrom asked st.1 call

/-- A step without calls. -/
theorem Sends.of_silent (hfilter : s.filter.value.Normal → st.1.filter.value.Normal)
    (hperPage : st.1.notes.value.perPage = s.notes.value.perPage)
    (hcalls : ∀ id call, .call id call ∉ st.2) : Sends asked s st :=
  ⟨hfilter, hperPage, fun _ id call hcall => absurd hcall (hcalls id call)⟩

/-- A change that is no concern of the filters. -/
theorem Sends.of_eq (hfilter : t.filter = s.filter) (hnotes : t.notes = s.notes) :
    Sends asked s (t, []) :=
  .of_silent (by rw [hfilter]; exact id) (by rw [hnotes]) (by simp)

theorem Sends.then (h : Sends asked s (t, [])) (k : Sends asked t st) : Sends asked s st :=
  ⟨k.filter ∘ h.filter, k.perPage.trans h.perPage, k.calls ∘ h.filter⟩

/-- What follows a reply, after the reply has been taken. -/
theorem Sends.answered {id : Nat} (h : Sends asked (s.forget id) st) (r : Reply) :
    Sends asked s (st.1, .answered id r :: st.2) :=
  ⟨h.filter, h.perPage, fun hs i call hcall => h.calls hs i call (by simpa using hcall)⟩

theorem finish_sends (s : Session) (op : OperationId) (r : Result) :
    Sends asked s (s.finish op r) :=
  .of_silent id rfl (by simp [finish])

theorem act_sends (s : Session) (a : Filter.Action) : Sends asked s (s.act a, []) :=
  .of_silent (fun h => h.act a) rfl (by simp)

theorem patchNotes_sends (s : Session) (p : NoteFilter.Patch) :
    Sends asked s (s.patchNotes p, []) :=
  .of_silent id rfl (by simp)

theorem cancelWrite_sends (s : Session) : Sends asked s (s.cancelWrite, []) := by
  obtain ⟨box, writes, calls, h⟩ := s.exists_cancelWrite
  rw [h]
  exact .of_eq rfl rfl

/-- A call with something to be shown for, or one that needs nothing. -/
theorem send_sends (s : Session) {p : Pending}
    (h : s.filter.value.Normal → SentFrom asked s p.call) : Sends asked s (s.send p) := by
  refine ⟨id, rfl, fun hs id call hcall => ?_⟩
  cases List.mem_singleton.1 hcall
  exact h hs

/-- A search for the page of the filter, or for the page that has been asked for. -/
theorem startSearch_sends {page : Option UInt32} (purpose : SearchPurpose)
    (h : page.getD s.filter.value.page = asked.getD s.filter.value.page) :
    Sends asked s (s.startSearch page purpose) := by
  refine Sends.then (t := { s with search := s.search.update (·.begin) }) (.of_eq rfl rfl) ?_
  refine send_sends _ fun hs => ⟨(Filter.request_atLeastOne _ _).symm, ?_⟩
  have hpage : atLeastOne s.filter.value.page = s.filter.value.page := atLeastOne_eq_self hs.page
  change atLeastOne (page.getD s.filter.value.page) = _
  rw [h]
  cases asked with
  | none => exact hpage
  | some p => rfl

theorem startNotes_sends (s : Session) (page : UInt32) (purpose : NotesPurpose) :
    Sends asked s (s.startNotes page purpose) := by
  refine ⟨id, rfl, fun _ id call hcall => ?_⟩
  cases List.mem_singleton.1 hcall
  simp [SentFrom, startNotes, send, Pending.call, NotePane.query, NotePane.begin]

theorem startRefresh_sends (s : Session) (op : OperationId) (r : Result) :
    Sends asked s (s.startRefresh op r) :=
  Sends.then (t := { s with saved := s.saved.update (·.beginRefresh) }) (.of_eq rfl rfl)
    (send_sends _ fun _ => trivial)

/-! ## Operations -/

theorem save_sends (s : Session) (op : OperationId) (name : String) :
    Sends asked s (s.save op name) := by
  unfold save
  split
  · exact finish_sends s op _
  · exact send_sends s fun _ => ⟨Text.isTrimmed_of_trimmedNonBlank? ‹_›, rfl⟩

theorem loadInsights_sends (s : Session) (op : OperationId) :
    Sends asked s (s.loadInsights op) := by
  refine ⟨id, rfl, fun _ id call hcall => ?_⟩
  simp only [loadInsights, send, Step.andThen, List.singleton_append, List.mem_cons,
    List.not_mem_nil, or_false, Effect.call.injEq] at hcall
  rcases hcall with ⟨-, rfl⟩ | ⟨-, rfl⟩ | ⟨-, rfl⟩ <;> exact trivial

/-- Making a text the query and searching for it, from the first page. -/
theorem searchFor_sends (s : Session) (text : String) (purpose : SearchPurpose) :
    Sends none s ((s.dismiss.act (.setQuery text)).startSearch (some 1) purpose) :=
  Sends.then (t := s.dismiss) (.of_eq rfl rfl)
    ((act_sends _ _).then (startSearch_sends purpose rfl))

theorem submit_sends (s : Session) (op : OperationId) (byKey : Bool) :
    Sends none s (s.submit op byKey) := by
  unfold submit
  refine s.cancelWrite_sends.then ?_
  dsimp only
  split
  · exact finish_sends _ op _
  · exact searchFor_sends _ _ _

theorem commit_sends (s : Session) (op : OperationId) (text : String) (byKey : Bool) :
    Sends none s (s.commit op text byKey) := by
  let retyped := { s.cancelWrite with box := { s.cancelWrite.box with text } }
  have hretyped : Sends none s.cancelWrite (retyped, []) := .of_eq rfl rfl
  exact s.cancelWrite_sends.then (hretyped.then (searchFor_sends retyped text _))

/-- Query and results are emptied first. -/
theorem clearSearch_sends (s : Session) {next : Session → Step}
    (h : ∀ t, Sends asked t (next t)) : Sends asked s (s.clearSearch.andThen next) := by
  have hnext := h s.clearSearch.1
  refine ⟨fun hs => hnext.filter (hs.act (.setQuery "")), hnext.perPage, fun hs id call hcall => ?_⟩
  exact hnext.calls (hs.act (.setQuery "")) id call
    (by simpa [clearSearch, Step.andThen] using hcall)

theorem finishEscape_sends (s : Session) (op : OperationId) :
    Sends asked s (s.finishEscape op) :=
  Sends.then (t := s.blur) (.of_eq rfl rfl) (finish_sends _ op _)

theorem clearBox_sends (s : Session) (op : OperationId) (byEscape : Bool) :
    Sends asked s (s.clearBox op byEscape) := by
  have hfinished (t : Session) :
      Sends asked t (if byEscape then t.finishEscape op else t.finish op .done) := by
    split
    · exact finishEscape_sends t op
    · exact finish_sends t op _
  let emptied := ({ s.cancelWrite with box := { s.cancelWrite.box with text := "" } }).dismiss
  have hemptied : Sends asked s (emptied, []) :=
    s.cancelWrite_sends.then (.of_eq rfl rfl)
  unfold clearBox
  dsimp only
  split
  · exact hemptied.then (clearSearch_sends emptied hfinished)
  · exact hemptied.then ((patchNotes_sends _ _).then (startNotes_sends _ _ _))
  · exact hemptied.then (hfinished emptied)

theorem withSuggestions_sends (s : Session) (w : Watched Suggestions) :
    Sends asked s (s.withSuggestions w, []) :=
  .of_eq rfl rfl

theorem press_sends (s : Session) (op : OperationId) (k : KeyPress) :
    Sends none s (s.press op k) := by
  by_cases hkey : s.box.focused = true ∧ (k.key = .escape ∨ k.key = .enter)
  · obtain ⟨hfocus, hkey | hkey⟩ := hkey
    · rw [press_escape op hfocus hkey]
      exact clearBox_sends s op true
    · rw [press_enter op hfocus hkey]
      split
      · exact (s.withSuggestions_sends _).then (commit_sends _ op _ true)
      split
      · exact (s.withSuggestions_sends _).then (submit_sends _ op true)
      · exact submit_sends s op true
  · obtain ⟨r, hr | hr | ⟨key, -, -, hr⟩⟩ := press_other op hkey
    · rw [hr]
      exact Sends.then (t := s.focus) (.of_eq rfl rfl) (finish_sends _ op r)
    · rw [hr]
      exact finish_sends s op r
    · rw [hr]
      exact (s.withSuggestions_sends _).then (finish_sends _ op r)

theorem type_sends (s : Session) (text : String) : Sends asked s (s.type text, []) := by
  obtain ⟨box, writes, calls, h⟩ := (s.withSuggestions
    (s.suggestions.update (·.type s.settings s.now text))).exists_retype text
  have htype : s.type text = _ := h
  rw [htype]
  exact .of_eq rfl rfl

theorem perform_sends (s : Session) (op : OperationId) (c : Command) :
    Sends (Event.command op c).asked? s (s.perform op c) := by
  cases c with
  | filter a => exact (act_sends s a).then (finish_sends _ op _)
  | run page => exact startSearch_sends _ rfl
  | goToPage page => exact (act_sends s _).then (startSearch_sends _ rfl)
  | clearSearch => exact clearSearch_sends s fun t => finish_sends t op _
  | typeSuggestion text => exact (s.withSuggestions_sends _).then (finish_sends _ op _)
  | focusSuggestions =>
    exact Sends.then (t := { s with suggestions := s.suggestions.update (·.focus) })
      (.of_eq rfl rfl) (finish_sends _ op _)
  | blurSuggestions =>
    exact Sends.then (t := { s with suggestions := s.suggestions.update (·.blur) })
      (.of_eq rfl rfl) (finish_sends _ op _)
  | dismissSuggestions => exact (s.withSuggestions_sends _).then (finish_sends _ op _)
  | chooseSuggestion index => exact (s.withSuggestions_sends _).then (finish_sends _ op _)
  | pressSuggestion key => exact (s.withSuggestions_sends _).then (finish_sends _ op _)
  | refreshSaved => exact startRefresh_sends s op _
  | save name => exact save_sends s op name
  | execute saved =>
    exact Sends.then (t := { s with saved := s.saved.update (·.beginExecution) }) (.of_eq rfl rfl)
      (send_sends _ fun _ => trivial)
  | delete id => exact send_sends s fun _ => trivial
  | patchNotes p => exact (patchNotes_sends s p).then (finish_sends _ op _)
  | fetchNotes page => exact startNotes_sends s page _
  | loadInsights => exact loadInsights_sends s op
  | type text => exact (s.type_sends text).then (finish_sends _ op _)
  | focus => exact Sends.then (t := s.focus) (.of_eq rfl rfl) (finish_sends _ op _)
  | blur => exact Sends.then (t := s.blur) (.of_eq rfl rfl) (finish_sends _ op _)
  | setMode mode =>
    have hmode : Sends none s.cancelWrite (s.setMode mode, []) := .of_eq rfl rfl
    exact s.cancelWrite_sends.then (hmode.then (finish_sends _ op _))
  | submit => exact submit_sends s op false
  | commit text => exact commit_sends s op text false
  | clearBox => exact clearBox_sends s op false
  | press k => exact press_sends s op k

/-! ## Replies and timers -/

theorem afterSearch_sends (s : Session) (o : Outcome) (purpose : SearchPurpose) :
    Sends asked s (s.afterSearch o purpose) := by
  cases purpose with
  | run op => exact finish_sends s op _
  | liveWrite number => exact .of_eq rfl rfl
  | submit op byKey =>
    exact Sends.then (t := s.navigate .searchResults) (.of_eq rfl rfl) (finish_sends _ op _)
  | commit op byKey leads =>
    cases leads with
    | false => exact finish_sends s op _
    | true =>
      exact Sends.then (t := s.navigate .searchResults) (.of_eq rfl rfl) (finish_sends _ op _)
  | execution op => exact startRefresh_sends s op _

theorem afterNotes_sends (s : Session) (o : Outcome) (purpose : NotesPurpose) :
    Sends asked s (s.afterNotes o purpose) := by
  cases purpose with
  | fetch op => exact finish_sends s op _
  | liveWrite number => exact .of_eq rfl rfl
  | clear op => exact finish_sends s op _
  | escape op => exact finishEscape_sends s op

/-- A stored search is loaded in normal form, on its first page. -/
theorem afterExecute_sends (s : Session) (execution : Nat) (op : OperationId)
    (saved : SavedSearch) (a : Except Failure ResultPage) :
    Sends none s (s.afterExecute execution op saved a) := by
  unfold afterExecute
  split
  · exact finish_sends s op _
  · cases a with
    | error failure => exact finish_sends s op _
    | ok results => exact (act_sends s (.load saved.request)).then (startSearch_sends _ rfl)

theorem afterCreate_sends (s : Session) (op : OperationId) (a : Except Failure SavedSearch) :
    Sends asked s (s.afterCreate op a) := by
  cases a with
  | error failure => exact finish_sends s op _
  | ok saved => exact startRefresh_sends s op _

theorem afterDelete_sends (s : Session) (op : OperationId) (id : Int64)
    (a : Except Failure Unit) : Sends asked s (s.afterDelete op id a) := by
  cases a with
  | error failure => exact finish_sends s op _
  | ok _ =>
    exact Sends.then (t := { s with saved := s.saved.update (·.remove id) }) (.of_eq rfl rfl)
      (startRefresh_sends _ op _)

theorem afterPart_sends (s : Session) (load : Nat) (op : OperationId) (part : InsightsPart) :
    Sends asked s (s.afterPart load op part) := by
  unfold afterPart
  split
  · rename_i insights _
    exact Sends.then (t := { s with insights }) (.of_eq rfl rfl) (finish_sends _ op _)
  · exact .of_eq rfl rfl

theorem reply_sends (s : Session) (id : Nat) (r : Reply) : Sends none s (s.reply id r) := by
  unfold reply
  split
  · exact .of_eq rfl rfl
  · rename_i p hid
    cases htake : (s.forget id).take p r with
    | none => exact .of_eq rfl rfl
    | some st =>
      refine Sends.answered ?_ r
      unfold take at htake
      split at htake
      case h_11 => cases htake
      all_goals cases htake
      case h_1 ticket request purpose a =>
        let t := { s.forget id with search := (SearchPane.receive s.search ticket request a).1 }
        have ht : Sends none (s.forget id) (t, []) := .of_eq rfl rfl
        exact ht.then (afterSearch_sends t _ _)
      case h_2 => exact .of_eq rfl rfl
      case h_3 refresh op result a =>
        let t := { s.forget id with saved := SavedPane.receive s.saved refresh a }
        have ht : Sends none (s.forget id) (t, []) := .of_eq rfl rfl
        exact ht.then (finish_sends t op result)
      case h_4 => exact afterCreate_sends _ _ _
      case h_5 => exact afterExecute_sends _ _ _ _ _
      case h_6 => exact afterDelete_sends _ _ _ _
      case h_10 ticket query purpose a =>
        let t := { s.forget id with notes := (NotePane.receive s.notes ticket query a).1 }
        have ht : Sends none (s.forget id) (t, []) :=
          .of_silent (fun hs => hs) (NotePane.perPage_receive s.notes ticket query a) (by simp)
        exact ht.then (afterNotes_sends t _ _)
      all_goals exact afterPart_sends _ _ _ _

theorem liveWrite_sends (s : Session) (w : LiveWrite) : Sends none s (s.liveWrite w) := by
  unfold liveWrite
  split
  · split
    · exact .of_eq rfl rfl
    · exact (patchNotes_sends s _).then (startNotes_sends _ _ _)
  · dsimp only
    split
    · exact .of_eq rfl rfl
    split
    · exact .of_silent (fun hs => hs.act (.setQuery "")) rfl (by simp [clearSearch])
    · exact (act_sends s _).then (startSearch_sends _ rfl)
  · exact .of_eq rfl rfl

theorem ring_sends (s : Session) (t : Timer) : Sends none s (s.ring t) := by
  cases t with
  | fetch =>
    simp only [ring]
    split
    · exact .of_eq rfl rfl
    · rename_i f _
      split
      · let w : Watched Suggestions := { s.suggestions with value := s.suggestions.value.fire }
        exact Sends.then (t := { s with suggestions := w }) (.of_eq rfl rfl)
          (send_sends _ fun _ => trivial)
      · exact .of_eq rfl rfl
  | write number =>
    simp only [ring]
    split
    · exact .of_eq rfl rfl
    · rename_i w _
      have hdrop : Sends none s (s.dropWrite w.number, []) := .of_eq rfl rfl
      rw [wake_eq]
      cases s.box.claim? w.number with
      | none => exact hdrop
      | some box =>
        have hbox : Sends none (s.dropWrite w.number) ({ s.dropWrite w.number with box }, []) :=
          .of_eq rfl rfl
        exact hdrop.then (hbox.then (liveWrite_sends _ w))

/-- What happens at a moment. -/
theorem step_sends {e : Event} (hwait : e.isWait = false) : Sends e.asked? s (s.step e) := by
  cases e with
  | command op c => exact perform_sends s op c
  | reply id r => exact reply_sends s id r
  | wait ms => cases hwait
  | pass ms => exact .of_eq rfl rfl
  | ring t => exact ring_sends s t

/-! ## Runs -/

theorem isCompletable_of_typeTouch {settings : Settings} {text p : String}
    (h : Suggestions.typeTouch settings text = .renew p) : IsCompletable settings p := by
  obtain ⟨rfl, hlength⟩ := Suggestions.typeTouch_eq_renew h
  exact ⟨Text.trimmed_trimmed text, hlength⟩

/-- The filters are in normal form, and whatever waits to be fetched may be fetched. -/
structure Fit (settings : Settings) (s : Session) : Prop where
  settings_eq : s.settings = settings
  filter : s.filter.value.Normal
  perPage : 1 ≤ s.notes.value.perPage
  waiting : ∀ x ∈ s.suggestions.value.waiting?, IsCompletable settings x.2

variable {settings : Settings}

theorem Fit.start (settings : Settings) (mode : Mode) : Fit settings (start settings mode) where
  settings_eq := rfl
  filter := { Filter.Normal.default with perPage := one_le_atLeastOne _ }
  perPage := one_le_atLeastOne _
  waiting := nofun

theorem Fit.setClock (h : Fit settings s) (time : Nat) : Fit settings (s.setClock time) :=
  ⟨h.settings_eq, h.filter, h.perPage, h.waiting⟩

theorem Fit.step (h : Fit settings s) {e : Event} (hwait : e.isWait = false) :
    Fit settings (s.step e).1 := by
  have hsends := step_sends (s := s) hwait
  refine ⟨(settings_steps s [e]).trans h.settings_eq, hsends.filter h.filter,
    hsends.perPage ▸ h.perPage, fun x hx => ?_⟩
  rcases waiting?_step hx with ⟨-, hold⟩ | ⟨text, -, htext⟩
  · exact h.waiting x hold
  · exact isCompletable_of_typeTouch (h.settings_eq ▸ htext)

theorem exists_waiting?_of_sentFetch? {e : Event} {text : String} (h : s.sentFetch? e = some text) :
    ∃ due, s.suggestions.value.waiting? = some (due, text) := by
  unfold sentFetch? at h
  split at h
  · obtain ⟨f, hf, rfl⟩ := Option.map_eq_some_iff.1 h
    exact ⟨f.due, by rw [Suggestions.waiting?, (Option.filter_eq_some_iff.1 hf).1]; rfl⟩
  · cases h

/-- What is fetched has waited. -/
theorem Fit.isCompletable (h : Fit settings s) {e : Event} (hwait : e.isWait = false) {id : Nat}
    {text : String} {limit : UInt32} (hcall : .call id (.suggestions text limit) ∈ (s.step e).2) :
    IsCompletable settings text := by
  have hsent : (text, limit) ∈ (s.step e).2.filterMap Effect.fetch? :=
    List.mem_filterMap.2 ⟨_, hcall, rfl⟩
  rw [fetches_step hwait] at hsent
  obtain ⟨typed, htyped, heq⟩ := List.mem_map.1 hsent
  cases heq
  obtain ⟨due, hwaiting⟩ := exists_waiting?_of_sentFetch? (Option.mem_toList.1 htyped)
  exact h.waiting _ hwaiting

/-- Everything that is sent in a run is in normal form and stands for the filters as they are at the
moment when it is sent, whatever the settings are. A search is for the page of the filter, unless
the host runs it for another one. -/
theorem sent_calls_normal (settings : Settings) (mode : Mode) (es : List Event) :
    let s := start settings mode
    ∀ id call, .call id call ∈ (s.steps es).2 → ∃ m ∈ s.moments es,
      .call id call ∈ (m.1.step m.2).2 ∧ call.Normal settings ∧
      SentFrom m.2.asked? (m.1.step m.2).1 call := by
  intro s id call hcall
  rw [effects_moments] at hcall
  obtain ⟨m, hm, hcall⟩ := List.mem_flatMap.1 hcall
  obtain ⟨hfit, hwait⟩ := (keep_moments (Fit settings) (fun time h => h.setClock time)
    (fun hwait h => h.step hwait) (Fit.start settings mode) es).1 m hm
  have hsent := (step_sends hwait).calls hfit.filter id call hcall
  refine ⟨m, hm, hcall, ?_, hsent⟩
  have hafter := hfit.step hwait
  cases call with
  | search r =>
    rw [Call.Normal, hsent.1]
    exact hafter.filter.request _
  | suggestions text limit => exact hfit.isCompletable hwait hcall
  | createSaved draft =>
    obtain ⟨hname, hrequest⟩ := hsent
    rw [Call.Normal, hrequest]
    exact ⟨hname, hafter.filter.request 1, rfl⟩
  | notes q =>
    rw [Call.Normal, show q = _ from hsent]
    exact NotePane.query_normal hafter.perPage _
  | _ => trivial

/-- A stored search with padded tags, blank texts and no page size is sent in normal form. -/
theorem sent_stored_search_normal :
    let settings : Settings := { perPage := 0, notesPerPage := 0 }
    let stored : Request :=
      { query := some " ", tags := some [" b", "a ", " "], sortBy := " ", page := 7, perPage := 0 }
    let es : List Event :=
      [.command 0 (.execute { id := 1, name := "x", request := stored }),
        .reply 0 (.executeSaved (.ok {}))]
    let call : Call := .search { tags := some ["a", "b"], perPage := 1 }
    let s := start settings .searchPage
    .call 1 call ∈ (s.steps es).2 ∧ ∃ m ∈ s.moments es,
      .call 1 call ∈ (m.1.step m.2).2 ∧ call.Normal settings ∧
      SentFrom m.2.asked? (m.1.step m.2).1 call := by
  intro settings stored es call s
  have hrequest :
      (Filter.ofRequest stored).request 1 = { tags := some ["a", "b"], perPage := 1 } := by
    decide +kernel
  have heffects : (s.steps es).2 =
      [.call 0 (.executeSaved 1), .answered 0 (.executeSaved (.ok {})),
        .call 1 (.search ((Filter.ofRequest stored).request 1))] := by rfl
  have hcall : .call 1 call ∈ (s.steps es).2 := by
    rw [heffects, hrequest]
    simp [call]
  exact ⟨hcall, sent_calls_normal settings .searchPage es 1 call hcall⟩

end Session

end NoteSearch
