-- SUMMARY: A live write changes what its place is for and nothing else; a plain box writes nothing.
import NoteSearch.Proofs.Search.NormalForm
import NoteSearch.Proofs.Session.BlankSubmit
import NoteSearch.Proofs.Session.Completions
import NoteSearch.Proofs.Session.LiveWrites

/-!
# What a live write does

On the results page a live write makes the trimmed text the query, on the dashboard it makes the
text as it is the search text of the notes. It sends one request if that is new, and none otherwise;
a query that becomes empty empties the results instead. Everything else stays as it is
(`WritesQuery`, `WritesNotes`). Where typing only completes there is never a live write
(`OnlyCompletes`).
-/

namespace NoteSearch

/-- Whether an event types into the search box. -/
def Event.isTyping : Event → Bool
  | .command _ (.type _) => true
  | _ => false

namespace Session

variable {s t u : Session} {past : List Effect}

/-! ## The text of a live write -/

/-- The session that a live write meets: it waits for the live write no more. -/
def started (s : Session) (w : LiveWrite) : Session :=
  { s.dropWrite w.number with box := { s.box with pending := none } }

/-- A change that schedules no live write. If the box has another text afterwards or stands
elsewhere, it is in a later turn. -/
structure SchedulesNone (s t : Session) : Prop where
  writes : ∀ w ∈ t.writes, w ∈ s.writes
  box : t.box.turn = s.box.turn ∧ t.box.text = s.box.text ∧ t.box.mode = s.box.mode ∨
    s.box.turn < t.box.turn

theorem SchedulesNone.trans (h : SchedulesNone s t) (k : SchedulesNone t u) :
    SchedulesNone s u := by
  refine ⟨fun w hw => h.writes w (k.writes w hw), ?_⟩
  rcases h.box with ⟨hturn, htext, hmode⟩ | hlt
  · rcases k.box with ⟨kturn, ktext, kmode⟩ | klt
    · exact .inl ⟨kturn.trans hturn, ktext.trans htext, kmode.trans hmode⟩
    · exact .inr (hturn ▸ klt)
  · refine .inr (Nat.lt_of_lt_of_le hlt ?_)
    rcases k.box with ⟨kturn, -⟩ | klt
    · exact Nat.le_of_eq kturn.symm
    · exact Nat.le_of_lt klt

theorem KeepsWrite.schedulesNone (h : KeepsWrite s t) : SchedulesNone s t :=
  ⟨fun _ hw => h.writes ▸ hw, .inl ⟨h.turn, h.text, h.mode⟩⟩

theorem setClock_schedulesNone (s : Session) (time : Nat) : SchedulesNone s (s.setClock time) :=
  ⟨fun _ hw => hw, .inl ⟨rfl, rfl, rfl⟩⟩

/-- Dropping the live write begins a turn, in which the box may get another text and mode. -/
theorem cancelWrite_schedulesNone (s : Session) (text : String) (mode : Mode) :
    SchedulesNone s { s.cancelWrite with box := { s.cancelWrite.box with text, mode } } :=
  ⟨fun _ hw => s.writes_cancelWrite_sublist.subset hw, .inr (by simp)⟩

theorem submit_schedulesNone (s : Session) (op : OperationId) (byKey : Bool) :
    SchedulesNone s (s.submit op byKey).1 :=
  (s.cancelWrite_schedulesNone s.cancelWrite.box.text s.cancelWrite.box.mode).trans
    (s.submit_keepsWrite op byKey).schedulesNone

theorem commit_schedulesNone (s : Session) (op : OperationId) (text : String) (byKey : Bool) :
    SchedulesNone s (s.commit op text byKey).1 :=
  (s.cancelWrite_schedulesNone text s.cancelWrite.box.mode).trans
    (s.commit_keepsWrite op text byKey).schedulesNone

theorem clearBox_schedulesNone (s : Session) (op : OperationId) (byEscape : Bool) :
    SchedulesNone s (s.clearBox op byEscape).1 :=
  (s.cancelWrite_schedulesNone "" s.cancelWrite.box.mode).trans
    (s.clearBox_keepsWrite op byEscape).schedulesNone

theorem press_schedulesNone (s : Session) (op : OperationId) (k : KeyPress) :
    SchedulesNone s (s.press op k).1 := by
  by_cases hkey : s.box.focused = true ∧ (k.key = .escape ∨ k.key = .enter)
  · obtain ⟨hfocus, hescape | henter⟩ := hkey
    · rw [press_escape op hfocus hescape]
      exact s.clearBox_schedulesNone op true
    · have hlist (w : Watched Suggestions) := (s.withSuggestions_keepsWrite w).schedulesNone
      rw [press_enter op hfocus henter]
      split
      · exact (hlist _).trans (commit_schedulesNone _ op _ true)
      split
      · exact (hlist _).trans (submit_schedulesNone _ op true)
      · exact s.submit_schedulesNone op true
  · exact (s.press_keepsWrite op hkey).schedulesNone

theorem ring_schedulesNone (s : Session) (t : Timer) : SchedulesNone s (s.ring t).1 := by
  cases t with
  | fetch => exact s.ringFetch_keepsWrite.schedulesNone
  | write number =>
    have hdrop (w : LiveWrite) : SchedulesNone s (s.dropWrite w.number) :=
      ⟨fun _ hv => (List.mem_filter.1 hv).1, .inl ⟨rfl, rfl, rfl⟩⟩
    have hstart (w : LiveWrite) : SchedulesNone s (s.started w) :=
      ⟨(hdrop w).writes, .inl ⟨rfl, rfl, rfl⟩⟩
    simp only [ring]
    split
    · exact (KeepsWrite.refl s).schedulesNone
    · rename_i w _
      rw [wake_eq, SearchBox.claim?]
      by_cases hturn : w.number = s.box.turn
      · rw [if_pos hturn]
        exact (hstart w).trans (liveWrite_elsewhere _ w).keepsWrite.schedulesNone
      · rw [if_neg hturn]
        exact hdrop w

theorem ringUntil_schedulesNone (limit count : Nat) (s : Session) :
    SchedulesNone s (ringUntil limit count s).1 := by
  induction count generalizing s with
  | zero => exact setClock_schedulesNone s limit
  | succ count ih =>
    simp only [ringUntil, ringNext?_eq]
    cases hnext : s.nextRing? limit with
    | none => exact setClock_schedulesNone s limit
    | some m =>
      obtain ⟨due, -, -, -, hclocked⟩ := of_nextRing? hnext
      have hclock : SchedulesNone s m.1 := hclocked ▸ setClock_schedulesNone s _
      exact (hclock.trans (ring_schedulesNone m.1 m.2)).trans (ih _)

/-- Only typing schedules a live write. -/
theorem step_schedulesNone (s : Session) {e : Event} (h : e.isTyping = false) :
    SchedulesNone s (s.step e).1 := by
  cases e with
  | command op c =>
    cases c with
    | type text => cases h
    | setMode mode => exact s.cancelWrite_schedulesNone s.cancelWrite.box.text mode
    | submit => exact s.submit_schedulesNone op false
    | commit text => exact s.commit_schedulesNone op text false
    | clearBox => exact s.clearBox_schedulesNone op false
    | press k => exact s.press_schedulesNone op k
    | focus => exact s.focus_keepsWrite.schedulesNone
    | blur => exact s.blur_keepsWrite.schedulesNone
    | focusSuggestions => exact (s.with_keepsWrite ..).schedulesNone
    | blurSuggestions => exact (s.with_keepsWrite ..).schedulesNone
    | typeSuggestion text => exact (s.withSuggestions_keepsWrite _).schedulesNone
    | dismissSuggestions => exact (s.withSuggestions_keepsWrite _).schedulesNone
    | chooseSuggestion index => exact (s.withSuggestions_keepsWrite _).schedulesNone
    | pressSuggestion key => exact (s.withSuggestions_keepsWrite _).schedulesNone
    | _ => exact (perform_elsewhere s op rfl).keepsWrite.schedulesNone
  | reply id r => exact (s.reply_keepsWrite id r).schedulesNone
  | wait ms => exact ringUntil_schedulesNone _ _ s
  | pass ms => exact setClock_schedulesNone s _
  | ring t => exact ring_schedulesNone s t

/-- A live write that may still take effect has the text and the mode of the box. -/
def Carried (s : Session) : Prop :=
  ∀ w ∈ s.writes, w.number = s.box.turn → w.text = s.box.text ∧ w.mode = s.box.mode

theorem SchedulesNone.carried (h : SchedulesNone s t) (htidy : Tidy s) (hs : Carried s) :
    Carried t := by
  intro w hw hturn
  have hold := h.writes w hw
  rcases h.box with ⟨kturn, ktext, kmode⟩ | hlt
  · rw [ktext, kmode]
    exact hs w hold (hturn.trans kturn)
  · exact absurd (htidy.writes_le w hold) (Nat.not_le.2 (hturn ▸ hlt))

/-- Whatever has been scheduled before is of an earlier turn than the new text. -/
theorem Tidy.carried_retype (h : Tidy s) (text : String) : Carried (s.retype text) := by
  have hold (w) (hw : w ∈ s.cancelWrite.writes) : w.number ≠ s.box.turn + 1 :=
    Nat.ne_of_lt (Nat.lt_succ_of_le (h.writes_le w (s.writes_cancelWrite_sublist.subset hw)))
  intro w hw hturn
  rw [turn_retype] at hturn
  simp only [Session.retype, scheduleWrite] at hw ⊢
  split at hw
  · exact absurd hturn (hold w hw)
  · rw [if_neg ‹_›]
    rcases List.mem_append.1 hw with hw | hw
    · exact absurd hturn (hold w hw)
    · rw [List.mem_singleton.1 hw]
      exact ⟨rfl, rfl⟩

theorem Tidy.withSuggestions (h : Tidy s) (w : Watched Suggestions) :
    Tidy (s.withSuggestions w) :=
  h.of_calls rfl rfl rfl fun _ hc => .inl (List.mem_filter.1 hc).1

theorem Carried.step (hs : Carried s) (htidy : Tidy s) (e : Event) : Carried (s.step e).1 := by
  cases htyping : e.isTyping with
  | false => exact (s.step_schedulesNone htyping).carried htidy hs
  | true =>
    unfold Event.isTyping at htyping
    split at htyping
    · exact (htidy.withSuggestions _).carried_retype _
    · cases htyping

/-! ## Searches that are overtaken -/

/-- The answers to all searches in flight come too late, whenever they come: they change nothing on
the results page, and what waits for them learns that they are superseded. -/
def SearchesSuperseded (s : Session) : Prop :=
  ∀ id ticket request purpose, ⟨id, .search ticket request purpose⟩ ∈ s.calls →
    ∀ (later : List Event) (a : Except Failure ResultPage),
      (∀ r, .answered id r ∉ (s.steps later).2) →
      let t := (s.steps later).1
      let ended := (t.forget id).afterSearch .superseded purpose
      t.step (.reply id (.search a)) = (ended.1, .answered id (.search a) :: ended.2) ∧
        ended.1.search = t.search

theorem search_afterSearch (s : Session) (o : Outcome) (purpose : SearchPurpose) :
    (s.afterSearch o purpose).1.search = s.search := by
  cases purpose with
  | commit op byKey leads => cases leads <;> rfl
  | _ => rfl

/-- Once the results page has a greater ticket, no search in flight is waited for any more. -/
theorem Accounted.searchesSuperseded (h : Accounted s past)
    (hlt : ∀ c ∈ s.calls, ∀ n, Pane.search.ticket? c.pending = some n → n < s.search.value.issued) :
    SearchesSuperseded s := by
  intro id ticket request purpose hc later a hnone t ended
  have hmem := h.mem_calls_of_unanswered hc rfl hnone
  have hlate : ticket ≠ t.search.value.issued := by
    have hissued := issued_search_steps s later
    have hticket := hlt _ hc ticket rfl
    simp only [t]
    omega
  have hreceive : SearchPane.receive t.search ticket request a = (t.search, .superseded) := by
    rw [SearchPane.receive, if_neg hlate]
  have hreply := (h.steps later).reply_search hmem a
  rw [show SearchPane.receive (s.steps later).1.search ticket request a = _ from hreceive] at hreply
  exact ⟨hreply, search_afterSearch _ _ _⟩

/-! ## Effects of typing -/

/-- What a live write does on the results page. -/
structure WritesQuery (s : Session) (w : LiveWrite) (st : Step) : Prop where
  elsewhere : ∃ filter search calls called,
    st.1 = { s.started w with filter, search, calls, called }
  query : st.1.filter.value.query = Text.trimmed w.text
  silent : ∀ id query, .call id (.notes query) ∉ st.2
  same : Text.trimmed w.text = s.filter.value.query → st = (s.started w, [])
  other : Text.trimmed w.text ≠ s.filter.value.query →
    st.1.filter.value = { s.filter.value with query := Text.trimmed w.text, page := 1 }
  searches : Text.trimmed w.text ≠ s.filter.value.query → Text.trimmed w.text ≠ "" →
    let request := { s.filter.value.request 1 with query := some (Text.trimmed w.text) }
    st.2 = [.call s.called (.search request)] ∧
    st.1.calls = s.calls ++
      [⟨s.called, .search st.1.search.value.issued request (.liveWrite w.number)⟩] ∧
    st.1.search.value.view = { s.search.value.view with loading := true }
  empties : Text.trimmed w.text = "" → s.filter.value.query ≠ "" →
    st.2 = [.cleared] ∧ st.1.calls = s.calls ∧ st.1.search.value.view = {} ∧
      SearchesSuperseded st.1

/-- What a live write does on the dashboard. -/
structure WritesNotes (s : Session) (w : LiveWrite) (st : Step) : Prop where
  elsewhere : ∃ notes calls called, st.1 = { s.started w with notes, calls, called }
  search : st.1.notes.value.filter.search = w.text
  same : w.text = s.notes.value.filter.search → st = (s.started w, [])
  fetches : w.text ≠ s.notes.value.filter.search →
    let query := { s.notes.value.query 1 with search := Text.trimmedNonBlank? w.text }
    st.2 = [.call s.called (.notes query)] ∧
    st.1.calls = s.calls ++
      [⟨s.called, .notes st.1.notes.value.issued query (.liveWrite w.number)⟩] ∧
    st.1.notes.value = { s.notes.value with
      filter := { s.notes.value.filter with search := w.text }
      page := 1
      loading := true
      issued := st.1.notes.value.issued }

/-- What typing does where it only completes. -/
structure OnlyCompletes (s : Session) (op : OperationId) (text : String) (st : Step) : Prop where
  silent : st.2 = [.finished op .done]
  elsewhere : ∃ writes, (∀ w ∈ writes, w ∈ s.writes) ∧ st.1 = { s with
    box := { s.box with text, pending := none, turn := s.box.turn + 1 }
    suggestions := s.suggestions.update (·.type s.settings s.now text)
    writes
    calls := s.calls.filter fun c => !c.pending.call.isFetch }
  never : ∀ later, (∀ e ∈ later, e.isTyping = false) → ∀ e,
    (st.1.steps later).1.startedWrite? e = none

/-! ## Searching for a query -/

/-- Making a text the query and searching for it sends one request, for the first page. -/
theorem startSearch_setQuery (s : Session) (text : String) (purpose : SearchPurpose) :
    let st := (s.act (.setQuery text)).startSearch (some 1) purpose
    let request := { s.filter.value.request 1 with query := Text.nonBlank? text }
    st.2 = [.call s.called (.search request)] ∧
    st.1.calls = s.calls ++ [⟨s.called, .search st.1.search.value.issued request purpose⟩] ∧
    st.1.search.value.view = { s.search.value.view with loading := true } := by
  let asking := s.act (.setQuery text)
  have halike : Alike s asking := alike_act s _
  have hsent (t : Session) :
      let st := t.startSearch (some 1) purpose
      st.2 = [.call t.called (.search (t.filter.value.request 1))] ∧
      st.1.calls = t.calls ++
        [⟨t.called, .search st.1.search.value.issued (t.filter.value.request 1) purpose⟩] ∧
      st.1.search.value.view = { t.search.value.view with loading := true } := ⟨rfl, rfl, rfl⟩
  have hasking := hsent asking
  rw [show asking.filter.value = s.filter.value.setQuery text from rfl,
    Filter.request_setQuery, halike.called, halike.calls, halike.search] at hasking
  exact hasking

/-! ## What is done on the results page and on the dashboard -/

section liveWrite

variable {w : LiveWrite}

theorem liveWrite_same_query (hmode : w.mode = .searchPage)
    (h : Text.trimmed w.text = s.filter.value.query) : s.liveWrite w = (s, []) := by
  simp only [liveWrite, hmode, if_pos h]

theorem liveWrite_empty_query (hmode : w.mode = .searchPage)
    (h : Text.trimmed w.text ≠ s.filter.value.query) (hempty : Text.trimmed w.text = "") :
    s.liveWrite w = s.clearSearch := by
  simp only [liveWrite, hmode, if_neg h, if_pos (String.isEmpty_iff.2 hempty)]

theorem liveWrite_other_query (hmode : w.mode = .searchPage)
    (h : Text.trimmed w.text ≠ s.filter.value.query) (hempty : Text.trimmed w.text ≠ "") :
    s.liveWrite w = (s.act (.setQuery (Text.trimmed w.text))).startSearch (some 1)
      (.liveWrite w.number) := by
  simp only [liveWrite, hmode, if_neg h, if_neg (mt String.isEmpty_iff.1 hempty)]

theorem liveWrite_same_search (hmode : w.mode = .liveFilter)
    (h : w.text = s.notes.value.filter.search) : s.liveWrite w = (s, []) := by
  simp only [liveWrite, hmode, if_pos h]

theorem liveWrite_other_search (hmode : w.mode = .liveFilter)
    (h : w.text ≠ s.notes.value.filter.search) :
    s.liveWrite w =
      (s.patchNotes { search := some w.text }).startNotes 1 (.liveWrite w.number) := by
  simp only [liveWrite, hmode, if_neg h]

/-- A live write on the results page, in a session with its tickets in order. -/
theorem Waiting.writesQuery (h : Waiting .search s past) (hmode : w.mode = .searchPage)
    {later : List Effect} (hlater : Accounted ((s.started w).liveWrite w).1 later) :
    WritesQuery s w ((s.started w).liveWrite w) := by
  by_cases hsame : Text.trimmed w.text = s.filter.value.query
  · rw [liveWrite_same_query (s := s.started w) hmode hsame]
    exact ⟨⟨_, _, _, _, rfl⟩, hsame.symm, by simp, fun _ => rfl, fun hne => absurd hsame hne,
      fun hne => absurd hsame hne, fun hempty hne => absurd (hsame.symm.trans hempty) hne⟩
  have hfilter := Filter.setQuery_trimmed s.filter.value w.text
  by_cases hempty : Text.trimmed w.text = ""
  · rw [liveWrite_empty_query (s := s.started w) hmode hsame hempty] at hlater ⊢
    have hcleared : (s.started w).clearSearch.1.filter.value =
        { s.filter.value with query := Text.trimmed w.text, page := 1 } := by
      rw [← hfilter, hempty]
      rfl
    refine ⟨⟨_, _, _, _, rfl⟩, congrArg Filter.query hcleared, by simp [clearSearch],
      fun heq => absurd heq hsame, fun _ => hcleared, fun _ hne => absurd hempty hne,
      fun _ _ => ⟨rfl, rfl, rfl, ?_⟩⟩
    exact hlater.searchesSuperseded fun c hc n hn => Nat.lt_succ_of_le (h.le_issued c hc n hn)
  · have hsent := startSearch_setQuery (s.started w) (Text.trimmed w.text) (.liveWrite w.number)
    rw [Text.nonBlank?_trimmed hempty] at hsent
    rw [liveWrite_other_query (s := s.started w) hmode hsame hempty]
    exact ⟨⟨_, _, _, _, rfl⟩, congrArg Filter.query hfilter,
      by simp [startSearch, send, Pending.call], fun heq => absurd heq hsame, fun _ => hfilter,
      fun _ _ => hsent, fun heq => absurd heq hempty⟩

theorem writesNotes (s : Session) (hmode : w.mode = .liveFilter) :
    WritesNotes s w ((s.started w).liveWrite w) := by
  by_cases hsame : w.text = s.notes.value.filter.search
  · rw [liveWrite_same_search (s := s.started w) hmode hsame]
    exact ⟨⟨_, _, _, rfl⟩, hsame.symm, fun _ => rfl, fun hne => absurd hsame hne⟩
  · rw [liveWrite_other_search (s := s.started w) hmode hsame]
    exact ⟨⟨_, _, _, rfl⟩, rfl, fun heq => absurd heq hsame, fun _ => ⟨rfl, rfl, rfl⟩⟩

end liveWrite

/-! ## Where typing only completes -/

/-- A new generation gives up all fetches, if none of them is of an earlier generation. -/
theorem Current.calls_withSuggestions (h : Current s) {w : Watched Suggestions}
    (hw : s.suggestions.value.generation < w.value.generation) :
    (s.withSuggestions w).calls = s.calls.filter fun c => !c.pending.call.isFetch := by
  refine List.filter_congr fun c hc => ?_
  have hcurrent := h c hc
  cases hp : c.pending with
  | suggestions generation text limit =>
    rw [hp, Pending.isStaleFetch, bne_eq_false_iff_eq] at hcurrent
    have hne : generation ≠ w.value.generation := by omega
    simp [Pending.isStaleFetch, Pending.call, Call.isFetch, hne]
  | _ => rfl

theorem number_of_startedWrite? {e : Event} {w : LiveWrite} (h : s.startedWrite? e = some w) :
    w.number = s.box.turn := by
  unfold startedWrite? at h
  split at h
  · obtain ⟨-, hclaim⟩ := Option.filter_eq_some_iff.1 h
    simpa [SearchBox.claim?] using hclaim
  · cases h

/-- Live writes of earlier turns do not start, and without typing there are no others. -/
theorem startedWrite?_eq_none_of_lt (h : ∀ w ∈ s.writes, w.number < s.box.turn)
    {later : List Event} (hlater : ∀ e ∈ later, e.isTyping = false) (e : Event) :
    (s.steps later).1.startedWrite? e = none := by
  induction later generalizing s with
  | nil =>
    refine Option.eq_none_iff_forall_ne_some.2 fun w hw => ?_
    obtain ⟨hmem, -, -⟩ := ring_of_startedWrite? hw
    exact absurd (number_of_startedWrite? hw) (Nat.ne_of_lt (h w hmem))
  | cons first later ih =>
    obtain ⟨hfirst, hrest⟩ := List.forall_mem_cons.1 hlater
    have hstep := s.step_schedulesNone hfirst
    refine ih (fun w hw => ?_) hrest
    have hle : s.box.turn ≤ (s.step first).1.box.turn := by
      rcases hstep.box with ⟨hturn, -⟩ | hlt
      · exact Nat.le_of_eq hturn.symm
      · exact Nat.le_of_lt hlt
    exact Nat.lt_of_lt_of_le (h w (hstep.writes w hw)) hle

theorem Tidy.cancelWrite_eq (h : Tidy s) :
    s.cancelWrite = { s with box := s.box.cancel, writes := s.cancelWrite.writes } := by
  have hcalls := h.calls_cancelWrite
  unfold Session.cancelWrite at hcalls ⊢
  split at hcalls
  · rw [← hcalls]
    rfl
  · rfl

/-- Typing in a box that only completes. -/
theorem Tidy.onlyCompletes (h : Tidy s) (hcurrent : Current s) (hmode : s.box.mode = .standalone)
    (op : OperationId) (text : String) :
    OnlyCompletes s op text (s.step (.command op (.type text))) := by
  let listed := s.withSuggestions (s.suggestions.update (·.type s.settings s.now text))
  let writes := listed.cancelWrite.writes
  have hwrites : ∀ w ∈ writes, w ∈ s.writes := fun w hw =>
    listed.writes_cancelWrite_sublist.subset hw
  have hcalls : listed.calls = s.calls.filter fun c => !c.pending.call.isFetch := by
    refine hcurrent.calls_withSuggestions ?_
    refine (Suggestions.type_touched s.settings s.now text _).later ?_
    unfold Suggestions.typeTouch
    split <;> rfl
  have htyped : s.type text = { s with
      box := { s.box with text, pending := none, turn := s.box.turn + 1 }
      suggestions := s.suggestions.update (·.type s.settings s.now text)
      writes
      calls := s.calls.filter fun c => !c.pending.call.isFetch } := by
    have hplain : listed.cancelWrite.box.mode = .standalone := (mode_cancelWrite listed).trans hmode
    have hunscheduled : s.type text =
        { listed.cancelWrite with box := { listed.cancelWrite.box with text } } := if_pos hplain
    rw [hunscheduled, (h.withSuggestions _ : Tidy listed).cancelWrite_eq, ← hcalls]
    rfl
  have hstep : s.step (.command op (.type text)) = (s.type text).finish op .done := rfl
  rw [hstep, htyped]
  refine ⟨rfl, ⟨writes, hwrites, rfl⟩, fun later hlater e => ?_⟩
  refine startedWrite?_eq_none_of_lt (fun w hw => ?_) hlater e
  exact Nat.lt_succ_of_le (h.writes_le w (hwrites w hw))

/-! ## At the moments of a run -/

/-- What holds of the sessions at all moments of a run. -/
structure Ordered (s : Session) : Prop where
  waiting : ∃ past, Waiting .search s past
  scheduled : Scheduled s
  carried : Carried s
  current : Current s

theorem Ordered.start (settings : Settings) (mode : Mode) (filter : Watched Filter) :
    Ordered (startWith settings mode filter) := by
  refine ⟨⟨[], .start .search settings mode filter⟩, .start settings mode filter, ?_, ?_⟩
  · simp [Carried, startWith, Session.start]
  · simp [Current, startWith, Session.start]

theorem Ordered.tidy (h : Ordered s) : Tidy s := h.waiting.elim fun _ hw => hw.accounted.tidy

theorem Ordered.setClock (h : Ordered s) (time : Nat) : Ordered (s.setClock time) := by
  obtain ⟨past, hwaiting⟩ := h.waiting
  exact ⟨⟨_, hwaiting.move (.quiet (alike_setClock s time))⟩, h.scheduled.of_eq rfl rfl,
    h.carried, h.current⟩

theorem Ordered.step (h : Ordered s) (e : Event) : Ordered (s.step e).1 := by
  obtain ⟨past, hwaiting⟩ := h.waiting
  have hnext := hwaiting.steps [e]
  rw [steps_singleton] at hnext
  have hscheduled := (h.scheduled.steps h.tidy [e]).2
  rw [steps_singleton] at hscheduled
  exact ⟨⟨_, hnext⟩, hscheduled, h.carried.step h.tidy e, h.current.step e⟩

/-- What a live write does at a moment at which one starts. -/
theorem Ordered.liveWrite (h : Ordered s) {e : Event} {w : LiveWrite}
    (hw : s.startedWrite? e = some w) :
    w.text = s.box.text ∧ w.mode = s.box.mode ∧
      match s.box.mode with
      | .searchPage => WritesQuery s w (s.step e)
      | .liveFilter => WritesNotes s w (s.step e)
      | .standalone => False := by
  obtain ⟨hmem, -, hstep⟩ := ring_of_startedWrite? hw
  obtain ⟨htext, hmode⟩ := h.carried w hmem (number_of_startedWrite? hw)
  refine ⟨htext, hmode, ?_⟩
  change s.step e = (s.started w).liveWrite w at hstep
  rw [← hmode, hstep]
  cases hplace : w.mode with
  | searchPage =>
    obtain ⟨past, hwaiting⟩ := h.waiting
    have hnext := hwaiting.accounted.step e
    rw [hstep] at hnext
    exact hwaiting.writesQuery hplace hnext
  | liveFilter => exact s.writesNotes hplace
  | standalone => exact h.scheduled.mode_ne w hmem hplace

/-- Whenever a live write starts in a run, it has the text and the place of the search box, and it
does what is due there and nothing else. Where typing only completes, it only completes: no live
write is made of the text. -/
theorem live_write_effects (settings : Settings) (mode : Mode) (filter : Watched Filter)
    (es : List Event) :
    ∀ m ∈ (startWith settings mode filter).moments es,
      (∀ w, m.1.startedWrite? m.2 = some w → w.text = m.1.box.text ∧ w.mode = m.1.box.mode ∧
        match m.1.box.mode with
        | .searchPage => WritesQuery m.1 w (m.1.step m.2)
        | .liveFilter => WritesNotes m.1 w (m.1.step m.2)
        | .standalone => False) ∧
      ∀ op text, m.1.box.mode = .standalone → m.2 = .command op (.type text) →
        OnlyCompletes m.1 op text (m.1.step m.2) := by
  intro m hm
  have hordered : Ordered m.1 :=
    ((keep_moments Ordered (fun time h => h.setClock time) (fun _ h => h.step _)
      (.start settings mode filter) es).1 m hm).1
  refine ⟨fun w hw => hordered.liveWrite hw, fun op text hmode htype => ?_⟩
  rw [htype]
  exact hordered.tidy.onlyCompletes hordered.current hmode op text

/-- The text is deleted while the search for it is still unanswered: its answer comes too late. -/
theorem live_write_of_deleted_text :
    let s := ((startWith {} .searchPage ⟨{}, 0⟩).steps
      [.command 0 (.type "x"), .wait 600, .command 1 (.type " "), .pass 500]).1
    let ring : Event := .ring (.write 2)
    let st := s.step ring
    s.startedWrite? ring = some ⟨2, 1100, .searchPage, " "⟩ ∧ s.filter.value.query = "x" ∧
      s.calls.length = 1 ∧ st.2 = [.cleared] ∧ st.1.filter.value.query = "" ∧
      SearchesSuperseded st.1 := by
  intro s ring st
  have hstarted : s.startedWrite? ring = some ⟨2, 1100, .searchPage, " "⟩ := by decide +kernel
  have hquery : s.filter.value.query = "x" := by decide +kernel
  have hmode : s.box.mode = .searchPage := by decide +kernel
  have hempty : Text.trimmed " " = "" := by decide +kernel
  have hmoment : (s, ring) ∈ (startWith {} .searchPage ⟨{}, 0⟩).moments
      ([.command 0 (.type "x"), .wait 600, .command 1 (.type " "), .pass 500] ++ [ring]) :=
    mem_moments_concat _ _ rfl
  obtain ⟨-, -, hwrites⟩ :=
    (live_write_effects {} .searchPage ⟨{}, 0⟩ _ (s, ring) hmoment).1 _ hstarted
  rw [hmode] at hwrites
  obtain ⟨hcleared, -, -, hsuperseded⟩ :=
    hwrites.empties hempty (by rw [hquery]; decide)
  exact ⟨hstarted, hquery, by decide +kernel, hcleared, hwrites.query.trans hempty, hsuperseded⟩

end Session

end NoteSearch
