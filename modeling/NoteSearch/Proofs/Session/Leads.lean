-- SUMMARY: Which operations lead to the results, and how each step starts or ends one of them.
import NoteSearch.Proofs.Session.BlankSubmit
import NoteSearch.Proofs.Session.Focus
import NoteSearch.Proofs.Session.Moments

/-!
# Operations that lead to the results

Two kinds of operations lead to the results: the submit of a text that is not blank, and the commit
of a completion where the box does not stand on the results page. Each of them sends one search of
its own, and when that has been answered it leads to the results and ends. What is started is known
from the events (`Session.leads`), what is still to come from the unanswered calls
(`InFlight.lead?`), and what has ended from the effects (`Lead.hasEnded`). Apart from the answer
that ends such an operation (`Ends`), a step navigates nowhere, and none of its calls leads to the
results but the one that it starts an operation with (`Leads`).
-/

namespace NoteSearch

/-! ## Operations that lead to the results -/

inductive Lead.Kind where
  | submit
  | commit
  deriving DecidableEq

/-- An operation that leads to the results. -/
structure Lead where
  op : OperationId
  kind : Lead.Kind
  byKey : Bool
  /-- The number of its own search. -/
  call : Nat
  deriving DecidableEq

/-- What an operation reports about the outcome of its search. -/
def Lead.report (l : Lead) (o : Outcome) : Result :=
  if l.byKey then .key (.submitted o)
  else
    match l.kind with
    | .submit => .submitted (some o)
    | .commit => .outcome o

/-- Whether an operation can report a result in the end. -/
def Lead.reports (l : Lead) : Result → Bool
  | .key (.submitted _) => l.byKey
  | .submitted (some _) => !l.byKey && l.kind == .submit
  | .outcome _ => !l.byKey && l.kind == .commit
  | _ => false

/-- Whether two effects end an operation: the answer to its own search is taken, and the outcome is
reported. -/
def Lead.endsBy (l : Lead) : Effect × Effect → Bool
  | (.answered id (.search _), .finished op r) => id == l.call && op == l.op && l.reports r
  | _ => false

/-- Whether an operation has ended in a history. -/
def Lead.hasEnded (l : Lead) (history : List Effect) : Bool :=
  (history.zip history.tail).any l.endsBy

def SearchPurpose.lead? (call : Nat) : SearchPurpose → Option Lead
  | submit op byKey => some ⟨op, .submit, byKey, call⟩
  | commit op byKey true => some ⟨op, .commit, byKey, call⟩
  | _ => none

/-- The operation that leads to the results when a call has been answered. -/
def InFlight.lead? (c : InFlight) : Option Lead :=
  match c.pending with
  | .search _ _ purpose => purpose.lead? c.id
  | _ => none

namespace Session

variable {s t : Session} {st : Step} {lead : Option Lead} {l : Lead} {c : InFlight}
  {history : List Effect} {started : List Lead}

def submitLead? (s : Session) (op : OperationId) (byKey : Bool) : Option Lead :=
  if Text.isBlankString s.box.text then none else some ⟨op, .submit, byKey, s.called⟩

def commitLead? (s : Session) (op : OperationId) (byKey : Bool) : Option Lead :=
  if s.box.mode = .searchPage then none else some ⟨op, .commit, byKey, s.called⟩

/-- The operation that leads to the results and is started by an event. -/
def lead? (s : Session) : Event → Option Lead
  | .command op .submit => s.submitLead? op false
  | .command op (.commit _) => s.commitLead? op false
  | .command op (.press k) =>
    if s.box.focused && k.key == .enter then
      match s.suggestions.value.committed? with
      | some _ => s.commitLead? op true
      | none => s.submitLead? op true
    else none
  | _ => none

/-- The operations that lead to the results and are started in a run. -/
def leads (s : Session) : List Event → List Lead
  | [] => []
  | e :: es => (s.lead? e).toList ++ (s.step e).1.leads es

/-! ## The end of an operation -/

theorem mem_zip_tail_iff {x y : Effect} :
    (x, y) ∈ history.zip history.tail ↔ ∃ before after, history = before ++ x :: y :: after := by
  induction history with
  | nil => simp
  | cons z rest ih =>
    cases rest with
    | nil =>
      simp only [List.tail_cons, List.zip_nil_right, List.not_mem_nil, false_iff, not_exists]
      intro before after h
      have := congrArg List.length h
      simp only [List.length_append, List.length_cons, List.length_nil] at this
      omega
    | cons w rest =>
      rw [List.tail_cons] at ih
      rw [List.tail_cons, List.zip_cons_cons, List.mem_cons, Prod.mk.injEq, ih]
      constructor
      · rintro (⟨rfl, rfl⟩ | ⟨before, after, h⟩)
        · exact ⟨[], rest, rfl⟩
        · exact ⟨z :: before, after, by rw [h]; rfl⟩
      · rintro ⟨before, after, h⟩
        cases before with
        | nil =>
          cases h
          exact .inl ⟨rfl, rfl⟩
        | cons v before =>
          exact .inr ⟨before, after, (List.cons.inj h).2⟩

theorem hasEnded_iff : l.hasEnded history = true ↔ ∃ before a r after,
    history = before ++ .answered l.call (.search a) :: .finished l.op r :: after ∧
      l.reports r = true := by
  unfold Lead.hasEnded
  rw [List.any_eq_true]
  constructor
  · rintro ⟨⟨x, y⟩, hmem, hends⟩
    obtain ⟨before, after, hsplit⟩ := mem_zip_tail_iff.1 hmem
    unfold Lead.endsBy at hends
    split at hends
    · rename_i id a op r heq
      cases heq
      simp only [Bool.and_eq_true, beq_iff_eq] at hends
      obtain ⟨⟨rfl, rfl⟩, hr⟩ := hends
      exact ⟨before, a, r, after, hsplit, hr⟩
    · cases hends
  · rintro ⟨before, a, r, after, hsplit, hr⟩
    exact ⟨_, mem_zip_tail_iff.2 ⟨before, after, hsplit⟩, by simp [Lead.endsBy, hr]⟩

theorem hasEnded_append (h : l.hasEnded history = true) (fx : List Effect) :
    l.hasEnded (history ++ fx) = true := by
  obtain ⟨before, a, r, after, rfl, hr⟩ := hasEnded_iff.1 h
  exact hasEnded_iff.2 ⟨before, a, r, after ++ fx, by simp, hr⟩

/-- An operation has not ended before the answer to its own search. -/
theorem hasEnded_eq_false (h : ∀ r, .answered l.call r ∉ history) : l.hasEnded history = false := by
  rw [Bool.eq_false_iff]
  intro hended
  obtain ⟨before, a, r, after, rfl, -⟩ := hasEnded_iff.1 hended
  exact h (.search a) (by simp)

theorem hasEnded_report (l : Lead) (history : List Effect) (a : Except Failure ResultPage)
    (o : Outcome) :
    l.hasEnded (history ++ [.answered l.call (.search a), .finished l.op (l.report o)]) = true := by
  refine hasEnded_iff.2 ⟨history, a, l.report o, [], rfl, ?_⟩
  unfold Lead.report
  split
  · assumption
  · split <;> simp [Lead.reports, *]

theorem call_of_lead? (h : c.lead? = some l) : c.id = l.call := by
  unfold InFlight.lead? SearchPurpose.lead? at h
  split at h
  · split at h <;> cases h <;> rfl
  · cases h

/-- What leads to the results waits for the answer to a search. -/
theorem exists_search_of_lead? (h : c.lead? = some l) :
    ∃ ticket request purpose, c.pending = .search ticket request purpose := by
  unfold InFlight.lead? at h
  split at h
  · exact ⟨_, _, _, ‹_›⟩
  · cases h

/-! ## Changes aside -/

/-- A change that navigates nowhere and sends no call. It may give up calls. -/
structure Aside (s t : Session) : Prop where
  routes : t.routes = s.routes
  called : t.called = s.called
  calls : ∀ c ∈ t.calls, c ∈ s.calls

theorem Aside.refl (s : Session) : Aside s s := ⟨rfl, rfl, fun _ hc => hc⟩

theorem Aside.trans {u : Session} (h : Aside s t) (k : Aside t u) : Aside s u :=
  ⟨k.routes.trans h.routes, k.called.trans h.called, fun c hc => h.calls c (k.calls c hc)⟩

theorem aside_with (s : Session) (now : Nat) (filter : Watched Filter) (search : Watched SearchPane)
    (suggestions : Watched Suggestions) (saved : Watched SavedPane) (notes : Watched NotePane)
    (insights : Insights) (box : SearchBox) (writes : List LiveWrite) :
    Aside s { s with now, filter, search, suggestions, saved, notes, insights, box, writes } :=
  ⟨rfl, rfl, fun _ hc => hc⟩

theorem aside_withSuggestions (s : Session) (w : Watched Suggestions) :
    Aside s (s.withSuggestions w) :=
  ⟨rfl, rfl, fun _ hc => (List.mem_filter.1 hc).1⟩

theorem aside_cancelWrite (s : Session) : Aside s s.cancelWrite := by
  refine ⟨?_, s.called_cancelWrite, fun c => mem_calls_cancelWrite⟩
  obtain ⟨box, writes, calls, hs⟩ := s.exists_cancelWrite
  rw [hs]

theorem aside_scheduleWrite (s : Session) : Aside s s.scheduleWrite := by
  unfold scheduleWrite
  split
  · exact .refl s
  · exact s.aside_with ..

theorem aside_type (s : Session) (text : String) : Aside s (s.type text) := by
  let u := s.withSuggestions (s.suggestions.update (·.type s.settings s.now text))
  let v := { u.cancelWrite with box := { u.cancelWrite.box with text } }
  have hv : Aside u v := u.aside_cancelWrite.trans (aside_with ..)
  exact (s.aside_withSuggestions _).trans (hv.trans v.aside_scheduleWrite)

/-! ## Steps -/

/-- A step that starts `lead`, if that is an operation. It navigates nowhere and takes no reply, and
no other call that it sends leads to the results. -/
structure Leads (s : Session) (lead : Option Lead) (st : Step) : Prop where
  routes : st.1.routes = s.routes
  called : s.called ≤ st.1.called
  calls : ∀ c ∈ st.1.calls, c ∈ s.calls ∨ s.called ≤ c.id ∧ (c.lead? = none ∨ c.lead? = lead)
  answers : ∀ id r, .answered id r ∉ st.2
  sends : ∀ l, lead = some l → l.call = s.called ∧ (∃ c ∈ st.1.calls, c.lead? = some l) ∧
    ∃ request, st.2 = [.call s.called (.search request)]

theorem Aside.leads (h : Aside s t) : Leads s none (t, []) :=
  ⟨h.routes, Nat.le_of_eq h.called.symm, fun c hc => .inl (h.calls c hc), by simp, nofun⟩

theorem Leads.refl (s : Session) : Leads s none (s, []) := (Aside.refl s).leads

/-- A change aside comes before a step. -/
theorem Aside.then (h : Aside s t) (k : Leads t lead st) : Leads s lead st where
  routes := k.routes.trans h.routes
  called := h.called ▸ k.called
  calls := fun c hc => (k.calls c hc).imp (h.calls c) (And.imp_left (h.called ▸ ·))
  answers := k.answers
  sends := h.called ▸ k.sends

theorem Leads.andThen (h : Leads s none st) {next : Session → Step}
    (k : Leads st.1 none (next st.1)) : Leads s none (st.andThen next) where
  routes := k.routes.trans h.routes
  called := Nat.le_trans h.called k.called
  calls := fun c hc => by
    rcases k.calls c hc with hold | ⟨hid, hnew⟩
    · exact h.calls c hold
    · exact .inr ⟨Nat.le_trans h.called hid, hnew⟩
  answers := fun id r hr => (List.mem_append.1 hr).elim (h.answers id r) (k.answers id r)
  sends := nofun

theorem finish_leads (s : Session) (op : OperationId) (r : Result) :
    Leads s none (s.finish op r) :=
  { Leads.refl s with answers := by simp [finish], sends := nofun }

theorem send_leads (s : Session) {p : Pending} (hp : InFlight.lead? ⟨s.called, p⟩ = lead)
    (hsearch : ∀ l, lead = some l → ∃ request, p.call = .search request) :
    Leads s lead (s.send p) where
  routes := rfl
  called := Nat.le_succ _
  calls := fun c hc => by
    rcases List.mem_append.1 hc with hold | hnew
    · exact .inl hold
    · rw [List.mem_singleton.1 hnew]
      exact .inr ⟨Nat.le_refl _, .inr hp⟩
  answers := by simp [send]
  sends := fun l hl => by
    obtain ⟨request, hrequest⟩ := hsearch l hl
    have hlead := hp.trans hl
    refine ⟨(call_of_lead? hlead).symm, ⟨_, List.mem_append_right _ List.mem_cons_self, hlead⟩,
      request, ?_⟩
    rw [send, hrequest]

/-- A call that nothing leads to the results from. -/
theorem sendAside_leads (s : Session) {p : Pending} (hp : InFlight.lead? ⟨s.called, p⟩ = none) :
    Leads s none (s.send p) :=
  send_leads s hp nofun

theorem startSearch_leads (s : Session) (page : Option UInt32) (purpose : SearchPurpose) :
    Leads s (purpose.lead? s.called) (s.startSearch page purpose) :=
  (s.aside_with _ _ (s.search.update (·.begin)) _ _ _ _ _ _).then
    (send_leads _ rfl fun _ _ => ⟨_, rfl⟩)

theorem startNotes_leads (s : Session) (page : UInt32) (purpose : NotesPurpose) :
    Leads s none (s.startNotes page purpose) :=
  (s.aside_with _ _ _ _ _ (s.notes.update (·.begin)) _ _ _).then (sendAside_leads _ rfl)

theorem startRefresh_leads (s : Session) (op : OperationId) (r : Result) :
    Leads s none (s.startRefresh op r) :=
  (s.aside_with _ _ _ _ (s.saved.update (·.beginRefresh)) _ _ _ _).then
    (sendAside_leads _ rfl)

theorem clearSearch_leads (s : Session) : Leads s none s.clearSearch :=
  { (s.aside_with _ s.clearSearch.1.filter s.clearSearch.1.search _ _ _ _ _ _).leads with
    answers := by simp [clearSearch]
    sends := nofun }

theorem save_leads (s : Session) (op : OperationId) (name : String) :
    Leads s none (s.save op name) := by
  unfold save
  split
  · exact finish_leads s op _
  · exact sendAside_leads s rfl

theorem execute_leads (s : Session) (op : OperationId) (saved : SavedSearch) :
    Leads s none (s.execute op saved) :=
  (s.aside_with _ _ _ _ (s.saved.update (·.beginExecution)) _ _ _ _).then
    (sendAside_leads _ rfl)

theorem loadInsights_leads (s : Session) (op : OperationId) : Leads s none (s.loadInsights op) := by
  refine Aside.then (t := { s with insights := s.insights.begin }) (s.aside_with ..) ?_
  unfold loadInsights
  refine Leads.andThen (sendAside_leads _ rfl) ?_
  exact Leads.andThen (sendAside_leads _ rfl) (sendAside_leads _ rfl)

/-- Making a text the query and searching for it. -/
theorem searchFor_leads (s : Session) (text : String) (purpose : SearchPurpose) :
    Leads s (purpose.lead? s.called) ((s.dismiss.act (.setQuery text)).startSearch (some 1) purpose) :=
  ((s.aside_withSuggestions _).trans (aside_with ..)).then (startSearch_leads _ _ _)

theorem submit_leads (s : Session) (op : OperationId) (byKey : Bool) :
    Leads s (s.submitLead? op byKey) (s.submit op byKey) := by
  cases hblank : Text.isBlankString s.box.text with
  | true =>
    rw [submit_of_blank hblank, submitLead?, if_pos hblank]
    exact s.aside_cancelWrite.then (finish_leads _ op _)
  | false =>
    rw [submit_of_nonBlank hblank, submitLead?, hblank]
    refine s.aside_cancelWrite.then ?_
    rw [← s.called_cancelWrite]
    exact searchFor_leads _ _ (.submit op byKey)

theorem commit_leads (s : Session) (op : OperationId) (text : String) (byKey : Bool) :
    Leads s (s.commitLead? op byKey) (s.commit op text byKey) := by
  let chosen := { s.cancelWrite with box := { s.cancelWrite.box with text } }
  have hlead : (SearchPurpose.commit op byKey (chosen.box.mode != .searchPage)).lead?
      chosen.called = s.commitLead? op byKey := by
    have hcalled : chosen.called = s.called := s.called_cancelWrite
    have hmode : chosen.box.mode = s.box.mode := s.mode_cancelWrite
    rw [hcalled, hmode, commitLead?]
    cases s.box.mode <;> rfl
  rw [← hlead]
  exact (s.aside_cancelWrite.trans (aside_with ..)).then (searchFor_leads chosen text _)

theorem finishEscape_leads (s : Session) (op : OperationId) : Leads s none (s.finishEscape op) :=
  Aside.then (t := s.blur) (s.aside_with ..) (finish_leads _ op _)

theorem clearBox_leads (s : Session) (op : OperationId) (byEscape : Bool) :
    Leads s none (s.clearBox op byEscape) := by
  have hfinished (t : Session) :
      Leads t none (if byEscape then t.finishEscape op else t.finish op .done) := by
    split
    · exact finishEscape_leads t op
    · exact finish_leads t op _
  let emptied := ({ s.cancelWrite with box := { s.cancelWrite.box with text := "" } }).dismiss
  have hemptied : Aside s emptied :=
    s.aside_cancelWrite.trans ((aside_with ..).trans (aside_withSuggestions _ _))
  unfold clearBox
  dsimp only
  refine hemptied.then ?_
  split
  · exact (clearSearch_leads emptied).andThen (hfinished _)
  · exact Aside.then (t := emptied.patchNotes _) (aside_with ..) (startNotes_leads _ 1 _)
  · exact hfinished emptied

theorem press_leads (s : Session) (op : OperationId) (k : KeyPress) :
    Leads s (s.lead? (.command op (.press k))) (s.press op k) := by
  by_cases hkey : s.box.focused = true ∧ (k.key = .escape ∨ k.key = .enter)
  · obtain ⟨hfocus, hkey | hkey⟩ := hkey
    · rw [press_escape op hfocus hkey, lead?, hfocus, hkey]
      exact clearBox_leads s op true
    · have hlead : s.lead? (.command op (.press k)) =
          match s.suggestions.value.committed? with
          | some _ => s.commitLead? op true
          | none => s.submitLead? op true := by
        simp [lead?, hfocus, hkey]
      rw [press_enter op hfocus hkey, hlead]
      cases s.suggestions.value.committed? with
      | some text => exact (s.aside_withSuggestions _).then (commit_leads _ op text true)
      | none =>
        dsimp only
        split
        · exact (s.aside_withSuggestions _).then (submit_leads _ op true)
        · exact submit_leads s op true
  · have hnone : s.lead? (.command op (.press k)) = none := by
      refine if_neg fun henter => hkey ?_
      simp only [Bool.and_eq_true, beq_iff_eq] at henter
      exact ⟨henter.1, .inr henter.2⟩
    rw [hnone]
    obtain ⟨r, hr | hr | ⟨key, -, -, hr⟩⟩ := press_other op hkey
    · rw [hr]
      exact Aside.then (t := s.focus) (s.aside_with ..) (finish_leads _ op r)
    · rw [hr]
      exact finish_leads s op r
    · rw [hr]
      exact (s.aside_withSuggestions _).then (finish_leads _ op r)

theorem perform_leads (s : Session) (op : OperationId) (c : Command) :
    Leads s (s.lead? (.command op c)) (s.perform op c) := by
  cases c with
  | filter a => exact Aside.then (t := s.act a) (s.aside_with ..) (finish_leads _ op _)
  | run page => exact startSearch_leads s page (.run op)
  | goToPage page =>
    exact Aside.then (t := s.act _) (s.aside_with ..) (startSearch_leads _ none (.run op))
  | clearSearch =>
    unfold perform
    exact (clearSearch_leads s).andThen (finish_leads _ op _)
  | typeSuggestion text => exact (s.aside_withSuggestions _).then (finish_leads _ op _)
  | focusSuggestions =>
    exact (s.aside_with _ _ _ (s.suggestions.update (·.focus)) _ _ _ _ _).then (finish_leads _ op _)
  | blurSuggestions =>
    exact (s.aside_with _ _ _ (s.suggestions.update (·.blur)) _ _ _ _ _).then (finish_leads _ op _)
  | dismissSuggestions => exact (s.aside_withSuggestions _).then (finish_leads _ op _)
  | chooseSuggestion index => exact (s.aside_withSuggestions _).then (finish_leads _ op _)
  | pressSuggestion key => exact (s.aside_withSuggestions _).then (finish_leads _ op _)
  | refreshSaved => exact startRefresh_leads s op _
  | save name => exact save_leads s op name
  | execute saved => exact execute_leads s op saved
  | delete id => exact sendAside_leads s rfl
  | patchNotes p => exact Aside.then (t := s.patchNotes p) (s.aside_with ..) (finish_leads _ op _)
  | fetchNotes page => exact startNotes_leads s page _
  | loadInsights => exact loadInsights_leads s op
  | type text => exact (s.aside_type text).then (finish_leads _ op _)
  | focus => exact Aside.then (t := s.focus) (s.aside_with ..) (finish_leads _ op _)
  | blur => exact Aside.then (t := s.blur) (s.aside_with ..) (finish_leads _ op _)
  | setMode mode =>
    refine s.aside_cancelWrite.then (Aside.then (t := s.setMode mode) ?_ (finish_leads _ op _))
    exact aside_with ..
  | submit => exact submit_leads s op false
  | commit text => exact commit_leads s op text false
  | clearBox => exact clearBox_leads s op false
  | press k => exact press_leads s op k

/-! ## Timers -/

theorem liveWrite_leads (s : Session) (w : LiveWrite) : Leads s none (s.liveWrite w) := by
  unfold liveWrite
  split
  · split
    · exact .refl s
    · exact Aside.then (t := s.patchNotes _) (s.aside_with ..) (startNotes_leads _ 1 _)
  · dsimp only
    split
    · exact .refl s
    split
    · exact clearSearch_leads s
    · exact Aside.then (t := s.act _) (s.aside_with ..)
        (startSearch_leads _ (some 1) (.liveWrite w.number))
  · exact .refl s

theorem ring_leads (s : Session) (t : Timer) : Leads s none (s.ring t) := by
  cases t with
  | fetch =>
    simp only [ring]
    split
    · exact .refl s
    split
    · exact (s.aside_with _ _ _ { s.suggestions with value := s.suggestions.value.fire } _ _ _ _ _
        ).then (sendAside_leads _ rfl)
    · exact .refl s
  | write number =>
    simp only [ring]
    split
    · exact .refl s
    · rename_i w _
      have hdrop : Aside s (s.dropWrite w.number) := s.aside_with ..
      rw [wake_eq]
      cases s.box.claim? w.number with
      | none => exact hdrop.leads
      | some box => exact hdrop.then ((aside_with _ _ _ _ _ _ _ _ box _).then (liveWrite_leads _ w))

theorem aside_setClock (s : Session) (time : Nat) : Aside s (s.setClock time) :=
  s.aside_with ..

theorem ringUntil_leads (limit count : Nat) (s : Session) :
    Leads s none (ringUntil limit count s) := by
  induction count generalizing s with
  | zero => exact (s.aside_setClock limit).leads
  | succ count ih =>
    rw [ringUntil, ringNext?_eq]
    cases hnext : s.nextRing? limit with
    | none => exact (s.aside_setClock limit).leads
    | some m =>
      obtain ⟨due, -, -, -, hclocked⟩ := of_nextRing? hnext
      have hm : Aside s m.1 := hclocked ▸ s.aside_setClock _
      exact (hm.then (ring_leads m.1 m.2)).andThen (ih _)

/-! ## Replies -/

/-- What is left after the answer to a search that an operation was waiting for: the operation leads
to the results and ends. -/
structure Ends (s : Session) (l : Lead) (o : Outcome) (st : Step) : Prop where
  routes : st.1.routes = s.routes ++ [.searchResults]
  called : st.1.called = s.called
  calls : st.1.calls = s.calls
  effects : st.2 = [.finished l.op (l.report o)]

theorem afterSearch_ends (s : Session) (o : Outcome) {purpose : SearchPurpose} {id : Nat}
    (h : purpose.lead? id = some l) : Ends s l o (s.afterSearch o purpose) := by
  unfold SearchPurpose.lead? at h
  split at h
  · cases h
    exact ⟨rfl, rfl, rfl, rfl⟩
  · cases h
    exact ⟨rfl, rfl, rfl, rfl⟩
  · cases h

theorem afterSearch_leads (s : Session) (o : Outcome) {purpose : SearchPurpose} {id : Nat}
    (h : purpose.lead? id = none) : Leads s none (s.afterSearch o purpose) := by
  cases purpose with
  | run op => exact finish_leads s op _
  | liveWrite number => exact .refl s
  | submit op byKey => cases h
  | commit op byKey leads =>
    cases leads with
    | false => exact finish_leads s op _
    | true => cases h
  | execution op => exact startRefresh_leads s op _

theorem afterNotes_leads (s : Session) (o : Outcome) (purpose : NotesPurpose) :
    Leads s none (s.afterNotes o purpose) := by
  cases purpose with
  | fetch op => exact finish_leads s op _
  | liveWrite number => exact .refl s
  | clear op => exact finish_leads s op _
  | escape op => exact finishEscape_leads s op

theorem afterExecute_leads (s : Session) (execution : Nat) (op : OperationId) (saved : SavedSearch)
    (a : Except Failure ResultPage) : Leads s none (s.afterExecute execution op saved a) := by
  unfold afterExecute
  split
  · exact finish_leads s op _
  · cases a with
    | error failure => exact finish_leads s op _
    | ok results =>
      exact Aside.then (t := s.act _) (s.aside_with ..)
        (startSearch_leads _ (some 1) (.execution op))

theorem afterCreate_leads (s : Session) (op : OperationId) (a : Except Failure SavedSearch) :
    Leads s none (s.afterCreate op a) := by
  cases a with
  | error failure => exact finish_leads s op _
  | ok saved => exact startRefresh_leads s op _

theorem afterDelete_leads (s : Session) (op : OperationId) (id : Int64)
    (a : Except Failure Unit) : Leads s none (s.afterDelete op id a) := by
  cases a with
  | error failure => exact finish_leads s op _
  | ok _ =>
    exact (s.aside_with _ _ _ _ (s.saved.update (·.remove id)) _ _ _ _).then
      (startRefresh_leads _ op _)

theorem afterPart_leads (s : Session) (load : Nat) (op : OperationId) (part : InsightsPart) :
    Leads s none (s.afterPart load op part) := by
  unfold afterPart
  split
  · exact (s.aside_with ..).then (finish_leads _ op _)
  · exact (s.aside_with ..).leads

/-- What follows a reply that has been taken: the end of the operation that was waiting for it, or
nothing that leads to the results. -/
theorem take_cases (s : Session) (id : Nat) {p : Pending} {r : Reply} (h : s.take p r = some st) :
    (∃ l a o, InFlight.lead? ⟨id, p⟩ = some l ∧ r = .search a ∧ Ends s l o st) ∨
      InFlight.lead? ⟨id, p⟩ = none ∧ Leads s none st := by
  unfold take at h
  split at h
  case h_11 => cases h
  all_goals cases h
  case h_1 ticket request purpose a =>
    let t := { s with search := (SearchPane.receive s.search ticket request a).1 }
    cases hlead : purpose.lead? id with
    | some l =>
      have hends : Ends t l _ _ :=
        afterSearch_ends t (SearchPane.receive s.search ticket request a).2 hlead
      exact .inl ⟨l, a, _, hlead, rfl, hends.routes, hends.called, hends.calls, hends.effects⟩
    | none => exact .inr ⟨hlead, Aside.then (t := t) (s.aside_with ..) (afterSearch_leads t _ hlead)⟩
  all_goals refine .inr ⟨rfl, ?_⟩
  case h_2 => exact (s.aside_with ..).leads
  case h_3 => exact (s.aside_with _ _ _ _ (SavedPane.receive ..) _ _ _ _).then (finish_leads ..)
  case h_4 => exact afterCreate_leads ..
  case h_5 => exact afterExecute_leads ..
  case h_6 => exact afterDelete_leads ..
  case h_10 =>
    exact (s.aside_with _ _ _ _ _ (NotePane.receive ..).1 _ _ _).then (afterNotes_leads ..)
  all_goals exact afterPart_leads ..

/-- An event starts an operation that leads to the results, or nothing of the kind; or it is a reply
that is taken. -/
theorem step_leads_cases (s : Session) (e : Event) :
    Leads s (s.lead? e) (s.step e) ∨ ∃ id r p st, e = .reply id r ∧ s.pending? id = some p ∧
      (s.forget id).take p r = some st ∧ s.step e = (st.1, .answered id r :: st.2) := by
  cases e with
  | command op c => exact .inl (perform_leads s op c)
  | reply id r =>
    have hlead : s.lead? (.reply id r) = none := rfl
    rw [hlead, step, reply]
    cases hid : s.pending? id with
    | none => exact .inl (.refl s)
    | some p =>
      dsimp only
      cases htake : (s.forget id).take p r with
      | none => exact .inl (.refl s)
      | some st => exact .inr ⟨id, r, p, st, rfl, hid, htake, rfl⟩
  | wait ms => exact .inl (ringUntil_leads _ _ s)
  | pass ms => exact .inl (s.aside_setClock _).leads
  | ring t => exact .inl (ring_leads s t)

end Session

end NoteSearch
