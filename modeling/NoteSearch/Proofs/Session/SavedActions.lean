-- SUMMARY: Actions on saved searches that fail change nothing, and the others ask for the list once.
import NoteSearch.Session.Screen
import NoteSearch.Proofs.Text.Trimmed
import NoteSearch.Proofs.Session.Executions

/-!
# Actions on saved searches

A saved search is stored, executed or deleted by an operation that first makes one call, and that
goes on when the answer to it comes. Whatever happens in between: if the operation fails, nothing
that a view shows has been changed by it and that call is the only one it has made. If it succeeds,
it asks for the list of saved searches once, an execution after one search.
-/

namespace NoteSearch

/-! ## Actions -/

inductive SavedAction where
  | save (name : String)
  | execute (saved : SavedSearch)
  | delete (id : Int64)

namespace SavedAction

def command : SavedAction → Command
  | save name => .save name
  | execute saved => .execute saved
  | delete id => .delete id

/-- The first call of an action. There is none for a name of which nothing is left after trimming. -/
def firstCall? (filter : Filter) : SavedAction → Option Call
  | save name =>
    if Text.trimmed name = "" then none
    else some (.createSaved { name := Text.trimmed name, request := filter.request 1 })
  | execute saved => some (.executeSaved saved.id)
  | delete id => some (.deleteSaved id)

/-- What a reply says to the first call of an action, if it is an answer to it. -/
def answer? : SavedAction → Reply → Option (Except Failure Unit)
  | save _, .createSaved a => some (a.map fun _ => ())
  | execute _, .executeSaved a => some (a.map fun _ => ())
  | delete _, .deleteSaved a => some a
  | _, _ => none

/-- How an action reports that it has failed. -/
def failed (e : SavedSearchFailure) : SavedAction → Result
  | save _ => .saved (.error e)
  | execute _ => .executed (.error e)
  | delete _ => .deleted (.error e)

/-- The failure of an action whose first call has failed. -/
def refused (reason : String) : SavedAction → SavedSearchFailure
  | save _ => .notSaved reason
  | execute _ => .notExecuted reason
  | delete _ => .notDeleted reason

/-- Whether an action is an execution that a later one overtakes. -/
def Overtaken (between : List Event) : SavedAction → Prop
  | execute _ => ∃ e ∈ between, e.isExecution = true
  | _ => False

end SavedAction

theorem Text.isBlankString_iff_trimmed {s : String} :
    isBlankString s = true ↔ trimmed s = "" := by
  rw [isBlankString_iff_trim, trimmed, String.ofList_eq_empty_iff]

/-! ## What a failure is called -/

/-- The text for a failure: the explanation of the service if it is not blank, and otherwise the
kind of failure. -/
inductive Failure.Words : Failure → String → Prop where
  | explained {code : UInt16} {detail : String} (h : Text.trimmed detail ≠ "") :
      Words (.status code (some detail)) detail
  | status {code : UInt16} {detail : Option String} (h : ∀ d ∈ detail, Text.trimmed d = "") :
      Words (.status code detail) ("Server responded with " ++ toString code.toNat)
  | transport (text : String) : Words (.transport text) ("Request failed: " ++ text)
  | undecodable (text : String) : Words (.undecodable text) ("Invalid response: " ++ text)

namespace Failure

theorem explanation?_of_blank {code : UInt16} {detail : Option String}
    (h : ∀ d ∈ detail, Text.trimmed d = "") : (status code detail).explanation? = none := by
  cases detail with
  | none => rfl
  | some d => exact if_pos (Text.isBlankString_iff_trimmed.2 (h d rfl))

theorem explanation?_of_explained {code : UInt16} {detail : String}
    (h : Text.trimmed detail ≠ "") : (status code (some detail)).explanation? = some detail :=
  if_neg (mt Text.isBlankString_iff_trimmed.1 h)

theorem description_of_explanation {f : Failure} {detail : String}
    (h : f.explanation? = some detail) : f.description = detail := by
  rw [description, userMessage, h, Option.getD_some]

theorem description_of_none {f : Failure} (h : f.explanation? = none) :
    f.description = f.message := by
  rw [description, userMessage, h, Option.getD_none]

theorem description_of_words {f : Failure} {reason : String} (h : f.Words reason) :
    f.description = reason := by
  cases h with
  | explained h => exact description_of_explanation (explanation?_of_explained h)
  | status h => exact description_of_none (explanation?_of_blank h)
  | transport text => exact description_of_none rfl
  | undecodable text => exact description_of_none rfl

/-- A failure has one text. -/
theorem words_iff {f : Failure} {reason : String} : f.Words reason ↔ f.description = reason := by
  refine ⟨description_of_words, ?_⟩
  rintro rfl
  have hwords : ∃ reason, f.Words reason := by
    cases f with
    | transport text => exact ⟨_, .transport text⟩
    | undecodable text => exact ⟨_, .undecodable text⟩
    | status code detail =>
      by_cases h : ∀ d ∈ detail, Text.trimmed d = ""
      · exact ⟨_, .status h⟩
      · cases detail with
        | none => exact absurd nofun h
        | some d => exact ⟨d, .explained fun hd => h fun _ hmem => Option.some.inj hmem ▸ hd⟩
  obtain ⟨reason, hreason⟩ := hwords
  rwa [description_of_words hreason]

end Failure

namespace Session

variable {s t : Session} {past : List Effect}

/-! ## What is left alone -/

/-- Nothing differs but the unanswered calls and the number of executions. -/
def Spares (s t : Session) : Prop :=
  ∃ saved calls called executions, t = { s with saved, calls, called } ∧
    saved.value = { s.saved.value with executions }

/-- The views show the same. -/
theorem Spares.screen (h : Spares s t) :
    { t.screen with revisions := s.screen.revisions } = s.screen := by
  obtain ⟨saved, calls, called, executions, rfl, hsaved⟩ := h
  simp only [Session.screen, hsaved]

theorem spares_send (s : Session) (p : Pending) : Spares s (s.send p).1 :=
  ⟨_, _, _, _, rfl, rfl⟩

theorem spares_forget (s : Session) (id : Nat) : Spares s (s.forget id) :=
  ⟨_, _, _, _, rfl, rfl⟩

/-! ## Waiting for an answer -/

/-- Whatever happens until the call `id` is answered, a reply to it does `P`. -/
def WhenAnswered (s : Session) (id : Nat) (P : Session → Step → Reply → Prop) : Prop :=
  ∀ es, (∀ q, .answered id q ∉ (s.steps es).2) →
    ∀ r, P (s.steps es).1 ((s.steps es).1.step (.reply id r)) r

/-- The reply `r` to the call `id` makes an operation ask for the list of saved searches, and the
answer to that ends it. -/
def ListsAndEnds (t : Session) (id : Nat) (r : Reply) (op : OperationId) (result : Result)
    (u : Step) : Prop :=
  u.2 = [.answered id r, .call t.called .listSaved] ∧
  u.1.WhenAnswered t.called fun v w => fun
    | .listSaved a => w.2 = [.answered t.called (.listSaved a), .finished op result]
    | _ => w = (v, [])

/-- The reply `r` to the first call `id` makes an action go on. -/
def GoesOn (t : Session) (id : Nat) (r : Reply) (op : OperationId) (u : Step) :
    SavedAction → Prop
  | .save _ => ∃ created, r = .createSaved (.ok created) ∧
    ListsAndEnds t id r op (.saved (.ok created)) u
  | .delete _ => ListsAndEnds t id r op (.deleted (.ok ())) u
  | .execute saved =>
    let request := (Filter.ofRequest saved.request).request 1
    request.page = 1 ∧ u.2 = [.answered id r, .call t.called (.search request)] ∧
    u.1.WhenAnswered t.called fun v w => fun
      | .search a => ∃ outcome,
        ListsAndEnds v t.called (.search a) op (.executed (.ok outcome)) w
      | _ => w = (v, [])

/-- What the reply `r` to the first call `id` of an action does, if `between` has happened since. -/
structure Answered (t : Session) (id : Nat) (between : List Event) (r : Reply) (op : OperationId)
    (action : SavedAction) (u : Step) : Prop where
  ignored : action.answer? r = none → u = (t, [])
  overtaken : action.Overtaken between → action.answer? r ≠ none →
    Spares t u.1 ∧ u = (t.forget id, [.answered id r, .finished op (action.failed .superseded)])
  failed : ¬ action.Overtaken between → ∀ f, action.answer? r = some (.error f) →
    ∃ reason, f.Words reason ∧ Spares t u.1 ∧
      u = (t.forget id, [.answered id r, .finished op (action.failed (action.refused reason))])
  goesOn : ¬ action.Overtaken between → action.answer? r = some (.ok ()) →
    GoesOn t id r op u action

namespace Answered

variable {id : Nat} {between : List Event} {r : Reply} {op : OperationId} {action : SavedAction}
  {u : Step}

theorem of_other (hanswer : action.answer? r = none) (hu : u = (t, [])) :
    Answered t id between r op action u where
  ignored _ := hu
  overtaken _ hsome := absurd hanswer hsome
  failed _ f hf := by cases hanswer.symm.trans hf
  goesOn _ hok := by cases hanswer.symm.trans hok

theorem of_overtaken (hover : action.Overtaken between) {a : Except Failure Unit}
    (hanswer : action.answer? r = some a)
    (hu : u = (t.forget id, [.answered id r, .finished op (action.failed .superseded)])) :
    Answered t id between r op action u where
  ignored hnone := by cases hnone.symm.trans hanswer
  overtaken _ _ := ⟨hu ▸ t.spares_forget id, hu⟩
  failed hnot := absurd hover hnot
  goesOn hnot := absurd hover hnot

theorem of_error (hover : ¬ action.Overtaken between) {f : Failure}
    (hanswer : action.answer? r = some (.error f))
    (hu : u = (t.forget id,
      [.answered id r, .finished op (action.failed (action.refused f.description))])) :
    Answered t id between r op action u where
  ignored hnone := by cases hnone.symm.trans hanswer
  overtaken hlater := absurd hlater hover
  failed _ g hg := by
    cases hanswer.symm.trans hg
    exact ⟨_, Failure.words_iff.2 rfl, hu ▸ t.spares_forget id, hu⟩
  goesOn _ hok := by cases hanswer.symm.trans hok

theorem of_ok (hover : ¬ action.Overtaken between) (hanswer : action.answer? r = some (.ok ()))
    (hgoes : GoesOn t id r op u action) : Answered t id between r op action u where
  ignored hnone := by cases hnone.symm.trans hanswer
  overtaken hlater := absurd hlater hover
  failed _ f hf := by cases hanswer.symm.trans hf
  goesOn _ _ := hgoes

end Answered

/-- What holds of every session in which a call waits holds when it is answered. -/
theorem Accounted.whenAnswered (h : Accounted s past) {c : InFlight} (hc : c ∈ s.calls)
    (hfetch : c.pending.call.isFetch = false) {P : Session → Step → Reply → Prop}
    (hP : ∀ v later r, Accounted v later → v.pending? c.id = some c.pending →
      P v (v.step (.reply c.id r)) r) : s.WhenAnswered c.id P := by
  intro es hnone r
  have hlater := h.steps es
  exact hP _ _ r hlater (hlater.pending?_of_mem (h.mem_calls_of_unanswered hc hfetch hnone))

theorem Accounted.listsAndEnds {id refresh : Nat} {r : Reply} {op : OperationId}
    {result : Result} {u : Step} (h : Accounted u.1 past)
    (hfx : u.2 = [.answered id r, .call t.called .listSaved])
    (hc : ⟨t.called, .listSaved refresh op result⟩ ∈ u.1.calls) :
    ListsAndEnds t id r op result u := by
  refine ⟨hfx, h.whenAnswered hc rfl fun v later q _ hid => ?_⟩
  simp only [Session.step, reply, hid]
  cases q <;> rfl

/-! ## The first answer -/

section answered

variable {id : Nat} {op : OperationId}

theorem Accounted.answered_save (h : Accounted t past) {draft : SavedSearch.Draft}
    (hid : t.pending? id = some (.createSaved op draft)) (name : String) (between : List Event)
    (r : Reply) : Answered t id between r op (.save name) (t.step (.reply id r)) := by
  cases r with
  | createSaved a =>
    have hu : t.step (.reply id (.createSaved a)) = _ := reply_of_take hid rfl
    have hafter := h.step (.reply id (.createSaved a))
    rw [hu] at hafter ⊢
    cases a with
    | error f => exact .of_error nofun rfl rfl
    | ok created =>
      exact .of_ok nofun rfl ⟨created, rfl,
        hafter.listsAndEnds rfl (List.mem_append_right _ List.mem_cons_self)⟩
  | _ => exact .of_other rfl (reply_of_take_none hid rfl)

theorem Accounted.answered_delete (h : Accounted t past) {saved : Int64}
    (hid : t.pending? id = some (.deleteSaved op saved)) (between : List Event) (r : Reply) :
    Answered t id between r op (.delete saved) (t.step (.reply id r)) := by
  cases r with
  | deleteSaved a =>
    have hu : t.step (.reply id (.deleteSaved a)) = _ := reply_of_take hid rfl
    have hafter := h.step (.reply id (.deleteSaved a))
    rw [hu] at hafter ⊢
    cases a with
    | error f => exact .of_error nofun rfl rfl
    | ok _ =>
      exact .of_ok nofun rfl
        (hafter.listsAndEnds rfl (List.mem_append_right _ List.mem_cons_self))
  | _ => exact .of_other rfl (reply_of_take_none hid rfl)

/-- The search of an execution is answered: it asks for the list, whatever the answer. -/
theorem Accounted.answered_search (h : Accounted t past) {ticket : Nat} {request : Request}
    (hid : t.pending? id = some (.search ticket request (.execution op)))
    (a : Except Failure ResultPage) :
    ∃ outcome, ListsAndEnds t id (.search a) op (.executed (.ok outcome))
      (t.step (.reply id (.search a))) := by
  have hu : t.step (.reply id (.search a)) = _ := reply_of_take hid rfl
  have hafter := h.step (.reply id (.search a))
  rw [hu] at hafter ⊢
  exact ⟨_, hafter.listsAndEnds rfl (List.mem_append_right _ List.mem_cons_self)⟩

theorem Accounted.answered_execute (h : Accounted t past) {n : Nat} {saved : SavedSearch}
    (hid : t.pending? id = some (.executeSaved n op saved)) {between : List Event}
    (hlatest : n = t.saved.value.executions ↔ ¬ ∃ e ∈ between, e.isExecution = true)
    (r : Reply) : Answered t id between r op (.execute saved) (t.step (.reply id r)) := by
  cases r with
  | executeSaved a =>
    have hu : t.step (.reply id (.executeSaved a)) = _ := reply_execution hid a
    by_cases hover : ∃ e ∈ between, e.isExecution = true
    · rw [afterExecute_overtaken (s := t.forget id) a fun heq => hlatest.1 heq hover] at hu
      exact .of_overtaken hover rfl hu
    · have hn := hlatest.2 hover
      cases a with
      | error f =>
        rw [afterExecute_error (s := t.forget id) f hn] at hu
        exact .of_error hover rfl hu
      | ok results =>
        rw [afterExecute_ok (s := t.forget id) results hn] at hu
        have hafter := h.step (.reply id (.executeSaved (.ok results)))
        rw [hu] at hafter ⊢
        refine .of_ok hover rfl ⟨rfl, rfl, hafter.whenAnswered
          (List.mem_append_right _ List.mem_cons_self) rfl fun v later q hv hsearch => ?_⟩
        cases q with
        | search b => exact hv.answered_search hsearch b
        | _ => exact reply_of_take_none hsearch rfl
  | _ => exact .of_other rfl (reply_of_take_none hid rfl)

end answered

/-! ## Starting an action -/

theorem save_of_blank {name : String} (h : Text.trimmed name = "") (op : OperationId) :
    s.save op name = s.finish op (.saved (.error .emptyName)) := by
  simp only [save, Text.trimmedNonBlank?, if_pos (Text.isBlankString_iff_trimmed.2 h)]

theorem save_of_not_blank {name : String} (h : Text.trimmed name ≠ "") (op : OperationId) :
    s.save op name = s.send (.createSaved op
      { name := Text.trimmed name, request := s.filter.value.request 1 }) := by
  simp only [save, Text.trimmedNonBlank?, if_neg (mt Text.isBlankString_iff_trimmed.1 h)]

/-- An action starts with its first call and changes nothing else. For a blank name it makes no
call and ends. -/
theorem step_savedAction (s : Session) (op : OperationId) (action : SavedAction) :
    let started := s.step (.command op action.command)
    Spares s started.1 ∧
    (action.firstCall? s.filter.value = none →
      started.2 = [.finished op (action.failed .emptyName)]) ∧
    ∀ first, action.firstCall? s.filter.value = some first →
      started.2 = [.call s.called first] := by
  cases action with
  | save name =>
    by_cases hblank : Text.trimmed name = ""
    · have hstarted : s.step (.command op (.save name)) = _ := save_of_blank hblank op
      have hcall : (SavedAction.save name).firstCall? s.filter.value = none := if_pos hblank
      rw [SavedAction.command, hstarted, hcall]
      exact ⟨⟨_, _, _, _, rfl, rfl⟩, fun _ => rfl, fun _ hfirst => nomatch hfirst⟩
    · have hstarted : s.step (.command op (.save name)) = _ := save_of_not_blank hblank op
      have hcall : (SavedAction.save name).firstCall? s.filter.value = _ := if_neg hblank
      rw [SavedAction.command, hstarted, hcall]
      exact ⟨s.spares_send _, nofun, fun first hfirst => Option.some.inj hfirst ▸ rfl⟩
  | execute saved =>
    exact ⟨⟨_, _, _, _, rfl, rfl⟩, nofun, fun first hfirst => Option.some.inj hfirst ▸ rfl⟩
  | delete id =>
    exact ⟨s.spares_send _, nofun, fun first hfirst => Option.some.inj hfirst ▸ rfl⟩

theorem Accounted.first_answered (h : Accounted s past) (op : OperationId) {action : SavedAction}
    {first : Call} (hfirst : action.firstCall? s.filter.value = some first)
    (between : List Event) :
    let t := (s.step (.command op action.command)).1.steps between
    (∀ q, .answered s.called q ∉ t.2) →
      ∀ r, Answered t.1 s.called between r op action (t.1.step (.reply s.called r)) := by
  intro t hnone r
  have hstarted := h.step (.command op action.command)
  have ht : Accounted t.1 _ := hstarted.steps between
  cases action with
  | save name =>
    have hname : Text.trimmed name ≠ "" := fun hblank => by
      cases hfirst.symm.trans (if_pos hblank)
    have hsend : s.step (.command op (.save name)) = _ := save_of_not_blank hname op
    have hc : ⟨s.called, .createSaved op
        { name := Text.trimmed name, request := s.filter.value.request 1 }⟩ ∈
        (s.step (.command op (.save name))).1.calls := by
      rw [hsend]
      exact List.mem_append_right _ List.mem_cons_self
    have hwaits := hstarted.mem_calls_of_unanswered hc rfl hnone
    exact ht.answered_save (ht.pending?_of_mem hwaits) name between r
  | execute saved =>
    have hwaits := ht.pending?_of_mem (h.mem_calls_execute hnone)
    exact ht.answered_execute hwaits (s.executions_execute_steps op saved between) r
  | delete id =>
    have hwaits := hstarted.mem_calls_of_unanswered
      (List.mem_append_right _ List.mem_cons_self) rfl hnone
    exact ht.answered_delete (ht.pending?_of_mem hwaits) between r

/-- In every run, an action on saved searches starts with one call, or ends at once for a blank
name, and shows nothing new. Whatever happens until the call is answered: a failure ends the action
with the explanation of the service or the failure in words, and an execution that a later one has
overtaken ends as well; neither shows anything new nor makes a call. Otherwise the action goes on:
it asks for the list of saved searches once, an execution after one search for the first page, and
the answer to that ends it. -/
theorem saved_actions_fail_atomically (settings : Settings) (mode : Mode)
    (filter : Watched Filter) (before : List Event) (op : OperationId) (action : SavedAction) :
    let s := ((startWith settings mode filter).steps before).1
    let started := s.step (.command op action.command)
    Spares s started.1 ∧
    (action.firstCall? s.filter.value = none →
      started.2 = [.finished op (action.failed .emptyName)]) ∧
    ∀ first, action.firstCall? s.filter.value = some first →
      started.2 = [.call s.called first] ∧
      ∀ between,
        let t := started.1.steps between
        (∀ q, .answered s.called q ∉ t.2) →
        ∀ r, Answered t.1 s.called between r op action (t.1.step (.reply s.called r)) := by
  intro s started
  have hacc : Accounted s _ := (Accounted.start settings mode filter).steps before
  obtain ⟨hspares, hblank, hcall⟩ := s.step_savedAction op action
  exact ⟨hspares, hblank, fun first hfirst =>
    ⟨hcall first hfirst, fun between => hacc.first_answered op hfirst between⟩⟩

/-- The service is down and explains nothing, while the list is being loaded: the deletion ends with
the status in words, and nothing is removed from the list. -/
theorem refused_delete_spares_session :
    let s := ((startWith {} .standalone ⟨{}, 0⟩).steps [.command 0 .refreshSaved]).1
    let t := (s.step (.command 1 (.delete 7))).1.steps
      [.reply 0 (.listSaved (.ok [{ id := 7, name := "milk", request := {} }]))]
    let down : Reply := .deleteSaved (.error (.status 503 (some " ")))
    let u := t.1.step (.reply s.called down)
    Spares t.1 u.1 ∧ u.2 = [.answered s.called down,
      .finished 1 (.deleted (.error (.notDeleted "Server responded with 503")))] := by
  intro s t down u
  obtain ⟨-, -, hcalls⟩ := saved_actions_fail_atomically {} .standalone ⟨{}, 0⟩
    [.command 0 .refreshSaved] 1 (.delete 7)
  obtain ⟨-, hanswered⟩ := hcalls (.deleteSaved 7) rfl
  have hnone : ∀ q, .answered s.called q ∉ t.2 := fun q hq => by
    cases reply_mem_of_answered hq with
    | tail _ hmem => cases hmem
  obtain ⟨reason, hwords, hspares, hu⟩ := (hanswered _ hnone down).failed id _ rfl
  have hreason : (Failure.status 503 (some " ")).description = "Server responded with 503" := by
    decide +kernel
  rw [← Failure.words_iff.1 hwords, hreason] at hu
  exact ⟨hspares, congrArg Prod.snd hu⟩

end Session

end NoteSearch
