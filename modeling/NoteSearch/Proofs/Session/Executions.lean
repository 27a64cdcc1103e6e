-- SUMMARY: Executions of saved searches load in the order in which they were started.
import NoteSearch.Proofs.Session.FilterChanges

/-!
# Executions of saved searches

Executions may overlap, and the uses that they report may be counted in any order. An execution
loads its saved search if its use has been counted and no later one has been started by then. As
executions are numbered in the order of their starts, this makes the numbers of the loads increase.
-/

namespace NoteSearch

/-- The number of the execution that waits for the reply to a call. -/
def Pending.execution? : Pending → Option Nat
  | .executeSaved execution _ _ => some execution
  | _ => none

/-- Whether an event starts the execution of a saved search. -/
def Event.isExecution : Event → Bool
  | .command _ (.execute _) => true
  | _ => false

namespace Session

variable {s t : Session} {fx past : List Effect}

/-! ## Numbers of executions -/

/-- The numbers of the executions that wait for their use to be counted. -/
def executing (s : Session) : List Nat := s.calls.filterMap (·.pending.execution?)

theorem execution?_of_isPlain {p : Pending} (h : p.isPlain = true) : p.execution? = none := by
  cases p <;> first | rfl | cases h

theorem cancelWrite_executing_sublist (s : Session) :
    s.cancelWrite.executing.Sublist s.executing := by
  unfold cancelWrite
  split
  · exact List.filter_sublist.filterMap _
  · exact .refl _

/-- A move starts no execution. -/
theorem Move.executions (m : Move s fx t) :
    t.saved.value.executions = s.saved.value.executions ∧ t.executing.Sublist s.executing := by
  cases m with
  | quiet ha => exact ⟨ha.executions, by simp [executing, ha.calls]⟩
  | finish op r => exact ⟨rfl, .refl _⟩
  | dropFetches g => exact ⟨rfl, List.filter_sublist.filterMap _⟩
  | search page purpose hmay =>
    refine ⟨rfl, ?_⟩
    simp [executing, startSearch, Session.send, Pending.execution?]
  | clear => exact ⟨rfl, .refl _⟩
  | notes page purpose hmay =>
    refine ⟨rfl, ?_⟩
    simp [executing, startNotes, Session.send, Pending.execution?]
  | refresh op r =>
    refine ⟨rfl, ?_⟩
    simp [executing, startRefresh, Session.send, Pending.execution?]
  | send p hp =>
    refine ⟨rfl, ?_⟩
    simp [executing, Session.send, execution?_of_isPlain hp]
  | cancelWrite =>
    obtain ⟨box, writes, calls, hs⟩ := s.exists_cancelWrite
    exact ⟨by rw [hs], s.cancelWrite_executing_sublist⟩
  | retype text =>
    obtain ⟨box, writes, calls, hs⟩ := s.exists_retype text
    refine ⟨by rw [hs], ?_⟩
    simpa only [executing, calls_retype] using s.cancelWrite_executing_sublist
  | wake number => exact ⟨rfl, .refl _⟩

theorem forget_executing_sublist (s : Session) (id : Nat) :
    (s.forget id).executing.Sublist s.executing :=
  List.filter_sublist.filterMap _

theorem Taken.executions {id : Nat} {r : Reply} (m : Taken s id r t) :
    t.saved.value.executions = s.saved.value.executions ∧
      t.executing.Sublist (s.forget id).executing := by
  cases m with
  | list a hq => exact ⟨SavedPane.executions_receive .., .refl _⟩
  | _ => exact ⟨rfl, .refl _⟩

theorem execute_executing (s : Session) (op : OperationId) (saved : SavedSearch) :
    (s.execute op saved).1.executing = s.executing ++ [s.saved.value.executions + 1] := by
  simp [executing, execute, send, Pending.execution?, SavedPane.beginExecution]

/-- Only the execution of a saved search starts one. -/
theorem step_executions (s : Session) {e : Event} (h : e.isExecution = false) :
    (s.step e).1.saved.value.executions = s.saved.value.executions ∧
      (s.step e).1.executing.Sublist s.executing := by
  have hkeep {u v : Session} {fx : List Effect} (hm : Moves u fx v) :
      v.saved.value.executions = u.saved.value.executions ∧ v.executing.Sublist u.executing :=
    hm.keepState (fun v =>
      v.saved.value.executions = u.saved.value.executions ∧ v.executing.Sublist u.executing)
      (fun m hv => ⟨m.executions.1.trans hv.1, m.executions.2.trans hv.2⟩) ⟨rfl, .refl _⟩
  rcases s.step_cases e with hm | ⟨op, saved, rfl⟩ | ⟨id, r, t, st, rfl, ht, hm, hst⟩
  · exact hkeep hm
  · cases h
  · rw [hst]
    obtain ⟨hn, hsub⟩ := hkeep hm
    exact ⟨hn.trans ht.executions.1,
      hsub.trans (ht.executions.2.trans (s.forget_executing_sublist id))⟩

theorem step_of_isExecution {e : Event} (h : e.isExecution = true) :
    ∃ op saved, e = .command op (.execute saved) := by
  unfold Event.isExecution at h
  split at h
  · exact ⟨_, _, rfl⟩
  · cases h

/-- The number of the latest execution counts the executions. -/
theorem executions_steps (s : Session) (es : List Event) :
    (s.steps es).1.saved.value.executions =
      s.saved.value.executions + es.countP Event.isExecution := by
  induction es generalizing s with
  | nil => rfl
  | cons e es ih =>
    simp only [steps, Step.andThen, ih, List.countP_cons]
    cases he : e.isExecution with
    | false => simp [(s.step_executions he).1]
    | true =>
      obtain ⟨op, saved, rfl⟩ := step_of_isExecution he
      have hstarted : (s.step (.command op (.execute saved))).1.saved.value.executions =
        s.saved.value.executions + 1 := rfl
      simp only [hstarted, if_true]
      omega

/-- The executions that wait have different numbers, up to the number of the latest one. -/
structure Numbered (s : Session) : Prop where
  lt : s.executing.Pairwise (· < ·)
  le : ∀ n ∈ s.executing, n ≤ s.saved.value.executions

theorem Numbered.start (settings : Settings) (mode : Mode) (filter : Watched Filter) :
    Numbered (startWith settings mode filter) := by
  constructor <;> simp [executing, startWith, Session.start]

theorem Numbered.step (h : Numbered s) (e : Event) : Numbered (s.step e).1 := by
  cases he : e.isExecution with
  | false =>
    obtain ⟨hn, hsub⟩ := s.step_executions he
    exact ⟨h.lt.sublist hsub, fun n hmem => hn ▸ h.le n (hsub.subset hmem)⟩
  | true =>
    obtain ⟨op, saved, rfl⟩ := step_of_isExecution he
    have hexecuting := s.execute_executing op saved
    constructor
    · show ((s.execute op saved).1.executing).Pairwise (· < ·)
      rw [hexecuting, List.pairwise_append]
      refine ⟨h.lt, List.pairwise_singleton _ _, ?_⟩
      intro m hm n hn
      rw [List.mem_singleton.1 hn]
      exact Nat.lt_succ_of_le (h.le m hm)
    · show ∀ n ∈ (s.execute op saved).1.executing, n ≤ s.saved.value.executions + 1
      rw [hexecuting]
      intro n hn
      rcases List.mem_append.1 hn with hn | hn
      · exact Nat.le_succ_of_le (h.le n hn)
      · exact Nat.le_of_eq (List.mem_singleton.1 hn)

theorem Numbered.steps (h : Numbered s) (es : List Event) : Numbered (s.steps es).1 := by
  induction es generalizing s with
  | nil => exact h
  | cons e es ih => exact ih (h.step e)

/-! ## Loads -/

section afterExecute

variable {n : Nat} {op : OperationId} {saved : SavedSearch}

theorem afterExecute_overtaken (a : Except Failure ResultPage)
    (h : n ≠ s.saved.value.executions) :
    s.afterExecute n op saved a = s.finish op (.executed (.error .superseded)) := by
  unfold afterExecute
  exact if_pos h

theorem afterExecute_error (failure : Failure) (h : n = s.saved.value.executions) :
    s.afterExecute n op saved (.error failure) =
      s.finish op (.executed (.error (.notExecuted failure.description))) := by
  unfold afterExecute
  exact if_neg (not_not_intro h)

theorem afterExecute_ok (results : ResultPage) (h : n = s.saved.value.executions) :
    s.afterExecute n op saved (.ok results) =
      (s.act (.load saved.request)).startSearch (some 1) (.execution op) := by
  unfold afterExecute
  exact if_neg (not_not_intro h)

end afterExecute

theorem reply_execution {id n : Nat} {op : OperationId} {saved : SavedSearch}
    (h : s.pending? id = some (.executeSaved n op saved)) (a : Except Failure ResultPage) :
    s.reply id (.executeSaved a) =
      (((s.forget id).afterExecute n op saved a).1,
        .answered id (.executeSaved a) :: ((s.forget id).afterExecute n op saved a).2) :=
  reply_of_take h rfl

/-- What a load does: the saved search becomes the filter, and its first page is searched. -/
theorem step_of_load? {e : Event} {n : Nat} {saved : SavedSearch}
    (h : s.load? e = some (n, saved)) :
    ∃ id op results, e = .reply id (.executeSaved (.ok results)) ∧
      s.pending? id = some (.executeSaved n op saved) ∧ n = s.saved.value.executions ∧
      s.step e =
        ((((s.forget id).act (.load saved.request)).startSearch (some 1) (.execution op)).1,
          [.answered id (.executeSaved (.ok results)),
            .call s.called (.search ((Filter.ofRequest saved.request).request 1))]) := by
  unfold load? at h
  split at h
  · rename_i id results
    split at h
    · rename_i execution op saved' hid
      split at h
      · rename_i hlatest
        cases h
        refine ⟨id, op, results, rfl, hid, hlatest, ?_⟩
        rw [step, reply_execution hid, afterExecute_ok (s := s.forget id) results hlatest]
        rfl
      · cases h
    · cases h
  · cases h

/-- An execution that loads is the latest one that has been started. -/
theorem loads_bounds (s : Session) (es : List Event) : ∀ x ∈ s.loads es,
    s.saved.value.executions ≤ x.1 ∧ x.1 ≤ (s.steps es).1.saved.value.executions := by
  induction es generalizing s with
  | nil => simp [loads]
  | cons e es ih =>
    have hfirst := executions_steps s [e]
    have hrest := executions_steps (s.step e).1 es
    simp only [steps, Step.andThen] at hfirst hrest ⊢
    intro x hx
    rcases List.mem_append.1 hx with hx | hx
    · obtain ⟨-, -, -, -, -, hn, -⟩ := step_of_load? (Option.mem_toList.1 hx)
      omega
    · have hbounds := ih (s.step e).1 x hx
      omega

/-- Once the latest execution waits no more, only later ones can load. -/
theorem lt_of_loads (h : s.saved.value.executions ∉ s.executing) (es : List Event) :
    ∀ x ∈ s.loads es, s.saved.value.executions < x.1 := by
  induction es generalizing s with
  | nil => simp [loads]
  | cons e es ih =>
    intro x hx
    cases he : e.isExecution with
    | true =>
      obtain ⟨op, saved, rfl⟩ := step_of_isExecution he
      have hbounds := loads_bounds (s.execute op saved).1 es x
        (by simpa [loads, load?, step, perform] using hx)
      exact hbounds.1
    | false =>
      obtain ⟨hn, hsub⟩ := s.step_executions he
      rcases List.mem_append.1 hx with hx | hx
      · obtain ⟨id, op, -, -, hid, hlatest, -⟩ := step_of_load? (Option.mem_toList.1 hx)
        have hmem : x.1 ∈ s.executing := List.mem_filterMap.2 ⟨_, mem_of_pending? hid, rfl⟩
        exact absurd (hlatest ▸ hmem) h
      · rw [← hn] at h ⊢
        exact ih (fun hmem => h (hsub.subset hmem)) x hx

theorem loads_eq_nil (h : s.saved.value.executions ∉ s.executing) {es : List Event}
    (hes : ∀ e ∈ es, e.isExecution = false) : s.loads es = [] := by
  apply List.eq_nil_iff_forall_not_mem.2
  intro x hx
  have hlt := lt_of_loads h es x hx
  have hle := (loads_bounds s es x hx).2
  have hzero : es.countP Event.isExecution = 0 :=
    List.countP_eq_zero.2 fun e he => by simp [hes e he]
  rw [executions_steps] at hle
  omega

/-- The execution whose reply is taken waits no more. -/
theorem Numbered.not_mem_forget (h : Numbered s) {id n : Nat} {op : OperationId}
    {saved : SavedSearch} (hid : s.pending? id = some (.executeSaved n op saved)) :
    n ∉ (s.forget id).executing := by
  intro hmem
  obtain ⟨c, hc, hn⟩ := List.mem_filterMap.1 hmem
  obtain ⟨hc, hne⟩ := mem_forget.1 hc
  rcases rel_of_pairwise (List.pairwise_filterMap.1 h.lt) hc (mem_of_pending? hid) with
    rfl | hlt | hlt
  · exact hne rfl
  · exact absurd (hlt n hn n rfl) (Nat.lt_irrefl n)
  · exact absurd (hlt n rfl n hn) (Nat.lt_irrefl n)

/-- After a load, the latest execution is the one that has loaded, and it waits no more. -/
theorem Numbered.load_step (h : Numbered s) {e : Event} {x : Nat × SavedSearch}
    (hload : s.load? e = some x) :
    x.1 = (s.step e).1.saved.value.executions ∧
      (s.step e).1.saved.value.executions ∉ (s.step e).1.executing := by
  obtain ⟨id, op, results, rfl, hid, hn, hst⟩ := step_of_load? hload
  rw [hst]
  refine ⟨hn, ?_⟩
  have hsame : (((s.forget id).act (.load x.2.request)).startSearch (some 1)
      (.execution op)).1.executing = (s.forget id).executing := by
    simp [executing, startSearch, send, act, Pending.execution?]
  rw [hsame]
  show s.saved.value.executions ∉ _
  rw [← hn]
  exact h.not_mem_forget hid

/-- The executions load in the order in which they were started. -/
theorem Numbered.loads_pairwise (h : Numbered s) (es : List Event) :
    (s.loads es).Pairwise fun x y => x.1 < y.1 := by
  induction es generalizing s with
  | nil => exact .nil
  | cons e es ih =>
    rw [loads, List.pairwise_append]
    refine ⟨?_, ih (h.step e), ?_⟩
    · cases s.load? e <;> simp
    · intro x hx y hy
      obtain ⟨hlatest, hwaits⟩ := h.load_step (Option.mem_toList.1 hx)
      rw [hlatest]
      exact lt_of_loads hwaits es y hy

/-! ## The answer to one execution -/

/-- An execution whose use has not been counted is still waiting. -/
theorem Accounted.mem_calls_execute (h : Accounted s past) {op : OperationId}
    {saved : SavedSearch} {between : List Event}
    (hnone : ∀ r, .answered s.called r ∉ ((s.execute op saved).1.steps between).2) :
    ⟨s.called, .executeSaved (s.saved.value.executions + 1) op saved⟩ ∈
      ((s.execute op saved).1.steps between).1.calls := by
  have hsent : ⟨s.called, .executeSaved (s.saved.value.executions + 1) op saved⟩ ∈
      (s.execute op saved).1.calls := by
    simp [Session.execute, send, SavedPane.beginExecution]
  exact (h.execute op saved).mem_calls_of_unanswered hsent rfl hnone

/-- The execution is the latest one as long as no other is started. -/
theorem executions_execute_steps (s : Session) (op : OperationId) (saved : SavedSearch)
    (between : List Event) :
    s.saved.value.executions + 1 = ((s.execute op saved).1.steps between).1.saved.value.executions ↔
      ¬ ∃ e ∈ between, e.isExecution = true := by
  have hcount := executions_steps (s.execute op saved).1 between
  have hstarted : (s.execute op saved).1.saved.value.executions =
    s.saved.value.executions + 1 := rfl
  have hzero := List.countP_eq_zero (p := Event.isExecution) (l := between)
  rw [hcount, hstarted, show (¬ ∃ e ∈ between, e.isExecution = true) ↔
    ∀ e ∈ between, ¬ e.isExecution = true by simp, ← hzero]
  omega

/-- What the answer to an execution does: it loads the saved search, or it ends the execution and
changes nothing else. -/
theorem Accounted.execution_answer (h : Accounted s past) (op : OperationId)
    (saved : SavedSearch) (between : List Event) (a : Except Failure ResultPage) :
    let t := (s.execute op saved).1.steps between
    (∀ r, .answered s.called r ∉ t.2) →
    let answer : Event := .reply s.called (.executeSaved a)
    let u := t.1.step answer
    let overtaken := ∃ e ∈ between, e.isExecution = true
    let loads := t.1.load? answer = some (s.saved.value.executions + 1, saved)
    (loads ↔ ¬ overtaken ∧ ∃ results, a = .ok results) ∧
    (loads → u.1.filter.value = .ofRequest saved.request ∧
      u.2 = [.answered s.called (.executeSaved a),
        .call t.1.called (.search ((Filter.ofRequest saved.request).request 1))]) ∧
    (overtaken → u = (t.1.forget s.called, [.answered s.called (.executeSaved a),
      .finished op (.executed (.error .superseded))])) ∧
    (¬ overtaken → ∀ failure, a = .error failure →
      u = (t.1.forget s.called, [.answered s.called (.executeSaved a),
        .finished op (.executed (.error (.notExecuted failure.description)))])) := by
  intro t hnone answer u overtaken loads
  have hacc : Accounted t.1 _ := (h.execute op saved).steps between
  have hid : t.1.pending? s.called = _ := hacc.pending?_of_mem (h.mem_calls_execute hnone)
  have hlatest : s.saved.value.executions + 1 = t.1.saved.value.executions ↔ ¬ overtaken :=
    executions_execute_steps s op saved between
  have hu : u = _ := reply_execution hid a
  refine ⟨?_, ?_, ?_, ?_⟩
  · cases a with
    | error failure => simp [loads, answer, load?]
    | ok results => simp [loads, answer, load?, hid, hlatest]
  · intro hloads
    obtain ⟨id, op', results, hanswer, -, -, hst⟩ := step_of_load? hloads
    have hsame : Event.reply s.called (.executeSaved a) = .reply id (.executeSaved (.ok results)) :=
      hanswer
    cases hsame
    have hloaded : u = _ := hst
    rw [hloaded]
    exact ⟨rfl, rfl⟩
  · intro hover
    rw [hu, afterExecute_overtaken (s := t.1.forget _) a fun heq => hlatest.1 heq hover]
    rfl
  · rintro hover failure rfl
    rw [hu, afterExecute_error (s := t.1.forget _) failure (hlatest.2 hover)]
    rfl

/-! ## The filter after executions -/

/-- Nothing but loads changes the filter in a run. -/
def OnlyLoads (s : Session) : List Event → Prop
  | [] => True
  | e :: es =>
    (s.load? e = none → (s.step e).1.filter.value = s.filter.value) ∧ (s.step e).1.OnlyLoads es

/-- The filter that loads leave. -/
def loadedFilter (f : Filter) (loads : List (Nat × SavedSearch)) : Filter :=
  match loads.getLast? with
  | some (_, saved) => .ofRequest saved.request
  | none => f

theorem loadedFilter_cons (f : Filter) (x : Nat × SavedSearch) (loads : List (Nat × SavedSearch)) :
    loadedFilter f (x :: loads) = loadedFilter (.ofRequest x.2.request) loads := by
  cases hlast : loads.getLast? <;> simp [loadedFilter, List.getLast?_cons, hlast]

theorem OnlyLoads.filter_steps {es : List Event} (h : s.OnlyLoads es) :
    (s.steps es).1.filter.value = loadedFilter s.filter.value (s.loads es) := by
  induction es generalizing s with
  | nil => rfl
  | cons e es ih =>
    simp only [steps, Step.andThen, ih h.2, loads]
    cases hload : s.load? e with
    | none => simp [h.1 hload]
    | some x =>
      obtain ⟨id, op, results, -, -, -, hst⟩ := step_of_load? hload
      have hfilter : (s.step e).1.filter.value = .ofRequest x.2.request := by
        rw [hst]
        rfl
      rw [hfilter]
      exact (loadedFilter_cons s.filter.value x _).symm

/-- If the user does nothing but execute saved searches and no live search is scheduled, nothing
but loads changes the filter. -/
theorem onlyLoads_of_executions (h : Tidy s) (hnone : s.liveSearch? = none) {es : List Event}
    (hes : ∀ e ∈ es, e.isCommand = true → e.isExecution = true) : s.OnlyLoads es := by
  induction es generalizing s with
  | nil => trivial
  | cons e es ih =>
    have hstill : s.Still := by simp [Still, hnone]
    rw [List.forall_mem_cons] at hes
    have hstep : (s.load? e = none → (s.step e).1.filter.value = s.filter.value) ∧
        (s.step e).1.liveSearch? = none := by
      cases hload : s.load? e with
      | some x =>
        obtain ⟨id, op, results, -, -, -, hst⟩ := step_of_load? hload
        refine ⟨by simp, ?_⟩
        rw [hst]
        exact hnone
      | none =>
        have hsettles : s.Settles (s.step e) := by
          cases he : e.isCommand with
          | false => exact step_settles h he hload
          | true =>
            obtain ⟨op, saved, rfl⟩ := step_of_isExecution (hes.1 he)
            exact (execute_frames s op saved).settles
        exact ⟨fun _ => (hsettles.still hstill).2.1, hsettles.unscheduled hnone⟩
    exact ⟨hstep.1, ih (h.step e) hstep.2 hes.2⟩

/-- In a list in order, a member that no other exceeds is the last one. -/
theorem getLast?_of_pairwise {l : List (Nat × SavedSearch)} (h : l.Pairwise fun x y => x.1 < y.1)
    {x : Nat × SavedSearch} (hx : x ∈ l) (hmax : ∀ y ∈ l, y.1 ≤ x.1) : l.getLast? = some x := by
  obtain ⟨before, after, rfl⟩ := List.append_of_mem hx
  cases after with
  | nil => simp
  | cons y after =>
    have hlt : x.1 < y.1 := by
      have htail := (List.pairwise_append.1 h).2.1
      exact (List.pairwise_cons.1 htail).1 y List.mem_cons_self
    have hle := hmax y (by simp)
    omega

/-- In every run: an execution loads its saved search and searches for it exactly if its use is
counted and no later one has been started by then, and otherwise its answer only ends it. So the
executions load in the order of their starts. If nothing else changes the filter, the last load
decides it, and that is the load of the last execution if its use has been counted. -/
theorem executions_load_in_order (settings : Settings) (mode : Mode) (filter : Watched Filter) :
    let init := startWith settings mode filter
    (∀ before op saved between a,
      let s := (init.steps before).1
      let started := s.step (.command op (.execute saved))
      started.2 = [.call s.called (.executeSaved saved.id)] ∧ started.1.filter = s.filter ∧
      let t := started.1.steps between
      (∀ r, .answered s.called r ∉ t.2) →
      let answer : Event := .reply s.called (.executeSaved a)
      let u := t.1.step answer
      let overtaken := ∃ e ∈ between, e.isExecution = true
      let loads := t.1.load? answer = some (before.countP Event.isExecution + 1, saved)
      (loads ↔ ¬ overtaken ∧ ∃ results, a = .ok results) ∧
      (loads → u.1.filter.value = .ofRequest saved.request ∧
        u.2 = [.answered s.called (.executeSaved a),
          .call t.1.called (.search ((Filter.ofRequest saved.request).request 1))]) ∧
      (overtaken → u = (t.1.forget s.called, [.answered s.called (.executeSaved a),
        .finished op (.executed (.error .superseded))])) ∧
      (¬ overtaken → ∀ failure, a = .error failure →
        u = (t.1.forget s.called, [.answered s.called (.executeSaved a),
          .finished op (.executed (.error (.notExecuted failure.description)))]))) ∧
    (∀ es, (init.loads es).Pairwise (fun x y => x.1 < y.1) ∧
      (init.OnlyLoads es →
        (init.steps es).1.filter.value = loadedFilter filter.value (init.loads es))) ∧
    (∀ before op saved between results after,
      let s := (init.steps before).1
      let started := s.step (.command op (.execute saved))
      (∀ r, .answered s.called r ∉ (started.1.steps between).2) →
      (∀ e ∈ between ++ after, e.isExecution = false) →
      let run := before ++ .command op (.execute saved) ::
        (between ++ .reply s.called (.executeSaved (.ok results)) :: after)
      (init.loads run).getLast? = some (before.countP Event.isExecution + 1, saved) ∧
      (init.OnlyLoads run →
        (init.steps run).1.filter.value = .ofRequest saved.request)) := by
  intro init
  have hacc : Accounted init [] := .start settings mode filter
  have hnumbered : Numbered init := .start settings mode filter
  have hcount (es : List Event) :
      (init.steps es).1.saved.value.executions = es.countP Event.isExecution := by
    simpa [init, startWith, Session.start] using init.executions_steps es
  have hanswer (before op saved between a) := (hacc.steps before).execution_answer op saved between a
  simp only [hcount] at hanswer
  refine ⟨fun before op saved between a => ⟨rfl, rfl, hanswer before op saved between a⟩,
    fun es => ⟨hnumbered.loads_pairwise es, fun h => h.filter_steps⟩, ?_⟩
  intro before op saved between results after s started hnone hnever run
  have hover : ¬ ∃ e ∈ between, e.isExecution = true := by
    rintro ⟨e, he, hexecution⟩
    simp [hnever e (List.mem_append_left _ he)] at hexecution
  obtain ⟨hloads, -⟩ := hanswer before op saved between (.ok results) hnone
  have hload := hloads.2 ⟨hover, results, rfl⟩
  have hmem : (before.countP Event.isExecution + 1, saved) ∈ init.loads run := by
    simp only [run, loads_append, loads, List.mem_append]
    exact .inr (.inr (.inr (.inl (Option.mem_toList.2 hload))))
  have hmax : ∀ y ∈ init.loads run, y.1 ≤ before.countP Event.isExecution + 1 := by
    intro y hy
    have hle := (loads_bounds init run y hy).2
    have hzero : (between ++ after).countP Event.isExecution = 0 :=
      List.countP_eq_zero.2 fun e he => by simp [hnever e he]
    simp only [run, hcount, List.countP_append, List.countP_cons, Event.isExecution] at hle hzero
    simpa [hzero] using hle
  have hlast := getLast?_of_pairwise (hnumbered.loads_pairwise run) hmem hmax
  refine ⟨hlast, ?_⟩
  intro honly
  rw [honly.filter_steps, loadedFilter, hlast]

/-- Two executions overlap, and the use of the earlier one is counted last: it is superseded, and
the filter is the saved search of the later one. -/
theorem later_execution_loads :
    let init := start {} .standalone
    let first : SavedSearch := { id := 1, name := "first", request := { query := some "draft" } }
    let second : SavedSearch := { id := 2, name := "second", request := { query := some "plan" } }
    let answer (id : Nat) : Event := .reply id (.executeSaved (.ok {}))
    let t := (init.step (.command 0 (.execute first))).1.steps
      [.command 1 (.execute second), answer 1]
    let run := [.command 0 (.execute first), .command 1 (.execute second), answer 1, answer 0]
    (t.1.step (answer 0)).2 = [.answered 0 (.executeSaved (.ok {})),
      .finished 0 (.executed (.error .superseded))] ∧
    (init.steps run).1.filter.value = .ofRequest second.request := by
  intro init first second answer t run
  obtain ⟨hanswer, -, hlast⟩ := executions_load_in_order {} .standalone init.filter
  obtain ⟨-, -, hends⟩ := hanswer [] 0 first [.command 1 (.execute second), answer 1] (.ok {})
  obtain ⟨-, -, hover, -⟩ := hends fun r hr => by
    simpa [answer, steps, startWith, start] using reply_mem_of_answered hr
  have hu := hover ⟨_, List.mem_cons_self, rfl⟩
  refine ⟨congrArg Prod.snd hu, ?_⟩
  refine (hlast [.command 0 (.execute first)] 1 second [] {} [answer 0] ?_ ?_).2 ?_
  · intro r hr
    simp [steps] at hr
  · simp [answer, Event.isExecution]
  · refine onlyLoads_of_executions (.start {} .standalone init.filter) rfl ?_
    simp [Event.isExecution, Event.isCommand, answer]

end Session

end NoteSearch
