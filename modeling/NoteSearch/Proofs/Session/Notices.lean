-- SUMMARY: Whatever changes what a view shows notifies the view, and a late answer does neither.
import NoteSearch.Proofs.Session.Completions
import NoteSearch.Proofs.Session.Executions
import NoteSearch.Proofs.Session.NoteListing
import NoteSearch.Proofs.Session.SavedItems
import NoteSearch.Proofs.Session.ViewChanges

/-!
# Notifications

Five parts of a session are watched: the filter, the results, the completions, the saved searches
and the notes. If an event changes what one of them shows, its revision is greater afterwards
(`step_noticed`), as every single change notifies. The filter notifies only if it is another one
than before, so its revision counts the moments that change it (`revision_filter_steps`). An answer
that comes too late changes neither what is shown nor a revision.
-/

namespace NoteSearch

/-! ## Actions on a filter -/

theorem Watched.set_self {α : Type} [DecidableEq α] (w : Watched α) : w.set w.value = w := by
  simp [set]

/-- A filter after actions, through whatever handle: all clones of a handle share the filter. -/
def Watched.acts (w : Watched Filter) (as : List Filter.Action) : Watched Filter :=
  as.foldl (fun w a => w.set (w.value.act a)) w

/-- The number of actions that lead to another filter than the one before. -/
def Filter.effective (f : Filter) : List Action → Nat
  | [] => 0
  | a :: as => (if f.act a = f then 0 else 1) + (f.act a).effective as

theorem Watched.value_acts (w : Watched Filter) (as : List Filter.Action) :
    (w.acts as).value = as.foldl Filter.act w.value := by
  induction as generalizing w with
  | nil => rfl
  | cons a as ih => exact ih (w.set (w.value.act a))

theorem Watched.revision_acts (w : Watched Filter) (as : List Filter.Action) :
    (w.acts as).revision = w.revision + w.value.effective as := by
  induction as generalizing w with
  | nil => rfl
  | cons a as ih =>
    have hrest : (w.acts (a :: as)).revision =
        (w.set (w.value.act a)).revision + (w.value.act a).effective as := ih _
    rw [hrest, Filter.effective, set]
    by_cases hsame : w.value.act a = w.value
    · simp [hsame]
    · simp [hsame]
      omega

/-! ## What is watched -/

/-- A part of a session that is watched. -/
inductive View where
  | filter
  | search
  | completions
  | saved
  | notes
  deriving DecidableEq

namespace View

/-- The type of what a view shows. -/
def Shown : View → Type
  | filter => Filter
  | search => SearchView
  | completions => List Candidate × Bool × Option Nat × Bool
  | saved => List SavedSearch × Bool × Option String
  | notes => NoteFilter × NotePage × UInt32 × Bool × Option String

/-- What a view shows. -/
def shows : (v : View) → Session → v.Shown
  | filter, s => s.filter.value
  | search, s => s.search.value.view
  | completions, s =>
    let list := s.suggestions.value
    (list.items, list.visible, list.selected, list.focused)
  | saved, s => (s.saved.value.items, s.saved.value.loading, s.saved.value.error)
  | notes, s =>
    let pane := s.notes.value
    (pane.filter, pane.listing, pane.page, pane.loading, pane.error)

/-- The number of notifications of a view. -/
def revision : View → Session → Nat
  | filter, s => s.filter.revision
  | search, s => s.search.revision
  | completions, s => s.suggestions.revision
  | saved, s => s.saved.revision
  | notes, s => s.notes.revision

/-- The number of notifications in 64 bits. -/
def seen (v : View) (s : Session) : UInt64 := .ofNat (v.revision s)

theorem seen_lt {v : View} {s t : Session} (h : v.revision s < v.revision t)
    (hbound : v.revision t < UInt64.size) : v.seen s < v.seen t := by
  rw [UInt64.lt_iff_toNat_lt, seen, seen, UInt64.toNat_ofNat', UInt64.toNat_ofNat',
    Nat.mod_eq_of_lt hbound, Nat.mod_eq_of_lt (Nat.lt_trans h hbound)]
  exact h

/-- A view shows the same and has not been notified. -/
structure Same (v : View) (s t : Session) : Prop where
  shows : v.shows t = v.shows s
  revision : v.revision t = v.revision s

variable {s t : Session}

theorem Same.refl (v : View) (s : Session) : v.Same s s := ⟨rfl, rfl⟩

theorem Same.trans {v : View} {u : Session} (h : v.Same s t) (k : v.Same t u) : v.Same s u :=
  ⟨k.shows.trans h.shows, k.revision.trans h.revision⟩

theorem same_filter (h : t.filter = s.filter) : filter.Same s t :=
  ⟨congrArg Watched.value h, congrArg Watched.revision h⟩

theorem same_search (h : t.search = s.search) : search.Same s t :=
  ⟨congrArg (·.value.view) h, congrArg Watched.revision h⟩

theorem same_completions (h : t.suggestions = s.suggestions) : completions.Same s t := by
  refine ⟨?_, congrArg Watched.revision h⟩
  rw [shows, shows, h]

theorem same_saved (h : t.saved = s.saved) : saved.Same s t := by
  refine ⟨?_, congrArg Watched.revision h⟩
  rw [shows, shows, h]

theorem same_notes (h : t.notes = s.notes) : notes.Same s t := by
  refine ⟨?_, congrArg Watched.revision h⟩
  rw [shows, shows, h]

end View

/-- The view of a pane that takes tickets. -/
def Pane.view : Pane → View
  | search => .search
  | notes => .notes
  | saved => .saved

namespace Session

variable {s t u : Session} {past : List Effect}

/-! ## Changes and notifications -/

/-- Each view has been notified, or it shows the same. -/
def Noticed (s t : Session) : Prop := ∀ v : View, v.revision s < v.revision t ∨ v.Same s t

theorem Noticed.refl (s : Session) : Noticed s s := fun v => .inr (.refl v s)

theorem Noticed.trans (h : Noticed s t) (k : Noticed t u) : Noticed s u := by
  intro v
  rcases h v with hlt | hsame
  · rcases k v with klt | ksame
    · exact .inl (Nat.lt_trans hlt klt)
    · exact .inl (ksame.revision ▸ hlt)
  · rcases k v with klt | ksame
    · exact .inl (hsame.revision ▸ klt)
    · exact .inr (hsame.trans ksame)

/-- An action on the filter notifies unless the filter stays as it is. -/
theorem act_noticed (s : Session) (a : Filter.Action) :
    View.filter.revision s < View.filter.revision (s.act a) ∨ View.filter.Same s (s.act a) := by
  by_cases hsame : s.filter.value.act a = s.filter.value
  · exact .inr (View.same_filter (by simp [act, hsame, Watched.set_self]))
  · refine .inl ?_
    simp [View.revision, act, Watched.set, hsame]

theorem Change.noticed (h : Change s t) : Noticed s t := by
  intro v
  cases h with
  | apart filter search suggestions saved notes =>
    cases v with
    | filter => exact .inr (View.same_filter filter)
    | search => exact .inr (View.same_search search)
    | completions => exact .inr (View.same_completions suggestions)
    | saved => exact .inr (View.same_saved saved)
    | notes => exact .inr (View.same_notes notes)
  | act a =>
    cases v with
    | filter => exact act_noticed s a
    | _ => exact .inr ⟨rfl, rfl⟩
  | search f =>
    cases v with
    | search => exact .inl (Nat.lt_succ_self _)
    | _ => exact .inr ⟨rfl, rfl⟩
  | completions f =>
    cases v with
    | completions => exact .inl (Nat.lt_succ_self _)
    | _ => exact .inr ⟨rfl, rfl⟩
  | fire => cases v <;> exact .inr ⟨rfl, rfl⟩
  | saved f =>
    cases v with
    | saved => exact .inl (Nat.lt_succ_self _)
    | _ => exact .inr ⟨rfl, rfl⟩
  | patchNotes p =>
    cases v with
    | notes => exact .inl (Nat.lt_succ_self _)
    | _ => exact .inr ⟨rfl, rfl⟩
  | askNotes =>
    cases v with
    | notes => exact .inl (Nat.lt_succ_self _)
    | _ => exact .inr ⟨rfl, rfl⟩

theorem Changes.noticed (h : Changes s t) : Noticed s t := by
  induction h with
  | refl => exact .refl s
  | tail _ hchange ih => exact ih.trans hchange.noticed

theorem Received.noticed {id : Nat} {p : Pending} {r : Reply} (h : Received s id p r t) :
    Noticed s t := by
  intro v
  cases h with
  | @notes ticket query purpose a =>
    cases v with
    | notes =>
      unfold NotePane.receive
      split
      · exact .inl (Nat.lt_succ_self _)
      · exact .inr (View.same_notes rfl)
    | _ => exact .inr ⟨rfl, rfl⟩
  | @list refresh op result a =>
    cases v with
    | saved =>
      unfold SavedPane.receive
      split
      · exact .inl (Nat.lt_succ_self _)
      · exact .inr (View.same_saved rfl)
    | _ => exact .inr ⟨rfl, rfl⟩
  | deleted op saved =>
    cases v with
    | saved => exact .inl (Nat.lt_succ_self _)
    | _ => exact .inr ⟨rfl, rfl⟩
  | kept op saved failure => cases v <;> exact .inr ⟨rfl, rfl⟩
  | part hp hr => cases v <;> exact .inr ⟨rfl, rfl⟩
  | other hp hr => cases v <;> exact .inr ⟨rfl, rfl⟩

/-- Whatever happens, a view that shows something else has been notified. -/
theorem step_noticed (s : Session) (e : Event) : Noticed s (s.step e).1 := by
  rcases s.step_changes e with hchanges | ⟨id, r, p, t, fx, -, -, hreceived, hchanges, -⟩
  · exact hchanges.noticed
  · exact hreceived.noticed.trans hchanges.noticed

/-! ## Changes of the filter -/

/-- The filter is left alone, or it is set once. -/
def SetsFilter (s t : Session) : Prop := t.filter = s.filter.set t.filter.value

theorem SetsFilter.of_eq (h : t.filter = s.filter) : SetsFilter s t := by
  rw [SetsFilter, h, Watched.set_self]

theorem SetsFilter.of_filter (h : SetsFilter s t) (hu : u.filter = s.filter) : SetsFilter u t := by
  rw [SetsFilter, hu]
  exact h

theorem filter_cancelWrite (s : Session) : s.cancelWrite.filter = s.filter := by
  obtain ⟨box, writes, calls, h⟩ := s.exists_cancelWrite
  rw [h]

theorem submit_setsFilter (s : Session) (op : OperationId) (byKey : Bool) :
    SetsFilter s (s.submit op byKey).1 := by
  refine SetsFilter.of_filter (s := s.cancelWrite) ?_ s.filter_cancelWrite.symm
  unfold submit
  dsimp only
  split
  · exact .of_eq rfl
  · exact rfl

theorem commit_setsFilter (s : Session) (op : OperationId) (text : String) (byKey : Bool) :
    SetsFilter s (s.commit op text byKey).1 :=
  SetsFilter.of_filter (s := s.cancelWrite) rfl s.filter_cancelWrite.symm

theorem clearBox_setsFilter (s : Session) (op : OperationId) (byEscape : Bool) :
    SetsFilter s (s.clearBox op byEscape).1 := by
  refine SetsFilter.of_filter (s := s.cancelWrite) ?_ s.filter_cancelWrite.symm
  unfold clearBox
  dsimp only
  split
  · cases byEscape <;> exact rfl
  · exact .of_eq rfl
  · refine .of_eq ?_
    cases byEscape <;> rfl

theorem press_setsFilter (s : Session) (op : OperationId) (k : KeyPress) :
    SetsFilter s (s.press op k).1 := by
  by_cases hkey : s.box.focused = true ∧ (k.key = .escape ∨ k.key = .enter)
  · obtain ⟨hfocus, hkey | hkey⟩ := hkey
    · rw [press_escape op hfocus hkey]
      exact clearBox_setsFilter s op true
    · rw [press_enter op hfocus hkey]
      split
      · exact (commit_setsFilter _ op _ true).of_filter rfl
      split
      · exact (submit_setsFilter _ op true).of_filter rfl
      · exact submit_setsFilter s op true
  · obtain ⟨r, hr | hr | ⟨key, -, -, hr⟩⟩ := press_other op hkey
    all_goals
      rw [hr]
      exact .of_eq rfl

theorem perform_setsFilter (s : Session) (op : OperationId) (c : Command) :
    SetsFilter s (s.perform op c).1 := by
  cases c with
  | filter a => exact rfl
  | goToPage page => exact rfl
  | clearSearch => exact rfl
  | save name =>
    refine .of_eq ?_
    simp only [perform, save]
    split <;> rfl
  | type text =>
    let typed := s.withSuggestions (s.suggestions.update (·.type s.settings s.now text))
    obtain ⟨box, writes, calls, h⟩ := typed.exists_retype text
    have htype : s.type text = typed.retype text := rfl
    refine .of_eq (?_ : (s.type text).filter = s.filter)
    rw [htype, h]
    rfl
  | setMode mode => exact .of_eq s.filter_cancelWrite
  | submit => exact submit_setsFilter s op false
  | commit text => exact commit_setsFilter s op text false
  | clearBox => exact clearBox_setsFilter s op false
  | press k => exact press_setsFilter s op k
  | _ => exact .of_eq rfl

theorem liveWrite_setsFilter (s : Session) (w : LiveWrite) : SetsFilter s (s.liveWrite w).1 := by
  unfold liveWrite
  split
  · split <;> exact .of_eq rfl
  · dsimp only
    split
    · exact .of_eq rfl
    split <;> exact rfl
  · exact .of_eq rfl

theorem ring_setsFilter (s : Session) (t : Timer) : SetsFilter s (s.ring t).1 := by
  cases t with
  | fetch =>
    simp only [ring]
    split
    · exact .of_eq rfl
    split <;> exact .of_eq rfl
  | write number =>
    simp only [ring]
    split
    · exact .of_eq rfl
    · rename_i w _
      rw [wake_eq]
      split
      · exact .of_eq rfl
      · exact (liveWrite_setsFilter _ w).of_filter rfl

/-- At one moment, the filter is set once at most. -/
theorem step_setsFilter (s : Session) {e : Event} (hwait : e.isWait = false) :
    SetsFilter s (s.step e).1 := by
  cases e with
  | command op c => exact perform_setsFilter s op c
  | reply id r =>
    cases hload : s.load? (.reply id r) with
    | none => exact .of_eq (reply_frames hload).filter
    | some x =>
      obtain ⟨i, op, results, -, -, -, hst⟩ := step_of_load? hload
      rw [hst]
      exact rfl
  | wait ms => cases hwait
  | pass ms => exact .of_eq rfl
  | ring t => exact ring_setsFilter s t

/-- Whether a moment changes the filter. -/
def changesFilter (m : Session × Event) : Bool :=
  decide ((m.1.step m.2).1.filter.value ≠ m.1.filter.value)

theorem revision_filter_moment (s : Session) {e : Event} (hwait : e.isWait = false) :
    (s.step e).1.filter.revision = s.filter.revision + [(s, e)].countP changesFilter := by
  have hset : (s.step e).1.filter = _ := step_setsFilter s hwait
  rw [hset, Watched.set]
  by_cases hsame : (s.step e).1.filter.value = s.filter.value
  · simp [changesFilter, hsame]
  · simp [changesFilter, hsame]

theorem revision_filter_rings (limit count : Nat) (s : Session) :
    (ringUntil limit count s).1.filter.revision =
      s.filter.revision + (ringsUntil limit count s).countP changesFilter := by
  induction count generalizing s with
  | zero => rfl
  | succ count ih =>
    simp only [ringUntil, ringsUntil, ringNext?_eq]
    cases hnext : s.nextRing? limit with
    | none => rfl
    | some m =>
      obtain ⟨due, -, -, -, hclocked⟩ := of_nextRing? hnext
      have hring := m.1.revision_filter_moment (e := .ring m.2) rfl
      have hclock : m.1.filter = s.filter := by rw [hclocked]; rfl
      simp only [Option.map_some, Step.andThen, ih, List.countP_cons]
      simp only [step, hclock, List.countP_singleton] at hring
      omega

/-- The revision of the filter counts the moments that change it. -/
theorem revision_filter_steps (s : Session) (es : List Event) :
    (s.steps es).1.filter.revision =
      s.filter.revision + (s.moments es).countP changesFilter := by
  induction es generalizing s with
  | nil => rfl
  | cons e es ih =>
    have hfirst : (s.step e).1.filter.revision =
        s.filter.revision + (s.momentsOf e).countP changesFilter := by
      cases hwait : e.isWait with
      | false =>
        rw [momentsOf_eq_singleton hwait]
        exact s.revision_filter_moment hwait
      | true =>
        cases e with
        | wait ms => exact revision_filter_rings _ _ s
        | _ => cases hwait
    simp only [steps, Step.andThen, moments, List.countP_append, ih, hfirst]
    omega

/-! ## Late answers -/

/-- A reply with results goes to their page, whatever follows it. -/
theorem search_reply {id ticket : Nat} {request : Request} {purpose : SearchPurpose}
    (hid : s.pending? id = some (.search ticket request purpose))
    (a : Except Failure ResultPage) :
    (s.reply id (.search a)).1.search = (SearchPane.receive s.search ticket request a).1 := by
  rw [reply_of_take hid rfl]
  cases purpose with
  | commit op byKey leads => cases leads <;> rfl
  | _ => rfl

/-- The answer to a call with another ticket than the latest one. -/
theorem reply_late {p : Pane} {id ticket : Nat} {q : Pending} (hid : s.pending? id = some q)
    (hticket : p.ticket? q = some ticket) (hlate : ticket ≠ p.issued s) (r : Reply) :
    p.view.Same s (s.reply id r).1 := by
  have hother (htake : (s.forget id).take q r = none) : p.view.Same s (s.reply id r).1 := by
    rw [reply_of_take_none hid htake]
    exact .refl _ s
  cases p with
  | search =>
    cases q with
    | search n request purpose =>
      cases hticket
      cases r with
      | search a =>
        exact View.same_search ((search_reply hid a).trans (congrArg Prod.fst (if_neg hlate)))
      | _ => exact hother rfl
    | _ => cases hticket
  | notes =>
    cases q with
    | notes n query purpose =>
      cases hticket
      cases r with
      | notes a =>
        exact View.same_notes ((notes_reply hid a).trans (congrArg Prod.fst (if_neg hlate)))
      | _ => exact hother rfl
    | _ => cases hticket
  | saved =>
    cases q with
    | listSaved n op result =>
      cases hticket
      cases r with
      | listSaved a =>
        exact View.same_saved ((saved_reply hid a).trans (if_neg hlate))
      | _ => exact hother rfl
    | _ => cases hticket

/-- The answer to a call of a pane that has been renewed since the call. -/
theorem Recorded.reply_renewed (h : Recorded s past) {p : Pane} {newer older : List Effect}
    {id : Nat} {c : Call} (hpast : past = newer ++ .call id c :: older) (hasks : p.asks c = true)
    (hrenewed : ∃ x ∈ newer, x.renews p = true) (r : Reply) :
    p.view.Same s (s.reply id r).1 := by
  cases hid : s.pending? id with
  | none =>
    simp only [reply, hid]
    exact .refl _ s
  | some q =>
    have hnone : ∀ r, .answered id r ∉ past := fun r hr =>
      (h.accounted.answered id r hr).2 _ (mem_of_pending? hid) rfl
    obtain ⟨q', ticket, hid', -, hticket, hlatest⟩ := h.exists_ticket hpast hasks hnone
    refine reply_late hid' hticket (fun heq => ?_) r
    obtain ⟨x, hx, hrenews⟩ := hrenewed
    rw [hlatest.1 heq x hx] at hrenews
    cases hrenews

/-- The answer to an execution after a later one has been started. -/
theorem Accounted.reply_overtaken (h : Accounted s past) (op : OperationId) (saved : SavedSearch)
    {between : List Event} (hlater : ∃ e ∈ between, e.isExecution = true) (r : Reply) (v : View) :
    let t := ((s.execute op saved).1.steps between).1
    v.Same t (t.reply s.called r).1 := by
  intro t
  have hacc : Accounted t _ := (h.execute op saved).steps between
  cases hid : t.pending? s.called with
  | none =>
    simp only [reply, hid]
    exact .refl v t
  | some q =>
    have hnone : ∀ r, .answered s.called r ∉ ((s.execute op saved).1.steps between).2 :=
      fun r hr => (hacc.answered s.called r (List.mem_append_left _ (List.mem_reverse.2 hr))).2 _
        (mem_of_pending? hid) rfl
    have hwaits := hacc.pending?_of_mem (h.mem_calls_execute hnone)
    cases r with
    | executeSaved a =>
      obtain ⟨-, -, hends, -⟩ := h.execution_answer op saved between a hnone
      have hreply : t.reply s.called (.executeSaved a) = _ := hends hlater
      rw [hreply]
      cases v <;> exact ⟨rfl, rfl⟩
    | _ =>
      simp only [reply, hwaits, take]
      exact .refl v t

/-- The answer to the call `id` comes too late for a view: the pane of the view has been renewed
since the call, or what the call would complete has been touched, or the call belongs to an
execution and a later one has been started. -/
inductive Outdated (s : Session) (es : List Event) (id : Nat) : View → Prop where
  | pane (p : Pane) {older newer : List Effect} {c : Call}
      (hrun : (s.steps es).2 = older ++ .call id c :: newer) (hasks : p.asks c = true)
      (hrenewed : ∃ x ∈ newer, x.renews p = true) : Outdated s es id p.view
  | completions (v : View) {before after : List Event} {e : Event} {text : String}
      {limit : UInt32} (hes : es = before ++ e :: after)
      (hcall : .call id (.suggestions text limit) ∈ (s.steps before).2)
      (htouch : ((s.steps before).1.fetchTouch e).isKeep = false) : Outdated s es id v
  | execution (v : View) {before between : List Event} {op : OperationId} {saved : SavedSearch}
      (hes : es = before ++ .command op (.execute saved) :: between)
      (hid : id = (s.steps before).1.called)
      (hlater : ∃ e ∈ between, e.isExecution = true) : Outdated s es id v

/-- In every run: if an event changes what a view shows, the view has been notified, and sees so as
long as there have been less than 2^64 notifications. An answer that comes too late changes neither
what is shown nor a revision. The revision of a filter counts the actions that lead to another
filter, and in a run it counts the moments that change the filter. -/
theorem changes_notify_views (settings : Settings) (mode : Mode) (filter : Watched Filter)
    (es : List Event) :
    let init := startWith settings mode filter
    let s := (init.steps es).1
    (∀ (v : View) (e : Event), let t := (s.step e).1
      v.shows t ≠ v.shows s →
        v.revision s < v.revision t ∧ (v.revision t < UInt64.size → v.seen s < v.seen t)) ∧
    (∀ id v, Outdated init es id v → ∀ r, v.Same s (s.step (.reply id r)).1) ∧
    (∀ (w : Watched Filter) (as : List Filter.Action),
      (w.acts as).value = as.foldl Filter.act w.value ∧
      (w.acts as).revision = w.revision + w.value.effective as) ∧
    s.filter.revision = filter.revision + (init.moments es).countP changesFilter := by
  intro init s
  refine ⟨?_, ?_, fun w as => ⟨w.value_acts as, w.revision_acts as⟩,
    init.revision_filter_steps es⟩
  · intro v e t hchanged
    have hlt := (s.step_noticed e v).resolve_right fun hsame => hchanged hsame.shows
    exact ⟨hlt, View.seen_lt hlt⟩
  · intro id v hlate r
    have hrecorded := Recorded.start settings mode filter
    cases hlate with
    | @pane p older newer c hrun hasks hrenewed =>
      have hpast : (init.steps es).2.reverse ++ [] =
          newer.reverse ++ .call id c :: older.reverse := by
        simp [hrun]
      exact (hrecorded.steps es).reply_renewed hpast hasks (by simpa using hrenewed) r
    | @completions v before after e text limit hes hcall htouch =>
      have hcurrent : Current init := by simp [init, Current, startWith, Session.start]
      have hbefore := listed_current_steps (.dropItems {}) hcurrent before
      have hlate := ((Told.start settings mode filter).steps before).reply_after_touch hbefore.2
        (List.mem_append_left _ (List.mem_reverse.2 hcall)) htouch after r
      have hs : s = ((init.steps before).1.steps (e :: after)).1 := by
        simp only [s, hes, steps_append, Step.andThen]
      rw [hs, hlate]
      exact .refl v _
    | @execution v before between op saved hes hid hlater =>
      have hbefore := (hrecorded.steps before).accounted
      have hs : s = (((init.steps before).1.execute op saved).1.steps between).1 := by
        simp only [s, hes, steps_append, Step.andThen]
        rfl
      rw [hs, hid]
      exact hbefore.reply_overtaken op saved hlater r v

/-- Setting the query again notifies nobody, and neither does the answer to a search after a later
one; clearing the filter does. -/
theorem late_search_notifies_nobody :
    let init := startWith {} .standalone ⟨{}, 0⟩
    let es : List Event :=
      [.command 0 (.filter (.setQuery "plan")), .command 1 (.run none),
        .command 2 (.filter (.setQuery "plan")), .command 3 (.run none),
        .reply 1 (.search (.ok { total := 1 }))]
    let s := (init.steps es).1
    let cleared := (s.step (.command 4 (.filter .clear))).1
    s.filter.revision = 1 ∧
    View.search.Same s (s.step (.reply 0 (.search (.ok { total := 2 })))).1 ∧
    View.filter.seen s < View.filter.seen cleared := by
  intro init es s cleared
  obtain ⟨hchange, hlate, -, hcount⟩ := changes_notify_views {} .standalone ⟨{}, 0⟩ es
  have hmoments : (init.moments es).countP changesFilter = 1 := by rfl
  let request := (Filter.setQuery {} "plan").request 1
  have hrun : (init.steps es).2 = [.finished 0 .done] ++ .call 0 (.search request) ::
      [.finished 2 .done, .call 1 (.search request), .answered 1 (.search (.ok { total := 1 })),
        .finished 3 (.outcome .applied)] := by rfl
  have hrenewed : Effect.renews .search (.call 1 (.search request)) = true := rfl
  refine ⟨hcount.trans (congrArg (0 + ·) hmoments), ?_, ?_⟩
  · exact hlate 0 .search (.pane .search hrun rfl ⟨_, by simp, hrenewed⟩) _
  · have hquery : View.filter.shows cleared ≠ View.filter.shows s := by
      intro hsame
      have hempty : "" = "plan" := congrArg Filter.query hsame
      exact absurd hempty (by decide)
    obtain ⟨-, hseen⟩ := hchange .filter (.command 4 (.filter .clear)) hquery
    exact hseen (show 2 < UInt64.size by decide)

end Session

end NoteSearch
