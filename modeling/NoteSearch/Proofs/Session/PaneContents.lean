-- SUMMARY: What the panes hold changes when a reply is taken, and by nothing else.
import NoteSearch.Proofs.Session.Elsewhere
import NoteSearch.Proofs.Session.Keys
import NoteSearch.Proofs.Session.Overtaking

/-!
# Contents of the panes

The notes, the saved searches and the usage numbers that a session holds come from replies. A reply
is taken first (`Received`); what follows it, and everything else that happens, may begin to load
again but keeps what the panes hold (`KeepsContents`). The exceptions are a load of usage numbers,
which the panel counts, and an Escape, whose request for notes takes the focus away later.
-/

namespace NoteSearch

/-- What the list of notes holds. -/
def NotePane.content (p : NotePane) : NotePage × Option String := (p.listing, p.error)

/-- What the list of saved searches holds. -/
def SavedPane.content (p : SavedPane) : List SavedSearch × Option String := (p.items, p.error)

/-- What only answers change in a history stays as it is without them. -/
theorem append_of_no_answers {α : Type} {f : List Effect → α}
    (hskip : ∀ x past, (∀ id r, x ≠ .answered id r) → f (x :: past) = f past) {fx : List Effect}
    (h : ∀ id r, .answered id r ∉ fx) (past : List Effect) : f (fx ++ past) = f past := by
  induction fx with
  | nil => rfl
  | cons x fx ih =>
    have hrest := ih fun id r hr => h id r (List.mem_cons_of_mem _ hr)
    exact (hskip x _ fun id r hx => h id r (hx ▸ List.mem_cons_self)).trans hrest

/-- Whether a call asks for usage numbers. -/
def Call.isUsage : Call → Bool
  | .popular _ => true
  | .trending .. => true
  | .stats => true
  | _ => false

/-- Whether the reply to a call ends an Escape. -/
def Pending.isEscape : Pending → Bool
  | notes _ _ (.escape _) => true
  | _ => false

namespace Session

variable {s t : Session} {st : Step} {escapes : Bool}

/-! ## Steps that keep the contents -/

/-- A step that keeps what the panes hold. It takes no reply and asks for no usage numbers, and if
`escapes` is false it sends nothing on behalf of an Escape. -/
structure KeepsContents (escapes : Bool) (s : Session) (st : Step) : Prop where
  notes : st.1.notes.value.content = s.notes.value.content
  saved : st.1.saved.value.content = s.saved.value.content
  insights : st.1.insights = s.insights
  called : s.called ≤ st.1.called
  calls : ∀ c ∈ st.1.calls, c ∈ s.calls ∨
    s.called ≤ c.id ∧ c.pending.call.isUsage = false ∧ (c.pending.isEscape = true → escapes = true)
  asks : ∀ id call, .call id call ∈ st.2 → call.isUsage = false
  answers : ∀ id r, .answered id r ∉ st.2

/-- A change without effects that gives up calls at most. -/
theorem keepsContents_silent (hnotes : t.notes.value.content = s.notes.value.content)
    (hsaved : t.saved.value.content = s.saved.value.content) (hinsights : t.insights = s.insights)
    (hcalled : t.called = s.called) (hcalls : ∀ c ∈ t.calls, c ∈ s.calls) :
    KeepsContents escapes s (t, []) :=
  ⟨hnotes, hsaved, hinsights, Nat.le_of_eq hcalled.symm, fun c hc => .inl (hcalls c hc), by simp,
    by simp⟩

theorem KeepsContents.refl (s : Session) : KeepsContents escapes s (s, []) :=
  keepsContents_silent rfl rfl rfl rfl fun _ hc => hc

theorem KeepsContents.andThen (h : KeepsContents escapes s st) {next : Session → Step}
    (k : KeepsContents escapes st.1 (next st.1)) : KeepsContents escapes s (st.andThen next) where
  notes := k.notes.trans h.notes
  saved := k.saved.trans h.saved
  insights := k.insights.trans h.insights
  called := Nat.le_trans h.called k.called
  calls := fun c hc => by
    rcases k.calls c hc with hold | ⟨hid, hnew⟩
    · exact h.calls c hold
    · exact .inr ⟨Nat.le_trans h.called hid, hnew⟩
  asks := fun id call hcall => (List.mem_append.1 hcall).elim (h.asks id call) (k.asks id call)
  answers := fun id r hr => (List.mem_append.1 hr).elim (h.answers id r) (k.answers id r)

/-- A change without effects comes before a step. -/
theorem KeepsContents.then (h : KeepsContents escapes s (t, [])) (k : KeepsContents escapes t st) :
    KeepsContents escapes s st :=
  @andThen s (t, []) escapes h (fun _ => st) k

theorem finish_keepsContents (s : Session) (op : OperationId) (r : Result) :
    KeepsContents escapes s (s.finish op r) :=
  { KeepsContents.refl s with asks := by simp [finish], answers := by simp [finish] }

theorem send_keepsContents (s : Session) {p : Pending} (husage : p.call.isUsage = false)
    (hescape : p.isEscape = true → escapes = true) : KeepsContents escapes s (s.send p) := by
  refine ⟨rfl, rfl, rfl, Nat.le_succ _, fun c hc => ?_, fun id call hcall => ?_, by simp [send]⟩
  · rcases List.mem_append.1 hc with hold | hnew
    · exact .inl hold
    · rw [List.mem_singleton.1 hnew]
      exact .inr ⟨Nat.le_refl _, husage, hescape⟩
  · cases List.mem_singleton.1 hcall
    exact husage

/-- Most calls are not sent on behalf of an Escape. -/
theorem sendPlain_keepsContents (s : Session) {p : Pending} (husage : p.call.isUsage = false)
    (hescape : p.isEscape = false) : KeepsContents escapes s (s.send p) :=
  send_keepsContents s husage fun h => absurd h (Bool.eq_false_iff.1 hescape)

theorem cancelWrite_keepsContents (s : Session) : KeepsContents escapes s (s.cancelWrite, []) := by
  unfold cancelWrite
  split
  · exact keepsContents_silent rfl rfl rfl rfl fun c hc => (List.mem_filter.1 hc).1
  · exact keepsContents_silent rfl rfl rfl rfl fun c hc => hc

theorem withSuggestions_keepsContents (s : Session) (w : Watched Suggestions) :
    KeepsContents escapes s (s.withSuggestions w, []) :=
  keepsContents_silent rfl rfl rfl rfl fun _ hc => (List.mem_filter.1 hc).1

/-- Changes of the filter, the results, the search box and the routes. -/
theorem with_keepsContents (s : Session) (filter : Watched Filter) (search : Watched SearchPane)
    (suggestions : Watched Suggestions) (box : SearchBox) (writes : List LiveWrite)
    (routes : List Route) :
    KeepsContents escapes s ({ s with filter, search, suggestions, box, writes, routes }, []) :=
  keepsContents_silent rfl rfl rfl rfl fun _ hc => hc

theorem act_keepsContents (s : Session) (a : Filter.Action) :
    KeepsContents escapes s (s.act a, []) :=
  s.with_keepsContents ..

theorem patchNotes_keepsContents (s : Session) (p : NoteFilter.Patch) :
    KeepsContents escapes s (s.patchNotes p, []) :=
  keepsContents_silent rfl rfl rfl rfl fun _ hc => hc

theorem startSearch_keepsContents (s : Session) (page : Option UInt32) (purpose : SearchPurpose) :
    KeepsContents escapes s (s.startSearch page purpose) :=
  (s.with_keepsContents _ (s.search.update (·.begin)) _ _ _ _).then (sendPlain_keepsContents _ rfl rfl)

theorem startNotes_keepsContents (s : Session) (page : UInt32) {purpose : NotesPurpose}
    (h : ∀ op, purpose = .escape op → escapes = true) :
    KeepsContents escapes s (s.startNotes page purpose) := by
  refine KeepsContents.then (t := { s with notes := s.notes.update (·.begin) }) ?_
    (send_keepsContents _ rfl fun hescape => ?_)
  · exact keepsContents_silent rfl rfl rfl rfl fun _ hc => hc
  · cases purpose with
    | escape op => exact h op rfl
    | _ => cases hescape

theorem startRefresh_keepsContents (s : Session) (op : OperationId) (r : Result) :
    KeepsContents escapes s (s.startRefresh op r) := by
  refine KeepsContents.then (t := { s with saved := s.saved.update (·.beginRefresh) }) ?_
    (sendPlain_keepsContents _ rfl rfl)
  exact keepsContents_silent rfl rfl rfl rfl fun _ hc => hc

/-! ## Operations -/

theorem clearSearch_keepsContents (s : Session) : KeepsContents escapes s s.clearSearch :=
  ⟨rfl, rfl, rfl, Nat.le_refl _, fun _ hc => .inl hc, by simp [clearSearch], by simp [clearSearch]⟩

theorem save_keepsContents (s : Session) (op : OperationId) (name : String) :
    KeepsContents escapes s (s.save op name) := by
  unfold save
  split
  · exact finish_keepsContents s op _
  · exact sendPlain_keepsContents s rfl rfl

theorem execute_keepsContents (s : Session) (op : OperationId) (saved : SavedSearch) :
    KeepsContents escapes s (s.execute op saved) := by
  refine KeepsContents.then (t := { s with saved := s.saved.update (·.beginExecution) }) ?_
    (sendPlain_keepsContents _ rfl rfl)
  exact keepsContents_silent rfl rfl rfl rfl fun _ hc => hc

/-- Making a text the query and searching for it. -/
theorem searchFor_keepsContents (s : Session) (text : String) (purpose : SearchPurpose) :
    KeepsContents escapes s ((s.dismiss.act (.setQuery text)).startSearch (some 1) purpose) :=
  (s.withSuggestions_keepsContents _).then
    ((act_keepsContents _ _).then (startSearch_keepsContents _ _ _))

theorem submit_keepsContents (s : Session) (op : OperationId) (byKey : Bool) :
    KeepsContents escapes s (s.submit op byKey) := by
  unfold submit
  refine s.cancelWrite_keepsContents.then ?_
  dsimp only
  split
  · exact finish_keepsContents _ op _
  · exact searchFor_keepsContents _ _ _

theorem commit_keepsContents (s : Session) (op : OperationId) (text : String) (byKey : Bool) :
    KeepsContents escapes s (s.commit op text byKey) :=
  s.cancelWrite_keepsContents.then ((with_keepsContents _ _ _ _ _ _ _).then
    (searchFor_keepsContents { s.cancelWrite with box := { s.cancelWrite.box with text } } text _))

theorem finishEscape_keepsContents (s : Session) (op : OperationId) :
    KeepsContents escapes s (s.finishEscape op) :=
  KeepsContents.then (t := s.blur) (s.with_keepsContents ..) (finish_keepsContents _ op _)

/-- Only where typing filters the notes, an Escape sends something. -/
theorem clearBox_keepsContents (s : Session) (op : OperationId) (byEscape : Bool) :
    KeepsContents (byEscape && s.box.mode == .liveFilter) s (s.clearBox op byEscape) := by
  have hfinished {escapes : Bool} (t : Session) :
      KeepsContents escapes t (if byEscape then t.finishEscape op else t.finish op .done) := by
    split
    · exact finishEscape_keepsContents t op
    · exact finish_keepsContents t op _
  let emptied := ({ s.cancelWrite with box := { s.cancelWrite.box with text := "" } }).dismiss
  have hemptied {escapes : Bool} : KeepsContents escapes s (emptied, []) :=
    s.cancelWrite_keepsContents.then ((with_keepsContents _ _ _ _ _ _ _).then
      (withSuggestions_keepsContents _ _))
  have hmode : emptied.box.mode = s.box.mode := s.mode_cancelWrite
  unfold clearBox
  dsimp only
  split
  · exact hemptied.then ((clearSearch_keepsContents emptied).andThen (hfinished _))
  · rename_i hlive
    refine hemptied.then ((patchNotes_keepsContents _ _).then (startNotes_keepsContents _ _ ?_))
    intro i hi
    split at hi
    · rename_i hescape
      rw [hescape, ← hmode, show emptied.box.mode = .liveFilter from hlive]
      rfl
    · cases hi
  · exact hemptied.then (hfinished emptied)

theorem type_keepsContents (s : Session) (text : String) :
    KeepsContents escapes s (s.type text, []) := by
  let u := s.withSuggestions (s.suggestions.update (·.type s.settings s.now text))
  refine (s.withSuggestions_keepsContents _).then (u.cancelWrite_keepsContents.then ?_)
  unfold type scheduleWrite
  dsimp only
  split <;> exact keepsContents_silent rfl rfl rfl rfl fun _ hc => hc

/-- Whether an event is an Escape that takes the focus away only when the notes have come. -/
def blursLate (s : Session) : Event → Bool
  | .command _ (.press k) => s.box.focused && k.key == .escape && s.box.mode == .liveFilter
  | _ => false

theorem press_keepsContents (s : Session) (op : OperationId) (k : KeyPress) :
    KeepsContents (s.blursLate (.command op (.press k))) s (s.press op k) := by
  by_cases hkey : s.box.focused = true ∧ (k.key = .escape ∨ k.key = .enter)
  · obtain ⟨hfocus, hkey | hkey⟩ := hkey
    · rw [press_escape op hfocus hkey, blursLate, hfocus, hkey]
      exact clearBox_keepsContents s op true
    · rw [press_enter op hfocus hkey]
      split
      · exact (s.withSuggestions_keepsContents _).then (commit_keepsContents _ op _ true)
      split
      · exact (s.withSuggestions_keepsContents _).then (submit_keepsContents _ op true)
      · exact submit_keepsContents s op true
  · obtain ⟨r, hr | hr | ⟨key, -, -, hr⟩⟩ := press_other op hkey
    · rw [hr]
      exact KeepsContents.then (t := s.focus) (s.with_keepsContents ..)
        (finish_keepsContents _ op r)
    · rw [hr]
      exact finish_keepsContents s op r
    · rw [hr]
      exact (s.withSuggestions_keepsContents _).then (finish_keepsContents _ op r)

theorem perform_keepsContents (s : Session) (op : OperationId) {c : Command}
    (h : c ≠ .loadInsights) : KeepsContents (s.blursLate (.command op c)) s (s.perform op c) := by
  cases c with
  | filter a => exact (act_keepsContents s a).then (finish_keepsContents _ op _)
  | run page => exact startSearch_keepsContents s page _
  | goToPage page => exact (act_keepsContents s _).then (startSearch_keepsContents _ none _)
  | clearSearch =>
    unfold perform
    exact (clearSearch_keepsContents s).andThen (finish_keepsContents _ op _)
  | typeSuggestion text =>
    exact (s.withSuggestions_keepsContents _).then (finish_keepsContents _ op _)
  | focusSuggestions =>
    exact (s.with_keepsContents _ _ (s.suggestions.update (·.focus)) _ _ _).then
      (finish_keepsContents _ op _)
  | blurSuggestions =>
    exact (s.with_keepsContents _ _ (s.suggestions.update (·.blur)) _ _ _).then
      (finish_keepsContents _ op _)
  | dismissSuggestions =>
    exact (s.withSuggestions_keepsContents _).then (finish_keepsContents _ op _)
  | chooseSuggestion index =>
    exact (s.withSuggestions_keepsContents _).then (finish_keepsContents _ op _)
  | pressSuggestion key =>
    exact (s.withSuggestions_keepsContents _).then (finish_keepsContents _ op _)
  | refreshSaved => exact startRefresh_keepsContents s op _
  | save name => exact save_keepsContents s op name
  | execute saved => exact execute_keepsContents s op saved
  | delete id => exact sendPlain_keepsContents s rfl rfl
  | patchNotes p => exact (patchNotes_keepsContents s p).then (finish_keepsContents _ op _)
  | fetchNotes page => exact startNotes_keepsContents s page nofun
  | loadInsights => exact absurd rfl h
  | type text => exact (s.type_keepsContents text).then (finish_keepsContents _ op _)
  | focus =>
    exact KeepsContents.then (t := s.focus) (s.with_keepsContents ..) (finish_keepsContents _ op _)
  | blur =>
    exact KeepsContents.then (t := s.blur) (s.with_keepsContents ..) (finish_keepsContents _ op _)
  | setMode mode =>
    refine s.cancelWrite_keepsContents.then (KeepsContents.then (t := s.setMode mode) ?_ ?_)
    · exact with_keepsContents ..
    · exact finish_keepsContents _ op _
  | submit => exact submit_keepsContents s op false
  | commit text => exact commit_keepsContents s op text false
  | clearBox => exact clearBox_keepsContents s op false
  | press k => exact press_keepsContents s op k

/-! ## Timers -/

theorem liveWrite_keepsContents (s : Session) (w : LiveWrite) :
    KeepsContents escapes s (s.liveWrite w) := by
  unfold liveWrite
  split
  · split
    · exact .refl s
    · exact (patchNotes_keepsContents s _).then (startNotes_keepsContents _ _ nofun)
  · dsimp only
    split
    · exact .refl s
    split
    · exact clearSearch_keepsContents s
    · exact (act_keepsContents s _).then (startSearch_keepsContents _ _ _)
  · exact .refl s

theorem ring_keepsContents (s : Session) (t : Timer) : KeepsContents escapes s (s.ring t) := by
  cases t with
  | fetch =>
    simp only [ring]
    split
    · exact .refl s
    split
    · exact (s.with_keepsContents _ _ { s.suggestions with value := s.suggestions.value.fire } _ _ _
        ).then (sendPlain_keepsContents _ rfl rfl)
    · exact .refl s
  | write number =>
    simp only [ring]
    split
    · exact .refl s
    · rename_i w _
      have hdrop : KeepsContents escapes s (s.dropWrite w.number, []) := s.with_keepsContents ..
      rw [wake_eq]
      cases s.box.claim? w.number with
      | none => exact hdrop
      | some box =>
        exact hdrop.then ((with_keepsContents _ _ _ _ box _ _).then (liveWrite_keepsContents _ w))

theorem setClock_keepsContents (s : Session) (time : Nat) :
    KeepsContents escapes s (s.setClock time, []) :=
  keepsContents_silent rfl rfl rfl rfl fun _ hc => hc

theorem ringUntil_keepsContents (limit count : Nat) (s : Session) :
    KeepsContents escapes s (ringUntil limit count s) := by
  induction count generalizing s with
  | zero => exact setClock_keepsContents s limit
  | succ count ih =>
    unfold ringUntil ringNext?
    split
    · exact setClock_keepsContents s limit
    · rename_i st hst
      split at hst
      · cases hst
      · split at hst
        · cases hst
          exact ((setClock_keepsContents s _).then (ring_keepsContents _ _)).andThen (ih _)
        · cases hst

/-! ## Replies -/

end Session

/-- The load of usage numbers that a call belongs to, and which of the three parts it asks for. -/
def Pending.part? : Pending → Option (Nat × Nat)
  | popular load _ => some (load, 0)
  | trending load _ => some (load, 1)
  | stats load _ => some (load, 2)
  | _ => none

/-- Which of the three parts of a load this is. -/
def InsightsPart.place : InsightsPart → Nat
  | popular _ => 0
  | trending _ => 1
  | stats _ => 2

/-- The part of a load that a reply brings. -/
def Reply.part? : Reply → Option InsightsPart
  | popular a => some (.popular a)
  | trending a => some (.trending a)
  | stats a => some (.stats a)
  | _ => none

/-- Whether a call waits for a reply that changes what a pane holds. -/
def Pending.fills : Pending → Bool
  | notes .. => true
  | listSaved .. => true
  | deleteSaved .. => true
  | p => p.part?.isSome

/-- Whether a reply is one that changes what a pane holds. -/
def Reply.fills : Reply → Bool
  | notes _ => true
  | listSaved _ => true
  | deleteSaved _ => true
  | r => r.part?.isSome

namespace Session

variable {s t : Session} {st : Step}

/-- The session right after the reply `r` to the call `id` has been taken, before anything follows
from it. -/
inductive Received (s : Session) (id : Nat) : Pending → Reply → Session → Prop where
  | notes {ticket : Nat} {query : NoteQuery} {purpose : NotesPurpose}
      (a : Except Failure NotePage) :
      Received s id (.notes ticket query purpose) (.notes a)
        { s.forget id with notes := (NotePane.receive s.notes ticket query a).1 }
  | list {refresh : Nat} {op : OperationId} {result : Result}
      (a : Except Failure (List SavedSearch)) :
      Received s id (.listSaved refresh op result) (.listSaved a)
        { s.forget id with saved := SavedPane.receive s.saved refresh a }
  | deleted (op : OperationId) (saved : Int64) :
      Received s id (.deleteSaved op saved) (.deleteSaved (.ok ()))
        { s.forget id with saved := s.saved.update (·.remove saved) }
  | kept (op : OperationId) (saved : Int64) (failure : Failure) :
      Received s id (.deleteSaved op saved) (.deleteSaved (.error failure)) (s.forget id)
  | part {p : Pending} {r : Reply} {load : Nat} {part : InsightsPart}
      (hp : p.part? = some (load, part.place)) (hr : r.part? = some part) :
      Received s id p r { s.forget id with insights := (s.insights.receive load part).1 }
  | other {p : Pending} {r : Reply} (hp : p.fills = false) (hr : r.fills = false) :
      Received s id p r (s.forget id)

theorem afterSearch_keepsContents (s : Session) (o : Outcome) (purpose : SearchPurpose) :
    KeepsContents false s (s.afterSearch o purpose) := by
  cases purpose with
  | run op => exact finish_keepsContents s op _
  | liveWrite number => exact .refl s
  | submit op byKey =>
    exact KeepsContents.then (t := s.navigate _) (s.with_keepsContents ..)
      (finish_keepsContents _ op _)
  | commit op byKey leads =>
    cases leads with
    | false => exact finish_keepsContents s op _
    | true =>
      exact KeepsContents.then (t := s.navigate _) (s.with_keepsContents ..)
        (finish_keepsContents _ op _)
  | execution op => exact startRefresh_keepsContents s op _

theorem afterNotes_keepsContents (s : Session) (o : Outcome) (purpose : NotesPurpose) :
    KeepsContents false s (s.afterNotes o purpose) := by
  cases purpose with
  | fetch op => exact finish_keepsContents s op _
  | liveWrite number => exact .refl s
  | clear op => exact finish_keepsContents s op _
  | escape op => exact finishEscape_keepsContents s op

theorem afterExecute_keepsContents (s : Session) (execution : Nat) (op : OperationId)
    (saved : SavedSearch) (a : Except Failure ResultPage) :
    KeepsContents false s (s.afterExecute execution op saved a) := by
  unfold afterExecute
  split
  · exact finish_keepsContents s op _
  · cases a with
    | error failure => exact finish_keepsContents s op _
    | ok results => exact (act_keepsContents s _).then (startSearch_keepsContents _ _ _)

theorem afterCreate_keepsContents (s : Session) (op : OperationId)
    (a : Except Failure SavedSearch) : KeepsContents false s (s.afterCreate op a) := by
  cases a with
  | error failure => exact finish_keepsContents s op _
  | ok saved => exact startRefresh_keepsContents s op _

/-- After the panel has taken a part, its load has ended or goes on. -/
theorem afterPart_keepsContents (s : Session) (id load : Nat) (op : OperationId)
    (part : InsightsPart) :
    KeepsContents false { s.forget id with insights := (s.insights.receive load part).1 }
      ((s.forget id).afterPart load op part) := by
  unfold afterPart
  split
  · rename_i insights hreceived
    have hinsights : (s.insights.receive load part).1 = insights := congrArg Prod.fst hreceived
    rw [hinsights]
    exact finish_keepsContents _ op _
  · rename_i insights hreceived
    have hinsights : (s.insights.receive load part).1 = insights := congrArg Prod.fst hreceived
    rw [hinsights]
    exact .refl _

/-- A reply has no effect; or it is taken, and what follows keeps what the panes hold. -/
theorem reply_received (s : Session) (id : Nat) (r : Reply) :
    s.reply id r = (s, []) ∨ ∃ p t st, s.pending? id = some p ∧ Received s id p r t ∧
      KeepsContents false t st ∧ s.reply id r = (st.1, .answered id r :: st.2) := by
  unfold reply
  split
  · exact .inl rfl
  · rename_i p hid
    cases htake : (s.forget id).take p r with
    | none => exact .inl rfl
    | some st =>
      refine .inr ?_
      suffices h : ∃ t, Received s id p r t ∧ KeepsContents false t st by
        obtain ⟨t, hreceived, hkeeps⟩ := h
        exact ⟨p, t, st, hid, hreceived, hkeeps, rfl⟩
      unfold take at htake
      split at htake
      case h_11 => cases htake
      all_goals cases htake
      case h_1 ticket request purpose a =>
        let u := { s.forget id with search := (SearchPane.receive s.search ticket request a).1 }
        have hu : KeepsContents false (s.forget id) (u, []) := with_keepsContents ..
        exact ⟨_, .other rfl rfl, hu.then (afterSearch_keepsContents u _ _)⟩
      case h_2 generation text limit a =>
        exact ⟨_, .other rfl rfl,
          with_keepsContents _ _ _ (Suggestions.receive s.suggestions generation a) _ _ _⟩
      case h_3 => exact ⟨_, .list _, finish_keepsContents _ _ _⟩
      case h_4 => exact ⟨_, .other rfl rfl, afterCreate_keepsContents _ _ _⟩
      case h_5 => exact ⟨_, .other rfl rfl, afterExecute_keepsContents _ _ _ _ _⟩
      case h_6 op saved a =>
        cases a with
        | error failure => exact ⟨_, .kept op saved failure, finish_keepsContents _ op _⟩
        | ok _ => exact ⟨_, .deleted op saved, startRefresh_keepsContents _ op _⟩
      case h_10 => exact ⟨_, .notes _, afterNotes_keepsContents _ _ _⟩
      all_goals exact ⟨_, .part rfl rfl, afterPart_keepsContents _ _ _ _ _⟩

theorem Received.calls {id : Nat} {p : Pending} {r : Reply} (h : Received s id p r t) :
    t.calls = (s.forget id).calls := by
  cases h <;> rfl

theorem Received.called {id : Nat} {p : Pending} {r : Reply} (h : Received s id p r t) :
    t.called = s.called := by
  cases h <;> rfl

/-- An event keeps what the panes hold, or it begins to load the usage numbers, or it is a reply
that is taken and followed by a step that keeps what the panes hold. -/
theorem step_received_cases (s : Session) (e : Event) :
    KeepsContents (s.blursLate e) s (s.step e) ∨
      (∃ op, e = .command op .loadInsights) ∨
      ∃ id r p t st, e = .reply id r ∧ s.pending? id = some p ∧ Received s id p r t ∧
        KeepsContents false t st ∧ s.step e = (st.1, .answered id r :: st.2) := by
  cases e with
  | command op c =>
    by_cases hload : c = .loadInsights
    · exact .inr (.inl ⟨op, congrArg _ hload⟩)
    · exact .inl (perform_keepsContents s op hload)
  | reply id r =>
    rcases s.reply_received id r with hnone | ⟨p, t, st, hid, hreceived, hkeeps, hst⟩
    · refine .inl ?_
      rw [step, hnone]
      exact .refl s
    · exact .inr (.inr ⟨id, r, p, t, st, rfl, hid, hreceived, hkeeps, hst⟩)
  | wait ms => exact .inl (ringUntil_keepsContents _ _ s)
  | pass ms => exact .inl (setClock_keepsContents s _)
  | ring t => exact .inl (ring_keepsContents s t)

section keep

/-! What a load, the taking of a reply and all other steps keep, events keep. The latest effect is
the first one of `past`. -/

variable (Inv : Session → List Effect → Prop)
  (hkeeps : ∀ {escapes : Bool} {s : Session} {st : Step} {past : List Effect},
    KeepsContents escapes s st → Inv s past → Inv st.1 (st.2.reverse ++ past))
  (hload : ∀ {s : Session} {past : List Effect} (op : OperationId),
    Recorded s past → Inv s past →
      Inv (s.loadInsights op).1 ((s.loadInsights op).2.reverse ++ past))
  (hreceived : ∀ {s t : Session} {id : Nat} {p : Pending} {r : Reply} {past : List Effect},
    Recorded s past → s.pending? id = some p → Received s id p r t → Inv s past →
      Inv t (.answered id r :: past))
include hkeeps hload hreceived

theorem keep_received {s : Session} {past : List Effect} (hrecorded : Recorded s past)
    (hs : Inv s past) (es : List Event) :
    Inv (s.steps es).1 ((s.steps es).2.reverse ++ past) := by
  induction es generalizing s past with
  | nil => simpa [steps] using hs
  | cons e es ih =>
    have hstep : Inv (s.step e).1 ((s.step e).2.reverse ++ past) := by
      rcases s.step_received_cases e with h | ⟨op, rfl⟩ | ⟨id, r, p, t, st, -, hid, ht, h, hst⟩
      · exact hkeeps h hs
      · exact hload op hrecorded hs
      · simpa [hst] using hkeeps h (hreceived hrecorded hid ht hs)
    simpa [steps, Step.andThen] using ih (hrecorded.step e) hstep

end keep

end Session

end NoteSearch
