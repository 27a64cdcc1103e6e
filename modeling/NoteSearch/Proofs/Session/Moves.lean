-- SUMMARY: The moves that a session is made of, and every event as a sequence of moves.
import NoteSearch.Session.Events

/-!
# Moves

An operation changes a session in several small moves: it aborts a live write, takes a ticket,
sends a call, and so on; a reply is taken first and then followed by such moves. There are few
kinds of moves, so what a run keeps is proved for each kind, and `keep_steps` carries it over to
every sequence of events.
-/

namespace NoteSearch

/-- Whether a call belongs to none of the panes that take tickets. -/
def Pending.isPlain : Pending → Bool
  | .search .. => false
  | .notes .. => false
  | .listSaved .. => false
  | .executeSaved .. => false
  | _ => true

/-- Whether a reply is for none of the panes that take tickets. -/
def Reply.isPlain : Reply → Bool
  | .search _ => false
  | .notes _ => false
  | .listSaved _ => false
  | .executeSaved _ => false
  | _ => true

namespace Session

/-! ## Kinds of moves -/

/-- Two sessions that agree on their calls, on their live writes and on what their panes wait
for. They may differ in the filter, the completions, the texts and the clock. -/
structure Alike (s t : Session) : Prop where
  search : t.search = s.search
  notesIssued : t.notes.value.issued = s.notes.value.issued
  notesLoading : t.notes.value.loading = s.notes.value.loading
  refreshes : t.saved.value.refreshes = s.saved.value.refreshes
  savedLoading : t.saved.value.loading = s.saved.value.loading
  executions : t.saved.value.executions = s.saved.value.executions
  pending : t.box.pending = s.box.pending
  turn : t.box.turn = s.box.turn
  writes : t.writes = s.writes
  calls : t.calls = s.calls
  called : t.called = s.called

/-- A live write may only send in its own turn, and after it has taken over from the box. -/
def MaySend (s : Session) (number : Nat) : Prop :=
  number = s.box.turn ∧ s.box.pending = none

/-- The box with a new text, after the live write for the old one has been dropped. -/
def retype (s : Session) (text : String) : Session :=
  let s := s.cancelWrite
  { s with box := { s.box with text } }.scheduleWrite

/-- A move that a session makes by itself, with the effects that it has. -/
inductive Move : Session → List Effect → Session → Prop where
  | quiet {s t : Session} (h : Alike s t) : Move s [] t
  | finish (s : Session) (op : OperationId) (r : Result) : Move s [.finished op r] s
  /-- Fetches of completions of other generations are given up. -/
  | dropFetches (s : Session) (generation : Nat) :
      Move s []
        { s with calls := s.calls.filter fun c => !c.pending.isStaleFetch generation }
  | search (s : Session) (page : Option UInt32) (purpose : SearchPurpose)
      (h : ∀ number, purpose = .liveWrite number → s.MaySend number) :
      Move s (s.startSearch page purpose).2 (s.startSearch page purpose).1
  | clear (s : Session) : Move s [.cleared] { s with search := s.search.update (·.reset) }
  | notes (s : Session) (page : UInt32) (purpose : NotesPurpose)
      (h : ∀ number, purpose = .liveWrite number → s.MaySend number) :
      Move s (s.startNotes page purpose).2 (s.startNotes page purpose).1
  | refresh (s : Session) (op : OperationId) (r : Result) :
      Move s (s.startRefresh op r).2 (s.startRefresh op r).1
  | send (s : Session) (p : Pending) (h : p.isPlain = true) : Move s (s.send p).2 (s.send p).1
  | cancelWrite (s : Session) : Move s [] s.cancelWrite
  | retype (s : Session) (text : String) : Move s [] (s.retype text)
  /-- A live write takes over from the box, or it finds that its turn is over. -/
  | wake (s : Session) (number : Nat) :
      Move s []
        { s with
          writes := s.writes.filter fun w => w.number != number
          box := (s.box.claim? number).getD s.box }

/-- The reply `r` to the call with the number `id` is taken. -/
inductive Taken (s : Session) (id : Nat) : Reply → Session → Prop where
  | search {ticket : Nat} {request : Request} {purpose : SearchPurpose}
      (a : Except Failure ResultPage) (h : s.pending? id = some (.search ticket request purpose)) :
      Taken s id (.search a)
        { s.forget id with search := (SearchPane.receive s.search ticket request a).1 }
  | notes {ticket : Nat} {query : NoteQuery} {purpose : NotesPurpose}
      (a : Except Failure NotePage) (h : s.pending? id = some (.notes ticket query purpose)) :
      Taken s id (.notes a)
        { s.forget id with notes := (NotePane.receive s.notes ticket query a).1 }
  | list {refresh : Nat} {op : OperationId} {result : Result}
      (a : Except Failure (List SavedSearch))
      (h : s.pending? id = some (.listSaved refresh op result)) :
      Taken s id (.listSaved a) { s.forget id with saved := SavedPane.receive s.saved refresh a }
  | execute {execution : Nat} {op : OperationId} {saved : SavedSearch}
      (a : Except Failure ResultPage)
      (h : s.pending? id = some (.executeSaved execution op saved)) :
      Taken s id (.executeSaved a) (s.forget id)
  | plain {p : Pending} (r : Reply) (h : s.pending? id = some p) (hp : p.isPlain = true)
      (hr : r.isPlain = true) : Taken s id r (s.forget id)

/-- Moves that follow each other. -/
inductive Moves : Session → List Effect → Session → Prop where
  | refl (s : Session) : Moves s [] s
  | tail {s t u : Session} {fx gx : List Effect} :
      Moves s fx t → Move t gx u → Moves s (fx ++ gx) u

/-! ## Sequences of moves -/

theorem Move.moves {s t : Session} {fx : List Effect} (h : Move s fx t) : Moves s fx t := by
  simpa using (Moves.refl s).tail h

theorem Moves.trans {s t u : Session} {fx gx : List Effect} (h : Moves s fx t)
    (k : Moves t gx u) : Moves s (fx ++ gx) u := by
  induction k with
  | refl => simpa using h
  | tail _ hm ih =>
    rw [← List.append_assoc]
    exact ih.tail hm

/-- A silent move comes before other moves. -/
theorem Move.then {s t u : Session} {fx : List Effect} (h : Move s [] t) (k : Moves t fx u) :
    Moves s fx u := by
  simpa using h.moves.trans k

/-- The steps that moves from `s` lead to. -/
def Makes (s : Session) (st : Step) : Prop := Moves s st.2 st.1

theorem Makes.andThen {s : Session} {st : Step} {next : Session → Step} (h : s.Makes st)
    (hnext : st.1.Makes (next st.1)) : s.Makes (st.andThen next) :=
  h.trans hnext

/-! ## Operations -/

theorem alike_act (s : Session) (a : Filter.Action) : Alike s (s.act a) := by
  constructor <;> rfl

theorem alike_patchNotes (s : Session) (p : NoteFilter.Patch) : Alike s (s.patchNotes p) := by
  constructor <;> rfl

theorem alike_navigate (s : Session) (r : Route) : Alike s (s.navigate r) := by
  constructor <;> rfl

theorem alike_focus (s : Session) : Alike s s.focus := by constructor <;> rfl

theorem alike_blur (s : Session) : Alike s s.blur := by constructor <;> rfl

theorem alike_setClock (s : Session) (time : Nat) : Alike s (s.setClock time) := by
  constructor <;> rfl

theorem finish_makes (s : Session) (op : OperationId) (r : Result) : s.Makes (s.finish op r) :=
  (Move.finish s op r).moves

theorem startSearch_makes (s : Session) (page : Option UInt32) (purpose : SearchPurpose)
    (h : ∀ number, purpose = .liveWrite number → s.MaySend number) :
    s.Makes (s.startSearch page purpose) :=
  (Move.search s page purpose h).moves

theorem startNotes_makes (s : Session) (page : UInt32) (purpose : NotesPurpose)
    (h : ∀ number, purpose = .liveWrite number → s.MaySend number) :
    s.Makes (s.startNotes page purpose) :=
  (Move.notes s page purpose h).moves

theorem startRefresh_makes (s : Session) (op : OperationId) (r : Result) :
    s.Makes (s.startRefresh op r) :=
  (Move.refresh s op r).moves

theorem send_makes (s : Session) (p : Pending) (h : p.isPlain = true) : s.Makes (s.send p) :=
  (Move.send s p h).moves

/-- Moves that follow a silent one make a step from the session before it. -/
theorem Move.makes {s t : Session} {st : Step} (h : Move s [] t) (k : t.Makes st) : s.Makes st :=
  h.then k

theorem clearSearch_makes (s : Session) : s.Makes s.clearSearch :=
  (Move.quiet (alike_act s _)).makes (Move.clear _).moves

theorem withSuggestions_moves (s : Session) (w : Watched Suggestions) :
    Moves s [] (s.withSuggestions w) := by
  refine (Move.quiet (t := { s with suggestions := w }) ?_).then (Move.dropFetches _ _).moves
  constructor <;> rfl

theorem dismiss_moves (s : Session) : Moves s [] s.dismiss := s.withSuggestions_moves _

theorem save_makes (s : Session) (op : OperationId) (name : String) :
    s.Makes (s.save op name) := by
  unfold save
  split
  · exact finish_makes s op _
  · exact send_makes s _ rfl

theorem loadInsights_makes (s : Session) (op : OperationId) : s.Makes (s.loadInsights op) := by
  refine (Move.quiet (t := { s with insights := s.insights.begin }) ?_).makes ?_
  · constructor <;> rfl
  · refine Makes.andThen (send_makes _ _ rfl) ?_
    exact Makes.andThen (send_makes _ _ rfl) (send_makes _ _ rfl)

theorem type_moves (s : Session) (text : String) : Moves s [] (s.type text) :=
  (s.withSuggestions_moves _).trans (Move.retype _ text).moves

theorem setMode_moves (s : Session) (mode : Mode) : Moves s [] (s.setMode mode) := by
  refine (Move.cancelWrite s).then (Move.quiet ?_).moves
  constructor <;> rfl

/-- Moves without effects come before a step. -/
theorem Moves.makes {s t : Session} {st : Step} (h : Moves s [] t) (k : t.Makes st) :
    s.Makes st := by
  simpa [Makes] using h.trans k

/-- Making a text the query and searching for it. -/
theorem searchFor_makes (s : Session) (text : String) (purpose : SearchPurpose)
    (h : ∀ number, purpose ≠ .liveWrite number) :
    s.Makes ((s.dismiss.act (.setQuery text)).startSearch (some 1) purpose) := by
  refine s.dismiss_moves.makes ((Move.quiet (alike_act _ (.setQuery text))).makes ?_)
  exact startSearch_makes _ _ _ fun number hn => absurd hn (h number)

theorem submit_makes (s : Session) (op : OperationId) (byKey : Bool) :
    s.Makes (s.submit op byKey) := by
  unfold submit
  refine (Move.cancelWrite s).makes ?_
  dsimp only
  split
  · exact finish_makes _ op _
  · exact searchFor_makes _ _ _ nofun

theorem commit_makes (s : Session) (op : OperationId) (text : String) (byKey : Bool) :
    s.Makes (s.commit op text byKey) := by
  refine (Move.cancelWrite s).makes (Move.makes (.quiet ?_) (searchFor_makes _ _ _ nofun))
  constructor <;> rfl

theorem finishEscape_makes (s : Session) (op : OperationId) : s.Makes (s.finishEscape op) :=
  (Move.quiet (alike_blur s)).makes (finish_makes _ op _)

theorem clearBox_makes (s : Session) (op : OperationId) (byEscape : Bool) :
    s.Makes (s.clearBox op byEscape) := by
  have hfinished (s : Session) :
      s.Makes (if byEscape then s.finishEscape op else s.finish op .done) := by
    split
    · exact finishEscape_makes s op
    · exact finish_makes s op _
  unfold clearBox
  dsimp only
  refine (Move.cancelWrite s).makes ?_
  refine Move.makes (t := { s.cancelWrite with box := { s.cancelWrite.box with text := "" } }) ?_ ?_
  · exact .quiet (by constructor <;> rfl)
  · refine (dismiss_moves _).makes ?_
    split
    · exact (clearSearch_makes _).andThen (hfinished _)
    · refine (Move.quiet (alike_patchNotes _ _)).makes (startNotes_makes _ _ _ ?_)
      intro number h
      split at h <;> cases h
    · exact hfinished _

theorem suggestionPress_makes (s : Session) (op : OperationId) (key : Key) :
    s.Makes (s.suggestionPress op key) := by
  unfold suggestionPress
  refine (s.withSuggestions_moves (Suggestions.handleKey s.suggestions key).1).makes ?_
  dsimp only
  split
  · exact commit_makes _ op _ true
  · split
    · exact submit_makes _ op true
    · exact finish_makes _ op _
  · exact finish_makes _ op _

theorem press_makes (s : Session) (op : OperationId) (k : KeyPress) :
    s.Makes (s.press op k) := by
  unfold press
  split
  · exact (Move.quiet (alike_focus s)).makes (finish_makes _ op _)
  split
  · exact finish_makes s op _
  split
  · exact clearBox_makes s op true
  · split
    · exact suggestionPress_makes s op _
    · exact finish_makes s op _
  · split
    · exact suggestionPress_makes s op _
    · exact finish_makes s op _
  · split
    · exact suggestionPress_makes s op _
    · exact submit_makes s op true
  · exact finish_makes s op _

/-- Every operation but the execution of a saved search is a sequence of moves. -/
theorem perform_makes (s : Session) (op : OperationId) {c : Command}
    (h : ∀ saved, c ≠ .execute saved) : s.Makes (s.perform op c) := by
  cases c with
  | filter a => exact (Move.quiet (alike_act s a)).makes (finish_makes _ op _)
  | run page => exact startSearch_makes s page _ nofun
  | goToPage page =>
    exact (Move.quiet (alike_act s _)).makes (startSearch_makes _ none _ nofun)
  | clearSearch => exact (clearSearch_makes s).andThen (finish_makes _ op _)
  | typeSuggestion text => exact (s.withSuggestions_moves _).makes (finish_makes _ op _)
  | focusSuggestions =>
    refine (Move.quiet ?_).makes (finish_makes _ op _)
    constructor <;> rfl
  | blurSuggestions =>
    refine (Move.quiet ?_).makes (finish_makes _ op _)
    constructor <;> rfl
  | dismissSuggestions => exact s.dismiss_moves.makes (finish_makes _ op _)
  | chooseSuggestion index => exact (s.withSuggestions_moves _).makes (finish_makes _ op _)
  | pressSuggestion key => exact (s.withSuggestions_moves _).makes (finish_makes _ op _)
  | refreshSaved => exact startRefresh_makes s op _
  | save name => exact save_makes s op name
  | execute saved => exact absurd rfl (h saved)
  | delete id => exact send_makes s _ rfl
  | patchNotes p => exact (Move.quiet (alike_patchNotes s p)).makes (finish_makes _ op _)
  | fetchNotes page => exact startNotes_makes s page _ nofun
  | loadInsights => exact loadInsights_makes s op
  | type text => exact (s.type_moves text).makes (finish_makes _ op _)
  | focus => exact (Move.quiet (alike_focus s)).makes (finish_makes _ op _)
  | blur => exact (Move.quiet (alike_blur s)).makes (finish_makes _ op _)
  | setMode mode => exact (s.setMode_moves mode).makes (finish_makes _ op _)
  | submit => exact submit_makes s op false
  | commit text => exact commit_makes s op text false
  | clearBox => exact clearBox_makes s op false
  | press k => exact press_makes s op k

/-! ## Replies -/

theorem afterSearch_makes (s : Session) (o : Outcome) (purpose : SearchPurpose) :
    s.Makes (s.afterSearch o purpose) := by
  cases purpose with
  | run op => exact finish_makes s op _
  | liveWrite number => exact Moves.refl s
  | submit op byKey => exact (Move.quiet (alike_navigate s _)).makes (finish_makes _ op _)
  | commit op byKey leads =>
    cases leads with
    | false => exact finish_makes s op _
    | true => exact (Move.quiet (alike_navigate s _)).makes (finish_makes _ op _)
  | execution op => exact startRefresh_makes s op _

theorem afterNotes_makes (s : Session) (o : Outcome) (purpose : NotesPurpose) :
    s.Makes (s.afterNotes o purpose) := by
  cases purpose with
  | fetch op => exact finish_makes s op _
  | liveWrite number => exact Moves.refl s
  | clear op => exact finish_makes s op _
  | escape op => exact finishEscape_makes s op

theorem afterExecute_makes (s : Session) (execution : Nat) (op : OperationId)
    (saved : SavedSearch) (a : Except Failure ResultPage) :
    s.Makes (s.afterExecute execution op saved a) := by
  unfold afterExecute
  split
  · exact finish_makes s op _
  · cases a with
    | error failure => exact finish_makes s op _
    | ok results =>
      exact (Move.quiet (alike_act s _)).makes (startSearch_makes _ _ _ nofun)

theorem afterCreate_makes (s : Session) (op : OperationId) (a : Except Failure SavedSearch) :
    s.Makes (s.afterCreate op a) := by
  cases a with
  | error failure => exact finish_makes s op _
  | ok saved => exact startRefresh_makes s op _

theorem afterDelete_makes (s : Session) (op : OperationId) (id : Int64)
    (a : Except Failure Unit) : s.Makes (s.afterDelete op id a) := by
  cases a with
  | error failure => exact finish_makes s op _
  | ok _ =>
    refine (Move.quiet ?_).makes (startRefresh_makes _ op _)
    constructor <;> rfl

theorem afterPart_makes (s : Session) (load : Nat) (op : OperationId) (part : InsightsPart) :
    s.Makes (s.afterPart load op part) := by
  unfold afterPart
  split
  · refine (Move.quiet ?_).makes (finish_makes _ op _)
    constructor <;> rfl
  · refine (Move.quiet ?_).moves
    constructor <;> rfl

/-- A reply that is taken is followed by moves. -/
theorem exists_taken {s : Session} {id : Nat} {p : Pending} {r : Reply} {st : Step}
    (h : s.pending? id = some p) (hst : (s.forget id).take p r = some st) :
    ∃ t, Taken s id r t ∧ t.Makes st := by
  unfold take at hst
  split at hst
  case h_11 => cases hst
  all_goals cases hst
  · exact ⟨_, .search _ h, afterSearch_makes _ _ _⟩
  · refine ⟨_, .plain _ h rfl rfl, (Move.quiet ?_).moves⟩
    constructor <;> rfl
  · exact ⟨_, .list _ h, finish_makes _ _ _⟩
  · exact ⟨_, .plain _ h rfl rfl, afterCreate_makes _ _ _⟩
  · exact ⟨_, .execute _ h, afterExecute_makes _ _ _ _ _⟩
  · exact ⟨_, .plain _ h rfl rfl, afterDelete_makes _ _ _ _⟩
  · exact ⟨_, .plain _ h rfl rfl, afterPart_makes _ _ _ _⟩
  · exact ⟨_, .plain _ h rfl rfl, afterPart_makes _ _ _ _⟩
  · exact ⟨_, .plain _ h rfl rfl, afterPart_makes _ _ _ _⟩
  · exact ⟨_, .notes _ h, afterNotes_makes _ _ _⟩

theorem reply_of_take_none {s : Session} {id : Nat} {p : Pending} {r : Reply}
    (hid : s.pending? id = some p) (htake : (s.forget id).take p r = none) :
    s.reply id r = (s, []) := by
  simp only [reply, hid, htake]

theorem reply_of_take {s : Session} {id : Nat} {p : Pending} {r : Reply} {st : Step}
    (hid : s.pending? id = some p) (htake : (s.forget id).take p r = some st) :
    s.reply id r = (st.1, .answered id r :: st.2) := by
  simp only [reply, hid, htake]

/-- A reply is ignored, or it is taken and followed by moves. -/
theorem reply_cases (s : Session) (id : Nat) (r : Reply) :
    s.reply id r = (s, []) ∨
      ∃ t st, Taken s id r t ∧ t.Makes st ∧ s.reply id r = (st.1, .answered id r :: st.2) := by
  unfold reply
  split
  · exact .inl rfl
  · rename_i p hp
    split
    · exact .inl rfl
    · rename_i after effects hst
      obtain ⟨t, ht, hmakes⟩ := exists_taken hp hst
      exact .inr ⟨t, (after, effects), ht, hmakes, rfl⟩

/-! ## Timers -/

theorem sendFetch_makes (s : Session) (f : ScheduledFetch) : s.Makes (s.sendFetch f) := by
  refine (Move.quiet ?_).makes (send_makes _ _ rfl)
  constructor <;> rfl

theorem liveWrite_makes (s : Session) (w : LiveWrite) (h : s.MaySend w.number) :
    s.Makes (s.liveWrite w) := by
  unfold liveWrite
  split
  · split
    · exact Moves.refl s
    · refine (Move.quiet (alike_patchNotes s _)).makes (startNotes_makes _ _ _ ?_)
      rintro _ ⟨⟩
      exact ⟨h.1, h.2⟩
  · dsimp only
    split
    · exact Moves.refl s
    split
    · exact clearSearch_makes s
    · refine (Move.quiet (alike_act s _)).makes (startSearch_makes _ _ _ ?_)
      rintro _ ⟨⟩
      exact ⟨h.1, h.2⟩
  · exact Moves.refl s

theorem wake_makes (s : Session) (w : LiveWrite) : s.Makes (s.wake w) := by
  have hwake := Move.wake s w.number
  cases hclaim : s.box.claim? w.number with
  | none =>
    rw [hclaim] at hwake
    simp only [wake, hclaim]
    exact hwake.moves
  | some box =>
    rw [hclaim] at hwake
    simp only [wake, hclaim]
    refine hwake.makes (liveWrite_makes _ w ?_)
    unfold SearchBox.claim? at hclaim
    split at hclaim
    · cases hclaim
      exact ⟨‹_›, rfl⟩
    · cases hclaim

theorem ring_makes (s : Session) (t : Timer) : s.Makes (s.ring t) := by
  cases t with
  | fetch =>
    simp only [ring]
    split
    · exact Moves.refl s
    · split
      · exact sendFetch_makes s _
      · exact Moves.refl s
  | write number =>
    simp only [ring]
    split
    · exact Moves.refl s
    · exact wake_makes s _

theorem setClock_moves (s : Session) (time : Nat) : Moves s [] (s.setClock time) :=
  (Move.quiet (alike_setClock s time)).moves

theorem ringNext_makes {s : Session} {limit : Nat} {st : Step}
    (h : s.ringNext? limit = some st) : s.Makes st := by
  unfold ringNext? at h
  split at h
  · cases h
  · split at h
    · cases h
      exact (setClock_moves s _).makes (ring_makes _ _)
    · cases h

theorem ringUntil_makes (limit count : Nat) (s : Session) :
    s.Makes (ringUntil limit count s) := by
  induction count generalizing s with
  | zero => exact setClock_moves s limit
  | succ count ih =>
    unfold ringUntil
    split
    · exact setClock_moves s limit
    · rename_i st hst
      exact (ringNext_makes hst).andThen (ih _)

/-! ## Events -/

/-- An event is a sequence of moves, unless it executes a saved search; if it is a reply that is
taken, the moves come after that. -/
theorem step_cases (s : Session) (e : Event) :
    s.Makes (s.step e) ∨
      (∃ op saved, e = .command op (.execute saved)) ∨
      ∃ id r t st, e = .reply id r ∧ Taken s id r t ∧ t.Makes st ∧
        s.step e = (st.1, .answered id r :: st.2) := by
  cases e with
  | command op c =>
    by_cases hc : ∃ saved, c = .execute saved
    · obtain ⟨saved, rfl⟩ := hc
      exact .inr (.inl ⟨op, saved, rfl⟩)
    · exact .inl (perform_makes s op fun saved h => hc ⟨saved, h⟩)
  | reply id r =>
    rcases s.reply_cases id r with h | ⟨t, st, ht, hmakes, h⟩
    · refine .inl ?_
      rw [step, h]
      exact Moves.refl s
    · exact .inr (.inr ⟨id, r, t, st, rfl, ht, hmakes, h⟩)
  | wait ms => exact .inl (ringUntil_makes _ _ s)
  | pass ms => exact .inl (setClock_moves s _)
  | ring t => exact .inl (ring_makes s t)

/-- What moves keep without regard to the effects so far. -/
theorem Moves.keepState (Inv : Session → Prop)
    (hmove : ∀ {s t : Session} {fx : List Effect}, Move s fx t → Inv s → Inv t)
    {s t : Session} {fx : List Effect} (h : Moves s fx t) (hs : Inv s) : Inv t := by
  induction h with
  | refl => exact hs
  | tail _ hm ih => exact hmove hm ih

section keep

/-! What moves, executions and replies keep, events keep. The latest effect is the first one of
`past`. -/

variable (Inv : Session → List Effect → Prop)
  (hmove : ∀ {s t : Session} {fx past : List Effect},
    Move s fx t → Inv s past → Inv t (fx.reverse ++ past))
  (hexecute : ∀ {s : Session} {past : List Effect} (op : OperationId) (saved : SavedSearch),
    Inv s past → Inv (s.execute op saved).1 ((s.execute op saved).2.reverse ++ past))
  (htaken : ∀ {s t : Session} {id : Nat} {r : Reply} {past : List Effect},
    Taken s id r t → Inv s past → Inv t (.answered id r :: past))
include hmove

theorem Moves.keep {s t : Session} {fx past : List Effect} (h : Moves s fx t)
    (hs : Inv s past) : Inv t (fx.reverse ++ past) := by
  induction h with
  | refl => simpa using hs
  | tail _ hm ih =>
    rw [List.reverse_append, List.append_assoc]
    exact hmove hm ih

include hexecute htaken

theorem keep_step {s : Session} {past : List Effect} (hs : Inv s past) (e : Event) :
    Inv (s.step e).1 ((s.step e).2.reverse ++ past) := by
  rcases s.step_cases e with h | ⟨op, saved, rfl⟩ | ⟨id, r, t, st, -, ht, h, hst⟩
  · exact h.keep Inv hmove hs
  · exact hexecute op saved hs
  · simpa [hst] using h.keep Inv hmove (htaken ht hs)

theorem keep_steps {s : Session} {past : List Effect} (hs : Inv s past) (es : List Event) :
    Inv (s.steps es).1 ((s.steps es).2.reverse ++ past) := by
  induction es generalizing s past with
  | nil => simpa [steps] using hs
  | cons e es ih =>
    simpa [steps, Step.andThen] using ih (keep_step Inv hmove hexecute htaken hs e)

end keep

/-- What moves, executions and replies keep without regard to the effects so far, runs keep. -/
theorem keepState_steps (Inv : Session → Prop)
    (hmove : ∀ {s t : Session} {fx : List Effect}, Move s fx t → Inv s → Inv t)
    (hexecute : ∀ {s : Session} (op : OperationId) (saved : SavedSearch),
      Inv s → Inv (s.execute op saved).1)
    (htaken : ∀ {s t : Session} {id : Nat} {r : Reply}, Taken s id r t → Inv s → Inv t)
    {s : Session} (hs : Inv s) (es : List Event) : Inv (s.steps es).1 :=
  @keep_steps (fun s _ => Inv s) (fun m h => hmove m h) (fun op saved h => hexecute op saved h)
    (fun m h => htaken m h) s [] hs es

theorem steps_cons (s : Session) (e : Event) (es : List Event) :
    s.steps (e :: es) = (s.step e).andThen (·.steps es) := rfl

@[simp] theorem steps_singleton (s : Session) (e : Event) : s.steps [e] = s.step e := by
  simp [steps, Step.andThen]

/-- Running on after a run. -/
theorem steps_append (s : Session) (es fs : List Event) :
    s.steps (es ++ fs) = (s.steps es).andThen (·.steps fs) := by
  induction es generalizing s with
  | nil => simp [steps, Step.andThen]
  | cons e es ih => simp [steps, Step.andThen, ih]

/-- Only the arrival of a reply answers a call. -/
theorem eq_reply_of_answered {s : Session} {e : Event} {id : Nat} {r : Reply}
    (h : .answered id r ∈ (s.step e).2) : e = .reply id r := by
  have hmoves {s t : Session} {fx : List Effect} (hm : Moves s fx t) : .answered id r ∉ fx := by
    induction hm with
    | refl => simp
    | tail _ hm ih =>
      rw [List.mem_append, not_or]
      refine ⟨ih, ?_⟩
      cases hm <;> simp [startSearch, startNotes, startRefresh, send]
  rcases s.step_cases e with hm | ⟨op, saved, rfl⟩ | ⟨i, q, t, st, rfl, -, hm, hst⟩
  · exact absurd h (hmoves hm)
  · simp [step, perform, execute, send] at h
  · rw [hst, List.mem_cons] at h
    rcases h with h | h
    · cases h
      rfl
    · exact absurd h (hmoves hm)

theorem reply_mem_of_answered {s : Session} {es : List Event} {id : Nat} {r : Reply}
    (h : .answered id r ∈ (s.steps es).2) : .reply id r ∈ es := by
  induction es generalizing s with
  | nil => simp [steps] at h
  | cons e es ih =>
    simp only [steps, Step.andThen, List.mem_append] at h
    rcases h with h | h
    · rw [eq_reply_of_answered h]
      exact List.mem_cons_self
    · exact List.mem_cons_of_mem _ (ih h)

end Session

end NoteSearch
