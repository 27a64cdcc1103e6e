-- SUMMARY: One more turn of the search box renumbers the later turns and changes nothing else.
import NoteSearch.Proofs.Session.Elsewhere

/-!
# Turns of the search box

Turns only tell live writes apart. So a session in which the search box has had one more turn goes
on like the session without it, as long as the turn had no live write: the later turns have greater
numbers, and that is all (`steps_insertTurn`).
-/

namespace NoteSearch

/-! ## Renumbering -/

/-- The number of a turn when one more turn has been inserted after the turn `k`. -/
def insertTurn (k number : Nat) : Nat := if number ≤ k then number else number + 1

theorem insertTurn_of_le {k number : Nat} (h : number ≤ k) : insertTurn k number = number :=
  if_pos h

theorem insertTurn_of_lt {k number : Nat} (h : k < number) : insertTurn k number = number + 1 :=
  if_neg (Nat.not_le.2 h)

@[simp] theorem insertTurn_inj {k m n : Nat} : insertTurn k m = insertTurn k n ↔ m = n := by
  unfold insertTurn
  split <;> split <;> omega

@[simp] theorem beq_insertTurn (k m n : Nat) : (insertTurn k m == insertTurn k n) = (m == n) := by
  rw [Bool.eq_iff_iff, beq_iff_eq, beq_iff_eq, insertTurn_inj]

@[simp] theorem bne_insertTurn (k m n : Nat) : (insertTurn k m != insertTurn k n) = (m != n) := by
  rw [bne, bne, beq_insertTurn]

def SearchPurpose.insertTurn (k : Nat) : SearchPurpose → SearchPurpose
  | .liveWrite number => .liveWrite (NoteSearch.insertTurn k number)
  | p => p

def NotesPurpose.insertTurn (k : Nat) : NotesPurpose → NotesPurpose
  | .liveWrite number => .liveWrite (NoteSearch.insertTurn k number)
  | p => p

def Pending.insertTurn (k : Nat) : Pending → Pending
  | .search ticket request purpose => .search ticket request (purpose.insertTurn k)
  | .notes ticket query purpose => .notes ticket query (purpose.insertTurn k)
  | p => p

def InFlight.insertTurn (k : Nat) (c : InFlight) : InFlight := ⟨c.id, c.pending.insertTurn k⟩

def LiveWrite.insertTurn (k : Nat) (w : LiveWrite) : LiveWrite :=
  { w with number := NoteSearch.insertTurn k w.number }

/-- The box is in one of the later turns, or in the inserted one. -/
def SearchBox.insertTurn (k : Nat) (b : SearchBox) : SearchBox :=
  { b with pending := b.pending.map (NoteSearch.insertTurn k), turn := b.turn + 1 }

def Timer.insertTurn (k : Nat) : Timer → Timer
  | .fetch => .fetch
  | .write number => .write (NoteSearch.insertTurn k number)

def Event.insertTurn (k : Nat) : Event → Event
  | .ring t => .ring (t.insertTurn k)
  | e => e

/-- The session in which the search box has had one more turn after the turn `k`. -/
def Session.insertTurn (k : Nat) (s : Session) : Session :=
  { s with
    box := s.box.insertTurn k
    writes := s.writes.map (·.insertTurn k)
    calls := s.calls.map (·.insertTurn k) }

def Step.insertTurn (k : Nat) (st : Step) : Step := (st.1.insertTurn k, st.2)

variable {k : Nat}

/-! ## What does not depend on the numbers -/

@[simp] theorem Pending.call_insertTurn (p : Pending) : (p.insertTurn k).call = p.call := by
  cases p <;> rfl

@[simp] theorem Pending.isStaleFetch_insertTurn (generation : Nat) (p : Pending) :
    (p.insertTurn k).isStaleFetch generation = p.isStaleFetch generation := by
  cases p <;> rfl

@[simp] theorem Pending.isOfWrite_insertTurn (number : Nat) (p : Pending) :
    (p.insertTurn k).isOfWrite (NoteSearch.insertTurn k number) = p.isOfWrite number := by
  cases p with
  | search ticket request purpose =>
    cases purpose <;> simp [Pending.insertTurn, SearchPurpose.insertTurn, isOfWrite]
  | notes ticket query purpose =>
    cases purpose <;> simp [Pending.insertTurn, NotesPurpose.insertTurn, isOfWrite]
  | _ => rfl

theorem Pending.insertTurn_of_le {p : Pending}
    (h : ∀ number, p.isOfWrite number = true → number ≤ k) : p.insertTurn k = p := by
  cases p with
  | search ticket request purpose =>
    cases purpose with
    | liveWrite number =>
      have hle : number ≤ k := h number (by simp [isOfWrite])
      simp [insertTurn, SearchPurpose.insertTurn, NoteSearch.insertTurn_of_le hle]
    | _ => rfl
  | notes ticket query purpose =>
    cases purpose with
    | liveWrite number =>
      have hle : number ≤ k := h number (by simp [isOfWrite])
      simp [insertTurn, NotesPurpose.insertTurn, NoteSearch.insertTurn_of_le hle]
    | _ => rfl
  | _ => rfl

/-- A live write of another turn than the inserted one claims its turn as before. -/
theorem SearchBox.claim?_insertTurn {b : SearchBox} {number : Nat} (hk : k ≤ b.turn)
    (hnumber : number ≠ k) :
    (b.insertTurn k).claim? (NoteSearch.insertTurn k number) =
      (b.claim? number).map (·.insertTurn k) := by
  have hiff : NoteSearch.insertTurn k number = b.turn + 1 ↔ number = b.turn := by
    unfold NoteSearch.insertTurn
    split <;> omega
  by_cases hturn : number = b.turn
  · simp only [claim?, if_pos (show NoteSearch.insertTurn k number = (b.insertTurn k).turn from
      hiff.2 hturn), if_pos hturn]
    rfl
  · simp only [claim?, if_neg (show ¬ NoteSearch.insertTurn k number = (b.insertTurn k).turn from
      fun h => hturn (hiff.1 h)), if_neg hturn]
    rfl

/-- Filtering the images of a list by `p` is filtering the list by `q`. -/
theorem filter_map_of_agree {α β : Type} {f : α → β} {p : β → Bool} {q : α → Bool} {l : List α}
    (h : ∀ a, p (f a) = q a) : (l.map f).filter p = (l.filter q).map f := by
  rw [List.filter_map, show p ∘ f = q from funext h]

theorem Timer.earliest?_map (f : Timer → Timer) (l : List (Nat × Timer)) :
    Timer.earliest? (l.map (Prod.map id f)) = (Timer.earliest? l).map (Prod.map id f) := by
  induction l with
  | nil => rfl
  | cons t rest ih =>
    simp only [List.map_cons, earliest?, ih]
    cases earliest? rest with
    | none => rfl
    | some u =>
      simp only [Option.map_some, Prod.map_fst, id_eq]
      split <;> rfl

theorem Step.insertTurn_ite {c : Prop} [Decidable c] (st st' : Step) :
    (if c then st else st').insertTurn k = if c then st.insertTurn k else st'.insertTurn k :=
  apply_ite _ c st st'

theorem Step.andThen_insertTurn (st : Step) {next next' : Session → Step}
    (h : next' (st.1.insertTurn k) = (next st.1).insertTurn k) :
    (st.insertTurn k).andThen next' = (st.andThen next).insertTurn k := by
  simp [andThen, insertTurn, h]

namespace Session

variable (s : Session)

/-! ## Requests -/

@[simp] theorem text_insertTurn : (s.insertTurn k).box.text = s.box.text := rfl
@[simp] theorem mode_insertTurn : (s.insertTurn k).box.mode = s.box.mode := rfl
@[simp] theorem filter_insertTurn : (s.insertTurn k).filter = s.filter := rfl
@[simp] theorem notes_insertTurn : (s.insertTurn k).notes = s.notes := rfl
@[simp] theorem insights_insertTurn : (s.insertTurn k).insights = s.insights := rfl
@[simp] theorem suggestions_insertTurn : (s.insertTurn k).suggestions = s.suggestions := rfl

theorem act_insertTurn (a : Filter.Action) : (s.insertTurn k).act a = (s.act a).insertTurn k := rfl

theorem send_insertTurn (p : Pending) :
    (s.insertTurn k).send (p.insertTurn k) = (s.send p).insertTurn k := by
  simp [send, insertTurn, Step.insertTurn, InFlight.insertTurn]

theorem withSuggestions_insertTurn (w : Watched Suggestions) :
    (s.insertTurn k).withSuggestions w = (s.withSuggestions w).insertTurn k := by
  have hcalls : (s.calls.map (·.insertTurn k)).filter
      (fun c => !c.pending.isStaleFetch w.value.generation) =
      (s.calls.filter fun c => !c.pending.isStaleFetch w.value.generation).map
        (·.insertTurn k) := by
    refine filter_map_of_agree fun c => ?_
    simp only [InFlight.insertTurn, Pending.isStaleFetch_insertTurn]
  exact congrArg (fun calls => { s.insertTurn k with suggestions := w, calls }) hcalls

theorem dismiss_insertTurn : (s.insertTurn k).dismiss = s.dismiss.insertTurn k :=
  s.withSuggestions_insertTurn _

theorem startSearch_insertTurn (page : Option UInt32) (purpose : SearchPurpose) :
    (s.insertTurn k).startSearch page (purpose.insertTurn k) =
      (s.startSearch page purpose).insertTurn k :=
  send_insertTurn { s with search := s.search.update (·.begin) } (.search _ _ purpose)

theorem startNotes_insertTurn (page : UInt32) (purpose : NotesPurpose) :
    (s.insertTurn k).startNotes page (purpose.insertTurn k) =
      (s.startNotes page purpose).insertTurn k :=
  send_insertTurn { s with notes := s.notes.update (·.begin) } (.notes _ _ purpose)

theorem startRefresh_insertTurn (op : OperationId) (r : Result) :
    (s.insertTurn k).startRefresh op r = (s.startRefresh op r).insertTurn k :=
  send_insertTurn { s with saved := s.saved.update (·.beginRefresh) } (.listSaved _ op r)

theorem clearSearch_insertTurn :
    (s.insertTurn k).clearSearch = s.clearSearch.insertTurn k := rfl

theorem save_insertTurn (op : OperationId) (name : String) :
    (s.insertTurn k).save op name = (s.save op name).insertTurn k := by
  unfold save
  split
  · rfl
  · exact s.send_insertTurn (.createSaved op _)

theorem execute_insertTurn (op : OperationId) (saved : SavedSearch) :
    (s.insertTurn k).execute op saved = (s.execute op saved).insertTurn k :=
  send_insertTurn { s with saved := s.saved.update (·.beginExecution) } (.executeSaved _ op saved)

theorem loadInsights_insertTurn (op : OperationId) :
    (s.insertTurn k).loadInsights op = (s.loadInsights op).insertTurn k := by
  let t := { s with insights := s.insights.begin }
  have hpopular := t.send_insertTurn (k := k) (.popular s.insights.started op)
  unfold loadInsights
  refine (congrArg (Step.andThen · _) hpopular).trans (Step.andThen_insertTurn _ ?_)
  refine (congrArg (Step.andThen · _) (send_insertTurn _ (.trending _ op))).trans ?_
  exact Step.andThen_insertTurn _ (send_insertTurn _ (.stats _ op))

/-! ## The search box -/

theorem abort_insertTurn (number : Nat) :
    (s.insertTurn k).abort (NoteSearch.insertTurn k number) = (s.abort number).insertTurn k := by
  have hwrites : (s.writes.map (·.insertTurn k)).filter
      (fun w => w.number != NoteSearch.insertTurn k number || decide (w.due ≤ s.now)) =
      (s.writes.filter fun w => w.number != number || decide (w.due ≤ s.now)).map
        (·.insertTurn k) := by
    refine filter_map_of_agree fun w => ?_
    rw [LiveWrite.insertTurn, bne_insertTurn]
  have hcalls : (s.calls.map (·.insertTurn k)).filter
      (fun c => !c.pending.isOfWrite (NoteSearch.insertTurn k number)) =
      (s.calls.filter fun c => !c.pending.isOfWrite number).map (·.insertTurn k) := by
    refine filter_map_of_agree fun c => ?_
    simp only [InFlight.insertTurn, Pending.isOfWrite_insertTurn]
  have hboth := congr
    (congrArg (fun writes calls => { s.insertTurn k with writes, calls }) hwrites) hcalls
  exact hboth

theorem cancelWrite_insertTurn : (s.insertTurn k).cancelWrite = s.cancelWrite.insertTurn k := by
  unfold cancelWrite
  cases hpending : s.box.pending with
  | none =>
    have hpending' : (s.insertTurn k).box.pending = none := by
      simp [insertTurn, SearchBox.insertTurn, hpending]
    rw [hpending']
    rfl
  | some number =>
    have hpending' : (s.insertTurn k).box.pending = some (NoteSearch.insertTurn k number) := by
      simp [insertTurn, SearchBox.insertTurn, hpending]
    rw [hpending']
    simp only [abort_insertTurn]
    rfl

/-- A write is scheduled only in a turn that has begun after the inserted one. -/
theorem scheduleWrite_insertTurn (hk : k < s.box.turn) :
    (s.insertTurn k).scheduleWrite = s.scheduleWrite.insertTurn k := by
  have hturn : NoteSearch.insertTurn k s.box.turn = s.box.turn + 1 := insertTurn_of_lt hk
  by_cases hmode : s.box.mode = .standalone
  · simp [scheduleWrite, insertTurn, SearchBox.insertTurn, hmode]
  · simp [scheduleWrite, insertTurn, SearchBox.insertTurn, LiveWrite.insertTurn, hmode, hturn]

theorem retype_insertTurn (hk : k ≤ s.box.turn) (text : String) :
    (s.insertTurn k).retype text = (s.retype text).insertTurn k := by
  simp only [retype, cancelWrite_insertTurn]
  refine scheduleWrite_insertTurn
    { s.cancelWrite with box := { s.cancelWrite.box with text } } ?_
  simpa using Nat.lt_succ_of_le hk

theorem type_insertTurn (hk : k ≤ s.box.turn) (text : String) :
    (s.insertTurn k).type text = (s.type text).insertTurn k := by
  let w := s.suggestions.update (·.type s.settings s.now text)
  have hretype := (s.withSuggestions w).retype_insertTurn hk text
  rwa [← withSuggestions_insertTurn] at hretype

theorem searchFor_insertTurn (text : String) (purpose : SearchPurpose) :
    ((s.insertTurn k).dismiss.act (.setQuery text)).startSearch (some 1) (purpose.insertTurn k) =
      ((s.dismiss.act (.setQuery text)).startSearch (some 1) purpose).insertTurn k := by
  rw [dismiss_insertTurn, act_insertTurn, startSearch_insertTurn]

theorem submit_insertTurn (op : OperationId) (byKey : Bool) :
    (s.insertTurn k).submit op byKey = (s.submit op byKey).insertTurn k := by
  simp only [submit, cancelWrite_insertTurn, text_insertTurn]
  split
  · rfl
  · exact searchFor_insertTurn _ _ (.submit op byKey)

theorem commit_insertTurn (op : OperationId) (text : String) (byKey : Bool) :
    (s.insertTurn k).commit op text byKey = (s.commit op text byKey).insertTurn k := by
  simp only [commit, cancelWrite_insertTurn]
  exact searchFor_insertTurn
    { s.cancelWrite with box := { s.cancelWrite.box with text } } text (.commit op byKey _)

/-- How a clearing goes on with the emptied box: what the text has caused is taken back. -/
def takeBack (s : Session) (op : OperationId) (byEscape : Bool) : Step :=
  let finished := fun (s : Session) => if byEscape then s.finishEscape op else s.finish op .done
  match s.box.mode with
  | .searchPage => s.clearSearch.andThen finished
  | .liveFilter =>
    (s.patchNotes { search := some "" }).startNotes 1 (if byEscape then .escape op else .clear op)
  | .standalone => finished s

theorem clearBox_eq (op : OperationId) (byEscape : Bool) : s.clearBox op byEscape =
    ({ s.cancelWrite with
      box := { s.cancelWrite.box with text := "" } } : Session).dismiss.takeBack op byEscape := rfl

theorem takeBack_insertTurn (op : OperationId) (byEscape : Bool) :
    (s.insertTurn k).takeBack op byEscape = (s.takeBack op byEscape).insertTurn k := by
  have hfinished (t : Session) :
      (if byEscape then (t.insertTurn k).finishEscape op else (t.insertTurn k).finish op .done) =
        (if byEscape then t.finishEscape op else t.finish op .done).insertTurn k := by
    rw [Step.insertTurn_ite]
    rfl
  have hpurpose : (if byEscape then NotesPurpose.escape op else .clear op).insertTurn k =
      if byEscape then .escape op else .clear op := by
    split <;> rfl
  simp only [takeBack, mode_insertTurn]
  split
  · exact s.clearSearch.andThen_insertTurn (hfinished s.clearSearch.1)
  · have hnotes := startNotes_insertTurn (k := k) (s.patchNotes { search := some "" }) 1
      (if byEscape then .escape op else .clear op)
    rwa [hpurpose] at hnotes
  · exact hfinished s

theorem clearBox_insertTurn (op : OperationId) (byEscape : Bool) :
    (s.insertTurn k).clearBox op byEscape = (s.clearBox op byEscape).insertTurn k := by
  have hempty := dismiss_insertTurn (k := k)
    { s.cancelWrite with box := { s.cancelWrite.box with text := "" } }
  rw [clearBox_eq, clearBox_eq, cancelWrite_insertTurn, ← takeBack_insertTurn, ← hempty]
  rfl

theorem suggestionPress_insertTurn (op : OperationId) (key : Key) :
    (s.insertTurn k).suggestionPress op key = (s.suggestionPress op key).insertTurn k := by
  simp only [suggestionPress, suggestions_insertTurn, withSuggestions_insertTurn]
  split
  · exact commit_insertTurn _ op _ true
  · split
    · exact submit_insertTurn _ op true
    · rfl
  · rfl

theorem press_insertTurn (op : OperationId) (key : KeyPress) :
    (s.insertTurn k).press op key = (s.press op key).insertTurn k := by
  simp only [press, clearBox_insertTurn, suggestionPress_insertTurn, submit_insertTurn,
    Step.insertTurn_ite]
  -- What is left are cases without effects on the turns.
  cases key.key <;> simp only [Step.insertTurn_ite] <;> rfl

theorem setMode_insertTurn (mode : Mode) :
    (s.insertTurn k).setMode mode = (s.setMode mode).insertTurn k := by
  simp only [setMode, cancelWrite_insertTurn]
  rfl

/-! ## All operations -/

/-- An operation does the same in a session with one more turn. -/
theorem perform_insertTurn (hk : k ≤ s.box.turn) (op : OperationId) (c : Command) :
    (s.insertTurn k).perform op c = (s.perform op c).insertTurn k := by
  cases c with
  | filter a => rfl
  | run page => exact s.startSearch_insertTurn page (.run op)
  | goToPage page => exact (s.act _).startSearch_insertTurn none (.run op)
  | clearSearch => rfl
  | typeSuggestion text =>
    exact congrArg (finish · op .done) (s.withSuggestions_insertTurn _)
  | focusSuggestions => rfl
  | blurSuggestions => rfl
  | dismissSuggestions => exact congrArg (finish · op .done) s.dismiss_insertTurn
  | chooseSuggestion index => exact congrArg (finish · op _) (s.withSuggestions_insertTurn _)
  | pressSuggestion key => exact congrArg (finish · op _) (s.withSuggestions_insertTurn _)
  | refreshSaved => exact s.startRefresh_insertTurn op .done
  | save name => exact s.save_insertTurn op name
  | execute saved => exact s.execute_insertTurn op saved
  | delete id => exact s.send_insertTurn (.deleteSaved op id)
  | patchNotes p => rfl
  | fetchNotes page => exact s.startNotes_insertTurn page (.fetch op)
  | loadInsights => exact s.loadInsights_insertTurn op
  | type text => exact congrArg (finish · op .done) (s.type_insertTurn hk text)
  | focus => rfl
  | blur => rfl
  | setMode mode => exact congrArg (finish · op .done) (s.setMode_insertTurn mode)
  | submit => exact s.submit_insertTurn op false
  | commit text => exact s.commit_insertTurn op text false
  | clearBox => exact s.clearBox_insertTurn op false
  | press key => exact s.press_insertTurn op key

/-! ## Replies -/

theorem afterSearch_insertTurn (o : Outcome) (purpose : SearchPurpose) :
    (s.insertTurn k).afterSearch o (purpose.insertTurn k) =
      (s.afterSearch o purpose).insertTurn k := by
  cases purpose with
  | run op => rfl
  | liveWrite number => rfl
  | submit op byKey => rfl
  | commit op byKey leads => cases leads <;> rfl
  | execution op => exact s.startRefresh_insertTurn op _

theorem afterNotes_insertTurn (o : Outcome) (purpose : NotesPurpose) :
    (s.insertTurn k).afterNotes o (purpose.insertTurn k) =
      (s.afterNotes o purpose).insertTurn k := by
  cases purpose <;> rfl

theorem afterExecute_insertTurn (execution : Nat) (op : OperationId) (saved : SavedSearch)
    (a : Except Failure ResultPage) :
    (s.insertTurn k).afterExecute execution op saved a =
      (s.afterExecute execution op saved a).insertTurn k := by
  simp only [afterExecute, Step.insertTurn_ite]
  cases a with
  | error failure => rfl
  | ok results =>
    have hsearch := startSearch_insertTurn (k := k) (s.act (.load saved.request)) (some 1)
      (.execution op)
    rw [← hsearch]
    rfl

theorem afterCreate_insertTurn (op : OperationId) (a : Except Failure SavedSearch) :
    (s.insertTurn k).afterCreate op a = (s.afterCreate op a).insertTurn k := by
  cases a with
  | error failure => rfl
  | ok saved => exact s.startRefresh_insertTurn op _

theorem afterDelete_insertTurn (op : OperationId) (id : Int64) (a : Except Failure Unit) :
    (s.insertTurn k).afterDelete op id a = (s.afterDelete op id a).insertTurn k := by
  cases a with
  | error failure => rfl
  | ok _ => exact startRefresh_insertTurn { s with saved := s.saved.update (·.remove id) } op _

theorem afterPart_insertTurn (load : Nat) (op : OperationId) (part : InsightsPart) :
    (s.insertTurn k).afterPart load op part = (s.afterPart load op part).insertTurn k := by
  simp only [afterPart, insights_insertTurn]
  split <;> rfl

theorem take_insertTurn (p : Pending) (r : Reply) :
    (s.insertTurn k).take (p.insertTurn k) r = (s.take p r).map (·.insertTurn k) := by
  cases p <;> cases r <;> try rfl
  case search.search ticket request purpose a =>
    exact congrArg some (afterSearch_insertTurn
      { s with search := (SearchPane.receive s.search ticket request a).1 } _ purpose)
  case createSaved.createSaved op draft a => exact congrArg some (s.afterCreate_insertTurn op a)
  case executeSaved.executeSaved execution op saved a =>
    exact congrArg some (s.afterExecute_insertTurn execution op saved a)
  case deleteSaved.deleteSaved op id a => exact congrArg some (s.afterDelete_insertTurn op id a)
  case popular.popular load op a => exact congrArg some (s.afterPart_insertTurn load op _)
  case trending.trending load op a => exact congrArg some (s.afterPart_insertTurn load op _)
  case stats.stats load op a => exact congrArg some (s.afterPart_insertTurn load op _)
  case notes.notes ticket query purpose a =>
    exact congrArg some (afterNotes_insertTurn
      { s with notes := (NotePane.receive s.notes ticket query a).1 } _ purpose)

theorem forget_insertTurn (id : Nat) :
    (s.insertTurn k).forget id = (s.forget id).insertTurn k := by
  have hcalls : (s.calls.map (·.insertTurn k)).filter (fun c => c.id != id) =
      (s.calls.filter fun c => c.id != id).map (·.insertTurn k) :=
    filter_map_of_agree fun _ => rfl
  exact congrArg (fun calls => { s.insertTurn k with calls }) hcalls

theorem pending?_insertTurn (id : Nat) :
    (s.insertTurn k).pending? id = (s.pending? id).map (·.insertTurn k) := by
  simp only [pending?, insertTurn, List.find?_map, Option.map_map]
  rfl

theorem reply_insertTurn (id : Nat) (r : Reply) :
    (s.insertTurn k).reply id r = (s.reply id r).insertTurn k := by
  unfold reply
  rw [pending?_insertTurn]
  cases s.pending? id with
  | none => rfl
  | some p =>
    simp only [Option.map_some, forget_insertTurn, take_insertTurn]
    cases (s.forget id).take p r <;> rfl

/-! ## Live writes -/

theorem liveWrite_insertTurn (w : LiveWrite) :
    (s.insertTurn k).liveWrite (w.insertTurn k) = (s.liveWrite w).insertTurn k := by
  simp only [liveWrite, filter_insertTurn, notes_insertTurn]
  rw [show (w.insertTurn k).mode = w.mode from rfl, show (w.insertTurn k).text = w.text from rfl]
  split
  · rw [Step.insertTurn_ite, ← startNotes_insertTurn]
    rfl
  · rw [Step.insertTurn_ite, Step.insertTurn_ite, ← startSearch_insertTurn,
      ← clearSearch_insertTurn, ← act_insertTurn]
    rfl
  · rfl

theorem dropWrite_insertTurn (number : Nat) :
    (s.insertTurn k).dropWrite (NoteSearch.insertTurn k number) =
      (s.dropWrite number).insertTurn k := by
  have hwrites : (s.writes.map (·.insertTurn k)).filter
      (fun w => w.number != NoteSearch.insertTurn k number) =
      (s.writes.filter fun w => w.number != number).map (·.insertTurn k) :=
    filter_map_of_agree fun w => bne_insertTurn k w.number number
  exact congrArg (fun writes => { s.insertTurn k with writes }) hwrites

theorem wake_insertTurn {w : LiveWrite} (hk : k ≤ s.box.turn) (hw : w.number ≠ k) :
    (s.insertTurn k).wake (w.insertTurn k) = (s.wake w).insertTurn k := by
  have hclaim : (s.insertTurn k).box.claim? (w.insertTurn k).number = _ :=
    SearchBox.claim?_insertTurn hk hw
  have hdrop : (s.insertTurn k).dropWrite (w.insertTurn k).number = _ :=
    s.dropWrite_insertTurn w.number
  rw [wake_eq, wake_eq, hclaim, hdrop]
  cases s.box.claim? w.number with
  | none => rfl
  | some box => exact liveWrite_insertTurn { s.dropWrite w.number with box } w

/-- No live write of the turn `k` waits, and none will: the turn is over or has no write. -/
structure Lacks (s : Session) (k : Nat) : Prop where
  le_turn : k ≤ s.box.turn
  number_ne : ∀ w ∈ s.writes, w.number ≠ k

variable {s} {t : Session} {fx : List Effect}

theorem Lacks.move (h : s.Lacks k) (m : Move s fx t) : t.Lacks k := by
  cases m with
  | quiet ha =>
    constructor
    · rw [ha.turn]
      exact h.le_turn
    · rw [ha.writes]
      exact h.number_ne
  | cancelWrite =>
    constructor
    · rw [turn_cancelWrite]
      exact Nat.le_succ_of_le h.le_turn
    · intro w hw
      exact h.number_ne w (s.writes_cancelWrite_sublist.subset hw)
  | retype text =>
    constructor
    · rw [turn_retype]
      exact Nat.le_succ_of_le h.le_turn
    · intro w hw
      rcases mem_writes_retype hw with hold | ⟨hnew, -⟩
      · exact h.number_ne w hold
      · rw [hnew]
        exact Nat.ne_of_gt (Nat.lt_succ_of_le h.le_turn)
  | wake number =>
    constructor
    · unfold SearchBox.claim?
      split <;> exact h.le_turn
    · intro w hw
      exact h.number_ne w (List.mem_filter.1 hw).1
  | _ => exact ⟨h.le_turn, h.number_ne⟩

theorem Lacks.makes (h : s.Lacks k) {st : Step} (hm : s.Makes st) : st.1.Lacks k :=
  hm.keepState (Lacks · k) (fun m h => h.move m) h

/-! ## Timers -/

theorem sendFetch_insertTurn (s : Session) (f : ScheduledFetch) :
    (s.insertTurn k).sendFetch f = (s.sendFetch f).insertTurn k :=
  send_insertTurn
    { s with suggestions := { s.suggestions with value := s.suggestions.value.fire } }
    (.suggestions _ f.text _)

theorem ring_insertTurn (h : s.Lacks k) (t : Timer) :
    (s.insertTurn k).ring (t.insertTurn k) = (s.ring t).insertTurn k := by
  cases t with
  | fetch =>
    simp only [ring, Timer.insertTurn, suggestions_insertTurn]
    split
    · rfl
    · rw [Step.insertTurn_ite, ← sendFetch_insertTurn]
      rfl
  | write number =>
    have hfind : (s.insertTurn k).writes.find? (fun w =>
        w.number == NoteSearch.insertTurn k number && decide (w.due ≤ (s.insertTurn k).now)) =
        (s.writes.find? fun w => w.number == number && decide (w.due ≤ s.now)).map
          (·.insertTurn k) := by
      rw [show (s.insertTurn k).writes = s.writes.map _ from rfl, List.find?_map]
      congr 2
      funext w
      rw [Function.comp, LiveWrite.insertTurn, beq_insertTurn]
      rfl
    simp only [ring, Timer.insertTurn]
    rw [hfind]
    cases hw : s.writes.find? fun w => w.number == number && decide (w.due ≤ s.now) with
    | none => rfl
    | some w =>
      exact s.wake_insertTurn h.le_turn (h.number_ne w (List.mem_of_find?_eq_some hw))

theorem timers_insertTurn (s : Session) :
    (s.insertTurn k).timers = s.timers.map (Prod.map id (·.insertTurn k)) := by
  simp only [timers, List.map_append, List.map_map, insertTurn]
  cases s.suggestions.value.scheduled <;> rfl

theorem ringNext?_insertTurn (h : s.Lacks k) (limit : Nat) :
    (s.insertTurn k).ringNext? limit = (s.ringNext? limit).map (·.insertTurn k) := by
  unfold ringNext?
  rw [timers_insertTurn, Timer.earliest?_map]
  cases Timer.earliest? s.timers with
  | none => rfl
  | some u =>
    obtain ⟨due, t⟩ := u
    have hclock : (s.setClock (max s.now due)).Lacks k := ⟨h.le_turn, h.number_ne⟩
    have hring := ring_insertTurn hclock t
    rw [Option.map_some, Prod.map]
    dsimp only [id]
    split
    · exact congrArg some hring
    · rfl

theorem ringUntil_insertTurn (h : s.Lacks k) (limit count : Nat) :
    ringUntil limit count (s.insertTurn k) = (ringUntil limit count s).insertTurn k := by
  induction count generalizing s with
  | zero => rfl
  | succ count ih =>
    unfold ringUntil
    rw [ringNext?_insertTurn h]
    cases hst : s.ringNext? limit with
    | none => rfl
    | some st => exact st.andThen_insertTurn (ih (h.makes (ringNext_makes hst)))

/-! ## Events -/

theorem step_insertTurn (h : s.Lacks k) (e : Event) :
    (s.insertTurn k).step (e.insertTurn k) = (s.step e).insertTurn k := by
  cases e with
  | command op c => exact s.perform_insertTurn h.le_turn op c
  | reply id r => exact s.reply_insertTurn id r
  | wait ms =>
    have hlength : (s.insertTurn k).timers.length = s.timers.length := by
      rw [timers_insertTurn, List.length_map]
    refine (congrArg (ringUntil _ · _) hlength).trans ?_
    exact ringUntil_insertTurn h _ _
  | pass ms => rfl
  | ring t => exact ring_insertTurn h t

theorem Lacks.step (h : s.Lacks k) (e : Event) : (s.step e).1.Lacks k := by
  rcases s.step_cases e with hm | ⟨op, saved, rfl⟩ | ⟨id, r, t, st, -, ht, hm, hst⟩
  · exact h.makes hm
  · exact ⟨h.le_turn, h.number_ne⟩
  · have htaken : t.Lacks k := by
      cases ht <;> exact ⟨h.le_turn, h.number_ne⟩
    have hafter : st.1.Lacks k := htaken.makes hm
    rwa [hst]

/-- With one more turn of the search box that has no live write, everything goes on as without it:
the same is shown, the same is called and the same is answered. -/
theorem steps_insertTurn (h : s.Lacks k) (es : List Event) :
    (s.insertTurn k).steps (es.map (·.insertTurn k)) = (s.steps es).insertTurn k := by
  induction es generalizing s with
  | nil => rfl
  | cons e es ih =>
    rw [List.map_cons, steps_cons, steps_cons, step_insertTurn h]
    exact (s.step e).andThen_insertTurn (ih (h.step e))

end Session

end NoteSearch
