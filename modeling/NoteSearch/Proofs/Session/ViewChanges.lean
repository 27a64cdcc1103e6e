-- SUMMARY: The single changes of what a session shows, and every event as a sequence of them.
import NoteSearch.Proofs.Session.Moments
import NoteSearch.Proofs.Session.PaneContents
import Mathlib.Logic.Relation

/-!
# Changes of what is shown

The filter, the results, the completions, the saved searches and the notes of a session change in
few ways, one of them at a time. `Change` lists these ways. Whatever an event does it does by such
changes (`step_changes`), apart from the taking of a reply, which comes before them. So what holds
of every single change, of the reply and of their sequence holds of every event.
-/

namespace NoteSearch

/-! ## Lists of completions -/

namespace Suggestions

variable (w : Watched Suggestions)

/-- A choice leaves the list alone, or it tells the views. -/
theorem choose_cases (index : Nat) :
    (choose w index).1 = w ∨ ∃ f, (choose w index).1 = w.update f := by
  unfold choose
  split
  · exact .inr ⟨_, rfl⟩
  · exact .inl rfl

/-- A key leaves the list alone, or it tells the views. -/
theorem handleKey_cases (key : Key) :
    (handleKey w key).1 = w ∨ ∃ f, (handleKey w key).1 = w.update f := by
  by_cases hescape : key = .escape
  · rw [hescape, handleKey_escape]
    exact .inr ⟨dismiss, rfl⟩
  by_cases henter : key = .enter
  · rw [henter, handleKey_enter]
    cases w.value.committed? with
    | none => exact .inl rfl
    | some text => exact .inr ⟨_, rfl⟩
  rcases handleKey_other w hescape henter with hkey | ⟨-, selected, hkey, -⟩
  · exact .inl (congrArg Prod.fst hkey)
  · exact .inr ⟨fun s => { s with selected }, congrArg Prod.fst hkey⟩

end Suggestions

namespace Session

variable {s t u : Session}

/-! ## Kinds of changes -/

/-- A single change of the filter, the results, the completions, the saved searches or the notes. -/
inductive Change (s : Session) : Session → Prop where
  /-- Something else changes. -/
  | apart {t : Session} (filter : t.filter = s.filter) (search : t.search = s.search)
      (suggestions : t.suggestions = s.suggestions) (saved : t.saved = s.saved)
      (notes : t.notes = s.notes) : Change s t
  | act (a : Filter.Action) : Change s (s.act a)
  | search (f : SearchPane → SearchPane) : Change s { s with search := s.search.update f }
  | completions (f : Suggestions → Suggestions) :
      Change s { s with suggestions := s.suggestions.update f }
  /-- A fetch of completions does not wait any more. -/
  | fire : Change s
      { s with suggestions := { s.suggestions with value := s.suggestions.value.fire } }
  | saved (f : SavedPane → SavedPane) : Change s { s with saved := s.saved.update f }
  | patchNotes (p : NoteFilter.Patch) : Change s (s.patchNotes p)
  | askNotes : Change s { s with notes := s.notes.update (·.begin) }

/-- Changes one after the other. -/
abbrev Changes : Session → Session → Prop := Relation.ReflTransGen Change

theorem Change.changes (h : Change s t) : Changes s t := .single h

theorem Change.then (h : Change s t) (k : Changes t u) : Changes s u := .head h k

/-- Changes of the calls, the search box, the usage numbers, the routes or the clock. -/
theorem changes_apart (filter : t.filter = s.filter) (search : t.search = s.search)
    (suggestions : t.suggestions = s.suggestions) (saved : t.saved = s.saved)
    (notes : t.notes = s.notes) : Changes s t :=
  .single (.apart filter search suggestions saved notes)

/-! ## Operations -/

theorem send_changes (s : Session) (p : Pending) : Changes s (s.send p).1 :=
  changes_apart rfl rfl rfl rfl rfl

theorem cancelWrite_changes (s : Session) : Changes s s.cancelWrite := by
  obtain ⟨box, writes, calls, h⟩ := s.exists_cancelWrite
  rw [h]
  exact changes_apart rfl rfl rfl rfl rfl

/-- The list of completions is left alone, or its views are told. -/
theorem withSuggestions_changes (s : Session) {w : Watched Suggestions}
    (h : w = s.suggestions ∨ ∃ f, w = s.suggestions.update f) :
    Changes s (s.withSuggestions w) := by
  rcases h with rfl | ⟨f, rfl⟩
  · exact changes_apart rfl rfl rfl rfl rfl
  · exact (Change.completions f).then (changes_apart rfl rfl rfl rfl rfl)

theorem update_changes (s : Session) (f : Suggestions → Suggestions) :
    Changes s (s.withSuggestions (s.suggestions.update f)) :=
  s.withSuggestions_changes (.inr ⟨f, rfl⟩)

theorem startSearch_changes (s : Session) (page : Option UInt32) (purpose : SearchPurpose) :
    Changes s (s.startSearch page purpose).1 :=
  (Change.search _).then (send_changes _ _)

theorem startNotes_changes (s : Session) (page : UInt32) (purpose : NotesPurpose) :
    Changes s (s.startNotes page purpose).1 :=
  Change.askNotes.then (send_changes _ _)

theorem startRefresh_changes (s : Session) (op : OperationId) (r : Result) :
    Changes s (s.startRefresh op r).1 :=
  (Change.saved _).then (send_changes _ _)

theorem clearSearch_changes (s : Session) : Changes s s.clearSearch.1 :=
  (Change.act _).then (Change.search _).changes

theorem save_changes (s : Session) (op : OperationId) (name : String) :
    Changes s (s.save op name).1 := by
  unfold save
  split
  · exact .refl
  · exact send_changes s _

theorem execute_changes (s : Session) (op : OperationId) (saved : SavedSearch) :
    Changes s (s.execute op saved).1 :=
  (Change.saved _).then (send_changes _ _)

theorem focus_changes (s : Session) : Changes s s.focus :=
  (Change.completions _).then (changes_apart rfl rfl rfl rfl rfl)

theorem blur_changes (s : Session) : Changes s s.blur :=
  (Change.completions _).then (changes_apart rfl rfl rfl rfl rfl)

theorem type_changes (s : Session) (text : String) : Changes s (s.type text) := by
  let typed := s.withSuggestions (s.suggestions.update (·.type s.settings s.now text))
  obtain ⟨box, writes, calls, h⟩ := typed.exists_retype text
  have htype : s.type text = typed.retype text := rfl
  rw [htype, h]
  exact (update_changes s _).trans (changes_apart rfl rfl rfl rfl rfl)

/-- Making a text the query and searching for it. -/
theorem searchFor_changes (s : Session) (text : String) (purpose : SearchPurpose) :
    Changes s ((s.dismiss.act (.setQuery text)).startSearch (some 1) purpose).1 :=
  (update_changes s _).trans ((Change.act _).then (startSearch_changes _ _ _))

theorem submit_changes (s : Session) (op : OperationId) (byKey : Bool) :
    Changes s (s.submit op byKey).1 := by
  unfold submit
  refine s.cancelWrite_changes.trans ?_
  dsimp only
  split
  · exact .refl
  · exact searchFor_changes _ _ _

theorem commit_changes (s : Session) (op : OperationId) (text : String) (byKey : Bool) :
    Changes s (s.commit op text byKey).1 := by
  let retyped := { s.cancelWrite with box := { s.cancelWrite.box with text } }
  have hretyped : Changes s.cancelWrite retyped := changes_apart rfl rfl rfl rfl rfl
  exact s.cancelWrite_changes.trans (hretyped.trans (searchFor_changes retyped text _))

theorem clearBox_changes (s : Session) (op : OperationId) (byEscape : Bool) :
    Changes s (s.clearBox op byEscape).1 := by
  let emptied := { s.cancelWrite with box := { s.cancelWrite.box with text := "" } }
  have hemptied : Changes s emptied :=
    s.cancelWrite_changes.trans (changes_apart rfl rfl rfl rfl rfl)
  have hfinished (t : Session) :
      Changes t (if byEscape then t.finishEscape op else t.finish op .done).1 := by
    split
    · exact blur_changes t
    · exact .refl
  refine hemptied.trans ((update_changes emptied (·.dismiss)).trans ?_)
  unfold clearBox
  dsimp only
  split
  · exact (clearSearch_changes _).trans (hfinished _)
  · exact (Change.patchNotes _).then (startNotes_changes _ _ _)
  · exact hfinished _

theorem press_changes (s : Session) (op : OperationId) (k : KeyPress) :
    Changes s (s.press op k).1 := by
  by_cases hkey : s.box.focused = true ∧ (k.key = .escape ∨ k.key = .enter)
  · obtain ⟨hfocus, hkey | hkey⟩ := hkey
    · rw [press_escape op hfocus hkey]
      exact clearBox_changes s op true
    · rw [press_enter op hfocus hkey]
      split
      · exact (update_changes s _).trans (commit_changes _ op _ true)
      split
      · exact (s.withSuggestions_changes (.inl rfl)).trans (submit_changes _ op true)
      · exact submit_changes s op true
  · obtain ⟨r, hr | hr | ⟨key, -, -, hr⟩⟩ := press_other op hkey
    · rw [hr]
      exact focus_changes s
    · rw [hr]
      exact .refl
    · rw [hr]
      exact s.withSuggestions_changes (Suggestions.handleKey_cases _ key)

theorem perform_changes (s : Session) (op : OperationId) (c : Command) :
    Changes s (s.perform op c).1 := by
  cases c with
  | filter a => exact (Change.act a).changes
  | run page => exact startSearch_changes s page _
  | goToPage page => exact (Change.act _).then (startSearch_changes _ none _)
  | clearSearch => exact clearSearch_changes s
  | typeSuggestion text => exact update_changes s _
  | focusSuggestions => exact (Change.completions _).changes
  | blurSuggestions => exact (Change.completions _).changes
  | dismissSuggestions => exact update_changes s _
  | chooseSuggestion index => exact s.withSuggestions_changes (Suggestions.choose_cases _ index)
  | pressSuggestion key => exact s.withSuggestions_changes (Suggestions.handleKey_cases _ key)
  | refreshSaved => exact startRefresh_changes s op _
  | save name => exact save_changes s op name
  | execute saved => exact execute_changes s op saved
  | delete id => exact send_changes s _
  | patchNotes p => exact (Change.patchNotes p).changes
  | fetchNotes page => exact startNotes_changes s page _
  | loadInsights => exact changes_apart rfl rfl rfl rfl rfl
  | type text => exact type_changes s text
  | focus => exact focus_changes s
  | blur => exact blur_changes s
  | setMode mode =>
    exact s.cancelWrite_changes.trans (changes_apart rfl rfl rfl rfl rfl)
  | submit => exact submit_changes s op false
  | commit text => exact commit_changes s op text false
  | clearBox => exact clearBox_changes s op false
  | press k => exact press_changes s op k

/-! ## Timers -/

theorem liveWrite_changes (s : Session) (w : LiveWrite) : Changes s (s.liveWrite w).1 := by
  unfold liveWrite
  split
  · split
    · exact .refl
    · exact (Change.patchNotes _).then (startNotes_changes _ _ _)
  · dsimp only
    split
    · exact .refl
    split
    · exact clearSearch_changes s
    · exact (Change.act _).then (startSearch_changes _ _ _)
  · exact .refl

theorem ring_changes (s : Session) (t : Timer) : Changes s (s.ring t).1 := by
  cases t with
  | fetch =>
    simp only [ring]
    split
    · exact .refl
    split
    · exact Change.fire.then (send_changes _ _)
    · exact .refl
  | write number =>
    simp only [ring]
    split
    · exact .refl
    · rename_i w _
      rw [wake_eq]
      split
      · exact changes_apart rfl rfl rfl rfl rfl
      · rename_i box _
        have hclaimed : Changes s { s.dropWrite w.number with box } :=
          changes_apart rfl rfl rfl rfl rfl
        exact hclaimed.trans (liveWrite_changes _ w)

theorem setClock_changes (s : Session) (time : Nat) : Changes s (s.setClock time) :=
  changes_apart rfl rfl rfl rfl rfl

theorem ringUntil_changes (limit count : Nat) (s : Session) :
    Changes s (ringUntil limit count s).1 := by
  induction count generalizing s with
  | zero => exact setClock_changes s limit
  | succ count ih =>
    simp only [ringUntil, ringNext?_eq]
    cases hnext : s.nextRing? limit with
    | none => exact setClock_changes s limit
    | some m =>
      obtain ⟨due, -, -, -, hclocked⟩ := of_nextRing? hnext
      have hring : Changes s (m.1.ring m.2).1 := by
        rw [hclocked]
        exact (setClock_changes s _).trans (ring_changes _ _)
      exact hring.trans (ih _)

/-! ## Replies -/

theorem afterSearch_changes (s : Session) (o : Outcome) (purpose : SearchPurpose) :
    Changes s (s.afterSearch o purpose).1 := by
  cases purpose with
  | run op => exact .refl
  | liveWrite number => exact .refl
  | submit op byKey => exact changes_apart rfl rfl rfl rfl rfl
  | commit op byKey leads =>
    cases leads with
    | false => exact .refl
    | true => exact changes_apart rfl rfl rfl rfl rfl
  | execution op => exact startRefresh_changes s op _

theorem afterNotes_changes (s : Session) (o : Outcome) (purpose : NotesPurpose) :
    Changes s (s.afterNotes o purpose).1 := by
  cases purpose with
  | escape op => exact blur_changes s
  | _ => exact .refl

theorem afterExecute_changes (s : Session) (execution : Nat) (op : OperationId)
    (saved : SavedSearch) (a : Except Failure ResultPage) :
    Changes s (s.afterExecute execution op saved a).1 := by
  unfold afterExecute
  split
  · exact .refl
  · cases a with
    | error failure => exact .refl
    | ok results => exact (Change.act _).then (startSearch_changes _ _ _)

theorem afterCreate_changes (s : Session) (op : OperationId) (a : Except Failure SavedSearch) :
    Changes s (s.afterCreate op a).1 := by
  cases a with
  | error failure => exact .refl
  | ok saved => exact startRefresh_changes s op _

/-- Taking completions changes nothing but their list. -/
theorem receiveCompletions_changes (s : Session) (generation : Nat)
    (a : Except Failure (List Candidate)) :
    Changes s { s with suggestions := Suggestions.receive s.suggestions generation a } := by
  unfold Suggestions.receive
  split
  · exact (Change.completions _).changes
  · exact .refl

/-- Taking results changes nothing but their page. -/
theorem receiveResults_changes (s : Session) (ticket : Nat) (request : Request)
    (a : Except Failure ResultPage) :
    Changes s { s with search := (SearchPane.receive s.search ticket request a).1 } := by
  unfold SearchPane.receive
  split
  · exact .single (.search fun p => { p with view := SearchPane.shown request a })
  · exact .refl

/-- A reply has no effect; or it is taken, and changes follow. -/
theorem reply_changes (s : Session) (id : Nat) (r : Reply) :
    s.reply id r = (s, []) ∨ ∃ p t fx, s.pending? id = some p ∧ Received s id p r t ∧
      Changes t (s.reply id r).1 ∧ (s.reply id r).2 = .answered id r :: fx := by
  unfold reply
  split
  · exact .inl rfl
  · rename_i p hid
    cases htake : (s.forget id).take p r with
    | none => exact .inl rfl
    | some st =>
      refine .inr ?_
      suffices h : ∃ t, Received s id p r t ∧ Changes t st.1 by
        obtain ⟨t, hreceived, hchanges⟩ := h
        exact ⟨p, t, st.2, hid, hreceived, hchanges, rfl⟩
      unfold take at htake
      split at htake
      case h_11 => cases htake
      all_goals cases htake
      case h_1 ticket request purpose a =>
        exact ⟨_, .other rfl rfl,
          (receiveResults_changes (s.forget id) ticket request a).trans (afterSearch_changes _ _ _)⟩
      case h_2 generation text limit a =>
        exact ⟨_, .other rfl rfl, receiveCompletions_changes (s.forget id) generation a⟩
      case h_3 => exact ⟨_, .list _, .refl⟩
      case h_4 => exact ⟨_, .other rfl rfl, afterCreate_changes _ _ _⟩
      case h_5 => exact ⟨_, .other rfl rfl, afterExecute_changes _ _ _ _ _⟩
      case h_6 op saved a =>
        cases a with
        | error failure => exact ⟨_, .kept op saved failure, .refl⟩
        | ok _ => exact ⟨_, .deleted op saved, startRefresh_changes _ op _⟩
      case h_10 => exact ⟨_, .notes _, afterNotes_changes _ _ _⟩
      all_goals
        refine ⟨_, .part rfl rfl, ?_⟩
        unfold afterPart
        split <;> exact changes_apart rfl rfl rfl rfl rfl

/-! ## Events -/

/-- An event is a sequence of changes; or it is a reply that is taken, and changes follow. -/
theorem step_changes (s : Session) (e : Event) :
    Changes s (s.step e).1 ∨ ∃ id r p t fx, e = .reply id r ∧ s.pending? id = some p ∧
      Received s id p r t ∧ Changes t (s.step e).1 ∧ (s.step e).2 = .answered id r :: fx := by
  cases e with
  | command op c => exact .inl (perform_changes s op c)
  | reply id r =>
    rcases s.reply_changes id r with hnone | ⟨p, t, fx, hid, hreceived, hchanges, hfx⟩
    · refine .inl ?_
      rw [step, hnone]
    · exact .inr ⟨id, r, p, t, fx, rfl, hid, hreceived, hchanges, hfx⟩
  | wait ms => exact .inl (ringUntil_changes _ _ s)
  | pass ms => exact .inl (setClock_changes s _)
  | ring t => exact .inl (ring_changes s t)

end Session

end NoteSearch
