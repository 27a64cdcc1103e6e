-- SUMMARY: What happens elsewhere than in the search box and its completions.
import NoteSearch.Proofs.Session.Calls

/-!
# Changes elsewhere

Searches, notes, saved searches and usage numbers are no concern of the search box and of the
completions below it: they may send calls and change what is shown elsewhere, and that is all
(`perform_elsewhere`). A reply is of the same kind, unless it brings completions, or ends an Escape
and takes the focus from the box (`reply_elsewhere`).
-/

namespace NoteSearch

/-- Whether an operation is no concern of the search box and of the completions. -/
def Command.isElsewhere : Command → Bool
  | .filter _ => true
  | .run _ => true
  | .goToPage _ => true
  | .clearSearch => true
  | .refreshSaved => true
  | .save _ => true
  | .execute _ => true
  | .delete _ => true
  | .patchNotes _ => true
  | .fetchNotes _ => true
  | .loadInsights => true
  | _ => false

namespace Session

/-- A step that leaves the search box, the live writes, the completions and the clock alone. It
fetches no completions. -/
structure Elsewhere (s : Session) (st : Step) : Prop where
  settings : st.1.settings = s.settings
  now : st.1.now = s.now
  box : st.1.box = s.box
  writes : st.1.writes = s.writes
  suggestions : st.1.suggestions = s.suggestions
  fetches : ∀ c ∈ st.1.calls, c.pending.call.isFetch = true → c ∈ s.calls
  keeps : ∀ c ∈ s.calls, c ∈ st.1.calls ∨ ∃ r, .answered c.id r ∈ st.2
  silent : ∀ id call, .call id call ∈ st.2 → call.isFetch = false

variable {s t : Session} {st : Step}

/-- Changes of what is shown elsewhere. -/
theorem with_elsewhere (s : Session) (filter : Watched Filter) (search : Watched SearchPane)
    (saved : Watched SavedPane) (notes : Watched NotePane) (insights : Insights)
    (routes : List Route) :
    Elsewhere s ({ s with filter, search, saved, notes, insights, routes }, []) :=
  ⟨rfl, rfl, rfl, rfl, rfl, fun _ hc _ => hc, fun _ hc => .inl hc, by simp⟩

theorem Elsewhere.refl (s : Session) : Elsewhere s (s, []) := s.with_elsewhere ..

theorem Elsewhere.andThen (h : Elsewhere s st) {next : Session → Step}
    (k : Elsewhere st.1 (next st.1)) : Elsewhere s (st.andThen next) where
  settings := k.settings.trans h.settings
  now := k.now.trans h.now
  box := k.box.trans h.box
  writes := k.writes.trans h.writes
  suggestions := k.suggestions.trans h.suggestions
  fetches := fun c hc hfetch => h.fetches c (k.fetches c hc hfetch) hfetch
  keeps := fun c hc => by
    rcases h.keeps c hc with hkept | ⟨r, hr⟩
    · exact (k.keeps c hkept).imp_right fun ⟨r, hr⟩ => ⟨r, List.mem_append_right _ hr⟩
    · exact .inr ⟨r, List.mem_append_left _ hr⟩
  silent := fun id call hcall =>
    (List.mem_append.1 hcall).elim (h.silent id call) (k.silent id call)

/-- A change without effects comes before a step. -/
theorem Elsewhere.then (h : Elsewhere s (t, [])) (k : Elsewhere t st) : Elsewhere s st :=
  @andThen s (t, []) h (fun _ => st) k

/-- What follows a reply, after the reply has been taken. -/
theorem Elsewhere.answered {id : Nat} (h : Elsewhere (s.forget id) st) (r : Reply) :
    Elsewhere s (st.1, .answered id r :: st.2) :=
  { h with
    fetches := fun c hc hfetch => (mem_forget.1 (h.fetches c hc hfetch)).1
    keeps := fun c hc => by
      by_cases hid : c.id = id
      · exact .inr ⟨r, hid ▸ List.mem_cons_self⟩
      · exact (h.keeps c (mem_forget.2 ⟨hc, hid⟩)).imp_right fun ⟨q, hq⟩ =>
          ⟨q, List.mem_cons_of_mem _ hq⟩
    silent := by simpa using h.silent }

/-! ## Operations -/

theorem act_elsewhere (s : Session) (a : Filter.Action) : Elsewhere s (s.act a, []) :=
  s.with_elsewhere ..

theorem patchNotes_elsewhere (s : Session) (p : NoteFilter.Patch) :
    Elsewhere s (s.patchNotes p, []) :=
  s.with_elsewhere ..

theorem navigate_elsewhere (s : Session) (r : Route) : Elsewhere s (s.navigate r, []) :=
  s.with_elsewhere ..

theorem finish_elsewhere (s : Session) (op : OperationId) (r : Result) :
    Elsewhere s (s.finish op r) :=
  { Elsewhere.refl s with silent := by simp [finish], keeps := fun _ hc => .inl hc }

/-- A call that fetches no completions. -/
theorem send_elsewhere (s : Session) {p : Pending} (h : p.call.isFetch = false) :
    Elsewhere s (s.send p) := by
  refine ⟨rfl, rfl, rfl, rfl, rfl, fun c hc hfetch => ?_,
    fun c hc => .inl (List.mem_append_left _ hc), fun id call hcall => ?_⟩
  · rcases List.mem_append.1 hc with hc | hc
    · exact hc
    · rw [List.mem_singleton.1 hc, h] at hfetch
      cases hfetch
  · cases List.mem_singleton.1 hcall
    exact h

theorem startSearch_elsewhere (s : Session) (page : Option UInt32) (purpose : SearchPurpose) :
    Elsewhere s (s.startSearch page purpose) :=
  (s.with_elsewhere _ (s.search.update (·.begin)) _ _ _ _).then (send_elsewhere _ rfl)

theorem startNotes_elsewhere (s : Session) (page : UInt32) (purpose : NotesPurpose) :
    Elsewhere s (s.startNotes page purpose) :=
  (s.with_elsewhere _ _ _ (s.notes.update (·.begin)) _ _).then (send_elsewhere _ rfl)

theorem startRefresh_elsewhere (s : Session) (op : OperationId) (r : Result) :
    Elsewhere s (s.startRefresh op r) :=
  (s.with_elsewhere _ _ (s.saved.update (·.beginRefresh)) _ _ _).then (send_elsewhere _ rfl)

theorem clearSearch_elsewhere (s : Session) : Elsewhere s s.clearSearch :=
  { s.with_elsewhere s.clearSearch.1.filter s.clearSearch.1.search _ _ _ _ with
    keeps := fun _ hc => .inl hc
    silent := by simp [clearSearch] }

theorem save_elsewhere (s : Session) (op : OperationId) (name : String) :
    Elsewhere s (s.save op name) := by
  unfold save
  split
  · exact finish_elsewhere s op _
  · exact send_elsewhere s rfl

theorem execute_elsewhere (s : Session) (op : OperationId) (saved : SavedSearch) :
    Elsewhere s (s.execute op saved) :=
  (s.with_elsewhere _ _ (s.saved.update (·.beginExecution)) _ _ _).then (send_elsewhere _ rfl)

theorem loadInsights_elsewhere (s : Session) (op : OperationId) :
    Elsewhere s (s.loadInsights op) := by
  have hbegun : Elsewhere s ({ s with insights := s.insights.begin }, []) := s.with_elsewhere ..
  unfold loadInsights
  refine hbegun.then ((send_elsewhere _ rfl).andThen ?_)
  exact (send_elsewhere _ rfl).andThen (send_elsewhere _ rfl)

/-- Operations on the results, the notes, the saved searches and the usage numbers are no concern
of the search box. -/
theorem perform_elsewhere (s : Session) (op : OperationId) {c : Command}
    (h : c.isElsewhere = true) : Elsewhere s (s.perform op c) := by
  cases c with
  | filter a => exact (act_elsewhere s a).then (finish_elsewhere _ op _)
  | run page => exact startSearch_elsewhere s page _
  | goToPage page => exact (act_elsewhere s _).then (startSearch_elsewhere _ none _)
  | clearSearch =>
    unfold perform
    exact (clearSearch_elsewhere s).andThen (finish_elsewhere _ op _)
  | refreshSaved => exact startRefresh_elsewhere s op _
  | save name => exact save_elsewhere s op name
  | execute saved => exact execute_elsewhere s op saved
  | delete id => exact send_elsewhere s rfl
  | patchNotes p => exact (patchNotes_elsewhere s p).then (finish_elsewhere _ op _)
  | fetchNotes page => exact startNotes_elsewhere s page _
  | loadInsights => exact loadInsights_elsewhere s op
  | _ => cases h

/-! ## Live writes -/

/-- The session that does not wait for a live write any more. -/
def dropWrite (s : Session) (number : Nat) : Session :=
  { s with writes := s.writes.filter fun w => w.number != number }

theorem wake_eq (s : Session) (w : LiveWrite) : s.wake w =
    match s.box.claim? w.number with
    | none => (s.dropWrite w.number, [])
    | some box => ({ s.dropWrite w.number with box } : Session).liveWrite w := rfl

/-- A live write that takes effect does so elsewhere. -/
theorem liveWrite_elsewhere (s : Session) (w : LiveWrite) : Elsewhere s (s.liveWrite w) := by
  unfold liveWrite
  split
  · split
    · exact .refl s
    · exact (patchNotes_elsewhere s _).then (startNotes_elsewhere _ _ _)
  · dsimp only
    split
    · exact .refl s
    split
    · exact clearSearch_elsewhere s
    · exact (act_elsewhere s _).then (startSearch_elsewhere _ _ _)
  · exact .refl s

/-! ## Replies -/

theorem afterSearch_elsewhere (s : Session) (o : Outcome) (purpose : SearchPurpose) :
    Elsewhere s (s.afterSearch o purpose) := by
  cases purpose with
  | run op => exact finish_elsewhere s op _
  | liveWrite number => exact .refl s
  | submit op byKey => exact (navigate_elsewhere s _).then (finish_elsewhere _ op _)
  | commit op byKey leads =>
    cases leads with
    | false => exact finish_elsewhere s op _
    | true => exact (navigate_elsewhere s _).then (finish_elsewhere _ op _)
  | execution op => exact startRefresh_elsewhere s op _

theorem afterExecute_elsewhere (s : Session) (execution : Nat) (op : OperationId)
    (saved : SavedSearch) (a : Except Failure ResultPage) :
    Elsewhere s (s.afterExecute execution op saved a) := by
  unfold afterExecute
  split
  · exact finish_elsewhere s op _
  · cases a with
    | error failure => exact finish_elsewhere s op _
    | ok results => exact (act_elsewhere s _).then (startSearch_elsewhere _ _ _)

theorem afterCreate_elsewhere (s : Session) (op : OperationId) (a : Except Failure SavedSearch) :
    Elsewhere s (s.afterCreate op a) := by
  cases a with
  | error failure => exact finish_elsewhere s op _
  | ok saved => exact startRefresh_elsewhere s op _

theorem afterDelete_elsewhere (s : Session) (op : OperationId) (id : Int64)
    (a : Except Failure Unit) : Elsewhere s (s.afterDelete op id a) := by
  cases a with
  | error failure => exact finish_elsewhere s op _
  | ok _ =>
    exact (s.with_elsewhere _ _ (s.saved.update (·.remove id)) _ _ _).then
      (startRefresh_elsewhere _ op _)

theorem afterPart_elsewhere (s : Session) (load : Nat) (op : OperationId) (part : InsightsPart) :
    Elsewhere s (s.afterPart load op part) := by
  unfold afterPart
  split
  · exact (s.with_elsewhere ..).then (finish_elsewhere _ op _)
  · exact s.with_elsewhere ..

/-- The reply to a request for notes may end an Escape, which takes the focus from the box. -/
theorem afterNotes_cases (s : Session) (o : Outcome) (purpose : NotesPurpose) :
    Elsewhere s (s.afterNotes o purpose) ∨
      ∃ op, s.afterNotes o purpose = s.blur.finish op (.key .cleared) := by
  cases purpose with
  | fetch op => exact .inl (finish_elsewhere s op _)
  | liveWrite number => exact .inl (.refl s)
  | clear op => exact .inl (finish_elsewhere s op _)
  | escape op => exact .inr ⟨op, rfl⟩

/-- A reply changes something elsewhere; or it does that and takes the focus from the search box;
or it brings completions. -/
theorem reply_elsewhere (s : Session) (id : Nat) (r : Reply) :
    Elsewhere s (s.reply id r) ∨
    (∃ t fx, Elsewhere s (t, fx) ∧ s.reply id r = (t.blur, fx)) ∨
    ∃ generation text limit a, s.pending? id = some (.suggestions generation text limit) ∧
      r = .suggestions a ∧ s.reply id r = ({ s.forget id with
        suggestions := Suggestions.receive s.suggestions generation a }, [.answered id r]) := by
  unfold reply
  split
  · exact .inl (.refl s)
  · rename_i p hid
    cases htake : (s.forget id).take p r with
    | none => exact .inl (.refl s)
    | some st =>
      dsimp only
      unfold take at htake
      split at htake
      case h_11 => cases htake
      all_goals cases htake
      case h_2 generation text limit a =>
        exact .inr (.inr ⟨generation, text, limit, a, hid, rfl, rfl⟩)
      case h_10 ticket query purpose a =>
        let t := { s.forget id with notes := (NotePane.receive s.notes ticket query a).1 }
        have ht : Elsewhere (s.forget id) (t, []) := with_elsewhere ..
        rcases t.afterNotes_cases (NotePane.receive s.notes ticket query a).2 purpose with
          hsame | ⟨op, hblur⟩
        · exact .inl ((ht.then hsame).answered _)
        · have hfinish := (ht.then (finish_elsewhere t op (.key .cleared))).answered (.notes a)
          refine .inr (.inl ⟨t, _, hfinish, ?_⟩)
          exact congrArg (fun st : Step => (st.1, Effect.answered id (.notes a) :: st.2)) hblur
      case h_1 ticket request purpose a =>
        let t := { s.forget id with search := (SearchPane.receive s.search ticket request a).1 }
        have ht : Elsewhere (s.forget id) (t, []) := with_elsewhere ..
        exact .inl ((ht.then (afterSearch_elsewhere t _ _)).answered _)
      case h_3 refresh op result a =>
        let t := { s.forget id with saved := SavedPane.receive s.saved refresh a }
        have ht : Elsewhere (s.forget id) (t, []) := with_elsewhere ..
        exact .inl ((ht.then (finish_elsewhere t op result)).answered _)
      case h_4 => exact .inl ((afterCreate_elsewhere _ _ _).answered _)
      case h_5 => exact .inl ((afterExecute_elsewhere _ _ _ _ _).answered _)
      case h_6 => exact .inl ((afterDelete_elsewhere _ _ _ _).answered _)
      all_goals exact .inl ((afterPart_elsewhere _ _ _ _).answered _)

end Session

end NoteSearch
