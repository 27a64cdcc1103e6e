-- SUMMARY: How the filter changes while the user does nothing: by loads and by the live search.
import NoteSearch.Proofs.Session.LatestAnswer

/-!
# Changes of the filter

While the user does nothing, the filter changes for two reasons only: an execution loads its saved
search when its use has been counted, and the scheduled live write makes a typed text the query.
`settledFilter` is the filter that the live write leads to. As long as nothing is loaded it stays
the same, before the write takes effect and afterwards (`step_settles`).
-/

namespace NoteSearch

/-- Whether an event is an operation of the user. -/
def Event.isCommand : Event → Bool
  | .command .. => true
  | _ => false

namespace Session

variable {s t : Session}

/-! ## Loads -/

/-- The execution that an event makes load its saved search, by its number, with that search. -/
def load? (s : Session) : Event → Option (Nat × SavedSearch)
  | .reply id (.executeSaved (.ok _)) =>
    match s.pending? id with
    | some (.executeSaved execution _ saved) =>
      if execution = s.saved.value.executions then some (execution, saved) else none
    | _ => none
  | _ => none

/-- What the executions load in a run, in order. -/
def loads (s : Session) : List Event → List (Nat × SavedSearch)
  | [] => []
  | e :: es => (s.load? e).toList ++ (s.step e).1.loads es

theorem loads_append (s : Session) (es fs : List Event) :
    s.loads (es ++ fs) = s.loads es ++ (s.steps es).1.loads fs := by
  induction es generalizing s with
  | nil => rfl
  | cons e es ih => simp [loads, steps, Step.andThen, ih]

/-! ## The live search -/

/-- The text that the scheduled live write searches for on the results page. -/
def liveSearch? (s : Session) : Option String :=
  (s.writes.find? fun w => w.number == s.box.turn && decide (w.mode = .searchPage)).map
    fun w => Text.trimmed w.text

/-- The filter after a live search, if there is one. -/
def withLiveSearch (f : Filter) : Option String → Filter
  | some text => if text = f.query then f else f.setQuery text
  | none => f

/-- The filter after the scheduled live write has taken effect. -/
def settledFilter (s : Session) : Filter := withLiveSearch s.filter.value s.liveSearch?

/-- The scheduled live write does not search, because the query is the typed text already. -/
def Still (s : Session) : Prop := ∀ text, s.liveSearch? = some text → text = s.filter.value.query

theorem Still.settledFilter_eq (h : s.Still) : s.settledFilter = s.filter.value := by
  unfold settledFilter
  cases htext : s.liveSearch? with
  | some text => exact if_pos (h text htext)
  | none => rfl

/-- A live search with another text than the query changes the filter. -/
theorem settledFilter_eq_iff (s : Session) : s.settledFilter = s.filter.value ↔ s.Still := by
  refine ⟨?_, Still.settledFilter_eq⟩
  intro heq text htext
  obtain ⟨w, -, rfl⟩ := Option.map_eq_some_iff.1 htext
  rw [settledFilter, htext, withLiveSearch] at heq
  split at heq
  · assumption
  · simpa [Filter.setQuery] using congrArg Filter.query heq

/-- Two members of a list are the same or are related in one way or the other. -/
theorem rel_of_pairwise {α : Type} {R : α → α → Prop} {l : List α} (h : l.Pairwise R) {a b : α}
    (ha : a ∈ l) (hb : b ∈ l) : a = b ∨ R a b ∨ R b a := by
  induction h with
  | nil => simp at ha
  | cons hrel _ ih =>
    rcases List.mem_cons.1 ha with rfl | ha'
    · exact (List.mem_cons.1 hb).imp Eq.symm fun hb' => .inl (hrel b hb')
    · rcases List.mem_cons.1 hb with rfl | hb'
      · exact .inr (.inr (hrel a ha'))
      · exact ih ha' hb'

/-- A turn has at most one live write. -/
theorem Tidy.liveSearch?_eq (h : Tidy s) {w : LiveWrite} (hw : w ∈ s.writes)
    (hturn : w.number = s.box.turn) :
    s.liveSearch? = if w.mode = .searchPage then some (Text.trimmed w.text) else none := by
  have hsame : ∀ v ∈ s.writes, v.number = s.box.turn → v = w := by
    intro v hv hnumber
    rcases rel_of_pairwise h.writes_lt hv hw with heq | hlt | hlt
    · exact heq
    · omega
    · omega
  unfold liveSearch?
  cases hfind : s.writes.find? _ with
  | none =>
    have hnot := List.find?_eq_none.1 hfind w hw
    rw [if_neg (by simpa [hturn] using hnot)]
    rfl
  | some v =>
    have hv := List.find?_some hfind
    simp only [Bool.and_eq_true, beq_iff_eq, decide_eq_true_eq] at hv
    obtain rfl := hsame v (List.mem_of_find?_eq_some hfind) hv.1
    rw [if_pos hv.2]
    rfl

/-! ## Steps that leave the filter alone -/

/-- A step that leaves the filter and the live writes alone and starts no search. -/
structure Frames (s : Session) (st : Step) : Prop where
  filter : st.1.filter = s.filter
  turn : st.1.box.turn = s.box.turn
  writes : st.1.writes = s.writes
  silent : ∀ x ∈ st.2, x.renewsSearch = false

theorem Frames.liveSearch? {st : Step} (h : s.Frames st) : st.1.liveSearch? = s.liveSearch? := by
  simp only [Session.liveSearch?, h.turn, h.writes]

theorem finish_frames (s : Session) (op : OperationId) (r : Result) :
    s.Frames (s.finish op r) := by
  constructor <;> simp [finish, Effect.renewsSearch]

theorem startRefresh_frames (s : Session) (op : OperationId) (r : Result) :
    s.Frames (s.startRefresh op r) := by
  constructor <;> simp [startRefresh, send, Pending.call, Effect.renewsSearch]

theorem execute_frames (s : Session) (op : OperationId) (saved : SavedSearch) :
    s.Frames (s.execute op saved) := by
  constructor <;> simp [execute, send, Pending.call, Effect.renewsSearch]

theorem sendFetch_frames (s : Session) (f : ScheduledFetch) : s.Frames (s.sendFetch f) := by
  constructor <;> simp [sendFetch, send, Pending.call, Effect.renewsSearch]

/-- A step from a session with the same filter and live writes. -/
theorem Frames.of_eq {st : Step} (h : t.Frames st) (hfilter : t.filter = s.filter)
    (hturn : t.box.turn = s.box.turn) (hwrites : t.writes = s.writes) : s.Frames st :=
  ⟨h.filter.trans hfilter, h.turn.trans hturn, h.writes.trans hwrites, h.silent⟩

/-- A step without effects. -/
theorem frames_silent (hfilter : t.filter = s.filter) (hturn : t.box.turn = s.box.turn)
    (hwrites : t.writes = s.writes) : s.Frames (t, []) :=
  ⟨hfilter, hturn, hwrites, by simp⟩

theorem afterSearch_frames (s : Session) (o : Outcome) (purpose : SearchPurpose) :
    s.Frames (s.afterSearch o purpose) := by
  cases purpose with
  | run op => exact finish_frames s op _
  | liveWrite number => exact frames_silent rfl rfl rfl
  | submit op byKey => exact (finish_frames (s.navigate _) op _).of_eq rfl rfl rfl
  | commit op byKey leads =>
    cases leads with
    | false => exact finish_frames s op _
    | true => exact (finish_frames (s.navigate _) op _).of_eq rfl rfl rfl
  | execution op => exact startRefresh_frames s op _

theorem afterNotes_frames (s : Session) (o : Outcome) (purpose : NotesPurpose) :
    s.Frames (s.afterNotes o purpose) := by
  cases purpose with
  | fetch op => exact finish_frames s op _
  | liveWrite number => exact frames_silent rfl rfl rfl
  | clear op => exact finish_frames s op _
  | escape op => exact (finish_frames s.blur op _).of_eq rfl rfl rfl

theorem afterCreate_frames (s : Session) (op : OperationId) (a : Except Failure SavedSearch) :
    s.Frames (s.afterCreate op a) := by
  cases a with
  | error failure => exact finish_frames s op _
  | ok saved => exact startRefresh_frames s op _

theorem afterDelete_frames (s : Session) (op : OperationId) (id : Int64)
    (a : Except Failure Unit) : s.Frames (s.afterDelete op id a) := by
  cases a with
  | error failure => exact finish_frames s op _
  | ok _ => exact (startRefresh_frames _ op _).of_eq rfl rfl rfl

theorem afterPart_frames (s : Session) (load : Nat) (op : OperationId) (part : InsightsPart) :
    s.Frames (s.afterPart load op part) := by
  unfold afterPart
  split
  · exact (finish_frames _ op _).of_eq rfl rfl rfl
  · exact frames_silent rfl rfl rfl

/-- An execution that does not load ends. -/
theorem afterExecute_frames (s : Session) (execution : Nat) (op : OperationId)
    (saved : SavedSearch) (a : Except Failure ResultPage)
    (h : ∀ results, a = .ok results → execution ≠ s.saved.value.executions) :
    s.Frames (s.afterExecute execution op saved a) := by
  unfold afterExecute
  split
  · exact finish_frames s op _
  · cases a with
    | error failure => exact finish_frames s op _
    | ok results => exact absurd (h results rfl) ‹_›

/-- A reply that loads nothing. -/
theorem reply_frames {id : Nat} {r : Reply} (h : s.load? (.reply id r) = none) :
    s.Frames (s.reply id r) := by
  have htaken {p : Pending} {st : Step} (hid : s.pending? id = some p)
      (hst : (s.forget id).take p r = some st) : s.Frames st := by
    refine Frames.of_eq (t := s.forget id) ?_ rfl rfl rfl
    unfold take at hst
    split at hst
    case h_11 => cases hst
    all_goals cases hst
    · exact (afterSearch_frames _ _ _).of_eq rfl rfl rfl
    · exact frames_silent rfl rfl rfl
    · exact (finish_frames _ _ _).of_eq rfl rfl rfl
    · exact afterCreate_frames _ _ _
    · refine afterExecute_frames _ _ _ _ _ ?_
      rintro results rfl heq
      simp only [load?, hid] at h
      rw [if_pos (by exact heq)] at h
      cases h
    · exact afterDelete_frames _ _ _ _
    · exact afterPart_frames _ _ _ _
    · exact afterPart_frames _ _ _ _
    · exact afterPart_frames _ _ _ _
    · exact (afterNotes_frames _ _ _).of_eq rfl rfl rfl
  unfold reply
  split
  · exact frames_silent rfl rfl rfl
  · rename_i p hid
    split
    · exact frames_silent rfl rfl rfl
    · rename_i after effects hst
      have hframes := htaken hid hst
      refine ⟨hframes.filter, hframes.turn, hframes.writes, ?_⟩
      simpa [Effect.renewsSearch] using hframes.silent

/-! ## Steps that settle the filter -/

/-- A step that leads to the same settled filter, and does nothing to a session that is still. -/
structure Settles (s : Session) (st : Step) : Prop where
  settled : st.1.settledFilter = s.settledFilter
  unscheduled : s.liveSearch? = none → st.1.liveSearch? = none
  still : s.Still → st.1.Still ∧ st.1.filter.value = s.filter.value ∧
    ∀ x ∈ st.2, x.renewsSearch = false

/-- A step that keeps the filter and the scheduled live search. -/
theorem Settles.of_same {st : Step} (hsearch : st.1.liveSearch? = s.liveSearch?)
    (hfilter : st.1.filter = s.filter) (hsilent : ∀ x ∈ st.2, x.renewsSearch = false) :
    s.Settles st := by
  refine ⟨?_, fun hnone => hsearch.trans hnone, ?_⟩
  · simp only [settledFilter, hsearch, hfilter]
  · intro hstill
    refine ⟨?_, by rw [hfilter], hsilent⟩
    simpa only [Still, hsearch, hfilter] using hstill

theorem Frames.settles {st : Step} (h : s.Frames st) : s.Settles st :=
  .of_same h.liveSearch? h.filter h.silent

theorem Settles.andThen {st : Step} (h : s.Settles st) (next : Session → Step)
    (hnext : st.1.Settles (next st.1)) : s.Settles (st.andThen next) := by
  refine ⟨hnext.settled.trans h.settled, fun hnone => hnext.unscheduled (h.unscheduled hnone), ?_⟩
  intro hstill
  obtain ⟨hstill', hfilter, hsilent⟩ := h.still hstill
  obtain ⟨hstill'', hfilter', hsilent'⟩ := hnext.still hstill'
  refine ⟨hstill'', hfilter'.trans hfilter, ?_⟩
  intro x hx
  rcases List.mem_append.1 hx with hx | hx
  · exact hsilent x hx
  · exact hsilent' x hx

/-- A step after the scheduled live write has been dealt with. -/
theorem Settles.of_none {st : Step} (hnone : st.1.liveSearch? = none)
    (hfilter : st.1.filter.value = s.settledFilter)
    (hsilent : s.Still → ∀ x ∈ st.2, x.renewsSearch = false) : s.Settles st := by
  refine ⟨?_, fun _ => hnone, ?_⟩
  · rw [settledFilter, hnone, hfilter]
    rfl
  · intro hstill
    refine ⟨?_, hfilter.trans hstill.settledFilter_eq, hsilent hstill⟩
    simp [Still, hnone]

/-- The scheduled live write takes effect. -/
theorem liveWrite_settles (h : Tidy s) {w : LiveWrite} (hw : w ∈ s.writes)
    (hturn : w.number = s.box.turn) {box : SearchBox} (hbox : box.turn = s.box.turn) :
    s.Settles (liveWrite
      { s with writes := s.writes.filter fun v => v.number != w.number, box } w) := by
  have hnone (t : Session) (hturn' : t.box.turn = s.box.turn)
      (hwrites : t.writes = s.writes.filter fun v => v.number != w.number) :
      t.liveSearch? = none := by
    simp only [liveSearch?, hturn', hwrites, Option.map_eq_none_iff, List.find?_eq_none]
    intro v hv
    have hne : v.number ≠ w.number := by simpa using (List.mem_filter.1 hv).2
    simp [← hturn, hne]
  have hsearch := h.liveSearch?_eq hw hturn
  cases hmode : w.mode with
  | liveFilter =>
    have hfilter : s.settledFilter = s.filter.value := by
      simp only [settledFilter, hsearch, hmode]
      rfl
    simp only [liveWrite, hmode]
    split
    · exact .of_none (hnone _ hbox rfl) hfilter.symm fun _ => by simp
    · apply Settles.of_none (hnone _ hbox rfl) hfilter.symm
      intro _
      simp [startNotes, send, Pending.call, Effect.renewsSearch]
  | searchPage =>
    rw [if_pos hmode] at hsearch
    simp only [liveWrite, hmode]
    split
    · rename_i hsame
      refine .of_none (hnone _ hbox rfl) ?_ fun _ => by simp
      rw [settledFilter, hsearch]
      exact (if_pos hsame).symm
    · rename_i hdiffers
      have hsettled : s.settledFilter = s.filter.value.setQuery (Text.trimmed w.text) := by
        rw [settledFilter, hsearch]
        exact if_neg hdiffers
      have hnever (hstill : s.Still) : False := hdiffers (hstill _ hsearch)
      split
      · rename_i hempty
        refine .of_none (hnone _ hbox rfl) ?_ fun hstill => (hnever hstill).elim
        rw [hsettled, String.isEmpty_iff.1 hempty]
        rfl
      · exact .of_none (hnone _ hbox rfl) hsettled.symm fun hstill => (hnever hstill).elim
  | standalone =>
    have hfilter : s.settledFilter = s.filter.value := by
      simp only [settledFilter, hsearch, hmode]
      rfl
    simp only [liveWrite, hmode]
    exact .of_none (hnone _ hbox rfl) hfilter.symm fun _ => by simp

theorem wake_settles (h : Tidy s) {w : LiveWrite} (hw : w ∈ s.writes) :
    s.Settles (s.wake w) := by
  unfold wake
  simp only [SearchBox.claim?]
  split
  · rename_i hclaim
    split at hclaim
    · cases hclaim
    · rename_i hturn
      refine .of_same ?_ rfl (by simp)
      -- A write of another turn is not the scheduled one.
      simp only [liveSearch?, List.find?_filter]
      congr 2
      funext v
      by_cases hv : v.number = s.box.turn
      · simp [hv, Ne.symm hturn]
      · simp [hv]
  · rename_i box hclaim
    split at hclaim
    · cases hclaim
      exact liveWrite_settles h hw ‹_› rfl
    · cases hclaim

theorem ring_settles (h : Tidy s) (t : Timer) : s.Settles (s.ring t) := by
  have hrefl : s.Settles (s, []) := (frames_silent rfl rfl rfl).settles
  cases t with
  | fetch =>
    simp only [ring]
    split
    · exact hrefl
    · split
      · exact (sendFetch_frames s _).settles
      · exact hrefl
  | write number =>
    simp only [ring]
    split
    · exact hrefl
    · rename_i w hfind
      exact wake_settles h (List.mem_of_find?_eq_some hfind)

theorem setClock_settles (s : Session) (time : Nat) : s.Settles (s.setClock time, []) :=
  Frames.settles (s := s) (frames_silent rfl rfl rfl)

theorem ringNext_settles (h : Tidy s) {limit : Nat} {st : Step}
    (hnext : s.ringNext? limit = some st) : s.Settles st := by
  unfold ringNext? at hnext
  split at hnext
  · cases hnext
  · split at hnext
    · cases hnext
      rename_i due t _ _
      have hclock : s.Makes (s.setClock (max s.now due), []) := setClock_moves s _
      simpa [Step.andThen] using
        (setClock_settles s _).andThen (·.ring t) (ring_settles (h.makes hclock) t)
    · cases hnext

theorem ringUntil_settles (h : Tidy s) (limit count : Nat) :
    s.Settles (ringUntil limit count s) := by
  induction count generalizing s with
  | zero => exact setClock_settles s limit
  | succ count ih =>
    unfold ringUntil
    split
    · exact setClock_settles s limit
    · rename_i st hst
      exact (ringNext_settles h hst).andThen _ (ih (h.makes (ringNext_makes hst)))

/-- An event that is no operation of the user and loads nothing settles the filter. -/
theorem step_settles (h : Tidy s) {e : Event} (he : e.isCommand = false)
    (hload : s.load? e = none) : s.Settles (s.step e) := by
  cases e with
  | command op c => cases he
  | reply id r => exact (reply_frames hload).settles
  | wait ms => exact ringUntil_settles h _ _
  | pass ms => exact setClock_settles s _
  | ring t => exact ring_settles h t

theorem steps_settles (h : Tidy s) {es : List Event} (hes : ∀ e ∈ es, e.isCommand = false)
    (hloads : s.loads es = []) : s.Settles (s.steps es) := by
  induction es generalizing s with
  | nil => exact (frames_silent rfl rfl rfl).settles
  | cons e es ih =>
    rw [List.forall_mem_cons] at hes
    simp only [loads, List.append_eq_nil_iff, Option.toList_eq_nil_iff] at hloads
    exact (step_settles h hes.1 hloads.1).andThen _ (ih (h.step e) hes.2 hloads.2)

end Session

end NoteSearch
