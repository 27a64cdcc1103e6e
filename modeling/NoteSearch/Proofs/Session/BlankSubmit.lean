-- SUMMARY: When a submit of a blank text changes nothing: if the text has no live write to come.
import NoteSearch.Session.Screen
import NoteSearch.Proofs.Session.FilterChanges
import NoteSearch.Proofs.Session.Turns

/-!
# Submits of a blank text

A submit of a blank text sends nothing and leads nowhere. It begins a new turn of the search box,
though, and so it drops the live write that typing the blank text has scheduled. If there is none,
the new turn cannot be told from the old one; if there is one, it would have made the blank text
the query or the search text of the notes, and without it they stay.
-/

namespace NoteSearch.Session

variable {s t : Session} {fx : List Effect} {k : Nat}

/-! ## Live writes that are still to come -/

/-- The box can abort only a live write that is still to come, and a live write comes from where
typing has one. -/
structure Scheduled (s : Session) : Prop where
  pending_mem : ∀ number, s.box.pending = some number → ∃ w ∈ s.writes, w.number = number
  mode_ne : ∀ w ∈ s.writes, w.mode ≠ .standalone

theorem Scheduled.start (settings : Settings) (mode : Mode) (filter : Watched Filter) :
    Scheduled (startWith settings mode filter) := by
  constructor <;> simp [startWith, Session.start]

theorem Scheduled.of_eq (h : Scheduled s) (hpending : t.box.pending = s.box.pending)
    (hwrites : t.writes = s.writes) : Scheduled t := by
  constructor
  · rw [hpending, hwrites]
    exact h.pending_mem
  · rw [hwrites]
    exact h.mode_ne

theorem Scheduled.retype (h : Scheduled s) (text : String) : Scheduled (s.retype text) := by
  constructor
  · intro number hnumber
    simp only [Session.retype, scheduleWrite] at hnumber ⊢
    split at hnumber
    · simp at hnumber
    · obtain rfl := Option.some.inj hnumber
      rw [if_neg ‹_›]
      exact ⟨_, List.mem_append_right _ (List.mem_singleton.2 rfl), rfl⟩
  · intro w hw
    rcases mem_writes_retype hw with hold | ⟨-, hmode⟩
    · exact h.mode_ne w hold
    · exact hmode

theorem Scheduled.wake (h : Scheduled s) (ht : Tidy s) (number : Nat) :
    Scheduled { s with
      writes := s.writes.filter fun w => w.number != number
      box := (s.box.claim? number).getD s.box } := by
  refine ⟨?_, fun w hw => h.mode_ne w (List.mem_filter.1 hw).1⟩
  unfold SearchBox.claim?
  split
  · simp
  · rename_i hturn
    intro n hn
    obtain ⟨w, hw, rfl⟩ := h.pending_mem n hn
    have hne : w.number ≠ number := fun heq => hturn (heq.symm.trans (ht.pending_eq _ hn))
    exact ⟨w, List.mem_filter.2 ⟨hw, by simpa using hne⟩, rfl⟩

theorem Scheduled.move (h : Scheduled s) (ht : Tidy s) (m : Move s fx t) : Scheduled t := by
  cases m with
  | quiet ha => exact h.of_eq ha.pending ha.writes
  | cancelWrite =>
    exact ⟨by simp, fun w hw => h.mode_ne w (s.writes_cancelWrite_sublist.subset hw)⟩
  | retype text => exact h.retype text
  | wake number => exact h.wake ht number
  | _ => exact h.of_eq rfl rfl

theorem Scheduled.steps (h : Scheduled s) (ht : Tidy s) (es : List Event) :
    Tidy (s.steps es).1 ∧ Scheduled (s.steps es).1 := by
  refine keepState_steps (fun s => Tidy s ∧ Scheduled s) ?_ ?_ ?_ ⟨ht, h⟩ es
  · intro s t fx m h
    exact ⟨h.1.move m, h.2.move h.1 m⟩
  · intro s op saved h
    exact ⟨h.1.execute op saved, h.2.of_eq rfl rfl⟩
  · intro s t id r m h
    refine ⟨h.1.taken m, ?_⟩
    cases m <;> exact h.2.of_eq rfl rfl

/-- In every run the live writes are told apart by their turns, and the box knows its own. -/
theorem tidy_scheduled_steps (settings : Settings) (mode : Mode) (filter : Watched Filter)
    (es : List Event) :
    Tidy ((startWith settings mode filter).steps es).1 ∧
      Scheduled ((startWith settings mode filter).steps es).1 :=
  Scheduled.steps (.start settings mode filter) (.start settings mode filter) es

/-! ## A turn without a live write -/

theorem screen_cancelWrite (s : Session) : s.cancelWrite.screen = s.screen := by
  unfold cancelWrite
  split <;> rfl

/-- A submit of a blank text only drops the scheduled live write. -/
theorem submit_of_blank (hblank : Text.isBlankString s.box.text = true) (op : OperationId)
    (byKey : Bool) : s.submit op byKey =
      s.cancelWrite.finish op (if byKey then .key .ignored else .submitted none) := by
  simp [submit, Text.trimmedNonBlank?, hblank]

theorem submit_of_nonBlank (h : Text.isBlankString s.box.text = false) (op : OperationId)
    (byKey : Bool) : s.submit op byKey =
      (s.cancelWrite.dismiss.act (.setQuery (Text.trimmed s.box.text))).startSearch (some 1)
        (.submit op byKey) := by
  simp [submit, Text.trimmedNonBlank?, h]

/-- The new turn is all that dropping brings if nothing is scheduled. -/
theorem cancelWrite_eq_insertTurn (h : Tidy s) (hscheduled : Scheduled s)
    (hnone : ∀ w ∈ s.writes, w.number ≠ s.box.turn) : s.cancelWrite = s.insertTurn s.box.turn := by
  have hpending : s.box.pending = none := by
    cases hp : s.box.pending with
    | none => rfl
    | some number =>
      obtain ⟨w, hw, rfl⟩ := hscheduled.pending_mem number hp
      exact absurd (h.pending_eq _ hp) (hnone w hw)
  have hwrites : s.writes.map (·.insertTurn s.box.turn) = s.writes := by
    refine (List.map_congr_left fun w hw => ?_).trans (List.map_id _)
    rw [LiveWrite.insertTurn, insertTurn_of_le (h.writes_le w hw)]
    rfl
  have hcalls : s.calls.map (·.insertTurn s.box.turn) = s.calls := by
    refine (List.map_congr_left fun c hc => ?_).trans (List.map_id _)
    rw [InFlight.insertTurn, Pending.insertTurn_of_le]
    · rfl
    · intro number hn
      rcases h.calls c hc number hn with hlt | ⟨rfl, -⟩
      · exact Nat.le_of_lt hlt
      · exact Nat.le_refl _
  simp [cancelWrite, insertTurn, SearchBox.insertTurn, SearchBox.cancel, hpending, hwrites, hcalls]

/-! ## A live write that is dropped -/

theorem number_of_find? {number : Nat} {w : LiveWrite}
    (h : (s.writes.find? fun w => w.number == number && decide (w.due ≤ s.now)) = some w) :
    w ∈ s.writes ∧ w.number = number := by
  have hboth := List.find?_some h
  rw [Bool.and_eq_true, beq_iff_eq] at hboth
  exact ⟨List.mem_of_find?_eq_some h, hboth.1⟩

/-- The turn of a live write is over, so it only ends. -/
theorem screen_ring_of_turn_ne {number : Nat} (hturn : number ≠ s.box.turn) :
    (s.ring (.write number)).1.screen = s.screen := by
  simp only [ring]
  split
  · rfl
  · rename_i w hfind
    obtain ⟨-, rfl⟩ := number_of_find? hfind
    rw [wake_eq, SearchBox.claim?, if_neg hturn]
    rfl

theorem Tidy.eq_of_number (h : Tidy s) {v w : LiveWrite} (hv : v ∈ s.writes) (hw : w ∈ s.writes)
    (hnumber : v.number = w.number) : v = w := by
  rcases rel_of_pairwise h.writes_lt hv hw with heq | hlt | hlt
  · exact heq
  · omega
  · omega

/-- A live write of the current turn that is due takes effect. -/
theorem ring_of_mem (h : Tidy s) {w : LiveWrite} (hw : w ∈ s.writes)
    (hturn : w.number = s.box.turn) (hdue : w.due ≤ s.now) :
    s.ring (.write w.number) =
      ({ s.dropWrite w.number with box := { s.box with pending := none } } : Session).liveWrite w := by
  simp only [ring]
  split
  · rename_i hfind
    exact absurd (List.find?_eq_none.1 hfind w hw) (by simp [hdue])
  · rename_i v hfind
    obtain ⟨hv, hnumber⟩ := number_of_find? hfind
    obtain rfl := h.eq_of_number hv hw hnumber
    rw [wake_eq, SearchBox.claim?, if_pos hturn]

theorem search_liveWrite {w : LiveWrite} (hmode : w.mode = .liveFilter) :
    (s.liveWrite w).1.notes.value.filter.search = w.text := by
  simp only [liveWrite, hmode]
  split
  · exact Eq.symm ‹_›
  · rfl

theorem query_act_setQuery (s : Session) (text : String) :
    (s.act (.setQuery text)).filter.value.query = normalQuery text := rfl

theorem query_liveWrite {w : LiveWrite} (hmode : w.mode = .searchPage) :
    (s.liveWrite w).1.filter.value.query = Text.trimmed w.text := by
  simp only [liveWrite, hmode]
  split
  · exact Eq.symm ‹_›
  split
  · rename_i hempty
    have hfilter : s.clearSearch.1.filter = (s.act (.setQuery (Text.trimmed w.text))).filter := by
      rw [String.isEmpty_iff.1 hempty]
      rfl
    rw [hfilter, query_act_setQuery, normalQuery_trimmed]
  · let searched := s.act (.setQuery (Text.trimmed w.text))
    have hfilter : (searched.startSearch (some 1) (.liveWrite w.number)).1.filter =
        searched.filter := rfl
    rw [hfilter, query_act_setQuery, normalQuery_trimmed]

theorem exists_normalQuery_ne (text : String) : ∃ query, normalQuery query ≠ text := by
  have hx : normalQuery "x" = "x" := by decide +kernel
  have hy : normalQuery "y" = "y" := by decide +kernel
  by_cases htext : text = "x"
  · exact ⟨"y", by rw [hy, htext]; decide⟩
  · exact ⟨"x", by rw [hx]; exact Ne.symm htext⟩

/-- An operation, and then the live write `w` rings when it is due. -/
def lateRing (c : Command) (w : LiveWrite) : List Event :=
  [.command 0 c, .pass w.due, .ring (.write w.number)]

/-- An operation that is no concern of the live writes does not keep one from taking effect. -/
theorem exists_liveWrite_lateRing (h : Tidy s) {c : Command} (ha : Alike s (s.perform 0 c).1)
    {w : LiveWrite} (hw : w ∈ s.writes) (hturn : w.number = s.box.turn) :
    ∃ t : Session, (s.steps (lateRing c w)).1 = (t.liveWrite w).1 := by
  let late := (s.perform 0 c).1.setClock ((s.perform 0 c).1.now + w.due)
  have hlate : Tidy late :=
    h.of_calls ha.pending ha.turn ha.writes fun c hc => .inl (ha.calls ▸ hc)
  have hw' : w ∈ late.writes := by
    rw [show late.writes = s.writes from ha.writes]
    exact hw
  have hring : (s.steps (lateRing c w)).1 = (late.ring (.write w.number)).1 := rfl
  rw [hring, ring_of_mem hlate hw' (hturn.trans ha.turn.symm) (Nat.le_add_left _ _)]
  exact ⟨_, rfl⟩

/-- A live write that has been dropped does nothing after an operation. -/
theorem screen_cancelWrite_lateRing {c : Command}
    (ha : Alike s.cancelWrite (s.cancelWrite.perform 0 c).1) {w : LiveWrite}
    (hturn : w.number = s.box.turn) :
    (s.cancelWrite.steps (lateRing c w)).1.screen = (s.cancelWrite.perform 0 c).1.screen := by
  let late := (s.cancelWrite.perform 0 c).1
  have hring : (s.cancelWrite.steps (lateRing c w)).1 =
      ((late.setClock (late.now + w.due)).ring (.write w.number)).1 := rfl
  rw [hring, screen_ring_of_turn_ne]
  · rfl
  · rw [show (late.setClock (late.now + w.due)).box.turn = s.cancelWrite.box.turn from ha.turn,
      turn_cancelWrite, hturn]
    exact Nat.ne_of_lt (Nat.lt_succ_self _)

/-- A live write that has been dropped is missed when its quiet time has passed: what has been
changed in the meantime stays. -/
theorem exists_missed (h : Tidy s) {w : LiveWrite} (hw : w ∈ s.writes)
    (hturn : w.number = s.box.turn) (hmode : w.mode ≠ .standalone) :
    ∃ c, (s.cancelWrite.steps (lateRing c w)).1.screen ≠ (s.steps (lateRing c w)).1.screen := by
  cases hmode' : w.mode with
  | liveFilter =>
    let c : Command := .patchNotes { search := some (w.text ++ "x") }
    obtain ⟨t, ht⟩ := exists_liveWrite_lateRing (c := c) h (alike_patchNotes s _) hw hturn
    refine ⟨c, fun heq => ?_⟩
    rw [screen_cancelWrite_lateRing (alike_patchNotes _ _) hturn, ht] at heq
    have hsearch : w.text ++ "x" = w.text :=
      (congrArg (·.noteFilter.search) heq).trans (search_liveWrite hmode')
    simpa using congrArg String.length hsearch
  | searchPage =>
    obtain ⟨query, hquery⟩ := exists_normalQuery_ne (Text.trimmed w.text)
    let c : Command := .filter (.setQuery query)
    obtain ⟨t, ht⟩ := exists_liveWrite_lateRing (c := c) h (alike_act s _) hw hturn
    refine ⟨c, fun heq => hquery ?_⟩
    rw [screen_cancelWrite_lateRing (alike_act _ _) hturn, ht] at heq
    exact (congrArg (·.filter.query) heq).trans (query_liveWrite hmode')
  | standalone => exact absurd hmode' hmode

/-! ## The submit of a blank text -/

/-- A submit of a blank text returns nothing and shows nothing at once. The session goes on as
without it, whatever happens, exactly if no live write of the current turn of the search box is
still to come. The submit takes a turn, so the timers of the live writes of later turns have greater
numbers after it; all other events are the same in both runs. -/
theorem blank_submit_changes_nothing_iff (settings : Settings) (mode : Mode)
    (filter : Watched Filter) (before : List Event) (op : OperationId) :
    let s := ((startWith settings mode filter).steps before).1
    let submitted := s.step (.command op .submit)
    Text.isBlankString s.box.text = true →
    submitted.2 = [.finished op (.submitted none)] ∧ submitted.1.screen = s.screen ∧
    ((∀ after,
        let run := s.steps after
        let other := submitted.1.steps (after.map (·.insertTurn s.box.turn))
        other.1.screen = run.1.screen ∧ other.2 = run.2) ↔
      ∀ w ∈ s.writes, w.number ≠ s.box.turn) := by
  intro s submitted hblank
  obtain ⟨htidy, hscheduled⟩ : Tidy s ∧ Scheduled s :=
    tidy_scheduled_steps settings mode filter before
  have hsubmitted : submitted = s.cancelWrite.finish op (.submitted none) :=
    submit_of_blank hblank op false
  refine ⟨by rw [hsubmitted]; rfl, ?_, ?_, ?_⟩
  · rw [hsubmitted]
    exact screen_cancelWrite s
  · intro hsame w hw hturn
    obtain ⟨c, hmissed⟩ := exists_missed htidy hw hturn (hscheduled.mode_ne w hw)
    apply hmissed
    have hevents : (lateRing c w).map (·.insertTurn s.box.turn) = lateRing c w := by
      simp [lateRing, Event.insertTurn, Timer.insertTurn, insertTurn_of_le, hturn]
    have hlate := (hsame (lateRing c w)).1
    rwa [hevents, hsubmitted] at hlate
  · intro hnone after
    have hlacks : s.Lacks s.box.turn := ⟨Nat.le_refl _, hnone⟩
    have hother : submitted.1.steps (after.map (·.insertTurn s.box.turn)) =
        (s.steps after).insertTurn s.box.turn := by
      rw [hsubmitted, ← steps_insertTurn hlacks,
        ← cancelWrite_eq_insertTurn htidy hscheduled hnone]
      rfl
    rw [hother]
    exact ⟨rfl, rfl⟩

/-- The live write of the blank text is over before the submit, and the search that the text before
it has sent is still unanswered. -/
theorem blank_submit_after_live_write :
    let s := ((startWith {} .searchPage ⟨{}, 0⟩).steps [.command 0 (.type "x"), .wait 600,
      .command 1 (.type " "), .wait 600]).1
    let submitted := s.step (.command 2 .submit)
    let after := [.reply 0 (.search (.ok { total := 1 })), .command 3 (.type "y"), .wait 600]
    let other := submitted.1.steps (after.map (·.insertTurn s.box.turn))
    Text.isBlankString s.box.text = true ∧ s.calls.length = 1 ∧
      other.1.screen = (s.steps after).1.screen ∧ other.2 = (s.steps after).2 := by
  intro s submitted after other
  have hblank : Text.isBlankString s.box.text = true := by decide +kernel
  have hwrites : s.writes = [] := List.isEmpty_iff.1 (by decide +kernel)
  obtain ⟨-, -, hsame⟩ := blank_submit_changes_nothing_iff {} .searchPage ⟨{}, 0⟩
    [.command 0 (.type "x"), .wait 600, .command 1 (.type " "), .wait 600] 2 hblank
  refine ⟨hblank, by decide +kernel, hsame.2 ?_ after⟩
  intro w hw
  rw [show _ = s.writes from rfl, hwrites] at hw
  cases hw

/-- The blank text is submitted before its live write is due: the query and the results of the text
before it stay. -/
theorem blank_submit_drops_live_write :
    let s := ((startWith {} .searchPage ⟨{}, 0⟩).steps [.command 0 (.type "x"), .wait 600,
      .reply 0 (.search (.ok { total := 1 })), .command 1 (.type "  ")]).1
    let submitted := s.step (.command 2 .submit)
    Text.isBlankString s.box.text = true ∧
      (s.steps [.wait 600]).1.filter.value.query = "" ∧
      (submitted.1.steps [.wait 600]).1.filter.value.query = "x" ∧
      (submitted.1.steps [.wait 600]).1.screen ≠ (s.steps [.wait 600]).1.screen := by
  intro s submitted
  have hblank : Text.isBlankString s.box.text = true := by decide +kernel
  have hcleared : (s.steps [.wait 600]).1.filter.value.query = "" := by decide +kernel
  have hkept : (submitted.1.steps [.wait 600]).1.filter.value.query = "x" := by decide +kernel
  refine ⟨hblank, hcleared, hkept, ?_⟩
  intro heq
  have hquery := congrArg (·.filter.query) heq
  simp only [Session.filter_screen, hkept, hcleared] at hquery
  exact absurd hquery (by decide)

end NoteSearch.Session
