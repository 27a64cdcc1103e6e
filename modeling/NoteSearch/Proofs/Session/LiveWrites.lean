-- SUMMARY: A live write starts when its quiet time is over, exactly once, unless it is dropped.
import NoteSearch.Proofs.Session.QuietTimes
import NoteSearch.Proofs.Session.Keys

/-!
# Live writes

A typed text takes effect after the quiet time of the search box, where the box stands. Another
text, a submit, a commit, an Escape, emptying the box and moving it elsewhere drop what waits. So
there is never more than one live write, it has the text and the mode of the box (`Matched`), and
the live writes of a run are known from its events (`live_writes_after_quiet_time`).
-/

namespace NoteSearch.Session

variable {s t u : Session}

/-! ## Starting and dropping -/

/-- The live write that starts at a moment. -/
def startedWrite? (s : Session) : Event → Option LiveWrite
  | .ring (.write number) =>
    (s.writes.find? fun w => w.number == number && decide (w.due ≤ s.now)).filter fun w =>
      (s.box.claim? w.number).isSome
  | _ => none

/-- What an event does to the live write that waits. -/
def writeTouch (s : Session) : Event → Touch (Mode × String)
  | .command _ (.type text) =>
    if s.box.mode = .standalone then .drop else .renew (s.box.mode, text)
  | .command _ (.setMode _) => .drop
  | .command _ .submit => .drop
  | .command _ (.commit _) => .drop
  | .command _ .clearBox => .drop
  | .command _ (.press k) =>
    if s.box.focused = true ∧ (k.key = .escape ∨ k.key = .enter) then .drop else .keep
  | _ => .keep

/-- The live write that waits, with the time at which it is due. -/
def waitingWrite? (s : Session) : Option (Nat × Mode × String) :=
  s.writes.head?.map fun w => (w.due, w.mode, w.text)

/-- Live writes happen when their quiet time is over. -/
def liveWrites (delay : Nat) : Deferred (Mode × String) where
  delay
  waiting := waitingWrite?
  touch := writeTouch
  happens s e := (s.startedWrite? e).map fun w => (w.mode, w.text)

/-! ## The live write of the box -/

/-- No live write waits, or one does, with the text and the mode of the box, and the box can still
abort it. -/
inductive Matched (s : Session) : Prop where
  | idle (writes : s.writes = []) (pending : s.box.pending = none)
  | waiting (due : Nat) (writes : s.writes = [⟨s.box.turn, due, s.box.mode, s.box.text⟩])
      (pending : s.box.pending = some s.box.turn)

theorem Matched.start (settings : Settings) (mode : Mode) (filter : Watched Filter) :
    Matched (startWith settings mode filter) :=
  .idle rfl rfl

theorem Matched.length_writes (h : Matched s) : s.writes.length ≤ 1 := by
  cases h with
  | idle writes pending => simp [writes]
  | waiting due writes pending => simp [writes]

theorem Matched.waitingWrite?_of_mem (h : Matched s) {w : LiveWrite} (hw : w ∈ s.writes) :
    s.waitingWrite? = some (w.due, w.mode, w.text) := by
  cases h with
  | idle writes pending => simp [writes] at hw
  | waiting due writes pending =>
    rw [writes, List.mem_singleton] at hw
    rw [waitingWrite?, writes, hw]
    rfl

theorem Matched.text_mode_of_mem (h : Matched s) {w : LiveWrite} (hw : w ∈ s.writes) :
    w.text = s.box.text ∧ w.mode = s.box.mode := by
  cases h with
  | idle writes pending => simp [writes] at hw
  | waiting due writes pending =>
    rw [writes, List.mem_singleton] at hw
    simp [hw]

/-- A change that leaves the live write alone. -/
structure KeepsWrite (s t : Session) : Prop where
  settings : t.settings = s.settings
  now : t.now = s.now
  text : t.box.text = s.box.text
  mode : t.box.mode = s.box.mode
  pending : t.box.pending = s.box.pending
  turn : t.box.turn = s.box.turn
  writes : t.writes = s.writes

/-- A change after which no live write waits. -/
structure DropsWrite (s t : Session) : Prop where
  settings : t.settings = s.settings
  now : t.now = s.now
  pending : t.box.pending = none
  writes : t.writes = []

theorem KeepsWrite.refl (s : Session) : KeepsWrite s s := ⟨rfl, rfl, rfl, rfl, rfl, rfl, rfl⟩

theorem Elsewhere.keepsWrite {st : Step} (h : Elsewhere s st) : KeepsWrite s st.1 :=
  ⟨h.settings, h.now, by rw [h.box], by rw [h.box], by rw [h.box], by rw [h.box], h.writes⟩

theorem KeepsWrite.trans (h : KeepsWrite s t) (k : KeepsWrite t u) : KeepsWrite s u where
  settings := k.settings.trans h.settings
  now := k.now.trans h.now
  text := k.text.trans h.text
  mode := k.mode.trans h.mode
  pending := k.pending.trans h.pending
  turn := k.turn.trans h.turn
  writes := k.writes.trans h.writes

theorem KeepsWrite.drops (h : KeepsWrite s t) (k : DropsWrite t u) : DropsWrite s u :=
  ⟨k.settings.trans h.settings, k.now.trans h.now, k.pending, k.writes⟩

theorem DropsWrite.keeps (h : DropsWrite s t) (k : KeepsWrite t u) : DropsWrite s u :=
  ⟨k.settings.trans h.settings, k.now.trans h.now, k.pending.trans h.pending,
    k.writes.trans h.writes⟩

theorem DropsWrite.matched (h : DropsWrite s t) : Matched t := .idle h.writes h.pending

theorem KeepsWrite.matched (h : KeepsWrite s t) (hs : Matched s) : Matched t := by
  cases hs with
  | idle writes pending => exact .idle (h.writes.trans writes) (h.pending.trans pending)
  | waiting due writes pending =>
    refine .waiting due ?_ ?_
    · rw [h.writes, writes, h.turn, h.mode, h.text]
    · rw [h.pending, pending, h.turn]

/-- What is left of a live write after a touch. -/
structure TouchesWrite (s : Session) (touch : Touch (Mode × String)) (t : Session) : Prop where
  settings : t.settings = s.settings
  now : t.now = s.now
  matched : Matched t
  waiting : t.waitingWrite? =
    touch.apply (s.now + s.settings.liveSearchDelay.toNat) s.waitingWrite?

theorem KeepsWrite.touches (h : KeepsWrite s t) (hs : Matched s) : TouchesWrite s .keep t :=
  ⟨h.settings, h.now, h.matched hs, by rw [waitingWrite?, h.writes]; rfl⟩

theorem DropsWrite.touches (h : DropsWrite s t) : TouchesWrite s .drop t :=
  ⟨h.settings, h.now, h.matched, by rw [waitingWrite?, h.writes]; rfl⟩

/-! ## Operations on the box -/

/-- Changes of the focus, of the completions and of the calls. -/
theorem with_keepsWrite (s : Session) (focused : Bool) (suggestions : Watched Suggestions)
    (calls : List InFlight) (called : Nat) :
    KeepsWrite s { s with box := { s.box with focused }, suggestions, calls, called } :=
  ⟨rfl, rfl, rfl, rfl, rfl, rfl, rfl⟩

theorem withSuggestions_keepsWrite (s : Session) (w : Watched Suggestions) :
    KeepsWrite s (s.withSuggestions w) :=
  s.with_keepsWrite ..

theorem focus_keepsWrite (s : Session) : KeepsWrite s s.focus := s.with_keepsWrite ..

theorem blur_keepsWrite (s : Session) : KeepsWrite s s.blur := s.with_keepsWrite ..

theorem finishEscape_keepsWrite (s : Session) (op : OperationId) :
    KeepsWrite s (s.finishEscape op).1 :=
  s.blur_keepsWrite

/-- Making a text the query and searching for it. -/
theorem searchFor_keepsWrite (s : Session) (text : String) (purpose : SearchPurpose) :
    KeepsWrite s ((s.dismiss.act (.setQuery text)).startSearch (some 1) purpose).1 :=
  (s.withSuggestions_keepsWrite _).trans
    ((act_elsewhere _ _).then (startSearch_elsewhere _ _ _)).keepsWrite

/-- After dropping the live write, a submit leaves the box as it is. -/
theorem submit_keepsWrite (s : Session) (op : OperationId) (byKey : Bool) :
    KeepsWrite s.cancelWrite (s.submit op byKey).1 := by
  unfold submit
  dsimp only
  split
  · exact .refl _
  · exact searchFor_keepsWrite _ _ _

theorem commit_keepsWrite (s : Session) (op : OperationId) (text : String) (byKey : Bool) :
    KeepsWrite { s.cancelWrite with box := { s.cancelWrite.box with text } }
      (s.commit op text byKey).1 :=
  searchFor_keepsWrite { s.cancelWrite with box := { s.cancelWrite.box with text } } text _

theorem clearBox_keepsWrite (s : Session) (op : OperationId) (byEscape : Bool) :
    KeepsWrite { s.cancelWrite with box := { s.cancelWrite.box with text := "" } }
      (s.clearBox op byEscape).1 := by
  have hfinished (t : Session) :
      KeepsWrite t (if byEscape then t.finishEscape op else t.finish op .done).1 := by
    split
    · exact finishEscape_keepsWrite t op
    · exact .refl t
  let emptied := { s.cancelWrite with box := { s.cancelWrite.box with text := "" } }
  have hdismiss : KeepsWrite emptied emptied.dismiss := withSuggestions_keepsWrite _ _
  unfold clearBox
  dsimp only
  split
  · exact hdismiss.trans ((clearSearch_elsewhere _).keepsWrite.trans (hfinished _))
  · exact hdismiss.trans ((patchNotes_elsewhere _ _).then (startNotes_elsewhere _ _ _)).keepsWrite
  · exact hdismiss.trans (hfinished _)

/-- The box can drop its live write as long as it is not due. -/
theorem Matched.cancelWrite (hs : Matched s) (hahead : ∀ w ∈ s.writes, s.now < w.due) :
    DropsWrite s s.cancelWrite := by
  cases hs with
  | idle writes pending =>
    refine ⟨?_, ?_, pending_cancelWrite s, ?_⟩ <;> simp [Session.cancelWrite, pending, writes]
  | waiting due writes pending =>
    have hdue : s.now < due := by simpa [writes] using hahead
    refine ⟨?_, ?_, pending_cancelWrite s, ?_⟩
    · simp [Session.cancelWrite, pending, abort]
    · simp [Session.cancelWrite, pending, abort]
    · simp [Session.cancelWrite, pending, abort, writes, hdue]

section drop

variable (h : DropsWrite s s.cancelWrite)
include h

theorem DropsWrite.submit (op : OperationId) (byKey : Bool) :
    DropsWrite s (s.submit op byKey).1 :=
  h.keeps (s.submit_keepsWrite op byKey)

theorem DropsWrite.commit (op : OperationId) (text : String) (byKey : Bool) :
    DropsWrite s (s.commit op text byKey).1 := by
  let retyped := { s.cancelWrite with box := { s.cancelWrite.box with text } }
  have hretyped : DropsWrite s retyped := ⟨h.settings, h.now, h.pending, h.writes⟩
  exact hretyped.keeps (s.commit_keepsWrite op text byKey)

theorem DropsWrite.clearBox (op : OperationId) (byEscape : Bool) :
    DropsWrite s (s.clearBox op byEscape).1 := by
  let emptied := { s.cancelWrite with box := { s.cancelWrite.box with text := "" } }
  have hemptied : DropsWrite s emptied := ⟨h.settings, h.now, h.pending, h.writes⟩
  exact hemptied.keeps (s.clearBox_keepsWrite op byEscape)

theorem DropsWrite.setMode (mode : Mode) : DropsWrite s (s.setMode mode) :=
  ⟨h.settings, h.now, h.pending, h.writes⟩

end drop

/-- A key that drops the live write: the box has the focus and takes Escape or Enter. -/
theorem Matched.press_drops (hs : Matched s) (hahead : ∀ w ∈ s.writes, s.now < w.due)
    (op : OperationId) {k : KeyPress} (hfocus : s.box.focused = true)
    (hkey : k.key = .escape ∨ k.key = .enter) : DropsWrite s (s.press op k).1 := by
  rcases hkey with hkey | hkey
  · rw [press_escape op hfocus hkey]
    exact (hs.cancelWrite hahead).clearBox op true
  · -- The list of completions has no part in the live write.
    have hlist (w : Watched Suggestions) :
        DropsWrite (s.withSuggestions w) (s.withSuggestions w).cancelWrite :=
      ((s.withSuggestions_keepsWrite w).matched hs).cancelWrite hahead
    rw [press_enter op hfocus hkey]
    split
    · exact (s.withSuggestions_keepsWrite _).drops ((hlist _).commit op _ true)
    split
    · exact (s.withSuggestions_keepsWrite _).drops ((hlist _).submit op true)
    · exact (hs.cancelWrite hahead).submit op true

theorem press_keepsWrite (s : Session) (op : OperationId) {k : KeyPress}
    (h : ¬ (s.box.focused = true ∧ (k.key = .escape ∨ k.key = .enter))) :
    KeepsWrite s (s.press op k).1 := by
  obtain ⟨r, hr | hr | ⟨key, -, -, hr⟩⟩ := press_other op h
  · rw [hr]
    exact s.focus_keepsWrite
  · rw [hr]
    exact .refl s
  · rw [hr]
    exact s.withSuggestions_keepsWrite _

/-- Typing drops the live write, and it schedules another one where typing has one. -/
theorem Matched.type (hs : Matched s) (hahead : ∀ w ∈ s.writes, s.now < w.due) (text : String) :
    TouchesWrite s (if s.box.mode = .standalone then .drop else .renew (s.box.mode, text))
      (s.type text) := by
  let listed := s.withSuggestions (s.suggestions.update (·.type s.settings s.now text))
  have hlisted : KeepsWrite s listed := s.withSuggestions_keepsWrite _
  have hcancel : DropsWrite s listed.cancelWrite :=
    hlisted.drops ((hlisted.matched hs).cancelWrite hahead)
  have hmode : listed.cancelWrite.box.mode = s.box.mode := mode_cancelWrite listed
  have htype : s.type text =
      ({ listed.cancelWrite with box := { listed.cancelWrite.box with text } }).scheduleWrite := rfl
  rw [htype, scheduleWrite]
  dsimp only
  rw [hmode]
  split
  · exact DropsWrite.touches ⟨hcancel.settings, hcancel.now, hcancel.pending, hcancel.writes⟩
  · refine ⟨hcancel.settings, hcancel.now, ?_, ?_⟩
    · exact .waiting _ (by rw [hcancel.writes]; rfl) rfl
    · simp [waitingWrite?, hcancel.writes, hcancel.settings, hcancel.now, Touch.apply]

/-! ## Events -/

/-- What an operation does to the live write that waits. -/
theorem Matched.perform (hs : Matched s) (hahead : ∀ w ∈ s.writes, s.now < w.due)
    (op : OperationId) (c : Command) :
    TouchesWrite s (s.writeTouch (.command op c)) (s.perform op c).1 := by
  have hcancel := hs.cancelWrite hahead
  cases c with
  | type text => exact hs.type hahead text
  | setMode mode => exact (hcancel.setMode mode).touches
  | submit => exact (hcancel.submit op false).touches
  | commit text => exact (hcancel.commit op text false).touches
  | clearBox => exact (hcancel.clearBox op false).touches
  | press k =>
    rw [writeTouch]
    split
    · rename_i hkey
      exact (hs.press_drops hahead op hkey.1 hkey.2).touches
    · rename_i hkey
      exact (s.press_keepsWrite op hkey).touches hs
  | focus => exact s.focus_keepsWrite.touches hs
  | blur => exact s.blur_keepsWrite.touches hs
  | focusSuggestions => exact (s.with_keepsWrite ..).touches hs
  | blurSuggestions => exact (s.with_keepsWrite ..).touches hs
  | typeSuggestion text => exact (s.withSuggestions_keepsWrite _).touches hs
  | dismissSuggestions => exact (s.withSuggestions_keepsWrite _).touches hs
  | chooseSuggestion index => exact (s.withSuggestions_keepsWrite _).touches hs
  | pressSuggestion key => exact (s.withSuggestions_keepsWrite _).touches hs
  | _ => exact (perform_elsewhere s op rfl).keepsWrite.touches hs

theorem reply_keepsWrite (s : Session) (id : Nat) (r : Reply) :
    KeepsWrite s (s.reply id r).1 := by
  rcases s.reply_elsewhere id r with h | ⟨t, fx, ht, h⟩ | ⟨_, _, _, _, -, -, h⟩
  · exact h.keepsWrite
  · rw [h]
    exact ht.keepsWrite.trans t.blur_keepsWrite
  · rw [h]
    exact s.with_keepsWrite ..

theorem ringFetch_keepsWrite (s : Session) : KeepsWrite s (s.ring .fetch).1 := by
  simp only [ring]
  split
  · exact .refl s
  split
  · exact s.with_keepsWrite ..
  · exact .refl s

/-- A live write starts in the session that waits for none any more. -/
theorem ring_of_startedWrite? {e : Event} {w : LiveWrite} (h : s.startedWrite? e = some w) :
    w ∈ s.writes ∧ w.due ≤ s.now ∧ s.step e =
      ({ s.dropWrite w.number with
        box := { s.box with pending := none } } : Session).liveWrite w := by
  unfold startedWrite? at h
  split at h
  · rename_i number
    obtain ⟨hfind, hclaim⟩ := Option.filter_eq_some_iff.1 h
    have hdue := List.find?_some hfind
    simp only [Bool.and_eq_true, beq_iff_eq, decide_eq_true_eq] at hdue
    refine ⟨List.mem_of_find?_eq_some hfind, hdue.2, ?_⟩
    have hturn : w.number = s.box.turn := by
      simpa [SearchBox.claim?] using hclaim
    simp [step, ring, hfind, wake_eq, SearchBox.claim?, hturn]
  · cases h

/-- A due live write starts, and none waits afterwards. -/
theorem Matched.ringWrite (hs : Matched s) {w : LiveWrite} (hw : w ∈ s.writes)
    (hdue : w.due ≤ s.now) :
    s.startedWrite? (.ring (.write w.number)) = some w ∧
      DropsWrite s (s.ring (.write w.number)).1 := by
  cases hs with
  | idle writes pending => simp [writes] at hw
  | waiting due writes pending =>
    rw [writes, List.mem_singleton] at hw
    have hstarted : s.startedWrite? (.ring (.write w.number)) = some w := by
      have hturn : w.number = s.box.turn := by rw [hw]
      simp [startedWrite?, writes, ← hw, hdue, SearchBox.claim?, hturn]
    refine ⟨hstarted, ?_⟩
    obtain ⟨-, -, hstep⟩ := ring_of_startedWrite? hstarted
    let claimed := { s.dropWrite w.number with box := { s.box with pending := none } }
    have hclaimed : DropsWrite s claimed :=
      ⟨rfl, rfl, rfl, by simp [claimed, dropWrite, writes, hw]⟩
    have hstep : (s.ring (.write w.number)).1 = (claimed.liveWrite w).1 := congrArg Prod.fst hstep
    rw [hstep]
    exact hclaimed.keeps (liveWrite_elsewhere claimed w).keepsWrite

/-- What becomes of the live writes of a box with a quiet time. -/
theorem liveWrites_lawful {delay : Nat} (hdelay : 0 < delay) :
    (liveWrites delay).Lawful fun s =>
      Matched s ∧ s.settings.liveSearchDelay.toNat = delay where
  delay_pos := hdelay
  clock time hs := by
    refine ⟨⟨?_, hs.2⟩, rfl⟩
    cases hs.1 with
    | idle writes pending => exact .idle writes pending
    | waiting due writes pending => exact .waiting due writes pending
  timer {s x} hs hx := by
    obtain ⟨w, hw, rfl⟩ := Option.map_eq_some_iff.1 hx
    refine ⟨.write w.number, List.mem_append_right _ (List.mem_map.2 ⟨w, ?_, rfl⟩)⟩
    exact List.mem_of_head? hw
  ring {s due t} hs hmem hdue := by
    rcases List.mem_append.1 hmem with hfetch | hwrite
    · obtain ⟨f, -, heq⟩ := Option.map_eq_some_iff.1 (Option.mem_toList.1 hfetch)
      cases heq
      have htouches := s.ringFetch_keepsWrite.touches hs.1
      exact ⟨⟨htouches.matched, by rw [htouches.settings, hs.2]⟩, .inr ⟨rfl, htouches.waiting⟩⟩
    · obtain ⟨w, hw, heq⟩ := List.mem_map.1 hwrite
      cases heq
      obtain ⟨hstarted, hdrops⟩ := hs.1.ringWrite hw hdue
      refine ⟨⟨hdrops.matched, by rw [hdrops.settings, hs.2]⟩, .inl ⟨(w.mode, w.text), ?_, ?_, ?_⟩⟩
      · exact hs.1.waitingWrite?_of_mem hw
      · simp [liveWrites, hstarted]
      · simp [liveWrites, waitingWrite?, hdrops.writes]
  touch_wait s ms := rfl
  step {s e} hs hahead htimed hwait := by
    have hahead : ∀ w ∈ s.writes, s.now < w.due := fun w hw =>
      hahead _ (hs.1.waitingWrite?_of_mem hw)
    cases e with
    | command op c =>
      have htouches := hs.1.perform hahead op c
      refine ⟨⟨htouches.matched, by rw [step, htouches.settings, hs.2]⟩, rfl, htouches.now, ?_⟩
      have hwaiting := htouches.waiting
      rw [hs.2] at hwaiting
      exact hwaiting
    | reply id r =>
      have htouches := (s.reply_keepsWrite id r).touches hs.1
      refine ⟨⟨htouches.matched, by rw [step, htouches.settings, hs.2]⟩, rfl, htouches.now, ?_⟩
      exact htouches.waiting
    | wait ms => cases hwait
    | pass ms => cases htimed
    | ring t => cases htimed

/-! ## Where a live write takes effect -/

theorem notes_liveWrite (s : Session) {w : LiveWrite} (h : w.mode ≠ .liveFilter) :
    (s.liveWrite w).1.notes = s.notes := by
  unfold liveWrite
  split
  · exact absurd ‹_› h
  · dsimp only
    split
    · rfl
    split
    · simp [clearSearch, act]
    · simp [startSearch, send, act]
  · rfl

theorem filter_search_liveWrite (s : Session) {w : LiveWrite} (h : w.mode ≠ .searchPage) :
    (s.liveWrite w).1.filter = s.filter ∧ (s.liveWrite w).1.search = s.search := by
  unfold liveWrite
  split
  · split <;> exact ⟨rfl, rfl⟩
  · exact absurd ‹_› h
  · exact ⟨rfl, rfl⟩

/-- At a moment a live write takes effect that has the text and the mode of the box, and that
changes only what typing changes there. -/
structure StartsInPlace (s : Session) (e : Event) (w : LiveWrite) : Prop where
  step_eq : s.step e =
    ({ s.dropWrite w.number with box := { s.box with pending := none } } : Session).liveWrite w
  text : w.text = s.box.text
  mode : w.mode = s.box.mode
  notes : s.box.mode ≠ .liveFilter → (s.step e).1.notes = s.notes
  filter : s.box.mode ≠ .searchPage → (s.step e).1.filter = s.filter
  search : s.box.mode ≠ .searchPage → (s.step e).1.search = s.search

theorem Matched.startsInPlace (hs : Matched s) {e : Event} {w : LiveWrite}
    (h : s.startedWrite? e = some w) : StartsInPlace s e w := by
  obtain ⟨hw, -, hstep⟩ := ring_of_startedWrite? h
  obtain ⟨htext, hmode⟩ := hs.text_mode_of_mem hw
  refine ⟨hstep, htext, hmode, fun hne => ?_, fun hne => ?_, fun hne => ?_⟩
  · rw [hstep, notes_liveWrite _ (hmode ▸ hne)]
    rfl
  · rw [hstep, (filter_search_liveWrite _ (hmode ▸ hne)).1]
    rfl
  · rw [hstep, (filter_search_liveWrite _ (hmode ▸ hne)).2]
    rfl

/-- The timer of a live write that does not start has no effect. -/
theorem ringWrite_of_startedWrite?_eq_none {number : Nat}
    (h : s.startedWrite? (.ring (.write number)) = none) :
    ∃ writes, s.step (.ring (.write number)) = ({ s with writes }, []) := by
  simp only [step, ring]
  cases hfind : s.writes.find? fun w => w.number == number && decide (w.due ≤ s.now) with
  | none => exact ⟨s.writes, rfl⟩
  | some w =>
    have hclaim : s.box.claim? w.number = none := by
      simpa [startedWrite?, hfind, Option.filter_some] using h
    dsimp only
    rw [wake_eq, hclaim]
    exact ⟨_, rfl⟩

/-- The live writes of a run in which timers ring on time start when the quiet time of a typed text
is over, one for each text that nothing has dropped until then. At most one of them waits at any
time, and it starts where it was typed. -/
theorem live_writes_after_quiet_time (settings : Settings) (mode : Mode) (filter : Watched Filter)
    (es : List Event) (htimed : ∀ e ∈ es, e.isTimed = true)
    (hdelay : 0 < settings.liveSearchDelay) :
    let s := startWith settings mode filter
    let delay := settings.liveSearchDelay.toNat
    ((s.moments es).filterMap fun m =>
        (m.1.startedWrite? m.2).map fun w => (m.1.now, w.mode, w.text)) =
      expected writeTouch delay s es ∧
    (s.steps es).1.writes.length ≤ 1 ∧
    ∀ m ∈ s.moments es, m.1.writes.length ≤ 1 ∧
      match m.1.startedWrite? m.2 with
      | some w => StartsInPlace m.1 m.2 w
      | none => ∀ number, m.2 = .ring (.write number) →
          ∃ writes, m.1.step m.2 = ({ m.1 with writes }, []) := by
  intro s delay
  have hlawful := liveWrites_lawful (UInt64.lt_iff_toNat_lt.1 hdelay)
  have hs : Matched s ∧ s.settings.liveSearchDelay.toNat = delay :=
    ⟨.start settings mode filter, rfl⟩
  obtain ⟨hfired, hmoments, hlast, -⟩ := hlawful.fired_eq hs (by rintro x ⟨⟩) htimed
  refine ⟨?_, hlast.1.length_writes, fun m hm => ?_⟩
  · have hnone : (liveWrites delay).waiting s = none := rfl
    rw [hnone] at hfired
    simpa [Deferred.fired, liveWrites, Option.map_map, Function.comp_def] using hfired
  · have hmatched : Matched m.1 := (hmoments m hm).1
    refine ⟨hmatched.length_writes, ?_⟩
    cases hstarted : m.1.startedWrite? m.2 with
    | some w => exact hmatched.startsInPlace hstarted
    | none =>
      rintro number hring
      rw [hring] at hstarted ⊢
      exact ringWrite_of_startedWrite?_eq_none hstarted

/-- Of three typed texts the second one takes effect: it outdates the first one, and a submit comes
before the third one is due. -/
theorem live_write_of_second_text :
    let es : List Event :=
      [.command 0 (.type "a"), .wait 100, .command 1 (.type "ab"), .wait 600,
        .command 2 (.type "abc"), .wait 400, .command 3 .submit, .wait 600]
    let s := startWith {} .searchPage ⟨{}, 0⟩
    (∀ e ∈ es, e.isTimed = true) ∧
    ((s.moments es).filterMap fun m =>
        (m.1.startedWrite? m.2).map fun w => (m.1.now, w.mode, w.text)) =
      [(600, .searchPage, "ab")] ∧ (s.steps es).1.writes.length ≤ 1 := by
  intro es s
  have htimed : ∀ e ∈ es, e.isTimed = true := by simp [es, Event.isTimed]
  obtain ⟨hstarted, hsingle, -⟩ := live_writes_after_quiet_time {} .searchPage ⟨{}, 0⟩ es htimed
    (by decide +kernel)
  have hdelay : ({} : Settings).liveSearchDelay.toNat = 500 := by decide +kernel
  have hexpected : expected writeTouch 500 s es = [(600, .searchPage, "ab")] := by decide +kernel
  rw [hdelay] at hstarted
  refine ⟨htimed, hstarted.trans hexpected, ?_⟩
  subst s
  exact hsingle

end NoteSearch.Session
