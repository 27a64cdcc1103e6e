-- SUMMARY: A run moment by moment: a wait is taken apart into the timers that ring in it.
import NoteSearch.Proofs.Session.Elsewhere

/-!
# Moments of a run

Several timers may ring in one wait, each at its own time. `moments` takes every wait apart into
its rings, so that what happens at a moment happens all at once: an operation, the arrival of a
reply, or the ring of a timer, each with the session that it meets. The clock of that session is the
time of the moment. Nothing happens in a run but at its moments (`effects_moments`), and what every
moment keeps a run keeps (`keep_moments`).
-/

namespace NoteSearch

/-- Whether an event may last for some time. -/
def Event.isWait : Event → Bool
  | .wait _ => true
  | _ => false

/-- Whether timers ring on time in an event: they ring while time passes, and only when they are
due. -/
def Event.isTimed : Event → Bool
  | .command .. => true
  | .reply .. => true
  | .wait _ => true
  | .pass _ => false
  | .ring _ => false

/-- The earliest timer is one of the timers, and none of them is due before it. -/
theorem Timer.of_earliest? {l : List (Nat × Timer)} {u : Nat × Timer}
    (h : Timer.earliest? l = some u) : u ∈ l ∧ ∀ v ∈ l, u.1 ≤ v.1 := by
  induction l generalizing u with
  | nil => cases h
  | cons t rest ih =>
    simp only [earliest?] at h
    cases hrest : earliest? rest with
    | none =>
      have hnil : rest = [] := by
        cases rest with
        | nil => rfl
        | cons v rest =>
          simp only [earliest?] at hrest
          split at hrest <;> cases hrest
      rw [hrest] at h
      cases h
      simp [hnil]
    | some v =>
      obtain ⟨hmem, hle⟩ := ih hrest
      rw [hrest] at h
      simp only [Option.some.injEq] at h
      split at h
      · cases h
        rename_i hlt
        refine ⟨List.mem_cons_of_mem _ hmem, List.forall_mem_cons.2 ⟨Nat.le_of_lt hlt, hle⟩⟩
      · cases h
        rename_i hge
        refine ⟨List.mem_cons_self, List.forall_mem_cons.2 ⟨Nat.le_refl _, fun w hw => ?_⟩⟩
        exact Nat.le_trans (Nat.not_lt.1 hge) (hle w hw)

theorem Timer.earliest?_eq_none {l : List (Nat × Timer)} (h : Timer.earliest? l = none) :
    l = [] := by
  cases l with
  | nil => rfl
  | cons t rest =>
    simp only [earliest?] at h
    split at h <;> cases h

namespace Session

variable {s t : Session}

/-! ## The rings in a wait -/

/-- The next timer that rings until `limit`, with the session that it meets. -/
def nextRing? (s : Session) (limit : Nat) : Option (Session × Timer) :=
  match Timer.earliest? s.timers with
  | none => none
  | some (due, t) => if due ≤ limit then some (s.setClock (max s.now due), t) else none

theorem ringNext?_eq (s : Session) (limit : Nat) :
    s.ringNext? limit = (s.nextRing? limit).map fun m => m.1.ring m.2 := by
  unfold ringNext? nextRing?
  cases Timer.earliest? s.timers with
  | none => rfl
  | some v =>
    dsimp only
    split <;> rfl

/-- The next timer that rings is due at that moment, and no timer is due before it. -/
theorem of_nextRing? {limit : Nat} {u : Session} {t : Timer}
    (h : s.nextRing? limit = some (u, t)) :
    ∃ due, (due, t) ∈ s.timers ∧ (∀ v ∈ s.timers, due ≤ v.1) ∧ due ≤ limit ∧
      u = s.setClock (max s.now due) := by
  unfold nextRing? at h
  split at h
  · cases h
  · rename_i due t' hearliest
    split at h
    · cases h
      obtain ⟨hmem, hle⟩ := Timer.of_earliest? hearliest
      exact ⟨due, hmem, hle, ‹_›, rfl⟩
    · cases h

/-- If none rings until `limit`, all timers are due later. -/
theorem of_nextRing?_eq_none {limit : Nat} (h : s.nextRing? limit = none) :
    ∀ v ∈ s.timers, limit < v.1 := by
  unfold nextRing? at h
  split at h
  · rename_i hearliest
    simp [Timer.earliest?_eq_none hearliest]
  · rename_i due t hearliest
    split at h
    · cases h
    · rename_i hlate
      intro v hv
      exact Nat.lt_of_lt_of_le (Nat.not_le.1 hlate) ((Timer.of_earliest? hearliest).2 v hv)

/-- The rings of at most `count` timers until `limit`. -/
def ringsUntil (limit : Nat) : Nat → Session → List (Session × Event)
  | 0, _ => []
  | count + 1, s =>
    match s.nextRing? limit with
    | none => []
    | some (u, t) => (u, .ring t) :: ringsUntil limit count (u.ring t).1

/-! ## Timers that have rung -/

theorem writes_wake (s : Session) (w : LiveWrite) :
    (s.wake w).1.writes = s.writes.filter fun v => v.number != w.number := by
  rw [wake_eq]
  split
  · rfl
  · exact (liveWrite_elsewhere _ w).writes

theorem suggestions_wake (s : Session) (w : LiveWrite) :
    (s.wake w).1.suggestions = s.suggestions := by
  rw [wake_eq]
  split
  · rfl
  · exact (liveWrite_elsewhere _ w).suggestions

/-- A timer that rings when it is due is gone afterwards, and the other timers stay. -/
theorem timers_ring {due : Nat} {t : Timer} (hmem : (due, t) ∈ s.timers) (hdue : due ≤ s.now) :
    (s.ring t).1.timers = s.timers.filter fun v => v.2 ≠ t := by
  rcases List.mem_append.1 hmem with hfetch | hwrite
  · obtain ⟨f, hf, heq⟩ := Option.map_eq_some_iff.1 (Option.mem_toList.1 hfetch)
    cases heq
    have hring : s.ring .fetch = s.sendFetch f := by simp [ring, hf, hdue]
    have hwrites : (s.writes.map fun w => (w.due, Timer.write w.number)).filter
        (fun v => v.2 ≠ .fetch) = s.writes.map fun w => (w.due, .write w.number) := by
      refine List.filter_eq_self.2 fun v hv => ?_
      obtain ⟨w, -, rfl⟩ := List.mem_map.1 hv
      simp
    rw [timers, timers, List.filter_append, hwrites, hring, hf]
    rfl
  · obtain ⟨w, hw, heq⟩ := List.mem_map.1 hwrite
    cases heq
    simp only [ring]
    split
    · rename_i hfind
      exact absurd (List.find?_eq_none.1 hfind w hw) (by simp [hdue])
    · rename_i v hfind
      have hv := List.find?_some hfind
      rw [Bool.and_eq_true, beq_iff_eq] at hv
      have hwrites : (s.writes.map fun w => (w.due, Timer.write w.number)).filter
          (fun x => x.2 ≠ .write w.number) =
          (s.writes.filter fun x => x.number != w.number).map
            fun w => (w.due, .write w.number) := by
        rw [List.filter_map]
        refine congrArg _ (List.filter_congr fun x _ => ?_)
        rw [Bool.eq_iff_iff]
        simp
      rw [timers, timers, writes_wake, suggestions_wake, hv.1, List.filter_append, hwrites]
      cases s.suggestions.value.scheduled <;> rfl

theorem length_timers_ring {due : Nat} {t : Timer} (hmem : (due, t) ∈ s.timers)
    (hdue : due ≤ s.now) : (s.ring t).1.timers.length < s.timers.length := by
  rw [timers_ring hmem hdue]
  exact List.length_filter_lt_length_iff_exists.2 ⟨_, hmem, by simp⟩

theorem now_ring (s : Session) (t : Timer) : (s.ring t).1.now = s.now := by
  cases t with
  | fetch =>
    simp only [ring]
    split
    · rfl
    · split <;> rfl
  | write number =>
    simp only [ring]
    split
    · rfl
    · rw [wake_eq]
      split
      · rfl
      · exact (liveWrite_elsewhere _ _).now

theorem now_ringUntil (limit count : Nat) (s : Session) :
    (ringUntil limit count s).1.now = limit := by
  induction count generalizing s with
  | zero => rfl
  | succ count ih =>
    simp only [ringUntil]
    cases s.ringNext? limit with
    | none => rfl
    | some st => exact ih st.1

/-! ## Moments -/

/-- The moments of an event. -/
def momentsOf (s : Session) : Event → List (Session × Event)
  | .wait ms => ringsUntil (s.now + ms) s.timers.length s
  | e => [(s, e)]

/-- The moments of a run, each with the session that it meets. -/
def moments (s : Session) : List Event → List (Session × Event)
  | [] => []
  | e :: es => s.momentsOf e ++ (s.step e).1.moments es

theorem momentsOf_eq_singleton {e : Event} (h : e.isWait = false) : s.momentsOf e = [(s, e)] := by
  cases e <;> first | rfl | cases h

/-- Whatever happens at once after a run is a moment. -/
theorem mem_moments_concat (s : Session) (es : List Event) {e : Event} (h : e.isWait = false) :
    ((s.steps es).1, e) ∈ s.moments (es ++ [e]) := by
  induction es generalizing s with
  | nil => simp [moments, steps, momentsOf_eq_singleton h]
  | cons first es ih => exact List.mem_append_right _ (ih _)

theorem effects_ringsUntil (limit count : Nat) (s : Session) :
    (ringUntil limit count s).2 =
      (ringsUntil limit count s).flatMap fun m => (m.1.step m.2).2 := by
  induction count generalizing s with
  | zero => rfl
  | succ count ih =>
    simp only [ringUntil, ringsUntil, ringNext?_eq]
    cases s.nextRing? limit with
    | none => rfl
    | some m => simp [Step.andThen, ih, step]

/-- Nothing happens in a run but at its moments. -/
theorem effects_moments (s : Session) (es : List Event) :
    (s.steps es).2 = (s.moments es).flatMap fun m => (m.1.step m.2).2 := by
  induction es generalizing s with
  | nil => rfl
  | cons e es ih =>
    have hfirst : (s.step e).2 = (s.momentsOf e).flatMap fun m => (m.1.step m.2).2 := by
      cases e with
      | wait ms => exact effects_ringsUntil _ _ s
      | _ => simp [momentsOf]
    simp only [steps, Step.andThen, moments, List.flatMap_append, ih, hfirst]

/-! ## What moments keep -/

section keep

/-! What the clock and every moment keep holds at all moments of a run and after it. -/

variable (Inv : Session → Prop)
  (hclock : ∀ {s : Session} (time : Nat), Inv s → Inv (s.setClock time))
  (hmoment : ∀ {s : Session} {e : Event}, e.isWait = false → Inv s → Inv (s.step e).1)
include hclock hmoment

theorem keep_ringsUntil (limit count : Nat) (hs : Inv s) :
    (∀ m ∈ ringsUntil limit count s, Inv m.1 ∧ m.2.isWait = false) ∧
      Inv (ringUntil limit count s).1 := by
  induction count generalizing s with
  | zero => exact ⟨by simp [ringsUntil], hclock limit hs⟩
  | succ count ih =>
    simp only [ringUntil, ringsUntil, ringNext?_eq]
    cases hnext : s.nextRing? limit with
    | none => exact ⟨by simp, hclock limit hs⟩
    | some m =>
      obtain ⟨due, -, -, -, hclocked⟩ := of_nextRing? hnext
      have hu : Inv m.1 := by
        rw [hclocked]
        exact hclock _ hs
      obtain ⟨hmoments, hafter⟩ := ih (hmoment (e := .ring m.2) rfl hu)
      exact ⟨List.forall_mem_cons.2 ⟨⟨hu, rfl⟩, hmoments⟩, hafter⟩

theorem keep_momentsOf (hs : Inv s) (e : Event) :
    (∀ m ∈ s.momentsOf e, Inv m.1 ∧ m.2.isWait = false) ∧ Inv (s.step e).1 := by
  cases he : e.isWait with
  | false =>
    rw [momentsOf_eq_singleton he]
    exact ⟨by simp [hs, he], hmoment he hs⟩
  | true =>
    cases e with
    | wait ms => exact keep_ringsUntil Inv hclock hmoment _ _ hs
    | _ => cases he

theorem keep_moments (hs : Inv s) (es : List Event) :
    (∀ m ∈ s.moments es, Inv m.1 ∧ m.2.isWait = false) ∧ Inv (s.steps es).1 := by
  induction es generalizing s with
  | nil => exact ⟨by simp [moments], hs⟩
  | cons e es ih =>
    obtain ⟨hfirst, hs'⟩ := keep_momentsOf Inv hclock hmoment hs e
    obtain ⟨hrest, hlast⟩ := ih hs'
    refine ⟨?_, hlast⟩
    simp only [moments, List.mem_append]
    rintro m (hm | hm)
    · exact hfirst m hm
    · exact hrest m hm

end keep

/-- No wait is among the moments of a run. -/
theorem isWait_of_mem_moments {es : List Event} {m : Session × Event} (hm : m ∈ s.moments es) :
    m.2.isWait = false :=
  ((keep_moments (fun _ => True) (fun _ _ => trivial) (fun _ _ => trivial) trivial es).1 m hm).2

end Session

end NoteSearch
