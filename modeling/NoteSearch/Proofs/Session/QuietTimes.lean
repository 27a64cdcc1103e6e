-- SUMMARY: What happens after a quiet time, exactly once, unless something touches it before.
import NoteSearch.Proofs.Session.Moments

/-!
# Quiet times

Live writes and fetches of completions happen in the same way: an event schedules them, they wait
for a quiet time, and other events drop or renew what waits. What happens in the end can be told
from the events alone: `expected` lists it with its times. `Deferred.fired_eq` is the proof that it
happens so, for anything that obeys the laws of `Deferred.Lawful`.
-/

namespace NoteSearch

/-- What an event does to something that waits. -/
inductive Touch (α : Type) where
  | keep
  | drop
  /-- Whatever waits is dropped, and `a` waits from now on. -/
  | renew (a : α)

/-- What waits after a touch, if something new is due at the time `due`. -/
def Touch.apply {α : Type} (due : Nat) (waiting : Option (Nat × α)) : Touch α → Option (Nat × α)
  | keep => waiting
  | drop => none
  | renew a => some (due, a)

namespace Session

variable {α : Type} (touch : Session → Event → Touch α)

/-- Whether the time `due` comes in a run before an event touches what waits for it. -/
def lasts (due : Nat) (s : Session) : List Event → Bool
  | [] => false
  | e :: es =>
    if due ≤ (s.step e).1.now then true
    else
      match touch s e with
      | .keep => lasts due (s.step e).1 es
      | _ => false

/-- What happens in a run after the quiet time `delay`, with the times: everything that an event
schedules and that no later event touches before it is due. -/
def expected (delay : Nat) (s : Session) : List Event → List (Nat × α)
  | [] => []
  | e :: es =>
    match touch s e with
    | .renew a =>
      let due := s.now + delay
      if lasts touch due (s.step e).1 es then (due, a) :: expected delay (s.step e).1 es
      else expected delay (s.step e).1 es
    | _ => expected delay (s.step e).1 es

end Session

open Session

/-- Something that happens after a quiet time. -/
structure Deferred (α : Type) where
  delay : Nat
  /-- What waits, with the time at which it is due. -/
  waiting : Session → Option (Nat × α)
  touch : Session → Event → Touch α
  /-- What happens at a moment. -/
  happens : Session → Event → Option α

namespace Deferred

variable {α : Type} (d : Deferred α) {s t : Session}

/-- What happens at some moments, with the times. -/
def fired (moments : List (Session × Event)) : List (Nat × α) :=
  moments.filterMap fun m => (d.happens m.1 m.2).map fun a => (m.1.now, a)

theorem fired_cons (m : Session × Event) (rest : List (Session × Event)) :
    d.fired (m :: rest) =
      ((d.happens m.1 m.2).map fun a => (m.1.now, a)).toList ++ d.fired rest := by
  unfold fired
  cases h : (d.happens m.1 m.2).map fun a => (m.1.now, a) <;> simp [h]

theorem fired_append (l k : List (Session × Event)) :
    d.fired (l ++ k) = d.fired l ++ d.fired k :=
  List.filterMap_append

/-- Nothing that waits is overdue. -/
def Punctual (s : Session) : Prop := ∀ x ∈ d.waiting s, s.now ≤ x.1

/-- What waits is due later. -/
def Ahead (s : Session) : Prop := ∀ x ∈ d.waiting s, s.now < x.1

/-- The laws of something that happens after a quiet time, in the sessions with the property
`Inv`: only its own timer makes it happen, and events touch it as `touch` says. -/
structure Lawful (Inv : Session → Prop) : Prop where
  delay_pos : 0 < d.delay
  clock : ∀ {s : Session} (time : Nat), Inv s →
    Inv (s.setClock time) ∧ d.waiting (s.setClock time) = d.waiting s
  /-- What waits has a timer. -/
  timer : ∀ {s : Session} {x : Nat × α}, Inv s → d.waiting s = some x →
    ∃ t, (x.1, t) ∈ s.timers
  ring : ∀ {s : Session} {due : Nat} {t : Timer}, Inv s → (due, t) ∈ s.timers → due ≤ s.now →
    Inv (s.ring t).1 ∧
    ((∃ a, d.waiting s = some (due, a) ∧ d.happens s (.ring t) = some a ∧
        d.waiting (s.ring t).1 = none) ∨
      d.happens s (.ring t) = none ∧ d.waiting (s.ring t).1 = d.waiting s)
  touch_wait : ∀ (s : Session) (ms : Nat), d.touch s (.wait ms) = .keep
  step : ∀ {s : Session} {e : Event}, Inv s → d.Ahead s → e.isTimed = true → e.isWait = false →
    Inv (s.step e).1 ∧ d.happens s e = none ∧ (s.step e).1.now = s.now ∧
    d.waiting (s.step e).1 = (d.touch s e).apply (s.now + d.delay) (d.waiting s)

variable {d} {Inv : Session → Prop} (h : d.Lawful Inv)
include h

/-! ## In a wait -/

/-- What is due in a wait happens on time, and what is due later goes on waiting. -/
theorem Lawful.ringsUntil (limit : Nat) {count : Nat} (hcount : s.timers.length ≤ count)
    (hs : Inv s) (hpunctual : d.Punctual s) :
    (∀ m ∈ ringsUntil limit count s, Inv m.1) ∧ Inv (ringUntil limit count s).1 ∧
    d.fired (Session.ringsUntil limit count s) =
      (d.waiting s).toList.filter (fun x => x.1 ≤ limit) ∧
    d.waiting (ringUntil limit count s).1 = (d.waiting s).filter fun x => limit < x.1 := by
  -- Once every timer is due later, so is what waits.
  have hlate {s : Session} (hs : Inv s) (hlate : ∀ v ∈ s.timers, limit < v.1) :
      (d.waiting s).toList.filter (fun x => x.1 ≤ limit) = [] ∧
        (d.waiting s).filter (fun x => limit < x.1) = d.waiting s := by
    cases hw : d.waiting s with
    | none => exact ⟨rfl, rfl⟩
    | some x =>
      obtain ⟨t, ht⟩ := h.timer hs hw
      have hlt : limit < x.1 := hlate _ ht
      simp [hlt]
  induction count generalizing s with
  | zero =>
    have hnil : s.timers = [] := List.length_eq_zero_iff.1 (Nat.le_zero.1 hcount)
    obtain ⟨hnone, hkept⟩ := hlate hs (by simp [hnil])
    obtain ⟨hclock, hwaiting⟩ := h.clock limit hs
    refine ⟨by simp [Session.ringsUntil], hclock, hnone.symm, hwaiting.trans hkept.symm⟩
  | succ count ih =>
    simp only [ringUntil, Session.ringsUntil, ringNext?_eq]
    cases hnext : s.nextRing? limit with
    | none =>
      obtain ⟨hnone, hkept⟩ := hlate hs (of_nextRing?_eq_none hnext)
      obtain ⟨hclock, hwaiting⟩ := h.clock limit hs
      exact ⟨by simp, hclock, hnone.symm, hwaiting.trans hkept.symm⟩
    | some m =>
      obtain ⟨u, t⟩ := m
      obtain ⟨due, hmem, hfirst, hdue, rfl⟩ := of_nextRing? hnext
      obtain ⟨hu, hwaiting⟩ := h.clock (max s.now due) hs
      have hnow : due ≤ (s.setClock (max s.now due)).now := Nat.le_max_right _ _
      obtain ⟨hring, hcases⟩ := h.ring hu hmem hnow
      let after := ((s.setClock (max s.now due)).ring t).1
      have hshorter : after.timers.length ≤ count :=
        Nat.le_of_lt_succ (Nat.lt_of_lt_of_le (length_timers_ring hmem hnow) hcount)
      have hclock : after.now = max s.now due := now_ring _ t
      -- What waits was not due before this timer, so it is not overdue afterwards.
      have hafter : d.waiting after = none ∨ d.waiting after = d.waiting s → d.Punctual after := by
        rintro (hnone | hsame) x hx
        · rw [hnone] at hx
          cases hx
        · rw [hsame] at hx
          obtain ⟨t', ht'⟩ := h.timer hs hx
          rw [hclock]
          exact Nat.max_le.2 ⟨hpunctual x hx, hfirst _ ht'⟩
      rcases hcases with ⟨a, ha, hhappens, hgone⟩ | ⟨hsilent, hsame⟩
      · obtain ⟨hmoments, hlast, hfired, hwaits⟩ := ih hshorter hring (hafter (.inl hgone))
        rw [hgone] at hfired hwaits
        rw [hwaiting] at ha
        have htime : max s.now due = due := Nat.max_eq_right (hpunctual _ ha)
        refine ⟨List.forall_mem_cons.2 ⟨hu, hmoments⟩, hlast, ?_, ?_⟩
        · rw [fired_cons, hfired, hhappens, ha]
          simp [hdue, htime, setClock]
        · refine hwaits.trans ?_
          simp [ha, Option.filter_some, hdue]
      · rw [hwaiting] at hsame
        obtain ⟨hmoments, hlast, hfired, hwaits⟩ := ih hshorter hring (hafter (.inr hsame))
        refine ⟨List.forall_mem_cons.2 ⟨hu, hmoments⟩, hlast, ?_, ?_⟩
        · rw [fired_cons, hfired, hsilent, hsame]
          rfl
        · exact hwaits.trans (congrArg _ hsame)

/-! ## In a run -/

/-- A wait makes everything happen that waits for a time in it. -/
theorem Lawful.fired_wait (hs : Inv s) (hahead : d.Ahead s) (ms : Nat) (es : List Event) :
    d.fired (s.momentsOf (.wait ms)) ++ (d.waiting (s.step (.wait ms)).1).toList.filter
        (fun x => lasts d.touch x.1 (s.step (.wait ms)).1 es) =
      (d.waiting s).toList.filter (fun x => lasts d.touch x.1 s (.wait ms :: es)) ∧
    (∀ m ∈ s.momentsOf (.wait ms), Inv m.1) ∧ Inv (s.step (.wait ms)).1 ∧
    d.Ahead (s.step (.wait ms)).1 := by
  have hnow : (s.step (.wait ms)).1.now = s.now + ms := now_ringUntil ..
  obtain ⟨hmoments, hlast, hfired, hwaits⟩ := h.ringsUntil (s.now + ms) (Nat.le_refl _) hs
    fun x hx => Nat.le_of_lt (hahead x hx)
  have hwaits : d.waiting (s.step (.wait ms)).1 =
      (d.waiting s).filter fun x => s.now + ms < x.1 := hwaits
  refine ⟨?_, hmoments, hlast, fun x hx => ?_⟩
  · rw [momentsOf, hfired, hwaits]
    cases d.waiting s with
    | none => rfl
    | some x =>
      by_cases hdue : x.1 ≤ s.now + ms
      · simp [lasts, hnow, hdue, Nat.not_lt.2 hdue, Option.filter_some]
      · have hlt : s.now + ms < x.1 := Nat.not_le.1 hdue
        simp [lasts, hnow, hdue, hlt, Option.filter_some, h.touch_wait, List.filter_cons]
  · rw [hwaits, Option.mem_def, Option.filter_eq_some_iff] at hx
    rw [hnow]
    exact of_decide_eq_true hx.2

/-- What waits is touched by any other event, and that is all. -/
theorem Lawful.fired_step (hs : Inv s) (hahead : d.Ahead s) {e : Event}
    (htimed : e.isTimed = true) (hwait : e.isWait = false) (es : List Event) :
    d.fired (s.momentsOf e) = [] ∧
    (d.waiting (s.step e).1).toList.filter (fun x => lasts d.touch x.1 (s.step e).1 es) ++
        expected d.touch d.delay (s.step e).1 es =
      (d.waiting s).toList.filter (fun x => lasts d.touch x.1 s (e :: es)) ++
        expected d.touch d.delay s (e :: es) ∧
    (∀ m ∈ s.momentsOf e, Inv m.1) ∧ Inv (s.step e).1 ∧ d.Ahead (s.step e).1 := by
  obtain ⟨hinv, hsilent, hnow, hwaits⟩ := h.step hs hahead htimed hwait
  rw [momentsOf_eq_singleton hwait]
  refine ⟨by simp [fired, hsilent], ?_, by simpa using hs, hinv, fun x hx => ?_⟩
  · have hlasts (x) (hx : x ∈ d.waiting s) : ¬ x.1 ≤ (s.step e).1.now := by
      rw [hnow]
      exact Nat.not_le.2 (hahead x hx)
    cases htouch : d.touch s e <;> rw [hwaits, htouch, Touch.apply] <;> cases hx : d.waiting s
    case keep.some x => simp [expected, lasts, htouch, hlasts x hx, List.filter_cons]
    case drop.some x => simp [expected, lasts, htouch, hlasts x hx]
    case renew.some a x =>
      simp only [expected, lasts, htouch, hlasts x hx, Option.toList, List.filter_cons]
      split <;> simp
    case renew.none a =>
      simp only [expected, htouch, Option.toList, List.filter_cons]
      split <;> rfl
    all_goals simp [expected, htouch]
  · rw [hnow]
    rw [hwaits] at hx
    cases htouch : d.touch s e with
    | keep =>
      rw [htouch] at hx
      exact hahead x hx
    | drop =>
      rw [htouch] at hx
      cases hx
    | renew a =>
      rw [htouch] at hx
      cases hx
      exact Nat.lt_add_of_pos_right h.delay_pos

/-- What happens in a run is what was waiting at its beginning, as far as it lasts, and what the
events schedule. -/
theorem Lawful.fired_eq (hs : Inv s) (hahead : d.Ahead s) {es : List Event}
    (htimed : ∀ e ∈ es, e.isTimed = true) :
    d.fired (s.moments es) =
      (d.waiting s).toList.filter (fun x => lasts d.touch x.1 s es) ++
        expected d.touch d.delay s es ∧
    (∀ m ∈ s.moments es, Inv m.1) ∧ Inv (s.steps es).1 ∧ d.Ahead (s.steps es).1 := by
  induction es generalizing s with
  | nil => exact ⟨by simp [fired, moments, lasts, expected], by simp [moments], hs, hahead⟩
  | cons e es ih =>
    obtain ⟨he, hes⟩ := List.forall_mem_cons.1 htimed
    simp only [moments, fired_append]
    cases hwait : e.isWait with
    | true =>
      obtain ⟨ms, rfl⟩ : ∃ ms, e = .wait ms := by
        cases e <;> first | exact ⟨_, rfl⟩ | cases hwait
      obtain ⟨hfired, hmoments, hafter, hahead'⟩ := h.fired_wait hs hahead ms es
      obtain ⟨hrest, hmoments', hlast⟩ := ih hafter hahead' hes
      refine ⟨?_, List.forall_mem_append.2 ⟨hmoments, hmoments'⟩, hlast⟩
      rw [hrest, ← List.append_assoc, hfired]
      simp [expected, h.touch_wait]
    | false =>
      obtain ⟨hsilent, hfired, hmoments, hafter, hahead'⟩ := h.fired_step hs hahead he hwait es
      obtain ⟨hrest, hmoments', hlast⟩ := ih hafter hahead' hes
      refine ⟨?_, List.forall_mem_append.2 ⟨hmoments, hmoments'⟩, hlast⟩
      rw [hsilent, hrest, List.nil_append, hfired]

end Deferred

end NoteSearch
