-- SUMMARY: The call that a pane waits for is overtaken by the next call of the same pane.
import NoteSearch.Proofs.Session.LatestAnswer

/-!
# Overtaken calls

Calls are numbered in the order in which they are made (`Recorded`). So the latest ticket of a pane
can be read off the history: an unanswered call of the pane has it exactly if no call of the pane
has been made since (`Recorded.exists_ticket`).
-/

namespace NoteSearch

/-- The number of a call that is made. -/
def Effect.callId? : Effect → Option Nat
  | .call id _ => some id
  | _ => none

/-- Whether a pane makes a call or is emptied, so that it does not wait for its earlier calls any
more. -/
def Effect.renews (p : Pane) : Effect → Bool
  | .call _ c => p.asks c
  | .cleared => p = .search
  | _ => false

/-- Where calls are numbered in order, a number does not come twice. -/
theorem not_mem_of_decreasing {newer older : List Effect}
    (h : ((newer ++ older).filterMap Effect.callId?).Pairwise fun i j => j < i) {id : Nat}
    {c d : Call} (hnew : .call id c ∈ newer) : .call id d ∉ older := by
  intro hold
  rw [List.filterMap_append, List.pairwise_append] at h
  obtain ⟨-, -, hlt⟩ := h
  have hboth := hlt id (List.mem_filterMap.2 ⟨_, hnew, rfl⟩) id
    (List.mem_filterMap.2 ⟨_, hold, rfl⟩)
  exact Nat.lt_irrefl id hboth

namespace Pane

/-- Whether the latest call of a pane has the number `id`, by the effects so far. -/
def awaits (p : Pane) (past : List Effect) (id : Nat) : Bool :=
  (p.latest past).map (·.1) == some id

variable {p : Pane} {newer older : List Effect} {id : Nat} {c : Call}

/-- What has not renewed the pane does not matter to its latest call. -/
theorem latest_append (h : ∀ x ∈ newer, x.renews p = false) (older : List Effect) :
    p.latest (newer ++ older) = p.latest older := by
  induction newer with
  | nil => rfl
  | cons x newer ih =>
    have hx := h x List.mem_cons_self
    have hrest := ih fun y hy => h y (List.mem_cons_of_mem _ hy)
    cases x <;> simp_all [latest, Effect.renews]

/-- Apart from the results page, a pane is renewed by its calls alone. -/
theorem not_renewed_iff (hp : p ≠ .search) :
    (∀ x ∈ newer, x.renews p = false) ↔ ∀ i c, p.asks c = true → .call i c ∉ newer := by
  constructor
  · intro h i c hasks hmem
    have hquiet : p.asks c = false := h _ hmem
    rw [hasks] at hquiet
    cases hquiet
  · intro h x hx
    cases x with
    | call i c => exact Bool.eq_false_iff.2 fun hasks => h i c hasks hx
    | cleared => exact decide_eq_false hp
    | _ => rfl

/-- After the pane has been renewed, its latest call is one made since. -/
theorem call_mem_of_latest_append (h : ∃ x ∈ newer, x.renews p = true)
    (hlatest : p.latest (newer ++ older) = some (id, c)) : .call id c ∈ newer := by
  induction newer with
  | nil => simp at h
  | cons x newer ih =>
    have hrest (hx : x.renews p = false) : ∃ x ∈ newer, x.renews p = true := by
      obtain ⟨y, hy, hrenews⟩ := h
      rcases List.mem_cons.1 hy with rfl | hy
      · rw [hx] at hrenews
        cases hrenews
      · exact ⟨y, hy, hrenews⟩
    cases x with
    | call i d =>
      simp only [List.cons_append, latest] at hlatest
      split at hlatest
      · cases hlatest
        exact List.mem_cons_self
      · exact List.mem_cons_of_mem _ (ih (hrest (by simp [Effect.renews, *])) hlatest)
    | cleared =>
      simp only [List.cons_append, latest] at hlatest
      split at hlatest
      · cases hlatest
      · exact List.mem_cons_of_mem _ (ih (hrest (by simp [Effect.renews, *])) hlatest)
    | answered i r => exact List.mem_cons_of_mem _ (ih (hrest rfl) hlatest)
    | finished op r => exact List.mem_cons_of_mem _ (ih (hrest rfl) hlatest)

/-- Where calls are numbered in order, a call is the latest one of its pane as long as nothing
renews the pane. -/
theorem latest_eq_iff (hasks : p.asks c = true)
    (h : ((newer ++ .call id c :: older).filterMap Effect.callId?).Pairwise fun i j => j < i) :
    p.latest (newer ++ .call id c :: older) = some (id, c) ↔ ∀ x ∈ newer, x.renews p = false := by
  constructor
  · intro hlatest x hx
    refine Bool.eq_false_iff.2 fun hrenews => ?_
    have hagain := call_mem_of_latest_append ⟨x, hx, hrenews⟩ hlatest
    exact not_mem_of_decreasing h hagain List.mem_cons_self
  · intro hnone
    rw [latest_append hnone]
    simp [latest, hasks]

end Pane

/-- The results page is renewed by searches and when it is emptied. -/
theorem Effect.renews_search (x : Effect) : x.renews .search = x.renewsSearch := by
  cases x with
  | call id c => cases c <;> rfl
  | _ => rfl

namespace Session

variable {s t : Session} {fx past : List Effect} {p : Pane}

/-- The history tells what every pane waits for, and its calls are numbered in the order in which
they have been made. -/
structure Recorded (s : Session) (past : List Effect) : Prop where
  waiting : ∀ p, Waiting p s past
  decreasing : (past.filterMap Effect.callId?).Pairwise fun i j => j < i

theorem Recorded.accounted (h : Recorded s past) : Accounted s past := (h.waiting .notes).accounted

theorem Recorded.start (settings : Settings) (mode : Mode) (filter : Watched Filter) :
    Recorded (startWith settings mode filter) [] :=
  ⟨fun p => .start p settings mode filter, .nil⟩

theorem Recorded.callsMove (h : Recorded s past) (ht : ∀ p, Waiting p t (fx.reverse ++ past))
    (m : CallsMove s fx t) : Recorded t (fx.reverse ++ past) := by
  refine ⟨ht, ?_⟩
  cases m with
  | same hcalls hcalled hfx => rcases hfx with rfl | rfl | ⟨op, r, rfl⟩ <;> exact h.decreasing
  | dropped keep hcalls hcalled hkeep => exact h.decreasing
  | sent q hcalls hcalled =>
    refine List.pairwise_cons.2 ⟨fun id hid => ?_, h.decreasing⟩
    obtain ⟨x, hx, hcall⟩ := List.mem_filterMap.1 hid
    unfold Effect.callId? at hcall
    split at hcall
    · cases hcall
      exact h.accounted.lt_called _ _ hx
    · cases hcall
  | answered r hq hcalls hcalled => exact h.decreasing

theorem Recorded.steps (h : Recorded s past) (es : List Event) :
    Recorded (s.steps es).1 ((s.steps es).2.reverse ++ past) :=
  keep_steps Recorded
    (fun m h => h.callsMove (fun p => (h.waiting p).move m) (m.calls h.accounted.tidy))
    (fun op saved h => h.callsMove (fun p => (h.waiting p).execute op saved)
      (execute_calls _ op saved))
    (fun m h => h.callsMove (fun p => (h.waiting p).taken m) m.calls) h es

theorem Recorded.step (h : Recorded s past) (e : Event) :
    Recorded (s.step e).1 ((s.step e).2.reverse ++ past) := by
  simpa using h.steps [e]

/-- An unanswered call of a pane has a ticket, which is the latest one exactly if nothing has
renewed the pane since the call. -/
theorem Recorded.exists_ticket (h : Recorded s past) {newer older : List Effect} {id : Nat}
    {c : Call} (hpast : past = newer ++ .call id c :: older) (hasks : p.asks c = true)
    (hnone : ∀ r, .answered id r ∉ past) :
    ∃ q ticket, s.pending? id = some q ∧ q.call = c ∧ p.ticket? q = some ticket ∧
      (ticket = p.issued s ↔ ∀ x ∈ newer, x.renews p = false) := by
  obtain ⟨d, hd, rfl, rfl⟩ : ∃ d ∈ s.calls, d.id = id ∧ d.pending.call = c := by
    have hmade : .call id c ∈ past := by simp [hpast]
    have hkept := h.accounted.kept id c hmade (Pane.isFetch_of_asks hasks)
    exact hkept.resolve_right (not_exists.2 hnone)
  obtain ⟨ticket, hticket⟩ := Option.isSome_iff_exists.1 (p.asks_call d.pending ▸ hasks)
  have hlatest := (h.waiting p).latest d hd ticket hticket
  have hdecreasing := h.decreasing
  rw [hpast] at hlatest hdecreasing
  exact ⟨d.pending, ticket, h.accounted.pending?_of_mem hd, rfl, hticket,
    hlatest.trans (Pane.latest_eq_iff hasks hdecreasing)⟩

/-- A pane awaits the reply to the call with the latest ticket. -/
theorem Waiting.awaits_iff (h : Waiting p s past) {id ticket : Nat} {q : Pending}
    (hid : s.pending? id = some q) (hticket : p.ticket? q = some ticket) :
    p.awaits past id = true ↔ ticket = p.issued s := by
  have hmem := mem_of_pending? hid
  rw [h.latest _ hmem ticket hticket]
  constructor
  · intro hawaits
    obtain ⟨⟨i, c⟩, hlatest, hi⟩ := Option.map_eq_some_iff.1 (beq_iff_eq.1 hawaits)
    obtain rfl : i = id := hi
    obtain ⟨hasks, hcall⟩ := Pane.of_latest hlatest
    rw [hlatest, h.accounted.call_eq hmem hcall (Pane.isFetch_of_asks hasks)]
  · intro hlatest
    simp [Pane.awaits, hlatest]

end Session

end NoteSearch
