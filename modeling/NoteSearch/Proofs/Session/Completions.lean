-- SUMMARY: The completions that show are those for the latest typed text; late answers are lost.
import Mathlib.Data.List.Induction
import NoteSearch.Proofs.Session.CompletionChanges

/-!
# Completions in a run

Time, timers and replies touch no fetch (`Fetching`); so from one touch to the next one the fetches
go out, are answered and show what they bring. A touch ends all this at once: no fetch is left that
could be answered. What shows is therefore what was asked for last (`completions_show_latest_text`).
-/

namespace NoteSearch.Session

open Suggestions (typeTouch)

variable {s t : Session} {st : Step} {a : Touch String} {past : List Effect}

/-! ## Steps that touch no fetch -/

/-- A step after which all fetches go on: the one that waits may have been sent, and those that have
been sent may have been answered. -/
structure Fetching (s : Session) (st : Step) : Prop where
  settings : st.1.settings = s.settings
  same : st.1.suggestions.value.generation = s.suggestions.value.generation
  waiting : ∀ x ∈ st.1.suggestions.value.waiting?, x ∈ s.suggestions.value.waiting?
  items : st.1.suggestions.value.items = s.suggestions.value.items ∨
    st.1.suggestions.value.items = [] ∨ ∃ id r, .answered id r ∈ st.2
  listed : s.suggestions.value.Listed → st.1.suggestions.value.Listed
  fetches : ∀ c ∈ st.1.calls, c.pending.call.isFetch = true → c ∈ s.calls ∨
    c.pending.isStaleFetch s.suggestions.value.generation = false ∧
    .call c.id c.pending.call ∈ st.2 ∧ ∃ x ∈ s.suggestions.value.waiting?,
      c.pending.call = .suggestions x.2 s.settings.suggestionLimit
  keeps : ∀ c ∈ s.calls, c.pending.call.isFetch = true →
    c.pending.isStaleFetch s.suggestions.value.generation = false →
    c ∈ st.1.calls ∨ ∃ r, .answered c.id r ∈ st.2
  sent : ∀ id call, .call id call ∈ st.2 → call.isFetch = true →
    (∃ c ∈ st.1.calls, c.id = id ∧ c.pending.call = call ∧
      c.pending.isStaleFetch s.suggestions.value.generation = false) ∨
    ∃ r, .answered id r ∈ st.2

theorem TouchesFetch.fetching (h : TouchesFetch s .keep st) : Fetching s st where
  settings := h.settings
  same := h.same rfl
  waiting := by rw [h.waiting]; exact fun _ hx => hx
  items := h.items
  listed := h.listed
  fetches := fun c hc hfetch => .inl (h.fetches c hc hfetch)
  keeps := h.keeps rfl
  sent := fun id call hcall hfetch => by
    rw [h.silent id call hcall] at hfetch
    cases hfetch

theorem Fetching.andThen (h : Fetching s st) {next : Session → Step}
    (k : Fetching st.1 (next st.1)) : Fetching s (st.andThen next) := by
  refine ⟨k.settings.trans h.settings, k.same.trans h.same,
    fun x hx => h.waiting x (k.waiting x hx), ?_, k.listed ∘ h.listed, ?_, ?_, ?_⟩
  · rcases k.items with hk | hk | ⟨id, r, hk⟩
    · rcases h.items with hh | hh | ⟨id, r, hh⟩
      · exact .inl (hk.trans hh)
      · exact .inr (.inl (hk.trans hh))
      · exact .inr (.inr ⟨id, r, List.mem_append_left _ hh⟩)
    · exact .inr (.inl hk)
    · exact .inr (.inr ⟨id, r, List.mem_append_right _ hk⟩)
  · intro c hc hfetch
    rcases k.fetches c hc hfetch with hold | ⟨hfresh, hsent, x, hx, hcall⟩
    · exact (h.fetches c hold hfetch).imp_right fun ⟨hfresh, hsent, hx⟩ =>
        ⟨hfresh, List.mem_append_left _ hsent, hx⟩
    · rw [h.same] at hfresh
      rw [h.settings] at hcall
      exact .inr ⟨hfresh, List.mem_append_right _ hsent, x, h.waiting x hx, hcall⟩
  · intro c hc hfetch hfresh
    rcases h.keeps c hc hfetch hfresh with hkept | ⟨r, hr⟩
    · rw [← h.same] at hfresh
      exact (k.keeps c hkept hfetch hfresh).imp_right fun ⟨r, hr⟩ =>
        ⟨r, List.mem_append_right _ hr⟩
    · exact .inr ⟨r, List.mem_append_left _ hr⟩
  · intro id call hcall hfetch
    rcases List.mem_append.1 hcall with hfirst | hsecond
    · rcases h.sent id call hfirst hfetch with ⟨c, hc, rfl, rfl, hfresh⟩ | ⟨r, hr⟩
      · have hlater := hfresh
        rw [← h.same] at hlater
        rcases k.keeps c hc hfetch hlater with hkept | ⟨r, hr⟩
        · exact .inl ⟨c, hkept, rfl, rfl, hfresh⟩
        · exact .inr ⟨r, List.mem_append_right _ hr⟩
      · exact .inr ⟨r, List.mem_append_left _ hr⟩
    · rcases k.sent id call hsecond hfetch with ⟨c, hc, hid, hcall, hfresh⟩ | ⟨r, hr⟩
      · rw [h.same] at hfresh
        exact .inl ⟨c, hc, hid, hcall, hfresh⟩
      · exact .inr ⟨r, List.mem_append_right _ hr⟩

/-- A change without effects comes before a step. -/
theorem Fetching.then (h : Fetching s (t, [])) (k : Fetching t st) : Fetching s st :=
  @Fetching.andThen s (t, []) h (fun _ => st) k

theorem setClock_fetching (s : Session) (time : Nat) : Fetching s (s.setClock time, []) :=
  ⟨rfl, rfl, fun _ hx => hx, .inl rfl, id, fun _ hc _ => .inl hc, fun _ hc _ _ => .inl hc, by simp⟩

/-- The fetch that waits is sent. -/
theorem sendFetch_fetching {f : ScheduledFetch} (h : s.suggestions.value.scheduled = some f) :
    Fetching s (s.sendFetch f) := by
  let c : InFlight := ⟨s.called,
    .suggestions s.suggestions.value.generation f.text s.settings.suggestionLimit⟩
  have hfresh : c.pending.isStaleFetch s.suggestions.value.generation = false := by
    simp [c, Pending.isStaleFetch]
  refine ⟨rfl, rfl, fun x hx => absurd hx (Option.not_mem_none x), .inl rfl,
    fun hs => ⟨hs.visible, hs.focused, hs.selected⟩, ?_,
    fun c hc _ _ => .inl (List.mem_append_left _ hc), ?_⟩
  · intro d hd _
    rcases List.mem_append.1 hd with hold | hnew
    · exact .inl hold
    · obtain rfl : d = c := List.mem_singleton.1 hnew
      refine .inr ⟨hfresh, List.mem_singleton.2 rfl, (f.due, f.text), ?_, rfl⟩
      simp [Suggestions.waiting?, h]
  · intro id call hcall _
    have hsent : Effect.call id call = .call c.id c.pending.call := List.mem_singleton.1 hcall
    cases hsent
    exact .inl ⟨c, List.mem_append_right _ (List.mem_singleton.2 rfl), rfl, rfl, hfresh⟩

theorem ring_fetching (s : Session) (t : Timer) : Fetching s (s.ring t) := by
  cases t with
  | write number => exact (ringWrite_touches s number).fetching
  | fetch =>
    simp only [ring]
    split
    · exact (Elsewhere.refl s).touchesFetch.fetching
    · split
      · exact sendFetch_fetching ‹_›
      · exact (Elsewhere.refl s).touchesFetch.fetching

theorem ringUntil_fetching (limit count : Nat) (s : Session) :
    Fetching s (ringUntil limit count s) := by
  induction count generalizing s with
  | zero => exact setClock_fetching s limit
  | succ count ih =>
    simp only [ringUntil, ringNext?_eq]
    cases hnext : s.nextRing? limit with
    | none => exact setClock_fetching s limit
    | some m =>
      obtain ⟨due, -, -, -, hclocked⟩ := of_nextRing? hnext
      have hclock : Fetching s (m.1, []) := hclocked ▸ setClock_fetching s _
      exact (hclock.then (ring_fetching m.1 m.2)).andThen (ih _)

/-! ## Events -/

/-- Only an operation touches a fetch. -/
theorem step_touches {e : Event} (h : (s.fetchTouch e).isKeep = false) :
    TouchesFetch s (s.fetchTouch e) (s.step e) := by
  cases e with
  | command op c => exact perform_touches s op c
  | _ => cases h

theorem step_fetching {e : Event} (h : (s.fetchTouch e).isKeep = true) :
    Fetching s (s.step e) := by
  cases e with
  | command op c =>
    have htouches := perform_touches s op c
    cases htouch : s.fetchTouch (.command op c) <;> rw [htouch] at h htouches
    · exact htouches.fetching
    all_goals cases h
  | reply id r => exact (reply_touches s id r).fetching
  | wait ms => exact ringUntil_fetching _ _ s
  | pass ms => exact setClock_fetching s _
  | ring t => exact ring_fetching s t

/-! ## Fetches in flight -/

/-- No fetch in flight is of an earlier generation. -/
def Current (s : Session) : Prop :=
  ∀ c ∈ s.calls, c.pending.isStaleFetch s.suggestions.value.generation = false

/-- A touch leaves no fetch in flight. -/
theorem TouchesFetch.isFetch_eq_false (h : TouchesFetch s a st) (ha : a.isKeep = false)
    (hs : Current s) : ∀ c ∈ st.1.calls, c.pending.call.isFetch = false := by
  intro c hc
  cases hfetch : c.pending.call.isFetch with
  | false => rfl
  | true =>
    have hbefore := hs c (h.fetches c hc hfetch)
    have hafter := h.current ha c hc
    have hlater := h.later ha
    cases hp : c.pending with
    | suggestions generation text limit =>
      simp only [hp, Pending.isStaleFetch, bne_eq_false_iff_eq] at hbefore hafter
      omega
    | _ =>
      rw [hp] at hfetch
      cases hfetch

theorem Fetching.current (h : Fetching s st) (hs : Current s) : Current st.1 := by
  intro c hc
  rw [h.same]
  cases hfetch : c.pending.call.isFetch with
  | false => exact isStaleFetch_eq_false hfetch _
  | true =>
    rcases h.fetches c hc hfetch with hold | ⟨hfresh, -⟩
    · exact hs c hold
    · exact hfresh

theorem Current.step (hs : Current s) (e : Event) : Current (s.step e).1 := by
  cases hkeep : (s.fetchTouch e).isKeep with
  | true => exact (step_fetching hkeep).current hs
  | false => exact (step_touches hkeep).current hkeep

theorem listed_step (hs : s.suggestions.value.Listed) (e : Event) :
    (s.step e).1.suggestions.value.Listed := by
  cases hkeep : (s.fetchTouch e).isKeep with
  | true => exact (step_fetching hkeep).listed hs
  | false => exact (step_touches hkeep).listed hs

/-- The list is in order in every run, and no fetch in flight is of an earlier generation. -/
theorem listed_current_steps (hlisted : s.suggestions.value.Listed) (hcurrent : Current s)
    (es : List Event) :
    (s.steps es).1.suggestions.value.Listed ∧ Current (s.steps es).1 := by
  induction es generalizing s with
  | nil => exact ⟨hlisted, hcurrent⟩
  | cons e es ih => exact ih (listed_step hlisted e) (hcurrent.step e)

/-! ## Numbers of calls -/

/-- In the history every number stands for one call. -/
structure Told (s : Session) (past : List Effect) : Prop where
  accounted : Accounted s past
  unique : ∀ id c d, .call id c ∈ past → .call id d ∈ past → c = d

theorem Told.start (settings : Settings) (mode : Mode) (filter : Watched Filter) :
    Told (startWith settings mode filter) [] :=
  ⟨.start settings mode filter, by simp⟩

theorem Told.callsMove {fx : List Effect} (h : Told s past)
    (ht : Accounted t (fx.reverse ++ past)) (m : CallsMove s fx t) :
    Told t (fx.reverse ++ past) := by
  refine ⟨ht, ?_⟩
  cases m with
  | same hcalls hcalled hfx =>
    have hcall : ∀ id call, Effect.call id call ∈ fx.reverse ++ past ↔ .call id call ∈ past := by
      rcases hfx with rfl | rfl | ⟨op, r, rfl⟩ <;> simp
    simpa only [hcall] using h.unique
  | dropped keep hcalls hcalled hkeep => exact h.unique
  | sent p hcalls hcalled =>
    -- The new number is greater than all numbers before.
    have hnew {id c} (hc : Effect.call id c ∈ past) : id ≠ s.called :=
      Nat.ne_of_lt (h.accounted.lt_called id c hc)
    intro id c d hc hd
    simp only [List.reverse_singleton, List.singleton_append, List.mem_cons,
      Effect.call.injEq] at hc hd
    rcases hc with ⟨rfl, rfl⟩ | hc
    · rcases hd with ⟨-, rfl⟩ | hd
      · rfl
      · exact absurd rfl (hnew hd)
    · rcases hd with ⟨rfl, -⟩ | hd
      · exact absurd rfl (hnew hc)
      · exact h.unique id c d hc hd
  | answered r hp hcalls hcalled => simpa using h.unique

theorem Told.steps (h : Told s past) (es : List Event) :
    Told (s.steps es).1 ((s.steps es).2.reverse ++ past) :=
  keep_steps Told (fun m h => h.callsMove (h.accounted.move m) (m.calls h.accounted.tidy))
    (fun op saved h => h.callsMove (h.accounted.execute op saved) (execute_calls _ op saved))
    (fun m h => h.callsMove (h.accounted.taken m) m.calls) h es

/-- A call that is not in flight any more never comes back. -/
theorem Accounted.id_ne_steps (h : Accounted s past) {id : Nat} (hlt : id < s.called)
    (hgone : ∀ c ∈ s.calls, c.id ≠ id) (es : List Event) :
    ∀ c ∈ (s.steps es).1.calls, c.id ≠ id := by
  let Inv (u : Session) (past : List Effect) : Prop :=
    Accounted u past ∧ id < u.called ∧ ∀ c ∈ u.calls, c.id ≠ id
  have hkeep {u v : Session} {fx past : List Effect} (hv : Accounted v (fx.reverse ++ past))
      (m : CallsMove u fx v) (hu : Inv u past) : Inv v (fx.reverse ++ past) := by
    obtain ⟨-, hlt, hgone⟩ := hu
    refine ⟨hv, ?_⟩
    cases m with
    | same hcalls hcalled hfx => rw [hcalls, hcalled]; exact ⟨hlt, hgone⟩
    | dropped keep hcalls hcalled hkeep =>
      rw [hcalls, hcalled]
      exact ⟨hlt, fun c hc => hgone c (List.mem_filter.1 hc).1⟩
    | sent p hcalls hcalled =>
      rw [hcalls, hcalled]
      refine ⟨Nat.lt_succ_of_lt hlt, fun c hc => ?_⟩
      rcases List.mem_append.1 hc with hc | hc
      · exact hgone c hc
      · rw [List.mem_singleton.1 hc]
        exact Nat.ne_of_gt hlt
    | answered r hp hcalls hcalled =>
      rw [hcalls, hcalled]
      exact ⟨hlt, fun c hc => hgone c (mem_forget.1 hc).1⟩
  have hrun : Inv (s.steps es).1 ((s.steps es).2.reverse ++ past) :=
    keep_steps Inv (fun m hu => hkeep (hu.1.move m) (m.calls hu.1.tidy) hu)
      (fun op saved hu => hkeep (hu.1.execute op saved) (execute_calls _ op saved) hu)
      (fun m hu => hkeep (hu.1.taken m) m.calls hu) ⟨h, hlt, hgone⟩ es
  exact hrun.2.2

/-! ## The latest typed text -/

/-- Nothing in a run touches the fetches. -/
def Untouched (s : Session) : List Event → Prop
  | [] => True
  | e :: es => (s.fetchTouch e).isKeep = true ∧ Untouched (s.step e).1 es

theorem untouched_append {es fs : List Event} :
    Untouched s (es ++ fs) ↔ Untouched s es ∧ Untouched (s.steps es).1 fs := by
  induction es generalizing s with
  | nil => simp [Untouched, steps]
  | cons e es ih =>
    simp only [List.cons_append, Untouched, ih, and_assoc]
    rfl

theorem Untouched.fetching {es : List Event} (h : Untouched s es) : Fetching s (s.steps es) := by
  induction es generalizing s with
  | nil => exact (Elsewhere.refl s).touchesFetch.fetching
  | cons e es ih => exact (step_fetching h.1).andThen (ih h.2)

/-- The latest text that the run `es` types is `text`, nothing has touched the fetches since then,
and `since` are the effects since then. -/
def TypedSince (s : Session) (es : List Event) (text : String) (since : List Effect) : Prop :=
  ∃ before e after, es = before ++ e :: after ∧ e.typed? = some text ∧
    Untouched (s.steps (before ++ [e])).1 after ∧
    since = ((s.steps (before ++ [e])).1.steps after).2

theorem TypedSince.of_typed? {es : List Event} {e : Event} {text : String}
    (h : e.typed? = some text) : TypedSince s (es ++ [e]) text [] :=
  ⟨es, e, [], rfl, h, trivial, rfl⟩

theorem steps_concat (s : Session) (es : List Event) (e : Event) :
    s.steps (es ++ [e]) =
      (((s.steps es).1.step e).1, (s.steps es).2 ++ ((s.steps es).1.step e).2) := by
  simp [steps_append, Step.andThen]

theorem TypedSince.snoc {es : List Event} {e : Event} {text : String} {since : List Effect}
    (h : TypedSince s es text since) (hkeep : ((s.steps es).1.fetchTouch e).isKeep = true) :
    TypedSince s (es ++ [e]) text (since ++ ((s.steps es).1.step e).2) := by
  obtain ⟨before, first, after, rfl, htyped, huntouched, rfl⟩ := h
  have hsteps : s.steps (before ++ first :: after) =
      (s.steps (before ++ [first])).andThen (·.steps after) := by
    rw [← steps_append, List.append_assoc, List.singleton_append]
  refine ⟨before, first, after ++ [e], by simp, htyped, untouched_append.2 ⟨huntouched, ?_⟩, ?_⟩
  · rw [hsteps] at hkeep
    exact ⟨hkeep, trivial⟩
  · rw [hsteps, steps_concat _ after e]
    rfl

/-- Only a typed text makes a fetch wait. -/
theorem fetchTouch_eq_renew {e : Event} {p : String} (h : s.fetchTouch e = .renew p) :
    ∃ text, e.typed? = some text ∧ typeTouch s.settings text = .renew p := by
  cases e with
  | command op c =>
    cases c with
    | type text => exact ⟨text, rfl, h⟩
    | typeSuggestion text => exact ⟨text, rfl, h⟩
    | chooseSuggestion index =>
      simp only [fetchTouch] at h
      split at h <;> cases h
    | pressSuggestion key =>
      simp only [fetchTouch, Suggestions.keyTouch] at h
      split at h <;> cases h
    | submit =>
      simp only [fetchTouch, submitTouch] at h
      split at h <;> cases h
    | press k =>
      simp only [fetchTouch, pressTouch, submitTouch] at h
      repeat' split at h
      all_goals cases h
    | _ => cases h
  | _ => cases h

/-- What waits after an event has waited before, and the event has not touched it; or it has just
been typed. -/
theorem waiting?_step {e : Event} {x : Nat × String}
    (hx : x ∈ (s.step e).1.suggestions.value.waiting?) :
    (s.fetchTouch e).isKeep = true ∧ x ∈ s.suggestions.value.waiting? ∨
      ∃ text, e.typed? = some text ∧ typeTouch s.settings text = .renew x.2 := by
  cases htouch : s.fetchTouch e with
  | keep => exact .inl ⟨rfl, (step_fetching (by rw [htouch]; rfl)).waiting x hx⟩
  | drop =>
    rw [(step_touches (by rw [htouch]; rfl)).waiting, htouch] at hx
    cases hx
  | renew p =>
    rw [(step_touches (by rw [htouch]; rfl)).waiting, htouch] at hx
    cases hx
    exact .inr (fetchTouch_eq_renew htouch)

/-- Whatever is fetched is the latest typed text, and nothing has touched the fetch since then. -/
structure Sourced (s : Session) (es : List Event) : Prop where
  waiting : ∀ x ∈ (s.steps es).1.suggestions.value.waiting?,
    ∃ text since, TypedSince s es text since ∧ x.2 = Text.trimmed text
  fetches : ∀ c ∈ (s.steps es).1.calls, c.pending.call.isFetch = true →
    ∃ text since, TypedSince s es text since ∧ .call c.id c.pending.call ∈ since ∧
      c.pending.call = .suggestions (Text.trimmed text) s.settings.suggestionLimit

theorem settings_steps (s : Session) (es : List Event) : (s.steps es).1.settings = s.settings := by
  induction es generalizing s with
  | nil => rfl
  | cons e es ih =>
    have hfirst : (s.step e).1.settings = s.settings := by
      cases hkeep : (s.fetchTouch e).isKeep with
      | true => exact (step_fetching hkeep).settings
      | false => exact (step_touches hkeep).settings
    exact (ih _).trans hfirst

theorem Sourced.snoc {es : List Event} (h : Sourced s es) (hs : Current (s.steps es).1)
    (e : Event) : Sourced s (es ++ [e]) := by
  constructor
  · intro x hx
    rw [steps_concat] at hx
    rcases waiting?_step hx with ⟨hkeep, hold⟩ | ⟨text, htyped, htext⟩
    · obtain ⟨text, since, htyped, hx⟩ := h.waiting x hold
      exact ⟨text, _, htyped.snoc hkeep, hx⟩
    · exact ⟨text, [], .of_typed? htyped, (Suggestions.typeTouch_eq_renew htext).1⟩
  · intro c hc hfetch
    rw [steps_concat] at hc
    cases hkeep : ((s.steps es).1.fetchTouch e).isKeep with
    | true =>
      rcases (step_fetching hkeep).fetches c hc hfetch with hold | ⟨-, hsent, x, hx, hcall⟩
      · obtain ⟨text, since, htyped, hsent, hcall⟩ := h.fetches c hold hfetch
        exact ⟨text, _, htyped.snoc hkeep, List.mem_append_left _ hsent, hcall⟩
      · obtain ⟨text, since, htyped, htext⟩ := h.waiting x hx
        rw [htext, settings_steps] at hcall
        exact ⟨text, _, htyped.snoc hkeep, List.mem_append_right _ hsent, hcall⟩
    | false =>
      -- No fetch is in flight after a touch.
      rw [(step_touches hkeep).isFetch_eq_false hkeep hs c hc] at hfetch
      cases hfetch

theorem Sourced.start (settings : Settings) (mode : Mode) (filter : Watched Filter)
    (es : List Event) : Sourced (startWith settings mode filter) es := by
  induction es using List.reverseRecOn with
  | nil => constructor <;> simp [steps, startWith, Session.start, Suggestions.waiting?]
  | append_singleton es e ih =>
    have hlisted : (startWith settings mode filter).suggestions.value.Listed := .dropItems {}
    have hcurrent : Current (startWith settings mode filter) := by
      simp [Current, startWith, Session.start]
    exact ih.snoc (listed_current_steps hlisted hcurrent es).2 e

/-! ## Answers -/

/-- The answer to a fetch in flight is what the list becomes. -/
theorem reply_suggestions {id : Nat} {text : String} {limit : UInt32}
    (h : s.pending? id = some (.suggestions s.suggestions.value.generation text limit))
    (answer : Except Failure (List Candidate)) :
    (s.step (.reply id (.suggestions answer))).1.suggestions.value =
      Suggestions.settle answer s.suggestions.value := by
  simp [step, reply, h, take, Suggestions.receive, forget]

/-- Completions that are new come from the answer to a fetch. -/
theorem exists_answer {e : Event} {items : List Candidate}
    (hitems : (s.step e).1.suggestions.value.items = items)
    (hnew : items ≠ s.suggestions.value.items) (hne : items ≠ []) :
    ∃ id text limit, e = .reply id (.suggestions (.ok items)) ∧
      s.suggestions.value.focused = true ∧
      s.pending? id = some (.suggestions s.suggestions.value.generation text limit) := by
  have hcases : (s.step e).1.suggestions.value.items = s.suggestions.value.items ∨
      (s.step e).1.suggestions.value.items = [] ∨ ∃ id r, .answered id r ∈ (s.step e).2 := by
    cases hkeep : (s.fetchTouch e).isKeep with
    | true => exact (step_fetching hkeep).items
    | false => exact (step_touches hkeep).items
  rw [hitems] at hcases
  obtain ⟨id, r, hanswered⟩ := (hcases.resolve_left hnew).resolve_left hne
  obtain rfl := eq_reply_of_answered hanswered
  rcases s.reply_elsewhere id r with
    h | ⟨u, fx, -, h⟩ | ⟨generation, text, limit, answer, hid, rfl, h⟩
  · exact absurd (hitems.symm.trans (congrArg (·.value.items) h.suggestions)) hnew
  · rw [step, h] at hitems
    exact absurd hitems.symm hne
  · rw [step, h] at hitems
    by_cases hgeneration : generation = s.suggestions.value.generation
    · simp only [Suggestions.receive, if_pos hgeneration, Watched.value_update,
        Suggestions.settle] at hitems
      cases answer with
      | error failure => exact absurd hitems.symm hne
      | ok candidates =>
        cases hfocus : s.suggestions.value.focused with
        | false =>
          rw [hfocus] at hitems
          exact absurd hitems.symm hne
        | true =>
          rw [hfocus] at hitems
          obtain rfl : candidates = items := hitems
          exact ⟨id, text, limit, rfl, rfl, hgeneration ▸ hid⟩
    · simp only [Suggestions.receive, if_neg hgeneration] at hitems
      exact absurd hitems.symm hnew

/-- The answer to a fetch that is followed by a touch comes too late. -/
theorem Told.reply_after_touch (h : Told s past) (hs : Current s) {id : Nat} {text : String}
    {limit : UInt32} (hcall : .call id (.suggestions text limit) ∈ past) {e : Event}
    (htouch : (s.fetchTouch e).isKeep = false) (after : List Event) (r : Reply) :
    (s.steps (e :: after)).1.step (.reply id r) = ((s.steps (e :: after)).1, []) := by
  have hnext := h.steps [e]
  rw [steps_singleton] at hnext
  have hcalled : .call id (.suggestions text limit) ∈ (s.step e).2.reverse ++ past :=
    List.mem_append_right _ hcall
  have hgone : ∀ c ∈ (s.step e).1.calls, c.id ≠ id := by
    intro c hc hid
    have hsent := hnext.accounted.sent c hc
    rw [hid] at hsent
    have hfetch := (step_touches htouch).isFetch_eq_false htouch hs c hc
    rw [hnext.unique id _ _ hsent hcalled] at hfetch
    cases hfetch
  have hlast := hnext.accounted.id_ne_steps (hnext.accounted.lt_called id _ hcalled) hgone after
  have hnone : ((s.step e).1.steps after).1.pending? id = none := by
    rw [pending?, Option.map_eq_none_iff, List.find?_eq_none]
    exact fun c hc => by simpa using hlast c hc
  change ((s.step e).1.steps after).1.reply id r = _
  rw [reply, hnone]
  rfl

/-- A fetch that nothing has touched since it was sent waits for its answer. -/
theorem Untouched.pending?_of_call {after : List Event} (h : Untouched s after)
    (ht : Told (s.steps after).1 past) {id : Nat} {text : String} {limit : UInt32}
    (hcall : .call id (.suggestions text limit) ∈ (s.steps after).2)
    (hanswered : ∀ r, .answered id r ∉ (s.steps after).2) :
    (s.steps after).1.pending? id =
      some (.suggestions (s.steps after).1.suggestions.value.generation text limit) := by
  have hfetching := h.fetching
  rcases hfetching.sent id _ hcall rfl with ⟨c, hc, rfl, hpending, hfresh⟩ | ⟨r, hr⟩
  · rw [ht.accounted.pending?_of_mem hc]
    rw [← hfetching.same] at hfresh
    cases hp : c.pending with
    | suggestions generation text' limit' =>
      simp only [hp, Pending.isStaleFetch, bne_eq_false_iff_eq] at hfresh
      simp only [hp, Pending.call, Call.suggestions.injEq] at hpending
      rw [hfresh, hpending.1, hpending.2]
    | _ =>
      rw [hp] at hpending
      cases hpending
  · exact absurd hr (hanswered r)

/-- In every run the list is in order. New completions show only when the answer to a fetch brings
them: the fetch is for the latest typed text, nothing has touched it since, and the box has the
focus. An answer that comes after a touch changes nothing; without a touch, a failure or the loss of
the focus empties the list, and any other answer fills it. -/
theorem completions_show_latest_text (settings : Settings) (mode : Mode) (filter : Watched Filter)
    (es : List Event) :
    let s := startWith settings mode filter
    let t := (s.steps es).1
    t.suggestions.value.Listed ∧
    (∀ e items, (t.step e).1.suggestions.value.items = items →
      items ≠ t.suggestions.value.items → items ≠ [] →
      ∃ id text since, e = .reply id (.suggestions (.ok items)) ∧
        t.suggestions.value.focused = true ∧ TypedSince s es text since ∧
        .call id (.suggestions (Text.trimmed text) settings.suggestionLimit) ∈ since) ∧
    (∀ before e after id text limit r, es = before ++ e :: after →
      .call id (.suggestions text limit) ∈ (s.steps before).2 →
      ((s.steps before).1.fetchTouch e).isKeep = false → t.step (.reply id r) = (t, [])) ∧
    ∀ before after id text limit answer, es = before ++ after →
      .call id (.suggestions text limit) ∈ ((s.steps before).1.steps after).2 →
      Untouched (s.steps before).1 after → (∀ r, .answered id r ∉ (s.steps es).2) →
      let list := (t.step (.reply id (.suggestions answer))).1.suggestions.value
      ((∃ failure, answer = .error failure) ∨ t.suggestions.value.focused = false →
        list.items = [] ∧ list.visible = false) ∧
      ∀ items, answer = .ok items → t.suggestions.value.focused = true → list.items = items := by
  intro s t
  have hlisted : s.suggestions.value.Listed := .dropItems {}
  have hcurrent : Current s := by simp [s, Current, startWith, Session.start]
  have htold := Told.start settings mode filter
  refine ⟨(listed_current_steps hlisted hcurrent es).1, ?_, ?_, ?_⟩
  · intro e items hitems hnew hne
    obtain ⟨id, text, limit, rfl, hfocus, hid⟩ := exists_answer hitems hnew hne
    obtain ⟨typed, since, htyped, hsent, hcall⟩ :=
      (Sourced.start settings mode filter es).fetches _ (mem_of_pending? hid) rfl
    rw [hcall] at hsent
    exact ⟨id, typed, since, rfl, hfocus, htyped, hsent⟩
  · rintro before e after id text limit r rfl hcall htouch
    have hbefore := htold.steps before
    rw [List.append_nil] at hbefore
    have hlate := hbefore.reply_after_touch (listed_current_steps hlisted hcurrent before).2
      (List.mem_reverse.2 hcall) htouch after r
    have ht : t = ((s.steps before).1.steps (e :: after)).1 := by
      simp only [t, steps_append, Step.andThen]
    rw [ht]
    exact hlate
  · rintro before after id text limit answer rfl hcall huntouched hanswered
    have hrun : s.steps (before ++ after) = (s.steps before).andThen (·.steps after) :=
      steps_append ..
    have ht : t = ((s.steps before).1.steps after).1 := (congrArg Prod.fst hrun).trans rfl
    have hpending := huntouched.pending?_of_call ((htold.steps before).steps after) hcall
      fun r hr => hanswered r (by rw [hrun]; exact List.mem_append_right _ hr)
    rw [← ht] at hpending
    intro list
    have hlist : list = Suggestions.settle answer t.suggestions.value :=
      reply_suggestions hpending answer
    rw [hlist]
    refine ⟨?_, ?_⟩
    · rintro (⟨failure, rfl⟩ | hfocus)
      · exact ⟨rfl, rfl⟩
      · cases answer <;> simp [Suggestions.settle, hfocus, Suggestions.dropItems]
    · rintro items rfl hfocus
      simp [Suggestions.settle, hfocus]

/-- The completions for a typed text show; once a letter has been taken away, their answer is
lost. -/
theorem completions_show_for_typed_text :
    let s := startWith {} .standalone ⟨{}, 0⟩
    let typing : List Event := [.command 0 .focus, .command 1 (.type " bud "), .wait 300]
    let t := (s.steps typing).1
    let items : List Candidate := [{ text := "budget" }]
    let answer : Event := .reply 0 (.suggestions (.ok items))
    let later := (s.steps (typing ++ [.command 2 (.type "b")])).1
    t.suggestions.value.items = [] ∧ (t.step answer).1.suggestions.value.items = items ∧
    (∃ id text since, answer = .reply id (.suggestions (.ok items)) ∧
      TypedSince s typing text since ∧ .call id (.suggestions (Text.trimmed text) 5) ∈ since) ∧
    later.step answer = (later, []) := by
  intro s typing t items answer later
  have hempty : t.suggestions.value.items = [] := by rfl
  have hfocus : t.suggestions.value.focused = true := by rfl
  have heffects : (s.steps typing).2 =
      [.finished 0 .done, .finished 1 .done, .call 0 (.suggestions "bud" 5)] := by rfl
  have hcall : .call 0 (.suggestions "bud" 5) ∈ (s.steps typing).2 := by simp [heffects]
  have hanswered : ∀ r, Effect.answered 0 r ∉ (s.steps typing).2 := by simp [heffects]
  obtain ⟨-, hsource, -, hcurrent⟩ := completions_show_latest_text {} .standalone ⟨{}, 0⟩ typing
  obtain ⟨-, -, hlate, -⟩ :=
    completions_show_latest_text {} .standalone ⟨{}, 0⟩ (typing ++ [.command 2 (.type "b")])
  have hshown : (t.step answer).1.suggestions.value.items = items := by
    have hfetch : .call 0 (.suggestions "bud" 5) ∈
        ((s.steps [.command 0 .focus, .command 1 (.type " bud ")]).1.steps [.wait 300]).2 :=
      List.mem_singleton.2 rfl
    obtain ⟨-, hfill⟩ := hcurrent [.command 0 .focus, .command 1 (.type " bud ")] [.wait 300] 0
      "bud" 5 (.ok items) rfl hfetch ⟨rfl, trivial⟩ hanswered
    exact hfill items rfl hfocus
  refine ⟨hempty, hshown, ?_, ?_⟩
  · obtain ⟨id, text, since, hanswer, -, htyped, hsent⟩ :=
      hsource answer items hshown (hempty ▸ List.cons_ne_nil _ _) (List.cons_ne_nil _ _)
    exact ⟨id, text, since, hanswer, htyped, hsent⟩
  · exact hlate typing (.command 2 (.type "b")) [] 0 "bud" 5 (.suggestions (.ok items)) rfl hcall
      rfl

end NoteSearch.Session
