-- SUMMARY: The usage numbers are those of the load that has ended last, maybe not of the latest.
import NoteSearch.Proofs.Session.FilterChanges
import NoteSearch.Proofs.Session.LoadHistory

/-!
# Loads of usage numbers

Loads may overlap, and the panel has no guard: every load that ends is shown, and it ends the
loading of the panel. So the history of beginnings and ends tells what the panel shows. As long as
the loads end in the order in which they begin, that is the latest load.
-/

namespace NoteSearch

namespace Session

variable {s t : Session} {past fx : List Effect} {x : Effect} {id : Nat}

/-! ## Loads under way -/

/-- Loads are numbered in the order in which they begin, and each of them has three calls of its
own. -/
structure Apart (s : Session) (past : List Effect) : Prop where
  started : (loadsBegun past).length = s.insights.started
  far : (loadsBegun past).Pairwise fun i j => j + 3 ≤ i
  below : ∀ id ∈ loadsBegun past, id + 3 ≤ s.called

theorem Apart.of_eq {now : List Effect} (h : Apart s past)
    (hbegun : loadsBegun now = loadsBegun past)
    (hstarted : t.insights.started = s.insights.started) (hcalled : s.called ≤ t.called) :
    Apart t now := by
  constructor
  · rw [hbegun, hstarted]
    exact h.started
  · rw [hbegun]
    exact h.far
  · rw [hbegun]
    exact fun id hid => Nat.le_trans (h.below id hid) hcalled

/-- The panel knows the loads that are under way as the history tells them; it shows the one that
has ended last, and it loads if none has ended since the latest one began. -/
structure Loads (s : Session) (past : List Effect) : Prop where
  apart : Apart s past
  calls : ∀ c ∈ s.calls, ∀ number place, c.pending.part? = some (number, place) →
    ∃ id, (loadsBegun past).reverse[number]? = some id ∧ c.id = id + place ∧
      ∃ l ∈ s.insights.loads, l.number = number
  loads : ∀ l ∈ s.insights.loads, ∃ id, (loadsBegun past).reverse[l.number]? = some id ∧
    l = loadAt past l.number id ∧ loaded? past id = none
  ended : ∀ id, .ended id ∈ loadMarks past ↔ id ∈ loadsBegun past ∧ loaded? past id ≠ none
  began : ∀ id, (loadMarks past).head? = some (.began id) → loaded? past id = none
  shown : s.insights.sections =
    ((lastEnded? (loadMarks past)).bind (loaded? past)).getD ([], [], none)
  loading : s.insights.loading = true ↔ ∃ id, (loadMarks past).head? = some (.began id)

theorem Apart.start (settings : Settings) (mode : Mode) (filter : Watched Filter) :
    Apart (startWith settings mode filter) [] := by
  constructor <;> simp [startWith, Session.start, loadsBegun]

theorem Loads.start (settings : Settings) (mode : Mode) (filter : Watched Filter) :
    Loads (startWith settings mode filter) [] := by
  refine ⟨.start settings mode filter, ?_, ?_, ?_, ?_, ?_, ?_⟩
  all_goals simp [startWith, Session.start, loadsBegun, loadMarks, lastEnded?, Insights.sections]

/-- Whatever has nothing to do with the usage numbers. -/
theorem Loads.quiet (h : Loads s past) (hinsights : t.insights = s.insights)
    (hcalled : s.called ≤ t.called)
    (hcalls : ∀ c ∈ t.calls, c ∈ s.calls ∨ c.pending.part? = none) (hfx : ∀ x ∈ fx, x.Quiet) :
    Loads t (fx ++ past) := by
  obtain ⟨hbegun, hloaded, hload, hmarks⟩ := history_append past hfx
  constructor
  · exact h.apart.of_eq hbegun (by rw [hinsights]) hcalled
  · rw [hbegun, hinsights]
    intro c hc number place hpart
    rcases hcalls c hc with hold | hnone
    · exact h.calls c hold number place hpart
    · rw [hnone] at hpart
      cases hpart
  · rw [hbegun, hinsights, hload, hloaded]
    exact h.loads
  · rw [hbegun, hloaded, hmarks]
    exact h.ended
  · rw [hloaded, hmarks]
    exact h.began
  · rw [hinsights, hloaded, hmarks]
    exact h.shown
  · rw [hinsights, hmarks]
    exact h.loading

theorem part?_eq_none {p : Pending} (h : p.call.isUsage = false) : p.part? = none := by
  cases p <;> first | rfl | cases h

theorem KeepsContents.quiet {escapes : Bool} {st : Step} (k : KeepsContents escapes s st)
    (hx : x ∈ st.2) : x.Quiet := by
  cases x with
  | call id c =>
    have husage := k.asks id c hx
    refine ⟨?_, fun _ => rfl⟩
    cases c <;> first | rfl | cases husage
  | answered id r => exact absurd hx (k.answers id r)
  | _ => exact ⟨rfl, fun _ => rfl⟩

theorem Loads.keeps {escapes : Bool} {st : Step} (k : KeepsContents escapes s st)
    (h : Loads s past) : Loads st.1 (st.2.reverse ++ past) :=
  h.quiet k.insights k.called
    (fun c hc => (k.calls c hc).imp_right fun hnew => part?_eq_none hnew.2.1)
    fun _ hx => k.quiet (List.mem_reverse.1 hx)

/-- No part has come for a call that has not been made. -/
theorem Accounted.partOf?_eq_none (h : Accounted s past) {i : Nat} (hi : s.called ≤ i) :
    partOf? i past = none := by
  cases hpart : partOf? i past with
  | none => rfl
  | some part =>
    obtain ⟨r, hr⟩ := answered_of_partOf? hpart
    exact absurd hr (h.not_answered hi r)

/-- The session after it has sent the calls of a load. -/
def withLoad (s : Session) (op : OperationId) : Session :=
  { s with
    insights := s.insights.begin
    calls := s.calls ++ [⟨s.called, .popular s.insights.started op⟩,
      ⟨s.called + 1, .trending s.insights.started op⟩, ⟨s.called + 2, .stats s.insights.started op⟩]
    called := s.called + 3 }

theorem loadInsights_eq (s : Session) (op : OperationId) :
    s.loadInsights op = (s.withLoad op, [.call s.called (.popular Insights.listLimit),
      .call (s.called + 1) (.trending Insights.listLimit Insights.trendDays),
      .call (s.called + 2) .stats]) := by
  simp [loadInsights, withLoad, send, Step.andThen, Pending.call]

theorem Apart.withLoad (h : Apart s past) (op : OperationId) :
    Apart (s.withLoad op) (.call s.called (.popular Insights.listLimit) :: past) where
  started := congrArg (· + 1) h.started
  far := List.pairwise_cons.2 ⟨h.below, h.far⟩
  below := by
    intro id hid
    rcases List.mem_cons.1 hid with rfl | hid
    · exact Nat.le_refl _
    · exact Nat.le_trans (h.below id hid) (Nat.le_add_right _ 3)

theorem Loads.withLoad (hacc : Accounted s past) (h : Loads s past) (op : OperationId) :
    Loads (s.withLoad op) (.call s.called (.popular Insights.listLimit) :: past) := by
  let x : Effect := .call s.called (.popular Insights.listLimit)
  have hbegun : loadsBegun (x :: past) = s.called :: loadsBegun past := rfl
  have hmarks : loadMarks (x :: past) = .began s.called :: loadMarks past := rfl
  have hloaded : loaded? (x :: past) = loaded? past :=
    funext fun id => loaded?_cons fun _ _ => rfl
  have hload : loadAt (x :: past) = loadAt past :=
    funext fun n => funext fun id => loadAt_cons (fun _ _ => rfl) n
  have hindex {n id : Nat} (hn : (loadsBegun past).reverse[n]? = some id) :
      (loadsBegun (x :: past)).reverse[n]? = some id := by
    rw [hbegun, List.reverse_cons,
      List.getElem?_append_left (List.getElem?_eq_some_iff.1 hn).1, hn]
  have hlast : (loadsBegun (x :: past)).reverse[s.insights.started]? = some s.called := by
    simp [hbegun, ← h.apart.started]
  have hempty : loadAt past s.insights.started s.called = { number := s.insights.started } := by
    simp [loadAt, hacc.partOf?_eq_none]
  have hopen : loaded? past s.called = none := by
    simp [loaded?, hacc.partOf?_eq_none]
  have hnew : ∃ l ∈ (s.withLoad op).insights.loads, l.number = s.insights.started :=
    ⟨_, List.mem_append_right _ (List.mem_singleton.2 rfl), rfl⟩
  constructor
  · exact h.apart.withLoad op
  · intro c hc number place hpart
    rcases List.mem_append.1 hc with hold | hsent
    · obtain ⟨id, hn, hid, l, hl, hnumber⟩ := h.calls c hold number place hpart
      exact ⟨id, hindex hn, hid, l, List.mem_append_left _ hl, hnumber⟩
    · simp only [List.mem_cons, List.not_mem_nil, or_false] at hsent
      rcases hsent with rfl | rfl | rfl
      all_goals
        cases hpart
        exact ⟨s.called, hlast, rfl, hnew⟩
  · rw [hload, hloaded]
    intro l hl
    rcases List.mem_append.1 hl with hold | hbegin
    · obtain ⟨id, hn, hl, hnone⟩ := h.loads l hold
      exact ⟨id, hindex hn, hl, hnone⟩
    · rw [List.mem_singleton.1 hbegin]
      exact ⟨s.called, hlast, hempty.symm, hopen⟩
  · intro id
    rw [hmarks, hbegun, hloaded]
    simp only [List.mem_cons, reduceCtorEq, false_or, h.ended id]
    refine ⟨fun hold => ⟨.inr hold.1, hold.2⟩, ?_⟩
    rintro ⟨rfl | hid, hne⟩
    · exact absurd hopen hne
    · exact ⟨hid, hne⟩
  · intro id hid
    cases hid
    rw [hloaded]
    exact hopen
  · rw [hloaded]
    exact h.shown
  · exact ⟨fun _ => ⟨s.called, rfl⟩, fun _ => rfl⟩

/-- A load begins with the first of its calls; the other two are quiet. -/
theorem Loads.load (hacc : Accounted s past) (h : Loads s past) (op : OperationId) :
    Loads (s.loadInsights op).1 ((s.loadInsights op).2.reverse ++ past) := by
  have hquiet : ∀ y ∈ [Effect.call (s.called + 2) .stats,
      .call (s.called + 1) (.trending Insights.listLimit Insights.trendDays)], y.Quiet := by
    intro y hy
    simp only [List.mem_cons, List.not_mem_nil, or_false] at hy
    rcases hy with rfl | rfl <;> exact ⟨rfl, fun _ => rfl⟩
  have hbegun := h.withLoad hacc op
  rw [loadInsights_eq]
  exact hbegun.quiet rfl (Nat.le_refl _) (fun c hc => .inl hc) hquiet

/-! ## Answers to a load -/

theorem place_lt {p : Pending} {number place : Nat} (h : p.part? = some (number, place)) :
    place < 3 := by
  cases p <;> cases h <;> decide

/-- An answer brings its part to the call that it answers. -/
theorem partFor?_answered {r : Reply} {part : InsightsPart} (hr : r.part? = some part) (i j : Nat) :
    (Effect.answered i r).partFor? j = if j = i then some part else none := by
  simp only [Effect.partFor?, hr, eq_comm]

/-- The load that a part is for. -/
theorem Loads.exists_load (h : Loads s past) {i number : Nat} {p : Pending} {part : InsightsPart}
    (hid : s.pending? i = some p) (hp : p.part? = some (number, part.place)) :
    ∃ id, (loadsBegun past).reverse[number]? = some id ∧ i = id + part.place ∧
      loaded? past id = none ∧
      s.insights.loads.find? (fun l => l.number == number) = some (loadAt past number id) := by
  obtain ⟨id, hn, hi, l, hl, rfl⟩ := h.calls _ (mem_of_pending? hid) number part.place hp
  have hfound : (s.insights.loads.find? fun m => m.number == l.number).isSome = true :=
    List.find?_isSome.2 ⟨l, hl, beq_self_eq_true _⟩
  obtain ⟨m, hm⟩ := Option.isSome_iff_exists.1 hfound
  have hnumber : m.number = l.number := by simpa using List.find?_some hm
  obtain ⟨j, hj, hload, hopen⟩ := h.loads m (List.mem_of_find?_eq_some hm)
  rw [hnumber, hn] at hj
  cases hj
  rw [hnumber] at hload
  exact ⟨id, hn, hi, hopen, hload ▸ hm⟩

section answer

/-! The effect `x` brings a part for the load `id`, which is under way. -/

variable {number id : Nat} {part : InsightsPart}
  (hn : (loadsBegun past).reverse[number]? = some id) (hopen : loaded? past id = none)
  (hx : ∀ i, x.partFor? i = if i = id + part.place then some part else none)
  (hbegins : x.beginsLoad? = none)

include hn in
theorem mem_loadsBegun : id ∈ loadsBegun past :=
  List.mem_reverse.1 (List.mem_of_getElem? hn)

include hn hx in
/-- The other loads are no concern of the part. -/
theorem Apart.partFor?_other (h : Apart s past) {j : Nat} (hj : j ∈ loadsBegun past)
    (hne : j ≠ id) {place : Nat} (hplace : place < 3) : x.partFor? (j + place) = none := by
  have hpart : part.place < 3 := by cases part <;> simp [InsightsPart.place]
  rw [hx, if_neg]
  rcases rel_of_pairwise h.far hj (mem_loadsBegun hn) with heq | hlt | hlt
  · exact absurd heq hne
  · omega
  · omega

include hn hopen hx in
theorem Apart.endedBy?_eq (h : Apart s past) :
    endedBy? x past = if (loaded? (x :: past) id).isSome then some id else none :=
  NoteSearch.endedBy?_eq (mem_loadsBegun hn) hopen fun _ hj hne =>
    loaded?_cons fun _ hplace => h.partFor?_other hn hx hj hne hplace

include hn in
/-- Loads have different numbers. -/
theorem Apart.id_ne (h : Apart s past) {m j : Nat} (hj : (loadsBegun past).reverse[m]? = some j)
    (hne : m ≠ number) : j ≠ id := by
  rintro rfl
  have hnodup : (loadsBegun past).reverse.Nodup :=
    List.pairwise_reverse.2 (h.far.imp fun hlt => by omega)
  exact hne ((List.getElem?_inj (List.getElem?_eq_some_iff.1 hj).1 hnodup).1 (hj.trans hn.symm))

include hn hx in
/-- The other loads that are under way stay as they are. -/
theorem Loads.other (h : Loads s past) {m : InsightsLoad} (hm : m ∈ s.insights.loads)
    (hne : m.number ≠ number) : ∃ j, (loadsBegun past).reverse[m.number]? = some j ∧
      m = loadAt (x :: past) m.number j ∧ loaded? (x :: past) j = none := by
  obtain ⟨j, hj, hload, hnone⟩ := h.loads m hm
  have hother : ∀ place < 3, x.partFor? (j + place) = none := fun _ hplace =>
    h.apart.partFor?_other hn hx (mem_loadsBegun hj) (h.apart.id_ne hn hj hne) hplace
  exact ⟨j, hj, hload.trans (loadAt_cons hother _).symm, (loaded?_cons hother).trans hnone⟩

include hn hx in
/-- A load that has ended has no more calls in flight. -/
theorem Loads.number_ne (hacc : Accounted s past) (h : Loads s past)
    {sections : Insights.Sections} (hloaded : loaded? (x :: past) id = some sections)
    {c : InFlight} (hc : c ∈ s.calls) (hne : c.id ≠ id + part.place) {m place : Nat}
    (hpart : c.pending.part? = some (m, place)) : m ≠ number := by
  rintro rfl
  obtain ⟨j, hj, hid, -⟩ := h.calls c hc m place hpart
  cases hj.symm.trans hn
  obtain ⟨brought, hbrought⟩ := exists_partOf?_of_loaded? hloaded (place_lt hpart)
  rw [← hid, partOf?_cons_of_none (by rw [hx, if_neg hne])] at hbrought
  obtain ⟨r, hr⟩ := answered_of_partOf? hbrought
  exact (hacc.answered _ r hr).2 c hc rfl

include hn hopen hx hbegins in
/-- The load goes on: the panel stores the part. -/
theorem Loads.goesOn (h : Loads s past) (hwaits : loaded? (x :: past) id = none)
    (hcalls : ∀ c ∈ t.calls, c ∈ s.calls) (hcalled : t.called = s.called)
    (hinsights : t.insights = { s.insights with
      loads := s.insights.loads.map fun m =>
        if m.number = number then loadAt (x :: past) number id else m }) :
    Loads t (x :: past) := by
  have hbegun : loadsBegun (x :: past) = loadsBegun past := loadsBegun_cons hbegins
  have hends : endedBy? x past = none := by
    rw [h.apart.endedBy?_eq hn hopen hx, hwaits]
    rfl
  have hmarks : loadMarks (x :: past) = loadMarks past := by simp [loadMarks, hbegins, hends]
  have hsame {j : Nat} (hj : j ∈ loadsBegun past) : loaded? (x :: past) j = loaded? past j := by
    by_cases hid : j = id
    · rw [hid, hwaits, hopen]
    · exact loaded?_cons fun _ hplace => h.apart.partFor?_other hn hx hj hid hplace
  constructor
  · exact h.apart.of_eq hbegun (by rw [hinsights]) (Nat.le_of_eq hcalled.symm)
  · rw [hbegun, hinsights]
    intro c hc m place hpart
    obtain ⟨j, hj, hid, l, hl, hnumber⟩ := h.calls c (hcalls c hc) m place hpart
    refine ⟨j, hj, hid, _, List.mem_map_of_mem hl, ?_⟩
    split
    · rename_i hl
      rw [← hnumber, hl]
      rfl
    · exact hnumber
  · rw [hbegun, hinsights]
    intro l hl
    obtain ⟨m, hm, rfl⟩ := List.mem_map.1 hl
    split
    · exact ⟨id, hn, rfl, hwaits⟩
    · exact h.other hn hx hm ‹_›
  · intro j
    rw [hmarks, hbegun, h.ended j]
    exact and_congr_right fun hj => by rw [hsame hj]
  · intro j hj
    rw [hmarks] at hj
    rw [hsame (List.mem_of_mem_head? (head_loadsBegun hj))]
    exact h.began j hj
  · rw [hmarks, hinsights]
    refine h.shown.trans ?_
    cases hlast : lastEnded? (loadMarks past) with
    | none => rfl
    | some j =>
      have hj : j ∈ loadsBegun past := ((h.ended j).1 (ended_mem hlast)).1
      simp [hsame hj]
  · rw [hmarks, hinsights]
    exact h.loading

include hn hopen hx hbegins in
/-- The load ends: the panel shows it. -/
theorem Loads.ends (hacc : Accounted s past) (h : Loads s past) {sections : Insights.Sections}
    (hloaded : loaded? (x :: past) id = some sections)
    (hcalls : ∀ c ∈ t.calls, c ∈ s.calls ∧ c.id ≠ id + part.place) (hcalled : t.called = s.called)
    (hinsights : t.insights = { s.insights with
      popular := sections.1
      trending := sections.2.1
      stats := sections.2.2
      loading := false
      loads := s.insights.loads.filter fun m => m.number != number }) :
    Loads t (x :: past) := by
  have hbegun : loadsBegun (x :: past) = loadsBegun past := loadsBegun_cons hbegins
  have hends : endedBy? x past = some id := by
    rw [h.apart.endedBy?_eq hn hopen hx, hloaded]
    rfl
  have hmarks : loadMarks (x :: past) = .ended id :: loadMarks past := by
    simp [loadMarks, hbegins, hends]
  constructor
  · exact h.apart.of_eq hbegun (by rw [hinsights]) (Nat.le_of_eq hcalled.symm)
  · rw [hbegun, hinsights]
    intro c hc m place hpart
    obtain ⟨hc, hne⟩ := hcalls c hc
    obtain ⟨j, hj, hid, l, hl, hnumber⟩ := h.calls c hc m place hpart
    have hother : m ≠ number := h.number_ne hn hx hacc hloaded hc hne hpart
    exact ⟨j, hj, hid, l, List.mem_filter.2 ⟨hl, bne_iff_ne.2 (hnumber ▸ hother)⟩, hnumber⟩
  · rw [hbegun, hinsights]
    intro l hl
    obtain ⟨hl, hne⟩ := List.mem_filter.1 hl
    exact h.other hn hx hl (bne_iff_ne.1 hne)
  · intro j
    rw [hmarks, hbegun, List.mem_cons, LoadMark.ended.injEq, h.ended j]
    by_cases hid : j = id
    · simp [hid, hloaded, mem_loadsBegun hn]
    · rw [or_iff_right hid]
      refine and_congr_right fun hj => ?_
      rw [loaded?_cons fun _ hplace => h.apart.partFor?_other hn hx hj hid hplace]
  · intro j hj
    rw [hmarks] at hj
    cases hj
  · rw [hmarks, hinsights]
    simp [lastEnded?, hloaded, Insights.sections]
  · rw [hmarks, hinsights]
    simp

end answer

/-- The panel takes a part of a load that is under way. -/
theorem Loads.received_part (hacc : Accounted s past) (h : Loads s past) {i number : Nat}
    {p : Pending} {r : Reply} {part : InsightsPart} (hid : s.pending? i = some p)
    (hp : p.part? = some (number, part.place)) (hr : r.part? = some part) :
    Loads { s.forget i with insights := (s.insights.receive number part).1 }
      (.answered i r :: past) := by
  obtain ⟨id, hn, rfl, hopen, hfound⟩ := h.exists_load hid hp
  have hx : ∀ j, (Effect.answered (id + part.place) r).partFor? j =
      if j = id + part.place then some part else none := partFor?_answered hr _
  have hcalls : ∀ c ∈ (s.forget (id + part.place)).calls, c ∈ s.calls ∧ c.id ≠ id + part.place :=
    fun c hc => mem_forget.1 hc
  have hreceived := receive_loadAt s.insights hfound hx
  cases hloaded : loaded? (.answered (id + part.place) r :: past) id with
  | none =>
    rw [hloaded] at hreceived
    exact h.goesOn hn hopen hx rfl hloaded (fun c hc => (hcalls c hc).1) rfl hreceived
  | some sections =>
    rw [hloaded] at hreceived
    exact h.ends hn hopen hx rfl hacc hloaded hcalls rfl hreceived

theorem Loads.received (hacc : Accounted s past) (h : Loads s past) {i : Nat} {p : Pending}
    {r : Reply} (hid : s.pending? i = some p) (ht : Received s i p r t) :
    Loads t (.answered i r :: past) := by
  have hquiet (hinsights : t.insights = s.insights) (hr : r.part? = none) :
      Loads t ([.answered i r] ++ past) := by
    refine h.quiet hinsights (Nat.le_of_eq ht.called.symm) (fun c hc => ?_) fun x hx => ?_
    · exact .inl (mem_forget.1 (ht.calls ▸ hc)).1
    · rw [List.mem_singleton.1 hx]
      exact ⟨rfl, fun j => by simp [Effect.partFor?, hr]⟩
  cases ht with
  | part hp hr => exact h.received_part hacc hid hp hr
  | other hp hr =>
    refine hquiet rfl ?_
    cases r <;> first | rfl | cases hr
  | _ => exact hquiet rfl rfl

theorem Loads.steps (hrec : Recorded s past) (h : Loads s past) (es : List Event) :
    Loads (s.steps es).1 ((s.steps es).2.reverse ++ past) :=
  keep_received Loads (fun k h => h.keeps k) (fun op hrec h => h.load hrec.accounted op)
    (fun hrec hid ht h => h.received hrec.accounted hid ht) hrec h es

/-! ## The latest load -/

theorem length_loadsBegun_step (s : Session) (e : Event) :
    (loadsBegun (s.step e).2).length = if e.isLoad then 1 else 0 := by
  have hkept {escapes : Bool} {st : Step} {t : Session} (k : KeepsContents escapes t st) :
      loadsBegun st.2 = [] :=
    List.filterMap_eq_nil_iff.2 fun _ hx => (k.quiet hx).1
  rcases s.step_received_cases e with k | ⟨op, rfl⟩ | ⟨id, r, p, t, st, rfl, -, -, k, hst⟩
  · cases hload : e.isLoad with
    | false => simp [hkept k]
    | true =>
      unfold Event.isLoad at hload
      split at hload
      · rename_i op
        have hstarted := congrArg Insights.started k.insights
        simp [step, perform, loadInsights_eq, withLoad, Insights.begin] at hstarted
      · cases hload
  · simp [step, perform, loadInsights_eq, loadsBegun, Effect.beginsLoad?, Event.isLoad]
  · rw [hst]
    exact congrArg List.length (hkept k)

/-- Loads begin with the commands to load. -/
theorem length_loadsBegun_steps (s : Session) (es : List Event) :
    (loadsBegun (s.steps es).2.reverse).length = es.countP Event.isLoad := by
  induction es generalizing s with
  | nil => rfl
  | cons e es ih =>
    have hfirst := length_loadsBegun_step s e
    have hrest := ih (s.step e).1
    simp only [loadsBegun, List.filterMap_reverse, List.length_reverse] at hfirst hrest ⊢
    rw [steps_cons, Step.andThen, List.filterMap_append, List.length_append, hfirst, hrest,
      List.countP_cons, Nat.add_comm]

/-- The panel loads exactly while the latest load has not ended, if and only if none has ended
since it began unless it has ended itself. -/
theorem Loads.loading_iff_latest (h : Loads s past)
    (hlatest : (loadsBegun past).head? = some id) :
    (s.insights.loading = true ↔ loaded? past id = none) ↔
      (loaded? past id = none → (loadMarks past).head? = some (.began id)) := by
  have hid {j : Nat} (hj : (loadMarks past).head? = some (.began j)) : j = id :=
    Option.some.inj ((head_loadsBegun hj).symm.trans hlatest)
  rw [h.loading]
  constructor
  · intro hloading hopen
    obtain ⟨j, hj⟩ := hloading.2 hopen
    rw [hj, hid hj]
  · intro hbegan
    refine ⟨fun ⟨j, hj⟩ => hid hj ▸ h.began j hj, fun hopen => ⟨id, hbegan hopen⟩⟩

/-- When all loads have ended, the panel shows the one that has ended last. -/
theorem Loads.shows_last (h : Loads s past) (hid : id ∈ loadsBegun past)
    (hended : ∀ j ∈ loadsBegun past, loaded? past j ≠ none) :
    s.insights.loading = false ∧
      ∃ last, lastEnded? (loadMarks past) = some last ∧
        loaded? past last = some s.insights.sections := by
  constructor
  · rw [← Bool.not_eq_true, h.loading]
    rintro ⟨j, hj⟩
    exact hended j (List.mem_of_mem_head? (head_loadsBegun hj)) (h.began j hj)
  · have hsome : (lastEnded? (loadMarks past)).isSome = true :=
      List.findSome?_isSome_iff.2 ⟨_, (h.ended id).2 ⟨hid, hended id hid⟩, rfl⟩
    obtain ⟨last, hlast⟩ := Option.isSome_iff_exists.1 hsome
    obtain ⟨sections, hloaded⟩ :=
      Option.ne_none_iff_exists'.1 ((h.ended last).1 (ended_mem hlast)).2
    refine ⟨last, hlast, ?_⟩
    rw [h.shown, hlast, Option.bind_some, hloaded]
    rfl

/-- In every run the panel shows what the load that has ended last has brought, and it loads exactly
if no load has ended since the latest one began. So it loads exactly while the latest load has not
ended, if and only if no older one ends meanwhile; and when all loads have ended it shows the latest
one, if and only if this one or one that has brought the same has ended last. -/
theorem insights_show_latest_load_iff (settings : Settings) (mode : Mode) (filter : Watched Filter)
    (es : List Event) :
    let run := (startWith settings mode filter).steps es
    let panel := run.1.insights
    let past := run.2.reverse
    let marks := loadMarks past
    (loadsBegun past).length = es.countP Event.isLoad ∧
    panel.sections = ((lastEnded? marks).bind (loaded? past)).getD ([], [], none) ∧
    (panel.loading = true ↔ ∃ id, marks.head? = some (.began id)) ∧
    ∀ latest, (loadsBegun past).head? = some latest →
      ((panel.loading = true ↔ loaded? past latest = none) ↔
        (loaded? past latest = none → marks.head? = some (.began latest))) ∧
      ((∀ id ∈ loadsBegun past, loaded? past id ≠ none) →
        panel.loading = false ∧ ∃ last, lastEnded? marks = some last ∧
          (loaded? past latest = some panel.sections ↔
            loaded? past last = loaded? past latest)) := by
  intro run panel past marks
  have h : Loads run.1 past := by
    simpa using (Loads.start settings mode filter).steps (.start settings mode filter) es
  refine ⟨length_loadsBegun_steps _ es, h.shown, h.loading, fun latest hlatest =>
    ⟨h.loading_iff_latest hlatest, fun hended => ?_⟩⟩
  obtain ⟨hloading, last, hlast, hshown⟩ := h.shows_last (List.mem_of_mem_head? hlatest) hended
  exact ⟨hloading, last, hlast, by rw [hshown, eq_comm]⟩

/-- Answers to the load `id`; the popular queries are `text` alone, and the trending ones fail. -/
def answersTo (id : Nat) (text : String) : List Event :=
  [.reply id (.popular (.ok [{ text, searchCount := 1 }])),
    .reply (id + 1) (.trending (.error (.transport "offline"))), .reply (id + 2) (.stats (.ok {}))]

/-- Two loads that overlap and end in the order in which they began. -/
theorem insights_show_later_load :
    let loads : List Event := [.command 0 .loadInsights, .command 1 .loadInsights]
    let run := (start {} .standalone).steps (loads ++ answersTo 0 "old" ++ answersTo 3 "new")
    let past := run.2.reverse
    (loadsBegun past).head? = some 3 ∧ (∀ id ∈ loadsBegun past, loaded? past id ≠ none) ∧
      run.1.insights.loading = false ∧ loaded? past 3 = some run.1.insights.sections ∧
      run.1.insights.popular = [{ text := "new", searchCount := 1 }] := by
  intro loads run past
  obtain ⟨-, -, -, hlatest⟩ := insights_show_latest_load_iff {} .standalone
    (start {} .standalone).filter (loads ++ answersTo 0 "old" ++ answersTo 3 "new")
  have hbegun : (loadsBegun past).head? = some 3 := by decide +kernel
  have hended : ∀ id ∈ loadsBegun past, loaded? past id ≠ none := by decide +kernel
  have hthree : lastEnded? (loadMarks past) = some 3 := by decide +kernel
  obtain ⟨hloading, last, hlast, hshown⟩ := (hlatest 3 hbegun).2 hended
  obtain rfl : 3 = last := Option.some.inj (hthree.symm.trans hlast)
  exact ⟨hbegun, hended, hloading, hshown.2 rfl, by decide +kernel⟩

/-- Two loads overlap. If the earlier one ends first, the panel stops loading although the latest
load has not ended; if it ends last, the panel shows its answers. -/
theorem insights_of_older_load :
    let loads := (start {} .standalone).steps
      [.command 0 .loadInsights, .command 1 .loadInsights]
    let older := loads.andThen fun s => s.steps (answersTo 0 "old")
    let newer := loads.andThen fun s => s.steps (answersTo 3 "new")
    let both := newer.andThen fun s => s.steps (answersTo 0 "old")
    (loadsBegun older.2.reverse).head? = some 3 ∧ loaded? older.2.reverse 3 = none ∧
      older.1.insights.loading = false ∧
      (loadsBegun both.2.reverse).head? = some 3 ∧
      (∀ id ∈ loadsBegun both.2.reverse, loaded? both.2.reverse id ≠ none) ∧
      (loaded? both.2.reverse 3).map (·.1) = some [{ text := "new", searchCount := 1 }] ∧
      both.1.insights.popular = [{ text := "old", searchCount := 1 }] := by
  decide +kernel

end Session

end NoteSearch
