-- SUMMARY: The application is led to the results once for each submit and each commit from elsewhere.
import NoteSearch.Proofs.Session.Leads

/-!
# Navigations

Submits and commits may overlap, overtake one another and be answered in any order. Each of them
waits for its own search until that is answered, and it ends with the answer, so at every moment of a
run the operations that have been started are those that still wait and those that have ended, and
the navigations are as many as the latter (`Led`).
-/

namespace NoteSearch.Session

variable {s : Session} {st : Step} {lead : Option Lead} {l : Lead} {c : InFlight} {e : Event}
  {history : List Effect} {started : List Lead}

/-- The operations `started` that lead to the results wait for their searches or have ended in the
history, and each one that has ended has led to the results once. -/
structure Led (s : Session) (history : List Effect) (started : List Lead) : Prop where
  accounted : Accounted s history.reverse
  ordered : started.Pairwise fun l m => l.call < m.call
  lt_called : ∀ l ∈ started, l.call < s.called
  known : ∀ c ∈ s.calls, ∀ l, c.lead? = some l → l ∈ started
  ended_or_waits : ∀ l ∈ started, l.hasEnded history = true ∨ ∃ c ∈ s.calls, c.lead? = some l
  navigated : s.routes.length = started.countP (·.hasEnded history)

theorem Led.start (settings : Settings) (mode : Mode) (filter : Watched Filter) :
    Led (startWith settings mode filter) [] [] := by
  refine ⟨.start settings mode filter, .nil, ?_, ?_, ?_, rfl⟩ <;> simp [startWith, Session.start]

/-- What still waits has not ended. -/
theorem Accounted.hasEnded_eq_false (h : Accounted s history.reverse) (hc : c ∈ s.calls)
    (hl : c.lead? = some l) : l.hasEnded history = false := by
  apply Session.hasEnded_eq_false
  intro r hr
  exact (h.answered l.call r (List.mem_reverse.2 hr)).2 c hc (call_of_lead? hl)

theorem Led.accounted_step (h : Led s history started) (e : Event) :
    Accounted (s.step e).1 (history ++ (s.step e).2).reverse := by
  rw [List.reverse_append]
  exact h.accounted.step e

/-- What waits goes on to wait until its search is answered. -/
theorem Led.waits_step (h : Led s history started) (hc : c ∈ s.calls) (hl : c.lead? = some l)
    (hnone : ∀ r, .answered c.id r ∉ (s.step e).2) : c ∈ (s.step e).1.calls := by
  obtain ⟨ticket, request, purpose, hp⟩ := exists_search_of_lead? hl
  have hfetch : c.pending.call.isFetch = false := by rw [hp]; rfl
  rw [← steps_singleton] at hnone ⊢
  exact h.accounted.mem_calls_of_unanswered hc hfetch hnone

/-- A step that answers none of the searches that are waited for. -/
theorem Led.goesOn (h : Led s history started) (hroutes : (s.step e).1.routes = s.routes)
    (hcalled : s.called ≤ (s.step e).1.called)
    (hcalls : ∀ c ∈ (s.step e).1.calls,
      c ∈ s.calls ∨ s.called ≤ c.id ∧ (c.lead? = none ∨ c.lead? = lead))
    (hnone : ∀ c ∈ s.calls, ∀ l, c.lead? = some l → ∀ r, .answered c.id r ∉ (s.step e).2)
    (hsends : ∀ l, lead = some l →
      l.call = s.called ∧ ∃ c ∈ (s.step e).1.calls, c.lead? = some l) :
    Led (s.step e).1 (history ++ (s.step e).2) (started ++ lead.toList) := by
  have haccounted := h.accounted_step e
  have hwaits {l : Lead} (hl : ∃ c ∈ s.calls, c.lead? = some l) :
      ∃ c ∈ (s.step e).1.calls, c.lead? = some l := by
    obtain ⟨c, hc, hl⟩ := hl
    exact ⟨c, h.waits_step hc hl (hnone c hc l hl), hl⟩
  have hsame : ∀ l ∈ started, l.hasEnded (history ++ (s.step e).2) = l.hasEnded history := by
    intro l hl
    rcases h.ended_or_waits l hl with hended | hwaiting
    · rw [hended, hasEnded_append hended]
    · obtain ⟨c, hc, hlead⟩ := hwaiting
      obtain ⟨d, hd, hlead'⟩ := hwaits ⟨c, hc, hlead⟩
      rw [h.accounted.hasEnded_eq_false hc hlead, haccounted.hasEnded_eq_false hd hlead']
  refine ⟨haccounted, ?_, ?_, ?_, ?_, ?_⟩
  · rw [List.pairwise_append]
    refine ⟨h.ordered, ?_, fun l hl m hm => ?_⟩
    · cases lead with
      | none => exact .nil
      | some m => exact List.pairwise_singleton _ m
    · rw [(hsends m (Option.mem_toList.1 hm)).1]
      exact h.lt_called l hl
  · intro l hl
    rcases List.mem_append.1 hl with hold | hnew
    · exact Nat.lt_of_lt_of_le (h.lt_called l hold) hcalled
    · obtain ⟨-, c, hc, hlead⟩ := hsends l (Option.mem_toList.1 hnew)
      rw [← call_of_lead? hlead]
      exact haccounted.lt_called _ _ (haccounted.sent c hc)
  · intro c hc l hl
    rcases hcalls c hc with hold | ⟨-, hnot | hlead⟩
    · exact List.mem_append_left _ (h.known c hold l hl)
    · rw [hl] at hnot
      cases hnot
    · exact List.mem_append_right _ (Option.mem_toList.2 (hlead ▸ hl))
  · intro l hl
    rcases List.mem_append.1 hl with hold | hnew
    · exact (h.ended_or_waits l hold).imp (fun hended => hasEnded_append hended _) hwaits
    · exact .inr (hsends l (Option.mem_toList.1 hnew)).2
  · have hnew : lead.toList.countP (·.hasEnded (history ++ (s.step e).2)) = 0 := by
      rw [List.countP_eq_zero]
      intro l hl
      obtain ⟨-, c, hc, hlead⟩ := hsends l (Option.mem_toList.1 hl)
      rw [haccounted.hasEnded_eq_false hc hlead]
      exact Bool.false_ne_true
    rw [hroutes, h.navigated, List.countP_append, hnew, Nat.add_zero]
    exact (List.countP_congr fun l hl => by rw [hsame l hl]).symm

/-- One of the operations has just ended. -/
theorem countP_hasEnded_succ {later : List Effect} (h : started.Pairwise fun l m => l.call < m.call)
    (hl : l ∈ started) (hbefore : l.hasEnded history = false) (hafter : l.hasEnded later = true)
    (hsame : ∀ m ∈ started, m.call ≠ l.call → m.hasEnded later = m.hasEnded history) :
    started.countP (·.hasEnded later) = started.countP (·.hasEnded history) + 1 := by
  obtain ⟨earlier, others, rfl⟩ := List.append_of_mem hl
  obtain ⟨-, hothers, hearlier⟩ := List.pairwise_append.1 h
  have hfirst : earlier.countP (·.hasEnded later) = earlier.countP (·.hasEnded history) := by
    refine List.countP_congr fun m hm => ?_
    rw [hsame m (List.mem_append_left _ hm)
      (Nat.ne_of_lt (hearlier m hm l List.mem_cons_self))]
  have hlast : others.countP (·.hasEnded later) = others.countP (·.hasEnded history) := by
    refine List.countP_congr fun m hm => ?_
    rw [hsame m (List.mem_append_right _ (List.mem_cons_of_mem _ hm))
      (Nat.ne_of_gt ((List.pairwise_cons.1 hothers).1 m hm))]
  rw [List.countP_append, List.countP_append, List.countP_cons, List.countP_cons, hfirst, hlast,
    if_pos hafter, if_neg (by simp [hbefore])]
  rfl

/-- The answer to the search of one of the operations. -/
theorem Led.ends (h : Led s history started) {id : Nat} {p : Pending}
    {a : Except Failure ResultPage} {o : Outcome} (hid : s.pending? id = some p)
    (hl : InFlight.lead? ⟨id, p⟩ = some l) (hends : Ends (s.forget id) l o st)
    (hst : s.step (.reply id (.search a)) = (st.1, .answered id (.search a) :: st.2)) :
    Led (s.step (.reply id (.search a))).1 (history ++ (s.step (.reply id (.search a))).2)
      started := by
  have haccounted := h.accounted_step (.reply id (.search a))
  have hmem : ⟨id, p⟩ ∈ s.calls := mem_of_pending? hid
  have hcall : id = l.call := call_of_lead? hl
  have hfx : (s.step (.reply id (.search a))).2 =
      [.answered l.call (.search a), .finished l.op (l.report o)] := by
    rw [hst, hends.effects, hcall]
  have hcalls : (s.step (.reply id (.search a))).1.calls = (s.forget id).calls := by
    rw [hst]
    exact hends.calls
  have hended : l.hasEnded (history ++ (s.step (.reply id (.search a))).2) = true := by
    rw [hfx]
    exact hasEnded_report l history a o
  have hwaits {m : Lead} (hm : m.call ≠ l.call) (hc : ∃ c ∈ s.calls, c.lead? = some m) :
      ∃ c ∈ (s.step (.reply id (.search a))).1.calls, c.lead? = some m := by
    obtain ⟨c, hc, hlead⟩ := hc
    refine ⟨c, ?_, hlead⟩
    rw [hcalls, mem_forget, call_of_lead? hlead, hcall]
    exact ⟨hc, hm⟩
  refine ⟨haccounted, h.ordered, ?_, ?_, ?_, ?_⟩
  · rw [hst, show st.1.called = s.called from hends.called]
    exact h.lt_called
  · intro c hc
    rw [hcalls] at hc
    exact h.known c (mem_forget.1 hc).1
  · intro m hm
    rcases h.ended_or_waits m hm with hdone | hwaiting
    · exact .inl (hasEnded_append hdone _)
    · by_cases hml : m.call = l.call
      · obtain ⟨c, hc, hlead⟩ := hwaiting
        have hsame : s.pending? c.id = some c.pending := h.accounted.pending?_of_mem hc
        rw [call_of_lead? hlead, hml, ← hcall, hid] at hsame
        have hcl : c.lead? = InFlight.lead? ⟨id, p⟩ := by
          rw [Option.some.inj hsame, hcall, ← hml, ← call_of_lead? hlead]
        rw [hcl, hl] at hlead
        cases hlead
        exact .inl hended
      · exact .inr (hwaits hml hwaiting)
  · rw [countP_hasEnded_succ h.ordered (h.known _ hmem l hl)
      (h.accounted.hasEnded_eq_false hmem hl) hended, ← h.navigated, hst]
    · rw [show st.1.routes = s.routes ++ [.searchResults] from hends.routes, List.length_append]
      rfl
    · intro m hm hml
      rcases h.ended_or_waits m hm with hdone | hwaiting
      · rw [hdone, hasEnded_append hdone]
      · obtain ⟨c, hc, hlead⟩ := hwaiting
        obtain ⟨d, hd, hlead'⟩ := hwaits hml ⟨c, hc, hlead⟩
        rw [h.accounted.hasEnded_eq_false hc hlead, haccounted.hasEnded_eq_false hd hlead']

theorem Led.step (h : Led s history started) (e : Event) :
    Led (s.step e).1 (history ++ (s.step e).2) (started ++ (s.lead? e).toList) := by
  rcases s.step_leads_cases e with hleads | ⟨id, r, p, st, rfl, hid, htake, hst⟩
  · refine h.goesOn hleads.routes hleads.called hleads.calls
      (fun c _ _ _ r => hleads.answers c.id r) fun l hl => ?_
    obtain ⟨hcall, hwaits, -⟩ := hleads.sends l hl
    exact ⟨hcall, hwaits⟩
  · rcases take_cases _ id htake with ⟨l, a, o, hl, rfl, hends⟩ | ⟨hnone, hleads⟩
    · have hled := h.ends hid hl hends hst
      rwa [← List.append_nil started] at hled
    · show Led _ _ (started ++ (none : Option Lead).toList)
      apply h.goesOn
      · rw [hst]
        exact hleads.routes
      · rw [hst]
        exact hleads.called
      · intro c hc
        rw [hst] at hc
        exact (hleads.calls c hc).imp_left fun hold => (mem_forget.1 hold).1
      · intro c hc l hl q hq
        rw [hst, List.mem_cons] at hq
        rcases hq with heq | hq
        · cases heq
          have hp := (h.accounted.pending?_of_mem hc).symm.trans hid
          rw [← Option.some.inj hp, hl] at hnone
          cases hnone
        · exact hleads.answers _ _ hq
      · exact nofun

theorem Led.steps (h : Led s history started) (es : List Event) :
    Led (s.steps es).1 (history ++ (s.steps es).2) (started ++ s.leads es) := by
  induction es generalizing s history started with
  | nil => simpa [Session.steps, leads] using h
  | cons e es ih => simpa [Session.steps, Step.andThen, leads] using ih (h.step e)

/-- The next event starts an operation with a search of its own, or none that leads to the results;
and it navigates nowhere, unless it is the answer to the search of an operation that ends with it. -/
theorem Led.next (h : Led s history started) (e : Event) :
    (∀ l, s.lead? e = some l →
      l.call = s.called ∧ ∃ request, (s.step e).2 = [.call l.call (.search request)]) ∧
    ((s.step e).1.routes = s.routes ∨ ∃ l ∈ started, ∃ a o, e = .reply l.call (.search a) ∧
      (s.step e).2 = [.answered l.call (.search a), .finished l.op (l.report o)] ∧
      (s.step e).1.routes = s.routes ++ [.searchResults]) := by
  rcases s.step_leads_cases e with hleads | ⟨id, r, p, st, rfl, hid, htake, hst⟩
  · refine ⟨fun l hl => ?_, .inl hleads.routes⟩
    obtain ⟨hcall, -, hsends⟩ := hleads.sends l hl
    exact ⟨hcall, hcall ▸ hsends⟩
  · refine ⟨nofun, ?_⟩
    rw [hst]
    rcases take_cases _ id htake with ⟨l, a, o, hl, rfl, hends⟩ | ⟨-, hleads⟩
    · have hcall : id = l.call := call_of_lead? hl
      refine .inr ⟨l, h.known _ (mem_of_pending? hid) l hl, a, o, by rw [hcall], ?_, hends.routes⟩
      rw [hends.effects, hcall]
    · exact .inl hleads.routes

/-- An operation has ended exactly if its own search has been answered. -/
theorem Led.hasEnded_iff_answered (h : Led s history started) (hl : l ∈ started) :
    l.hasEnded history = true ↔ ∃ r, .answered l.call r ∈ history := by
  constructor
  · intro hended
    obtain ⟨before, a, r, after, rfl, -⟩ := hasEnded_iff.1 hended
    exact ⟨.search a, List.mem_append_right _ List.mem_cons_self⟩
  · rintro ⟨r, hr⟩
    refine (h.ended_or_waits l hl).resolve_right ?_
    rintro ⟨c, hc, hlead⟩
    exact (h.accounted.answered l.call r (List.mem_reverse.2 hr)).2 c hc (call_of_lead? hlead)

/-- In every run, the navigations so far are as many as the submits of a text that is not blank and
the commits from elsewhere than the results page that have ended, whatever their outcome. Each of
them sends one search of its own when it starts, and it has ended exactly if that has been answered.
A navigation happens only when the search of such an operation is answered, and the operation ends
with it; nothing else that happens navigates. -/
theorem navigations_count_ended_leads (settings : Settings) (mode : Mode) (filter : Watched Filter)
    (es : List Event) :
    let start := startWith settings mode filter
    let run := start.steps es
    let s := run.1
    let ended := (start.leads es).filter (·.hasEnded run.2)
    s.routes.length = ended.countP (·.kind = .submit) + ended.countP (·.kind = .commit) ∧
    (start.leads es).Pairwise (fun l m => l.call < m.call) ∧
    (∀ l ∈ start.leads es, l.hasEnded run.2 = true ↔ ∃ r, .answered l.call r ∈ run.2) ∧
    ∀ e,
      (∀ l, s.lead? e = some l →
        l.call = s.called ∧ ∃ request, (s.step e).2 = [.call l.call (.search request)]) ∧
      ((s.step e).1.routes = s.routes ∨
        ∃ l ∈ start.leads es, ∃ a o, e = .reply l.call (.search a) ∧
          (s.step e).2 = [.answered l.call (.search a), .finished l.op (l.report o)] ∧
          (s.step e).1.routes = s.routes ++ [.searchResults]) := by
  intro start run s ended
  have hled : Led s ([] ++ run.2) ([] ++ start.leads es) :=
    (Led.start settings mode filter).steps es
  rw [List.nil_append, List.nil_append] at hled
  refine ⟨?_, hled.ordered, fun l hl => hled.hasEnded_iff_answered hl, hled.next⟩
  have hcommits : ended.countP (fun l => ¬ l.kind = .submit) = ended.countP (·.kind = .commit) := by
    refine List.countP_congr fun l _ => ?_
    cases l.kind <;> simp
  calc
    s.routes.length = ended.length := hled.navigated.trans List.countP_eq_length_filter
    _ = ended.countP (·.kind = .submit) + ended.countP (fun l => ¬ l.kind = .submit) := by
      simpa using List.length_eq_countP_add_countP fun l : Lead => decide (l.kind = .submit)
    _ = _ := by rw [hcommits]

/-- A commit overtakes a submit and is answered first, and both of them end. -/
def overtakenSubmit : List Event :=
  [.command 0 (.type "milk"), .command 1 .submit, .command 2 (.commit "tea"),
    .reply 1 (.search (.ok {})), .reply 0 (.search (.ok {}))]

/-- The submit is superseded, and it leads to the results all the same. -/
theorem overtaken_submit_navigates :
    (startWith {} .standalone ⟨{}, 0⟩).leads overtakenSubmit =
        [⟨1, .submit, false, 0⟩, ⟨2, .commit, false, 1⟩] ∧
      (((startWith {} .standalone ⟨{}, 0⟩).steps overtakenSubmit).2.any fun
        | .finished op (.submitted (some .superseded)) => op == 1
        | _ => false) ∧
      ((startWith {} .standalone ⟨{}, 0⟩).steps overtakenSubmit).1.routes.length = 1 + 1 ∧
      ∃ request,
        (((startWith {} .standalone ⟨{}, 0⟩).steps overtakenSubmit).1.step
          (.command 3 .submit)).2 = [.call 2 (.search request)] := by
  have hleads : (startWith {} .standalone ⟨{}, 0⟩).leads overtakenSubmit =
      [⟨1, .submit, false, 0⟩, ⟨2, .commit, false, 1⟩] := by decide +kernel
  have hended : ((startWith {} .standalone ⟨{}, 0⟩).leads overtakenSubmit).filter
      (·.hasEnded ((startWith {} .standalone ⟨{}, 0⟩).steps overtakenSubmit).2) =
        (startWith {} .standalone ⟨{}, 0⟩).leads overtakenSubmit :=
    List.filter_eq_self.2 (by decide +kernel)
  have hlead : ((startWith {} .standalone ⟨{}, 0⟩).steps overtakenSubmit).1.lead?
      (.command 3 .submit) = some ⟨3, .submit, false, 2⟩ := by decide +kernel
  obtain ⟨hcount, -, -, hnext⟩ :=
    navigations_count_ended_leads {} .standalone ⟨{}, 0⟩ overtakenSubmit
  obtain ⟨-, hsends⟩ := (hnext (.command 3 .submit)).1 _ hlead
  refine ⟨hleads, by decide +kernel, ?_, hsends⟩
  rw [hcount, hended, hleads]
  rfl

end NoteSearch.Session
