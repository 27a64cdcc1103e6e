-- SUMMARY: When the filter of an executed saved search lasts: if no live search was scheduled.
import NoteSearch.Proofs.Session.Executions
import NoteSearch.Proofs.Session.Loading
import NoteSearch.Proofs.Session.Overtaking

/-!
# The filter of an executed saved search

An execution makes its saved search the filter and searches for it. It does not drop the live write
that the search box has scheduled, though, and a live search that is still scheduled when the
filter is loaded puts the typed text into it later. So the filter lasts exactly if there is none
with another text than the query of the saved search.
-/

namespace NoteSearch

theorem SearchView.eq_of_content {v w : SearchView} (hcontent : v.content = w.content)
    (hloading : v.loading = w.loading) : v = w := by
  cases v
  cases w
  simp_all [SearchView.content]

namespace Session

variable {s t : Session} {fx past : List Effect}

/-! ## The answer to the latest search -/

/-- An unanswered search stays until its answer has been taken. -/
theorem Accounted.mem_calls_or_answered (h : Accounted s past) {id ticket : Nat}
    {request : Request} {purpose : SearchPurpose}
    (hc : ⟨id, .search ticket request purpose⟩ ∈ s.calls) (es : List Event) :
    ⟨id, .search ticket request purpose⟩ ∈ (s.steps es).1.calls ∨
      ∃ a, .answered id (.search a) ∈ (s.steps es).2 := by
  induction es generalizing s past with
  | nil => exact .inl hc
  | cons e es ih =>
    have hstep := h.step e
    have hkept := h.tidy.mem_calls_steps hc rfl [e]
    rw [steps_singleton] at hkept
    simp only [steps_cons, Step.andThen]
    rcases hkept with hmem | ⟨r, hr⟩
    · rcases ih hstep hmem with hlater | ⟨a, ha⟩
      · exact .inl hlater
      · exact .inr ⟨a, List.mem_append_right _ ha⟩
    · refine .inr ?_
      have hid := h.pending?_of_mem hc
      obtain rfl := eq_reply_of_answered hr
      rcases s.reply_cases id r with hignored | ⟨t, st, htaken, -, hst⟩
      · rw [Session.step, hignored] at hr
        simp at hr
      · cases htaken with
        | search a hq => exact ⟨a, List.mem_append_left _ hr⟩
        | notes a hq => exact absurd (hid.symm.trans hq) (by simp)
        | list a hq => exact absurd (hid.symm.trans hq) (by simp)
        | execute a hq => exact absurd (hid.symm.trans hq) (by simp)
        | plain r hq hplain hr =>
          rw [hid] at hq
          cases hq
          cases hplain

/-- Effects that start no search keep the latest search. -/
theorem latest_search_append (h : ∀ x ∈ fx, x.renewsSearch = false) :
    Pane.search.latest (fx ++ past) = Pane.search.latest past :=
  Pane.latest_append (fun x hx => x.renews_search.trans (h x hx)) past

/-- The answer to the latest search is the last one that is written until another is started. -/
theorem lastAnswer_append {id : Nat} {request : Request} {a : Except Failure ResultPage}
    (hlatest : Pane.search.latest past = some (id, .search request))
    (hsilent : ∀ x ∈ fx, x.renewsSearch = false) (ha : .answered id (.search a) ∈ fx) :
    ∃ b, lastAnswer (fx ++ past) = some (request, b) ∧ .answered id (.search b) ∈ fx := by
  induction fx with
  | nil => simp at ha
  | cons x fx ih =>
    rw [List.forall_mem_cons] at hsilent
    have hlatest' : Pane.search.latest (fx ++ past) = some (id, .search request) :=
      (latest_search_append hsilent.2).trans hlatest
    -- An effect before the answer does not matter.
    have hrest (hne : x ≠ .answered id (.search a))
        (hx : lastAnswer (x :: (fx ++ past)) = lastAnswer (fx ++ past)) :
        ∃ b, lastAnswer (x :: fx ++ past) = some (request, b) ∧
          .answered id (.search b) ∈ x :: fx := by
      obtain ⟨b, hlast, hb⟩ := ih hsilent.2 ((List.mem_cons.1 ha).resolve_left hne.symm)
      exact ⟨b, hx.trans hlast, List.mem_cons_of_mem _ hb⟩
    cases x with
    | call i c => exact hrest (by simp) rfl
    | finished op r => exact hrest (by simp) rfl
    | cleared => exact absurd hsilent.1 (by simp [Effect.renewsSearch])
    | answered i r =>
      cases r with
      | search b =>
        by_cases hi : id = i
        · subst hi
          exact ⟨b, by simp [lastAnswer, written?, hlatest'], List.mem_cons_self⟩
        · refine hrest (by simp [Ne.symm hi]) ?_
          simp [lastAnswer, written?, hlatest', hi]
      | _ => exact hrest (by simp) rfl

/-- Once all calls are answered, the page shows the answer to the latest search. -/
theorem Shows.shown_after (h : Shows s past) {id ticket : Nat} {request : Request}
    {purpose : SearchPurpose} (hc : ⟨id, .search ticket request purpose⟩ ∈ s.calls)
    (hlatest : Pane.search.latest past = some (id, .search request)) {es : List Event}
    (hsilent : ∀ x ∈ (s.steps es).2, x.renewsSearch = false)
    (hcalls : (s.steps es).1.calls = []) :
    ∃ a, .answered id (.search a) ∈ (s.steps es).2 ∧
      (s.steps es).1.search.value.view = SearchPane.shown request a := by
  have hfinal := h.steps es
  have hanswered := h.waiting.accounted.mem_calls_or_answered hc es
  simp only [hcalls, List.not_mem_nil, false_or] at hanswered
  obtain ⟨a, ha⟩ := hanswered
  have hsilent' : ∀ x ∈ (s.steps es).2.reverse, x.renewsSearch = false := by simpa using hsilent
  obtain ⟨b, hlast, hb⟩ := lastAnswer_append hlatest hsilent' (List.mem_reverse.2 ha)
  refine ⟨b, List.mem_reverse.1 hb, SearchView.eq_of_content ?_ ?_⟩
  · rw [content_shown, hfinal.content, hlast]
  · rw [SearchPane.loading_shown]
    exact hfinal.waiting.loading_of_calls_nil hcalls

/-! ## After a load -/

theorem isExecution_of_not_isCommand {e : Event} (h : e.isCommand = false) :
    e.isExecution = false := by
  cases e <;> first | rfl | cases h

/-- Nothing else is loaded after a load until the user does something. -/
theorem settles_after_load (h : Tidy s) (hnumbered : Numbered s) {e : Event} {n : Nat}
    {saved : SavedSearch} (hload : s.load? e = some (n, saved)) {after : List Event}
    (hafter : ∀ e ∈ after, e.isCommand = false) :
    (s.step e).1.Settles ((s.step e).1.steps after) := by
  have hwaits := (hnumbered.load_step hload).2
  exact steps_settles (h.step e) hafter
    (loads_eq_nil hwaits fun e he => isExecution_of_not_isCommand (hafter e he))

theorem liveSearch?_of_timers (h : s.timers = []) : s.liveSearch? = none := by
  have hwrites : s.writes = [] := by
    simpa using (List.append_eq_nil_iff.1 h).2
  simp [liveSearch?, hwrites]

/-- What becomes of a load when the user does nothing afterwards, all calls are answered and all
timers have rung. -/
theorem Shows.load_lasts_iff (h : Shows s past) (hnumbered : Numbered s) {e : Event} {n : Nat}
    {saved : SavedSearch} (hload : s.load? e = some (n, saved)) {after : List Event}
    (hafter : ∀ e ∈ after, e.isCommand = false) :
    let u := s.step e
    let v := u.1.steps after
    let loaded := Filter.ofRequest saved.request
    v.1.calls = [] → v.1.timers = [] →
    v.1.filter.value = withLiveSearch loaded s.liveSearch? ∧
    ((v.1.filter.value = loaded ∧
      ∃ id a, .call id (.search (loaded.request 1)) ∈ u.2 ∧ .answered id (.search a) ∈ v.2 ∧
        v.1.search.value.view = SearchPane.shown (loaded.request 1) a) ↔
      ∀ text, s.liveSearch? = some text → text = loaded.query) := by
  intro u v loaded hcalls htimers
  have hsettles : u.1.Settles v := settles_after_load h.waiting.accounted.tidy hnumbered hload hafter
  have hshows := h.steps [e]
  rw [steps_singleton] at hshows
  obtain ⟨id, op, results, -, -, -, hst⟩ := step_of_load? hload
  have hu : u = _ := hst
  have hfilter : u.1.filter.value = loaded := by
    rw [hu]
    rfl
  have hlive : u.1.liveSearch? = s.liveSearch? := by
    rw [hu]
    rfl
  have hsettled : u.1.settledFilter = withLiveSearch loaded s.liveSearch? := by
    rw [settledFilter, hfilter, hlive]
  have hfinal : v.1.filter.value = withLiveSearch loaded s.liveSearch? := by
    rw [← hsettled, ← hsettles.settled, settledFilter, liveSearch?_of_timers htimers]
    rfl
  have hstill : u.1.Still ↔ ∀ text, s.liveSearch? = some text → text = loaded.query := by
    simp only [Still, hlive, hfilter]
  refine ⟨hfinal, ?_, ?_⟩
  · intro hlasts
    apply hstill.1
    apply u.1.settledFilter_eq_iff.1
    rw [hsettled, ← hfinal, hfilter]
    exact hlasts.1
  · intro hsame
    -- No search is started after the one of the load, so its answer is shown.
    obtain ⟨-, hkept, hsilent⟩ := hsettles.still (hstill.2 hsame)
    have hcall : .call s.called (.search (loaded.request 1)) ∈ u.2 := by
      rw [hu]
      exact List.mem_cons_of_mem _ List.mem_cons_self
    have hlatest : Pane.search.latest (u.2.reverse ++ past) =
        some (s.called, .search (loaded.request 1)) := by
      rw [hu]
      rfl
    have hsearch : ⟨s.called, .search u.1.search.value.issued (loaded.request 1)
        (.execution op)⟩ ∈ u.1.calls := by
      rw [hu]
      exact List.mem_append_right _ (List.mem_singleton.2 rfl)
    obtain ⟨a, ha, hview⟩ := hshows.shown_after hsearch hlatest hsilent hcalls
    exact ⟨hkept.trans hfilter, s.called, a, hcall, ha, hview⟩

/-- The use of an executed saved search is counted, and from the execution on the user does
nothing. When all calls are answered and all timers have rung, the filter is the saved search and
the results page shows the answer to the search for it, exactly if the live search that was
scheduled at the load, if there was one, was for the query of the saved search. -/
theorem executed_filter_lasts_iff (settings : Settings) (mode : Mode) (filter : Watched Filter)
    (before : List Event) (op : OperationId) (saved : SavedSearch) (between : List Event)
    (results : ResultPage) (after : List Event) :
    let s := ((startWith settings mode filter).steps before).1
    let t := (s.step (.command op (.execute saved))).1.steps between
    let u := t.1.step (.reply s.called (.executeSaved (.ok results)))
    let v := u.1.steps after
    let loaded := Filter.ofRequest saved.request
    (∀ e ∈ between ++ after, e.isCommand = false) →
    (∀ r, .answered s.called r ∉ t.2) →
    v.1.calls = [] → v.1.timers = [] →
    v.1.filter.value = withLiveSearch loaded t.1.liveSearch? ∧
    ((v.1.filter.value = loaded ∧
      ∃ id a, .call id (.search (loaded.request 1)) ∈ u.2 ∧ .answered id (.search a) ∈ v.2 ∧
        v.1.search.value.view = SearchPane.shown (loaded.request 1) a) ↔
      ∀ text, t.1.liveSearch? = some text → text = loaded.query) := by
  intro s t u v loaded hidle hnone
  have hshows : Shows s _ := (Shows.start settings mode filter).steps before
  have hnumbered : Numbered s := (Numbered.start settings mode filter).steps before
  have hover : ¬ ∃ e ∈ between, e.isExecution = true := by
    rintro ⟨e, he, hexecution⟩
    have hfalse := isExecution_of_not_isCommand (hidle e (List.mem_append_left _ he))
    simp [hfalse] at hexecution
  obtain ⟨hloads, -⟩ :=
    hshows.waiting.accounted.execution_answer op saved between (.ok results) hnone
  have hload := hloads.2 ⟨hover, results, rfl⟩
  have ht : Shows t.1 _ := (hshows.execute op saved).steps between
  have htnumbered : Numbered t.1 := (hnumbered.step (.command op (.execute saved))).steps between
  exact ht.load_lasts_iff htnumbered hload fun e he => hidle e (List.mem_append_right _ he)

/-- The typed text is the query of the executed saved search, so the live search that is still
scheduled at the load changes nothing. -/
theorem executed_filter_lasts_same_text :
    let saved : SavedSearch := { id := 1, name := "drafts", request := { query := some "draft" } }
    let s := ((startWith {} .searchPage ⟨{}, 0⟩).steps [.command 0 (.type "draft ")]).1
    let t := (s.step (.command 1 (.execute saved))).1.steps []
    let u := t.1.step (.reply s.called (.executeSaved (.ok {})))
    let v := u.1.steps [.wait 600, .reply 1 (.search (.ok { total := 1 })),
      .reply 2 (.suggestions (.ok [])), .reply 3 (.listSaved (.ok [saved]))]
    t.1.liveSearch? = some "draft" ∧ v.1.calls = [] ∧ v.1.timers = [] ∧
      v.1.filter.value = .ofRequest saved.request := by
  intro saved s t u v
  have hlive : t.1.liveSearch? = some "draft" := by decide +kernel
  have hcalls : v.1.calls = [] := List.isEmpty_iff.1 (by decide +kernel)
  have htimers : v.1.timers = [] := List.isEmpty_iff.1 (by decide +kernel)
  have hmain := executed_filter_lasts_iff {} .searchPage ⟨{}, 0⟩
    [.command 0 (.type "draft ")] 1 saved [] {}
    [.wait 600, .reply 1 (.search (.ok { total := 1 })), .reply 2 (.suggestions (.ok [])),
      .reply 3 (.listSaved (.ok [saved]))]
  extract_lets loaded at hmain
  obtain ⟨-, hlasts⟩ := hmain (by simp [Event.isCommand]) (fun r hr => nomatch hr) hcalls htimers
  refine ⟨hlive, hcalls, htimers, (hlasts.2 ?_).1⟩
  intro text htext
  obtain rfl : "draft" = text := Option.some.inj (hlive.symm.trans htext)
  decide +kernel

/-- The live search that is still scheduled at the load has another text, and it overwrites the
query of the executed saved search. -/
theorem executed_filter_overwritten :
    let saved : SavedSearch := { id := 1, name := "drafts", request := { query := some "draft" } }
    let s := ((startWith {} .searchPage ⟨{}, 0⟩).steps [.command 0 (.type "x")]).1
    let t := (s.step (.command 1 (.execute saved))).1.steps []
    let u := t.1.step (.reply s.called (.executeSaved (.ok {})))
    let v := u.1.steps [.reply 1 (.search (.ok { total := 1 })),
      .reply 2 (.listSaved (.ok [saved])), .wait 600, .reply 3 (.search (.ok {}))]
    u.1.filter.value = .ofRequest saved.request ∧ v.1.calls = [] ∧ v.1.timers = [] ∧
      v.1.filter.value = (Filter.ofRequest saved.request).setQuery "x" ∧
      v.1.filter.value ≠ .ofRequest saved.request := by
  intro saved s t u v
  have hcalls : v.1.calls = [] := List.isEmpty_iff.1 (by decide +kernel)
  have htimers : v.1.timers = [] := List.isEmpty_iff.1 (by decide +kernel)
  have hloaded : u.1.filter.value = .ofRequest saved.request := by decide +kernel
  refine ⟨hloaded, hcalls, htimers, ?_, ?_⟩
  · decide +kernel
  · decide +kernel

end Session

end NoteSearch
