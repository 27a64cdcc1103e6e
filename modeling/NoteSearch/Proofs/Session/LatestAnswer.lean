-- SUMMARY: The results page shows the latest answer that no later search has overtaken.
import NoteSearch.Proofs.Session.Panes

/-!
# The latest answer

Searches may be answered in any order. An answer is written if it is the answer to the latest
search and the page has not been emptied since; `lastAnswer` reads this off the effects of a run,
without tickets. The results page shows what it gives, and a search reports how it has ended
accordingly.
-/

namespace NoteSearch

open Session

/-- What the results page shows, apart from whether it loads. -/
def SearchView.content (v : SearchView) : ResultPage × Option String × Highlight.Terms :=
  (v.results, v.error, v.terms)

namespace Session

variable {s t : Session} {fx past : List Effect}

/-! ## Answers that are written -/

/-- The answer to the call `id` after `past`, with the request that it answers, if that is the
latest search and the page has not been emptied since. -/
def written? (past : List Effect) (id : Nat) (a : Except Failure ResultPage) :
    Option (Request × Except Failure ResultPage) :=
  match Pane.search.latest past with
  | some (i, .search request) => if i = id then some (request, a) else none
  | _ => none

/-- The latest answer that has been written since the page was last emptied; the latest effect is
the first one of the list. -/
def lastAnswer : List Effect → Option (Request × Except Failure ResultPage)
  | [] => none
  | .cleared :: _ => none
  | .answered id (.search a) :: past => (written? past id a).or (lastAnswer past)
  | _ :: past => lastAnswer past

/-- What an answer gives to show. -/
def contentOf : Option (Request × Except Failure ResultPage) →
    ResultPage × Option String × Highlight.Terms
  | none => ({}, none, {})
  | some (request, .ok results) => (results, none, .ofQuery (request.query.getD ""))
  | some (_, .error failure) => ({}, some (failure.explanation?.getD "Search failed"), {})

theorem content_shown (request : Request) (a : Except Failure ResultPage) :
    (SearchPane.shown request a).content = contentOf (some (request, a)) := by
  cases a <;> rfl

theorem lastAnswer_plain {id : Nat} {r : Reply} (hr : r.isPlain = true) :
    lastAnswer (.answered id r :: past) = lastAnswer past := by
  cases r <;> first | rfl | cases hr

/-- The number of a call belongs to one call only. -/
theorem Accounted.call_eq (h : Accounted s past) {c : InFlight} (hc : c ∈ s.calls) {d : Call}
    (hcall : .call c.id d ∈ past) (hd : d.isFetch = false) : d = c.pending.call := by
  rcases h.kept c.id d hcall hd with ⟨c', hc', hid, rfl⟩ | ⟨r, hr⟩
  · have hpending := h.pending?_of_mem hc'
    rw [hid, h.pending?_of_mem hc] at hpending
    rw [Option.some.inj hpending]
  · exact absurd rfl ((h.answered c.id r hr).2 c hc)

/-- An answer is written exactly if it has the latest ticket. -/
theorem Waiting.written?_eq (h : Waiting .search s past) {id ticket : Nat} {request : Request}
    {purpose : SearchPurpose} (hid : s.pending? id = some (.search ticket request purpose))
    (a : Except Failure ResultPage) :
    written? past id a = if ticket = s.search.value.issued then some (request, a) else none := by
  have hmem := mem_of_pending? hid
  have hlatest := h.latest _ hmem ticket rfl
  split
  · rename_i hticket
    simp [written?, hlatest.1 hticket, Pending.call]
  · rename_i hticket
    unfold written?
    split
    · rename_i i request' hlast
      rw [if_neg]
      rintro rfl
      obtain ⟨hasks, hcall⟩ := Pane.of_latest hlast
      have hsame := h.accounted.call_eq hmem hcall (Pane.isFetch_of_asks hasks)
      exact hticket (hlatest.2 (hsame ▸ hlast))
    · rfl

/-! ## What the page shows -/

/-- The results page shows what the latest written answer gives. -/
structure Shows (s : Session) (past : List Effect) : Prop where
  waiting : Waiting .search s past
  content : s.search.value.view.content = contentOf (lastAnswer past)

theorem Shows.start (settings : Settings) (mode : Mode) (filter : Watched Filter) :
    Shows (startWith settings mode filter) [] :=
  ⟨.start .search settings mode filter, rfl⟩

theorem Shows.move (h : Shows s past) (m : Move s fx t) : Shows t (fx.reverse ++ past) := by
  refine ⟨h.waiting.move m, ?_⟩
  cases m with
  | quiet ha =>
    rw [ha.search]
    exact h.content
  | finish op r => exact h.content
  | dropFetches g => exact h.content
  | search page purpose hmay => exact h.content
  | clear => rfl
  | notes page purpose hmay => exact h.content
  | refresh op r => exact h.content
  | send p hp => exact h.content
  | cancelWrite =>
    obtain ⟨box, writes, calls, hs⟩ := s.exists_cancelWrite
    rw [hs]
    exact h.content
  | retype text =>
    obtain ⟨box, writes, calls, hs⟩ := s.exists_retype text
    rw [hs]
    exact h.content
  | wake number => exact h.content

theorem Shows.execute (h : Shows s past) (op : OperationId) (saved : SavedSearch) :
    Shows (s.execute op saved).1 ((s.execute op saved).2.reverse ++ past) :=
  ⟨h.waiting.execute op saved, h.content⟩

theorem Shows.taken (h : Shows s past) {id : Nat} {r : Reply} (m : Taken s id r t) :
    Shows t (.answered id r :: past) := by
  refine ⟨h.waiting.taken m, ?_⟩
  cases m with
  | search a hq =>
    simp only [lastAnswer, h.waiting.written?_eq hq a, SearchPane.receive]
    split
    · exact content_shown _ a
    · exact h.content
  | notes a hq => exact h.content
  | list a hq => exact h.content
  | execute a hq => exact h.content
  | plain r hq hplain hr =>
    rw [lastAnswer_plain hr]
    exact h.content

theorem Shows.steps (h : Shows s past) (es : List Event) :
    Shows (s.steps es).1 ((s.steps es).2.reverse ++ past) :=
  keep_steps Shows (fun m h => h.move m) (fun op saved h => h.execute op saved)
    (fun m h => h.taken m) h es

/-! ## Tickets count the searches -/

end Session

/-- The answer with the latest ticket is written; any other changes nothing and is superseded. -/
theorem SearchPane.receive_cases (w : Watched SearchPane) (ticket : Nat) (request : Request)
    (a : Except Failure ResultPage) :
    let received := SearchPane.receive w ticket request a
    let written := received.1 = w.update fun p => { p with view := SearchPane.shown request a }
    (written ↔ ticket = w.value.issued) ∧
    (received.2 = .applied ↔ written ∧ ∃ results, a = .ok results) ∧
    (∀ m, received.2 = .failed m ↔
      written ∧ ∃ failure, a = .error failure ∧ m = failure.explanation?.getD "Search failed") ∧
    (received.2 = .superseded ↔ received.1 = w) := by
  have hne (f : SearchPane → SearchPane) : w.update f ≠ w := fun heq => by
    have hrevision := congrArg Watched.revision heq
    simp at hrevision
  intro received written
  by_cases hticket : ticket = w.value.issued
  · have hwritten : written := by simp [written, received, SearchPane.receive, hticket]
    have houtcome : received.2 = SearchPane.outcome a := by
      simp [received, SearchPane.receive, hticket]
    refine ⟨by simp [hwritten, hticket], ?_⟩
    rw [houtcome]
    simp only [hwritten, true_and]
    rw [hwritten]
    cases a with
    | ok results => simp [SearchPane.outcome, hne]
    | error failure =>
      simp [SearchPane.outcome, hne, Failure.userMessage, SearchPane.fallback, eq_comm]
  · have hreceived : received = (w, .superseded) := by simp [received, SearchPane.receive, hticket]
    have hwritten : ¬ written := fun h => hne _ ((congrArg Prod.fst hreceived).symm.trans h).symm
    simp [hwritten, hticket, hreceived]

/-- Whether a search is started or the results page is emptied. -/
def Effect.renewsSearch : Effect → Bool
  | .call _ (.search _) => true
  | .cleared => true
  | _ => false

namespace Session

variable {s t : Session} {fx past : List Effect}

theorem renewsSearch_plain (id : Nat) {p : Pending} (hp : p.isPlain = true) :
    (Effect.call id p.call).renewsSearch = false := by
  cases p <;> first | rfl | cases hp

theorem Move.issued_search (m : Move s fx t) :
    t.search.value.issued = s.search.value.issued + fx.countP Effect.renewsSearch := by
  cases m with
  | quiet ha => simp [ha.search]
  | search page purpose hmay => rfl
  | clear => rfl
  | send p hp => simp [Session.send, renewsSearch_plain s.called hp]
  | cancelWrite =>
    obtain ⟨box, writes, calls, hs⟩ := s.exists_cancelWrite
    simp [hs]
  | retype text =>
    obtain ⟨box, writes, calls, hs⟩ := s.exists_retype text
    simp [hs]
  | _ => rfl

theorem Taken.issued_search {id : Nat} {r : Reply} (m : Taken s id r t) :
    t.search.value.issued = s.search.value.issued := by
  cases m with
  | search a hq => exact SearchPane.issued_receive ..
  | _ => rfl

/-- The tickets of the results page count the searches and the times it has been emptied. -/
theorem issued_search_steps (s : Session) (es : List Event) :
    (s.steps es).1.search.value.issued =
      s.search.value.issued + (s.steps es).2.countP Effect.renewsSearch := by
  let Inv (u : Session) (past : List Effect) : Prop :=
    u.search.value.issued = s.search.value.issued + past.countP Effect.renewsSearch
  have hmove {t u : Session} {fx past : List Effect} (m : Move t fx u) (ht : Inv t past) :
      Inv u (fx.reverse ++ past) := by
    show u.search.value.issued = _
    rw [m.issued_search, ht, List.countP_append, List.countP_reverse]
    omega
  have hrun : Inv (s.steps es).1 ((s.steps es).2.reverse ++ []) :=
    keep_steps Inv hmove (fun op saved h => h) (fun m h => m.issued_search.trans h) rfl es
  simpa [Inv] using hrun

/-- The ticket of a search is the latest one as long as no other search is started. -/
theorem issued_search_steps_eq_iff (s : Session) (es : List Event) :
    s.search.value.issued = (s.steps es).1.search.value.issued ↔
      ∀ x ∈ (s.steps es).2, x.renewsSearch = false := by
  have hzero := List.countP_eq_zero (p := Effect.renewsSearch) (l := (s.steps es).2)
  simp only [Bool.not_eq_true] at hzero
  rw [issued_search_steps, ← hzero]
  omega

/-! ## Searches of the user -/

/-- The request of a command that only searches. -/
def searched? (s : Session) : Command → Option Request
  | .run page => some (s.filter.value.request (page.getD s.filter.value.page))
  | .goToPage page =>
    some ((s.filter.value.setPage page).request (s.filter.value.setPage page).page)
  | _ => none

theorem perform_searched {c : Command} {request : Request} (h : s.searched? c = some request)
    (op : OperationId) :
    (s.perform op c).2 = [.call s.called (.search request)] ∧
    (s.perform op c).1.search.value.issued = s.search.value.issued + 1 ∧
    (s.perform op c).1.calls =
      s.calls ++ [⟨s.called, .search (s.search.value.issued + 1) request (.run op)⟩] := by
  cases c with
  | run page =>
    cases h
    exact ⟨rfl, rfl, rfl⟩
  | goToPage page =>
    cases h
    exact ⟨rfl, rfl, rfl⟩
  | _ => cases h

/-- The results page takes the reply to a search, and then what the search was for goes on. -/
theorem Accounted.reply_search (h : Accounted s past) {id ticket : Nat} {request : Request}
    {purpose : SearchPurpose} (hc : ⟨id, .search ticket request purpose⟩ ∈ s.calls)
    (a : Except Failure ResultPage) :
    let received := SearchPane.receive s.search ticket request a
    let ended := ({ s.forget id with search := received.1 } : Session).afterSearch received.2 purpose
    s.reply id (.search a) = (ended.1, .answered id (.search a) :: ended.2) :=
  reply_of_take (h.pending?_of_mem hc) rfl

/-- The reply to a search of the user ends its operation. -/
theorem Accounted.reply_run (h : Accounted s past) {id ticket : Nat} {request : Request}
    {op : OperationId} (hc : ⟨id, .search ticket request (.run op)⟩ ∈ s.calls)
    (a : Except Failure ResultPage) :
    s.reply id (.search a) =
      ({ s.forget id with search := (SearchPane.receive s.search ticket request a).1 },
        [.answered id (.search a),
          .finished op (.outcome (SearchPane.receive s.search ticket request a).2)]) :=
  h.reply_search hc a

/-- In every run, the results page shows what the latest written answer gives. The answer to a
search of the user is written exactly if no other search has been started and the page has not
been emptied since, whatever else happens in between; the search is superseded exactly if its
answer changes nothing. -/
theorem shows_latest_answer (settings : Settings) (mode : Mode) (filter : Watched Filter)
    (es : List Event) :
    let run := (startWith settings mode filter).steps es
    let s := run.1
    s.search.value.view.content = contentOf (lastAnswer run.2.reverse) ∧
    ∀ op c request, s.searched? c = some request →
      (s.step (.command op c)).2 = [.call s.called (.search request)] ∧
      ∀ (between : List Event) (a : Except Failure ResultPage),
        let t := (s.step (.command op c)).1.steps between
        (∀ r, .answered s.called r ∉ t.2) →
        let u := t.1.step (.reply s.called (.search a))
        let written := u.1.search =
          t.1.search.update fun p => { p with view := SearchPane.shown request a }
        (written ↔ ∀ x ∈ t.2, x.renewsSearch = false) ∧
        ∃ o, u.2 = [.answered s.called (.search a), .finished op (.outcome o)] ∧
          (o = .applied ↔ written ∧ ∃ results, a = .ok results) ∧
          (∀ m, o = .failed m ↔ written ∧
            ∃ failure, a = .error failure ∧ m = failure.explanation?.getD "Search failed") ∧
          (o = .superseded ↔ u.1.search = t.1.search) := by
  intro run s
  have hshows : Shows s (run.2.reverse ++ []) := (Shows.start settings mode filter).steps es
  refine ⟨by simpa using hshows.content, ?_⟩
  intro op c request hc
  obtain ⟨heffects, hissued, hcalls⟩ := perform_searched hc op
  refine ⟨heffects, ?_⟩
  intro between a t hnone u written
  have hacc := (hshows.waiting.accounted.steps [.command op c]).steps between
  have hsearch := (hshows.waiting.accounted.steps [.command op c]).tidy.mem_calls_steps
    (c := ⟨s.called, .search (s.search.value.issued + 1) request (.run op)⟩)
    (by simp [steps, step, Step.andThen, hcalls]) rfl between
  simp only [steps, Step.andThen] at hacc hsearch
  have hmem := hsearch.resolve_right (not_exists.2 hnone)
  have hlatest := issued_search_steps_eq_iff (s.step (.command op c)).1 between
  rw [step, hissued] at hlatest
  obtain ⟨hwritten, hends⟩ :=
    SearchPane.receive_cases t.1.search (s.search.value.issued + 1) request a
  have hu := hacc.reply_run hmem a
  have hpage : u.1.search = (SearchPane.receive t.1.search _ request a).1 := congrArg (·.1.search) hu
  simp only [written, hpage]
  exact ⟨hwritten.trans hlatest, _, congrArg Prod.snd hu, hends⟩

/-- The answers to two searches come in reverse order: the earlier search is superseded, and the
page goes on showing the answer to the later one. -/
theorem shows_later_search :
    let s := ((start {} .standalone).steps [.command 0 (.filter (.setQuery "first"))]).1
    let between : List Event :=
      [.command 2 (.filter (.setQuery "second")), .command 3 (.run none),
        .reply 1 (.search (.ok { total := 1 }))]
    let t := (s.step (.command 1 (.run none))).1.steps between
    let late : Except Failure ResultPage := .error (.transport "late")
    let u := t.1.step (.reply 0 (.search late))
    u.2 = [.answered 0 (.search late), .finished 1 (.outcome .superseded)] ∧
      t.1.search.value.view.content = ({ total := 1 }, none, .ofQuery "second") ∧
      u.1.search = t.1.search := by
  intro s between t late u
  obtain ⟨-, hruns⟩ := shows_latest_answer {} .standalone (start {} .standalone).filter
    [.command 0 (.filter (.setQuery "first"))]
  obtain ⟨hsent, hanswer⟩ := hruns 1 (.run none) { query := some "first" } (by rfl)
  have hunanswered : ∀ r, Effect.answered 0 r ∉ t.2 := by
    intro r hr
    have := reply_mem_of_answered hr
    simp [between] at this
  obtain ⟨hwritten, o, hfx, -, -, ho⟩ := hanswer between late hunanswered
  have hsame : u.1.search = t.1.search := by rfl
  obtain rfl := ho.2 hsame
  let run := (start {} .standalone).steps
    ([.command 0 (.filter (.setQuery "first")), .command 1 (.run none)] ++ between)
  have hlast : lastAnswer run.2.reverse = some ({ query := some "second" }, .ok { total := 1 }) := by
    rfl
  have hshown := (shows_latest_answer {} .standalone (start {} .standalone).filter
    ([.command 0 (.filter (.setQuery "first")), .command 1 (.run none)] ++ between)).1
  exact ⟨hfx, hshown.trans (congrArg contentOf hlast), hsame⟩

end Session

end NoteSearch
