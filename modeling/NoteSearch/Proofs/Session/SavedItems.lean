-- SUMMARY: The saved searches are the latest list taken, without what has been deleted since.
import NoteSearch.Proofs.Session.PaneContents

/-!
# The list of saved searches

Whatever changes the saved searches has the list loaded again, so many requests for it may be
unanswered at a time; and a deletion removes an entry on this side as well. The ledger of a history
has the latest list that was taken and what has been deleted since. As a deletion asks for the list
itself, no list that was asked for before it is taken after it, and a deleted entry stays away
unless a list that was asked for later has it.
-/

namespace NoteSearch

/-- What the replies so far give to show. -/
structure SavedLedger where
  /-- The latest list that was taken. -/
  listed : List SavedSearch := []
  /-- What has been deleted since. -/
  deleted : List Int64 := []
  error : Option String := none

namespace SavedLedger

/-- A list is taken. A failure keeps what is shown and adds the error. -/
def settle (l : SavedLedger) : Except Failure (List SavedSearch) → SavedLedger
  | .ok items => { listed := items }
  | .error failure =>
    { l with error := some (failure.explanation?.getD "Failed to load saved searches") }

/-- What the ledger gives to show. -/
def content (l : SavedLedger) : List SavedSearch × Option String :=
  (l.listed.filter fun x => !l.deleted.contains x.id, l.error)

end SavedLedger

/-- The saved search that the call `id` deletes, if there is such a call. -/
def deletedBy? (id : Nat) : List Effect → Option Int64
  | [] => none
  | .call i (.deleteSaved saved) :: past => if i = id then some saved else deletedBy? id past
  | _ :: past => deletedBy? id past

/-- The ledger of a history, the latest effect first. -/
def savedLedger : List Effect → SavedLedger
  | [] => {}
  | .answered id (.listSaved a) :: past =>
    if Pane.saved.awaits past id then (savedLedger past).settle a else savedLedger past
  | .answered id (.deleteSaved (.ok _)) :: past =>
    { savedLedger past with deleted := (deletedBy? id past).toList ++ (savedLedger past).deleted }
  | _ :: past => savedLedger past

variable {past fx : List Effect}

/-- Where calls are numbered in order, the number of a deletion leads back to it. -/
theorem deletedBy?_of_mem (h : (past.filterMap Effect.callId?).Pairwise fun i j => j < i) {id : Nat}
    {saved : Int64} (hmem : .call id (.deleteSaved saved) ∈ past) :
    deletedBy? id past = some saved := by
  induction past with
  | nil => cases hmem
  | cons x past ih =>
    rcases List.mem_cons.1 hmem with rfl | hmem
    · simp [deletedBy?]
    · have hrest := ih (h.sublist ((List.sublist_cons_self x past).filterMap _)) hmem
      have hne {i : Nat} (hx : x.callId? = some i) : i ≠ id := by
        rw [List.filterMap_cons, hx, List.pairwise_cons] at h
        exact Nat.ne_of_gt (h.1 id (List.mem_filterMap.2 ⟨_, hmem, rfl⟩))
      unfold deletedBy?
      split
      · rename_i heq
        cases heq
      · rename_i i d rest heq
        cases heq
        rw [if_neg (hne rfl)]
        exact hrest
      · rename_i heq
        cases heq
        exact hrest

/-- Only answers are written down. -/
theorem savedLedger_append (h : ∀ id r, .answered id r ∉ fx) :
    savedLedger (fx ++ past) = savedLedger past := by
  refine append_of_no_answers (fun x past hx => ?_) h past
  cases x with
  | answered id r => exact absurd rfl (hx id r)
  | _ => rfl

namespace SavedPane

/-- The list with the latest ticket is taken; any other changes nothing. -/
theorem receive_cases (w : Watched SavedPane) (refresh : Nat)
    (a : Except Failure (List SavedSearch)) :
    let applied := receive w refresh a = w.update (settle a)
    (applied ↔ refresh = w.value.refreshes) ∧ (¬ applied → receive w refresh a = w) := by
  intro applied
  by_cases hrefresh : refresh = w.value.refreshes
  · have happlied : applied := by simp [applied, receive, hrefresh]
    exact ⟨by simp [happlied, hrefresh], absurd happlied⟩
  · have hkept : receive w refresh a = w := by simp [receive, hrefresh]
    refine ⟨iff_of_false (fun happlied => ?_) hrefresh, fun _ => hkept⟩
    have hrevision := congrArg Watched.revision (hkept.symm.trans happlied)
    simp at hrevision

end SavedPane

namespace Session

variable {s t : Session}

/-! ## What the list shows -/

/-- The list shows what the ledger gives. -/
def ShowsSaved (s : Session) (past : List Effect) : Prop :=
  s.saved.value.content = (savedLedger past).content

theorem KeepsContents.savedItems {escapes : Bool} {st : Step} (k : KeepsContents escapes s st) :
    st.1.saved.value.items = s.saved.value.items :=
  congrArg Prod.fst k.saved

theorem ShowsSaved.keeps {escapes : Bool} {st : Step} (k : KeepsContents escapes s st)
    (h : ShowsSaved s past) : ShowsSaved st.1 (st.2.reverse ++ past) := by
  unfold ShowsSaved
  rw [k.saved, savedLedger_append fun id r hr => k.answers id r (List.mem_reverse.1 hr)]
  exact h

/-- The history knows what an unanswered call deletes. -/
theorem Recorded.deletedBy?_eq (h : Recorded s past) {id : Nat} {op : OperationId} {saved : Int64}
    (hid : s.pending? id = some (.deleteSaved op saved)) : deletedBy? id past = some saved :=
  deletedBy?_of_mem h.decreasing (h.accounted.sent _ (mem_of_pending? hid))

theorem ShowsSaved.received (hrec : Recorded s past) {id : Nat} {p : Pending} {r : Reply}
    (hid : s.pending? id = some p) (ht : Received s id p r t) (h : ShowsSaved s past) :
    ShowsSaved t (.answered id r :: past) := by
  have hitems : s.saved.value.items = (savedLedger past).content.1 := congrArg Prod.fst h
  have herror : s.saved.value.error = (savedLedger past).content.2 := congrArg Prod.snd h
  cases ht with
  | notes a => exact h
  | @list refresh op result a =>
    have hawaits := (hrec.waiting .saved).awaits_iff hid rfl
    unfold ShowsSaved
    by_cases hrefresh : refresh = s.saved.value.refreshes
    · rw [savedLedger, if_pos (hawaits.2 hrefresh), SavedPane.receive, if_pos hrefresh]
      cases a with
      | ok items =>
        have hall : (items.filter fun x => !([] : List Int64).contains x.id) = items := by simp
        exact Prod.ext hall.symm rfl
      | error failure => exact Prod.ext hitems rfl
    · rw [savedLedger, if_neg (mt hawaits.1 hrefresh), SavedPane.receive, if_neg hrefresh]
      exact h
  | deleted op saved =>
    unfold ShowsSaved
    rw [savedLedger, hrec.deletedBy?_eq hid]
    refine Prod.ext ?_ herror
    simp only [SavedPane.content, SavedLedger.content, Watched.value_update, SavedPane.remove,
      hitems, List.filter_filter]
    refine List.filter_congr fun x _ => ?_
    by_cases hx : x.id = saved <;> simp [hx]
  | kept op saved failure => exact h
  | part hp hr => cases r <;> first | exact h | cases hr
  | other hp hr => cases r <;> first | exact h | cases hr

theorem ShowsSaved.steps (hrec : Recorded s past) (h : ShowsSaved s past) (es : List Event) :
    ShowsSaved (s.steps es).1 ((s.steps es).2.reverse ++ past) :=
  keep_received ShowsSaved (fun k h => h.keeps k) (fun _ _ h => h)
    (fun hrec hid ht h => h.received hrec hid ht) hrec h es

/-! ## Which lists are taken -/

theorem renews_saved_iff :
    (∀ x ∈ fx, x.renews .saved = false) ↔ ∀ i, .call i .listSaved ∉ fx := by
  have hcalls := @Pane.not_renewed_iff .saved fx nofun
  refine hcalls.trans ⟨fun h i => h i _ rfl, fun h i c hasks => ?_⟩
  cases c with
  | listSaved => exact h i
  | _ => cases hasks

theorem saved_reply {id refresh : Nat} {op : OperationId} {result : Result}
    (hid : s.pending? id = some (.listSaved refresh op result))
    (a : Except Failure (List SavedSearch)) :
    (s.reply id (.listSaved a)).1.saved = SavedPane.receive s.saved refresh a := by
  rw [reply_of_take hid rfl]
  rfl

/-- The answer to an unanswered request for the list is taken exactly if no other one has been made
since. -/
theorem Recorded.applied_iff (h : Recorded s past) {newer older : List Effect} {id : Nat}
    (hpast : past = newer ++ .call id .listSaved :: older) (hnone : ∀ r, .answered id r ∉ past)
    (a : Except Failure (List SavedSearch)) :
    let u := (s.step (.reply id (.listSaved a))).1
    let applied := u.saved = s.saved.update (SavedPane.settle a)
    (applied ↔ ∀ i, .call i .listSaved ∉ newer) ∧ (¬ applied → u.saved = s.saved) := by
  intro u applied
  obtain ⟨p, ticket, hid, hcall, hticket, hlatest⟩ := h.exists_ticket (p := .saved) hpast rfl hnone
  cases p with
  | listSaved refresh op result =>
    cases hticket
    have hu : u.saved = SavedPane.receive s.saved ticket a := saved_reply hid a
    obtain ⟨happlied, hkept⟩ := SavedPane.receive_cases s.saved ticket a
    rw [← hu] at happlied hkept
    exact ⟨(happlied.trans hlatest).trans renews_saved_iff, hkept⟩
  | _ => cases hticket

/-- A list that was asked for before another one is not taken any more. -/
theorem Recorded.not_applied {newer older : List Effect} (h : Recorded s (newer ++ older))
    (hrenewed : ∃ i, .call i .listSaved ∈ newer) {id : Nat} (hold : .call id .listSaved ∈ older)
    (a : Except Failure (List SavedSearch)) : (s.reply id (.listSaved a)).1.saved = s.saved := by
  obtain ⟨i, hrenewed⟩ := hrenewed
  cases hid : s.pending? id with
  | none => simp [reply, hid]
  | some p =>
    have hmem := mem_of_pending? hid
    have hcall := h.accounted.call_eq hmem (List.mem_append_right newer hold) rfl
    cases p with
    | listSaved refresh op result =>
      have hlate : refresh ≠ s.saved.value.refreshes := by
        intro hrefresh
        have hlatest := ((h.waiting .saved).latest _ hmem refresh rfl).1 hrefresh
        have hagain := Pane.call_mem_of_latest_append ⟨_, hrenewed, rfl⟩ hlatest
        exact not_mem_of_decreasing h.decreasing hagain hold
      rw [saved_reply hid, SavedPane.receive, if_neg hlate]
    | _ => cases hcall

/-! ## Entries that come back -/

/-- An entry with the id `x` is shown only if a list that has been asked for in the meantime has
it. -/
def BackOnlyBy (x : Int64) (s : Session) (since : List Effect) : Prop :=
  ∀ y ∈ s.saved.value.items, y.id = x → ∃ id items, .call id .listSaved ∈ since ∧
    .answered id (.listSaved (.ok items)) ∈ since ∧ y ∈ items

theorem BackOnlyBy.mono {x : Int64} {since : List Effect} (h : BackOnlyBy x s since)
    (hitems : ∀ y ∈ t.saved.value.items, y ∈ s.saved.value.items) (fx : List Effect) :
    BackOnlyBy x t (fx ++ since) := by
  intro y hy hx
  obtain ⟨id, items, hcall, hanswered, hmem⟩ := h y (hitems y hy) hx
  exact ⟨id, items, List.mem_append_right _ hcall, List.mem_append_right _ hanswered, hmem⟩

/-- What a reply brings back has been asked for in the meantime, if the list has been asked for at
all. -/
theorem BackOnlyBy.received {x : Int64} {since : List Effect} (h : BackOnlyBy x s since)
    (hrec : Recorded s (since ++ past)) (hrenewed : ∃ i, .call i .listSaved ∈ since) {id : Nat}
    {p : Pending} {r : Reply} (hid : s.pending? id = some p) (ht : Received s id p r t) :
    BackOnlyBy x t (.answered id r :: since) := by
  obtain ⟨i, hrenewed⟩ := hrenewed
  cases ht with
  | @list refresh op result a =>
    have hlatest := (hrec.waiting .saved).latest _ (mem_of_pending? hid) refresh rfl
    have hkept : BackOnlyBy x s (.answered id (.listSaved a) :: since) :=
      h.mono (fun y hy => hy) [_]
    by_cases hrefresh : refresh = s.saved.value.refreshes
    · cases a with
      | ok items =>
        have hasked := Pane.call_mem_of_latest_append ⟨_, hrenewed, rfl⟩ (hlatest.1 hrefresh)
        intro y hy _
        simp only [SavedPane.receive, if_pos hrefresh] at hy
        exact ⟨id, items, List.mem_cons_of_mem _ hasked, List.mem_cons_self, hy⟩
      | error failure =>
        unfold BackOnlyBy
        simp only [SavedPane.receive, if_pos hrefresh]
        exact hkept
    · unfold BackOnlyBy
      simp only [SavedPane.receive, if_neg hrefresh]
      exact hkept
  | deleted op saved => exact h.mono (fun y hy => (List.mem_filter.1 hy).1) [_]
  | _ => exact h.mono (fun y hy => hy) [_]

/-- Once the list has been asked for, whatever comes back has been asked for since. -/
theorem BackOnlyBy.steps {x : Int64} {since : List Effect} (h : BackOnlyBy x s since)
    (hrec : Recorded s (since ++ past)) (hrenewed : ∃ i, .call i .listSaved ∈ since)
    (es : List Event) : BackOnlyBy x (s.steps es).1 ((s.steps es).2.reverse ++ since) := by
  let Inv (u : Session) (now : List Effect) : Prop :=
    ∃ later, now = later ++ past ∧ (∃ i, .call i .listSaved ∈ later) ∧ BackOnlyBy x u later
  have hgrow {u v : Session} {now fx : List Effect} (hu : Inv u now)
      (hitems : ∀ y ∈ v.saved.value.items, y ∈ u.saved.value.items) : Inv v (fx ++ now) := by
    obtain ⟨later, rfl, ⟨i, hi⟩, hback⟩ := hu
    exact ⟨fx ++ later, (List.append_assoc ..).symm, ⟨i, List.mem_append_right _ hi⟩,
      hback.mono hitems fx⟩
  have hrun : Inv (s.steps es).1 ((s.steps es).2.reverse ++ (since ++ past)) := by
    refine keep_received Inv (fun k hu => hgrow hu fun y hy => k.savedItems ▸ hy)
      (fun op _ hu => hgrow hu fun _ hy => hy) ?_ hrec ⟨since, rfl, hrenewed, h⟩ es
    rintro u v id p r now hrec hid ht ⟨later, rfl, ⟨i, hi⟩, hback⟩
    exact ⟨_, rfl, ⟨i, List.mem_cons_of_mem _ hi⟩, hback.received hrec ⟨i, hi⟩ hid ht⟩
  obtain ⟨later, hlater, -, hback⟩ := hrun
  rw [← List.append_assoc] at hlater
  rwa [List.append_cancel_right hlater]

theorem exists_deleteSaved {p : Pending} {x : Int64} (h : p.call = .deleteSaved x) :
    ∃ op, p = .deleteSaved op x := by
  cases p with
  | deleteSaved op y =>
    cases h
    exact ⟨op, rfl⟩
  | _ => cases h

theorem reply_deleted {id : Nat} {op : OperationId} {saved : Int64}
    (hid : s.pending? id = some (.deleteSaved op saved)) :
    (s.reply id (.deleteSaved (.ok ()))).1.saved.value.items =
        s.saved.value.items.filter (fun x => x.id != saved) ∧
      (s.reply id (.deleteSaved (.ok ()))).2 =
        [.answered id (.deleteSaved (.ok ())), .call s.called .listSaved] := by
  rw [reply_of_take hid rfl]
  exact ⟨rfl, rfl⟩

/-- A deletion that succeeds removes the entry and asks for the list. -/
theorem Recorded.step_deleted (h : Recorded s past) {d : Nat} {x : Int64}
    (hcall : .call d (.deleteSaved x) ∈ past) (hnone : ∀ r, .answered d r ∉ past) :
    let deleted := s.step (.reply d (.deleteSaved (.ok ())))
    (∀ y ∈ deleted.1.saved.value.items, y.id ≠ x) ∧
      deleted.2 = [.answered d (.deleteSaved (.ok ())), .call s.called .listSaved] := by
  have hkept := h.accounted.kept d _ hcall rfl
  obtain ⟨c, hc, rfl, hpending⟩ := hkept.resolve_right (not_exists.2 hnone)
  obtain ⟨op, hop⟩ := exists_deleteSaved hpending
  have hid : s.pending? c.id = some (.deleteSaved op x) := hop ▸ h.accounted.pending?_of_mem hc
  obtain ⟨hitems, hfx⟩ := reply_deleted hid
  intro deleted
  refine ⟨fun y hy => ?_, hfx⟩
  rw [show deleted.1.saved.value.items = _ from hitems, List.mem_filter] at hy
  exact bne_iff_ne.1 hy.2

/-- In every run, the saved searches are the latest list that was taken, without what has been
deleted since. The answer to a request for the list is taken exactly if no other one has been made
since; otherwise nothing changes. Once a deletion has been answered, no list that was asked for
before is taken, and the deleted entry comes back only with a list that has been asked for since. -/
theorem saved_searches_follow_ledger (settings : Settings) (mode : Mode) (filter : Watched Filter)
    (es : List Event) :
    let run := (startWith settings mode filter).steps es
    let s := run.1
    s.saved.value.content = (savedLedger run.2.reverse).content ∧
    (∀ older id newer, run.2 = older ++ .call id .listSaved :: newer →
      (∀ r, .answered id r ∉ run.2) → ∀ a,
        let u := (s.step (.reply id (.listSaved a))).1
        let applied := u.saved = s.saved.update (SavedPane.settle a)
        (applied ↔ ∀ i, .call i .listSaved ∉ newer) ∧ (¬ applied → u.saved = s.saved)) ∧
    ∀ d x, .call d (.deleteSaved x) ∈ run.2 → (∀ r, .answered d r ∉ run.2) →
      let deleted := s.step (.reply d (.deleteSaved (.ok ())))
      .answered d (.deleteSaved (.ok ())) ∈ deleted.2 ∧
      (∀ y ∈ deleted.1.saved.value.items, y.id ≠ x) ∧
      ∀ after,
        let t := deleted.1.steps after
        (∀ id, .call id .listSaved ∈ run.2 → ∀ a,
          (t.1.step (.reply id (.listSaved a))).1.saved = t.1.saved) ∧
        ∀ y ∈ t.1.saved.value.items, y.id = x → ∃ id items,
          .call id .listSaved ∈ deleted.2 ++ t.2 ∧ .answered id (.listSaved (.ok items)) ∈ t.2 ∧
          y ∈ items := by
  intro run s
  have hstart := Recorded.start settings mode filter
  have hrec : Recorded s (run.2.reverse ++ []) := hstart.steps es
  have hshows : ShowsSaved s (run.2.reverse ++ []) :=
    ShowsSaved.steps hstart (show _ = _ from rfl) es
  rw [List.append_nil] at hrec hshows
  refine ⟨hshows, ?_, ?_⟩
  · intro older id newer hrun hnone a
    have hpast : run.2.reverse = newer.reverse ++ .call id .listSaved :: older.reverse := by
      simp [hrun]
    simpa using hrec.applied_iff hpast (by simpa using hnone) a
  · intro d x hcall hnone deleted
    obtain ⟨hgone, hfx⟩ := hrec.step_deleted (List.mem_reverse.2 hcall)
      fun r hr => hnone r (List.mem_reverse.1 hr)
    have hasked : .call s.called .listSaved ∈ deleted.2.reverse := by
      rw [show deleted.2 = _ from hfx]
      exact List.mem_cons_self
    have hdeleted := hrec.step (.reply d (.deleteSaved (.ok ())))
    refine ⟨by rw [show deleted.2 = _ from hfx]; exact List.mem_cons_self, hgone, ?_⟩
    intro after t
    have hback : BackOnlyBy x deleted.1 deleted.2.reverse := fun y hy hx => absurd hx (hgone y hy)
    have ht := hdeleted.steps after
    rw [← List.append_assoc] at ht
    refine ⟨fun id hid a => ?_, fun y hy hx => ?_⟩
    · exact ht.not_applied ⟨_, List.mem_append_right _ hasked⟩ (List.mem_reverse.2 hid) a
    · obtain ⟨id, items, hlist, hanswered, hmem⟩ :=
        hback.steps hdeleted ⟨_, hasked⟩ after y hy hx
      refine ⟨id, items, ?_, ?_, hmem⟩
      · rwa [← List.reverse_append, List.mem_reverse] at hlist
      · rcases List.mem_append.1 hanswered with hlater | hearlier
        · exact List.mem_reverse.1 hlater
        · rw [show deleted.2 = _ from hfx] at hearlier
          simp at hearlier

/-- The list is asked for a second time, and then one of the two entries is deleted: the second list
comes after the deletion and does not bring the entry back. -/
theorem late_list_brings_nothing_back :
    let kept : SavedSearch := { id := 1, name := "kept", request := {} }
    let gone : SavedSearch := { id := 2, name := "gone", request := {} }
    let es : List Event := [.command 0 .refreshSaved, .reply 0 (.listSaved (.ok [kept, gone])),
      .command 1 .refreshSaved, .command 2 (.delete 2)]
    let s := ((start {} .standalone).steps es).1
    let deleted := s.step (.reply 2 (.deleteSaved (.ok ())))
    let late := deleted.1.step (.reply 1 (.listSaved (.ok [kept, gone])))
    s.saved.value.items = [kept, gone] ∧ deleted.1.saved.value.items = [kept] ∧
      .call 3 .listSaved ∈ deleted.2 ∧ late.1.saved = deleted.1.saved := by
  intro kept gone es s deleted late
  obtain ⟨-, -, hdeletions⟩ :=
    saved_searches_follow_ledger {} .standalone (start {} .standalone).filter es
  have heffects : ((start {} .standalone).steps es).2 =
      [.call 0 .listSaved, .answered 0 (.listSaved (.ok [kept, gone])), .finished 0 .done,
        .call 1 .listSaved, .call 2 (.deleteSaved 2)] := rfl
  have hcall : .call 2 (.deleteSaved 2) ∈ ((start {} .standalone).steps es).2 := by
    simp [heffects]
  have hlist : .call 1 .listSaved ∈ ((start {} .standalone).steps es).2 := by
    simp [heffects]
  have hunanswered : ∀ r, .answered 2 r ∉ ((start {} .standalone).steps es).2 := by
    simp [heffects]
  obtain ⟨-, -, hafter⟩ := hdeletions 2 2 hcall hunanswered
  have hlate : late.1.saved = deleted.1.saved := (hafter []).1 1 hlist (.ok [kept, gone])
  exact ⟨rfl, rfl, List.mem_cons_of_mem _ List.mem_cons_self, hlate⟩

end Session

end NoteSearch
