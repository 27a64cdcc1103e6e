-- SUMMARY: The list of notes shows the latest answer that no later request has overtaken.
import NoteSearch.Proofs.Session.PaneContents

/-!
# The listing of notes

The list of notes has its own guard against answers that come too late, apart from the one of the
results page. An answer is written if no request for notes has been made since its own one, whoever
has made it; any other answer leaves the list alone, and none ever changes its filter.
-/

namespace NoteSearch

/-- The latest answer with notes that has been written, by the effects so far, the latest one
first. -/
def lastNotes : List Effect → Option (Except Failure NotePage)
  | [] => none
  | .answered id (.notes a) :: past =>
    if Pane.notes.awaits past id then some a else lastNotes past
  | _ :: past => lastNotes past

/-- The listing and the error that an answer gives to show. -/
def noteContentOf : Option (Except Failure NotePage) → NotePage × Option String
  | none => ({}, none)
  | some (.ok listing) => (listing, none)
  | some (.error failure) => ({}, some (failure.explanation?.getD "Failed to fetch notes"))

variable {past fx : List Effect}

/-- Only answers bring notes. -/
theorem lastNotes_append (h : ∀ id r, .answered id r ∉ fx) :
    lastNotes (fx ++ past) = lastNotes past := by
  refine append_of_no_answers (fun x past hx => ?_) h past
  cases x with
  | answered id r => exact absurd rfl (hx id r)
  | _ => rfl

theorem NotePane.content_settle (query : NoteQuery) (a : Except Failure NotePage) (p : NotePane) :
    (p.settle query a).content = noteContentOf (some a) := by
  cases a <;> rfl

theorem NotePane.filter_receive (w : Watched NotePane) (ticket : Nat) (query : NoteQuery)
    (a : Except Failure NotePage) :
    (NotePane.receive w ticket query a).1.value.filter = w.value.filter := by
  unfold receive
  split
  · cases a <;> rfl
  · rfl

/-- The answer with the latest ticket is written; any other changes nothing and is superseded. -/
theorem NotePane.receive_cases (w : Watched NotePane) (ticket : Nat) (query : NoteQuery)
    (a : Except Failure NotePage) :
    let received := NotePane.receive w ticket query a
    let written := received.1 = w.update (NotePane.settle query a)
    (written ↔ ticket = w.value.issued) ∧ (¬ written → received.1 = w) ∧
    (received.2 = .applied ↔ written ∧ ∃ listing, a = .ok listing) ∧
    (∀ m, received.2 = .failed m ↔ written ∧
      ∃ failure, a = .error failure ∧ m = failure.explanation?.getD "Failed to fetch notes") ∧
    (received.2 = .superseded ↔ received.1 = w) := by
  have hne (f : NotePane → NotePane) : w.update f ≠ w := fun heq => by
    have hrevision := congrArg Watched.revision heq
    simp at hrevision
  intro received written
  by_cases hticket : ticket = w.value.issued
  · have hreceived : received = (w.update (settle query a), outcome a) := by
      simp [received, NotePane.receive, hticket]
    have hwritten : written := congrArg Prod.fst hreceived
    refine ⟨by simp [hwritten, hticket], absurd hwritten, ?_⟩
    rw [hreceived]
    simp only [hwritten, true_and]
    cases a with
    | ok listing => simp [outcome, hne]
    | error failure => simp [outcome, hne, Failure.userMessage, fallback, eq_comm]
  · have hreceived : received = (w, .superseded) := by simp [received, NotePane.receive, hticket]
    have hwritten : ¬ written := fun h => hne _ ((congrArg Prod.fst hreceived).symm.trans h).symm
    simp [hwritten, hticket, hreceived]

namespace Session

variable {s t : Session} {e : Event}

/-! ## What the list shows -/

/-- The list shows what the latest written answer gives. -/
def ShowsNotes (s : Session) (past : List Effect) : Prop :=
  s.notes.value.content = noteContentOf (lastNotes past)

theorem ShowsNotes.keeps {escapes : Bool} {st : Step} (k : KeepsContents escapes s st)
    (h : ShowsNotes s past) : ShowsNotes st.1 (st.2.reverse ++ past) := by
  unfold ShowsNotes
  rw [k.notes, lastNotes_append fun id r hr => k.answers id r (List.mem_reverse.1 hr)]
  exact h

theorem ShowsNotes.received (hrec : Recorded s past) {id : Nat} {p : Pending} {r : Reply}
    (hid : s.pending? id = some p) (ht : Received s id p r t) (h : ShowsNotes s past) :
    ShowsNotes t (.answered id r :: past) := by
  cases ht with
  | @notes ticket query purpose a =>
    have hawaits := (hrec.waiting .notes).awaits_iff hid rfl
    unfold ShowsNotes
    by_cases hticket : ticket = s.notes.value.issued
    · rw [lastNotes, if_pos (hawaits.2 hticket), NotePane.receive, if_pos hticket]
      exact NotePane.content_settle query a _
    · rw [lastNotes, if_neg (mt hawaits.1 hticket), NotePane.receive, if_neg hticket]
      exact h
  | list a => exact h
  | deleted op saved => exact h
  | kept op saved failure => exact h
  | part hp hr => cases r <;> first | exact h | cases hr
  | other hp hr => cases r <;> first | exact h | cases hr

theorem ShowsNotes.steps (hrec : Recorded s past) (h : ShowsNotes s past) (es : List Event) :
    ShowsNotes (s.steps es).1 ((s.steps es).2.reverse ++ past) :=
  keep_received ShowsNotes (fun k h => h.keeps k) (fun _ _ h => h)
    (fun hrec hid ht h => h.received hrec hid ht) hrec h es

/-! ## Which answers are written -/

theorem renews_notes_iff :
    (∀ x ∈ fx, x.renews .notes = false) ↔ ∀ i q, .call i (.notes q) ∉ fx := by
  have hcalls := @Pane.not_renewed_iff .notes fx nofun
  refine hcalls.trans ⟨fun h i q => h i _ rfl, fun h i c hasks => ?_⟩
  cases c with
  | notes q => exact h i q
  | _ => cases hasks

/-- A reply with notes goes to the list, whatever follows it. -/
theorem notes_reply {id ticket : Nat} {query : NoteQuery} {purpose : NotesPurpose}
    (hid : s.pending? id = some (.notes ticket query purpose)) (a : Except Failure NotePage) :
    (s.reply id (.notes a)).1.notes = (NotePane.receive s.notes ticket query a).1 := by
  rw [reply_of_take hid rfl]
  cases purpose <;> rfl

/-- No reply changes what the notes are filtered by. -/
theorem filter_notes_reply (s : Session) (id : Nat) (r : Reply) :
    (s.reply id r).1.notes.value.filter = s.notes.value.filter := by
  unfold reply
  split
  · rfl
  · rename_i p hid
    cases htake : (s.forget id).take p r with
    | none => rfl
    | some st =>
      dsimp only
      unfold take at htake
      split at htake
      case h_11 => cases htake
      all_goals cases htake
      case h_1 ticket request purpose a =>
        cases purpose with
        | commit op byKey leads => cases leads <;> rfl
        | _ => rfl
      case h_2 => rfl
      case h_3 => rfl
      case h_4 op draft a => cases a <;> rfl
      case h_5 execution op saved a =>
        unfold afterExecute
        split
        · rfl
        · cases a <;> rfl
      case h_6 op saved a => cases a <;> rfl
      case h_10 ticket query purpose a =>
        cases purpose <;> exact NotePane.filter_receive s.notes ticket query a
      all_goals
        unfold afterPart
        split <;> rfl

/-- The answer to an unanswered request for notes is written exactly if no other one has been made
since. -/
theorem Recorded.written_iff (h : Recorded s past) {newer older : List Effect} {id : Nat}
    {query : NoteQuery} (hpast : past = newer ++ .call id (.notes query) :: older)
    (hnone : ∀ r, .answered id r ∉ past) (a : Except Failure NotePage) :
    let u := (s.step (.reply id (.notes a))).1
    let written := u.notes = s.notes.update (NotePane.settle query a)
    (written ↔ ∀ i q, .call i (.notes q) ∉ newer) ∧ (¬ written → u.notes = s.notes) := by
  intro u written
  obtain ⟨p, ticket, hid, hcall, hticket, hlatest⟩ := h.exists_ticket (p := .notes) hpast rfl hnone
  cases p with
  | notes n q purpose =>
    cases hticket
    cases hcall
    obtain ⟨hwritten, hkept, -⟩ := NotePane.receive_cases s.notes ticket query a
    have hu : u.notes = (NotePane.receive s.notes ticket query a).1 := notes_reply hid a
    rw [← hu] at hwritten hkept
    exact ⟨(hwritten.trans hlatest).trans renews_notes_iff, hkept⟩
  | _ => cases hticket

/-- The reply to a request of the user ends its operation. -/
theorem reply_fetch {id ticket : Nat} {query : NoteQuery} {op : OperationId}
    (hid : s.pending? id = some (.notes ticket query (.fetch op))) (a : Except Failure NotePage) :
    (s.reply id (.notes a)).2 = [.answered id (.notes a),
      .finished op (.outcome (NotePane.receive s.notes ticket query a).2)] := by
  rw [reply_of_take hid rfl]
  rfl

/-- A request of the user is in flight as long as it has not been answered. -/
theorem Recorded.pending?_fetch (h : Recorded s past) (op : OperationId) (page : UInt32)
    {between : List Event}
    (hnone : ∀ r, .answered s.called r ∉
      ((s.step (.command op (.fetchNotes page))).1.steps between).2) :
    ((s.step (.command op (.fetchNotes page))).1.steps between).1.pending? s.called =
      some (.notes (s.notes.value.issued + 1) (s.notes.value.query page) (.fetch op)) := by
  have hsent := h.step (.command op (.fetchNotes page))
  have hcall := hsent.accounted.mem_calls_of_unanswered
    (c := ⟨s.called, .notes (s.notes.value.issued + 1) (s.notes.value.query page) (.fetch op)⟩)
    (List.mem_append_right _ (List.mem_singleton.2 rfl)) rfl hnone
  exact (hsent.steps between).accounted.pending?_of_mem hcall

/-- In every run, the list of notes shows what the latest written answer gives. The answer to any
request for notes is written exactly if no other one has been made since; otherwise the list stays
as it is. A request of the user ends as its answer has been dealt with, and no reply changes the
filter. -/
theorem notes_show_latest_answer (settings : Settings) (mode : Mode) (filter : Watched Filter)
    (es : List Event) :
    let run := (startWith settings mode filter).steps es
    let s := run.1
    s.notes.value.content = noteContentOf (lastNotes run.2.reverse) ∧
    (∀ older id query newer, run.2 = older ++ .call id (.notes query) :: newer →
      (∀ r, .answered id r ∉ run.2) → ∀ a,
        let u := (s.step (.reply id (.notes a))).1
        let written := u.notes = s.notes.update (NotePane.settle query a)
        (written ↔ ∀ i q, .call i (.notes q) ∉ newer) ∧ (¬ written → u.notes = s.notes)) ∧
    (∀ op page,
      let query := s.notes.value.query page
      let sent := s.step (.command op (.fetchNotes page))
      sent.2 = [.call s.called (.notes query)] ∧
      ∀ (between : List Event) (a : Except Failure NotePage),
        let t := sent.1.steps between
        (∀ r, .answered s.called r ∉ t.2) →
        let u := t.1.step (.reply s.called (.notes a))
        let written := u.1.notes = t.1.notes.update (NotePane.settle query a)
        (written ↔ ∀ i q, .call i (.notes q) ∉ t.2) ∧
        ∃ o, u.2 = [.answered s.called (.notes a), .finished op (.outcome o)] ∧
          (o = .applied ↔ written ∧ ∃ listing, a = .ok listing) ∧
          (∀ m, o = .failed m ↔ written ∧
            ∃ failure, a = .error failure ∧ m = failure.explanation?.getD "Failed to fetch notes") ∧
          (o = .superseded ↔ u.1.notes = t.1.notes)) ∧
    ∀ id r, (s.step (.reply id r)).1.notes.value.filter = s.notes.value.filter := by
  intro run s
  have hstart := Recorded.start settings mode filter
  have hrec : Recorded s (run.2.reverse ++ []) := hstart.steps es
  have hshows : ShowsNotes s (run.2.reverse ++ []) :=
    ShowsNotes.steps hstart (show _ = _ from rfl) es
  rw [List.append_nil] at hrec hshows
  refine ⟨hshows, ?_, ?_, fun id r => filter_notes_reply s id r⟩
  · intro older id query newer hrun hnone a
    have hpast : run.2.reverse = newer.reverse ++ .call id (.notes query) :: older.reverse := by
      simp [hrun]
    simpa using hrec.written_iff hpast (by simpa using hnone) a
  · intro op page query sent
    refine ⟨rfl, ?_⟩
    intro between a t hnone u written
    have ht := (hrec.step (.command op (.fetchNotes page))).steps between
    have hunanswered : ∀ r, .answered s.called r ∉ t.2.reverse ++
        .call s.called (.notes query) :: run.2.reverse := by
      intro r hr
      rcases List.mem_append.1 hr with hlater | hearlier
      · exact hnone r (List.mem_reverse.1 hlater)
      · exact hrec.accounted.not_answered (Nat.le_refl _) r (by simpa using hearlier)
    obtain ⟨hwritten, -⟩ := ht.written_iff rfl hunanswered a
    have hid : t.1.pending? s.called = _ := hrec.pending?_fetch op page hnone
    obtain ⟨-, -, hends⟩ := NotePane.receive_cases t.1.notes (s.notes.value.issued + 1) query a
    rw [← notes_reply hid a] at hends
    exact ⟨by simpa using hwritten, _, reply_fetch hid a, hends⟩

/-- A later request is answered first: the answer to the earlier one changes nothing, and the list
goes on showing the later answer. -/
theorem notes_show_later_answer :
    let s := ((start {} .standalone).steps [.command 0 (.patchNotes { tags := some "a" })]).1
    let sent := s.step (.command 1 (.fetchNotes 1))
    let between : List Event :=
      [.command 2 (.patchNotes { tags := some "b" }), .command 3 (.fetchNotes 2),
        .reply 1 (.notes (.ok { total := 1 }))]
    let t := sent.1.steps between
    let late : Except Failure NotePage := .error (.transport "late")
    let u := t.1.step (.reply 0 (.notes late))
    u.2 = [.answered 0 (.notes late), .finished 1 (.outcome .superseded)] ∧
      t.1.notes.value.content = ({ total := 1 }, none) ∧ u.1.notes = t.1.notes := by
  intro s sent between t late u
  let es : List Event := [.command 0 (.patchNotes { tags := some "a" })]
  let fs : List Event := es ++ [.command 1 (.fetchNotes 1)] ++ between
  obtain ⟨-, -, hfetches, -⟩ :=
    notes_show_latest_answer {} .standalone (start {} .standalone).filter es
  obtain ⟨hsent, hanswer⟩ := hfetches 1 1
  have hunanswered : ∀ r, Effect.answered 0 r ∉ t.2 := by
    intro r hr
    have hreply := reply_mem_of_answered hr
    simp [between] at hreply
  obtain ⟨hwritten, o, hfx, -, -, ho⟩ := hanswer between late hunanswered
  have hsame : u.1.notes = t.1.notes := by rfl
  obtain rfl := ho.2 hsame
  have hlast :
      lastNotes ((start {} .standalone).steps fs).2.reverse = some (.ok { total := 1 }) := by rfl
  have hshown := (notes_show_latest_answer {} .standalone (start {} .standalone).filter fs).1
  exact ⟨hfx, hshown.trans (congrArg noteContentOf hlast), hsame⟩

end Session

end NoteSearch
