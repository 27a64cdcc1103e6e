-- SUMMARY: The page of the notes after a change of their filter, and the request that may undo it.
import NoteSearch.Proofs.Session.NoteListing
import NoteSearch.Proofs.Session.ViewChanges

/-!
# Pages of the notes

Changing the filter of the notes goes back to the first page. A request that has been sent before
still counts as the latest one afterwards, as requests are numbered and changes of the filter are
not. If it is answered before another request is made, its page is the page again. So the first page
lasts exactly if no such request for another page is in flight (`Recorded.first_page_lasts_iff`).
-/

namespace NoteSearch

/-- The requests for notes whose page has been shown, by the effects so far, the latest one
first. -/
def appliedNotes : List Effect → List Nat
  | [] => []
  | .answered id (.notes (.ok _)) :: past =>
    if Pane.notes.awaits past id then id :: appliedNotes past else appliedNotes past
  | _ :: past => appliedNotes past

/-- A request made in `newer`, the later part of a history, has been applied. -/
def AppliesLater (newer older : List Effect) : Prop :=
  ∃ id query, .call id (.notes query) ∈ newer ∧ id ∈ appliedNotes (newer ++ older)

/-- The latest request for notes, if it is still unanswered. -/
structure Awaited (past : List Effect) (id : Nat) (query : NoteQuery) : Prop where
  latest : Pane.notes.latest past = some (id, .notes query)
  unanswered : ∀ r, .answered id r ∉ past

variable {past newer older fx : List Effect} {id : Nat}

/-- What has been applied stays applied. -/
theorem appliedNotes_subset (fx past : List Effect) :
    appliedNotes past ⊆ appliedNotes (fx ++ past) := by
  induction fx with
  | nil => exact List.Subset.refl _
  | cons x fx ih =>
    refine List.Subset.trans ih ?_
    rw [List.cons_append]
    cases x with
    | answered id r =>
      cases r with
      | notes a =>
        cases a with
        | error failure => exact List.Subset.refl _
        | ok listing =>
          rw [appliedNotes]
          split
          · exact List.subset_cons_self _ _
          · exact List.Subset.refl _
      | _ => exact List.Subset.refl _
    | _ => exact List.Subset.refl _

theorem AppliesLater.append (h : AppliesLater newer older) (fx : List Effect) :
    AppliesLater (fx ++ newer) older := by
  obtain ⟨id, query, hcall, happlied⟩ := h
  refine ⟨id, query, List.mem_append_right _ hcall, ?_⟩
  rw [List.append_assoc]
  exact appliedNotes_subset fx _ happlied

namespace Session

variable {s t : Session}

/-! ## Changes of the page -/

/-- A single change keeps the filter and the page, or it leads to the first page. -/
theorem Change.page (h : Change s t) :
    t.notes.value.filter = s.notes.value.filter ∧ t.notes.value.page = s.notes.value.page ∨
      t.notes.value.page = 1 := by
  cases h with
  | apart filter search suggestions saved notes => exact .inl ⟨by rw [notes], by rw [notes]⟩
  | patchNotes p => exact .inr rfl
  | _ => exact .inl ⟨rfl, rfl⟩

theorem Changes.page (h : Changes s t) :
    t.notes.value.filter = s.notes.value.filter ∧ t.notes.value.page = s.notes.value.page ∨
      t.notes.value.page = 1 := by
  induction h with
  | refl => exact .inl ⟨rfl, rfl⟩
  | tail _ hchange ih =>
    rcases hchange.page with ⟨hfilter, hpage⟩ | hpage
    · rw [hfilter, hpage]
      exact ih
    · exact .inr hpage

/-- Whatever changes the filter of the notes leads to their first page. -/
theorem page_of_filter_changed (s : Session) (e : Event)
    (h : (s.step e).1.notes.value.filter ≠ s.notes.value.filter) :
    (s.step e).1.notes.value.page = 1 := by
  rcases s.step_changes e with hchanges | ⟨id, r, p, t, fx, rfl, -⟩
  · exact hchanges.page.resolve_left fun hsame => h hsame.1
  · exact absurd (filter_notes_reply s id r) h

/-- The page after a reply has been taken is the one before, or the reply was awaited and brings the
page that has been asked for. -/
theorem Received.page {p : Pending} {r : Reply} (h : Received s id p r t) :
    t.notes.value.page = s.notes.value.page ∨
      ∃ query purpose listing, p = .notes s.notes.value.issued query purpose ∧
        r = .notes (.ok listing) ∧ t.notes.value.page = query.page := by
  cases h with
  | @notes ticket query purpose a =>
    unfold NotePane.receive
    split
    · rename_i hticket
      cases a with
      | error failure => exact .inl rfl
      | ok listing => exact .inr ⟨query, purpose, listing, by rw [hticket], rfl, rfl⟩
    · exact .inl rfl
  | _ => exact .inl rfl

/-! ## How long the first page lasts -/

/-- The effects `newer` have followed `older`. The page is the first one, or a request made since
has been applied, or the page is that of the request which was awaited before. -/
def FirstPage (older newer : List Effect) (s : Session) : Prop :=
  AppliesLater newer older ∨ s.notes.value.page = 1 ∨
    ∃ id query listing, Awaited older id query ∧ .answered id (.notes (.ok listing)) ∈ newer ∧
      s.notes.value.page = query.page

theorem FirstPage.changes (h : FirstPage older newer s) (hchanges : Changes s t)
    (fx : List Effect) : FirstPage older (fx ++ newer) t := by
  rcases h with hlater | hpage
  · exact .inl (hlater.append fx)
  · refine .inr ?_
    rcases hchanges.page with ⟨-, hsame⟩ | hfirst
    · rcases hpage with hpage | ⟨id, query, listing, hawaited, hanswered, hpage⟩
      · exact .inl (hsame.trans hpage)
      · exact .inr ⟨id, query, listing, hawaited, List.mem_append_right _ hanswered,
          hsame.trans hpage⟩
    · exact .inl hfirst

/-- An awaited request has been made since, or it was awaited before. -/
theorem FirstPage.received (hrec : Recorded s (newer ++ older)) {p : Pending} {r : Reply}
    (hid : s.pending? id = some p) (ht : Received s id p r t) (h : FirstPage older newer s) :
    FirstPage older (.answered id r :: newer) t := by
  rcases h with hlater | hpage
  · exact .inl (hlater.append [_])
  rcases ht.page with hsame | ⟨query, purpose, listing, rfl, rfl, hpage'⟩
  · refine .inr ?_
    rcases hpage with hpage | ⟨i, query, listing, hawaited, hanswered, hpage⟩
    · exact .inl (hsame.trans hpage)
    · exact .inr ⟨i, query, listing, hawaited, List.mem_cons_of_mem _ hanswered,
        hsame.trans hpage⟩
  · have hlatest := ((hrec.waiting .notes).latest _ (mem_of_pending? hid) _ rfl).1 rfl
    have hawaits := ((hrec.waiting .notes).awaits_iff hid rfl).2 rfl
    by_cases hrenewed : ∃ x ∈ newer, x.renews .notes = true
    · refine .inl ⟨id, query, List.mem_cons_of_mem _ ?_, ?_⟩
      · exact Pane.call_mem_of_latest_append hrenewed hlatest
      · simp [appliedNotes, hawaits]
    · have hquiet : ∀ x ∈ newer, x.renews .notes = false := by simpa using hrenewed
      rw [Pane.latest_append hquiet] at hlatest
      have hunanswered : ∀ r, .answered id r ∉ older := fun r hr =>
        (hrec.accounted.answered id r (List.mem_append_right _ hr)).2 _ (mem_of_pending? hid) rfl
      exact .inr (.inr ⟨id, query, listing, ⟨hlatest, hunanswered⟩, List.mem_cons_self, hpage'⟩)

theorem FirstPage.step (hrec : Recorded s (newer ++ older)) (h : FirstPage older newer s)
    (e : Event) : FirstPage older ((s.step e).2.reverse ++ newer) (s.step e).1 := by
  rcases s.step_changes e with hchanges | ⟨id, r, p, t, fx, -, hid, hreceived, hchanges, hfx⟩
  · exact h.changes hchanges _
  · rw [hfx, List.reverse_cons, List.append_assoc]
    exact (h.received hrec hid hreceived).changes hchanges _

theorem FirstPage.steps (hrec : Recorded s (newer ++ older)) (h : FirstPage older newer s)
    (es : List Event) : FirstPage older ((s.steps es).2.reverse ++ newer) (s.steps es).1 := by
  induction es generalizing s newer with
  | nil => exact h
  | cons e es ih =>
    have hnext : Recorded (s.step e).1 (((s.step e).2.reverse ++ newer) ++ older) := by
      rw [List.append_assoc]
      exact hrec.step e
    have hrest := ih hnext (h.step hrec e)
    simpa [Session.steps, Step.andThen] using hrest

/-- The answer to an awaited request brings its page. -/
theorem Recorded.reply_awaited (h : Recorded s past) {query : NoteQuery}
    (hawaited : Awaited past id query) (listing : NotePage) :
    let u := s.step (.reply id (.notes (.ok listing)))
    u.1.notes.value.page = query.page ∧ ∀ i c, .call i c ∉ u.2 := by
  intro u
  obtain ⟨-, hcall⟩ := Pane.of_latest hawaited.latest
  have hkept := h.accounted.kept id _ hcall rfl
  obtain ⟨⟨i, p⟩, hmem, hi, hp⟩ := hkept.resolve_right (not_exists.2 hawaited.unanswered)
  obtain rfl : i = id := hi
  cases p with
  | notes ticket q purpose =>
    cases hp
    have hid : s.pending? i = some (.notes ticket query purpose) :=
      h.accounted.pending?_of_mem hmem
    have hticket : ticket = s.notes.value.issued :=
      ((h.waiting .notes).latest _ hmem ticket rfl).2 hawaited.latest
    constructor
    · rw [show u.1.notes = _ from notes_reply hid (.ok listing), NotePane.receive, if_pos hticket]
      rfl
    · intro j c
      show .call j c ∉ (s.reply i (.notes (.ok listing))).2
      simp only [reply, hid]
      cases purpose <;> simp [take, afterNotes, finish, finishEscape]
  | _ => cases hp

/-- Where the page is the first one, it stays the first one until a request made since is applied,
exactly if the request that is awaited, if there is one, is for the first page. -/
theorem Recorded.first_page_lasts_iff (h : Recorded s past) (hfirst : s.notes.value.page = 1) :
    (∀ after, ¬ AppliesLater (s.steps after).2.reverse past →
      (s.steps after).1.notes.value.page = 1) ↔
    ∀ id query, Awaited past id query → query.page = 1 := by
  have hnow : FirstPage past [] s := .inr (.inl hfirst)
  have hpages (after : List Event) := hnow.steps h after
  simp only [List.append_nil] at hpages
  constructor
  · intro hlasts id query hawaited
    obtain ⟨hpage, hcalls⟩ := h.reply_awaited hawaited {}
    rw [← steps_singleton] at hpage hcalls
    rw [← hpage]
    refine hlasts _ ?_
    rintro ⟨i, q, hcall, -⟩
    exact hcalls i _ (List.mem_reverse.1 hcall)
  · intro hone after hnone
    rcases (hpages after).resolve_left hnone with hpage | ⟨id, query, listing, hawaited, -, hpage⟩
    · exact hpage
    · rw [hpage, hone id query hawaited]

/-- In every run, a change of the filter of the notes leads to their first page. Whenever the page
is the first one and until a request made since is applied, the page is the first one or that of the
request that was awaited then, if its answer has come; and it stays the first one exactly if that
request is for the first page. -/
theorem note_page_reset_lasts_iff (settings : Settings) (mode : Mode) (filter : Watched Filter)
    (es : List Event) :
    let run := (startWith settings mode filter).steps es
    let s := run.1
    let past := run.2.reverse
    (∀ op p, (s.step (.command op (.patchNotes p))).1.notes.value.page = 1) ∧
    (∀ e, (s.step e).1.notes.value.filter ≠ s.notes.value.filter →
      (s.step e).1.notes.value.page = 1) ∧
    (s.notes.value.page = 1 →
      (∀ after, let t := s.steps after
        ¬ AppliesLater t.2.reverse past → t.1.notes.value.page = 1 ∨
          ∃ id query listing, Awaited past id query ∧ .answered id (.notes (.ok listing)) ∈ t.2 ∧
            t.1.notes.value.page = query.page) ∧
      ((∀ after, ¬ AppliesLater (s.steps after).2.reverse past →
          (s.steps after).1.notes.value.page = 1) ↔
        ∀ id query, Awaited past id query → query.page = 1)) := by
  intro run s past
  have hrec : Recorded s past := by
    simpa [past] using (Recorded.start settings mode filter).steps es
  refine ⟨fun op p => rfl, page_of_filter_changed s, fun hfirst => ⟨?_, ?_⟩⟩
  · intro after t hnone
    have hnow : FirstPage past [] s := .inr (.inl hfirst)
    have hpages := hnow.steps hrec after
    rw [List.append_nil] at hpages
    simpa using hpages.resolve_left hnone
  · exact hrec.first_page_lasts_iff hfirst

/-- A request for the first page is in flight when the filter changes, so the first page lasts. -/
theorem note_page_reset_lasts_one :
    let es : List Event :=
      [.command 0 (.fetchNotes 1), .command 1 (.patchNotes { search := some "milk" })]
    let s := ((start {} .standalone).steps es).1
    let after : List Event := [.reply 0 (.notes (.ok { total := 30 })), .wait 600]
    (s.steps after).1.notes.value.listing.total = 30 ∧ (s.steps after).1.notes.value.page = 1 := by
  intro es s after
  obtain ⟨hpatch, -, hlasts⟩ := note_page_reset_lasts_iff {} .standalone
    (start {} .standalone).filter es
  refine ⟨rfl, ?_⟩
  obtain ⟨-, hiff⟩ := hlasts rfl
  refine hiff.2 ?_ after ?_
  · rintro id query ⟨hlatest, -⟩
    obtain rfl : ({} : NotePane).query 1 = query := by
      cases hlatest
      rfl
    rfl
  · rintro ⟨id, query, hcall, -⟩
    have hfx : (s.steps after).2 =
        [.answered 0 (.notes (.ok { total := 30 })), .finished 0 (.outcome .applied)] := rfl
    have hmem : .call id (.notes query) ∈ (s.steps after).2 := List.mem_reverse.1 hcall
    simp [hfx] at hmem

/-- A request for another page is in flight when the filter changes: no request is made afterwards,
but its answer still brings its page. -/
theorem note_page_reset_undone :
    let s := ((start {} .standalone).steps
      [.command 0 (.fetchNotes 3), .command 1 (.patchNotes { search := some "milk" })]).1
    let u := s.step (.reply 0 (.notes (.ok { page := 3 })))
    s.notes.value.page = 1 ∧ (∀ id c, .call id c ∉ u.2) ∧ u.1.notes.value.page = 3 := by
  intro s u
  have hu : u.2 = [.answered 0 (.notes (.ok { page := 3 })), .finished 0 (.outcome .applied)] := rfl
  refine ⟨rfl, ?_, rfl⟩
  simp [hu]

end Session

end NoteSearch
