-- SUMMARY: What a pane with tickets waits for: the latest call that it has made.
import NoteSearch.Proofs.Session.Calls

/-!
# Panes that take tickets

The results page, the list of notes and the list of saved searches each number their calls with
tickets and take only the reply to the latest one. `Waiting` ties the ticket that is compared to
the history: the call with the latest ticket is the latest call of the pane, and the pane loads
as long as that call is unanswered.
-/

namespace NoteSearch

open Session

/-- A pane that takes tickets for its calls. -/
inductive Pane where
  | search
  | notes
  | saved
  deriving DecidableEq

namespace Pane

/-- Whether a call is made by the pane. -/
def asks : Pane → Call → Bool
  | search, .search _ => true
  | notes, .notes _ => true
  | saved, .listSaved => true
  | _, _ => false

/-- The ticket of a call of the pane. -/
def ticket? : Pane → Pending → Option Nat
  | search, .search ticket _ _ => some ticket
  | notes, .notes ticket _ _ => some ticket
  | saved, .listSaved refresh _ _ => some refresh
  | _, _ => none

/-- The latest ticket of the pane. -/
def issued : Pane → Session → Nat
  | search, s => s.search.value.issued
  | notes, s => s.notes.value.issued
  | saved, s => s.saved.value.refreshes

/-- Whether the pane shows that it loads. -/
def loading : Pane → Session → Bool
  | search, s => s.search.value.view.loading
  | notes, s => s.notes.value.loading
  | saved, s => s.saved.value.loading

/-- The latest call that the pane has made, with its number, by the effects so far, the latest one
first. Emptying the results page takes its calls back. -/
def latest (p : Pane) : List Effect → Option (Nat × Call)
  | [] => none
  | .call id c :: past => if p.asks c then some (id, c) else p.latest past
  | .cleared :: past => if p = search then none else p.latest past
  | .answered .. :: past => p.latest past
  | .finished .. :: past => p.latest past

theorem asks_call (p : Pane) (q : Pending) : p.asks q.call = (p.ticket? q).isSome := by
  cases p <;> cases q <;> rfl

theorem isFetch_of_asks {p : Pane} {c : Call} (h : p.asks c = true) : c.isFetch = false := by
  cases p <;> cases c <;> simp_all [asks, Call.isFetch]

/-- The latest call of a pane is a call of the pane that has been made. -/
theorem of_latest {p : Pane} {past : List Effect} {id : Nat} {c : Call}
    (h : p.latest past = some (id, c)) : p.asks c = true ∧ .call id c ∈ past := by
  induction past with
  | nil => cases h
  | cons x past ih =>
    cases x with
    | call i d =>
      simp only [latest] at h
      split at h
      · cases h
        exact ⟨‹_›, List.mem_cons_self⟩
      · exact (ih h).imp_right (List.mem_cons_of_mem _)
    | answered i r => exact (ih h).imp_right (List.mem_cons_of_mem _)
    | finished op r => exact (ih h).imp_right (List.mem_cons_of_mem _)
    | cleared =>
      simp only [latest] at h
      split at h
      · cases h
      · exact (ih h).imp_right (List.mem_cons_of_mem _)

theorem issued_quiet {s t : Session} (p : Pane) (h : Alike s t) : p.issued t = p.issued s := by
  cases p with
  | search => simp only [issued, h.search]
  | notes => exact h.notesIssued
  | saved => exact h.refreshes

theorem loading_quiet {s t : Session} (p : Pane) (h : Alike s t) : p.loading t = p.loading s := by
  cases p with
  | search => simp only [loading, h.search]
  | notes => exact h.notesLoading
  | saved => exact h.savedLoading

end Pane

namespace Session

variable {s t : Session} {fx past : List Effect} {p : Pane}

/-! ## What a move does to a pane -/

/-- A move leaves a pane alone, makes a call for it, empties it, or brings the reply to one of its
calls. -/
inductive PaneMove (p : Pane) (s : Session) : List Effect → Session → Prop where
  | idle {fx : List Effect} {t : Session} (hissued : p.issued t = p.issued s)
      (hloading : p.loading t = p.loading s)
      (hcalls : ∀ c, p.ticket? c.pending ≠ none → (c ∈ t.calls ↔ c ∈ s.calls))
      (hfx : ∀ past, p.latest (fx.reverse ++ past) = p.latest past) : PaneMove p s fx t
  | asks {t : Session} {q : Pending} (hissued : p.issued t = p.issued s + 1)
      (hloading : p.loading t = true) (hq : p.ticket? q = some (p.issued s + 1))
      (hcalls : t.calls = s.calls ++ [⟨s.called, q⟩]) : PaneMove p s [.call s.called q.call] t
  | cleared {t : Session} (hp : p = .search) (hissued : p.issued t = p.issued s + 1)
      (hloading : p.loading t = false) (hcalls : t.calls = s.calls) : PaneMove p s [.cleared] t
  | answered {t : Session} {id ticket : Nat} {q : Pending} (r : Reply)
      (hq : s.pending? id = some q) (hticket : p.ticket? q = some ticket)
      (hissued : p.issued t = p.issued s)
      (hloading : p.loading t = if ticket = p.issued s then false else p.loading s)
      (hcalls : t.calls = (s.forget id).calls) : PaneMove p s [.answered id r] t

/-- A call of another pane. -/
theorem PaneMove.sends {q : Pending} (hq : p.ticket? q = none) (hissued : p.issued t = p.issued s)
    (hloading : p.loading t = p.loading s) (hcalls : t.calls = s.calls ++ [⟨s.called, q⟩]) :
    PaneMove p s [.call s.called q.call] t := by
  refine .idle hissued hloading ?_ ?_
  · intro c hc
    rw [hcalls, List.mem_append, List.mem_singleton]
    refine ⟨fun h => h.resolve_right ?_, .inl⟩
    rintro rfl
    exact hc hq
  · intro past
    simp [Pane.latest, Pane.asks_call, hq]

/-- The reply to a call of another pane. -/
theorem PaneMove.receives (h : Accounted s past) {id : Nat} {q : Pending} (r : Reply)
    (hid : s.pending? id = some q) (hq : p.ticket? q = none)
    (hissued : p.issued t = p.issued s) (hloading : p.loading t = p.loading s)
    (hcalls : t.calls = (s.forget id).calls) : PaneMove p s [.answered id r] t := by
  refine .idle hissued hloading ?_ fun past => rfl
  intro c hc
  rw [hcalls, mem_forget]
  refine ⟨And.left, fun hmem => ⟨hmem, ?_⟩⟩
  rintro rfl
  rw [h.pending?_of_mem hmem] at hid
  cases hid
  exact hc hq

/-- A move that touches nothing but the search box and the live writes. -/
theorem PaneMove.of_box {box : SearchBox} {writes : List LiveWrite} {calls : List InFlight}
    (ht : t = { s with box, writes, calls }) (hcalls : t.calls = s.calls) : PaneMove p s [] t := by
  refine .idle ?_ ?_ (fun c _ => by rw [hcalls]) fun past => rfl
  · rw [ht]
    cases p <;> rfl
  · rw [ht]
    cases p <;> rfl

theorem ticket?_of_isPlain {q : Pending} (h : q.isPlain = true) : p.ticket? q = none := by
  cases q <;> cases p <;> first | rfl | cases h

theorem Move.pane (h : Accounted s past) (p : Pane) (m : Move s fx t) : PaneMove p s fx t := by
  cases m with
  | quiet ha =>
    exact .idle (p.issued_quiet ha) (p.loading_quiet ha) (fun c _ => by rw [ha.calls]) fun _ => rfl
  | finish op r => exact .idle rfl rfl (fun _ _ => .rfl) fun _ => rfl
  | dropFetches g =>
    refine .idle ?_ ?_ ?_ fun _ => rfl
    · cases p <;> rfl
    · cases p <;> rfl
    · intro c hc
      rw [List.mem_filter]
      refine ⟨And.left, fun hmem => ⟨hmem, ?_⟩⟩
      cases hq : c.pending <;> cases p <;> simp_all [Pane.ticket?, Pending.isStaleFetch]
  | search page purpose hmay =>
    cases p with
    | search => exact .asks rfl rfl rfl rfl
    | notes => exact .sends rfl rfl rfl rfl
    | saved => exact .sends rfl rfl rfl rfl
  | clear =>
    cases p with
    | search => exact .cleared rfl rfl rfl rfl
    | notes => exact .idle rfl rfl (fun _ _ => .rfl) fun _ => rfl
    | saved => exact .idle rfl rfl (fun _ _ => .rfl) fun _ => rfl
  | notes page purpose hmay =>
    cases p with
    | search => exact .sends rfl rfl rfl rfl
    | notes => exact .asks rfl rfl rfl rfl
    | saved => exact .sends rfl rfl rfl rfl
  | refresh op r =>
    cases p with
    | search => exact .sends rfl rfl rfl rfl
    | notes => exact .sends rfl rfl rfl rfl
    | saved => exact .asks rfl rfl rfl rfl
  | send q hq =>
    refine .sends (ticket?_of_isPlain hq) ?_ ?_ rfl
    · cases p <;> rfl
    · cases p <;> rfl
  | cancelWrite =>
    obtain ⟨box, writes, calls, hs⟩ := s.exists_cancelWrite
    exact .of_box hs h.tidy.calls_cancelWrite
  | retype text =>
    obtain ⟨box, writes, calls, hs⟩ := s.exists_retype text
    refine .of_box hs ?_
    rw [calls_retype, h.tidy.calls_cancelWrite]
  | wake number => exact .of_box rfl rfl

theorem execute_pane (p : Pane) (s : Session) (op : OperationId) (saved : SavedSearch) :
    PaneMove p s (s.execute op saved).2 (s.execute op saved).1 := by
  cases p with
  | search => exact .sends rfl rfl rfl rfl
  | notes => exact .sends rfl rfl rfl rfl
  | saved => exact .sends rfl rfl rfl rfl

theorem Taken.pane (h : Accounted s past) (p : Pane) {id : Nat} {r : Reply}
    (m : Taken s id r t) : PaneMove p s [.answered id r] t := by
  cases m with
  | search a hq =>
    cases p with
    | search =>
      refine .answered _ hq rfl ?_ ?_ rfl
      · exact SearchPane.issued_receive ..
      · exact SearchPane.loading_receive ..
    | notes => exact .receives h _ hq rfl rfl rfl rfl
    | saved => exact .receives h _ hq rfl rfl rfl rfl
  | notes a hq =>
    cases p with
    | search => exact .receives h _ hq rfl rfl rfl rfl
    | notes =>
      refine .answered _ hq rfl ?_ ?_ rfl
      · exact NotePane.issued_receive ..
      · exact NotePane.loading_receive ..
    | saved => exact .receives h _ hq rfl rfl rfl rfl
  | list a hq =>
    cases p with
    | search => exact .receives h _ hq rfl rfl rfl rfl
    | notes => exact .receives h _ hq rfl rfl rfl rfl
    | saved =>
      refine .answered _ hq rfl ?_ ?_ rfl
      · exact SavedPane.refreshes_receive ..
      · exact SavedPane.loading_receive ..
  | execute a hq =>
    refine .receives h _ hq ?_ ?_ ?_ rfl
    · cases p <;> rfl
    · cases p <;> rfl
    · cases p <;> rfl
  | plain r hq hplain hr =>
    refine .receives h _ hq (ticket?_of_isPlain hplain) ?_ ?_ rfl
    · cases p <;> rfl
    · cases p <;> rfl

/-! ## What a pane waits for -/

/-- The call with the latest ticket of a pane is its latest call, and the pane loads as long as it
is unanswered. -/
structure Waiting (p : Pane) (s : Session) (past : List Effect) : Prop where
  accounted : Accounted s past
  le_issued : ∀ c ∈ s.calls, ∀ n, p.ticket? c.pending = some n → n ≤ p.issued s
  latest : ∀ c ∈ s.calls, ∀ n, p.ticket? c.pending = some n →
    (n = p.issued s ↔ p.latest past = some (c.id, c.pending.call))
  loading : p.loading s = true ↔ ∃ c ∈ s.calls, p.ticket? c.pending = some (p.issued s)

theorem Waiting.start (p : Pane) (settings : Settings) (mode : Mode) (filter : Watched Filter) :
    Waiting p (startWith settings mode filter) [] := by
  refine ⟨.start settings mode filter, ?_, ?_, ?_⟩
  · simp [startWith, Session.start]
  · simp [startWith, Session.start]
  · cases p <;> simp [startWith, Session.start, Pane.loading]

theorem Waiting.paneMove (h : Waiting p s past) (hacc : Accounted t (fx.reverse ++ past))
    (m : PaneMove p s fx t) : Waiting p t (fx.reverse ++ past) := by
  have hid : ∀ c ∈ s.calls, c.id < s.called := fun c hc =>
    h.accounted.lt_called _ _ (h.accounted.sent c hc)
  cases m with
  | idle hissued hloading hcalls hfx =>
    have hmem : ∀ c n, p.ticket? c.pending = some n → (c ∈ t.calls ↔ c ∈ s.calls) :=
      fun c n hn => hcalls c (by simp [hn])
    refine ⟨hacc, ?_, ?_, ?_⟩
    · intro c hc n hn
      rw [hissued]
      exact h.le_issued c ((hmem c n hn).1 hc) n hn
    · intro c hc n hn
      rw [hissued, hfx]
      exact h.latest c ((hmem c n hn).1 hc) n hn
    · rw [hloading, h.loading, hissued]
      exact exists_congr fun c => and_congr_left fun hn => (hmem c _ hn).symm
  | @asks _ q hissued hloading hq hcalls =>
    have hmem : ∀ c, c ∈ t.calls ↔ c ∈ s.calls ∨ c = ⟨s.called, q⟩ := by simp [hcalls]
    have hasks : p.asks q.call = true := by simp [Pane.asks_call, hq]
    refine ⟨hacc, ?_, ?_, ?_⟩
    · intro c hc n hn
      rcases (hmem c).1 hc with hc | rfl
      · exact hissued ▸ Nat.le_succ_of_le (h.le_issued c hc n hn)
      · rw [hq] at hn
        cases hn
        exact Nat.le_of_eq hissued.symm
    · intro c hc n hn
      simp only [List.reverse_singleton, List.singleton_append, Pane.latest, hasks, if_true, hissued]
      rcases (hmem c).1 hc with hc | rfl
      · have hle := h.le_issued c hc n hn
        have hlt := hid c hc
        constructor
        · intro hn
          omega
        · intro heq
          have hcalled : s.called = c.id := by simpa using congrArg (Option.map Prod.fst) heq
          omega
      · rw [hq] at hn
        cases hn
        simp
    · rw [hloading, hissued]
      exact ⟨fun _ => ⟨_, (hmem _).2 (.inr rfl), hq⟩, fun _ => rfl⟩
  | cleared hp hissued hloading hcalls =>
    refine ⟨hacc, ?_, ?_, ?_⟩
    · intro c hc n hn
      exact hissued ▸ Nat.le_succ_of_le (h.le_issued c (hcalls ▸ hc) n hn)
    · intro c hc n hn
      have hle := h.le_issued c (hcalls ▸ hc) n hn
      have hnone : p.latest ([Effect.cleared].reverse ++ past) = none := by simp [Pane.latest, hp]
      rw [hissued, hnone]
      constructor
      · intro heq
        omega
      · intro heq
        cases heq
    · rw [hloading, hissued, hcalls]
      simp only [Bool.false_eq_true, false_iff]
      rintro ⟨c, hc, hn⟩
      have hle := h.le_issued c hc _ hn
      omega
  | @answered _ id ticket q r hq hticket hissued hloading hcalls =>
    have hmem : ∀ c, c ∈ t.calls ↔ c ∈ s.calls ∧ c.id ≠ id := fun c => by
      rw [hcalls, mem_forget]
    refine ⟨hacc, ?_, ?_, ?_⟩
    · intro c hc n hn
      exact hissued ▸ h.le_issued c ((hmem c).1 hc).1 n hn
    · intro c hc n hn
      simpa only [List.reverse_singleton, List.singleton_append, Pane.latest, hissued]
        using h.latest c ((hmem c).1 hc).1 n hn
    · rw [hloading, hissued]
      split
      · rename_i hlast
        -- The reply is the one waited for, and no other call has its ticket.
        simp only [Bool.false_eq_true, false_iff]
        rintro ⟨c, hc, hn⟩
        obtain ⟨hc, hne⟩ := (hmem c).1 hc
        have hcl := (h.latest c hc _ hn).1 rfl
        have hql := (h.latest _ (mem_of_pending? hq) _ hticket).1 hlast
        rw [hcl] at hql
        exact hne (by simpa using congrArg (Option.map Prod.fst) hql)
      · rename_i hlate
        rw [h.loading]
        refine exists_congr fun c => and_congr_left fun hn => ?_
        rw [hmem]
        refine ⟨fun hc => ⟨hc, ?_⟩, And.left⟩
        rintro rfl
        rw [h.accounted.pending?_of_mem hc] at hq
        cases hq
        rw [hn] at hticket
        cases hticket
        exact hlate rfl

theorem Waiting.move (h : Waiting p s past) (m : Move s fx t) :
    Waiting p t (fx.reverse ++ past) :=
  h.paneMove (h.accounted.move m) (m.pane h.accounted p)

theorem Waiting.execute (h : Waiting p s past) (op : OperationId) (saved : SavedSearch) :
    Waiting p (s.execute op saved).1 ((s.execute op saved).2.reverse ++ past) :=
  h.paneMove (h.accounted.execute op saved) (execute_pane p s op saved)

theorem Waiting.taken (h : Waiting p s past) {id : Nat} {r : Reply} (m : Taken s id r t) :
    Waiting p t (.answered id r :: past) :=
  h.paneMove (h.accounted.taken m) (m.pane h.accounted p)

theorem Waiting.steps (h : Waiting p s past) (es : List Event) :
    Waiting p (s.steps es).1 ((s.steps es).2.reverse ++ past) :=
  keep_steps (Waiting p) (fun m h => h.move m) (fun op saved h => h.execute op saved)
    (fun m h => h.taken m) h es

end Session

end NoteSearch
