-- SUMMARY: Live writes give up no call, and every call is unanswered or answered once.
import NoteSearch.Proofs.Session.Moves

/-!
# Calls and live writes

A live write that has sent a call has taken over from the search box before, so no abort reaches
it (`Tidy`). Hence a call other than a fetch of completions stays among the calls of a session
until its reply has been taken (`Accounted`).
-/

namespace NoteSearch

/-- Whether a call fetches completions. -/
def Call.isFetch : Call → Bool
  | .suggestions .. => true
  | _ => false

namespace Session

variable {s t : Session} {fx past : List Effect}

/-! ## Live writes -/

/-- The live writes of a session are of different turns, and those that the box could still
abort wait for no reply. -/
structure Tidy (s : Session) : Prop where
  pending_eq : ∀ number, s.box.pending = some number → number = s.box.turn
  writes_le : ∀ w ∈ s.writes, w.number ≤ s.box.turn
  writes_pending : ∀ w ∈ s.writes, w.number = s.box.turn → s.box.pending = some w.number
  writes_lt : s.writes.Pairwise fun v w => v.number < w.number
  calls : ∀ c ∈ s.calls, ∀ number, c.pending.isOfWrite number = true →
    number < s.box.turn ∨ s.MaySend number

theorem Tidy.start (settings : Settings) (mode : Mode) (filter : Watched Filter) :
    Tidy (startWith settings mode filter) := by
  constructor <;> simp [startWith, Session.start]

/-- A session whose new calls are allowed to be sent stays tidy. -/
theorem Tidy.of_calls (h : Tidy s) (hpending : t.box.pending = s.box.pending)
    (hturn : t.box.turn = s.box.turn) (hwrites : t.writes = s.writes)
    (hcalls : ∀ c ∈ t.calls, c ∈ s.calls ∨
      ∀ number, c.pending.isOfWrite number = true → s.MaySend number) : Tidy t := by
  constructor
  · simpa [hpending, hturn] using h.pending_eq
  · simpa [hturn, hwrites] using h.writes_le
  · simpa [hpending, hturn, hwrites] using h.writes_pending
  · simpa [hwrites] using h.writes_lt
  · intro c hc number hn
    simp only [MaySend, hpending, hturn]
    rcases hcalls c hc with hold | hnew
    · exact h.calls c hold number hn
    · exact .inr (hnew number hn)

/-- The session after a call has been sent. -/
theorem Tidy.send (h : Tidy s) {p : Pending}
    (hp : ∀ number, p.isOfWrite number = true → s.MaySend number)
    (hpending : t.box.pending = s.box.pending) (hturn : t.box.turn = s.box.turn)
    (hwrites : t.writes = s.writes) (hcalls : t.calls = s.calls ++ [⟨s.called, p⟩]) : Tidy t := by
  apply h.of_calls hpending hturn hwrites
  intro c hc
  rw [hcalls, List.mem_append, List.mem_singleton] at hc
  rcases hc with hc | rfl
  · exact .inl hc
  · exact .inr hp

theorem Tidy.forget (h : Tidy s) {id : Nat} (hpending : t.box.pending = s.box.pending)
    (hturn : t.box.turn = s.box.turn) (hwrites : t.writes = s.writes)
    (hcalls : t.calls = (s.forget id).calls) : Tidy t := by
  apply h.of_calls hpending hturn hwrites
  intro c hc
  rw [hcalls] at hc
  exact .inl (List.mem_filter.1 hc).1

/-- No call waits on behalf of a write that the box can abort. -/
theorem Tidy.not_isOfWrite (h : Tidy s) {number : Nat} (hn : s.box.pending = some number)
    {c : InFlight} (hc : c ∈ s.calls) : c.pending.isOfWrite number = false := by
  apply Bool.eq_false_iff.2
  intro hwrite
  have hturn := h.pending_eq number hn
  rcases h.calls c hc number hwrite with hlt | ⟨-, hnone⟩
  · omega
  · rw [hn] at hnone
    cases hnone

/-- Dropping the scheduled write gives up no call. -/
theorem Tidy.calls_cancelWrite (h : Tidy s) : s.cancelWrite.calls = s.calls := by
  unfold cancelWrite
  split
  · rename_i number hn
    apply List.filter_eq_self.2
    intro c hc
    simp [h.not_isOfWrite hn hc]
  · rfl

@[simp] theorem text_cancelWrite (s : Session) : s.cancelWrite.box.text = s.box.text := by
  unfold cancelWrite
  split <;> rfl

@[simp] theorem mode_cancelWrite (s : Session) : s.cancelWrite.box.mode = s.box.mode := by
  unfold cancelWrite
  split <;> rfl

@[simp] theorem pending_cancelWrite (s : Session) : s.cancelWrite.box.pending = none := by
  unfold cancelWrite
  split <;> rfl

@[simp] theorem turn_cancelWrite (s : Session) :
    s.cancelWrite.box.turn = s.box.turn + 1 := by
  unfold cancelWrite
  split <;> rfl

theorem writes_cancelWrite_sublist (s : Session) :
    s.cancelWrite.writes.Sublist s.writes := by
  unfold cancelWrite
  split
  · exact List.filter_sublist
  · exact .refl _

theorem Tidy.cancelWrite (h : Tidy s) : Tidy s.cancelWrite := by
  have hle : ∀ w ∈ s.cancelWrite.writes, w.number ≤ s.box.turn := fun w hw =>
    h.writes_le w (s.writes_cancelWrite_sublist.subset hw)
  constructor
  · simp
  · intro w hw
    have := hle w hw
    simp only [turn_cancelWrite]
    omega
  · intro w hw hturn
    have := hle w hw
    simp only [turn_cancelWrite] at hturn
    omega
  · exact h.writes_lt.sublist s.writes_cancelWrite_sublist
  · intro c hc number hn
    rw [h.calls_cancelWrite] at hc
    simp only [turn_cancelWrite]
    rcases h.calls c hc number hn with hlt | ⟨rfl, -⟩
    · omega
    · omega

theorem calls_retype (s : Session) (text : String) :
    (s.retype text).calls = s.cancelWrite.calls := by
  simp only [retype, scheduleWrite]
  split <;> rfl

@[simp] theorem turn_retype (s : Session) (text : String) :
    (s.retype text).box.turn = s.box.turn + 1 := by
  simp only [retype, scheduleWrite]
  split <;> simp

/-- A new text has at most one new live write, which is of the new turn. -/
theorem mem_writes_retype {text : String} {w : LiveWrite} (hw : w ∈ (s.retype text).writes) :
    w ∈ s.writes ∨ w.number = s.box.turn + 1 ∧ w.mode ≠ .standalone := by
  simp only [retype, scheduleWrite] at hw
  split at hw
  · exact .inl (s.writes_cancelWrite_sublist.subset hw)
  · rename_i hmode
    simp only [List.mem_append, List.mem_singleton] at hw
    rcases hw with hw | rfl
    · exact .inl (s.writes_cancelWrite_sublist.subset hw)
    · exact .inr ⟨s.turn_cancelWrite, hmode⟩

theorem Tidy.retype (h : Tidy s) (text : String) : Tidy (s.retype text) := by
  have hc := h.cancelWrite
  have hlt : ∀ w ∈ s.cancelWrite.writes, w.number < s.box.turn + 1 := fun w hw =>
    Nat.lt_succ_of_le (h.writes_le w (s.writes_cancelWrite_sublist.subset hw))
  simp only [Session.retype, scheduleWrite]
  split
  · exact hc.of_calls rfl rfl rfl fun c hc => .inl hc
  · constructor
    · simp
    · simp only [turn_cancelWrite, List.mem_append, List.mem_singleton]
      rintro w (hw | rfl)
      · exact Nat.le_of_lt (hlt w hw)
      · exact Nat.le_refl _
    · simp only [turn_cancelWrite, List.mem_append, List.mem_singleton]
      rintro w (hw | rfl) hturn
      · exact absurd hturn (Nat.ne_of_lt (hlt w hw))
      · rfl
    · rw [List.pairwise_append]
      refine ⟨hc.writes_lt, List.pairwise_singleton _ _, ?_⟩
      intro w hw v hv
      rw [List.mem_singleton.1 hv]
      simpa using hlt w hw
    · intro c hmem number hn
      -- No write of this turn has sent anything yet.
      simp only [h.calls_cancelWrite] at hmem
      simp only [turn_cancelWrite]
      rcases h.calls c hmem number hn with hlt | ⟨rfl, -⟩
      · exact .inl (Nat.lt_succ_of_lt hlt)
      · exact .inl (Nat.lt_succ_self _)

theorem Tidy.wake (h : Tidy s) (number : Nat) :
    Tidy { s with
      writes := s.writes.filter fun w => w.number != number
      box := (s.box.claim? number).getD s.box } := by
  unfold SearchBox.claim?
  split
  · rename_i hturn
    constructor
    · simp
    · intro w hw
      exact h.writes_le w (List.mem_filter.1 hw).1
    · intro w hw hwt
      have hne : w.number ≠ number := by simpa using (List.mem_filter.1 hw).2
      exact absurd (hwt.trans hturn.symm) hne
    · exact h.writes_lt.sublist List.filter_sublist
    · intro c hc n hn
      rcases h.calls c hc n hn with hlt | ⟨heq, -⟩
      · exact .inl hlt
      · exact .inr ⟨heq, rfl⟩
  · constructor
    · exact h.pending_eq
    · intro w hw
      exact h.writes_le w (List.mem_filter.1 hw).1
    · intro w hw
      exact h.writes_pending w (List.mem_filter.1 hw).1
    · exact h.writes_lt.sublist List.filter_sublist
    · exact h.calls

theorem Tidy.move (h : Tidy s) (m : Move s fx t) : Tidy t := by
  cases m with
  | quiet ha => exact h.of_calls ha.pending ha.turn ha.writes fun c hc => .inl (ha.calls ▸ hc)
  | finish op r => exact h
  | dropFetches g => exact h.of_calls rfl rfl rfl fun c hc => .inl (List.mem_filter.1 hc).1
  | search page purpose hmay =>
    refine h.send (fun number hn => hmay number ?_) rfl rfl rfl rfl
    cases purpose <;> simp_all [Pending.isOfWrite]
  | clear => exact h.of_calls rfl rfl rfl fun c hc => .inl hc
  | notes page purpose hmay =>
    refine h.send (fun number hn => hmay number ?_) rfl rfl rfl rfl
    cases purpose <;> simp_all [Pending.isOfWrite]
  | refresh op r => exact h.send (by simp [Pending.isOfWrite]) rfl rfl rfl rfl
  | send p hp =>
    refine h.send (fun number hn => ?_) rfl rfl rfl rfl
    cases p <;> simp_all [Pending.isOfWrite, Pending.isPlain]
  | cancelWrite => exact h.cancelWrite
  | retype text => exact h.retype text
  | wake number => exact h.wake number

theorem Tidy.execute (h : Tidy s) (op : OperationId) (saved : SavedSearch) :
    Tidy (s.execute op saved).1 :=
  h.send (by simp [Pending.isOfWrite]) rfl rfl rfl rfl

theorem Tidy.taken (h : Tidy s) {id : Nat} {r : Reply} (m : Taken s id r t) : Tidy t := by
  cases m <;> exact h.forget rfl rfl rfl rfl

theorem Tidy.makes (h : Tidy s) {st : Step} (hm : s.Makes st) : Tidy st.1 :=
  hm.keepState Tidy (fun m h => h.move m) h

theorem Tidy.step (h : Tidy s) (e : Event) : Tidy (s.step e).1 := by
  rcases s.step_cases e with hm | ⟨op, saved, rfl⟩ | ⟨id, r, t, st, -, ht, hm, hst⟩
  · exact h.makes hm
  · exact h.execute op saved
  · have hafter : Tidy st.1 := (h.taken ht).makes hm
    rwa [hst]

/-! ## What a move does to the calls -/

/-- The calls are kept, one is sent, or one is answered; only fetches of completions may be given
up otherwise. -/
inductive CallsMove (s : Session) : List Effect → Session → Prop where
  | same {fx : List Effect} {t : Session} (hcalls : t.calls = s.calls)
      (hcalled : t.called = s.called)
      (hfx : fx = [] ∨ fx = [.cleared] ∨ ∃ op r, fx = [.finished op r]) : CallsMove s fx t
  | dropped {t : Session} (keep : InFlight → Bool) (hcalls : t.calls = s.calls.filter keep)
      (hcalled : t.called = s.called)
      (hkeep : ∀ c, c.pending.call.isFetch = false → keep c = true) : CallsMove s [] t
  | sent {t : Session} (p : Pending) (hcalls : t.calls = s.calls ++ [⟨s.called, p⟩])
      (hcalled : t.called = s.called + 1) : CallsMove s [.call s.called p.call] t
  | answered {t : Session} {id : Nat} {p : Pending} (r : Reply) (hp : s.pending? id = some p)
      (hcalls : t.calls = (s.forget id).calls) (hcalled : t.called = s.called) :
      CallsMove s [.answered id r] t

/-- Dropping the scheduled write is no concern of the panes. -/
theorem exists_cancelWrite (s : Session) :
    ∃ box writes calls, s.cancelWrite = { s with box, writes, calls } := by
  unfold cancelWrite
  split <;> exact ⟨_, _, _, rfl⟩

theorem exists_retype (s : Session) (text : String) :
    ∃ box writes calls, s.retype text = { s with box, writes, calls } := by
  obtain ⟨box, writes, calls, h⟩ := s.exists_cancelWrite
  simp only [retype, scheduleWrite, h]
  split <;> exact ⟨_, _, _, rfl⟩

theorem Move.calls (h : Tidy s) (m : Move s fx t) : CallsMove s fx t := by
  cases m with
  | quiet ha => exact .same ha.calls ha.called (.inl rfl)
  | finish op r => exact .same rfl rfl (.inr (.inr ⟨op, r, rfl⟩))
  | dropFetches g =>
    refine .dropped _ rfl rfl ?_
    intro c hc
    cases hp : c.pending <;> simp_all [Pending.isStaleFetch, Pending.call, Call.isFetch]
  | search page purpose hmay => exact .sent _ rfl rfl
  | clear => exact .same rfl rfl (.inr (.inl rfl))
  | notes page purpose hmay => exact .sent _ rfl rfl
  | refresh op r => exact .sent _ rfl rfl
  | send p hp => exact .sent p rfl rfl
  | cancelWrite =>
    obtain ⟨box, writes, calls, hs⟩ := s.exists_cancelWrite
    exact .same h.calls_cancelWrite (by rw [hs]) (.inl rfl)
  | retype text =>
    obtain ⟨box, writes, calls, hs⟩ := s.exists_retype text
    refine .same ?_ (by rw [hs]) (.inl rfl)
    rw [calls_retype, h.calls_cancelWrite]
  | wake number => exact .same rfl rfl (.inl rfl)

theorem execute_calls (s : Session) (op : OperationId) (saved : SavedSearch) :
    CallsMove s (s.execute op saved).2 (s.execute op saved).1 :=
  .sent _ rfl rfl

theorem Taken.calls {id : Nat} {r : Reply} (m : Taken s id r t) :
    CallsMove s [.answered id r] t := by
  cases m <;> exact .answered _ ‹_› rfl rfl

theorem CallsMove.keeps (m : CallsMove s fx t) {c : InFlight} (hc : c ∈ s.calls)
    (hfetch : c.pending.call.isFetch = false) :
    c ∈ t.calls ∨ ∃ r, .answered c.id r ∈ fx := by
  cases m with
  | same hcalls hcalled hfx => exact .inl (hcalls ▸ hc)
  | dropped keep hcalls hcalled hkeep =>
    rw [hcalls]
    exact .inl (List.mem_filter.2 ⟨hc, hkeep c hfetch⟩)
  | sent p hcalls hcalled => exact .inl (by simp [hcalls, hc])
  | @answered _ id p r hp hcalls hcalled =>
    by_cases hid : c.id = id
    · exact .inr ⟨r, by simp [hid]⟩
    · rw [hcalls]
      exact .inl (by simpa [forget] using ⟨hc, hid⟩)

/-- No call but a fetch of completions is given up: it stays until its reply has been taken. -/
theorem Tidy.mem_calls_steps (h : Tidy s) {c : InFlight} (hc : c ∈ s.calls)
    (hfetch : c.pending.call.isFetch = false) (es : List Event) :
    c ∈ (s.steps es).1.calls ∨ ∃ r, .answered c.id r ∈ (s.steps es).2 := by
  let Inv (u : Session) (past : List Effect) : Prop :=
    Tidy u ∧ (c ∈ u.calls ∨ ∃ r, .answered c.id r ∈ past)
  have hkeep {u v : Session} {fx past : List Effect} (hv : Tidy v) (m : CallsMove u fx v)
      (hu : Inv u past) : Inv v (fx.reverse ++ past) := by
    refine ⟨hv, ?_⟩
    rcases hu.2 with hmem | ⟨r, hr⟩
    · rcases m.keeps hmem hfetch with hkept | ⟨r, hr⟩
      · exact .inl hkept
      · exact .inr ⟨r, by simp [hr]⟩
    · exact .inr ⟨r, List.mem_append_right _ hr⟩
  have hrun : Inv (s.steps es).1 ((s.steps es).2.reverse ++ []) :=
    keep_steps Inv (fun m hu => hkeep (hu.1.move m) (m.calls hu.1) hu)
      (fun op saved hu => hkeep (hu.1.execute op saved) (execute_calls _ op saved) hu)
      (fun m hu => hkeep (hu.1.taken m) m.calls hu) ⟨h, .inl hc⟩ es
  simpa using hrun.2

/-! ## Calls and history -/

/-- Every call that has been sent is unanswered or has been answered, unless it fetches
completions; `past` holds the effects so far, the latest one first. -/
structure Accounted (s : Session) (past : List Effect) : Prop where
  tidy : Tidy s
  ordered : s.calls.Pairwise fun c d => c.id < d.id
  sent : ∀ c ∈ s.calls, .call c.id c.pending.call ∈ past
  lt_called : ∀ id call, .call id call ∈ past → id < s.called
  answered : ∀ id r, .answered id r ∈ past → id < s.called ∧ ∀ c ∈ s.calls, c.id ≠ id
  kept : ∀ id call, .call id call ∈ past → call.isFetch = false →
    (∃ c ∈ s.calls, c.id = id ∧ c.pending.call = call) ∨ ∃ r, .answered id r ∈ past

theorem Accounted.start (settings : Settings) (mode : Mode) (filter : Watched Filter) :
    Accounted (startWith settings mode filter) [] := by
  refine ⟨.start settings mode filter, ?_, ?_, ?_, ?_, ?_⟩ <;> simp [startWith, Session.start]

/-- A call that has not been made has not been answered. -/
theorem Accounted.not_answered (h : Accounted s past) {id : Nat} (hid : s.called ≤ id) (r : Reply) :
    .answered id r ∉ past :=
  fun hr => Nat.not_lt.2 hid (h.answered id r hr).1

/-- Calls have different numbers, so the number of a call leads back to it. -/
theorem find?_id_of_mem {calls : List InFlight} (h : calls.Pairwise fun c d => c.id < d.id)
    {c : InFlight} (hc : c ∈ calls) : calls.find? (fun d => d.id == c.id) = some c := by
  induction calls with
  | nil => simp at hc
  | cons d rest ih =>
    rw [List.pairwise_cons] at h
    rcases List.mem_cons.1 hc with rfl | hc
    · simp
    · have hne : (d.id == c.id) = false := by simpa using Nat.ne_of_lt (h.1 c hc)
      rw [List.find?_cons_of_neg (by simp [hne])]
      exact ih h.2 hc

theorem Accounted.pending?_of_mem (h : Accounted s past) {c : InFlight} (hc : c ∈ s.calls) :
    s.pending? c.id = some c.pending := by
  simp [pending?, find?_id_of_mem h.ordered hc]

theorem mem_of_pending? {id : Nat} {p : Pending} (h : s.pending? id = some p) :
    ⟨id, p⟩ ∈ s.calls := by
  obtain ⟨c, hc, rfl⟩ := Option.map_eq_some_iff.1 h
  have hid : c.id = id := by simpa using List.find?_some hc
  subst hid
  exact List.mem_of_find?_eq_some hc

theorem mem_forget {id : Nat} {c : InFlight} : c ∈ (s.forget id).calls ↔ c ∈ s.calls ∧ c.id ≠ id := by
  simp [forget]

theorem Accounted.callsMove (h : Accounted s past) (htidy : Tidy t) (m : CallsMove s fx t) :
    Accounted t (fx.reverse ++ past) := by
  cases m with
  | same hcalls hcalled hfx =>
    have hcall : ∀ id call, Effect.call id call ∈ fx.reverse ++ past ↔ .call id call ∈ past := by
      rcases hfx with rfl | rfl | ⟨op, r, rfl⟩ <;> simp
    have hanswered : ∀ id r, Effect.answered id r ∈ fx.reverse ++ past ↔ .answered id r ∈ past := by
      rcases hfx with rfl | rfl | ⟨op, r, rfl⟩ <;> simp
    refine ⟨htidy, ?_, ?_, ?_, ?_, ?_⟩
    · simpa only [hcalls] using h.ordered
    · simpa only [hcalls, hcall] using h.sent
    · simpa only [hcalled, hcall] using h.lt_called
    · simpa only [hcalls, hcalled, hanswered] using h.answered
    · simpa only [hcalls, hcall, hanswered] using h.kept
  | dropped keep hcalls hcalled hkeep =>
    have hsub : ∀ c ∈ t.calls, c ∈ s.calls := fun c hc => (List.mem_filter.1 (hcalls ▸ hc)).1
    refine ⟨htidy, ?_, fun c hc => h.sent c (hsub c hc), ?_, ?_, ?_⟩
    · rw [hcalls]
      exact h.ordered.sublist List.filter_sublist
    · exact fun id call hcall => hcalled ▸ h.lt_called id call hcall
    · intro id r hr
      obtain ⟨hlt, hne⟩ := h.answered id r hr
      exact ⟨hcalled ▸ hlt, fun c hc => hne c (hsub c hc)⟩
    · intro id call hcall hfetch
      rcases h.kept id call hcall hfetch with ⟨c, hc, hid, rfl⟩ | hr
      · refine .inl ⟨c, ?_, hid, rfl⟩
        rw [hcalls]
        exact List.mem_filter.2 ⟨hc, hkeep c hfetch⟩
      · exact .inr hr
  | sent p hcalls hcalled =>
    have hlt : ∀ c ∈ s.calls, c.id < s.called := fun c hc => h.lt_called _ _ (h.sent c hc)
    simp only [List.reverse_singleton, List.singleton_append]
    refine ⟨htidy, ?_, ?_, ?_, ?_, ?_⟩
    · rw [hcalls, List.pairwise_append]
      refine ⟨h.ordered, List.pairwise_singleton _ _, ?_⟩
      intro c hc d hd
      rw [List.mem_singleton.1 hd]
      exact hlt c hc
    · intro c hc
      rw [hcalls, List.mem_append, List.mem_singleton] at hc
      rcases hc with hc | rfl
      · exact List.mem_cons_of_mem _ (h.sent c hc)
      · exact List.mem_cons_self
    · intro id call hcall
      rw [hcalled]
      rcases List.mem_cons.1 hcall with heq | hcall
      · cases heq
        exact Nat.lt_succ_self _
      · exact Nat.lt_succ_of_lt (h.lt_called id call hcall)
    · intro id r hr
      obtain ⟨hid, hne⟩ := h.answered id r (by simpa using hr)
      refine ⟨hcalled ▸ Nat.lt_succ_of_lt hid, ?_⟩
      intro c hc
      rw [hcalls, List.mem_append, List.mem_singleton] at hc
      rcases hc with hc | rfl
      · exact hne c hc
      · exact Nat.ne_of_gt hid
    · intro id call hcall hfetch
      rcases List.mem_cons.1 hcall with heq | hcall
      · cases heq
        exact .inl ⟨⟨s.called, p⟩, by simp [hcalls], rfl, rfl⟩
      · rcases h.kept id call hcall hfetch with ⟨c, hc, hid⟩ | ⟨r, hr⟩
        · exact .inl ⟨c, by simp [hcalls, hc], hid⟩
        · exact .inr ⟨r, List.mem_cons_of_mem _ hr⟩
  | @answered _ id p r hp hcalls hcalled =>
    have hmem : ∀ c, c ∈ t.calls ↔ c ∈ s.calls ∧ c.id ≠ id := fun c => by
      rw [hcalls, mem_forget]
    simp only [List.reverse_singleton, List.singleton_append]
    refine ⟨htidy, ?_, ?_, ?_, ?_, ?_⟩
    · rw [hcalls]
      exact h.ordered.sublist List.filter_sublist
    · intro c hc
      exact List.mem_cons_of_mem _ (h.sent c ((hmem c).1 hc).1)
    · simpa [hcalled] using h.lt_called
    · intro i r' hr
      rcases List.mem_cons.1 hr with heq | hr
      · cases heq
        exact ⟨hcalled ▸ h.lt_called _ _ (h.sent _ (mem_of_pending? hp)), fun c hc => ((hmem c).1 hc).2⟩
      · obtain ⟨hlt, hne⟩ := h.answered i r' hr
        exact ⟨hcalled ▸ hlt, fun c hc => hne c ((hmem c).1 hc).1⟩
    · intro i call hcall hfetch
      by_cases hi : i = id
      · exact .inr ⟨r, by simp [hi]⟩
      · rcases h.kept i call (by simpa using hcall) hfetch with ⟨c, hc, rfl, hcc⟩ | ⟨r', hr'⟩
        · exact .inl ⟨c, (hmem c).2 ⟨hc, hi⟩, rfl, hcc⟩
        · exact .inr ⟨r', List.mem_cons_of_mem _ hr'⟩

theorem Accounted.move (h : Accounted s past) (m : Move s fx t) :
    Accounted t (fx.reverse ++ past) :=
  h.callsMove (h.tidy.move m) (m.calls h.tidy)

theorem Accounted.execute (h : Accounted s past) (op : OperationId) (saved : SavedSearch) :
    Accounted (s.execute op saved).1 ((s.execute op saved).2.reverse ++ past) :=
  h.callsMove (h.tidy.execute op saved) (execute_calls s op saved)

theorem Accounted.taken (h : Accounted s past) {id : Nat} {r : Reply} (m : Taken s id r t) :
    Accounted t (.answered id r :: past) :=
  h.callsMove (h.tidy.taken m) m.calls

theorem Accounted.steps (h : Accounted s past) (es : List Event) :
    Accounted (s.steps es).1 ((s.steps es).2.reverse ++ past) :=
  keep_steps Accounted (fun m h => h.move m) (fun op saved h => h.execute op saved)
    (fun m h => h.taken m) h es

theorem Accounted.step (h : Accounted s past) (e : Event) :
    Accounted (s.step e).1 ((s.step e).2.reverse ++ past) := by
  have hsteps := h.steps [e]
  rwa [steps_singleton] at hsteps

/-- A call that has not been answered waits. -/
theorem Accounted.mem_calls_of_unanswered (h : Accounted s past) {c : InFlight}
    (hc : c ∈ s.calls) (hfetch : c.pending.call.isFetch = false) {es : List Event}
    (hnone : ∀ r, .answered c.id r ∉ (s.steps es).2) : c ∈ (s.steps es).1.calls :=
  (h.tidy.mem_calls_steps hc hfetch es).resolve_right (not_exists.2 hnone)

end Session

end NoteSearch
