-- SUMMARY: No live write is aborted while it waits for a reply, and no pane loads for nothing.
import NoteSearch.Proofs.Session.Panes

/-!
# Loading

A pane shows that it loads exactly as long as its latest call is unanswered. This needs more than
tickets: if a live write could be aborted while it waits, its call would never be answered, and
the pane that it asked would load for ever.
-/

namespace NoteSearch.Session

variable {s : Session} {past : List Effect} {p : Pane}

theorem Waiting.loading_iff_latest (h : Waiting p s past) :
    p.loading s = true ↔ ∃ id c, p.latest past = some (id, c) ∧ ∀ r, .answered id r ∉ past := by
  rw [h.loading]
  constructor
  · rintro ⟨c, hc, hticket⟩
    refine ⟨c.id, c.pending.call, (h.latest c hc _ hticket).1 rfl, ?_⟩
    intro r hr
    exact (h.accounted.answered c.id r hr).2 c hc rfl
  · rintro ⟨id, call, hlatest, hunanswered⟩
    obtain ⟨hasks, hsent⟩ := Pane.of_latest hlatest
    rcases h.accounted.kept id call hsent (Pane.isFetch_of_asks hasks) with
      ⟨c, hc, rfl, rfl⟩ | ⟨r, hr⟩
    · rw [Pane.asks_call] at hasks
      obtain ⟨n, hn⟩ := Option.isSome_iff_exists.1 hasks
      exact ⟨c, hc, hn.trans (congrArg some ((h.latest c hc n hn).2 hlatest))⟩
    · exact absurd hr (hunanswered r)

theorem Waiting.loading_of_calls_nil (h : Waiting p s past) (hcalls : s.calls = []) :
    p.loading s = false := by
  apply Bool.eq_false_iff.2
  intro hloading
  obtain ⟨c, hc, -⟩ := h.loading.1 hloading
  simp [hcalls] at hc

/-- In every run: the live write that the search box could abort waits for no reply, so a call
that does not fetch completions stays until its reply is taken; and a pane loads exactly as long
as its latest call, if it has not been taken back, is unanswered. -/
theorem loading_iff_unanswered (settings : Settings) (mode : Mode) (es : List Event) :
    let s := ((start settings mode).steps es).1
    let past := ((start settings mode).steps es).2.reverse
    (∀ number, s.box.pending = some number →
      ∀ c ∈ s.calls, c.pending.isOfWrite number = false) ∧
    (∀ c ∈ s.calls, c.pending.call.isFetch = false → ∀ e,
      c ∈ (s.step e).1.calls ∨ ∃ r, e = .reply c.id r ∧ .answered c.id r ∈ (s.step e).2) ∧
    (∀ p : Pane, p.loading s = true ↔
      ∃ id c, p.latest past = some (id, c) ∧ ∀ r, .answered id r ∉ past) ∧
    (s.calls = [] → ∀ p : Pane, p.loading s = false) := by
  intro s past
  have hwaiting (p : Pane) : Waiting p s past := by
    simpa using (Waiting.start p settings mode (start settings mode).filter).steps es
  have htidy : Tidy s := (hwaiting .search).accounted.tidy
  refine ⟨?_, ?_, ?_, ?_⟩
  · intro number hn c hc
    exact htidy.not_isOfWrite hn hc
  · intro c hc hfetch e
    have hkept := htidy.mem_calls_steps hc hfetch [e]
    rw [steps_singleton] at hkept
    rcases hkept with hmem | ⟨r, hr⟩
    · exact .inl hmem
    · exact .inr ⟨r, eq_reply_of_answered hr, hr⟩
  · intro p
    exact (hwaiting p).loading_iff_latest
  · intro hcalls p
    exact (hwaiting p).loading_of_calls_nil hcalls

/-- The user goes on typing while the live write for the first word waits for its search: the
page loads until the reply comes. -/
theorem loading_while_typing :
    let typing : List Event :=
      [.command 0 (.type "budget"), .wait 600, .command 1 (.type "budget q4")]
    let s := ((start {} .searchPage).steps typing).1
    let t := ((start {} .searchPage).steps (typing ++ [.reply 1 (.search (.ok {}))])).1
    (s.box.pending = some 2 ∧ ∀ c ∈ s.calls, c.pending.isOfWrite 2 = false) ∧
      Pane.search.loading s = true ∧ t.calls = [] ∧ ∀ p : Pane, p.loading t = false := by
  intro typing s t
  obtain ⟨hwrite, -, hloading, -⟩ := loading_iff_unanswered {} .searchPage typing
  obtain ⟨-, -, -, hidle⟩ :=
    loading_iff_unanswered {} .searchPage (typing ++ [.reply 1 (.search (.ok {}))])
  have hcalls : t.calls = [] := by rfl
  refine ⟨⟨by rfl, hwrite 2 (by rfl)⟩, (hloading .search).2 ?_, hcalls, hidle hcalls⟩
  have hpast : ∀ r, Effect.answered 1 r ∉ ((start {} .searchPage).steps typing).2.reverse := by
    intro r hr
    have := reply_mem_of_answered (List.mem_reverse.1 hr)
    simp [typing] at this
  exact ⟨1, .search ({ query := some "budget" }), by rfl, hpast⟩

end NoteSearch.Session
