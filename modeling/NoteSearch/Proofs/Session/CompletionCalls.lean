-- SUMMARY: Completions are fetched when a quiet time is over, exactly once, unless it is disturbed.
import Mathlib.Data.List.Basic
import NoteSearch.Proofs.Session.CompletionChanges

/-!
# Fetches of completions

Completions are fetched after the quiet time that follows a typed text. Another text, whatever its
length, and every dismissal drop what waits; the focus has no part in it. So the fetches of a run
are known from its events (`completions_fetched_after_quiet_time`).
-/

namespace NoteSearch

/-- The text and the limit of a fetch of completions that is sent. -/
def Effect.fetch? : Effect → Option (String × UInt32)
  | .call _ (.suggestions text limit) => some (text, limit)
  | _ => none

/-- Whether an operation gives the focus to the search box or takes it away, and does nothing
else. -/
def Command.movesFocus : Command → Bool
  | .focus => true
  | .blur => true
  | .focusSuggestions => true
  | .blurSuggestions => true
  | .press k => k.isFocusChord
  | _ => false

namespace Session

variable {s : Session} {st : Step} {a : Touch String}

/-! ## What is sent at a moment -/

/-- The text of the fetch that is sent at a moment. -/
def sentFetch? (s : Session) : Event → Option String
  | .ring .fetch =>
    (s.suggestions.value.scheduled.filter fun f => decide (f.due ≤ s.now)).map (·.text)
  | _ => none

theorem TouchesFetch.fetch?_eq_nil (h : TouchesFetch s a st) :
    st.2.filterMap Effect.fetch? = [] := by
  refine List.filterMap_eq_nil_iff.2 fun fx hfx => ?_
  cases fx with
  | call id call =>
    have hsilent := h.silent id call hfx
    cases call <;> first | rfl | cases hsilent
  | _ => rfl

/-- A fetch is sent when it is due. -/
theorem ringFetch_eq {f : ScheduledFetch} (h : s.suggestions.value.scheduled = some f)
    (hdue : f.due ≤ s.now) : s.ring .fetch = s.sendFetch f := by
  simp [ring, h, hdue]

/-- Completions are fetched by the timer of the fetch that waits, and by nothing else. -/
theorem fetches_step {e : Event} (hwait : e.isWait = false) :
    (s.step e).2.filterMap Effect.fetch? =
      (s.sentFetch? e).toList.map fun text => (text, s.settings.suggestionLimit) := by
  cases e with
  | command op c => exact (perform_touches s op c).fetch?_eq_nil
  | reply id r => exact (reply_touches s id r).fetch?_eq_nil
  | wait ms => cases hwait
  | pass ms => rfl
  | ring t =>
    cases t with
    | write number => exact (ringWrite_touches s number).fetch?_eq_nil
    | fetch =>
      simp only [step, sentFetch?]
      cases hscheduled : s.suggestions.value.scheduled with
      | none => simp [ring, hscheduled]
      | some f =>
        by_cases hdue : f.due ≤ s.now
        · rw [ringFetch_eq hscheduled hdue]
          simp [hdue, sendFetch, send, Effect.fetch?, Pending.call, Option.filter_some]
        · simp [ring, hscheduled, hdue, Option.filter_some]

/-! ## What is sent in a run -/

/-- Completions are fetched when the quiet time is over. -/
def completionFetches (delay : Nat) : Deferred String where
  delay
  waiting s := s.suggestions.value.waiting?
  touch := fetchTouch
  happens := sentFetch?

theorem completionFetches_lawful {settings : Settings} (hdelay : 0 < settings.suggestionDelay) :
    (completionFetches settings.suggestionDelay.toNat).Lawful fun s => s.settings = settings where
  delay_pos := UInt64.lt_iff_toNat_lt.1 hdelay
  clock time hs := ⟨hs, rfl⟩
  timer {s x} hs hx := by
    obtain ⟨f, hf, rfl⟩ := Option.map_eq_some_iff.1 hx
    exact ⟨.fetch, List.mem_append_left _ (by simp [hf])⟩
  ring {s due t} hs hmem hdue := by
    rcases List.mem_append.1 hmem with hfetch | hwrite
    · obtain ⟨f, hf, heq⟩ := Option.map_eq_some_iff.1 (Option.mem_toList.1 hfetch)
      cases heq
      rw [ringFetch_eq hf hdue]
      refine ⟨hs, .inl ⟨f.text, ?_, ?_, rfl⟩⟩
      · simp [completionFetches, Suggestions.waiting?, hf]
      · simp [completionFetches, sentFetch?, hf, hdue, Option.filter_some]
    · obtain ⟨w, hw, heq⟩ := List.mem_map.1 hwrite
      cases heq
      have htouches := ringWrite_touches s w.number
      exact ⟨htouches.settings.trans hs, .inr ⟨rfl, htouches.waiting⟩⟩
  touch_wait s ms := rfl
  step {s e} hs hahead htimed hwait := by
    cases e with
    | command op c =>
      have htouches := perform_touches s op c
      refine ⟨htouches.settings.trans hs, rfl, htouches.now, ?_⟩
      have hwaiting := htouches.waiting
      rw [fetchDue, hs] at hwaiting
      exact hwaiting
    | reply id r =>
      have htouches := reply_touches s id r
      exact ⟨htouches.settings.trans hs, rfl, htouches.now, htouches.waiting⟩
    | wait ms => cases hwait
    | pass ms => cases htimed
    | ring t => cases htimed

/-- The focus has no part in what is fetched. -/
theorem fetchTouch_of_movesFocus (op : OperationId) {c : Command} (h : c.movesFocus = true) :
    s.fetchTouch (.command op c) = .keep := by
  cases c with
  | press k =>
    have hescape : k.key ≠ .escape := fun hkey => by
      simp [Command.movesFocus, isFocusChord_eq_false (.inl hkey)] at h
    have henter : k.key ≠ .enter := fun hkey => by
      simp [Command.movesFocus, isFocusChord_eq_false (.inr hkey)] at h
    simp [fetchTouch, pressTouch, hescape, henter]
  | _ => first | rfl | cases h

/-- The completions that are fetched in a run in which timers ring on time are those for the typed
texts that are long enough, one fetch for each of them that nothing has dropped until its quiet time
is over. An operation that only moves the focus fetches nothing and drops nothing. -/
theorem completions_fetched_after_quiet_time (settings : Settings) (mode : Mode)
    (filter : Watched Filter) (es : List Event) (htimed : ∀ e ∈ es, e.isTimed = true)
    (hdelay : 0 < settings.suggestionDelay) :
    let s := startWith settings mode filter
    ((s.moments es).flatMap fun m =>
        ((m.1.step m.2).2.filterMap Effect.fetch?).map fun x => (m.1.now, x)) =
      ((expected fetchTouch settings.suggestionDelay.toNat s es).map fun x =>
        (x.1, x.2, settings.suggestionLimit)) ∧
    ∀ m ∈ s.moments es, ∀ op c, m.2 = .command op c → c.movesFocus = true →
      (m.1.step m.2).2.filterMap Effect.fetch? = [] ∧
      (m.1.step m.2).1.suggestions.value.waiting? = m.1.suggestions.value.waiting? := by
  intro s
  have hlawful := completionFetches_lawful hdelay
  have hs : s.settings = settings := rfl
  obtain ⟨hfired, hmoments, -⟩ := hlawful.fired_eq hs (by rintro x ⟨⟩) htimed
  refine ⟨?_, ?_⟩
  · have hmoment (m) (hm : m ∈ s.moments es) :
        ((m.1.step m.2).2.filterMap Effect.fetch?).map (fun x => (m.1.now, x)) =
          ((m.1.sentFetch? m.2).map fun text => (m.1.now, text)).toList.map fun x =>
            (x.1, x.2, settings.suggestionLimit) := by
      rw [fetches_step (isWait_of_mem_moments hm), hmoments m hm]
      cases m.1.sentFetch? m.2 <;> rfl
    have hfired : (completionFetches settings.suggestionDelay.toNat).fired (s.moments es) =
        expected fetchTouch settings.suggestionDelay.toNat s es := hfired
    rw [List.flatMap_congr hmoment, ← List.map_flatMap, ← List.filterMap_eq_flatMap_toList]
    exact congrArg _ hfired
  · intro m hm op c hcommand hfocus
    have htouches := perform_touches m.1 op c
    rw [fetchTouch_of_movesFocus op hfocus] at htouches
    rw [hcommand]
    exact ⟨htouches.fetch?_eq_nil, htouches.waiting⟩

/-- The second text outdates the first one, and it is fetched although the box has lost the focus in
the meantime; the third text is too short, and the fetch for the fourth one is dismissed. -/
theorem completions_fetched_for_second_text :
    let es : List Event :=
      [.command 0 (.type "bu"), .wait 100, .command 1 (.type " budget "), .command 2 .blur,
        .wait 600, .command 3 (.typeSuggestion "x"), .wait 600, .command 4 (.type "note"),
        .command 5 .dismissSuggestions, .wait 600]
    let s := startWith {} .standalone ⟨{}, 0⟩
    (∀ e ∈ es, e.isTimed = true) ∧
    ((s.moments es).flatMap fun m =>
        ((m.1.step m.2).2.filterMap Effect.fetch?).map fun x => (m.1.now, x)) =
      [(400, "budget", 5)] := by
  intro es s
  have htimed : ∀ e ∈ es, e.isTimed = true := by simp [es, Event.isTimed]
  obtain ⟨hfetched, -⟩ := completions_fetched_after_quiet_time {} .standalone ⟨{}, 0⟩ es htimed
    (by decide +kernel)
  have hdelay : ({} : Settings).suggestionDelay.toNat = 300 := by decide +kernel
  have hexpected : expected fetchTouch 300 s es = [(400, "budget")] := by decide +kernel
  rw [hdelay] at hfetched
  refine ⟨htimed, hfetched.trans ?_⟩
  rw [hexpected]
  rfl

end Session

end NoteSearch
