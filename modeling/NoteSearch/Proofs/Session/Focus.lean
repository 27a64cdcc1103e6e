-- SUMMARY: The focus of the search box follows the user, except for an Escape that waits for notes.
import NoteSearch.Proofs.Session.PaneContents

/-!
# Focus of the search box

The user gives and takes the focus by an operation or by a key. All of it happens at once, except
for one thing: where typing filters the notes, an Escape takes the focus only when the notes have
come that it asks for. Such a reply comes when it comes, and it also takes a focus that has been
given since the Escape; no other reply changes the focus.
-/

namespace NoteSearch

/-- The focus that an event asks for, if it asks for one. -/
def Event.focus? : Event → Option Bool
  | .command _ .focus => some true
  | .command _ .blur => some false
  | .command _ (.press k) =>
    if k.isFocusChord then some true else if k.key = .escape then some false else none
  | _ => none

/-- The focus that some events ask for one after the other, after it has been `focused`. -/
def focusAsked (focused : Bool) (es : List Event) : Bool :=
  es.foldl (fun focused e => e.focus?.getD focused) focused

namespace Session

variable {s : Session} {e : Event} {past : List Effect} {ids : List Nat}

/-- Whether an event is a reply that ends an Escape. -/
def endsEscape (s : Session) : Event → Bool
  | .reply id (.notes _) => (s.pending? id).any (·.isEscape)
  | _ => false

/-- The numbers of the calls that the Escapes of a run wait for. -/
def escapeCalls (s : Session) : List Event → List Nat
  | [] => []
  | e :: es => (if s.blursLate e then [s.called] else []) ++ escapeCalls (s.step e).1 es

/-! ## Operations -/

@[simp] theorem focused_cancelWrite (s : Session) :
    s.cancelWrite.box.focused = s.box.focused := by
  unfold cancelWrite
  split <;> rfl

theorem focused_type (s : Session) (text : String) : (s.type text).box.focused = s.box.focused := by
  simp only [type, scheduleWrite]
  split <;> simp [withSuggestions]

theorem box_searchFor (s : Session) (text : String) (purpose : SearchPurpose) :
    ((s.dismiss.act (.setQuery text)).startSearch (some 1) purpose).1.box = s.box := rfl

theorem focused_submit (s : Session) (op : OperationId) (byKey : Bool) :
    (s.submit op byKey).1.box.focused = s.box.focused := by
  unfold submit
  dsimp only
  split
  · exact s.focused_cancelWrite
  · rw [box_searchFor, focused_cancelWrite]

theorem focused_commit (s : Session) (op : OperationId) (text : String) (byKey : Bool) :
    (s.commit op text byKey).1.box.focused = s.box.focused :=
  s.focused_cancelWrite

theorem text_clearBox (s : Session) (op : OperationId) (byEscape : Bool) :
    (s.clearBox op byEscape).1.box.text = "" := by
  unfold clearBox
  dsimp only
  split
  · cases byEscape <;> rfl
  · rfl
  · cases byEscape <;> rfl

/-- An Escape takes the focus at once where it sends nothing. -/
theorem focused_clearBox (s : Session) (op : OperationId) (byEscape : Bool) :
    (s.clearBox op byEscape).1.box.focused =
      (s.box.focused && !(byEscape && s.box.mode != .liveFilter)) := by
  let emptied := ({ s.cancelWrite with box := { s.cancelWrite.box with text := "" } }).dismiss
  have hmode : emptied.box.mode = s.box.mode := s.mode_cancelWrite
  have hfocused : emptied.box.focused = s.box.focused := s.focused_cancelWrite
  unfold clearBox
  dsimp only
  rw [← hmode, ← hfocused]
  split
  · rename_i hpage
    rw [show emptied.box.mode = .searchPage from hpage]
    cases byEscape
    · exact (Bool.and_true _).symm
    · exact (Bool.and_false _).symm
  · rename_i hlive
    rw [show emptied.box.mode = .liveFilter from hlive]
    exact show emptied.box.focused = _ by simp
  · rename_i halone
    rw [show emptied.box.mode = .standalone from halone]
    cases byEscape
    · exact (Bool.and_true _).symm
    · exact (Bool.and_false _).symm

theorem focused_suggestionPress (s : Session) (op : OperationId) (key : Key) :
    (s.suggestionPress op key).1.box.focused = s.box.focused := by
  unfold suggestionPress
  dsimp only
  split
  · exact focused_commit _ op _ true
  · split
    · exact focused_submit _ op true
    · rfl
  · rfl

theorem focused_press (s : Session) (op : OperationId) (k : KeyPress) :
    (s.press op k).1.box.focused =
      if s.blursLate (.command op (.press k)) then s.box.focused
      else (Event.command op (.press k)).focus?.getD s.box.focused := by
  by_cases hescape : k.key = .escape
  · have hchord := isFocusChord_eq_false (.inl hescape)
    cases hfocus : s.box.focused with
    | true =>
      rw [press_escape op hfocus hescape, focused_clearBox]
      cases hmode : s.box.mode <;> simp [blursLate, Event.focus?, hchord, hfocus, hescape, hmode]
    | false => simp [press, blursLate, Event.focus?, finish, hchord, hfocus, hescape]
  · have hlate : s.blursLate (.command op (.press k)) = false := by simp [blursLate, hescape]
    rw [hlate]
    simp only [press, Event.focus?, hescape, if_false]
    split
    · rfl
    split
    · rfl
    split
    · exact absurd ‹_› hescape
    · split
      · exact focused_suggestionPress s op k.key
      · rfl
    · split
      · exact focused_suggestionPress s op k.key
      · rfl
    · split
      · exact focused_suggestionPress s op k.key
      · exact focused_submit s op true
    · rfl

theorem focused_perform (s : Session) (op : OperationId) (c : Command) :
    (s.perform op c).1.box.focused =
      if s.blursLate (.command op c) then s.box.focused
      else (Event.command op c).focus?.getD s.box.focused := by
  cases helsewhere : c.isElsewhere with
  | true =>
    rw [(perform_elsewhere s op helsewhere).box]
    cases c <;> first | rfl | cases helsewhere
  | false =>
    cases c with
    | type text => exact focused_type s text
    | setMode mode => exact focused_cancelWrite s
    | submit => exact focused_submit s op false
    | commit text => exact focused_commit s op text false
    | clearBox =>
      refine (focused_clearBox s op false).trans ?_
      simp [blursLate, Event.focus?]
    | press k => exact focused_press s op k
    | _ => first | rfl | cases helsewhere

/-! ## Timers and replies -/

theorem focused_ring (s : Session) (t : Timer) : (s.ring t).1.box.focused = s.box.focused := by
  cases t with
  | fetch =>
    simp only [ring]
    split
    · rfl
    split <;> rfl
  | write number =>
    simp only [ring]
    split
    · rfl
    · rename_i w _
      rw [wake_eq]
      unfold SearchBox.claim?
      split
      · rfl
      · rename_i box hclaim
        rw [(liveWrite_elsewhere _ w).box]
        split at hclaim
        · cases hclaim
          rfl
        · cases hclaim

theorem focused_ringUntil (limit count : Nat) (s : Session) :
    (ringUntil limit count s).1.box.focused = s.box.focused := by
  induction count generalizing s with
  | zero => rfl
  | succ count ih =>
    unfold ringUntil ringNext?
    split
    · rfl
    · rename_i st hst
      split at hst
      · cases hst
      split at hst
      · cases hst
        exact (ih _).trans (focused_ring _ _)
      · cases hst

theorem endsEscape_iff : s.endsEscape e = true ↔ ∃ id ticket query op a,
    e = .reply id (.notes a) ∧ s.pending? id = some (.notes ticket query (.escape op)) := by
  constructor
  · intro h
    unfold endsEscape at h
    split at h
    · rename_i id a
      obtain ⟨p, hid, hescape⟩ := (Option.any_eq_true ..).1 h
      unfold Pending.isEscape at hescape
      split at hescape
      · exact ⟨id, _, _, _, a, rfl, hid⟩
      · cases hescape
    · cases h
  · rintro ⟨id, ticket, query, op, a, rfl, hid⟩
    simp [endsEscape, hid, Pending.isEscape]

/-- The reply that an Escape waits for takes the focus. -/
theorem reply_escape {id ticket : Nat} {query : NoteQuery} {op : OperationId}
    (hid : s.pending? id = some (.notes ticket query (.escape op))) (a : Except Failure NotePage) :
    s.reply id (.notes a) =
      (({ s.forget id with notes := (NotePane.receive s.notes ticket query a).1 } : Session).blur,
        [.answered id (.notes a), .finished op (.key .cleared)]) := by
  rw [reply_of_take hid rfl]
  rfl

/-- Any other reply leaves the focus alone. -/
theorem focused_reply {id : Nat} {r : Reply} (h : s.endsEscape (.reply id r) = false) :
    (s.reply id r).1.box.focused = s.box.focused := by
  unfold reply
  split
  · rfl
  · rename_i p hid
    cases htake : (s.forget id).take p r with
    | none => rfl
    | some st =>
      dsimp only
      unfold take at htake
      split at htake
      case h_11 => cases htake
      all_goals cases htake
      case h_1 => exact congrArg (·.focused) (afterSearch_elsewhere _ _ _).box
      case h_4 => exact congrArg (·.focused) (afterCreate_elsewhere _ _ _).box
      case h_5 => exact congrArg (·.focused) (afterExecute_elsewhere _ _ _ _ _).box
      case h_6 => exact congrArg (·.focused) (afterDelete_elsewhere _ _ _ _).box
      case h_10 ticket query purpose a =>
        cases purpose with
        | escape op => simp [endsEscape, hid, Pending.isEscape] at h
        | _ => rfl
      case h_2 => rfl
      case h_3 => rfl
      all_goals exact congrArg (·.focused) (afterPart_elsewhere _ _ _ _).box

/-- The focus after an event is the one that the event asks for, unless the event is an Escape that
waits for the notes, or the reply that such an Escape waits for. -/
theorem focused_step (s : Session) (e : Event) :
    (s.step e).1.box.focused =
      if s.blursLate e then s.box.focused
      else if s.endsEscape e then false
      else e.focus?.getD s.box.focused := by
  cases e with
  | command op c => exact focused_perform s op c
  | reply id r =>
    cases hends : s.endsEscape (.reply id r) with
    | true =>
      obtain ⟨i, ticket, query, op, a, heq, hid⟩ := endsEscape_iff.1 hends
      cases heq
      exact congrArg (·.1.box.focused) (reply_escape hid a)
    | false => exact focused_reply hends
  | wait ms => exact focused_ringUntil _ _ s
  | pass ms => rfl
  | ring t => exact focused_ring s t

/-! ## The calls that Escapes wait for -/

theorem called_cancelWrite (s : Session) : s.cancelWrite.called = s.called := by
  unfold cancelWrite
  split <;> rfl

theorem mem_calls_cancelWrite {c : InFlight} (hc : c ∈ s.cancelWrite.calls) : c ∈ s.calls := by
  unfold cancelWrite at hc
  split at hc
  · exact (List.mem_filter.1 hc).1
  · exact hc

/-- An Escape that takes the focus late sends one call, which it waits for. -/
theorem step_blursLate (h : s.blursLate e = true) :
    (s.step e).1.called = s.called + 1 ∧ ∀ c ∈ (s.step e).1.calls,
      c ∈ s.calls ∨ c.id = s.called ∧ c.pending.isEscape = true := by
  unfold blursLate at h
  split at h
  · rename_i op k
    simp only [Bool.and_eq_true, beq_iff_eq] at h
    obtain ⟨⟨hfocus, hkey⟩, hlive⟩ := h
    have hmode {mode : Mode} (hm : s.cancelWrite.box.mode = mode) : mode = .liveFilter := by
      rw [← hm, mode_cancelWrite, hlive]
    simp only [step, perform, press_escape op hfocus hkey, clearBox]
    split
    · cases hmode ‹_›
    · refine ⟨congrArg (· + 1) s.called_cancelWrite, fun c hc => ?_⟩
      rcases List.mem_append.1 hc with hold | hnew
      · exact .inl (mem_calls_cancelWrite (List.mem_filter.1 hold).1)
      · rw [List.mem_singleton.1 hnew]
        exact .inr ⟨s.called_cancelWrite, rfl⟩
    · cases hmode ‹_›
  · cases h

/-- No other event sends a call that an Escape waits for. -/
theorem step_not_blursLate (h : s.blursLate e = false) :
    s.called ≤ (s.step e).1.called ∧ ∀ c ∈ (s.step e).1.calls,
      c ∈ s.calls ∨ s.called ≤ c.id ∧ c.pending.isEscape = false := by
  have hkeeps {t : Session} {st : Step} (k : KeepsContents false t st)
      (hcalled : t.called = s.called) (hcalls : ∀ c ∈ t.calls, c ∈ s.calls) :
      s.called ≤ st.1.called ∧ ∀ c ∈ st.1.calls,
        c ∈ s.calls ∨ s.called ≤ c.id ∧ c.pending.isEscape = false := by
    refine ⟨hcalled ▸ k.called, fun c hc => ?_⟩
    rcases k.calls c hc with hold | ⟨hid, -, hescape⟩
    · exact .inl (hcalls c hold)
    · exact .inr ⟨hcalled ▸ hid, by simpa using hescape⟩
  rcases s.step_received_cases e with hstep | ⟨op, rfl⟩ | ⟨id, r, p, t, st, -, -, ht, hst, hstep⟩
  · rw [h] at hstep
    exact hkeeps hstep rfl fun _ hc => hc
  · refine ⟨Nat.le_add_right s.called 3, fun c hc => ?_⟩
    simp only [step, perform, loadInsights, Step.andThen, send, List.append_assoc] at hc
    simp only [List.mem_append, List.mem_singleton] at hc
    rcases hc with hold | rfl | rfl | rfl
    · exact .inl hold
    · exact .inr ⟨Nat.le_refl _, rfl⟩
    · exact .inr ⟨Nat.le_add_right _ 1, rfl⟩
    · exact .inr ⟨Nat.le_add_right _ 2, rfl⟩
  · have hcalls : ∀ c ∈ t.calls, c ∈ s.calls := fun c hc => (mem_forget.1 (ht.calls ▸ hc)).1
    rw [hstep]
    exact @hkeeps t st hst ht.called hcalls

/-- The calls that Escapes wait for have the numbers `ids`. -/
structure Escaping (s : Session) (ids : List Nat) : Prop where
  lt_called : ∀ id ∈ ids, id < s.called
  mem_iff : ∀ c ∈ s.calls, c.id ∈ ids ↔ c.pending.isEscape = true

theorem Escaping.start (settings : Settings) (mode : Mode) (filter : Watched Filter) :
    Escaping (startWith settings mode filter) [] := by
  constructor <;> simp [startWith, Session.start]

theorem Escaping.step (h : Escaping s ids) (hacc : Accounted s past) (e : Event) :
    Escaping (s.step e).1 (ids ++ if s.blursLate e then [s.called] else []) := by
  have hold {c : InFlight} (hc : c ∈ s.calls) : c.id < s.called :=
    hacc.lt_called _ _ (hacc.sent c hc)
  cases hlate : s.blursLate e with
  | true =>
    obtain ⟨hcalled, hcalls⟩ := step_blursLate hlate
    constructor
    · simp only [if_true, List.mem_append, List.mem_singleton, hcalled]
      rintro id (hid | rfl)
      · exact Nat.lt_succ_of_lt (h.lt_called id hid)
      · exact Nat.lt_succ_self _
    · intro c hc
      simp only [if_true, List.mem_append, List.mem_singleton]
      rcases hcalls c hc with hc | ⟨hid, hescape⟩
      · rw [h.mem_iff c hc]
        exact or_iff_left (Nat.ne_of_lt (hold hc))
      · simp [hid, hescape]
  | false =>
    obtain ⟨hcalled, hcalls⟩ := step_not_blursLate hlate
    constructor
    · intro id hid
      exact Nat.lt_of_lt_of_le (h.lt_called id (by simpa using hid)) hcalled
    · intro c hc
      simp only [Bool.false_eq_true, if_false, List.append_nil]
      rcases hcalls c hc with hc | ⟨hid, hescape⟩
      · exact h.mem_iff c hc
      · have hnew : c.id ∉ ids := fun hmem => Nat.not_lt.2 hid (h.lt_called _ hmem)
        simp [hnew, hescape]

theorem Escaping.steps (h : Escaping s ids) (hacc : Accounted s past) (es : List Event) :
    Escaping (s.steps es).1 (ids ++ escapeCalls s es) := by
  induction es generalizing s ids past with
  | nil => simpa [Session.steps, escapeCalls] using h
  | cons e es ih =>
    have hrest := ih (h.step hacc e) (hacc.step e)
    rwa [List.append_assoc] at hrest

/-- The replies that end an Escape are those to the calls that Escapes wait for. -/
theorem Escaping.endsEscape_iff (h : Escaping s ids) :
    s.endsEscape e = true ↔ ∃ id ∈ ids, ∃ r, .answered id r ∈ (s.step e).2 := by
  constructor
  · intro hends
    obtain ⟨id, ticket, query, op, a, rfl, hid⟩ := Session.endsEscape_iff.1 hends
    refine ⟨id, (h.mem_iff _ (mem_of_pending? hid)).2 rfl, .notes a, ?_⟩
    rw [Session.step, reply_escape hid]
    exact List.mem_cons_self
  · rintro ⟨id, hmem, r, hr⟩
    obtain rfl := eq_reply_of_answered hr
    rcases s.reply_received id r with hnone | ⟨p, t, st, hid, hreceived, -, -⟩
    · rw [Session.step, hnone] at hr
      cases hr
    · have hescape : p.isEscape = true := (h.mem_iff _ (mem_of_pending? hid)).1 hmem
      unfold Pending.isEscape at hescape
      split at hescape
      · cases hreceived with
        | notes a => exact Session.endsEscape_iff.2 ⟨id, _, _, _, a, rfl, hid⟩
        | part hp hr => cases hp
        | other hp hr => cases hp
      · cases hescape

/-! ## The focus in a run -/

theorem focus?_of_blursLate (h : s.blursLate e = true) : e.focus? = some false := by
  unfold blursLate at h
  split at h
  · rename_i op k
    simp only [Bool.and_eq_true, beq_iff_eq] at h
    simp [Event.focus?, isFocusChord_eq_false (.inl h.1.2), h.1.2]
  · cases h

theorem blursLate_eq_false (h : e.focus? ≠ some false) : s.blursLate e = false := by
  rw [← Bool.not_eq_true]
  exact fun hlate => h (focus?_of_blursLate hlate)

theorem focused_of_blursLate (h : s.blursLate e = true) : s.box.focused = true := by
  unfold blursLate at h
  split at h
  · simp only [Bool.and_eq_true] at h
    exact h.1.1
  · cases h

theorem endsEscape_of_focus? (h : e.focus? ≠ none) : s.endsEscape e = false := by
  cases e with
  | reply id r => exact absurd rfl h
  | _ => rfl

/-- An event that asks for the focus gives it. -/
theorem focused_step_of_focus? (h : e.focus? = some true) : (s.step e).1.box.focused = true := by
  rw [focused_step, blursLate_eq_false (by simp [h]),
    endsEscape_of_focus? (by simp [h]), h]
  rfl

/-- As long as nothing asks for another focus, a focus lasts until an Escape ends. -/
theorem Escaping.focused_steps_iff (h : Escaping s ids) (hacc : Accounted s past)
    {es : List Event} (hes : ∀ e ∈ es, e.focus? = none) :
    (s.steps es).1.box.focused = true ↔
      s.box.focused = true ∧ ∀ id ∈ ids, ∀ r, .answered id r ∉ (s.steps es).2 := by
  induction es generalizing s past with
  | nil => simp [Session.steps]
  | cons e es ih =>
    have he : e.focus? = none := hes e List.mem_cons_self
    have hlate : s.blursLate e = false := blursLate_eq_false (by simp [he])
    have hnext : Escaping (s.step e).1 ids := by simpa [hlate] using h.step hacc e
    have hfirst : (s.step e).1.box.focused = true ↔
        s.box.focused = true ∧ ∀ id ∈ ids, ∀ r, .answered id r ∉ (s.step e).2 := by
      have hends : s.endsEscape e = false ↔ ∀ id ∈ ids, ∀ r, .answered id r ∉ (s.step e).2 := by
        rw [← Bool.not_eq_true, h.endsEscape_iff]
        simp only [not_exists, not_and]
      rw [focused_step, hlate, he, ← hends]
      cases s.endsEscape e <;> simp
    have hrest := ih hnext (hacc.step e) fun x hx => hes x (List.mem_cons_of_mem _ hx)
    rw [steps_cons, Step.andThen]
    simp only [List.mem_append, not_or]
    rw [hrest, hfirst]
    grind

/-- The focus is always the one that the user has asked for, exactly if no Escape waits for a
call. -/
theorem Escaping.follows_iff (h : Escaping s []) (hacc : Accounted s past) (es : List Event) :
    (∀ before, before <+: es →
      (s.steps before).1.box.focused = focusAsked s.box.focused before) ↔
    escapeCalls s es = [] := by
  induction es generalizing s past with
  | nil => simp [escapeCalls, focusAsked, Session.steps]
  | cons e es ih =>
    cases hlate : s.blursLate e with
    | true =>
      -- The user has taken the focus, but the box still has it.
      simp only [escapeCalls, hlate, if_true, List.cons_append, reduceCtorEq, iff_false]
      intro hfollows
      have hone := hfollows [e] (by simp)
      rw [steps_singleton, focused_step, hlate, focused_of_blursLate hlate] at hone
      simp [focusAsked, focus?_of_blursLate hlate] at hone
    | false =>
      have hnext : Escaping (s.step e).1 [] := by simpa [hlate] using h.step hacc e
      have hends : s.endsEscape e = false := by
        rw [← Bool.not_eq_true, h.endsEscape_iff]
        simp
      have hfocus : (s.step e).1.box.focused = e.focus?.getD s.box.focused := by
        rw [focused_step, hlate, hends]
        rfl
      have hrest := ih hnext (hacc.step e)
      simp only [escapeCalls, hlate, Bool.false_eq_true, if_false, List.nil_append, ← hrest]
      constructor
      · intro hfollows before hbefore
        have := hfollows (e :: before) (List.cons_prefix_cons.2 ⟨rfl, hbefore⟩)
        rw [hfocus]
        exact this
      · intro hfollows before hbefore
        rcases List.prefix_cons_iff.1 hbefore with rfl | ⟨rest, rfl, hprefix⟩
        · rfl
        · have := hfollows rest hprefix
          rw [hfocus] at this
          exact this

/-- An Escape empties the text, and where typing does not filter the notes it takes the focus at
once. -/
theorem press_escape_ends (op : OperationId) {k : KeyPress} (hfocus : s.box.focused = true)
    (hkey : k.key = .escape) :
    (s.press op k).1.box.text = "" ∧
      ((s.press op k).1.box.focused = false ↔ s.box.mode ≠ .liveFilter) := by
  rw [press_escape op hfocus hkey, focused_clearBox, hfocus]
  exact ⟨text_clearBox s op true, by simp⟩

/-- In every run the focus is the one that the user has asked for last, exactly if no Escape has
waited for notes. An Escape empties the text at once; it takes the focus at once exactly if typing
does not filter the notes. Of the replies, those that such Escapes wait for take the focus, and no
other one changes it; so a focus that has been given lasts, as long as nothing asks for another one,
exactly if none of these replies comes. -/
theorem focus_follows_user_iff (settings : Settings) (mode : Mode) (filter : Watched Filter)
    (es : List Event) :
    let first := startWith settings mode filter
    let s := (first.steps es).1
    let late := escapeCalls first es
    ((∀ before, before <+: es →
        (first.steps before).1.box.focused = focusAsked false before) ↔ late = []) ∧
    (∀ op k, s.box.focused = true → k.key = .escape →
      let t := s.step (.command op (.press k))
      t.1.box.text = "" ∧ (t.1.box.focused = false ↔ s.box.mode ≠ .liveFilter)) ∧
    (∀ id r,
      let t := s.step (.reply id r)
      t.1.box.focused = true ↔ s.box.focused = true ∧ (id ∈ late → .answered id r ∉ t.2)) ∧
    ∀ e since, e.focus? = some true → (∀ x ∈ since, x.focus? = none) →
      let t := (s.step e).1.steps since
      t.1.box.focused = true ↔ ∀ id ∈ late, ∀ r, .answered id r ∉ t.2 := by
  intro first s late
  have hfirst := Accounted.start settings mode filter
  have hacc : Accounted s ((first.steps es).2.reverse ++ []) := hfirst.steps es
  have hescaping : Escaping s late := (Escaping.start settings mode filter).steps hfirst es
  refine ⟨(Escaping.start settings mode filter).follows_iff hfirst es,
    fun op k hfocus hkey => press_escape_ends op hfocus hkey, fun id r => ?_,
    fun e since he hsince => ?_⟩
  · have hquiet : ∀ e ∈ [Event.reply id r], e.focus? = none := by simp [Event.focus?]
    have hreply := hescaping.focused_steps_iff hacc hquiet
    rw [steps_singleton] at hreply
    refine hreply.trans (and_congr_right fun _ => ⟨fun h hid => h id hid r, fun h i hi q hq => ?_⟩)
    -- The event answers no other call.
    cases eq_reply_of_answered hq
    exact h hi hq
  · have hlate : s.blursLate e = false := blursLate_eq_false (by simp [he])
    have hgiven : Escaping (s.step e).1 late := by simpa [hlate] using hescaping.step hacc e
    have hlasts := hgiven.focused_steps_iff (hacc.step e) hsince
    rw [focused_step_of_focus? he] at hlasts
    simpa using hlasts

/-- On the results page an Escape takes the focus while a search is unanswered; a focus that is
given afterwards outlasts the answer. -/
theorem focus_lasts_on_results_page :
    let s := ((startWith {} .searchPage ⟨{}, 0⟩).steps [.command 0 .focus,
      .command 1 (.run none)]).1
    let escaped := s.step (.command 2 (.press { key := .escape }))
    let since := [.reply 0 (.search (.ok { total := 1 }))]
    s.calls.length = 1 ∧ s.box.focused = true ∧ escaped.1.box.text = "" ∧
      escaped.1.box.focused = false ∧
      ((escaped.1.step (.command 3 .focus)).1.steps since).1.box.focused = true := by
  intro s escaped since
  let es : List Event := [.command 0 .focus, .command 1 (.run none)]
  let fs : List Event := es ++ [.command 2 (.press { key := .escape })]
  have hlate : escapeCalls (startWith {} .searchPage ⟨{}, 0⟩) fs = [] := by decide +kernel
  have hsteps : ((startWith {} .searchPage ⟨{}, 0⟩).steps fs).1 = escaped.1 := by
    rw [steps_append, Step.andThen, steps_singleton]
  obtain ⟨-, hescape, -, -⟩ := focus_follows_user_iff {} .searchPage ⟨{}, 0⟩ es
  obtain ⟨-, -, -, hlasts⟩ := focus_follows_user_iff {} .searchPage ⟨{}, 0⟩ fs
  obtain ⟨htext, hblurred⟩ := hescape 2 { key := .escape } rfl rfl
  have hgiven := (hlasts (.command 3 .focus) since rfl (by simp [since, Event.focus?])).2
    (by rw [hlate]; simp)
  rw [hsteps] at hgiven
  exact ⟨rfl, rfl, htext, hblurred.2 (by decide), hgiven⟩

/-- Where typing filters the notes, the box has the focus after an Escape; and when the notes come
that the Escape has asked for, they take a focus that the user has given again. -/
theorem focus_taken_by_late_escape :
    let s := ((startWith {} .liveFilter ⟨{}, 0⟩).steps [.command 0 .focus]).1
    let escaped := s.step (.command 1 (.press { key := .escape }))
    let again := escaped.1.step (.command 2 .focus)
    let replied := again.1.step (.reply 0 (.notes (.ok {})))
    s.box.focused = true ∧ escaped.1.box.focused = true ∧ again.1.box.focused = true ∧
      focusAsked false [.command 0 .focus, .command 1 (.press { key := .escape }),
        .command 2 .focus, .reply 0 (.notes (.ok {}))] = true ∧
      replied.1.box.focused = false := by
  decide +kernel

end Session

end NoteSearch
