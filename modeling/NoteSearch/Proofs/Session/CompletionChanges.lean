-- SUMMARY: What every operation and every reply does to the list of completions and its fetches.
import NoteSearch.Proofs.Session.Elsewhere
import NoteSearch.Proofs.Session.Keys
import NoteSearch.Proofs.Session.QuietTimes

/-!
# Changes of the completions

Typing renews the fetch that waits or drops it, a dismissal drops it, and nothing else touches it
(`fetchTouch`). A touch begins a new generation, in which no earlier fetch is left.
`perform_touches` says so for every operation and `reply_touches` for every reply; both also keep
the list in order (`Suggestions.Listed`) and bring no new completions, unless a reply does.
-/

namespace NoteSearch

namespace Touch

variable {α : Type}

def isKeep : Touch α → Bool
  | keep => true
  | _ => false

/-- One touch after another one. -/
def andThen : Touch α → Touch α → Touch α
  | a, keep => a
  | _, b => b

theorem keep_andThen (a : Touch α) : Touch.keep.andThen a = a := by cases a <;> rfl

theorem apply_andThen (a b : Touch α) (due : Nat) (waiting : Option (Nat × α)) :
    (a.andThen b).apply due waiting = b.apply due (a.apply due waiting) := by
  cases b <;> rfl

theorem isKeep_andThen (a b : Touch α) : (a.andThen b).isKeep = (a.isKeep && b.isKeep) := by
  cases a <;> cases b <;> rfl

end Touch

/-- The text that an event types. -/
def Event.typed? : Event → Option String
  | .command _ (.type text) => some text
  | .command _ (.typeSuggestion text) => some text
  | _ => none

/-! ## The list -/

namespace Suggestions

/-- The list shows exactly if it holds something, which takes the focus, and what is selected is in
it. -/
structure Listed (s : Suggestions) : Prop where
  visible : s.visible = true ↔ s.items ≠ []
  focused : s.items ≠ [] → s.focused = true
  selected : ∀ i, s.selected = some i → i < s.items.length

/-- The fetch that waits, with the time at which it is due. -/
def waiting? (s : Suggestions) : Option (Nat × String) := s.scheduled.map fun f => (f.due, f.text)

/-- What a touch leaves of the list, if a new fetch is due at the time `due`. -/
structure Touched (s : Suggestions) (due : Nat) (a : Touch String) (t : Suggestions) : Prop where
  waiting : t.waiting? = a.apply due s.waiting?
  same : a.isKeep = true → t.generation = s.generation
  later : a.isKeep = false → s.generation < t.generation
  items : t.items = s.items ∨ t.items = []
  listed : s.Listed → t.Listed

variable {s : Suggestions} {w : Watched Suggestions}

theorem Listed.dropItems (s : Suggestions) : s.dropItems.Listed := by
  constructor <;> simp [Suggestions.dropItems]

theorem Touched.refl (s : Suggestions) (due : Nat) : Touched s due .keep s :=
  ⟨rfl, fun _ => rfl, nofun, .inl rfl, id⟩

theorem dismiss_touched (s : Suggestions) (due : Nat) : Touched s due .drop s.dismiss :=
  ⟨rfl, nofun, fun _ => Nat.lt_succ_self _, .inr rfl, fun _ => .dropItems _⟩

theorem focus_touched (s : Suggestions) (due : Nat) : Touched s due .keep s.focus := by
  refine ⟨rfl, fun _ => rfl, nofun, .inl rfl, fun h => ⟨?_, fun _ => rfl, h.selected⟩⟩
  simp [focus]

theorem blur_touched (s : Suggestions) (due : Nat) : Touched s due .keep s.blur :=
  ⟨rfl, fun _ => rfl, nofun, .inr rfl, fun _ => .dropItems _⟩

/-- What typing does to the fetch that waits. -/
def typeTouch (settings : Settings) (text : String) : Touch String :=
  if (Text.trimmed text).length < settings.minSuggestionLength.toNat then .drop
  else .renew (Text.trimmed text)

theorem typeTouch_eq_renew {settings : Settings} {text p : String}
    (h : typeTouch settings text = .renew p) :
    p = Text.trimmed text ∧ settings.minSuggestionLength.toNat ≤ p.length := by
  unfold typeTouch at h
  split at h
  · cases h
  · rename_i hlength
    cases h
    exact ⟨rfl, Nat.not_lt.1 hlength⟩

theorem type_touched (settings : Settings) (now : Nat) (text : String) (s : Suggestions) :
    Touched s (now + settings.suggestionDelay.toNat) (typeTouch settings text)
      (s.type settings now text) := by
  unfold typeTouch type
  dsimp only
  split
  · exact ⟨rfl, nofun, fun _ => Nat.lt_succ_self _, .inr rfl, fun _ => .dropItems _⟩
  · exact ⟨rfl, nofun, fun _ => Nat.lt_succ_self _, .inl rfl,
      fun h => ⟨h.visible, h.focused, h.selected⟩⟩

theorem choose_touched (w : Watched Suggestions) (index due : Nat) :
    Touched w.value due (if (w.value.textAt? index).isSome then .drop else .keep)
      (choose w index).1.value := by
  cases h : w.value.textAt? index with
  | none =>
    rw [choose_of_textAt?_eq_none h]
    exact .refl _ due
  | some text =>
    rw [choose_of_textAt? h]
    exact dismiss_touched _ due

/-- The selection moves to a position of the list, or above the first one. -/
theorem move_touched {selected : Option Nat} (due : Nat) (hitems : w.value.items ≠ [])
    (h : selected = below w.value.items.length w.value.selected ∨
      selected = above w.value.selected) :
    Touched w.value due .keep (move w selected).1.value := by
  refine ⟨rfl, fun _ => rfl, nofun, .inl rfl, fun hs => ⟨hs.visible, hs.focused, ?_⟩⟩
  have hpos : 0 < w.value.items.length := List.length_pos_iff.2 hitems
  intro i hi
  change selected = some i at hi
  change i < w.value.items.length
  cases hsel : w.value.selected with
  | none =>
    rcases h with rfl | rfl
    · rw [hsel] at hi
      cases hi
      exact hpos
    · rw [hsel] at hi
      cases hi
  | some j =>
    have hj := hs.selected j hsel
    rw [hsel] at h
    rcases h with rfl | rfl
    · cases hi
      omega
    · cases j with
      | zero => cases hi
      | succ j =>
        cases hi
        exact Nat.lt_of_succ_lt hj

/-- What a key that is handed to the list does to the fetch that waits. -/
def keyTouch (s : Suggestions) (key : Key) : Touch String :=
  if key = .escape ∨ key = .enter ∧ s.committed?.isSome then .drop else .keep

theorem handleKey_touched (w : Watched Suggestions) (key : Key) (due : Nat) :
    Touched w.value due (w.value.keyTouch key) (handleKey w key).1.value := by
  by_cases hescape : key = .escape
  · rw [hescape, handleKey_escape]
    exact dismiss_touched _ due
  by_cases henter : key = .enter
  · rw [henter, handleKey_enter, keyTouch]
    cases w.value.committed? with
    | none => exact .refl _ due
    | some text => exact dismiss_touched _ due
  · have hkeep : w.value.keyTouch key = .keep := by simp [keyTouch, hescape, henter]
    rw [hkeep]
    rcases handleKey_other w hescape henter with h | ⟨hitems, selected, h, hsel⟩
    · rw [h]
      exact .refl _ due
    · rw [h]
      exact move_touched due hitems hsel

end Suggestions

namespace Session

open Suggestions (typeTouch)

variable {s t : Session} {st : Step} {a b : Touch String}

/-! ## Touches of a session -/

/-- What a submit does to the fetch that waits. -/
def submitTouch (s : Session) : Touch String :=
  if (Text.trimmedNonBlank? s.box.text).isSome then .drop else .keep

/-- What a key does to the fetch that waits. -/
def pressTouch (s : Session) (k : KeyPress) : Touch String :=
  if s.box.focused = false then .keep
  else if k.key = .escape then .drop
  else if k.key = .enter then
    if s.suggestions.value.committed?.isSome then .drop else s.submitTouch
  else .keep

/-- What an event does to the fetch that waits. -/
def fetchTouch (s : Session) : Event → Touch String
  | .command _ (.type text) => typeTouch s.settings text
  | .command _ (.typeSuggestion text) => typeTouch s.settings text
  | .command _ .dismissSuggestions => .drop
  | .command _ (.chooseSuggestion index) =>
    if (s.suggestions.value.textAt? index).isSome then .drop else .keep
  | .command _ (.pressSuggestion key) => s.suggestions.value.keyTouch key
  | .command _ .submit => s.submitTouch
  | .command _ (.commit _) => .drop
  | .command _ .clearBox => .drop
  | .command _ (.press k) => s.pressTouch k
  | _ => .keep

/-- The time at which a fetch is due that is scheduled now. -/
def fetchDue (s : Session) : Nat := s.now + s.settings.suggestionDelay.toNat

/-- What a step leaves of the completions after a touch. New ones are there only if a reply has been
taken. -/
structure TouchesFetch (s : Session) (a : Touch String) (st : Step) : Prop where
  settings : st.1.settings = s.settings
  now : st.1.now = s.now
  waiting : st.1.suggestions.value.waiting? = a.apply s.fetchDue s.suggestions.value.waiting?
  same : a.isKeep = true → st.1.suggestions.value.generation = s.suggestions.value.generation
  later : a.isKeep = false → s.suggestions.value.generation < st.1.suggestions.value.generation
  items : st.1.suggestions.value.items = s.suggestions.value.items ∨
    st.1.suggestions.value.items = [] ∨ ∃ id r, .answered id r ∈ st.2
  listed : s.suggestions.value.Listed → st.1.suggestions.value.Listed
  fetches : ∀ c ∈ st.1.calls, c.pending.call.isFetch = true → c ∈ s.calls
  keeps : a.isKeep = true → ∀ c ∈ s.calls, c.pending.call.isFetch = true →
    c.pending.isStaleFetch s.suggestions.value.generation = false →
    c ∈ st.1.calls ∨ ∃ r, .answered c.id r ∈ st.2
  current : a.isKeep = false →
    ∀ c ∈ st.1.calls, c.pending.isStaleFetch st.1.suggestions.value.generation = false
  silent : ∀ id call, .call id call ∈ st.2 → call.isFetch = false

theorem Elsewhere.touchesFetch (h : Elsewhere s st) : TouchesFetch s .keep st where
  settings := h.settings
  now := h.now
  waiting := by rw [h.suggestions]; rfl
  same := fun _ => by rw [h.suggestions]
  later := nofun
  items := .inl (by rw [h.suggestions])
  listed := by rw [h.suggestions]; exact id
  fetches := h.fetches
  keeps := fun _ c hc _ _ => h.keeps c hc
  current := nofun
  silent := h.silent

/-- A list that has been touched instead of the old one, and some calls are given up. -/
theorem TouchesFetch.of_touched (h : s.suggestions.value.Touched s.fetchDue a t.suggestions.value)
    (hsettings : t.settings = s.settings) (hnow : t.now = s.now) (keep : InFlight → Bool)
    (hcalls : t.calls = s.calls.filter keep)
    (hkeeps : a.isKeep = true → ∀ c : InFlight, c.pending.call.isFetch = true →
      c.pending.isStaleFetch s.suggestions.value.generation = false → keep c = true)
    (hcurrent : a.isKeep = false →
      ∀ c, keep c = true → c.pending.isStaleFetch t.suggestions.value.generation = false) :
    TouchesFetch s a (t, []) where
  settings := hsettings
  now := hnow
  waiting := h.waiting
  same := h.same
  later := h.later
  items := h.items.imp_right .inl
  listed := h.listed
  fetches := fun c hc _ => by
    rw [hcalls] at hc
    exact (List.mem_filter.1 hc).1
  keeps := fun hkeep c hc hfetch hfresh => by
    rw [hcalls]
    exact .inl (List.mem_filter.2 ⟨hc, hkeeps hkeep c hfetch hfresh⟩)
  current := fun hkeep c hc => by
    rw [hcalls] at hc
    exact hcurrent hkeep c (List.mem_filter.1 hc).2
  silent := by simp

/-- A list that has changed without an end to what was asked for. -/
theorem TouchesFetch.of_calls (h : s.suggestions.value.Touched s.fetchDue .keep t.suggestions.value)
    (hsettings : t.settings = s.settings) (hnow : t.now = s.now) (hcalls : t.calls = s.calls) :
    TouchesFetch s .keep (t, []) :=
  .of_touched h hsettings hnow (fun _ => true)
    (hcalls.trans (List.filter_eq_self.2 fun _ _ => rfl).symm) (fun _ _ _ _ => rfl) nofun

/-- Only a fetch of completions can be of an earlier generation. -/
theorem isStaleFetch_eq_false {p : Pending} (h : p.call.isFetch = false) (generation : Nat) :
    p.isStaleFetch generation = false := by
  cases p <;> first | rfl | cases h

theorem TouchesFetch.generation_le (h : TouchesFetch s a st) :
    s.suggestions.value.generation ≤ st.1.suggestions.value.generation := by
  cases hkeep : a.isKeep with
  | true => exact Nat.le_of_eq (h.same hkeep).symm
  | false => exact Nat.le_of_lt (h.later hkeep)

theorem TouchesFetch.andThen (h : TouchesFetch s a st) {next : Session → Step}
    (k : TouchesFetch st.1 b (next st.1)) : TouchesFetch s (a.andThen b) (st.andThen next) := by
  have hdue : st.1.fetchDue = s.fetchDue := by rw [fetchDue, h.settings, h.now, fetchDue]
  refine ⟨k.settings.trans h.settings, k.now.trans h.now, ?_, ?_, ?_, ?_, k.listed ∘ h.listed,
    fun c hc hfetch => h.fetches c (k.fetches c hc hfetch) hfetch, ?_, ?_,
    fun id call hcall => (List.mem_append.1 hcall).elim (h.silent id call) (k.silent id call)⟩
  · rw [Touch.apply_andThen, ← h.waiting, ← hdue]
    exact k.waiting
  · rw [Touch.isKeep_andThen, Bool.and_eq_true]
    exact fun hkeep => (k.same hkeep.2).trans (h.same hkeep.1)
  · rw [Touch.isKeep_andThen, Bool.and_eq_false_iff]
    rintro (hkeep | hkeep)
    · exact Nat.lt_of_lt_of_le (h.later hkeep) k.generation_le
    · exact Nat.lt_of_le_of_lt h.generation_le (k.later hkeep)
  · rcases k.items with hk | hk | ⟨id, r, hk⟩
    · rcases h.items with hh | hh | ⟨id, r, hh⟩
      · exact .inl (hk.trans hh)
      · exact .inr (.inl (hk.trans hh))
      · exact .inr (.inr ⟨id, r, List.mem_append_left _ hh⟩)
    · exact .inr (.inl hk)
    · exact .inr (.inr ⟨id, r, List.mem_append_right _ hk⟩)
  · rw [Touch.isKeep_andThen, Bool.and_eq_true]
    rintro ⟨ha, hb⟩ c hc hfetch hfresh
    rcases h.keeps ha c hc hfetch hfresh with hkept | ⟨r, hr⟩
    · rw [← h.same ha] at hfresh
      exact (k.keeps hb c hkept hfetch hfresh).imp_right fun ⟨r, hr⟩ =>
        ⟨r, List.mem_append_right _ hr⟩
    · exact .inr ⟨r, List.mem_append_left _ hr⟩
  · rw [Touch.isKeep_andThen, Bool.and_eq_false_iff]
    intro hkeep c hc
    cases hb : b.isKeep with
    | false => exact k.current hb c hc
    | true =>
      cases hfetch : c.pending.call.isFetch with
      | false => exact isStaleFetch_eq_false hfetch _
      | true =>
        have hcurrent := h.current (hkeep.resolve_right (by simp [hb])) c (k.fetches c hc hfetch)
        rw [← k.same hb] at hcurrent
        exact hcurrent

/-- A change without effects comes before a step. -/
theorem TouchesFetch.then (h : TouchesFetch s a (t, [])) (k : TouchesFetch t b st) :
    TouchesFetch s (a.andThen b) st :=
  @TouchesFetch.andThen s (t, []) a b h (fun _ => st) k

/-- A change that touches nothing comes before a step. -/
theorem TouchesFetch.keepThen (h : TouchesFetch s .keep (t, [])) (k : TouchesFetch t b st) :
    TouchesFetch s b st := by
  rw [← Touch.keep_andThen b]
  exact h.then k

/-! ## Operations -/

theorem withSuggestions_touches {w : Watched Suggestions}
    (h : s.suggestions.value.Touched s.fetchDue a w.value) :
    TouchesFetch s a (s.withSuggestions w, []) := by
  refine .of_touched h rfl rfl (fun c => !c.pending.isStaleFetch w.value.generation) rfl ?_ ?_
  · intro hkeep c _ hfresh
    rw [h.same hkeep, hfresh]
    rfl
  · intro _ c hc
    rw [Bool.not_eq_true'] at hc
    exact hc

theorem dismiss_touches (s : Session) : TouchesFetch s .drop (s.dismiss, []) :=
  withSuggestions_touches (Suggestions.dismiss_touched _ _)

/-- The list may change without an end to what was asked for. -/
theorem setSuggestions_touches {w : Watched Suggestions}
    (h : s.suggestions.value.Touched s.fetchDue .keep w.value) :
    TouchesFetch s .keep ({ s with suggestions := w }, []) :=
  .of_calls h rfl rfl rfl

theorem focus_touches (s : Session) : TouchesFetch s .keep (s.focus, []) :=
  .of_calls (Suggestions.focus_touched _ _) rfl rfl rfl

theorem blur_touches (s : Session) : TouchesFetch s .keep (s.blur, []) :=
  .of_calls (Suggestions.blur_touched _ _) rfl rfl rfl

theorem finish_touches (s : Session) (op : OperationId) (r : Result) :
    TouchesFetch s .keep (s.finish op r) :=
  (finish_elsewhere s op r).touchesFetch

theorem setBox_touches (s : Session) (box : SearchBox) :
    TouchesFetch s .keep ({ s with box }, []) :=
  .of_calls (.refl _ _) rfl rfl rfl

/-- The live write has no part in the completions. -/
theorem cancelWrite_touches (s : Session) : TouchesFetch s .keep (s.cancelWrite, []) := by
  unfold cancelWrite
  split
  · rename_i number _
    refine .of_touched (.refl _ _) rfl rfl (fun c => !c.pending.isOfWrite number) rfl ?_
      Bool.noConfusion
    intro _ c hfetch _
    cases hp : c.pending <;> simp_all [Pending.call, Call.isFetch, Pending.isOfWrite]
  · exact setBox_touches s _

theorem scheduleWrite_touches (s : Session) : TouchesFetch s .keep (s.scheduleWrite, []) := by
  unfold scheduleWrite
  split
  · exact (Elsewhere.refl s).touchesFetch
  · exact .of_calls (.refl _ _) rfl rfl rfl

theorem type_touches (s : Session) (text : String) :
    TouchesFetch s (typeTouch s.settings text) (s.type text, []) :=
  (withSuggestions_touches (Suggestions.type_touched s.settings s.now text _)).then
    ((cancelWrite_touches _).then ((setBox_touches _ _).then (scheduleWrite_touches _)))

/-- Making a text the query and searching for it. -/
theorem searchFor_touches (s : Session) (text : String) (purpose : SearchPurpose) :
    TouchesFetch s .drop ((s.dismiss.act (.setQuery text)).startSearch (some 1) purpose) :=
  s.dismiss_touches.then
    ((act_elsewhere _ _).then (startSearch_elsewhere _ _ _)).touchesFetch

theorem submit_touches (s : Session) (op : OperationId) (byKey : Bool) :
    TouchesFetch s s.submitTouch (s.submit op byKey) := by
  have htext : s.cancelWrite.box.text = s.box.text := text_cancelWrite s
  have hcancel := s.cancelWrite_touches
  unfold submit submitTouch
  rw [← htext]
  dsimp only
  cases Text.trimmedNonBlank? s.cancelWrite.box.text with
  | none => exact hcancel.then (finish_touches _ op _)
  | some text => exact hcancel.then (searchFor_touches _ _ _)

theorem commit_touches (s : Session) (op : OperationId) (text : String) (byKey : Bool) :
    TouchesFetch s .drop (s.commit op text byKey) :=
  s.cancelWrite_touches.then ((setBox_touches _ _).then (searchFor_touches _ _ _))

theorem finishEscape_touches (s : Session) (op : OperationId) :
    TouchesFetch s .keep (s.finishEscape op) :=
  s.blur_touches.then (finish_touches _ op _)

theorem clearBox_touches (s : Session) (op : OperationId) (byEscape : Bool) :
    TouchesFetch s .drop (s.clearBox op byEscape) := by
  have hfinished (t : Session) :
      TouchesFetch t .keep (if byEscape then t.finishEscape op else t.finish op .done) := by
    split
    · exact finishEscape_touches t op
    · exact finish_touches t op _
  have hemptied :=
    s.cancelWrite_touches.then ((setBox_touches _ { s.cancelWrite.box with text := "" }).then
      (dismiss_touches _))
  unfold clearBox
  dsimp only
  split
  · have hcleared (t : Session) : TouchesFetch t .keep (t.clearSearch.andThen fun t =>
        if byEscape then t.finishEscape op else t.finish op .done) :=
      (clearSearch_elsewhere t).touchesFetch.andThen (b := .keep) (hfinished _)
    exact hemptied.then (hcleared _)
  · exact hemptied.then
      ((patchNotes_elsewhere _ _).then (startNotes_elsewhere _ _ _)).touchesFetch
  · exact hemptied.then (hfinished _)

theorem press_other_touches (s : Session) (op : OperationId) {k : KeyPress}
    (h : ¬ (s.box.focused = true ∧ (k.key = .escape ∨ k.key = .enter))) :
    TouchesFetch s .keep (s.press op k) := by
  obtain ⟨r, hr | hr | ⟨key, hescape, henter, hr⟩⟩ := press_other op h
  · rw [hr]
    exact s.focus_touches.then (finish_touches _ op r)
  · rw [hr]
    exact finish_touches s op r
  · rw [hr]
    have hlist := Suggestions.handleKey_touched s.suggestions key s.fetchDue
    rw [Suggestions.keyTouch, if_neg (by simp [hescape, henter])] at hlist
    exact (withSuggestions_touches hlist).then (finish_touches _ op r)

theorem press_touches (s : Session) (op : OperationId) (k : KeyPress) :
    TouchesFetch s (s.pressTouch k) (s.press op k) := by
  unfold pressTouch
  cases hfocus : s.box.focused with
  | false =>
    rw [if_pos rfl]
    exact press_other_touches s op (by simp [hfocus])
  | true =>
    rw [if_neg (by decide)]
    by_cases hescape : k.key = .escape
    · rw [if_pos hescape, press_escape op hfocus hescape]
      exact clearBox_touches s op true
    rw [if_neg hescape]
    by_cases henter : k.key = .enter
    · rw [if_pos henter, press_enter op hfocus henter]
      cases s.suggestions.value.committed? with
      | some text => exact s.dismiss_touches.then (commit_touches _ op text true)
      | none =>
        rw [if_neg (by simp)]
        dsimp only
        split
        · exact (withSuggestions_touches (.refl _ _)).keepThen (submit_touches _ op true)
        · exact submit_touches s op true
    · rw [if_neg henter]
      exact press_other_touches s op (by simp [hescape, henter])

/-- What an operation does to the completions. -/
theorem perform_touches (s : Session) (op : OperationId) (c : Command) :
    TouchesFetch s (s.fetchTouch (.command op c)) (s.perform op c) := by
  cases c with
  | typeSuggestion text =>
    exact (withSuggestions_touches (Suggestions.type_touched s.settings s.now text _)).then
      (finish_touches _ op _)
  | focusSuggestions =>
    exact (setSuggestions_touches (Suggestions.focus_touched _ _)).then (finish_touches _ op _)
  | blurSuggestions =>
    exact (setSuggestions_touches (Suggestions.blur_touched _ _)).then (finish_touches _ op _)
  | dismissSuggestions => exact s.dismiss_touches.then (finish_touches _ op _)
  | chooseSuggestion index =>
    exact (withSuggestions_touches (Suggestions.choose_touched s.suggestions index _)).then
      (finish_touches _ op _)
  | pressSuggestion key =>
    exact (withSuggestions_touches (Suggestions.handleKey_touched s.suggestions key _)).then
      (finish_touches _ op _)
  | type text => exact (s.type_touches text).then (finish_touches _ op _)
  | focus => exact s.focus_touches.then (finish_touches _ op _)
  | blur => exact s.blur_touches.then (finish_touches _ op _)
  | setMode mode =>
    exact (s.cancelWrite_touches.then (setBox_touches _ _)).then (finish_touches _ op _)
  | submit => exact submit_touches s op false
  | commit text => exact commit_touches s op text false
  | clearBox => exact clearBox_touches s op false
  | press k => exact press_touches s op k
  | _ => exact (perform_elsewhere s op rfl).touchesFetch

/-! ## Replies and timers -/

/-- The reply to a fetch brings an ordered list. -/
theorem listed_receive {w : Watched Suggestions} (h : w.value.Listed) (generation : Nat)
    (a : Except Failure (List Candidate)) : (Suggestions.receive w generation a).value.Listed := by
  unfold Suggestions.receive
  split
  · rw [Watched.value_update]
    unfold Suggestions.settle
    split
    · split
      · rename_i items hfocus
        exact ⟨by simp, fun _ => hfocus, nofun⟩
      · exact .dropItems _
    · exact .dropItems _
  · exact h

/-- The reply to a fetch changes nothing but the list. -/
theorem exists_receive (w : Watched Suggestions) (generation : Nat)
    (a : Except Failure (List Candidate)) :
    ∃ items visible selected, (Suggestions.receive w generation a).value =
      { w.value with items, visible, selected } := by
  unfold Suggestions.receive
  split
  · rw [Watched.value_update]
    unfold Suggestions.settle
    split
    · split <;> exact ⟨_, _, _, rfl⟩
    · exact ⟨_, _, _, rfl⟩
  · exact ⟨_, _, _, rfl⟩

/-- No reply touches the fetch that waits. -/
theorem reply_touches (s : Session) (id : Nat) (r : Reply) :
    TouchesFetch s .keep (s.reply id r) := by
  rcases s.reply_elsewhere id r with h | ⟨t, fx, ht, h⟩ | ⟨generation, text, limit, a, -, rfl, h⟩
  · exact h.touchesFetch
  · rw [h]
    have hblur := @TouchesFetch.andThen _ _ _ _ ht.touchesFetch (fun t => (t.blur, []))
      (blur_touches t)
    rwa [Step.andThen, List.append_nil] at hblur
  · obtain ⟨items, visible, selected, hlist⟩ := exists_receive s.suggestions generation a
    rw [h]
    exact {
      settings := rfl
      now := rfl
      waiting := (congrArg Suggestions.waiting? hlist).trans rfl
      same := fun _ => (congrArg Suggestions.generation hlist).trans rfl
      later := Bool.noConfusion
      items := .inr (.inr ⟨id, _, List.mem_singleton.2 rfl⟩)
      listed := fun hs => listed_receive hs generation a
      fetches := fun c hc _ => (mem_forget.1 hc).1
      keeps := fun _ c hc _ _ => by
        by_cases hid : c.id = id
        · exact .inr ⟨.suggestions a, by rw [hid]; exact List.mem_cons_self⟩
        · exact .inl (mem_forget.2 ⟨hc, hid⟩)
      current := Bool.noConfusion
      silent := by simp }

theorem wake_touches (s : Session) (w : LiveWrite) : TouchesFetch s .keep (s.wake w) := by
  have hdrop : TouchesFetch s .keep (s.dropWrite w.number, []) :=
    .of_calls (.refl _ _) rfl rfl rfl
  rw [wake_eq]
  cases s.box.claim? w.number with
  | none => exact hdrop
  | some box =>
    exact hdrop.then ((setBox_touches _ box).then (liveWrite_elsewhere _ w).touchesFetch)

theorem ringWrite_touches (s : Session) (number : Nat) :
    TouchesFetch s .keep (s.ring (.write number)) := by
  simp only [ring]
  split
  · exact (Elsewhere.refl s).touchesFetch
  · exact wake_touches s _

end Session

end NoteSearch
