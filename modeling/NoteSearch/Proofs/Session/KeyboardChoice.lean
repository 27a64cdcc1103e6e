-- SUMMARY: The arrows walk through the completions within bounds, and Enter takes what they chose.
import NoteSearch.Proofs.Session.Focus
import NoteSearch.Proofs.Session.LiveWriteEffects
import NoteSearch.Proofs.Text.Trimmed

/-!
# Choosing a completion by keys

While the list of completions shows, the arrows move the selection up and down in it; the position
above the first completion, where nothing is selected, is −1. So after any sequence of arrows the
selection is where a walk of that sequence within the bounds of the list ends, whatever time passes
in between (`Choosing`). Enter then commits the completion at that position (`Commits`), and at −1
it does what a submit does (`ActsAsSubmit`).
-/

namespace NoteSearch

/-- Where an arrow leads. -/
inductive Direction where
  | up
  | down
  deriving DecidableEq

def Direction.offset : Direction → Int
  | up => -1
  | down => 1

def KeyPress.direction? (k : KeyPress) : Option Direction :=
  match k.key with
  | .arrowUp => some .up
  | .arrowDown => some .down
  | _ => none

/-- The direction of the arrow that an event presses. -/
def Event.direction? : Event → Option Direction
  | .command _ (.press k) => k.direction?
  | _ => none

/-- Whether only time passes or a timer rings. -/
def Event.isTime : Event → Bool
  | .wait _ => true
  | .pass _ => true
  | .ring _ => true
  | _ => false

theorem Event.direction?_of_isTime (e : Event) (h : e.isTime = true) : e.direction? = none := by
  cases e with
  | command op c => cases h
  | _ => rfl

/-- What follows the reply to a submit that a key has made. -/
def Pending.forKey : Pending → Pending
  | search ticket request (.submit op _) => search ticket request (.submit op true)
  | p => p

/-! ## Walks -/

namespace Suggestions

/-- A selection as a number; above the first position there is −1. -/
def position : Option Nat → Int
  | none => -1
  | some i => i

/-- The number from −1 to `n - 1` that is nearest to `i`. -/
def clamped (n : Nat) (i : Int) : Int := max (-1) (min i (n - 1))

/-- Where a walk within a list of `n` ends. -/
def walk (n : Nat) (start : Int) (ds : List Direction) : Int :=
  ds.foldl (fun i d => clamped n (i + d.offset)) start

theorem walk_append (n : Nat) (start : Int) (ds es : List Direction) :
    walk n start (ds ++ es) = walk n (walk n start ds) es :=
  List.foldl_append

/-- The selection after an arrow. -/
def moved (s : Suggestions) : Direction → Option Nat
  | .up => above s.selected
  | .down => below s.items.length s.selected

variable {s : Suggestions}

theorem position_above (selected : Option Nat) :
    position (above selected) = max (-1) (position selected - 1) := by
  match selected with
  | none => rfl
  | some 0 => rfl
  | some (i + 1) =>
    simp only [above, position]
    omega

theorem position_below {n : Nat} (hn : 0 < n) (selected : Option Nat) :
    position (below n selected) = min (position selected + 1) (n - 1) := by
  cases selected with
  | none =>
    simp only [below, position]
    omega
  | some i =>
    simp only [below, position]
    omega

theorem Listed.position_lt (h : s.Listed) (hvisible : s.visible = true) :
    -1 ≤ position s.selected ∧ position s.selected < s.items.length := by
  have hpos : 0 < s.items.length := List.length_pos_iff.2 (h.visible.1 hvisible)
  cases hs : s.selected with
  | none =>
    simp only [position]
    omega
  | some i =>
    have hi : i < s.items.length := h.selected i hs
    simp only [position]
    omega

/-- An arrow moves the selection by one position, within the bounds of the list. -/
theorem Listed.position_moved (h : s.Listed) (hvisible : s.visible = true) (d : Direction) :
    position (s.moved d) = clamped s.items.length (position s.selected + d.offset) := by
  obtain ⟨hlow, hhigh⟩ := h.position_lt hvisible
  cases d with
  | up =>
    rw [moved, position_above, clamped, Direction.offset]
    omega
  | down =>
    rw [moved, position_below (List.length_pos_iff.2 (h.visible.1 hvisible)), clamped,
      Direction.offset]
    omega

/-- An arrow has a use for a list that shows something. -/
theorem handleKey_arrow {w : Watched Suggestions} (hvisible : w.value.visible = true)
    (hitems : w.value.items ≠ []) {k : KeyPress} {d : Direction} (hk : k.direction? = some d) :
    handleKey w k.key = move w (w.value.moved d) := by
  have hlist : (!w.value.visible || w.value.items.isEmpty) = false := by simp [hvisible, hitems]
  unfold KeyPress.direction? at hk
  unfold handleKey
  dsimp only
  split at hk
  · rename_i hkey
    cases hk
    rw [hkey, if_neg (by decide), if_neg (by simp [hlist])]
    rfl
  · rename_i hkey
    cases hk
    rw [hkey, if_neg (by decide), if_neg (by simp [hlist])]
    rfl
  · cases hk

/-- In a list that shows, Enter commits the completion at the position. -/
theorem Listed.committed?_eq (h : s.Listed) (hvisible : s.visible = true) {i : Nat}
    (hi : position s.selected = i) :
    ∃ c, s.items[i]? = some c ∧ s.committed? = some c.text := by
  cases hs : s.selected with
  | none =>
    rw [hs] at hi
    cases hi
  | some j =>
    rw [hs] at hi
    obtain rfl : j = i := Int.ofNat.inj hi
    have hj : j < s.items.length := h.selected j hs
    refine ⟨s.items[j], List.getElem?_eq_getElem hj, ?_⟩
    have hitems : s.items.isEmpty = false := by simp [h.visible.1 hvisible]
    simp [committed?, hvisible, hitems, hs, textAt?, List.getElem?_eq_getElem hj]

theorem committed?_eq_none (h : position s.selected = -1) : s.committed? = none := by
  cases hs : s.selected with
  | none => simp [committed?, hs]
  | some i =>
    rw [hs] at h
    cases h

end Suggestions

namespace Session

open Suggestions (position walk clamped)

variable {s t : Session} {past : List Effect}

/-! ## Arrows and time -/

/-- A change of the list within a generation gives up no fetch. -/
theorem Current.withSuggestions_eq (h : Current s) {w : Watched Suggestions}
    (hw : w.value.generation = s.suggestions.value.generation) :
    s.withSuggestions w = { s with suggestions := w } := by
  have hcalls : s.calls.filter (fun c => !c.pending.isStaleFetch w.value.generation) = s.calls := by
    refine List.filter_eq_self.2 fun c hc => ?_
    rw [hw, h c hc]
    rfl
  rw [withSuggestions, hcalls]

/-- The list after an arrow. -/
def select (s : Session) (d : Direction) : Session :=
  { s with suggestions := s.suggestions.update fun l => { l with selected := l.moved d } }

theorem Current.press_arrow (h : Current s) (hfocused : s.box.focused = true)
    (hvisible : s.suggestions.value.visible = true) (hitems : s.suggestions.value.items ≠ [])
    {k : KeyPress} {d : Direction} (hk : k.direction? = some d) (op : OperationId) :
    s.press op k = (s.select d).finish op
      (.key (.suggestion (.moved (s.suggestions.value.moved d)))) := by
  have hlist : s.suggestionPress op k.key = (s.select d).finish op
      (.key (.suggestion (.moved (s.suggestions.value.moved d)))) := by
    rw [suggestionPress, Suggestions.handleKey_arrow hvisible hitems hk]
    dsimp only [Suggestions.move]
    rw [h.withSuggestions_eq (w := s.suggestions.update _) rfl]
    rfl
  unfold KeyPress.direction? at hk
  split at hk
  · rename_i hkey
    rw [hkey] at hlist
    simpa [press, KeyPress.isFocusChord, hkey, hfocused, hvisible] using hlist
  · rename_i hkey
    rw [hkey] at hlist
    simpa [press, KeyPress.isFocusChord, hkey, hfocused, hvisible] using hlist
  · cases hk

/-- Time leaves the box as it is, apart from its live write, and it leaves the list that shows. -/
structure Passes (s t : Session) : Prop where
  focused : t.box.focused = s.box.focused
  text : t.box.text = s.box.text
  items : t.suggestions.value.items = s.suggestions.value.items
  visible : t.suggestions.value.visible = s.suggestions.value.visible
  selected : t.suggestions.value.selected = s.suggestions.value.selected

theorem Passes.trans {u : Session} (h : Passes s t) (k : Passes t u) : Passes s u :=
  ⟨k.focused.trans h.focused, k.text.trans h.text, k.items.trans h.items,
    k.visible.trans h.visible, k.selected.trans h.selected⟩

theorem setClock_passes (s : Session) (time : Nat) : Passes s (s.setClock time) :=
  ⟨rfl, rfl, rfl, rfl, rfl⟩

theorem ring_passes (s : Session) (t : Timer) : Passes s (s.ring t).1 := by
  cases t with
  | fetch =>
    simp only [ring]
    split
    · exact ⟨rfl, rfl, rfl, rfl, rfl⟩
    split <;> exact ⟨rfl, rfl, rfl, rfl, rfl⟩
  | write number =>
    simp only [ring]
    split
    · exact ⟨rfl, rfl, rfl, rfl, rfl⟩
    · rename_i w _
      rw [wake_eq, SearchBox.claim?]
      by_cases hturn : w.number = s.box.turn
      · rw [if_pos hturn]
        have h := liveWrite_elsewhere (s.started w) w
        exact ⟨congrArg (·.focused) h.box, congrArg (·.text) h.box,
          congrArg (·.value.items) h.suggestions, congrArg (·.value.visible) h.suggestions,
          congrArg (·.value.selected) h.suggestions⟩
      · rw [if_neg hturn]
        exact ⟨rfl, rfl, rfl, rfl, rfl⟩

theorem ringUntil_passes (limit count : Nat) (s : Session) :
    Passes s (ringUntil limit count s).1 := by
  induction count generalizing s with
  | zero => exact setClock_passes s limit
  | succ count ih =>
    simp only [ringUntil, ringNext?_eq]
    cases hnext : s.nextRing? limit with
    | none => exact setClock_passes s limit
    | some m =>
      obtain ⟨due, -, -, -, hclocked⟩ := of_nextRing? hnext
      have hclock : Passes s m.1 := hclocked ▸ setClock_passes s _
      exact (hclock.trans (ring_passes m.1 m.2)).trans (ih _)

theorem step_passes (s : Session) {e : Event} (h : e.isTime = true) : Passes s (s.step e).1 := by
  cases e with
  | wait ms => exact ringUntil_passes _ _ s
  | pass ms => exact setClock_passes s _
  | ring t => exact ring_passes s t
  | command op c => cases h
  | reply id r => cases h

/-! ## Walks through the list -/

/-- Between `s` and `t` the arrows `ds` have been pressed, while the list of completions shows. -/
structure Choosing (s t : Session) (ds : List Direction) : Prop where
  focused : t.box.focused = true
  text : t.box.text = s.box.text
  items : t.suggestions.value.items = s.suggestions.value.items
  visible : t.suggestions.value.visible = true
  listed : t.suggestions.value.Listed
  current : Current t
  selected : position t.suggestions.value.selected =
    walk s.suggestions.value.items.length (position s.suggestions.value.selected) ds

variable {ds : List Direction} {e : Event}

theorem Choosing.time (h : Choosing s t ds) (he : e.isTime = true) :
    Choosing s (t.step e).1 ds := by
  have hpasses := t.step_passes he
  exact ⟨hpasses.focused.trans h.focused, hpasses.text.trans h.text, hpasses.items.trans h.items,
    hpasses.visible.trans h.visible, listed_step h.listed e, h.current.step e,
    hpasses.selected ▸ h.selected⟩

/-- An arrow moves the selection and reports where it is. -/
theorem Choosing.arrow (h : Choosing s t ds) {k : KeyPress} {d : Direction}
    (hk : k.direction? = some d) (op : OperationId) :
    t.step (.command op (.press k)) = (t.select d).finish op
        (.key (.suggestion (.moved (t.select d).suggestions.value.selected))) ∧
      Choosing s (t.step (.command op (.press k))).1 (ds ++ [d]) := by
  have hpress : t.step (.command op (.press k)) = _ :=
    h.current.press_arrow h.focused h.visible (h.listed.visible.1 h.visible) hk op
  refine ⟨hpress, ?_⟩
  have hlisted := listed_step h.listed (.command op (.press k))
  have hcurrent := h.current.step (.command op (.press k))
  rw [hpress] at hlisted hcurrent ⊢
  refine ⟨h.focused, h.text, h.items, h.visible, hlisted, hcurrent, ?_⟩
  rw [Suggestions.walk_append, ← h.selected, ← h.items]
  exact h.listed.position_moved h.visible d

theorem Choosing.steps (h : Choosing s t ds) {es : List Event}
    (hes : ∀ e ∈ es, e.direction?.isSome = true ∨ e.isTime = true) :
    Choosing s (t.steps es).1 (ds ++ es.filterMap Event.direction?) := by
  induction es generalizing t ds with
  | nil => simpa [Session.steps] using h
  | cons e es ih =>
    obtain ⟨he, hrest⟩ := List.forall_mem_cons.1 hes
    rcases he with harrow | htime
    · obtain ⟨d, hd⟩ := Option.isSome_iff_exists.1 harrow
      obtain ⟨op, k, rfl, hk⟩ : ∃ op k, e = .command op (.press k) ∧ k.direction? = some d := by
        unfold Event.direction? at hd
        split at hd
        · exact ⟨_, _, rfl, hd⟩
        · cases hd
      have hnext := ih (h.arrow hk op).2 hrest
      rw [List.append_assoc] at hnext
      rw [List.filterMap_cons_some hd]
      exact hnext
    · rw [List.filterMap_cons_none (e.direction?_of_isTime htime)]
      exact ih (h.time htime) hrest

/-! ## Lists that stay closed -/

/-- The list is empty, and nothing is left that could fill it. -/
structure Closed (s : Session) : Prop where
  listed : s.suggestions.value.Listed
  items : s.suggestions.value.items = []
  waiting : s.suggestions.value.waiting? = none
  fetches : ∀ c ∈ s.calls, c.pending.call.isFetch = false

theorem Closed.visible (h : Closed s) : s.suggestions.value.visible = false :=
  Bool.eq_false_iff.2 fun hvisible => h.listed.visible.1 hvisible h.items

/-- Only a typed text opens the list again. -/
theorem Closed.step (h : Closed s) (he : e.typed? = none) : Closed (s.step e).1 := by
  refine ⟨listed_step h.listed e, ?_, ?_, ?_⟩
  · by_contra hne
    obtain ⟨id, text, limit, -, -, hid⟩ := exists_answer rfl (by rw [h.items]; exact hne) hne
    cases h.fetches _ (mem_of_pending? hid)
  · refine Option.eq_none_iff_forall_not_mem.2 fun x hx => ?_
    rcases waiting?_step hx with ⟨-, hold⟩ | ⟨text, htyped, -⟩
    · rw [h.waiting] at hold
      cases hold
    · rw [he] at htyped
      cases htyped
  · intro c hc
    refine Bool.eq_false_iff.2 fun hfetch => ?_
    cases hkeep : (s.fetchTouch e).isKeep with
    | true =>
      rcases (step_fetching hkeep).fetches c hc hfetch with hold | ⟨-, -, x, hx, -⟩
      · rw [h.fetches c hold] at hfetch
        cases hfetch
      · rw [h.waiting] at hx
        cases hx
    | false =>
      rw [h.fetches c ((step_touches hkeep).fetches c hc hfetch)] at hfetch
      cases hfetch

theorem Closed.steps (h : Closed s) {es : List Event} (hes : ∀ e ∈ es, e.typed? = none) :
    Closed (s.steps es).1 := by
  induction es generalizing s with
  | nil => exact h
  | cons e es ih =>
    obtain ⟨he, hrest⟩ := List.forall_mem_cons.1 hes
    exact ih (h.step he) hrest

/-! ## Enter with a selection -/

/-- A completion becomes the text of the box and the query, one search is sent for it, and the list
is closed until something is typed. -/
structure Commits (s : Session) (text : String) (st : Step) : Prop where
  box : st.1.box.text = text
  filter : st.1.filter.value =
    { s.filter.value with query := if Text.isBlankString text then "" else text, page := 1 }
  searches : st.2 = [.call s.called
    (.search { s.filter.value.request 1 with query := Text.nonBlank? text })]
  closed : ∀ later, (∀ e ∈ later, e.typed? = none) →
    let list := (st.1.steps later).1.suggestions.value
    list.items = [] ∧ list.visible = false

/-- Making a text the query and searching for it, once the list is closed. -/
theorem searchFor_effects (s : Session) (text : String) (purpose : SearchPurpose) :
    let st := (s.dismiss.act (.setQuery text)).startSearch (some 1) purpose
    let request := { s.filter.value.request 1 with query := Text.nonBlank? text }
    st.1.filter.value = s.filter.value.setQuery text ∧
    st.1.suggestions = s.suggestions.update (·.dismiss) ∧
    st.2 = [.call s.called (.search request)] ∧
    st.1.calls = s.dismiss.calls ++
      [⟨s.called, .search st.1.search.value.issued request purpose⟩] := by
  obtain ⟨heffects, hcalls, -⟩ := startSearch_setQuery s.dismiss text purpose
  exact ⟨rfl, rfl, heffects, hcalls⟩

theorem commit_effects (s : Session) (op : OperationId) (text : String) (byKey : Bool) :
    let st := s.commit op text byKey
    st.1.box.text = text ∧
    st.1.filter.value = s.filter.value.setQuery text ∧
    st.1.suggestions = s.suggestions.update (·.dismiss) ∧
    st.2 = [.call s.called
      (.search { s.filter.value.request 1 with query := Text.nonBlank? text })] := by
  obtain ⟨box, writes, calls, hcancel⟩ := s.exists_cancelWrite
  let chosen := { s.cancelWrite with box := { s.cancelWrite.box with text } }
  obtain ⟨hfilter, hlist, heffects, -⟩ :=
    searchFor_effects chosen text (.commit op byKey (chosen.box.mode != .searchPage))
  have hkept : chosen.filter = s.filter ∧ chosen.suggestions = s.suggestions ∧
      chosen.called = s.called := by
    simp [chosen, hcancel]
  obtain ⟨hf, hl, hc⟩ := hkept
  rw [hf] at hfilter heffects
  rw [hl] at hlist
  rw [hc] at heffects
  exact ⟨rfl, hfilter, hlist, heffects⟩

theorem Choosing.commits (h : Choosing s t ds) {k : KeyPress} (hk : k.key = .enter) {i : Nat}
    (hi : position t.suggestions.value.selected = i) (op : OperationId) :
    ∃ c, s.suggestions.value.items[i]? = some c ∧
      Commits t c.text (t.step (.command op (.press k))) := by
  obtain ⟨c, hc, hcommitted⟩ := h.listed.committed?_eq h.visible hi
  refine ⟨c, h.items ▸ hc, ?_⟩
  let e : Event := .command op (.press k)
  have hstep : t.step e = t.dismiss.commit op c.text true := by
    change t.press op k = _
    rw [press_enter op h.focused hk, hcommitted]
    rfl
  obtain ⟨hbox, hfilter, hlist, heffects⟩ := t.dismiss.commit_effects op c.text true
  rw [← hstep] at hbox hfilter hlist heffects
  have htouch : t.fetchTouch e = .drop := by
    simp [e, fetchTouch, pressTouch, h.focused, hk, hcommitted]
  have hkeep : (t.fetchTouch e).isKeep = false := by rw [htouch]; rfl
  have htouches := step_touches hkeep
  have hclosed : Closed (t.step e).1 := by
    refine ⟨listed_step h.listed e, by rw [hlist]; rfl, ?_,
      htouches.isFetch_eq_false hkeep h.current⟩
    rw [htouches.waiting, htouch]
    rfl
  exact ⟨hbox, hfilter.trans (Filter.setQuery_eq _ _), heffects, fun later hlater =>
    ⟨(hclosed.steps hlater).items, (hclosed.steps hlater).visible⟩⟩

/-! ## Enter without a selection -/

/-- What a submit of a text does that is not blank, if `report` is what it reports in the end: it
searches for the text, and when the answer comes it leads to the results. -/
structure Submits (s : Session) (text : String) (op : OperationId) (report : Outcome → Result)
    (st : Step) : Prop where
  filter : st.1.filter.value = { s.filter.value with query := text, page := 1 }
  searches : st.2 = [.call s.called
    (.search { s.filter.value.request 1 with query := some text })]
  ends : ∀ (later : List Event) (a : Except Failure ResultPage),
    (∀ r, .answered s.called r ∉ (st.1.steps later).2) →
    let t := (st.1.steps later).1
    let received := SearchPane.receive t.search st.1.search.value.issued
      { s.filter.value.request 1 with query := some text } a
    t.step (.reply s.called (.search a)) =
      ({ t.forget s.called with
          search := received.1
          routes := t.routes ++ [.searchResults] },
        [.answered s.called (.search a), .finished op (report received.2)])

/-- What a submit reports of the outcome of its search. -/
def submitReport (byKey : Bool) (o : Outcome) : Result :=
  if byKey then .key (.submitted o) else .submitted (some o)

theorem Accounted.submits (h : Accounted s past)
    (hblank : Text.isBlankString s.box.text = false) (op : OperationId) (byKey : Bool) :
    Submits s (Text.trimmed s.box.text) op (submitReport byKey) (s.submit op byKey) := by
  have hnext : Accounted (s.submit op byKey).1 ((s.submit op byKey).2.reverse ++ past) :=
    (s.submit_makes op byKey).keep Accounted (fun m h => h.move m) h
  have hsubmit := submit_of_nonBlank hblank op byKey
  obtain ⟨box, writes, calls, hcancel⟩ := s.exists_cancelWrite
  have hfilter : s.cancelWrite.filter = s.filter := by rw [hcancel]
  have hcalled : s.cancelWrite.called = s.called := by rw [hcancel]
  have hne : Text.trimmed s.box.text ≠ "" := by
    intro hempty
    rw [← Text.isBlankString_trimmed, hempty] at hblank
    cases hblank
  obtain ⟨hf, -, heffects, hcalls⟩ := searchFor_effects s.cancelWrite (Text.trimmed s.box.text)
    (.submit op byKey)
  rw [Text.nonBlank?_trimmed hne, hfilter, hcalled, ← hsubmit] at heffects hcalls
  rw [hfilter, Filter.setQuery_trimmed, ← hsubmit] at hf
  refine ⟨hf, heffects, fun later a hnone => ?_⟩
  have hsent := hcalls ▸ List.mem_append_right _ (List.mem_singleton.2 rfl)
  have hmem := hnext.mem_calls_of_unanswered hsent rfl hnone
  exact (hnext.steps later).reply_search hmem a

/-- The session in which a key has made the submit with the call `id`. -/
def forKey (s : Session) (id : Nat) : Session :=
  { s with calls := s.calls.map fun c => if c.id = id then ⟨c.id, c.pending.forKey⟩ else c }

theorem startSearch_forKey (hids : ∀ c ∈ s.calls, c.id ≠ s.called) (page : Option UInt32)
    (op : OperationId) :
    (s.startSearch page (.submit op true)).1 =
      (s.startSearch page (.submit op false)).1.forKey s.called := by
  have hold : s.calls.map (fun c => if c.id = s.called then ⟨c.id, c.pending.forKey⟩ else c) =
      s.calls := by
    refine (List.map_congr_left fun c hc => ?_).trans (List.map_id _)
    exact if_neg (hids c hc)
  simp only [startSearch, send, forKey, List.map_append, hold, List.map_cons, List.map_nil, if_true]
  rfl

/-- What Enter does if nothing is selected: what a submit does, with other words. -/
structure ActsAsSubmit (s : Session) (op : OperationId) (st : Step) : Prop where
  blank : Text.isBlankString s.box.text = true →
    st = (s.cancelWrite, [.finished op (.key .ignored)]) ∧
    s.step (.command op .submit) = (s.cancelWrite, [.finished op (.submitted none)]) ∧
    st.1.suggestions = s.suggestions
  session : Text.isBlankString s.box.text = false →
    st.1 = (s.step (.command op .submit)).1.forKey s.called
  byKey : Text.isBlankString s.box.text = false →
    Submits s (Text.trimmed s.box.text) op (submitReport true) st
  submit : Text.isBlankString s.box.text = false →
    Submits s (Text.trimmed s.box.text) op (submitReport false) (s.step (.command op .submit))

theorem Choosing.actsAsSubmit (h : Choosing s t ds) (hacc : Accounted t past) {k : KeyPress}
    (hk : k.key = .enter) (hnone : position t.suggestions.value.selected = -1) (op : OperationId) :
    ActsAsSubmit t op (t.step (.command op (.press k))) := by
  have hstep : t.step (.command op (.press k)) = t.submit op true := by
    change t.press op k = _
    rw [press_enter op h.focused hk, Suggestions.committed?_eq_none hnone]
    dsimp only
    rw [if_pos h.visible, h.current.withSuggestions_eq rfl]
  have hsubmit : t.step (.command op .submit) = t.submit op false := rfl
  rw [hstep]
  constructor
  · intro hblank
    obtain ⟨box, writes, calls, hcancel⟩ := t.exists_cancelWrite
    rw [hsubmit, submit_of_blank hblank, submit_of_blank hblank, hcancel]
    exact ⟨rfl, rfl, rfl⟩
  · intro hblank
    let asking := t.cancelWrite.dismiss.act (.setQuery (Text.trimmed t.box.text))
    have halike : Alike t.cancelWrite.dismiss asking := alike_act _ _
    have hcalled : asking.called = t.called := halike.called.trans t.called_cancelWrite
    have hids : ∀ c ∈ asking.calls, c.id ≠ asking.called := by
      intro c hc
      rw [halike.calls] at hc
      rw [hcalled]
      have hold : c ∈ t.calls := mem_calls_cancelWrite (List.mem_filter.1 hc).1
      exact Nat.ne_of_lt (hacc.lt_called _ _ (hacc.sent c hold))
    rw [hsubmit, submit_of_nonBlank hblank, submit_of_nonBlank hblank, ← hcalled]
    exact startSearch_forKey hids (some 1) op
  · exact fun hblank => hacc.submits hblank op true
  · rw [hsubmit]
    exact fun hblank => hacc.submits hblank op false

/-! ## Keys in a run -/

/-- In every session with the box focused and a list that shows, the arrows walk through the list
within its bounds, whatever time passes in between, and every one of them reports where the
selection is. Enter then takes the completion at the position; above the first one it submits the
text of the box. -/
theorem keys_choose_completion (settings : Settings) (mode : Mode) (filter : Watched Filter)
    (before : List Event) :
    let s := ((startWith settings mode filter).steps before).1
    let n := s.suggestions.value.items.length
    s.box.focused = true → s.suggestions.value.visible = true →
    ∀ es, (∀ e ∈ es, e.direction?.isSome = true ∨ e.isTime = true) →
      let t := (s.steps es).1
      let ds := es.filterMap Event.direction?
      let i := walk n (position s.suggestions.value.selected) ds
      Choosing s t ds ∧ (-1 ≤ i ∧ i < n) ∧
      (∀ op k d, k.direction? = some d → ∃ selected,
        (t.step (.command op (.press k))).2 =
          [.finished op (.key (.suggestion (.moved selected)))] ∧
        position selected = walk n (position s.suggestions.value.selected) (ds ++ [d])) ∧
      ∀ op k, k.key = .enter →
        let st := t.step (.command op (.press k))
        (∀ j : Nat, i = j → ∃ c, s.suggestions.value.items[j]? = some c ∧ Commits t c.text st) ∧
        (i = -1 → ActsAsSubmit t op st) := by
  intro s n hfocused hvisible es hes t ds i
  have hlisted : (startWith settings mode filter).suggestions.value.Listed := .dropItems {}
  have hcurrent : Current (startWith settings mode filter) := by
    simp [Current, startWith, Session.start]
  obtain ⟨hs, hsc⟩ := listed_current_steps hlisted hcurrent before
  have hstart : Choosing s s [] := ⟨hfocused, rfl, rfl, hvisible, hs, hsc, rfl⟩
  have hchoosing : Choosing s t ds := hstart.steps hes
  have hi : position t.suggestions.value.selected = i := hchoosing.selected
  have hbounds := hchoosing.listed.position_lt hchoosing.visible
  rw [hi, hchoosing.items] at hbounds
  refine ⟨hchoosing, hbounds, fun op k d hk => ?_, fun op k hk => ⟨fun j hj => ?_, fun hnone => ?_⟩⟩
  · obtain ⟨hstep, hnext⟩ := hchoosing.arrow hk op
    have hselected := hnext.selected
    rw [hstep] at hselected
    exact ⟨_, congrArg Prod.snd hstep, hselected⟩
  · exact hchoosing.commits hk (hi.trans hj) op
  · have hacc := ((Accounted.start settings mode filter).steps before).steps es
    exact hchoosing.actsAsSubmit hacc hk (hi.trans hnone) op

/-- Down three times in a list of two, and up once: Enter takes the first completion. -/
theorem keys_choose_first_completion :
    let items : List Candidate := [{ text := "budget" }, { text := "buddy" }]
    let s := ((startWith {} .standalone ⟨{}, 0⟩).steps [.command 0 .focus, .command 1 (.type "bud"),
      .wait 300, .reply 0 (.suggestions (.ok items))]).1
    let down : Event := .command 2 (.press { key := .arrowDown })
    let up : Event := .command 3 (.press { key := .arrowUp })
    let t := (s.steps [down, down, down, .wait 100, up]).1
    s.box.focused = true ∧ s.suggestions.value.visible = true ∧
      Choosing s t [.down, .down, .down, .up] ∧
      Commits t "budget" (t.step (.command 4 (.press { key := .enter }))) := by
  intro items s down up t
  have hfocused : s.box.focused = true := by rfl
  have hvisible : s.suggestions.value.visible = true := by rfl
  have hitems : s.suggestions.value.items = items := by rfl
  have hselected : s.suggestions.value.selected = none := by rfl
  have hwalks : ∀ e ∈ [down, down, down, .wait 100, up],
      e.direction?.isSome = true ∨ e.isTime = true := by decide
  have hwalk : walk s.suggestions.value.items.length (position s.suggestions.value.selected)
      ([down, down, down, .wait 100, up].filterMap Event.direction?) = 0 := by
    rw [hitems, hselected]
    decide
  obtain ⟨hchoosing, -, -, henter⟩ := keys_choose_completion {} .standalone ⟨{}, 0⟩ _ hfocused
    hvisible [down, down, down, .wait 100, up] hwalks
  obtain ⟨c, hc, hcommits⟩ := (henter 4 { key := .enter } rfl).1 0 hwalk
  have hfirst : c = { text := "budget" } := by
    rw [show _ = s.suggestions.value.items from rfl, hitems] at hc
    exact (Option.some.inj hc).symm
  rw [hfirst] at hcommits
  exact ⟨hfocused, hvisible, hchoosing, hcommits⟩

end Session

end NoteSearch
