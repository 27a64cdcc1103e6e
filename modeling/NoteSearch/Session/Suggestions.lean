-- SUMMARY: The completions below the search box: when they are fetched and what is shown.
import NoteSearch.Service.Call
import NoteSearch.Search.Watched
import NoteSearch.Session.Key
import NoteSearch.Session.Settings

/-!
# Completions

While the user types, completions are fetched after a quiet time. Every change of the text and
every dismissal begins a new generation; a timer or a reply of an earlier generation has no
effect. The list shows only while the search box has the focus.
-/

namespace NoteSearch

/-- A fetch of completions that waits for the quiet time to pass. -/
structure ScheduledFetch where
  due : Nat
  text : String
  deriving DecidableEq

structure Suggestions where
  items : List Candidate := []
  visible : Bool := false
  /-- The selected position; none is the position above the first one. -/
  selected : Option Nat := none
  focused : Bool := false
  generation : Nat := 0
  scheduled : Option ScheduledFetch := none
  deriving Inhabited

inductive SuggestionKey where
  /-- The list has no use for the key. -/
  | ignored
  | moved (selected : Option Nat)
  /-- The selected completion becomes the query. -/
  | commit (text : String)
  | dismissed
  deriving DecidableEq, Inhabited

namespace Suggestions

/-! ## Generations -/

/-- Begins a new generation: what was scheduled or asked for before has no effect any more. -/
def cancel (s : Suggestions) : Suggestions :=
  { s with generation := s.generation + 1, scheduled := none }

def dropItems (s : Suggestions) : Suggestions :=
  { s with items := [], visible := false, selected := none }

/-- Takes a typed text at time `now`. A text that is too short empties the list; any other is
completed after the quiet time. -/
def type (settings : Settings) (now : Nat) (text : String) (s : Suggestions) : Suggestions :=
  let text := Text.trimmed text
  if text.length < settings.minSuggestionLength.toNat then s.cancel.dropItems
  else { s.cancel with scheduled := some ⟨now + settings.suggestionDelay.toNat, text⟩ }

def fire (s : Suggestions) : Suggestions := { s with scheduled := none }

/-- What the list becomes by the reply to the current fetch: the candidates are shown if the box
has the focus. -/
def settle (reply : Except Failure (List Candidate)) (s : Suggestions) : Suggestions :=
  match reply with
  | .ok items =>
    if s.focused then { s with items, visible := !items.isEmpty, selected := none }
    else s.dropItems
  | .error _ => s.dropItems

def receive (w : Watched Suggestions) (generation : Nat) (reply : Except Failure (List Candidate)) :
    Watched Suggestions :=
  if generation = w.value.generation then w.update (settle reply) else w

/-! ## Focus and dismissal -/

/-- The search box gets the focus. -/
def focus (s : Suggestions) : Suggestions :=
  { s with focused := true, visible := !s.items.isEmpty }

/-- The search box loses the focus. The completions are dropped and not kept for the next
time. -/
def blur (s : Suggestions) : Suggestions := { s with focused := false }.dropItems

/-- Hides the list, and stops what might show it again. -/
def dismiss (s : Suggestions) : Suggestions := s.cancel.dropItems

/-! ## Selection -/

def textAt? (s : Suggestions) (index : Nat) : Option String := (s.items[index]?).map (·.text)

/-- Chooses the completion at a position, which dismisses the list. -/
def choose (w : Watched Suggestions) (index : Nat) : Watched Suggestions × Option String :=
  match w.value.textAt? index with
  | some text => (w.update dismiss, some text)
  | none => (w, none)

/-- The position below. The last one is below itself. -/
def below (count : Nat) : Option Nat → Option Nat
  | none => some 0
  | some i => some (min (i + 1) (count - 1))

def above : Option Nat → Option Nat
  | none => none
  | some 0 => none
  | some (i + 1) => some i

def move (w : Watched Suggestions) (selected : Option Nat) : Watched Suggestions × SuggestionKey :=
  (w.update fun s => { s with selected }, .moved selected)

def handleKey (w : Watched Suggestions) (key : Key) : Watched Suggestions × SuggestionKey :=
  let s := w.value
  if key = .escape then (w.update dismiss, .dismissed)
  else if !s.visible || s.items.isEmpty then (w, .ignored)
  else
    match key with
    | .arrowDown => move w (below s.items.length s.selected)
    | .arrowUp => move w (above s.selected)
    | .enter =>
      match s.selected with
      | none => (w, .ignored)
      | some i =>
        match choose w i with
        | (w, some text) => (w, .commit text)
        | (w, none) => (w, .ignored)
    | _ => (w, .ignored)

end Suggestions

end NoteSearch
