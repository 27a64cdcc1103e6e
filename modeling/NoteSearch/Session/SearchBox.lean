-- SUMMARY: The search box: its text, its focus and the live write that its text has scheduled.
import NoteSearch.Session.Key

/-!
# The search box

Where the box stands decides what typing does: on the dashboard it filters the list of notes, on
the results page it searches again, elsewhere it only completes. The first two happen after a
quiet time, by a live write. A live write runs apart from the box, which can abort it; to send a
request it first takes over from the box, and then only the answers to later requests outdo it.
-/

namespace NoteSearch

/-- Where the search box stands. -/
inductive Mode where
  /-- On the dashboard: typing filters the list of notes. -/
  | liveFilter
  /-- On the results page: typing searches again. -/
  | searchPage
  /-- Elsewhere: typing only completes. -/
  | standalone
  deriving DecidableEq, Inhabited

/-- Where the application can be led. -/
inductive Route where
  | searchResults
  deriving DecidableEq, Inhabited

/-- A typed text that takes effect when the quiet time has passed. -/
structure LiveWrite where
  /-- The turn of the search box in which it was scheduled. -/
  number : Nat
  due : Nat
  mode : Mode
  text : String
  deriving DecidableEq

structure SearchBox where
  text : String := ""
  mode : Mode
  focused : Bool := false
  /-- The live write that is aborted when the next turn begins. -/
  pending : Option Nat := none
  /-- Whatever drops a scheduled live write begins a new turn. -/
  turn : Nat := 0
  deriving DecidableEq, Inhabited

namespace SearchBox

/-- Begins a new turn, in which no live write is scheduled. -/
def cancel (b : SearchBox) : SearchBox := { b with pending := none, turn := b.turn + 1 }

/-- A live write whose quiet time is over takes over from the box, which does not abort it any
more. It may not do so if its turn is over. -/
def claim? (b : SearchBox) (number : Nat) : Option SearchBox :=
  if number = b.turn then some { b with pending := none } else none

end SearchBox

end NoteSearch
