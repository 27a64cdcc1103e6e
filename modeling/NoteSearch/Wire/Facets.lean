-- SUMMARY: The JSON forms of the small types: names, days and instants.
import NoteSearch.Json.Decode
import NoteSearch.Search.Facets
import NoteSearch.Calendar.Timestamp
import NoteSearch.Service.Usage

/-!
# JSON forms of small types

How kinds of notes, tag modes, trends, days and instants stand in JSON, and the writers that
several records share.
-/

namespace NoteSearch.Wire

open Json Calendar

/-! ## Reading -/

def tagMode : Reader TagMode := Reader.name TagMode.ofText?

def noteType : Reader NoteType := Reader.name NoteType.ofText?

def trend : Reader Trend := Reader.name Trend.ofText?

def date : Reader Date := fun t => (Reader.string t).bind Date.ofText?

def timestamp : Reader Timestamp := fun t => (Reader.string t).bind Timestamp.ofText?

/-! ## Writing -/

def ofString (s : String) : Tree := .string (some s)

/-- Writes an integer without a sign. -/
def ofNat (n : Nat) : Tree := .number (.ofNat n)

def ofOption {α : Type} (write : α → Tree) : Option α → Tree
  | some a => write a
  | none => .null

def ofStrings (l : List String) : Tree := .array (l.map ofString)

def ofMembers (l : List (String × Tree)) : Tree := .object (l.map fun m => (some m.1, m.2))

end NoteSearch.Wire
