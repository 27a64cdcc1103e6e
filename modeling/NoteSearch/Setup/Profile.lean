-- SUMMARY: Profiles: the connection and the settings that a user keeps in a file, and their text.
import NoteSearch.Toml.Reader
import NoteSearch.Toml.Printer
import NoteSearch.Wire.Settings

/-!
# Profiles

A profile says where the service is and how a session is tuned. It is kept as a TOML document
with the settings in a section of their own. Every part may be missing when a profile is read.
-/

namespace NoteSearch

structure Profile where
  apiUrl : Option String := none
  token : Option String := none
  settings : Settings := {}
  deriving DecidableEq, Inhabited

namespace Profile

open Toml

/-! ## Reading -/

def readString : Item → Option String
  | .string s => some s
  | _ => none

def readNat (most : Nat) : Item → Option Nat
  | .integer i => if 0 ≤ i ∧ i ≤ most then some i.toNat else none
  | _ => none

def readWord (item : Item) : Option UInt64 := (readNat (UInt64.size - 1) item).map UInt64.ofNat

def readHalf (item : Item) : Option UInt32 := (readNat (UInt32.size - 1) item).map UInt32.ofNat

def readOptional {α : Type} (read : Item → Option α) : Option Item → Option (Option α)
  | none => some none
  | some item => (read item).map some

/-- Reads an item that may be missing, with a value to take its place. -/
def readOr {α : Type} (read : Item → Option α) (default : α) : Option Item → Option α
  | none => some default
  | some item => read item

/-- The items under names: by name in a table, by place in an array. A moment has none. -/
def fields? (names : List String) : Item → Option (List (Option Item))
  | .table _ entries => some (names.map fun n => entries.lookup n)
  | .braces entries => some (names.map fun n => entries.lookup n)
  | .array items => some (names.zipIdx.map fun n => items[n.2]?)
  | .moment _ => some (names.map fun _ => none)
  | _ => none

def readSettings (item : Item) : Option Settings := do
  let [suggestionDelay, liveSearchDelay, limit, minLength, perPage, notesPerPage] ←
    fields? Wire.settingsFields item | none
  let default : Settings := {}
  let suggestionDelay ← readOr readWord default.suggestionDelay suggestionDelay
  let liveSearchDelay ← readOr readWord default.liveSearchDelay liveSearchDelay
  let suggestionLimit ← readOr readHalf default.suggestionLimit limit
  let minSuggestionLength ← readOr readWord default.minSuggestionLength minLength
  let perPage ← readOr readHalf default.perPage perPage
  let notesPerPage ← readOr readHalf default.notesPerPage notesPerPage
  some
    { suggestionDelay, liveSearchDelay, suggestionLimit, minSuggestionLength, perPage
      notesPerPage }

def ofTable? (t : Table) : Option Profile := do
  let apiUrl ← readOptional readString (t.get? "api_url")
  let token ← readOptional readString (t.get? "token")
  let settings ← readOr readSettings {} (t.get? "search")
  some { apiUrl, token, settings }

def ofText? (text : String) : Option Profile := (Table.ofText? text).bind ofTable?

/-! ## Writing -/

/-- A number as an integer of TOML, which has 63 bits and a sign. -/
def writeNat (n : Nat) : Option Scalar :=
  if n ≤ Int64.maxValue.toInt then some (.integer n) else none

def settingsPairs? (s : Settings) : Option (List (String × Scalar)) := do
  some (Wire.settingsFields.zip
    [← writeNat s.suggestionDelay.toNat, ← writeNat s.liveSearchDelay.toNat,
      ← writeNat s.suggestionLimit.toNat, ← writeNat s.minSuggestionLength.toNat,
      ← writeNat s.perPage.toNat, ← writeNat s.notesPerPage.toNat])

/-- The pairs of the connection. Absent parts are left out. -/
def connectionPairs (p : Profile) : List (String × Scalar) :=
  (p.apiUrl.map fun s => ("api_url", .string s)).toList ++
    (p.token.map fun s => ("token", .string s)).toList

/-- Writes a profile, unless a number of it is too large. -/
def toText? (p : Profile) : Option String :=
  (settingsPairs? p.settings).map fun pairs =>
    document [{ pairs := p.connectionPairs }, { name := some "search", pairs }]

end Profile

end NoteSearch
