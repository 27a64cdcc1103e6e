-- SUMMARY: Readers that turn a document into a typed value: scalars, lists and records.
import NoteSearch.Json.Value

/-!
# Readers

A reader turns a document into a value of a type, or fails. Records may be written as objects or
as arrays of their fields in order; `Tree.fields?` finds the fields in either form, and a field
reader then says what a missing field means.
-/

namespace NoteSearch.Json

abbrev Reader (α : Type) := Tree → Option α

namespace Reader

/-! ## Scalars -/

def bool : Reader Bool
  | .bool b => some b
  | _ => none

def string : Reader String
  | .string s => s
  | _ => none

def int : Reader Int
  | .number n => n.toInt?
  | _ => none

/-- Reads an integer of 32 bits without a sign. -/
def uint32 : Reader UInt32 := fun t =>
  (int t).bind fun i => if 0 ≤ i ∧ i < UInt32.size then some (UInt32.ofNat i.toNat) else none

/-- Reads an integer of 64 bits without a sign. -/
def uint64 : Reader UInt64 := fun t =>
  (int t).bind fun i => if 0 ≤ i ∧ i < UInt64.size then some (UInt64.ofNat i.toNat) else none

/-- Reads an integer of 64 bits with a sign. -/
def int64 : Reader Int64 := fun t =>
  (int t).bind fun i =>
    if Int64.minValue.toInt ≤ i ∧ i ≤ Int64.maxValue.toInt then some (Int64.ofInt i) else none

def float : Reader Float
  | .number n => n.toFloat?
  | _ => none

/-! ## Compound values -/

/-- Reads a value or its absence, which is written `null`. -/
def option {α : Type} (read : Reader α) : Reader (Option α)
  | .null => some none
  | t => (read t).map some

def items {α : Type} (read : Reader α) : List Tree → Option (List α)
  | [] => some []
  | t :: ts => do
    let value ← read t
    let values ← items read ts
    some (value :: values)

def list {α : Type} (read : Reader α) : Reader (List α)
  | .array ts => items read ts
  | _ => none

/-- Reads one of several names. The name may also stand alone in an object, with the value
`null`. -/
def name {α : Type} (ofName? : String → Option α) : Reader α
  | .string s => s.bind ofName?
  | .object [(s, .null)] => s.bind ofName?
  | _ => none

end Reader

/-! ## Records -/

namespace Tree

def findMember? (name : String) : List (Option String × Tree) → Option Tree
  | [] => none
  | (other, value) :: rest => if other = some name then some value else findMember? name rest

/-- How often a name occurs among members. -/
def countMember (name : String) (members : List (Option String × Tree)) : Nat :=
  members.countP fun m => m.1 == some name

/-- The fields of a record, one entry for each of `names`, missing ones empty. An object may
have other members; each of its names must be text, and no field may occur twice. An array may
not be longer than `names`, nor shorter than `least`. -/
def fields? (names : List String) (least : Nat) : Tree → Option (List (Option Tree))
  | .object members =>
    if members.all (·.1.isSome) && names.all (countMember · members ≤ 1) then
      some (names.map (findMember? · members))
    else none
  | .array items =>
    if least ≤ items.length ∧ items.length ≤ names.length then
      some (items.map some ++ List.replicate (names.length - items.length) none)
    else none
  | _ => none

end Tree

namespace Reader

def required {α : Type} (read : Reader α) (field : Option Tree) : Option α := field.bind read

def withDefault {α : Type} (read : Reader α) (default : α) : Option Tree → Option α
  | none => some default
  | some t => read t

/-- Reads a field whose value may be absent, as may the field. -/
def optional {α : Type} (read : Reader α) : Option Tree → Option (Option α) :=
  withDefault (option read) none

end Reader

end NoteSearch.Json
