-- SUMMARY: JSON values whose content is free, and the conditions under which a document has one.
import NoteSearch.Json.Tree

/-!
# Free values

A free value is a document of no fixed shape, read for its meaning: a repeated name keeps its
last value, strings are text, and numbers are integers where they fit 64 bits and
floating-point numbers otherwise. Reading bounds the nesting.
-/

namespace NoteSearch.Json

inductive Value where
  | null
  | bool (value : Bool)
  | int (value : Int)
  | float (value : Float)
  | string (text : String)
  | array (items : List Value)
  /-- The members in the order of their names. -/
  | object (members : List (String × Value))
  deriving Inhabited

namespace Value

/-- How deep the arrays and objects of a document may nest where they are read. -/
def maxDepth : Nat := 127

/-- Whether an integer fits 64 bits, with a sign only if it is negative. -/
def fitsWord (i : Int) : Bool := Int64.minValue.toInt ≤ i && i < UInt64.size

def ofNumber? (n : Number) : Option Value :=
  match n.toInt? with
  | some i => if fitsWord i then some (int i) else n.toFloat?.map float
  | none => n.toFloat?.map float

/-- Sets a member, among members in the order of their names. -/
def setMember (name : String) (value : Value) : List (String × Value) → List (String × Value)
  | [] => [(name, value)]
  | (other, kept) :: rest =>
    if name < other then (name, value) :: (other, kept) :: rest
    else if name = other then (name, value) :: rest
    else (other, kept) :: setMember name value rest

mutual
/-- The value of a document whose containers nest at most `depth` deep. -/
def ofTree? (depth : Nat) : Tree → Option Value
  | .null => some null
  | .bool b => some (bool b)
  | .number n => ofNumber? n
  | .string s => s.map string
  | .array items => if depth = 0 then none else (ofItems? (depth - 1) items).map array
  | .object members =>
    if depth = 0 then none else (ofMembers? (depth - 1) members []).map object

def ofItems? (depth : Nat) : List Tree → Option (List Value)
  | [] => some []
  | item :: rest => do
    let value ← ofTree? depth item
    let values ← ofItems? depth rest
    some (value :: values)

def ofMembers? (depth : Nat) :
    List (Option String × Tree) → List (String × Value) → Option (List (String × Value))
  | [], before => some before
  | (name?, item) :: rest, before => do
    let name ← name?
    let value ← ofTree? depth item
    ofMembers? depth rest (setMember name value before)
end

def member? (name : String) : Value → Option Value
  | object members => members.lookup name
  | _ => none

def string? : Value → Option String
  | string text => some text
  | _ => none

end Value

namespace Tree

/-! ## Documents that can be read throughout -/

mutual
/-- Whether every part of a document can be read: no number overflows, every string and name is
text, and the containers nest at most `depth` deep. -/
def isReadable (depth : Nat) : Tree → Bool
  | null => true
  | bool _ => true
  | number n => (Value.ofNumber? n).isSome
  | string s => s.isSome
  | array items => depth != 0 && areReadable (depth - 1) items
  | object members => depth != 0 && membersReadable (depth - 1) members

def areReadable (depth : Nat) : List Tree → Bool
  | [] => true
  | item :: rest => isReadable depth item && areReadable depth rest

def membersReadable (depth : Nat) : List (Option String × Tree) → Bool
  | [] => true
  | (name, item) :: rest => name.isSome && isReadable depth item && membersReadable depth rest
end

end Tree

end NoteSearch.Json
