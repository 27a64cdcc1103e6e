-- SUMMARY: TOML documents as trees of items, and how their tables may be extended.
/-!
# TOML items

A document is a table of items. A table remembers how it came about, since that decides what
may still be added to it: a header may complete a table that so far only stands on the path to
another one, dotted keys may extend what dotted keys have begun, and nothing may be defined
twice.
-/

namespace NoteSearch.Toml

/-- How a table came about. -/
inductive Origin where
  /-- By a header or by braces. -/
  | explicit
  /-- On the path of a header to another table. -/
  | implied
  /-- By dotted keys. -/
  | dotted
  deriving DecidableEq

/-- An item of a document. Floating-point numbers, days and times are kept as written. -/
inductive Item where
  | string (text : String)
  | integer (value : Int)
  | float (literal : List Char)
  | boolean (value : Bool)
  | moment (literal : List Char)
  | array (items : List Item)
  /-- A table written between braces; nothing can be added to it from outside. -/
  | braces (entries : List (String × Item))
  | table (origin : Origin) (entries : List (String × Item))
  /-- The tables under repeated headers, the latest first. -/
  | tables (items : List (List (String × Item)))

/-- The entries of a table with its origin. -/
structure Table where
  origin : Origin := .explicit
  entries : List (String × Item) := []

namespace Table

def toItem (t : Table) : Item := .table t.origin t.entries

def get? (t : Table) (key : String) : Option Item := t.entries.lookup key

def erase (t : Table) (key : String) : Table :=
  { t with entries := t.entries.filter fun e => e.1 != key }

def put (t : Table) (key : String) (item : Item) : Table :=
  if (t.get? key).isSome then
    { t with entries := t.entries.map fun e => if e.1 = key then (key, item) else e }
  else { t with entries := t.entries ++ [(key, item)] }

def add? (t : Table) (key : String) (item : Item) : Option Table :=
  if (t.get? key).isSome then none else some (t.put key item)

/-- Changes the table at the end of a path. Tables that are missing on the path are created.
Dotted keys may not enter a table with a header of its own; nothing but tables can be entered. -/
def modify? (byDots : Bool) : List String → (Table → Option Table) → Table → Option Table
  | [], f, t => f t
  | key :: rest, f, t =>
    match t.get? key with
    | none =>
      let fresh : Table := { origin := if byDots then .dotted else .implied }
      (modify? byDots rest f fresh).map fun child => t.put key child.toItem
    | some (.table origin entries) =>
      if byDots && origin == .explicit then none
      else
        (modify? byDots rest f { origin, entries }).map fun child => t.put key child.toItem
    | some (.tables (last :: before)) =>
      (modify? byDots rest f { entries := last }).map fun child =>
        t.put key (.tables (child.entries :: before))
    | some _ => none

/-- Adds an item under a dotted key. The table that the dots lead to must have been begun by
dots. -/
def addDotted? (t : Table) (path : List String) (key : String) (item : Item) : Option Table :=
  modify? true path (fun target =>
    if path.isEmpty || target.origin == .dotted then target.add? key item else none) t

/-- The table of the pairs between two braces. -/
def ofPairs? (pairs : List (List String × String × Item)) : Option Table :=
  pairs.foldlM (fun t p => t.addDotted? p.1 p.2.1 p.2.2) {}

end Table

/-! ## Documents under construction -/

/-- A document with the table that is being filled. -/
structure Draft where
  root : Table := {}
  current : Table := {}
  /-- The path of the current table; empty at the start of the document. -/
  path : List String := []
  /-- Whether the header of the current table may be repeated. -/
  repeated : Bool := false

namespace Draft

/-- Puts the current table into the document. -/
def close? (d : Draft) : Option Table :=
  match d.path.getLast? with
  | none => some d.current
  | some key =>
    Table.modify? false d.path.dropLast (fun parent =>
      if d.repeated then
        match parent.get? key with
        | none => some (parent.put key (.tables [d.current.entries]))
        | some (.tables before) => some (parent.put key (.tables (d.current.entries :: before)))
        | some _ => none
      else parent.add? key d.current.toItem) d.root

def addPair? (d : Draft) (path : List String) (key : String) (item : Item) : Option Draft :=
  (d.current.addDotted? path key item).map fun current => { d with current }

/-- The table that a path leads to, by headers alone. Missing tables on the way are created. -/
def enter? (root : Table) (path : List String) (f : Table → Option Table) : Option Table :=
  Table.modify? false path f root

def find? (t : Table) : List String → Option Item
  | [] => none
  | [key] => t.get? key
  | key :: next :: rest =>
    match t.get? key with
    | some (.table origin entries) => find? { origin, entries } (next :: rest)
    | some (.tables (last :: _)) => find? { entries := last } (next :: rest)
    | _ => none

/-- Begins the table of a header. A table that only stands on the path to another one is taken
up; any other item at this place is a repetition. -/
def openTable? (d : Draft) (path : List String) : Option Draft := do
  let root ← d.close?
  let key ← path.getLast?
  let place := find? root path
  let root ← enter? root path.dropLast fun parent => some (parent.erase key)
  match place with
  | none => some { root, current := {}, path, repeated := false }
  | some (.table .implied entries) =>
    some { root, current := { entries }, path, repeated := false }
  | some _ => none

/-- Begins the next table of a repeated header. -/
def openRepeated? (d : Draft) (path : List String) : Option Draft := do
  let root ← d.close?
  let key ← path.getLast?
  let root ← enter? root path.dropLast fun parent =>
    match parent.get? key with
    | none => some (parent.put key (.tables []))
    | some (.tables before) => some (parent.put key (.tables before))
    | some _ => none
  some { root, current := {}, path, repeated := true }

end Draft

end NoteSearch.Toml
