-- SUMMARY: A tree of files and directories, and what can be done with its paths.
import NoteSearch.Files.FilePath

/-!
# Volumes

A volume holds files and directories at places, which are the names on the way from the root.
A path is followed step by step: every step but the last must lead to a directory, and a dot stays
where it is. An operation
that fails leaves the volume as it is, with one exception: `makeDirectories` keeps the
directories it has made before it failed.
-/

namespace NoteSearch.Files

/-- What stands at a place. -/
inductive Entry where
  | file (text : String)
  | directory
  deriving DecidableEq, Inhabited

/-- Why an operation on a path fails. -/
inductive Fault where
  | notFound
  | notDirectory
  | isDirectory
  | taken
  /-- A path or a name is too long, or holds a character that no name may hold. -/
  | badName
  deriving DecidableEq, Inhabited

/-- The names on the way from the root. -/
abbrev Place := List String

/-- A tree of files. At most one thing stands at a place. -/
structure Volume where
  entries : List (Place × Entry) := []
  workingDirectory : Place := []
  nodup_places : (entries.map Prod.fst).Nodup := by simp

namespace Volume

instance : Inhabited Volume := ⟨{}⟩

/-! ## Places -/

/-- What stands at a place. The root is a directory. -/
def find? (v : Volume) (place : Place) : Option Entry :=
  if place.isEmpty then some .directory else v.entries.lookup place

def put (v : Volume) (place : Place) (entry : Entry) : Volume where
  entries := (place, entry) :: v.entries.filter fun e => e.1 != place
  workingDirectory := v.workingDirectory
  nodup_places := by
    have hplaces : ((v.entries.filter fun e => e.1 != place).map Prod.fst).Nodup :=
      v.nodup_places.sublist (List.filter_sublist.map Prod.fst)
    simpa using hplaces

def namesIn (v : Volume) (place : Place) : List String :=
  v.entries.filterMap fun e => if e.1.dropLast = place then e.1.getLast? else none

/-! ## Paths -/

def maxName : Nat := 255

def maxPath : Nat := 4095

def isTooLong (p : FilePath) : Bool := maxPath < p.text.utf8ByteSize

/-- Where one step leads. -/
def onward (place : Place) (step : String) : Place :=
  if step = "." then place else if step = ".." then place.dropLast else place ++ [step]

/-- Follows steps from a place. -/
def follow (v : Volume) : Place → List String → Except Fault Place
  | place, [] => .ok place
  | place, step :: rest =>
    match v.find? place with
    | none => .error .notFound
    | some (.file _) => .error .notDirectory
    | some .directory =>
      if step.utf8ByteSize ≤ maxName then v.follow (onward place step) rest else .error .badName

/-- Where steps lead. There need not be anything at this place. -/
def resolveSteps (v : Volume) (absolute : Bool) (steps : List String) : Except Fault Place :=
  if steps.any fun step => step.toList.contains '\x00' then .error .badName
  else v.follow (if absolute then [] else v.workingDirectory) steps

/-- Where a path leads. The empty path leads nowhere. -/
def resolve (v : Volume) (p : FilePath) : Except Fault Place :=
  if p.text.isEmpty then .error .notFound
  else if isTooLong p then .error .badName
  else v.resolveSteps p.isAbsolute p.steps

def stat? (v : Volume) (p : FilePath) : Option Entry :=
  match v.resolve p with
  | .ok place => v.find? place
  | .error _ => none

def contains (v : Volume) (p : FilePath) : Bool := (v.stat? p).isSome

/-! ## Files -/

def read? (v : Volume) (p : FilePath) : Option String :=
  match v.stat? p with
  | some (.file text) => some text
  | _ => none

def write (v : Volume) (p : FilePath) (text : String) : Except Fault Volume := do
  let place ← v.resolve p
  match v.find? place with
  | some .directory => .error .isDirectory
  | _ => .ok (v.put place (.file text))

/-! ## Directories -/

def list? (v : Volume) (p : FilePath) : Option (List String) :=
  match v.resolve p with
  | .ok place => if v.find? place = some .directory then some (v.namesIn place) else none
  | .error _ => none

/-- Makes a directory at a place where nothing stands. -/
def makeDirectory (v : Volume) (absolute : Bool) (steps : List String) : Except Fault Volume := do
  let place ← v.resolveSteps absolute steps
  match v.find? place with
  | some _ => .error .taken
  | none => .ok (v.put place .directory)

def isDirectory (v : Volume) (absolute : Bool) (steps : List String) : Bool :=
  match v.resolveSteps absolute steps with
  | .ok place => v.find? place == some .directory
  | .error _ => false

/-- Makes a directory, unless it is there already. The answer tells why it failed, if it did. -/
def ensureDirectory (v : Volume) (absolute : Bool) (steps : List String) : Volume × Option Fault :=
  match v.makeDirectory absolute steps with
  | .ok v => (v, none)
  | .error f => (v, if v.isDirectory absolute steps then none else some f)

/-- Makes a directory, after what stands in front of it if this is missing. The answer tells why it
failed, if it did. -/
def makeBehind (v : Volume) (absolute : Bool) (steps : List String)
    (front : Volume × Option Fault) : Volume × Option Fault :=
  match v.makeDirectory absolute steps with
  | .error .notFound =>
    match front with
    | (v, none) => v.ensureDirectory absolute steps
    | failed => failed
  | _ => v.ensureDirectory absolute steps

/-- Makes a directory and those that are missing on the way to it. The parts come in reverse
order. -/
def makeDirectories (v : Volume) (absolute : Bool) : List String → Volume × Option Fault
  | [] => (v, none)
  | part :: before =>
    v.makeBehind absolute (part :: before).reverse (v.makeDirectories absolute before)

/-- Makes the directory of a path and those that are missing on the way to it. Nothing can be made
behind a dot, so with a dot at its end the path has to lead to a directory by then. A path without
parts leads to a directory that is there already. -/
def makePath (v : Volume) (p : FilePath) : Volume × Option Fault :=
  if isTooLong p then (v, some .badName)
  else
    match p.parts.reverse with
    | [] => (v, none)
    | part :: before =>
      v.makeBehind p.isAbsolute ((part :: before).reverse ++ if p.endsInDot then ["."] else [])
        (v.makeDirectories p.isAbsolute before)

/-- Makes the directories on the way to a path. -/
def makeParent (v : Volume) (p : FilePath) : Volume × Option Fault := v.makePath p.parent

end Volume

end NoteSearch.Files
