-- SUMMARY: Paths of files as texts, and the parts that they are made of.
import NoteSearch.Text.Pieces

/-!
# Paths

A path is a text in which slashes separate parts. It is absolute if it begins with a slash.
Empty pieces and pieces of a single dot lead nowhere and are left out of `parts`. At the end of a
path they still say that a directory is meant, so `steps` keeps a dot there.
-/

namespace NoteSearch.Files

structure FilePath where
  text : String
  deriving DecidableEq, Inhabited

namespace FilePath

/-! ## Parts -/

/-- Whether a piece of a path says where to go. -/
def isPart (piece : List Char) : Bool := !piece.isEmpty && piece != ['.']

def parts (p : FilePath) : List String :=
  ((Text.pieces (· == '/') p.text.toList).filter isPart).map String.ofList

def isAbsolute (p : FilePath) : Bool := p.text.toList.head? == some '/'

/-- Whether the last piece of a path is a dot, with or without slashes behind it. -/
def endsInDot (p : FilePath) : Bool :=
  ((Text.pieces (· == '/') p.text.toList).filter (!·.isEmpty)).getLast? == some ['.']

def endsInSlash (p : FilePath) : Bool := p.text.toList.getLast? == some '/'

/-- The parts of a path, with a dot behind them if only a directory can be meant. -/
def steps (p : FilePath) : List String :=
  if p.endsInDot || p.endsInSlash then p.parts ++ ["."] else p.parts

/-- The path without its last part. -/
def parent (p : FilePath) : FilePath :=
  let pieces := (Text.pieces (· == '/') p.text.toList).reverse
  let before := (pieces.dropWhile (!isPart ·)).tail.dropWhile (!isPart ·)
  if before.isEmpty && p.isAbsolute then ⟨"/"⟩
  else ⟨"/".intercalate (before.reverse.map String.ofList)⟩

/-! ## Joining -/

/-- Whether a name can be put behind a path without a slash between them. -/
def takesName (p : FilePath) : Bool := p.text.isEmpty || p.endsInSlash

/-- The path that leads on from `p` along `q`. An absolute path leads to its own place. -/
def join (p q : FilePath) : FilePath :=
  if q.isAbsolute then q
  else if p.takesName then ⟨p.text ++ q.text⟩
  else ⟨p.text ++ "/" ++ q.text⟩

/-! ## Names of files -/

/-- The part of a file name before its last dot, and the part behind it. A dot at the start
separates nothing. -/
def splitName (name : List Char) : List Char × Option (List Char) :=
  let behind := (name.reverse.takeWhile (· != '.')).reverse
  let before := name.take (name.length - behind.length - 1)
  if name.length = behind.length ∨ before.isEmpty ∨ name = ['.', '.'] then (name, none)
  else (before, some behind)

end FilePath

end NoteSearch.Files
