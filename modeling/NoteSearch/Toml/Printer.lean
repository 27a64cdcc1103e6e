-- SUMMARY: Writing TOML: quoted texts, pairs and sections.
import NoteSearch.Text.Hex

/-!
# Writing TOML

A text is quoted in the plainest way that can hold it: between quotation marks if nothing has to
be escaped, else between apostrophes, else between three quotation marks, else between three
apostrophes. A text that none of these can hold is escaped.
-/

namespace NoteSearch.Toml

/-! ## Quoted texts -/

inductive Quotes where
  /-- Between quotation marks, with escapes. -/
  | basic
  /-- Between apostrophes, as it is. -/
  | literal
  /-- Between three quotation marks, with escapes. -/
  | basicLines
  /-- Between three apostrophes, as it is. -/
  | literalLines
  deriving DecidableEq

def isControl (c : Char) : Bool :=
  (c.toNat < 0x20 && c != '\t' && c != '\n') || c.toNat == 0x7F

/-- The length of the longest run of a mark, after `run` of them. -/
def longestRun (mark : Char) (run : Nat) : List Char → Nat
  | [] => run
  | c :: t => if c = mark then longestRun mark (run + 1) t else max run (longestRun mark 0 t)

/-- The quotes for a text. Two equal marks in a row may stand between three of them. -/
def Quotes.ofText (t : List Char) : Quotes :=
  let controls := t.any isControl
  let lines := t.contains '\n'
  let backslashes := t.contains '\\'
  if !controls && !lines && !backslashes && !t.contains '"' then .basic
  else if !controls && !lines && !t.contains '\'' then .literal
  else if !controls && !backslashes && longestRun '"' 0 t ≤ 2 then .basicLines
  else if !controls && longestRun '\'' 0 t ≤ 2 then .literalLines
  else if lines then .basicLines
  else .basic

def escape? (c : Char) : Option (List Char) :=
  if c = '\x08' then some ['\\', 'b']
  else if c = '\t' then some ['\\', 't']
  else if c = '\n' then some ['\\', 'n']
  else if c = '\x0c' then some ['\\', 'f']
  else if c = '\r' then some ['\\', 'r']
  else if c = '\\' then some ['\\', '\\']
  else if isControl c then
    some ['\\', 'u', '0', '0', Text.upperHex (c.toNat / 16), Text.upperHex (c.toNat % 16)]
  else none

/-- A text with its escapes. In `lines`, ends of lines and two quotation marks in a row stand as
they are; `run` is the number of marks that stand just before. -/
def escaped (lines : Bool) (run : Nat) : List Char → List Char
  | [] => []
  | c :: t =>
    if c = '"' then
      if lines ∧ run < 2 then '"' :: escaped lines (run + 1) t
      else '\\' :: '"' :: escaped lines 0 t
    else if lines ∧ c = '\n' then '\n' :: escaped lines 0 t
    else
      match escape? c with
      | some s => s ++ escaped lines 0 t
      | none => c :: escaped lines 0 t

/-- A text between marks that may enclose lines: a text of several lines begins on a new one. -/
def enclose (marks t body : List Char) : List Char :=
  marks ++ (if t.contains '\n' then ['\n'] else []) ++ body ++ marks

def Quotes.write (t : List Char) : Quotes → List Char
  | basic => '"' :: (escaped false 0 t ++ ['"'])
  | literal => '\'' :: (t ++ ['\''])
  | basicLines => enclose ['"', '"', '"'] t (escaped true 0 t)
  | literalLines => enclose ['\'', '\'', '\''] t t

def quoted (s : String) : String := String.ofList ((Quotes.ofText s.toList).write s.toList)

/-! ## Documents -/

inductive Scalar where
  | string (text : String)
  | integer (value : Int)

def Scalar.toText : Scalar → String
  | string s => quoted s
  | integer i => toString i

/-- A group of pairs, under a header if it has a name. -/
structure Section where
  name : Option String := none
  pairs : List (String × Scalar) := []

namespace Section

def toText (s : Section) : String :=
  (s.name.elim "" fun name => "[" ++ name ++ "]\n") ++
    String.join (s.pairs.map fun p => p.1 ++ " = " ++ p.2.toText ++ "\n")

def isEmpty (s : Section) : Bool := s.name.isNone && s.pairs.isEmpty

end Section

/-- A document: its sections with blank lines between them. -/
def document (sections : List Section) : String :=
  "\n".intercalate ((sections.filter fun s => !s.isEmpty).map Section.toText)

end NoteSearch.Toml
