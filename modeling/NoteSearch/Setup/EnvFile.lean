-- SUMMARY: Files of environment variables: their lines, quotes, escapes and substitutions.
import NoteSearch.Files.Volume
import NoteSearch.Setup.Variables
import NoteSearch.Text.Alphanumeric

/-!
# Files of variables

A file of variables holds lines `name=value`. Values may be quoted, and a quoted value may run
over several lines. Outside apostrophes a backslash escapes and `$name` stands for the text of a
variable. Reading stops at the first line that is malformed; the lines before it count. A
variable that is set already keeps its text.
-/

namespace NoteSearch.EnvFile

open Files

/-! ## Lines -/

/-- Cuts a text behind every end of a line. -/
def rows : List Char → List (List Char)
  | [] => []
  | '\n' :: t => ['\n'] :: rows t
  | c :: t =>
    match rows t with
    | [] => [[c]]
    | row :: rest => (c :: row) :: rest

/-- Where a line stands, as far as quotes, escapes and comments go. -/
inductive Quoting where
  | plain
  /-- Just behind a blank, where a comment may begin. -/
  | blank
  | escape
  | weak
  | weakEscape
  | strong
  | strongEscape
  | comment
  deriving DecidableEq

namespace Quoting

/-- The effect of a character that begins a quote or an escape, outside of both. -/
def enter (c : Char) : Quoting :=
  if c = '\\' then escape
  else if c = '"' then weak
  else if c = '\'' then strong
  else plain

def step : Quoting → Char → Quoting
  | plain, c => if Text.isBlank c ∧ c ≠ '\n' ∧ c ≠ '\r' then blank else enter c
  | blank, c => if c = '#' then comment else enter c
  | escape, _ => plain
  | weak, c => if c = '\\' then weakEscape else if c = '"' then plain else weak
  | weakEscape, _ => weak
  | strong, c => if c = '\\' then strongEscape else if c = '\'' then plain else strong
  | strongEscape, _ => strong
  | comment, _ => comment

/-- The part of a row before its comment, and where the row ends. -/
def scan : Quoting → List Char → List Char × Quoting
  | q, [] => ([], q)
  | q, c :: t =>
    match q.step c with
    | comment => ([], comment)
    | q => ((c :: (scan q t).1), (scan q t).2)

end Quoting

def dropLineEnd (row : List Char) : List Char :=
  match row.reverse with
  | '\n' :: '\r' :: t => t.reverse
  | '\n' :: t => t.reverse
  | _ => row

/-- Joins the rows of quoted values into lines. A line that is still open at the end of the text
is malformed; being the last one, it is left out. -/
def joinRows (before : List Char) (q : Quoting) : List (List Char) → List (List Char)
  | [] => []
  | row :: rest =>
    if (Text.trimStart (before ++ row)).head? = some '#' then [] :: joinRows [] .plain rest
    else
      match q.scan row with
      | (part, .comment) => (before ++ part) :: joinRows [] .plain rest
      | (part, .plain) => dropLineEnd (before ++ part) :: joinRows [] .plain rest
      | (part, q) => joinRows (before ++ part) q rest

def lines (t : List Char) : List (List Char) := joinRows [] .plain (rows t)

/-! ## Values -/

/-- Where a value stands. The flag tells whether the place is between quotation marks. -/
inductive Mode where
  | text (quoted : Bool)
  | strong
  | escape (quoted : Bool)
  /-- In the name behind a dollar sign. -/
  | name (quoted : Bool) (name : List Char)
  /-- In the name between braces behind a dollar sign. -/
  | braced (quoted : Bool) (name : List Char)
  /-- Behind a value that has ended; only a comment may follow. -/
  | ended

/-- The character that an escape stands for. -/
def unescape? (c : Char) : Option Char :=
  if c = 'n' then some '\n'
  else if c = '\\' ∨ c = '\'' ∨ c = '"' ∨ c = '$' ∨ c = ' ' then some c
  else none

/-- The text of a value, if it is well formed. -/
def value? (find : List Char → List Char) : Mode → List Char → Option (List Char)
  | .text quoted, [] => if quoted then none else some []
  | .strong, [] => none
  | .escape quoted, [] => if quoted then none else some []
  | .name quoted name, [] => if quoted then none else some (find name)
  | .braced _ _, [] => none
  | .ended, [] => some []
  | .ended, c :: t =>
    if c = ' ' ∨ c = '\t' then value? find .ended t else if c = '#' then some [] else none
  | .escape quoted, c :: t => do
    let x ← unescape? c
    let s ← value? find (.text quoted) t
    some (x :: s)
  | .strong, c :: t =>
    if c = '\'' then value? find (.text false) t else (value? find .strong t).map (c :: ·)
  | .name quoted name, c :: t =>
    if Text.isAlphanumeric c then value? find (.name quoted (name ++ [c])) t
    else if c = '\x7b' ∧ name = [] then value? find (.braced quoted []) t
    else if c = '$' then (value? find (.name quoted []) t).map (find name ++ ·)
    else (value? find (.text quoted) t).map fun s => find name ++ c :: s
  | .braced quoted name, c :: t =>
    if c = '\x7d' then (value? find (.text quoted) t).map (find name ++ ·)
    else value? find (.braced quoted (name ++ [c])) t
  | .text quoted, c :: t =>
    if c = '$' then value? find (.name quoted []) t
    else if c = '\\' then value? find (.escape quoted) t
    else if c = '"' then value? find (.text !quoted) t
    else if quoted then (value? find (.text true) t).map (c :: ·)
    else if c = '\'' then value? find .strong t
    else if c = ' ' ∨ c = '\t' then value? find .ended t
    else (value? find (.text false) t).map (c :: ·)

/-! ## Pairs -/

def isNameStart (c : Char) : Bool := c.isAlpha || c == '_'

def isNameChar (c : Char) : Bool := c.isAlphanum || c == '_' || c == '.'

def name? (t : List Char) : Option (List Char × List Char) :=
  match t with
  | c :: _ =>
    if isNameStart c then
      some (t.takeWhile isNameChar, Text.trimStart (t.dropWhile isNameChar))
    else none
  | [] => none

def equals? : List Char → Option (List Char)
  | '=' :: t => some t
  | _ => none

/-- Reads a name and the equals sign behind it. The word `export` may stand in front; before an
equals sign it is a name itself. -/
def target? (t : List Char) : Option (List Char × List Char) := do
  let (name, t) ← name? t
  match equals? t with
  | some t => some (name, t)
  | none =>
    if name = "export".toList then
      let (name, t) ← name? t
      some (name, ← equals? t)
    else none

inductive Line where
  | nothing
  | pair (name value : String)
  | malformed

def Line.read (find : List Char → List Char) (line : List Char) : Line :=
  match Text.trim line with
  | [] => nothing
  | '#' :: _ => nothing
  | t =>
    match target? t with
    | none => malformed
    | some (name, t) =>
      match Text.trimStart t with
      | [] => pair (String.ofList name) ""
      | '#' :: _ => pair (String.ofList name) ""
      | t =>
        match value? find (.text false) t with
        | none => malformed
        | some value => pair (String.ofList name) (String.ofList value)

/-! ## Files -/

/-- The text of a variable: of the environment first, then of the lines before. -/
def find (vars : Variables) (defined : List (String × String)) (name : List Char) : List Char :=
  let name := String.ofList name
  (((vars.get? name).or (defined.lookup name)).getD "").toList

def setLines (vars : Variables) (defined : List (String × String)) :
    List (List Char) → Variables
  | [] => vars
  | line :: rest =>
    match Line.read (find vars defined) line with
    | .nothing => setLines vars defined rest
    | .malformed => vars
    | .pair name value => setLines (vars.setNew name value) ((name, value) :: defined) rest

/-- Sets the variables of a file, as far as they are not set. -/
def apply (text : String) (vars : Variables) : Variables :=
  setLines vars [] (lines (Text.dropMark text.toList))

/-- The text of the file of variables for a directory: its own, or that of the nearest directory
above it. The names come in reverse order. -/
def search? (v : Volume) : List String → Option String
  | [] =>
    match v.find? [".env"] with
    | some (.file text) => some text
    | _ => none
  | name :: above =>
    match v.find? ((".env" :: name :: above).reverse) with
    | some (.file text) => some text
    | _ => search? v above

/-- Sets the variables of the file for the working directory, if there is one. -/
def load (v : Volume) (vars : Variables) : Variables :=
  match search? v v.workingDirectory.reverse with
  | some text => apply text vars
  | none => vars

end NoteSearch.EnvFile
