-- SUMMARY: JSON documents as trees that keep what is written: literals, order and repeated names.
import NoteSearch.Json.Token
import NoteSearch.Text.Utf8

/-!
# Documents

A document is kept as written: numbers as literals, members in order and with repetitions, and
strings that spell no text as such. `read?` builds the tree of a text with a machine that takes
one token at a time and holds the open containers on a stack, so nesting has no bound here;
readers of single values set their own.
-/

namespace NoteSearch.Json

/-- A JSON document as written. -/
inductive Tree where
  | null
  | bool (value : Bool)
  | number (literal : Number)
  | string (text? : Option String)
  | array (items : List Tree)
  /-- The members in order, each with the text of its name if it spells one. -/
  | object (members : List (Option String × Tree))
  deriving Inhabited

namespace Tree

/-! ## The machine -/

/-- A container that is still open. -/
inductive Frame where
  /-- An array with the items read so far, the latest first. -/
  | array (before : List Tree)
  /-- An object with the members read so far, the latest first, and the name of the member being
  read. -/
  | object (before : List (Option String × Tree)) (name : Option String)

/-- What the machine has read last, with the open containers, the innermost first. -/
inductive State where
  /-- A value must follow. -/
  | value (stack : List Frame)
  /-- An array has been opened. -/
  | firstItem (stack : List Frame)
  /-- An object has been opened. -/
  | firstName (stack : List Frame)
  /-- A comma between members has been read. -/
  | nextName (stack : List Frame) (before : List (Option String × Tree))
  /-- The name of a member has been read. -/
  | colon (stack : List Frame) (before : List (Option String × Tree)) (name : Option String)
  /-- A value is complete. -/
  | done (stack : List Frame) (value : Tree)

/-- Takes a token where a value must follow. -/
def State.begin (stack : List Frame) : Token → Option State
  | .null => some (.done stack .null)
  | .bool b => some (.done stack (.bool b))
  | .number n => some (.done stack (.number n))
  | .string s => some (.done stack (.string s))
  | .openArray => some (.firstItem stack)
  | .openObject => some (.firstName stack)
  | _ => none

/-- Takes a token behind a complete value. -/
def State.resume : List Frame → Tree → Token → Option State
  | .array before :: stack, v, .comma => some (.value (.array (v :: before) :: stack))
  | .array before :: stack, v, .closeArray => some (.done stack (.array (v :: before).reverse))
  | .object before name :: stack, v, .comma => some (.nextName stack ((name, v) :: before))
  | .object before name :: stack, v, .closeObject =>
    some (.done stack (.object ((name, v) :: before).reverse))
  | _, _, _ => none

def State.step : State → Token → Option State
  | .value stack, k => State.begin stack k
  | .firstItem stack, .closeArray => some (.done stack (.array []))
  | .firstItem stack, k => State.begin (.array [] :: stack) k
  | .firstName stack, .closeObject => some (.done stack (.object []))
  | .firstName stack, .string name => some (.colon stack [] name)
  | .nextName stack before, .string name => some (.colon stack before name)
  | .colon stack before name, .colon => some (.value (.object before name :: stack))
  | .done stack v, k => State.resume stack v k
  | _, _ => none

def State.run : State → List Token → Option State
  | s, [] => some s
  | s, k :: ks =>
    match s.step k with
    | some s => s.run ks
    | none => none

def State.result? : State → Option Tree
  | .done [] v => some v
  | _ => none

def ofTokens? (ks : List Token) : Option Tree := (State.run (.value []) ks).bind State.result?

def read? (t : List Char) : Option Tree := (Token.tokens? t).bind ofTokens?

def ofText? (s : String) : Option Tree := read? s.toList

/-! ## Reading bytes -/

/-- Two halves of surrogate pairs that cannot be taken for one pair. A string that has them spells
no text. -/
def halves : List Char := ['\\', 'u', 'd', '8', '0', '0', '\\', 'u', 'd', '8', '0', '0']

/-- The text of characters with gaps, where it is known whether an open backslash stands in front. A
gap may stand in a string that is passed over, and nowhere else; so may halves of surrogate pairs,
which are put in its place. Behind an open backslash they would be read otherwise; there it becomes
a character that ends no escape. -/
def mended : Bool → List (Option Char) → List Char
  | _, [] => []
  | escaped, some c :: t => c :: mended (c == '\\' && !escaped) t
  | true, none :: t => '\x00' :: mended false t
  | false, none :: t => halves ++ mended false t

/-- The document in bytes. Outside of strings that are passed over, they have to be UTF-8. -/
def ofBytes? (bytes : List UInt8) : Option Tree := read? (mended false (Text.Utf8.read none bytes))

/-! ## Writing -/

/-- One character of a string as written: quotes, backslashes and control characters are
escaped. -/
def writeChar (c : Char) : List Char :=
  if c = '"' then ['\\', '"']
  else if c = '\\' then ['\\', '\\']
  else if c = '\x08' then ['\\', 'b']
  else if c = '\t' then ['\\', 't']
  else if c = '\n' then ['\\', 'n']
  else if c = '\x0c' then ['\\', 'f']
  else if c = '\r' then ['\\', 'r']
  else if c.toNat < 0x20 then
    ['\\', 'u', '0', '0', Text.lowerHex (c.toNat / 16), Text.lowerHex (c.toNat % 16)]
  else [c]

/-- A string with its quotes. A string that spells no text is written as an empty one. -/
def writeString (text? : Option String) : List Char :=
  '"' :: ((text?.getD "").toList.flatMap writeChar ++ ['"'])

def writeNumber (n : Number) : List Char :=
  (if n.negative then ['-'] else []) ++ n.whole ++
    (match n.fraction with
      | some digits => '.' :: digits
      | none => []) ++
    (match n.exponent with
      | some (true, digits) => 'e' :: '-' :: digits
      | some (false, digits) => 'e' :: digits
      | none => [])

mutual
/-- A document without blanks. -/
def write : Tree → List Char
  | null => "null".toList
  | bool true => "true".toList
  | bool false => "false".toList
  | number n => writeNumber n
  | string s => writeString s
  | array items => '[' :: (writeItems items ++ [']'])
  | object members => '\x7b' :: (writeMembers members ++ ['\x7d'])

/-- Items with commas between them. -/
def writeItems : List Tree → List Char
  | [] => []
  | [item] => write item
  | item :: next :: rest => write item ++ ',' :: writeItems (next :: rest)

/-- Members with commas between them. -/
def writeMembers : List (Option String × Tree) → List Char
  | [] => []
  | [(name, value)] => writeString name ++ ':' :: write value
  | (name, value) :: next :: rest =>
    writeString name ++ ':' :: (write value ++ ',' :: writeMembers (next :: rest))
end

def toText (tree : Tree) : String := String.ofList tree.write

end Tree

end NoteSearch.Json
