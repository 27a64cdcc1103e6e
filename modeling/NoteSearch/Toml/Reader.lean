-- SUMMARY: Reading TOML 1.0 documents.
import NoteSearch.Toml.Item
import NoteSearch.Text.Hex
import NoteSearch.Text.Numeral
import NoteSearch.Text.Pieces
import NoteSearch.Calendar.Date

/-!
# Reading TOML

The reader follows the grammar of TOML 1.0. Every function takes the text from where it stands
and gives what it has read with the rest of the text, or fails. Values may nest 79 deep, and a
dotted key may have 79 parts.
-/

namespace NoteSearch.Toml.Reader

/-- What has been read, with the rest of the text. -/
abbrev Parsed (α : Type) := α × List Char

/-! ## Characters -/

/-- Blanks inside a line. -/
def isBlank (c : Char) : Bool := c == ' ' || c == '\t'

/-- Characters of comments and of literal strings, the apostrophe included. -/
def isPlain (c : Char) : Bool := c == '\t' || (0x20 ≤ c.toNat && c.toNat ≠ 0x7F)

def skipBlanks (t : List Char) : List Char := t.dropWhile isBlank

def lineEnd? : List Char → Option (List Char)
  | '\n' :: t => some t
  | '\r' :: '\n' :: t => some t
  | _ => none

def skipComment : List Char → List Char
  | '#' :: t => t.dropWhile isPlain
  | t => t

/-- Skips what may follow at the end of a line: blanks, a comment and the end of the line or of
the text. -/
def lineRest? (t : List Char) : Option (List Char) :=
  match skipComment (skipBlanks t) with
  | [] => some []
  | t => lineEnd? t

/-- Skips blanks, ends of lines and comments. -/
def skipTrivia (inComment : Bool) : List Char → List Char
  | [] => []
  | '\n' :: t => skipTrivia false t
  | '\r' :: '\n' :: t => skipTrivia false t
  | c :: t =>
    if inComment then if isPlain c then skipTrivia true t else c :: t
    else if isBlank c then skipTrivia false t
    else if c = '#' then skipTrivia true t
    else c :: t

/-- The value of digits in a base of at most sixteen. -/
def digitsValue? (base : Nat) (digits : List Char) : Option Nat :=
  digits.foldlM (fun n c => do
    let d ← Text.hexValue? c
    if d < base then some (n * base + d) else none) 0

/-- The character with a code point, if there is one. -/
def scalar? (n : Nat) : Option Char := if n.isValidChar then some (Char.ofNat n) else none

/-! ## Strings -/

def shortEscape? : Char → Option Char
  | 'b' => some '\x08'
  | 't' => some '\t'
  | 'n' => some '\n'
  | 'f' => some '\x0c'
  | 'r' => some '\r'
  | '"' => some '"'
  | '\\' => some '\\'
  | _ => none

def hexEscape? (digits : List Char) : Option Char := (digitsValue? 16 digits).bind scalar?

def basic? : List Char → Option (Parsed (List Char))
  | '"' :: t => some ([], t)
  | '\\' :: 'u' :: a :: b :: c :: d :: t => do
    let x ← hexEscape? [a, b, c, d]
    let (s, t) ← basic? t
    some (x :: s, t)
  | '\\' :: 'U' :: a :: b :: c :: d :: e :: f :: g :: h :: t => do
    let x ← hexEscape? [a, b, c, d, e, f, g, h]
    let (s, t) ← basic? t
    some (x :: s, t)
  | '\\' :: e :: t => do
    let x ← shortEscape? e
    let (s, t) ← basic? t
    some (x :: s, t)
  | c :: t => do
    if isPlain c ∧ c ≠ '\\' then
      let (s, t) ← basic? t
      some (c :: s, t)
    else none
  | [] => none

def endsLine (t : List Char) : Bool := (lineEnd? (skipBlanks t)).isSome

/-- Reads a basic string of several lines behind its opening quotes. Behind a backslash at the
end of a line, blanks and ends of lines are skipped. -/
def basicLines? (skipping : Bool) : List Char → Option (Parsed (List Char))
  | '"' :: '"' :: '"' :: '"' :: '"' :: t => some (['"', '"'], t)
  | '"' :: '"' :: '"' :: '"' :: t => some (['"'], t)
  | '"' :: '"' :: '"' :: t => some ([], t)
  | '\r' :: '\n' :: t =>
    if skipping then basicLines? true t
    else do
      let (s, t) ← basicLines? false t
      some ('\n' :: s, t)
  | '\\' :: 'u' :: a :: b :: c :: d :: t => do
    let x ← hexEscape? [a, b, c, d]
    let (s, t) ← basicLines? false t
    some (x :: s, t)
  | '\\' :: 'U' :: a :: b :: c :: d :: e :: f :: g :: h :: t => do
    let x ← hexEscape? [a, b, c, d, e, f, g, h]
    let (s, t) ← basicLines? false t
    some (x :: s, t)
  | '\\' :: e :: t =>
    if endsLine (e :: t) then basicLines? true (e :: t)
    else do
      let x ← shortEscape? e
      let (s, t) ← basicLines? false t
      some (x :: s, t)
  | c :: t =>
    if skipping ∧ (isBlank c ∨ c = '\n') then basicLines? true t
    else if c = '\n' ∨ (isPlain c ∧ c ≠ '\\') then do
      let (s, t) ← basicLines? false t
      some (c :: s, t)
    else none
  | [] => none

def literal? : List Char → Option (Parsed (List Char))
  | '\'' :: t => some ([], t)
  | c :: t => do
    if isPlain c then
      let (s, t) ← literal? t
      some (c :: s, t)
    else none
  | [] => none

/-- Reads a literal string of several lines behind its opening quotes. -/
def literalLines? : List Char → Option (Parsed (List Char))
  | '\'' :: '\'' :: '\'' :: '\'' :: '\'' :: t => some (['\'', '\''], t)
  | '\'' :: '\'' :: '\'' :: '\'' :: t => some (['\''], t)
  | '\'' :: '\'' :: '\'' :: t => some ([], t)
  | '\r' :: '\n' :: t => do
    let (s, t) ← literalLines? t
    some ('\n' :: s, t)
  | c :: t => do
    if c = '\n' ∨ isPlain c then
      let (s, t) ← literalLines? t
      some (c :: s, t)
    else none
  | [] => none

/-- The text behind the end of a line, if it stands at the start. -/
def dropLineEnd (t : List Char) : List Char := (lineEnd? t).getD t

def string? : List Char → Option (Parsed (List Char))
  | '"' :: '"' :: '"' :: t => basicLines? false (dropLineEnd t)
  | '"' :: t => basic? t
  | '\'' :: '\'' :: '\'' :: t => literalLines? (dropLineEnd t)
  | '\'' :: t => literal? t
  | _ => none

/-! ## Keys -/

def isKeyChar (c : Char) : Bool := c.isAlphanum || c == '-' || c == '_'

def keyPart? : List Char → Option (Parsed String)
  | '"' :: t => (basic? t).map fun (s, t) => (String.ofList s, t)
  | '\'' :: t => (literal? t).map fun (s, t) => (String.ofList s, t)
  | t =>
    match t.takeWhile isKeyChar with
    | [] => none
    | s => some (String.ofList s, t.dropWhile isKeyChar)

/-- The least number of parts that a key must not have, and the least depth of nesting that a
value must not reach. -/
def limit : Nat := 80

def key? : (most : Nat) → List Char → Option (Parsed (List String))
  | 0, _ => none
  | most + 1, t => do
    let (part, t) ← keyPart? (skipBlanks t)
    match skipBlanks t with
    | '.' :: t =>
      let (parts, t) ← key? most t
      some (part :: parts, t)
    | t => some ([part], t)

/-! ## Numbers -/

/-- Reads digits, between which single underscores may stand. The digits come without the
underscores. -/
def digits? (isDigit : Char → Bool) : List Char → Option (Parsed (List Char))
  | c :: '_' :: t => do
    if isDigit c then
      let (s, t) ← digits? isDigit t
      some (c :: s, t)
    else none
  | c :: d :: t => do
    if isDigit c then
      if isDigit d then
        let (s, t) ← digits? isDigit (d :: t)
        some (c :: s, t)
      else some ([c], d :: t)
    else none
  | [c] => if isDigit c then some ([c], []) else none
  | [] => none

/-- Reads decimal digits; a leading zero stands alone. -/
def decimalDigits? (t : List Char) : Option (Parsed (List Char)) :=
  match t with
  | '0' :: t => some (['0'], t)
  | t => digits? Char.isDigit t

def sign : List Char → Bool × List Char
  | '-' :: t => (true, t)
  | '+' :: t => (false, t)
  | t => (false, t)

def decimal (digits : List Char) : Nat := Nat.ofDigitChars 10 digits 0

/-- The integer with this sign and magnitude, if it fits 64 bits. -/
def word? (negative : Bool) (magnitude : Nat) : Option Item :=
  let value : Int := if negative then -(magnitude : Int) else magnitude
  if Int64.minValue.toInt ≤ value ∧ value ≤ Int64.maxValue.toInt then some (.integer value)
  else none

/-- Reads the digits of an integer in a base other than ten. -/
def inBase? (base : Nat) (t : List Char) : Option (Parsed Item) := do
  let isDigit := fun c => (digitsValue? base [c]).isSome
  let (digits, t) ← digits? isDigit t
  let n ← digitsValue? base digits
  some (← word? false n, t)

def integer? : List Char → Option (Parsed Item)
  | '0' :: 'x' :: t => inBase? 16 t
  | '0' :: 'o' :: t => inBase? 8 t
  | '0' :: 'b' :: t => inBase? 2 t
  | t => do
    let (negative, t) := sign t
    let (digits, t) ← decimalDigits? t
    some (← word? negative (decimal digits), t)

def fraction? : List Char → Option (Parsed (List Char))
  | '.' :: t => digits? Char.isDigit t
  | _ => none

def exponentDigits? (t : List Char) : Option (Parsed Int) :=
  let (down, t) := sign t
  (digits? Char.isDigit t).map fun (digits, t) =>
    (if down then -(decimal digits : Int) else decimal digits, t)

def exponent? : List Char → Option (Parsed Int)
  | 'e' :: t => exponentDigits? t
  | 'E' :: t => exponentDigits? t
  | _ => none

/-- The least magnitude that is rounded to infinity. -/
def overflow : Nat := Nat.pow 2 1024 - Nat.pow 2 970

/-- Whether `n` times ten to the `power` is rounded to infinity. Only numbers with 309 digits
before the point need a look at all of them. -/
def overflows (n : Nat) (power : Int) : Bool :=
  let size : Int := (Nat.toDigits 10 n).length + power
  if n = 0 ∨ size < 309 then false
  else if 309 < size then true
  else if 0 ≤ power then overflow ≤ n * Nat.pow 10 power.toNat
  else overflow * Nat.pow 10 (-power).toNat ≤ n

/-- Reads a floating-point number with digits. A positive one may not overflow. -/
def float? (t : List Char) : Option (Parsed Item) := do
  let (negative, t) := sign t
  let (whole, t) ← decimalDigits? t
  let (fraction, power, t) ←
    match exponent? t with
    | some (power, t) => some ([], power, t)
    | none => do
      let (fraction, t) ← fraction? t
      match t with
      | 'e' :: _ | 'E' :: _ =>
        let (power, t) ← exponent? t
        some (fraction, power, t)
      | _ => some (fraction, 0, t)
  if !negative && overflows (decimal (whole ++ fraction)) (power - fraction.length) then none
  else some (.float (whole ++ fraction), t)

/-- Reads infinity or "not a number". -/
def special? (t : List Char) : Option (Parsed Item) :=
  match (sign t).2 with
  | 'i' :: 'n' :: 'f' :: t => some (.float ['i', 'n', 'f'], t)
  | 'n' :: 'a' :: 'n' :: t => some (.float ['n', 'a', 'n'], t)
  | _ => none

/-! ## Days and times -/

/-- Reads two digits of a value between two bounds. -/
def twoDigits? (least most : Nat) (t : List Char) : Option (Parsed Nat) := do
  let (n, t) ← Text.fixedNumeral? 2 t
  if least ≤ n ∧ n ≤ most then some (n, t) else none

def day? (t : List Char) : Option (List Char) := do
  let (year, t) ← Text.fixedNumeral? 4 t
  let t ← Text.expect? '-' t
  let (month, t) ← twoDigits? 1 12 t
  let t ← Text.expect? '-' t
  let (_, t) ← twoDigits? 1 (Calendar.daysInMonth year month) t
  some t

def secondFraction? : List Char → Option (List Char)
  | '.' :: t => if (t.takeWhile Char.isDigit).isEmpty then none else some (t.dropWhile Char.isDigit)
  | t => some t

def time? (t : List Char) : Option (List Char) := do
  let (_, t) ← twoDigits? 0 23 t
  let t ← Text.expect? ':' t
  let (_, t) ← twoDigits? 0 59 t
  let t ← Text.expect? ':' t
  let (_, t) ← twoDigits? 0 60 t
  some ((secondFraction? t).getD t)

/-- Skips the hours and minutes of an offset. -/
def offsetDigits? (t : List Char) : Option (List Char) := do
  let (_, t) ← twoDigits? 0 23 t
  let t ← Text.expect? ':' t
  let (_, t) ← twoDigits? 0 59 t
  some t

/-- Skips an offset from universal time, if there is one. -/
def offset? : List Char → Option (List Char)
  | 'Z' :: t => some t
  | 'z' :: t => some t
  | '+' :: t => offsetDigits? t
  | '-' :: t => offsetDigits? t
  | t => some t

def timeOfDay? (t : List Char) : Option (List Char) :=
  match t with
  | 'T' :: u => (time? u).bind offset?
  | 't' :: u => (time? u).bind offset?
  | ' ' :: u =>
    match u with
    | a :: b :: ':' :: _ =>
      if a.isDigit ∧ b.isDigit then (time? u).bind offset? else some t
    | _ => some t
  | _ => some t

/-- Reads a day, a time or both. -/
def moment? (t : List Char) : Option (Parsed Item) := do
  let rest ← ((day? t).bind timeOfDay?) <|> time? t
  some (.moment (t.take (t.length - rest.length)), rest)

/-! ## Values -/

/-- Reads the items of an array up to its closing bracket. -/
def items? (item? : List Char → Option (Parsed Item)) :
    (fuel : Nat) → List Char → Option (Parsed (List Item))
  | 0, _ => none
  | fuel + 1, t =>
    match skipTrivia false t with
    | ']' :: t => some ([], t)
    | t => do
      let (item, t) ← item? t
      match skipTrivia false t with
      | ']' :: t => some ([item], t)
      | ',' :: t =>
        let (items, t) ← items? item? fuel t
        some (item :: items, t)
      | _ => none

def splitKey? (parts : List String) : Option (List String × String) :=
  parts.getLast?.map fun last => (parts.dropLast, last)

def pair? (item? : List Char → Option (Parsed Item)) (t : List Char) :
    Option (Parsed (List String × String × Item)) := do
  let (parts, t) ← key? (limit - 1) t
  let (path, key) ← splitKey? parts
  let t ← Text.expect? '=' t
  let (item, t) ← item? (skipBlanks t)
  some ((path, key, item), t)

/-- Reads the pairs between braces up to the closing one. -/
def pairs? (item? : List Char → Option (Parsed Item)) :
    (fuel : Nat) → List Char → Option (Parsed (List (List String × String × Item)))
  | 0, _ => none
  | fuel + 1, t => do
    let (pair, t) ← pair? item? t
    match skipBlanks t with
    | '\x7d' :: t => some ([pair], t)
    | ',' :: t =>
      let (pairs, t) ← pairs? item? fuel t
      some (pair :: pairs, t)
    | _ => none

/-- Reads a table between braces, behind the opening one. -/
def braces? (item? : List Char → Option (Parsed Item)) (t : List Char) : Option (Parsed Item) :=
  match skipBlanks t with
  | '\x7d' :: t => some (.braces [], t)
  | _ => do
    let (pairs, t) ← pairs? item? t.length t
    let table ← Table.ofPairs? pairs
    some (.braces table.entries, t)

/-- Reads a value that contains no other. -/
def scalarItem? (t : List Char) : Option (Parsed Item) :=
  match t with
  | '"' :: _ | '\'' :: _ => (string? t).map fun (s, t) => (.string (String.ofList s), t)
  | 't' :: 'r' :: 'u' :: 'e' :: t => some (.boolean true, t)
  | 'f' :: 'a' :: 'l' :: 's' :: 'e' :: t => some (.boolean false, t)
  | t => moment? t <|> float? t <|> special? t <|> integer? t

/-- Reads a value whose arrays and tables nest at most `depth` deep. -/
def item? : (depth : Nat) → List Char → Option (Parsed Item)
  | depth + 1, '[' :: t => (items? (item? depth) (t.length + 1) t).map fun (l, t) => (.array l, t)
  | depth + 1, '\x7b' :: t => braces? (item? depth) t
  | _, t => scalarItem? t

/-! ## Documents -/

def pairLine? (d : Draft) (t : List Char) : Option (Parsed Draft) := do
  let ((path, key, item), t) ← pair? (item? (limit - 1)) t
  let t ← lineRest? t
  some (← d.addPair? path key item, t)

def header? (d : Draft) : List Char → Option (Parsed Draft)
  | '[' :: t => do
    let (path, t) ← key? (limit - 1) t
    let t ← Text.expect? ']' t
    let t ← Text.expect? ']' t
    let t ← lineRest? t
    some (← d.openRepeated? path, t)
  | t => do
    let (path, t) ← key? (limit - 1) t
    let t ← Text.expect? ']' t
    let t ← lineRest? t
    some (← d.openTable? path, t)

def lines? : (fuel : Nat) → Draft → List Char → Option Table
  | 0, _, _ => none
  | fuel + 1, d, t =>
    match skipBlanks t with
    | [] => d.close?
    | '#' :: t => (lineRest? ('#' :: t)).bind (lines? fuel d)
    | '\n' :: t => lines? fuel d t
    | '\r' :: '\n' :: t => lines? fuel d t
    | '[' :: t => (header? d t).bind fun (d, t) => lines? fuel d t
    | t => (pairLine? d t).bind fun (d, t) => lines? fuel d t

end Reader

def Table.ofText? (s : String) : Option Table :=
  let t := Text.dropMark s.toList
  Reader.lines? (t.length + 1) {} t

end NoteSearch.Toml
