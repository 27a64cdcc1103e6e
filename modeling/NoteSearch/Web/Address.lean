-- SUMMARY: Addresses of the web: how they are read, and how they are sent.
import NoteSearch.Text.Pieces
import NoteSearch.Web.Form

/-!
# Addresses

An address names a server, a path and perhaps a query. It is read leniently: line breaks and tabs
do not count, a backslash is as good as a slash, and characters that an address may not hold are
sent as bytes behind percent signs. The parts of a path that go up or stay are followed at once,
so the path of an address goes straight down.
-/

namespace NoteSearch.Web

/-- An address. Its texts are written as they are sent. -/
structure Address where
  scheme : String
  authority : String
  path : String
  query : Option String := none
  fragment : Option String := none
  deriving DecidableEq, Inhabited

namespace Address

/-! ## Characters -/

/-- Whether a character in the text of an address does not count. -/
def isSkipped (c : Char) : Bool := c == '\t' || c == '\n' || c == '\r'

/-- Whether a character around an address does not count. -/
def isMargin (c : Char) : Bool := c.toNat ≤ 0x20

def significant (t : List Char) : List Char :=
  ((t.dropWhile isMargin).reverse.dropWhile isMargin).reverse.filter (!isSkipped ·)

/-- Whether a character separates the parts of a path. -/
def isSlash (c : Char) : Bool := c == '/' || c == '\\'

/-- The bytes of a text as they are sent: behind percent signs if they are not visible ASCII, or
stand for one of the characters in `escaped`. -/
def encode (escaped : List Char) (t : List Char) : List Char :=
  (t.flatMap String.utf8EncodeChar).flatMap fun b =>
    if 0x20 < b && b < 0x7F && !escaped.contains (Char.ofNat b.toNat) then [Char.ofNat b.toNat]
    else Form.percent b

/-- The visible characters that a path may not hold. -/
def escapedInPath : List Char := ['"', '#', '<', '>', '?', '\x60', '\x7b', '\x7d']

/-- The visible characters that a query may not hold. -/
def escapedInQuery : List Char := ['"', '#', '\'', '<', '>']

/-- The visible characters that a fragment may not hold. -/
def escapedInFragment : List Char := ['"', '<', '>', '\x60']

/-! ## Paths -/

/-- A part of a path with its dots written as dots. -/
def dotted : List Char → List Char
  | '%' :: '2' :: 'e' :: t => '.' :: dotted t
  | '%' :: '2' :: 'E' :: t => '.' :: dotted t
  | c :: t => c :: dotted t
  | [] => []

def staysHere (part : List Char) : Bool := dotted part == ['.']

def goesUp (part : List Char) : Bool := dotted part == ['.', '.']

/-- Follows the parts of a path from the parts that lead here, the nearest one first. A path that
ends by going up or staying ends with a slash. -/
def follow : List String → List (List Char) → List String
  | here, [] => here.reverse
  | here, part :: rest =>
    let next :=
      if goesUp part then here.tail
      else if staysHere part then here
      else String.ofList (encode escapedInPath part) :: here
    if rest.isEmpty && (goesUp part || staysHere part) then ("" :: next).reverse
    else follow next rest

def pathOf : List Char → String
  | [] => "/"
  | _ :: t => "/" ++ "/".intercalate (follow [] (Text.pieces isSlash t))

/-! ## Servers -/

def portOf (host : List Char) : List Char :=
  match host with
  | '[' :: t => (t.dropWhile (· != ']')).tail
  | t => t.dropWhile (· != ':')

def isPort : List Char → Bool
  | [] => true
  | ':' :: digits =>
    digits.all Char.isDigit && (digits.isEmpty || Nat.ofDigitChars 10 digits 0 < UInt16.size)
  | _ => false

/-- Whether a text names a server: a host with or without a port, behind the name of a user. -/
def isAuthority (t : List Char) : Bool :=
  let host := (t.reverse.takeWhile (· != '@')).reverse
  host.head?.any (· != ':') && isPort (portOf host)

/-! ## Reading -/

/-- The schemes that lead to a server of the web. -/
def schemes : List String := ["http", "https"]

def ofText? (text : String) : Option Address :=
  let (scheme, t) := (significant text.toList).span (· != ':')
  let scheme := (String.ofList scheme).toLower
  let (authority, t) := (t.tail.dropWhile isSlash).span fun c => !isSlash c && c != '?' && c != '#'
  let (path, t) := t.span fun c => c != '?' && c != '#'
  let (query, fragment) := t.span (· != '#')
  if schemes.contains scheme && isAuthority authority then
    some
      { scheme
        authority := String.ofList authority
        path := pathOf path
        query := if query.isEmpty then none
          else some (String.ofList (encode escapedInQuery query.tail))
        fragment := if fragment.isEmpty then none
          else some (String.ofList (encode escapedInFragment fragment.tail)) }
  else none

def withPairs (a : Address) (pairs : List (String × String)) : Address :=
  if pairs.isEmpty then a
  else
    { a with
      query := some <|
        match a.query with
        | none | some "" => Form.query pairs
        | some query => query ++ "&" ++ Form.query pairs }

/-! ## Writing -/

def marked (mark : String) : Option String → String
  | none => ""
  | some text => mark ++ text

/-- What a server is asked for: the path and the query. -/
def target (a : Address) : String := a.path ++ marked "?" a.query

def toText (a : Address) : String :=
  a.scheme ++ "://" ++ a.authority ++ a.target ++ marked "#" a.fragment

end Address

end NoteSearch.Web
