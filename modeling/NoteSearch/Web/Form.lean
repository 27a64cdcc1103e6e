-- SUMMARY: Queries of addresses: pairs of texts as a form sends them.
import NoteSearch.Text.Hex

/-!
# Form queries

A query is a list of pairs. The bytes of their texts are written as they are if they are letters,
digits or one of `*-._`; a space becomes a plus sign, and every other byte a percent sign with
two hexadecimal digits. So the signs between pairs never occur inside of one.
-/

namespace NoteSearch.Web.Form

/-- Whether a byte stands for itself. -/
def isBare (b : UInt8) : Bool :=
  let c := Char.ofNat b.toNat
  b < 0x80 && (c.isAlphanum || c == '*' || c == '-' || c == '.' || c == '_')

/-- A byte behind a percent sign. -/
def percent (b : UInt8) : List Char :=
  ['%', Text.upperHex (b.toNat / 16), Text.upperHex (b.toNat % 16)]

def encodeByte (b : UInt8) : List Char :=
  if b = 0x20 then ['+'] else if isBare b then [Char.ofNat b.toNat] else percent b

def bytes (s : String) : List UInt8 := s.toList.flatMap String.utf8EncodeChar

def encode (s : String) : List Char := (bytes s).flatMap encodeByte

def encodePair (p : String × String) : String :=
  String.ofList (encode p.1 ++ '=' :: encode p.2)

def query (pairs : List (String × String)) : String := "&".intercalate (pairs.map encodePair)

end NoteSearch.Web.Form
