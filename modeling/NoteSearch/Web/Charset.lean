-- SUMMARY: The text of bytes in the encodings that a content type may name.
import NoteSearch.Text.Utf8
import NoteSearch.Web.CodePage
import NoteSearch.Web.MediaType

/-!
# Encodings

Bytes are read as text in the encoding that the content type names, or else in UTF-8. A byte
order mark wins over both and is dropped. Bytes that spell no character give the replacement
character.

The encodings of East Asia with several bytes for a character have tables of tens of thousands of
characters. They are known by their names, but the tables are not part of this library: what they
make of bytes is a parameter (`Tables`).
-/

namespace NoteSearch.Web

/-- The character in place of bytes that spell none. -/
def replacement : Char := '\uFFFD'

/-- An encoding with a table for characters of several bytes. -/
inductive MultiByte where
  | gbk
  | gb18030
  | big5
  | eucJp
  | iso2022Jp
  | shiftJis
  | eucKr
  deriving DecidableEq, Inhabited

/-- The text of bytes in each of the encodings with tables. -/
abbrev Tables := MultiByte → List UInt8 → List Char

namespace MultiByte

/-- Its names in content types, in lower case. -/
def names : MultiByte → List String
  | gbk =>
    ["chinese", "csgb2312", "csiso58gb231280", "gb2312", "gb_2312", "gb_2312-80", "gbk",
      "iso-ir-58", "x-gbk"]
  | gb18030 => ["gb18030"]
  | big5 => ["big5", "big5-hkscs", "cn-big5", "csbig5", "x-x-big5"]
  | eucJp => ["cseucpkdfmtjapanese", "euc-jp", "x-euc-jp"]
  | iso2022Jp => ["csiso2022jp", "iso-2022-jp"]
  | shiftJis =>
    ["csshiftjis", "ms932", "ms_kanji", "shift-jis", "shift_jis", "sjis", "windows-31j", "x-sjis"]
  | eucKr =>
    ["cseuckr", "csksc56011987", "euc-kr", "iso-ir-149", "korean", "ks_c_5601-1987",
      "ks_c_5601-1989", "ksc5601", "ksc_5601", "windows-949"]

def all : List MultiByte := [gbk, gb18030, big5, eucJp, iso2022Jp, shiftJis, eucKr]

def ofName? (name : String) : Option MultiByte := all.find? (·.names.contains name)

end MultiByte

inductive Charset where
  | utf8
  | utf16 (bigEndian : Bool)
  | page (p : CodePage)
  | multiByte (m : MultiByte)
  /-- The upper half of the bytes stands for characters that have no meaning of their own. -/
  | userDefined
  | withheld
  deriving DecidableEq, Inhabited

namespace Charset

/-! ## UTF-8 -/

def decodeUtf8 (bytes : List UInt8) : List Char :=
  (Text.Utf8.read none bytes).map (·.getD replacement)

/-! ## UTF-16 -/

/-- The text of bytes in UTF-16, behind the first half of a pair. A byte that is left over at
the end spells no character. -/
def decodeUtf16 (bigEndian : Bool) : Option Nat → List UInt8 → List Char
  | none, [] => []
  | some _, [] => [replacement]
  | _, [_] => [replacement]
  | half, a :: b :: t =>
    let unit := if bigEndian then a.toNat * 256 + b.toNat else b.toNat * 256 + a.toNat
    let lost := if half.isSome then [replacement] else []
    if 0xD800 ≤ unit ∧ unit < 0xDC00 then lost ++ decodeUtf16 bigEndian (some unit) t
    else if 0xDC00 ≤ unit ∧ unit < 0xE000 then
      match half with
      | some high =>
        Char.ofNat (0x10000 + (high - 0xD800) * 0x400 + (unit - 0xDC00)) ::
          decodeUtf16 bigEndian none t
      | none => replacement :: decodeUtf16 bigEndian none t
    else lost ++ Char.ofNat unit :: decodeUtf16 bigEndian none t

/-! ## Choice -/

/-- The character of a byte where the upper half is not defined. -/
def decodeUserDefined (b : UInt8) : Char :=
  if b < 0x80 then Char.ofNat b.toNat else Char.ofNat (0xF780 + (b.toNat - 0x80))

def decodeAs (tables : Tables) (bytes : List UInt8) : Charset → List Char
  | utf8 => decodeUtf8 bytes
  | utf16 bigEndian => decodeUtf16 bigEndian none bytes
  | page p => bytes.map p.decode
  | multiByte m => tables m bytes
  | userDefined => bytes.map decodeUserDefined
  | withheld => if bytes.isEmpty then [] else [replacement]

/-- The text of bytes in the encoding of their byte order mark, or else in a given one. -/
def decode (tables : Tables) (charset : Charset) : List UInt8 → String
  | 0xEF :: 0xBB :: 0xBF :: t => String.ofList (decodeAs tables t utf8)
  | 0xFF :: 0xFE :: t => String.ofList (decodeAs tables t (utf16 false))
  | 0xFE :: 0xFF :: t => String.ofList (decodeAs tables t (utf16 true))
  | bytes => String.ofList (decodeAs tables bytes charset)

/-! ## Names -/

/-- The names of UTF-16, the least significant byte first. -/
def littleEndianNames : List String :=
  ["csunicode", "iso-10646-ucs-2", "ucs-2", "unicode", "unicodefeff", "utf-16", "utf-16le"]

def bigEndianNames : List String := ["unicodefffe", "utf-16be"]

def withheldNames : List String :=
  ["csiso2022kr", "hz-gb-2312", "iso-2022-cn", "iso-2022-cn-ext", "iso-2022-kr", "replacement"]

/-- The encoding of a name in lower case, or else UTF-8. -/
def ofName (name : String) : Charset :=
  if littleEndianNames.contains name then utf16 false
  else if bigEndianNames.contains name then utf16 true
  else if withheldNames.contains name then withheld
  else if name = "x-user-defined" then userDefined
  else
    ((MultiByte.ofName? name).map multiByte <|> (CodePage.ofName? name).map page).getD utf8

/-- Whether a character may stand around the name of an encoding. -/
def isPadding (c : Char) : Bool := ['\t', '\n', '\x0C', '\r', ' '].contains c

/-- The name of an encoding without what stands around it, in lower case. -/
def plainName (name : String) : String :=
  let t := (name.toList.dropWhile isPadding).reverse.dropWhile isPadding
  (String.ofList t.reverse).toLower

/-! ## Content types -/

/-- Whether a character may stand in a content type. -/
def isPlain (c : Char) : Bool := c == '\t' || (0x20 ≤ c.toNat && c.toNat < 0x7F)

/-- The encoding that a content type names, or else UTF-8. -/
def ofContentType (contentType : Option String) : Charset :=
  match contentType.bind fun s =>
    if s.toList.all isPlain then MediaType.value? "charset" s else none with
  | some name => ofName (plainName name)
  | none => utf8

end Charset

end NoteSearch.Web
