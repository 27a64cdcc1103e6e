-- SUMMARY: Media types: what the header with the type of a body says.
/-!
# Media types

A media type is a type and a subtype with a slash between them, followed by parameters. Each
parameter stands behind a semicolon and spaces, and is a name and a value with an equals sign
between them. A value is a word, or a text in quotation marks. A text that is not built like
this is no media type, and says nothing.
-/

namespace NoteSearch.Web.MediaType

abbrev Parameter := String × String

def isWordChar (c : Char) : Bool := c.isAlphanum || "!#$%&'*+-.^_`|~".toList.contains c

/-- The word at the start of a text, and the rest of the text. -/
def word (t : List Char) : List Char × List Char := t.span isWordChar

/-- Whether a character may stand between quotation marks. -/
def isQuotable (c : Char) : Bool := 0x20 ≤ c.toNat && c.toNat != 0x7F

/-- What follows a value in quotation marks: spaces, and then a semicolon or the end. -/
def afterQuoted? (t : List Char) : Option (List Char) :=
  match t.dropWhile (· == ' ') with
  | [] => some []
  | ';' :: t => some t
  | _ => none

/-- A value in quotation marks, behind the first one. It has at least one character, which may
be a quotation mark itself. -/
def quoted? : List Char → Option (List Char × List Char)
  | c :: t =>
    match t.span fun d => isQuotable d && d != '"' with
    | (value, '"' :: rest) =>
      if isQuotable c then (afterQuoted? rest).map fun rest => (c :: value, rest) else none
    | _ => none
  | [] => none

def parameterValue? : List Char → Option (List Char × List Char)
  | '"' :: t => quoted? t
  | t =>
    match word t with
    | (value, []) => some (value, [])
    | (value, ';' :: rest) => if value.isEmpty then none else some (value, rest)
    | _ => none

def parameter? (t : List Char) : Option (Parameter × List Char) :=
  match word t with
  | (name, '=' :: t) =>
    if name.isEmpty then none
    else
      (parameterValue? t).map fun (value, rest) => ((String.ofList name, String.ofList value), rest)
  | _ => none

def parametersUpTo? : Nat → List Char → Option (List Parameter)
  | 0, _ => some []
  | limit + 1, t =>
    match t.dropWhile (· == ' ') with
    | [] => some []
    | t => do
      let (p, rest) ← parameter? t
      return p :: (← parametersUpTo? limit rest)

/-- The parameters of a media type, if the text is one. A parameter has at least two characters,
so there are no more of them than characters. -/
def parameters? (text : String) : Option (List Parameter) :=
  match word text.toList with
  | (type, '/' :: t) =>
    if type.isEmpty then none
    else
      match word t with
      | (_, []) => some []
      | (subtype, ';' :: t) => if subtype.isEmpty then none else parametersUpTo? t.length t
      | _ => none
  | _ => none

/-- The value of the first parameter of a name, which is given in lower case. -/
def value? (name : String) (text : String) : Option String := do
  let (_, value) ← (← parameters? text).find? fun p => p.1.toLower == name
  return value

end NoteSearch.Web.MediaType
