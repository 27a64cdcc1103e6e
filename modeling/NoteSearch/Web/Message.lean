-- SUMMARY: Requests and responses of the web, as far as the service needs them.
import NoteSearch.Json.Tree
import NoteSearch.Web.Address

/-!
# Messages

A request goes to an address with a query, carries a token, and may have a JSON body. A response
has a status and a body of bytes.
-/

namespace NoteSearch.Web

inductive Method where
  | get
  | post
  | delete
  deriving DecidableEq, Inhabited

def Method.toText : Method → String
  | get => "GET"
  | post => "POST"
  | delete => "DELETE"

def isHeaderChar (c : Char) : Bool := c == '\t' || (0x20 ≤ c.toNat && c.toNat != 0x7F)

structure HttpRequest where
  method : Method
  url : String
  /-- The pairs that are put behind the query of the address. -/
  query : List (String × String) := []
  token : Option String := none
  body : Option Json.Tree := none
  deriving Inhabited

namespace HttpRequest

def address? (r : HttpRequest) : Option Address :=
  (Address.ofText? r.url).map (·.withPairs r.query)

/-- What the server is asked for: path and query as they are sent. -/
def target (r : HttpRequest) : String := (r.address?.map (·.target)).getD ""

def authorization (r : HttpRequest) : Option String := r.token.map fun t => "Bearer " ++ t

def contentType (r : HttpRequest) : Option String := r.body.map fun _ => "application/json"

/-- Whether a request can be sent at all: it has an address, and its token fits into a header. -/
def isSendable (r : HttpRequest) : Bool :=
  r.address?.isSome && (r.token.getD "").toList.all isHeaderChar

end HttpRequest

structure HttpResponse where
  status : UInt16
  contentType : Option String := none
  body : List UInt8 := []
  deriving DecidableEq, Inhabited

namespace HttpResponse

def isSuccess (r : HttpResponse) : Bool := 200 ≤ r.status && r.status < 300

def hasBody (r : HttpResponse) : Bool := r.status != 101 && r.status != 204 && r.status != 304

/-- Whether a response can be read as the last one to its request. One with a status below 200 is
followed by another one, unless it hands over the connection. -/
def isReadable (r : HttpResponse) : Bool :=
  (r.status == 101 || (200 ≤ r.status && r.status < 1000)) &&
    (r.contentType.getD "").toList.all isHeaderChar

end HttpResponse

end NoteSearch.Web
