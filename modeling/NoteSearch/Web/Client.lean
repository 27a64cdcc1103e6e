-- SUMMARY: Calls to the service as requests of the web, and what the responses mean.
import NoteSearch.Service.Call
import NoteSearch.Setup.Configuration
import NoteSearch.Web.Charset
import NoteSearch.Web.Message
import NoteSearch.Wire.Notes
import NoteSearch.Wire.Results
import NoteSearch.Wire.SavedSearch
import NoteSearch.Wire.Usage

/-!
# The client

A client knows the address of the service and the token. `Client.request` says how a call is
made, and `Client.reply` what the response to it means: a success holds a value, and any other
response is a failure, with the explanation of the service if its body has one. The body of a
failure is text in the encoding that the service names, so what encodings with tables make of bytes
is a parameter.
-/

namespace NoteSearch.Web

open Json

structure Client where
  /-- The address of the service, without slashes at its end. -/
  base : String
  token : Option String := none
  deriving DecidableEq, Inhabited

namespace Client

def of (base : String) (token : Option String) : Client :=
  { base := Configuration.dropSlashes base, token }

def ofConfiguration (c : Configuration) : Client := of c.apiUrl c.token

/-! ## Requests -/

/-- The pairs that ask for a page of notes. -/
def noteQueryPairs (q : NoteQuery) : List (String × String) :=
  [("page", toString q.page.toNat), ("per_page", toString q.perPage.toNat)] ++
    (q.search.map fun s => ("search", s)).toList ++
    (q.noteType.map fun t => ("note_type", t.toText)).toList ++
    (q.tags.map fun s => ("tags", s)).toList

def send (c : Client) (method : Method) (path : String) (query : List (String × String) := [])
    (body : Option Tree := none) : HttpRequest :=
  { method, url := c.base ++ path, query, token := c.token, body }

def request (c : Client) : Call → HttpRequest
  | .search r => c.send .post "/search" [] (some (Wire.ofRequest r))
  | .suggestions text limit =>
    c.send .get "/search/suggestions" [("q", text), ("limit", toString limit.toNat)]
  | .listSaved => c.send .get "/search/saved"
  | .createSaved d => c.send .post "/search/saved" [] (some (Wire.ofDraft d))
  | .executeSaved id => c.send .post ("/search/saved/" ++ toString id.toInt ++ "/execute")
  | .deleteSaved id => c.send .delete ("/search/saved/" ++ toString id.toInt)
  | .popular limit => c.send .get "/analytics/popular" [("limit", toString limit.toNat)]
  | .trending limit days =>
    c.send .get "/analytics/trending"
      [("limit", toString limit.toNat), ("days", toString days.toNat)]
  | .stats => c.send .get "/analytics/stats"
  | .notes q => c.send .get "/notes/" (noteQueryPairs q)

/-! ## Failures -/

/-- The messages in a list of objects that may have one. -/
def messages (items : List Value) : List String :=
  items.filterMap fun item => (item.member? "msg").bind Value.string?

/-- The text of the explanation of an error: a text itself, or the messages of a list. -/
def explanationText? : Value → Option String
  | .string s => some s
  | .array items =>
    match messages items with
    | [] => none
    | texts => some ("; ".intercalate texts)
  | _ => none

/-- The explanation in the body of an error, if there is one. -/
def explanation? (body : String) : Option String := do
  let doc ← Tree.ofText? body
  let [detail] ← doc.fields? ["detail"] 1 | none
  let value ← Value.ofTree? (Value.maxDepth - 1) (← detail)
  explanationText? value

section Responses

variable (tables : Tables)

/-- The text in the body of a response. -/
def bodyText (r : HttpResponse) : String :=
  Charset.decode tables (.ofContentType r.contentType) r.body

/-- The failure that a response without success reports. -/
def failure (r : HttpResponse) : Failure :=
  .status r.status (explanation? (bodyText tables r))

def noResponse (r : HttpRequest) : Failure :=
  .transport <|
    match r.address? with
    | some address =>
      if r.isSendable then "error sending request for url (" ++ address.toText ++ ")"
      else "builder error"
    | none => "builder error"

/-- The failure of a success whose body does not hold what was asked for. -/
def undecodable : Failure := .undecodable "error decoding response body"

/-! ## Replies -/

/-- The value that a response gives. -/
def value {α : Type} (read : Reader α) (request : HttpRequest) :
    Option HttpResponse → Except Failure α
  | none => .error (noResponse request)
  | some r =>
    if !r.isSuccess then .error (failure tables r)
    else
      match (Tree.ofBytes? r.body).bind read with
      | some a => .ok a
      | none => .error undecodable

/-- Whether the response is a success, whatever its body is. -/
def acknowledged (request : HttpRequest) : Option HttpResponse → Except Failure Unit
  | none => .error (noResponse request)
  | some r => if r.isSuccess then .ok () else .error (failure tables r)

def reply (c : Client) (call : Call) (response : Option HttpResponse) : Reply :=
  let request := c.request call
  match call with
  | .search _ => .search (value tables Wire.resultPage request response)
  | .suggestions .. => .suggestions (value tables (Reader.list Wire.candidate) request response)
  | .listSaved => .listSaved (value tables Wire.savedListing request response)
  | .createSaved _ => .createSaved (value tables Wire.savedSearch request response)
  | .executeSaved _ => .executeSaved (value tables Wire.resultPage request response)
  | .deleteSaved _ => .deleteSaved (acknowledged tables request response)
  | .popular _ => .popular (value tables (Reader.list Wire.popularQuery) request response)
  | .trending .. => .trending (value tables (Reader.list Wire.trendingQuery) request response)
  | .stats => .stats (value tables Wire.usageStats request response)
  | .notes _ => .notes (value tables Wire.notePage request response)

end Responses

end Client

end NoteSearch.Web
