import MemoryDashboard.Backend.Interface
import MemoryDashboard.Json.Write
import MemoryDashboard.Url.Parse
import MemoryDashboard.Text.Utf8
/-!
# The HTTP backend

The dashboard's backend is a memory server spoken to over HTTP. Every call is a request to a
path under the server's base address (written without trailing slashes):

| call | request |
|---|---|
| observations page | GET `/api/memories?project=…&limit=…&offset=…` |
| summaries page | GET `/api/summaries?project=…&limit=…&offset=…` |
| statistics | GET `/api/stats` |
| usage, session, raw events | GET `/api/usage`, `/api/session`, `/api/raw-events`, each `?project=…` |
| sync status | GET `/api/sync/status`, with `?includeDiagnostics=1` when asked for |
| pairing payload | GET `/api/sync/pairing?includeDiagnostics=1` |
| configuration | GET `/api/config` |
| saving the configuration | POST `/api/config` with the payload |
| a sync pass | POST `/api/sync/run` with `{"address": …}`, or `{}` for every peer |
| projects | GET `/api/projects`, answering `{"projects": […]}` |

Query values are form-encoded: letters, digits and `*-._` stay, a space becomes `+`, every
other byte of the UTF-8 text becomes `%XX`; they follow any query the base address has. A call
fails when its address does not parse, when the request cannot be sent, when the answer's
status is not a success (2xx), or when a GET's answer does not decode. Failures are reported as
a chain of causes joined by `: `, starting with the address of the call.
-/

namespace MemoryDashboard

namespace Client

/-- Whether a byte stays as it is in a form value. -/
def isFormSafe (b : UInt8) : Bool :=
  let c := Char.ofNat b.toNat
  c.isAlphanum && b < 128 || c = '*' || c = '-' || c = '.' || c = '_'

/-- An upper-case hex digit. -/
def hexUpper (n : Nat) : Char := if n < 10 then Char.ofNat (48 + n) else Char.ofNat (55 + n)

/-- A form-encoded text. -/
def formEncode (s : String) : String :=
  String.join <| (Text.utf8Bytes s).map fun b =>
    if isFormSafe b then String.singleton (Char.ofNat b.toNat)
    else if b = 32 then "+"
    else String.ofList ['%', hexUpper (b.toNat / 16), hexUpper (b.toNat % 16)]

/-- Form-encoded pairs. -/
def formQuery (pairs : List (String × String)) : String :=
  "&".intercalate (pairs.map fun (k, v) => formEncode k ++ "=" ++ formEncode v)

/-- A request as the client sends it. -/
structure Outgoing where
  method : String
  /-- The address as the client writes it in messages: base and path. -/
  url : String
  /-- The path as sent. -/
  path : String
  /-- The query as sent, when there is one. -/
  query : Option String
  /-- The address as the HTTP client writes it back: parsed, with the query as sent and the
  fragment. -/
  target : String
  body : Option Json
  deriving Inhabited

/-- The query after a GET's pairs are added the way the HTTP client adds them: after the
address's own query, joined to it by `&` when that is not empty; a query left empty is
dropped. -/
def withPairs (own : Option String) (pairs : List (String × String)) : Option String :=
  let added := formQuery pairs
  let q := match own with
    | some q => if q.isEmpty then added else if added.isEmpty then q else q ++ "&" ++ added
    | none => added
  if q.isEmpty then none else some q

/-- What came of sending a request. -/
inductive Delivery where
  | answered (status : Nat) (body : String)
  /-- No route to the server's network. -/
  | unreachable
  /-- Nothing listens at the server's port. -/
  | refused
  deriving DecidableEq, Inhabited, Repr

/-- The standard reason phrase of a status. -/
def reasonPhrase (status : Nat) : String :=
  match status with
  | 100 => "Continue" | 101 => "Switching Protocols" | 102 => "Processing"
  | 200 => "OK" | 201 => "Created" | 202 => "Accepted" | 203 => "Non Authoritative Information"
  | 204 => "No Content" | 205 => "Reset Content" | 206 => "Partial Content"
  | 207 => "Multi-Status" | 208 => "Already Reported" | 226 => "IM Used"
  | 300 => "Multiple Choices" | 301 => "Moved Permanently" | 302 => "Found" | 303 => "See Other"
  | 304 => "Not Modified" | 305 => "Use Proxy" | 307 => "Temporary Redirect"
  | 308 => "Permanent Redirect"
  | 400 => "Bad Request" | 401 => "Unauthorized" | 402 => "Payment Required" | 403 => "Forbidden"
  | 404 => "Not Found" | 405 => "Method Not Allowed" | 406 => "Not Acceptable"
  | 407 => "Proxy Authentication Required" | 408 => "Request Timeout" | 409 => "Conflict"
  | 410 => "Gone" | 411 => "Length Required" | 412 => "Precondition Failed"
  | 413 => "Payload Too Large" | 414 => "URI Too Long" | 415 => "Unsupported Media Type"
  | 416 => "Range Not Satisfiable" | 417 => "Expectation Failed" | 418 => "I\x27m a teapot"
  | 421 => "Misdirected Request" | 422 => "Unprocessable Entity" | 423 => "Locked"
  | 424 => "Failed Dependency" | 426 => "Upgrade Required" | 428 => "Precondition Required"
  | 429 => "Too Many Requests" | 431 => "Request Header Fields Too Large"
  | 451 => "Unavailable For Legal Reasons"
  | 500 => "Internal Server Error" | 501 => "Not Implemented" | 502 => "Bad Gateway"
  | 503 => "Service Unavailable" | 504 => "Gateway Timeout" | 505 => "HTTP Version Not Supported"
  | 506 => "Variant Also Negotiates" | 507 => "Insufficient Storage" | 508 => "Loop Detected"
  | 510 => "Not Extended" | 511 => "Network Authentication Required"
  | _ => "<unknown status code>"

/-- The failure of a request whose address does not parse. -/
def buildFailure (url : String) (e : Url.ParseError) : String :=
  ": ".intercalate [url, "request failed", "builder error", "builder error", e.message]

/-- The failure of a request that could not be sent. -/
def sendFailure (o : Outgoing) (cause : String) : String :=
  let sending := "error sending request for url (" ++ o.target ++ ")"
  ": ".intercalate [o.url, "request failed", sending, sending, "client error (Connect)", "tcp connect error", cause]

/-- The answer's body when the request went through with a success status. -/
def checked (o : Outgoing) : Delivery → Except String String
  | .unreachable => .error (sendFailure o "Network is unreachable (os error 101)")
  | .refused => .error (sendFailure o "Connection refused (os error 111)")
  | .answered status body =>
    if 200 ≤ status && status < 300 then .ok body
    else .error (o.url ++ ": " ++ toString status ++ " " ++ reasonPhrase status ++ " " ++ body)

/-- Decodes a successful answer. -/
def decodeAnswer {α : Type} (o : Outgoing) (d : Json.Decoder α) (body : String) : Except String α :=
  match Json.decodeText d body with
  | .ok a => .ok a
  | .error f =>
    .error (o.url ++ ": invalid response body: error decoding response body: error decoding response body: " ++
      f.messageAt)

open Json.Decode in
/-- The projects of a projects answer. -/
def projectsDecoder : Json.Decoder (List String) := fun node => do
  let fs ← record "ProjectsPayload" [.of "projects" (list string)] true node
  fs.read "projects" (list string) []

/-- The client of a server at a base address. -/
structure ViewerClient where
  baseUrl : String
  deriving DecidableEq, Inhabited, Repr

/-- A client for a base address, without its trailing slashes. -/
def ViewerClient.new (base : String) : ViewerClient :=
  { baseUrl := String.ofList (base.toList.reverse.dropWhile (· = '/')).reverse }

namespace ViewerClient

/-- A request to a path of the server, with the pairs of its query when it is a GET; or why
its address does not parse. -/
def outgoing (c : ViewerClient) (method path : String) (pairs : Option (List (String × String)))
    (body : Option Json) : Except Url.ParseError Outgoing := do
  let url := c.baseUrl ++ path
  let parsed ← Url.parse url
  let query := match pairs with
    | some ps => withPairs parsed.query ps
    | none => parsed.query
  .ok { method, url, path := parsed.path, query, target := { parsed with query }.text, body }

variable {m : Type → Type} [Monad m]

/-- A GET answering JSON. -/
def getJson {α : Type} (c : ViewerClient) (send : Outgoing → m Delivery) (path : String)
    (query : List (String × String)) (d : Json.Decoder α) : m (Except String α) := do
  match c.outgoing "GET" path (some query) none with
  | .error e => return .error (buildFailure (c.baseUrl ++ path) e)
  | .ok o => return (checked o (← send o)).bind (decodeAnswer o d)

/-- A POST of a JSON payload. -/
def postJson (c : ViewerClient) (send : Outgoing → m Delivery) (path : String) (payload : Json) :
    m (Except String Unit) := do
  match c.outgoing "POST" path none (some payload) with
  | .error e => return .error (buildFailure (c.baseUrl ++ path) e)
  | .ok o => return (checked o (← send o)).map fun _ => ()

/-- The query of a page. -/
def pageQuery (project : String) (limit offset : Nat) : List (String × String) :=
  [("project", project), ("limit", toString limit), ("offset", toString offset)]

/-- The client as the dashboard's backend, sending with `send`. -/
def backend (c : ViewerClient) (send : Outgoing → m Delivery) : Backend m where
  memoriesPage project limit offset :=
    c.getJson send "/api/memories" (pageQuery project limit offset) (Feed.Page.decoder)
  summariesPage project limit offset :=
    c.getJson send "/api/summaries" (pageQuery project limit offset) (Feed.Page.decoder (some Feed.summaryKind))
  stats := c.getJson send "/api/stats" [] Json.Decode.value
  usage project := c.getJson send "/api/usage" [("project", project)] Json.Decode.value
  session project := c.getJson send "/api/session" [("project", project)] Json.Decode.value
  rawEvents project := c.getJson send "/api/raw-events" [("project", project)] Json.Decode.value
  syncStatus diagnostics :=
    c.getJson send "/api/sync/status" (if diagnostics then [("includeDiagnostics", "1")] else [])
      Sync.StatusReport.decoder
  pairing := c.getJson send "/api/sync/pairing" [("includeDiagnostics", "1")] Json.Decode.value
  config := c.getJson send "/api/config" [] Settings.ConfigPayload.decoder
  saveConfig payload := c.postJson send "/api/config" payload
  triggerSync address :=
    let payload := match address.filter (!·.isEmpty) with
      | some a => Json.obj [("address", .str a)]
      | none => Json.obj []
    c.postJson send "/api/sync/run" payload
  projects := c.getJson send "/api/projects" [] projectsDecoder

end ViewerClient

end Client

end MemoryDashboard
