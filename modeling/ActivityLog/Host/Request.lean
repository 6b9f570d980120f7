import ActivityLog.Host
import ActivityLog.Host.Address
import ActivityLog.Host.Cookie
import ActivityLog.Signature
import ActivityLog.Text.FormEncoded
import ActivityLog.Text.LowerCase

/-!
# Web requests

A web framework's request as a host: a mapping over the server's description of the call, with attributes for its
method, address, headers, client and state. Headers and query arrive as Latin-1; the address reads its query as UTF-8,
so a query that is none makes the address unreadable.
-/

namespace ActivityLog

/-- A call as the server describes it. -/
structure WebRequest where
  kind : String := "http"
  method : String := "GET"
  path : String := "/"
  query : String := ""
  httpVersion : Option Value := none
  headers : List (String × String) := []
  client : Option (List Value) := none

/-- Header entries as bytes, their names in small letters. -/
def Latin1.headerBytes (headers : List (String × String)) : Except Failure (List (List UInt8 × List UInt8)) :=
  headers.mapM fun (k, v) => do return (← Latin1.bytes (Text.lower k), ← Latin1.bytes v)

namespace WebRequest

/-- The headers with their names in small letters. -/
def lowerHeaders (r : WebRequest) : List (String × String) := r.headers.map fun (k, v) => (Text.lower k, v)

/-- The server's name. -/
def serverName : String := "testserver"

/-- The name of the host that the request asks for, if it is well formed, or else the server's. -/
def authority (r : WebRequest) : String :=
  match r.lowerHeaders.lookup "host" with
  | some name => if Authority.isValid name.toList then name else serverName
  | none => serverName

/-- The address of the request. -/
def address (r : WebRequest) : Except Failure Address := do
  return { authority := r.authority, path := r.path, query := ← Utf8.text (← Latin1.bytes r.query) }

/-- The address without path and query. -/
def baseAddress (r : WebRequest) : Address := { authority := r.authority, path := "/", query := "" }

/-- The client's address, which has a host and a port. -/
def clientAddress (r : WebRequest) : Except Failure Value :=
  match r.client with
  | none => .ok .null
  | some [host, port] => .ok (.tuple "Address" [("host", host), ("port", port)])
  | some parts => (({ required := ["_cls", "host", "port"] } : Signature).check "Address.__new__" (parts.length + 1)
      []).map fun _ => .null

/-- The server's description of the call. -/
def scope (r : WebRequest) : Except Failure (List (String × Value)) := do
  let query ← Latin1.bytes r.query
  let headers ← Latin1.headerBytes r.headers
  return [("type", .text r.kind), ("method", .text r.method), ("path", .text r.path), ("query_string", .bytes query),
    ("headers", .list (headers.map fun (k, v) => .ofList [.bytes k, .bytes v])),
    ("client", match r.client with
      | some parts => .ofList parts
      | none => .null),
    ("scheme", .text "http"), ("server", .ofList [.text serverName, .int 80]), ("root_path", .text "")] ++
    (match r.httpVersion with
      | some v => [("http_version", v)]
      | none => [])

/-- What a missing extension says. -/
def needs (extension attr : String) : Attribute :=
  .broken (.fault (.other "AssertionError") (extension ++ " must be installed to access request." ++ attr))

/-- The parameters in the query as an object. -/
def parametersValue (r : WebRequest) : Value :=
  let parameters := FormEncoded.decode r.query
  let text := FormEncoded.encode parameters
  .object (.typed "QueryParams" ("QueryParams(" ++ Text.quoted text ++ ")") text parameters.isEmpty) []

/-- The cookies that the request brings along. -/
def cookies (r : WebRequest) : OrderedMap String :=
  Cookie.ofLines ((r.lowerHeaders.filter fun e => e.1 == "cookie").map Prod.snd)

/-- The methods of a request, beside those of mappings. -/
def methods : List (String × Value) :=
  methodsOf "starlette.requests" [("HTTPConnection", ["url_for", "__getitem__", "__iter__", "__len__"]),
    ("Request", ["__init__", "stream", "body", "json", "form", "close", "is_disconnected",
      "send_push_promise", "send_early_hints"])]

/-- A channel to the server that nobody has opened. -/
def closedChannel (name : String) : Value :=
  .function (.named ⟨"starlette.requests", name⟩ (.foreign (Attribute.unsuited name)))

/-- The channels to the server, how far they have been used, and the form that nobody has read yet. -/
def channels : List (String × Value) :=
  [("receive", closedChannel "empty_receive"), ("_receive", closedChannel "empty_receive"),
    ("_send", closedChannel "empty_send"), ("_stream_consumed", .bool false), ("_is_disconnected", .bool false),
    ("_form", .null)]

/-- What a middleware's own request has beside that: how far its body has been passed on. -/
def keepingParts : List (String × Value) :=
  methodsOf "starlette.middleware.base" [("_CachedRequest", ["__init__", "wrapped_receive"])] ++
    [("_wrapped_rcv_disconnected", .bool false), ("_wrapped_rcv_consumed", .bool false),
      ("_wrapped_rc_stream", .ofType "async_generator" [])]

/-- The headers as a collection. -/
def headerValue (r : WebRequest) : Value :=
  .headers (.collection false) (r.lowerHeaders.map fun (k, v) => (.text k, .text v))

/-- The request as a host, with the given values in its state. Texts that Latin-1 cannot write make no request. -/
def toHost (r : WebRequest) (state : List (String × Value)) (keeps : Bool := false) : Except Failure Host := do
  let scope ← r.scope
  return { nature := .webRequest keeps,
           attributes := ⟨[("method", .value (.text r.method)), ("url", .ofExcept (r.address.map (·.toValue))),
             ("base_url", .value r.baseAddress.toValue), ("query_params", .value r.parametersValue),
             ("headers", .value r.headerValue), ("_headers", .value r.headerValue),
             ("client", .ofExcept r.clientAddress), ("state", .value (Host.openState state)),
             ("path_params", .value (.dict [])), ("cookies", .value (.dict (r.cookies.map .text).entries)),
             ("app", .broken (.fault .key (Text.quoted "app"))), ("session", needs "SessionMiddleware" "session"),
             ("auth", needs "AuthenticationMiddleware" "auth"), ("user", needs "AuthenticationMiddleware" "user")] ++
             ((if keeps then keepingParts else []) ++ methods ++ channels).map fun (name, m) => (name, .value m)⟩,
           items := ⟨scope⟩ }

end WebRequest

end ActivityLog
