import RestSuite.Http.Method
import RestSuite.Json.Parser

/-!
# Requests and responses

Header lists keep every header as it was given. Names are compared without regard to case: of a
request's headers the last of a name counts, of a response's the first.

The identifier that is drawn for a request and the time that a response took are left out: nothing
reads them.
-/

namespace RestSuite

/-- A header: its name and its value. -/
abbrev Header := String × String

/-- A request with everything in it expanded. -/
structure Request where
  method : Method
  url : String
  headers : List Header
  body : Option String
  deriving DecidableEq

namespace Request

/-- The value of a header that counts: the last one of the name. -/
def header? (r : Request) (name : String) : Option String :=
  (r.headers.reverse.find? fun h => Text.sameIgnoringCase h.1 name).map Prod.snd

/-- Gives a header a new value at the place of its name, or adds it at the end. -/
def collapse (name value : String) : List Header → List Header
  | [] => [(name, value)]
  | h :: rest =>
    if Text.sameIgnoringCase h.1 name then (h.1, value) :: rest
    else h :: collapse name value rest

/-- One header per name: the place and spelling of the first, the value of the last. -/
def effectiveHeaders (r : Request) : List Header :=
  r.headers.foldl (fun kept h => collapse h.1 h.2 kept) []

end Request

/-- A response as it was received. -/
structure Response where
  status : Nat
  statusText : String
  headers : List Header
  body : ByteArray

namespace Response

/-- The value of the first header of a name. -/
def header? (r : Response) (name : String) : Option String :=
  (r.headers.find? fun h => Text.sameIgnoringCase h.1 name).map Prod.snd

/-- The body as text. -/
def text? (r : Response) : Option String :=
  Text.ofUtf8? r.body

/-- The body as a JSON value. -/
def json (r : Response) : Except Json.SyntaxError Json :=
  Json.parseBytes r.body

/-- The answer of a server that says nothing more than that all is well. -/
def ok : Response := ⟨200, "OK", [], .empty⟩

end Response

/-- Why a request got no response. -/
inductive TransportError where
  | network (message : String)
  | timeout
  | invalidUrl (message : String)
  | tls (message : String)
  | protocol (message : String)
  | build (message : String)
  | unsupportedProtocol (message : String)
  deriving DecidableEq, Repr

/-- The wording of a transport error. -/
def TransportError.message : TransportError → String
  | .network m => s!"Network error: {m}"
  | .timeout => "Request timed out"
  | .invalidUrl m => s!"Invalid URL: {m}"
  | .tls m => s!"TLS/SSL error: {m}"
  | .protocol m => s!"HTTP protocol error: {m}"
  | .build m => s!"Request build error: {m}"
  | .unsupportedProtocol m => s!"Unsupported protocol: {m}"

end RestSuite
