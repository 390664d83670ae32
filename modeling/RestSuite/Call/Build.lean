import RestSuite.Url.Parser
import RestSuite.World

/-!
# Building requests

The first stage of a call binds the variables of the script and then expands its method line,
headers and body under the bindings that result. Variables stay bound when a later part fails.
-/

namespace RestSuite

/-- How calls are run: behaviors, services, and what relative paths and URIs start from. -/
structure Caller (σ : Type) where
  registry : Registry σ
  services : Services σ
  baseDirectory : Option String
  baseUrl : Option Url

namespace Caller

variable {σ : Type}

/-- What texts are expanded against. -/
def scope (c : Caller σ) (w : World σ) : Scope :=
  ⟨w.environment.bindings, w.disk, c.baseDirectory⟩

/-- Expands a text. -/
def expand (c : Caller σ) (w : World σ) (text : String) : Except CallError String :=
  ((c.scope w).expand text).mapError .binding

/-- The value of a variable: texts are expanded, other values stand for themselves. -/
def expandValue (c : Caller σ) (w : World σ) : Json → Except CallError Json
  | .string text => (c.expand w text).map .string
  | other => .ok other

/-- Binds the variables of a script, one after the other, up to the first that fails. -/
def bindEnv (c : Caller σ) (w : World σ) : List (String × Json) → Except CallError Unit × World σ
  | [] => (.ok (), w)
  | (name, value) :: rest =>
    match c.expandValue w value with
    | .error e => (.error e, w)
    | .ok value => c.bindEnv (w.bind name value) rest

/-- The target of a request. An absolute URI is left as it is written, and so is a relative one if
there is no base to join it to. -/
def targetUrl (c : Caller σ) (uri : String) : Except CallError String :=
  let invalid (e : UrlError) : Except CallError String :=
    .error (.configuration (.invalidUri uri e.message))
  match Url.parse uri with
  | .ok _ => .ok uri
  | .error .relativeWithoutBase =>
    match c.baseUrl with
    | none => .ok uri
    | some base =>
      match base.join uri with
      | .ok url => .ok url.text
      | .error e => invalid e
  | .error e => invalid e

/-- Expands the values of headers. -/
def expandHeaders (c : Caller σ) (w : World σ) (headers : List Header) :
    Except CallError (List Header) :=
  headers.mapM fun h => do
    let value ← c.expand w h.2
    .ok (h.1, value)

/-- Expands a body. What is no text is written as JSON first, and only placeholders are filled. -/
def expandBody (c : Caller σ) (w : World σ) : Json → Except CallError String
  | .string text => c.expand w text
  | other => (w.environment.bindings.substitute other.text).mapError .binding

/-- The request of a script under the bindings there are. -/
def prepare (c : Caller σ) (s : ResolvedScript) (w : World σ) : Except CallError Request := do
  let (method, uri) ← s.requestLine.mapError .configuration
  let uri ← c.expand w uri
  let url ← c.targetUrl uri
  let headers ← c.expandHeaders w s.layer.headers
  let body ← s.body.mapM (c.expandBody w)
  .ok ⟨method, url, headers, body⟩

/-- Binds the variables of a script and expands its request. -/
def build (c : Caller σ) (s : ResolvedScript) (w : World σ) : Except CallError Request × World σ :=
  match c.bindEnv w s.layer.env with
  | (.error e, w) => (.error e, w)
  | (.ok (), w) => (c.prepare s w, w)

end Caller

end RestSuite
