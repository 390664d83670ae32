import RestSuite.Text.Blank
import RestSuite.Url.Parser

/-!
# Settings

What a host can set for its runs, with the values that hold if it does not, and the conditions that
settings have to meet.
-/

namespace RestSuite

/-- The settings of a run. -/
structure Settings where
  /-- The longest wait for a response, in milliseconds. -/
  timeout : Nat
  followRedirects : Bool
  maxRedirects : Nat
  validateSsl : Bool
  /-- The directory that relative paths of redirects start from. -/
  baseDirectory : Option String
  /-- The URL that relative URIs are joined to. -/
  baseUrl : Option String
  userAgent : String
  /-- A run ends with the first script that does not succeed. -/
  failFast : Bool
  deriving DecidableEq, Repr

/-- Why settings are not valid. -/
inductive SettingsFault where
  | noTimeout
  | noUserAgent
  | relativeBaseUrl (url : String) (reason : UrlError)
  | unusableBaseUrl (url : String)
  deriving DecidableEq, Repr

/-- The wording of a fault in settings. -/
def SettingsFault.message : SettingsFault → String
  | .noTimeout => "timeout must be greater than 0"
  | .noUserAgent => "userAgent must not be empty"
  | .relativeBaseUrl url reason =>
    s!"baseUrl '{url}' is not an absolute URL: {reason.message}"
  | .unusableBaseUrl url => s!"baseUrl '{url}' cannot be used as a base"

namespace Settings

/-- The settings that hold if nothing else is set. -/
def standard : Settings where
  timeout := 30000
  followRedirects := true
  maxRedirects := 10
  validateSsl := true
  baseDirectory := none
  baseUrl := none
  userAgent := "unravl/0.2.0"
  failFast := false

/-- Why a text cannot be the base URL. -/
def baseUrlFault? (text : String) : Option SettingsFault :=
  match Url.parse text with
  | .error e => some (.relativeBaseUrl text e)
  | .ok url =>
    match url.path with
    | .opaqueText _ => some (.unusableBaseUrl text)
    | .segments _ => none

/-- The first fault of the settings. -/
def fault? (s : Settings) : Option SettingsFault :=
  if s.timeout = 0 then some .noTimeout
  else if Text.trim s.userAgent.toList = [] then some .noUserAgent
  else s.baseUrl.bind baseUrlFault?

/-- Settings with others on top of them. What the others leave open stays. -/
def merge (below above : Settings) : Settings :=
  { above with
    baseDirectory := above.baseDirectory <|> below.baseDirectory
    baseUrl := above.baseUrl <|> below.baseUrl }

end Settings

end RestSuite
