/-!
# URLs

The parts of a URL and its written form. A URL with an opaque path, such as a mail address, is
nothing that a relative reference can be joined to.
-/

namespace RestSuite

/-- Why a text is no URL, or cannot be joined to one. -/
inductive UrlError where
  | emptyHost
  | invalidDomain
  | invalidPort
  | invalidIpv4
  | invalidIpv6
  | invalidHostCharacter
  | relativeWithoutBase
  | relativeToOpaque
  deriving DecidableEq, Repr

/-- The wording of a URL error. -/
def UrlError.message : UrlError → String
  | .emptyHost => "empty host"
  | .invalidDomain => "invalid international domain name"
  | .invalidPort => "invalid port number"
  | .invalidIpv4 => "invalid IPv4 address"
  | .invalidIpv6 => "invalid IPv6 address"
  | .invalidHostCharacter => "invalid domain character"
  | .relativeWithoutBase => "relative URL without a base"
  | .relativeToOpaque => "relative URL with a cannot-be-a-base base"

/-- The host of a URL. -/
inductive Host where
  /-- A name; the empty name stands for no host. -/
  | name (text : String)
  | ipv4 (address : Nat)
  /-- Eight pieces of sixteen bits. -/
  | ipv6 (pieces : List Nat)
  deriving DecidableEq, Repr

/-- Whom a URL addresses. -/
structure Authority where
  /-- The name and the password, with the sign that ends them. -/
  userInfo : String
  host : Host
  /-- The port, unless it is the usual one of the scheme. -/
  port : Option Nat
  deriving DecidableEq, Repr

/-- The path of a URL. -/
inductive UrlPath where
  /-- Text without further structure. -/
  | opaqueText (text : String)
  /-- Segments, each with a slash in front. -/
  | segments (names : List String)
  deriving DecidableEq, Repr

/-- A URL, with everything in it encoded. -/
structure Url where
  scheme : String
  authority : Option Authority
  path : UrlPath
  query : Option String
  fragment : Option String
  deriving DecidableEq, Repr

namespace Url

/-- The port of a scheme if none is given. -/
def usualPort? (scheme : String) : Option Nat :=
  match scheme with
  | "http" | "ws" => some 80
  | "https" | "wss" => some 443
  | "ftp" => some 21
  | _ => none

/-- Schemes that always have a host, and in which a backslash is a slash. -/
def isSpecial (scheme : String) : Bool :=
  scheme == "file" || (usualPort? scheme).isSome

end Url

/-! ## Written forms -/

namespace Host

/-- A number in lower-case hexadecimal digits. -/
def hexText (n : Nat) : String :=
  String.ofList (Nat.toDigits 16 n)

/-- Four numbers with dots between. -/
def ipv4Text (address : Nat) : String :=
  String.intercalate "." <| [0x1000000, 0x10000, 0x100, 1].map fun unit =>
    toString (address / unit % 256)

/-- The number of zeros at the front. -/
def leadingZeros (pieces : List Nat) : Nat :=
  (pieces.takeWhile (· == 0)).length

/-- The longest run of zeros: where it starts and how long it is. The first of equals counts. -/
def longestZeros : List Nat → Nat × Nat
  | [] => (0, 0)
  | p :: rest =>
    let here := leadingZeros (p :: rest)
    let (start, length) := longestZeros rest
    if length ≤ here then (0, here) else (start + 1, length)

/-- Pieces with colons between; two colons stand for the longest run of at least two zeros. -/
def ipv6Text (pieces : List Nat) : String :=
  let join (l : List Nat) : String := String.intercalate ":" (l.map hexText)
  let (start, length) := longestZeros pieces
  if length < 2 then join pieces
  else join (pieces.take start) ++ "::" ++ join (pieces.drop (start + length))

/-- A host as it is written. -/
def text : Host → String
  | .name text => text
  | .ipv4 address => ipv4Text address
  | .ipv6 pieces => "[" ++ ipv6Text pieces ++ "]"

end Host

/-- An authority as it is written. -/
def Authority.text (a : Authority) : String :=
  a.userInfo ++ a.host.text ++
    (match a.port with
      | some port => ":" ++ toString port
      | none => "")

/-- A path as it is written. -/
def UrlPath.text : UrlPath → String
  | .opaqueText text => text
  | .segments names => String.join (names.map ("/" ++ ·))

namespace Url

/-- What stands between scheme and path. A path that starts with two slashes would be taken for an
authority where there is none, so a dot segment comes first. -/
def authorityText (u : Url) : String :=
  match u.authority with
  | some authority => "//" ++ authority.text
  | none => if u.path.text.startsWith "//" then "/." else ""

/-- A URL as it is written. -/
def text (u : Url) : String :=
  u.scheme ++ ":" ++ u.authorityText ++ u.path.text ++
    (match u.query with
      | some query => "?" ++ query
      | none => "") ++
    (match u.fragment with
      | some fragment => "#" ++ fragment
      | none => "")

end Url

end RestSuite
