import RestSuite.Url.Address
import RestSuite.Url.Domain
import RestSuite.Url.Encoding

/-!
# Reading URLs

Reads a URL, alone or as a reference that is joined to another URL. Blanks at both ends and line
breaks anywhere do not count.
-/

namespace RestSuite.Url

/-! ## Characters that count -/

/-- A control character or a space. -/
def isEdge (c : Char) : Bool :=
  c.toNat ≤ 0x20

/-- The characters that count. -/
def relevant (cs : List Char) : List Char :=
  let front := cs.dropWhile isEdge
  let trimmed := (front.reverse.dropWhile isEdge).reverse
  trimmed.filter fun c => c != '\t' && c != '\n' && c != '\r'

/-- The two kinds of slash. -/
def isSlash (c : Char) : Bool :=
  c == '/' || c == '\\'

/-- A character that separates segments. -/
def separates (special : Bool) (c : Char) : Bool :=
  c == '/' || (special && c == '\\')

/-- A character that ends the path. -/
def endsPath (c : Char) : Bool :=
  c == '?' || c == '#'

/-! ## Scheme -/

/-- A character of a scheme behind the first. -/
def isSchemeChar (c : Char) : Bool :=
  c.isAlphanum || c == '+' || c == '-' || c == '.'

/-- The scheme, in lower case, and what follows its colon. -/
def scheme? (cs : List Char) : Option (String × List Char) :=
  match cs with
  | first :: _ =>
    match cs.dropWhile isSchemeChar with
    | ':' :: rest =>
      if first.isAlpha then
        some (String.ofList ((cs.takeWhile isSchemeChar).map Char.toLower), rest)
      else none
    | _ => none
  | [] => none

/-! ## Authority -/

/-- The user info of an authority, encoded, and what follows it. The last at sign ends it. -/
def readUserInfo (special : Bool) (cs : List Char) : Except UrlError (String × List Char) :=
  let authority := cs.takeWhile fun c => !(separates special c || endsPath c)
  let behind := cs.drop authority.length
  if !authority.contains '@' then .ok ("", cs)
  else
    let host := (authority.reverse.takeWhile (· != '@')).reverse
    let info := authority.take (authority.length - host.length - 1)
    if info.isEmpty then
      if host.isEmpty && !behind.isEmpty then .error .emptyHost else .ok ("", host ++ behind)
    else
      let name := encode userInfoSet (info.takeWhile (· != ':'))
      let password := encode userInfoSet ((info.dropWhile (· != ':')).drop 1)
      let text := if password.isEmpty then name else name ++ ':' :: password
      .ok (String.ofList (if text.isEmpty then [] else text ++ ['@']), host ++ behind)

/-- The characters of a host; a colon inside brackets is one of them. -/
def hostChars (special inBrackets : Bool) : List Char → List Char
  | [] => []
  | c :: rest =>
    if separates special c || endsPath c || (c == ':' && !inBrackets) then []
    else
      let inBrackets := if c == '[' then true else if c == ']' then false else inBrackets
      c :: hostChars special inBrackets rest

/-- The address in brackets. -/
def bracketedHost (cs : List Char) : Except UrlError Host :=
  if cs.getLast? == some ']' then (readIpv6 cs.dropLast).map .ipv6 else .error .invalidIpv6

/-- The host of a special scheme: an address or a domain. -/
def specialHost (cs : List Char) : Except UrlError Host :=
  match cs with
  | '[' :: rest => bracketedHost rest
  | _ =>
    match (decode? cs).bind Domain.toAscii? with
    | none => .error .invalidDomain
    | some domain =>
      if domain.isEmpty then .error .emptyHost
      else if endsInNumber domain then (readIpv4 domain).map .ipv4
      else .ok (.name (String.ofList domain))

/-- Characters that the host of no scheme has. -/
def forbiddenInHost : List Char :=
  ['\x00', '\t', '\n', '\r', ' ', '#', '/', ':', '<', '>', '?', '@', '[', '\\', ']', '^', '|']

/-- The host of a scheme that is not special. -/
def plainHost (cs : List Char) : Except UrlError Host :=
  match cs with
  | '[' :: rest => bracketedHost rest
  | _ =>
    if cs.any forbiddenInHost.contains then .error .invalidHostCharacter
    else .ok (.name (String.ofList (encode [] cs)))

/-- The greatest port. -/
def portLimit : Nat := 65535

/-- The port behind a colon, and what follows. The usual port of the scheme is left out. -/
def readPort (scheme : String) (cs : List Char) : Except UrlError (Option Nat × List Char) :=
  let digits := cs.takeWhile Char.isDigit
  let rest := cs.drop digits.length
  let value := digits.foldl (fun n c => 10 * n + (c.toNat - 0x30)) 0
  let ended :=
    match rest with
    | [] => true
    | c :: _ => isSlash c || endsPath c
  if portLimit < value || !ended then .error .invalidPort
  else if digits.isEmpty || usualPort? scheme == some value then .ok (none, rest)
  else .ok (some value, rest)

/-- The authority behind two slashes, and what follows. -/
def readAuthority (scheme : String) (cs : List Char) : Except UrlError (Authority × List Char) := do
  let special := isSpecial scheme
  let (info, rest) ← readUserInfo special cs
  let written := hostChars special false rest
  let rest := rest.drop written.length
  if special && written.isEmpty then .error .emptyHost
  else
    let host ← if special then specialHost written else plainHost written
    let noHost := host == .name ""
    match rest with
    | ':' :: behind =>
      if noHost then .error .emptyHost
      else
        let (port, rest) ← readPort scheme behind
        .ok (⟨info, host, port⟩, rest)
    | _ =>
      if noHost && info != "" then .error .emptyHost else .ok (⟨info, host, none⟩, rest)

/-! ## Path -/

/-- A letter with a colon or a bar: the name of a drive. -/
def isDrive (segment : String) : Bool :=
  match segment.toList with
  | [letter, sign] => letter.isAlpha && (sign == ':' || sign == '|')
  | _ => false

/-- A drive whose name is written with a colon. -/
def isColonDrive (segment : String) : Bool :=
  isDrive segment && segment.endsWith ":"

/-- The name of a drive with a colon. -/
def driveName (segment : String) : String :=
  String.ofList (segment.toList.take 1 ++ [':'])

/-- A segment that stands for the directory itself. -/
def isDot (segment : String) : Bool :=
  [".", "%2e"].contains (segment.map Char.toLower)

/-- A segment that stands for the directory above. -/
def isDoubleDot (segment : String) : Bool :=
  ["..", "%2e.", ".%2e", "%2e%2e"].contains (segment.map Char.toLower)

/-- Goes up from a directory, given by its names with the last one first. A drive is not left. -/
def above : List String → List String
  | [] => []
  | last :: rest => if isDrive last then last :: rest else rest

/-- Goes into a directory. With `renames`, a drive that is the first name of the path gets a
colon. -/
def below (renames : Bool) (dir : List String) (segment : String) : List String :=
  if renames && dir.isEmpty && isDrive segment then [driveName segment] else segment :: dir

/-- Follows segments from a directory on. The last one is a name there, or empty. -/
def follow (renames : Bool) (dir : List String) : List String → List String
  | [] => dir
  | [last] =>
    if isDoubleDot last then "" :: above dir
    else if isDot last then "" :: dir
    else below renames dir last
  | segment :: rest =>
    if isDoubleDot segment then follow renames (above dir) rest
    else if isDot segment then follow renames dir rest
    else follow renames (below renames dir segment) rest

/-- Cuts a text at its separators. -/
def splitSegments (special : Bool) : List Char → List (List Char)
  | [] => [[]]
  | c :: rest =>
    match splitSegments special rest with
    | [] => [[c]]
    | part :: parts =>
      if separates special c then [] :: part :: parts else (c :: part) :: parts

/-- The names on a path from a directory on, and what follows it. The names of the directory stand
with the last one first. -/
def namesFrom (special renames : Bool) (dir : List String) (cs : List Char) :
    List String × List Char :=
  let written := cs.takeWhile fun c => !endsPath c
  let parts := (splitSegments special written).map fun part => String.ofList (encode pathSet part)
  ((follow renames dir parts).reverse, cs.drop written.length)

/-- The path from a directory on, and what follows it. -/
def pathFrom (scheme : String) (dir : List String) (cs : List Char) : UrlPath × List Char :=
  let (names, rest) := namesFrom (isSpecial scheme) false dir cs
  (.segments names, rest)

/-- The path of a file from a directory on, and what follows it. Empty names at its front do not
count. -/
def filePathFrom (renames : Bool) (dir : List String) (cs : List Char) : UrlPath × List Char :=
  let (names, rest) := namesFrom true renames dir cs
  match names.dropWhile (· == "") with
  | [] => (.segments [""], rest)
  | kept => (.segments kept, rest)

/-- The path behind an authority. -/
def pathAfterAuthority (scheme : String) (cs : List Char) : UrlPath × List Char :=
  match cs with
  | [] => if isSpecial scheme then (.segments [""], []) else (.segments [], [])
  | c :: rest =>
    if separates (isSpecial scheme) c then pathFrom scheme [] rest
    else if endsPath c && !isSpecial scheme then (.segments [], c :: rest)
    else pathFrom scheme [] (c :: rest)

/-! ## Query and fragment -/

/-- A URL whose query and fragment stand at the front of a text. -/
def withRest (u : Url) (cs : List Char) : Url :=
  let query := cs.takeWhile (· != '#')
  let set := if isSpecial u.scheme then specialQuerySet else querySet
  { u with
    query :=
      match query with
      | '?' :: text => some (String.ofList (encode set text))
      | _ => none
    fragment :=
      match cs.dropWhile (· != '#') with
      | '#' :: text => some (String.ofList (encode fragmentSet text))
      | _ => none }

/-- A URL with another fragment. -/
def withFragment (u : Url) (cs : List Char) : Url :=
  { u with fragment := some (String.ofList (encode fragmentSet cs)) }

/-! ## Whole URLs -/

/-- A URL from its authority on. -/
def afterSlashes (scheme : String) (cs : List Char) : Except UrlError Url := do
  let (authority, rest) ← readAuthority scheme cs
  let (path, rest) := pathAfterAuthority scheme rest
  .ok (withRest ⟨scheme, some authority, path, none, none⟩ rest)

/-- The text starts with a segment that names a drive. -/
def startsWithDrive (cs : List Char) : Bool :=
  isDrive (String.ofList (cs.takeWhile fun c => !(isSlash c || endsPath c)))

/-- The host of a file URL. The name of this host is left out. -/
def fileHost (written : List Char) : Except UrlError Host :=
  if written.isEmpty then .ok (.name "")
  else do
    let host ← specialHost written
    .ok (if host == .name "localhost" then .name "" else host)

/-- A file URL with a path below a directory. A path that starts with a drive has no host. -/
def fileBelow (host : Host) (renames : Bool) (dir : List String) (cs : List Char) : Url :=
  let (path, rest) := filePathFrom renames dir cs
  let host := if dir.isEmpty && startsWithDrive cs then .name "" else host
  withRest ⟨"file", some ⟨"", host, none⟩, path, none, none⟩ rest

/-- A file URL with an authority. A drive in place of a host or behind one gets a colon; one behind
three slashes stays as it is written. -/
def fileAfterSlashes (cs : List Char) : Except UrlError Url := do
  let written := cs.takeWhile fun c => !(isSlash c || endsPath c)
  if isDrive (String.ofList written) then .ok (fileBelow (.name "") true [] cs)
  else
    let host ← fileHost written
    let renames := host != .name ""
    match cs.drop written.length with
    | c :: rest =>
      .ok (fileBelow host renames [] (if isSlash c then rest else c :: rest))
    | [] => .ok (fileBelow host renames [] [])

/-- The host of a URL. -/
def host? (u : Url) : Option Host :=
  u.authority.map Authority.host

/-- The names on the path of a URL. -/
def names (u : Url) : List String :=
  match u.path with
  | .segments names => names
  | .opaqueText _ => []

/-- The directory of a URL, with its last name first: the path without the last name. A file path
that is nothing but a drive with a colon is a directory itself. -/
def directory (u : Url) : List String :=
  match u.scheme, u.names with
  | "file", [drive] => if isColonDrive drive then [drive] else []
  | _, names => names.dropLast.reverse

/-- The rest of a file URL, behind the scheme or relative to another file. -/
def readFile (base : Option Url) (cs : List Char) : Except UrlError Url :=
  let baseHost : Host := (base.bind host?).getD (.name "")
  match cs with
  | a :: rest =>
    if isSlash a then
      match rest with
      | b :: behind =>
        if isSlash b then fileAfterSlashes behind else .ok (fromRoot baseHost rest)
      | [] => .ok (fromRoot baseHost rest)
    else
      match base with
      | none => .ok (fileBelow (.name "") true [] cs)
      | some base =>
        if a == '?' then .ok (withRest base cs)
        else if a == '#' then .ok (withFragment base rest)
        else if startsWithDrive cs then .ok (fileBelow (.name "") true [] cs)
        else
          let (path, rest) := filePathFrom true base.directory cs
          .ok (withRest { base with path := path } rest)
  | [] =>
    match base with
    | some base => .ok { base with fragment := none }
    | none => .ok (fileBelow (.name "") false [] [])
where
  /-- A file from the root on: of the drive of the other file, or of its host. -/
  fromRoot (baseHost : Host) (rest : List Char) : Url :=
    if startsWithDrive rest then fileBelow (.name "") false [] rest
    else
      match (base.map names).getD [] with
      | drive :: _ =>
        if isColonDrive drive then fileBelow (.name "") false [drive] rest
        else fileBelow baseHost false [] rest
      | [] => fileBelow baseHost false [] rest

/-- A URL that has a scheme. -/
def readAbsolute (scheme : String) (cs : List Char) : Except UrlError Url :=
  if scheme == "file" then readFile none cs
  else if isSpecial scheme then afterSlashes scheme (cs.dropWhile isSlash)
  else
    match cs with
    | '/' :: '/' :: rest => afterSlashes scheme rest
    | '/' :: rest =>
      let (path, rest) := pathFrom scheme [] rest
      .ok (withRest ⟨scheme, none, path, none, none⟩ rest)
    | _ =>
      let text := cs.takeWhile fun c => !endsPath c
      let path := UrlPath.opaqueText (String.ofList (encode [] text))
      .ok (withRest ⟨scheme, none, path, none, none⟩ (cs.drop text.length))

/-- Reads a URL. A reference without a scheme is none. -/
def parse (text : String) : Except UrlError Url :=
  match scheme? (relevant text.toList) with
  | some (scheme, rest) => readAbsolute scheme rest
  | none => .error .relativeWithoutBase

/-! ## References -/

/-- Joins a reference without a scheme to a URL with a path of segments. -/
def joinRelative (base : Url) (cs : List Char) : Except UrlError Url :=
  match cs with
  | [] => .ok { base with fragment := none }
  | a :: rest =>
    if a == '?' then .ok (withRest base cs)
    else if isSlash a then
      match rest with
      | b :: behind =>
        if isSlash b then
          -- Any number of slashes of mixed kinds is two slashes.
          afterSlashes base.scheme
            (if a == '/' && b == '/' then behind else cs.dropWhile isSlash)
        else fromDirectory [] rest
      | [] => fromDirectory [] rest
    else fromDirectory base.directory cs
where
  /-- A URL with the same authority and a path from a directory on. -/
  fromDirectory (dir : List String) (cs : List Char) : Except UrlError Url :=
    let (path, rest) := pathFrom base.scheme dir cs
    .ok (withRest { base with path := path } rest)

/-- Joins a reference to a URL. One with a scheme stands for itself. -/
def join (base : Url) (reference : String) : Except UrlError Url :=
  let cs := relevant reference.toList
  match scheme? cs with
  | some (scheme, rest) => readAbsolute scheme rest
  | none =>
    match cs with
    | '#' :: rest => .ok (withFragment base rest)
    | _ =>
      match base.path with
      | .opaqueText _ => .error .relativeToOpaque
      | .segments _ =>
        if base.scheme == "file" then readFile (some base) cs else joinRelative base cs

end RestSuite.Url
