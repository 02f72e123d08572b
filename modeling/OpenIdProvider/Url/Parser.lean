import OpenIdProvider.Url.Basic
import OpenIdProvider.Url.Domain

/-!
# Reading URLs

`Url.parse` reads an absolute URL. It cuts controls and spaces from both ends,
leaves out tabs and line ends, takes a backslash for a slash in the schemes of
the web, and brings host, port and path into canonical form: a domain in ASCII,
no default port, no dot segments, and percent codes for characters outside the
set of each part.
-/

namespace OpenIdProvider.Url

/-! ## Schemes -/

/-- The schemes with an authority and a default port. -/
def defaultPorts : List (String × Nat) :=
  [("http", 80), ("https", 443), ("ws", 80), ("wss", 443), ("ftp", 21)]

/-- Whether the rules of the web's schemes hold. -/
def isSpecial (scheme : String) : Bool :=
  scheme == "file" || defaultPorts.any (·.1 == scheme)

/-- Whether a character ends a path segment. -/
def isSlash (special : Bool) (c : Char) : Bool :=
  c == '/' || (special && c == '\\')

/-- Whether a character may stand in a scheme. -/
def isSchemeChar (c : Char) : Bool :=
  c.isAlphanum || c == '+' || c == '-' || c == '.'

/-- The scheme in small letters, and the text after its colon. -/
def scheme? (s : List Char) : Option (String × List Char) :=
  let name := s.takeWhile isSchemeChar
  match name, s.drop name.length with
  | c :: _, ':' :: rest =>
    if c.isAlpha then some (String.ofList (name.map Char.toLower), rest) else none
  | _, _ => none

/-! ## Character sets -/

/-- Whether a character is printable ASCII. -/
def isPrintable (c : Char) : Bool :=
  32 ≤ c.toNat && c.toNat < 127

/-- The characters kept in a fragment. -/
def inFragment (c : Char) : Bool :=
  isPrintable c && !" \"<>`".toList.contains c

/-- The characters kept in a path. -/
def inPath (c : Char) : Bool :=
  inFragment c && !"#?\x7b\x7d".toList.contains c

/-- The characters kept in a name or a password. -/
def inUserinfo (c : Char) : Bool :=
  inPath c && !"/:;=@[\\]^|".toList.contains c

/-- The characters kept in a query. -/
def inQuery (special : Bool) (c : Char) : Bool :=
  isPrintable c && !" \"#<>".toList.contains c && !(special && c.toNat == 39)

/-- The text with characters outside a set encoded. -/
def encoded (kept : Char → Bool) (s : List Char) : String :=
  String.ofList (Percent.encode kept s)

/-! ## Paths -/

/-- Whether a segment is a single dot. -/
def isDot (s : String) : Bool :=
  s == "." || s.toLower == "%2e"

/-- Whether a segment is a double dot. -/
def isDoubleDot (s : String) : Bool :=
  s == ".." || s.toLower == "%2e." || s.toLower == ".%2e" || s.toLower == "%2e%2e"

/-- Whether a segment is a letter and a colon, or a bar in place of it. -/
def isDriveLetter (s : String) : Bool :=
  match s.toList with
  | [c, d] => c.isAlpha && (d == ':' || d == '|')
  | _ => false

/-- The segments before the last one taken off, last one first. In a file's path
a drive letter at the root stays. -/
def shorten (file : Bool) : List String → List String
  | [] => []
  | [s] => if file && isDriveLetter s then [s] else []
  | _ :: r => r

/-- A segment as it stands in a path. In a file's path a drive letter at the root
has a colon. -/
def segmentAt (file : Bool) (reversed : List String) (s : String) : String :=
  if file && reversed.isEmpty && isDriveLetter s then String.ofList (s.toList.take 1 ++ [':']) else s

/-- The segments of a path with dots resolved, last one first; `reversed` holds
those before. A dot segment at the end leaves an empty one. -/
def resolve (file : Bool) (reversed : List String) : List String → List String
  | [] => reversed
  | [s] =>
    if isDoubleDot s then "" :: shorten file reversed
    else if isDot s then "" :: reversed
    else segmentAt file reversed s :: reversed
  | s :: r =>
    if isDoubleDot s then resolve file (shorten file reversed) r
    else if isDot s then resolve file reversed r
    else resolve file (segmentAt file reversed s :: reversed) r

/-- The segments of a text. -/
def segments (special : Bool) (s : List Char) : List String :=
  (Form.pieces '/' (s.map fun c => if isSlash special c then '/' else c)).map (encoded inPath)

/-- The segments of a path each after a slash. -/
def joinSegments (ss : List String) : String :=
  String.join (ss.map ("/" ++ ·))

/-- The path of a text after its first slash. -/
def rootedPath (special : Bool) (s : List Char) : String :=
  joinSegments (resolve false [] (segments special s)).reverse

/-- The segments of a file's path, without empty ones at its front. -/
def fileSegments (s : List Char) : List String :=
  let ss := (resolve true [] (segments true s)).reverse
  match ss.dropWhile (·.isEmpty) with
  | [] => [""]
  | ss => ss

/-! ## Parts -/

/-- The parts of a text before its query, the query, and the fragment. -/
def splitEnd (s : List Char) : List Char × Option (List Char) × Option (List Char) :=
  let fragment := match s.dropWhile (· ≠ '#') with
    | [] => none
    | _ :: f => some f
  let s := s.takeWhile (· ≠ '#')
  match s.dropWhile (· ≠ '?') with
  | [] => (s, none, fragment)
  | _ :: q => (s.takeWhile (· ≠ '?'), some q, fragment)

/-- The text before the host up to its last at sign, if there is one, and the
text after it. -/
def splitUser (s : List Char) : Option (List Char) × List Char :=
  let back := s.reverse
  match back.dropWhile (· ≠ '@') with
  | [] => (none, s)
  | _ :: user => (some user.reverse, (back.takeWhile (· ≠ '@')).reverse)

/-- The name and the password in the text before a host. An empty password is
none. -/
def readUser (user : List Char) : String × Option String :=
  let name := user.takeWhile (· ≠ ':')
  let password := user.drop (name.length + 1)
  (encoded inUserinfo name,
    if password.isEmpty then none else some (encoded inUserinfo password))

/-- The text of a host up to a colon outside brackets, and the text after it. -/
def splitHost : (bracketed : Bool) → List Char → List Char × List Char
  | _, [] => ([], [])
  | bracketed, c :: r =>
    if c = ':' && !bracketed then ([], c :: r)
    else
      let inside := if c = '[' then true else if c = ']' then false else bracketed
      let (host, rest) := splitHost inside r
      (c :: host, rest)

/-- The address in brackets, if a host begins with one. -/
def bracketed? (s : List Char) : Option (Except UrlError Host) :=
  match s with
  | '[' :: r =>
    some <| match r.reverse with
      | ']' :: inner =>
        match Host.ipv6? inner.reverse with
        | some ps => .ok (.ipv6 ps)
        | none => .error .invalidIpv6
      | _ => .error .invalidIpv6
  | _ => none

/-- The host of a scheme of the web. -/
def specialHost (s : List Char) : Except UrlError Host :=
  match bracketed? s with
  | some host => host
  | none =>
    match Domain.toAscii? (Percent.decode s) with
    | none => .error .invalidDomain
    | some [] => .error .emptyHost
    | some d =>
      if Host.endsInNumber d then
        match Host.ipv4? d with
        | some a => .ok (.ipv4 a)
        | none => .error .invalidIpv4
      else .ok (.domain (String.ofList d))

/-- The host of another scheme, kept as it is written. -/
def otherHost (s : List Char) : Except UrlError Host :=
  match bracketed? s with
  | some host => host
  | none =>
    if s.any fun c => c == '\x00' || "\t\n\r #/:<>?@[\\]^|".toList.contains c then
      .error .invalidDomainCharacter
    else .ok (.domain (encoded (fun c => 32 ≤ c.toNat && c.toNat < 127) s))

/-- The port after a colon; none if no digit follows or it is that of the
scheme. -/
def readPort (scheme : String) (s : List Char) : Except UrlError (Option Nat) :=
  if s.isEmpty then .ok none
  else match Decimal.natural? s with
    | none => .error .invalidPort
    | some n =>
      if 65535 < n then .error .invalidPort
      else .ok (if defaultPorts.lookup scheme == some n then none else some n)

/-- The authority at the front of a text that holds no slash, and what it leaves
for the path: in a scheme not of the web a backslash ends the port. The flag says
whether the URL goes on after the text. -/
def readAuthority (scheme : String) (goesOn : Bool) (s : List Char) :
    Except UrlError (Authority × List Char) := do
  let special := isSpecial scheme
  let (user, s) := splitUser s
  let (username, password) := (user.map readUser).getD ("", none)
  let (hostText, rest) := splitHost false s
  if hostText.isEmpty && (special || (user == some [] && goesOn) || !rest.isEmpty) then
    throw .emptyHost
  let host ← if special then specialHost hostText else otherHost hostText
  if hostText.isEmpty && (username ≠ "" || password.isSome) then throw .emptyHost
  let portText := (rest.drop 1).takeWhile (· ≠ '\\')
  let port ← readPort scheme portText
  return (⟨username, password, host, port⟩, (rest.drop 1).drop portText.length)

/-! ## URLs -/

/-- A URL with the query and the fragment of a text. -/
def withEnd (scheme : String) (authority : Option Authority) (path : String)
    (query fragment : Option (List Char)) : Url :=
  { scheme, authority, path
    query := query.map (encoded (inQuery (isSpecial scheme)))
    fragment := fragment.map (encoded inFragment) }

/-- The URL of a scheme and the text after its two slashes. -/
def parseHierarchy (scheme : String) (s : List Char) : Except UrlError Url := do
  let special := isSpecial scheme
  let (front, query, fragment) := splitEnd s
  let authorityText := front.takeWhile fun c => !isSlash special c
  let pathText := front.drop authorityText.length
  let goesOn := !pathText.isEmpty || query.isSome || fragment.isSome
  let (authority, left) ← readAuthority scheme goesOn authorityText
  let path := match left, pathText with
    | [], [] => if special then "/" else ""
    | [], _ :: r => rootedPath special r
    | left, r => rootedPath special (left ++ r)
  return withEnd scheme (some authority) path query fragment

/-- The authority of a file, from the text of its host. -/
def fileAuthority (s : List Char) : Except UrlError Authority := do
  let nowhere : Authority := ⟨"", none, .domain "", none⟩
  if s.isEmpty then return nowhere
  let host ← specialHost s
  return if host == .domain "localhost" then nowhere else { nowhere with host }

/-- The URL of a file. Before a drive letter a host does not count. -/
def parseFile (s : List Char) : Except UrlError Url := do
  let (front, query, fragment) := splitEnd s
  let finish (authority : Authority) (path : List Char) : Url :=
    let ss := fileSegments path
    let authority := match ss with
      | d :: _ => if isDriveLetter d then { authority with host := .domain "" } else authority
      | [] => authority
    withEnd "file" (some authority) (joinSegments ss) query fragment
  let nowhere : Authority := ⟨"", none, .domain "", none⟩
  match front with
  | a :: b :: r =>
    if isSlash true a && isSlash true b then
      let hostText := r.takeWhile fun c => !isSlash true c
      if isDriveLetter (String.ofList hostText) then return finish nowhere r
      let authority ← fileAuthority hostText
      return finish authority (r.drop (hostText.length + 1))
    else return finish nowhere (if isSlash true a then b :: r else a :: b :: r)
  | r => return finish nowhere (if r.all (isSlash true) then [] else r)

/-- The URL that the text after a scheme spells. -/
def parseRest (scheme : String) (s : List Char) : Except UrlError Url :=
  if scheme == "file" then parseFile s
  else if isSpecial scheme then parseHierarchy scheme (s.dropWhile (isSlash true))
  else match s with
    | '/' :: '/' :: r => parseHierarchy scheme r
    | s =>
      let (front, query, fragment) := splitEnd s
      let path := match front with
        | '/' :: r => rootedPath false r
        | r => encoded (fun c => 32 ≤ c.toNat && c.toNat < 127) r
      .ok (withEnd scheme none path query fragment)

/-- A text without the controls and spaces at its ends, and without tabs and line
ends. -/
def cleaned (s : String) : List Char :=
  let low (c : Char) := c.toNat ≤ 32
  let s := ((s.toList.dropWhile low).reverse.dropWhile low).reverse
  s.filter fun c => !(c == '\t' || c == '\n' || c == '\r')

/-- The URL that a text spells. -/
def parse (s : String) : Except UrlError Url :=
  match scheme? (cleaned s) with
  | none => .error .relativeWithoutBase
  | some (scheme, rest) => parseRest scheme rest

end OpenIdProvider.Url
