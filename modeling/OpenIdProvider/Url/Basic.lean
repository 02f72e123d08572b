import OpenIdProvider.Url.Host

/-!
# URLs

The parts of a URL and its text. The path is kept as text: an opaque path of a
URL without authority, or segments each after a slash. `Url.appendPairs` and
`Url.withFragmentPairs` add form-encoded pairs to the query and put them in place
of the fragment; nothing else of the URL changes.
-/

namespace OpenIdProvider

/-- Why a text is not a URL. -/
inductive UrlError where
  | relativeWithoutBase
  | emptyHost
  | invalidPort
  | invalidIpv4
  | invalidIpv6
  | invalidDomain
  | invalidDomainCharacter
  deriving DecidableEq, Repr

/-- The text of a URL error. -/
def UrlError.message : UrlError → String
  | relativeWithoutBase => "relative URL without a base"
  | emptyHost => "empty host"
  | invalidPort => "invalid port number"
  | invalidIpv4 => "invalid IPv4 address"
  | invalidIpv6 => "invalid IPv6 address"
  | invalidDomain => "invalid international domain name"
  | invalidDomainCharacter => "invalid domain character"

/-- The part of a URL between `//` and the path. -/
structure Authority where
  username : String
  password : Option String
  /-- The empty domain where the text names no host. -/
  host : Host
  /-- The port, if it is not that of the scheme. -/
  port : Option Nat
  deriving DecidableEq, Repr

/-- A URL. -/
structure Url where
  scheme : String
  authority : Option Authority
  path : String
  query : Option String
  fragment : Option String
  deriving DecidableEq, Repr

namespace Authority

/-- The name and the password before a host. -/
def userChars (a : Authority) : List Char :=
  let user := a.username.toList ++ (a.password.elim [] fun p => ':' :: p.toList)
  if user.isEmpty then [] else user ++ ['@']

/-- The text of an authority. -/
def chars (a : Authority) : List Char :=
  a.userChars ++ a.host.chars ++ a.port.elim [] fun p => ':' :: Decimal.digits p

end Authority

namespace Url

/-- What stands between the scheme and the path. Without an authority, a path
that begins with two slashes is set apart from one. -/
def frontChars (u : Url) : List Char :=
  match u.authority with
  | some a => '/' :: '/' :: a.chars
  | none => if ['/', '/'].isPrefixOf u.path.toList then ['/', '.'] else []

/-- The text of a URL. -/
def chars (u : Url) : List Char :=
  u.scheme.toList ++ ':' :: (u.frontChars ++ u.path.toList
    ++ (u.query.elim [] fun q => '?' :: q.toList)
    ++ u.fragment.elim [] fun f => '#' :: f.toList)

/-- The text of a URL. -/
def text (u : Url) : String :=
  String.ofList u.chars

/-- The host of a URL, if it names one. -/
def host? (u : Url) : Option Host :=
  match u.authority with
  | some a => if a.host == .domain "" then none else some a.host
  | none => none

/-- Adds pairs at the end of the query. -/
def appendPairs (u : Url) (ps : List Form.Pair) : Url :=
  let added := Form.encode ps
  match u.query with
  | none => { u with query := some added }
  | some q =>
    if q.isEmpty then { u with query := some added }
    else if ps.isEmpty then u
    else { u with query := some (q ++ "&" ++ added) }

/-- Puts pairs in place of the fragment. -/
def withFragmentPairs (u : Url) (ps : List Form.Pair) : Url :=
  { u with fragment := some (Form.encode ps) }

/-- Whether a URL leads to the machine itself. -/
def isLoopback (u : Url) : Bool :=
  u.host?.elim false Host.isLoopback

end Url

end OpenIdProvider
