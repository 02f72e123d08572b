import OpenIdProvider.Json.Record
import OpenIdProvider.Text.Base64

/-!
# Signed tokens

The compact form of a signed token: header, payload and signature in base64url,
with dots between them. The last two dots separate the parts. The header names
the algorithm and, if it likes, the key; its other members must have the right
shape but are not used.
-/

namespace OpenIdProvider

/-- Why a token is not accepted. -/
inductive TokenFault where
  /-- The token has no three parts. -/
  | shape
  /-- A part is no base64url text. -/
  | base64
  /-- A part is not the JSON that it should be. -/
  | json
  | algorithm
  | signature
  | issuer
  | missingClaim (name : String)
  deriving DecidableEq, Repr

/-- The text of a fault. -/
def TokenFault.message : TokenFault → String
  | shape => "InvalidToken"
  | base64 => "Base64 error: invalid text"
  | json => "JSON error: unexpected value"
  | algorithm => "InvalidAlgorithm"
  | signature => "InvalidSignature"
  | issuer => "InvalidIssuer"
  | missingClaim name => "Missing required claim: " ++ name

/-- The algorithms of signed tokens. -/
inductive SignatureAlgorithm where
  | hs256 | hs384 | hs512
  | es256 | es384
  | rs256 | rs384 | rs512
  | ps256 | ps384 | ps512
  | edDsa
  deriving DecidableEq

namespace SignatureAlgorithm

/-- The name of an algorithm. -/
def name : SignatureAlgorithm → String
  | hs256 => "HS256"
  | hs384 => "HS384"
  | hs512 => "HS512"
  | es256 => "ES256"
  | es384 => "ES384"
  | rs256 => "RS256"
  | rs384 => "RS384"
  | rs512 => "RS512"
  | ps256 => "PS256"
  | ps384 => "PS384"
  | ps512 => "PS512"
  | edDsa => "EdDSA"

/-- The algorithms with their names. -/
def names : List (String × SignatureAlgorithm) :=
  [hs256, hs384, hs512, es256, es384, rs256, rs384, rs512, ps256, ps384, ps512, edDsa].map
    fun a => (a.name, a)

end SignatureAlgorithm

/-- The header of a signed token, as far as it is used. -/
structure TokenHeader where
  algorithm : SignatureAlgorithm
  keyId : Option String
  deriving DecidableEq

namespace TokenHeader

/-- The optional members of a header that are texts. -/
def textNames : List String :=
  ["typ", "cty", "jku", "kid", "x5u", "x5t", "x5t#S256", "enc", "zip", "url", "nonce"]

/-- The optional members of a header that are lists of texts. -/
def listNames : List String :=
  ["x5c", "crit"]

/-- Whether an optional member of an object is missing or read by `f`. -/
def fits {α : Type} (f : Json → Option α) (j : Json) (name : String) : Bool :=
  (j.member? name).all fun v => (Json.optional? f v).isSome

/-- Whether a member of an object is a text, and one of some texts. -/
def isOneOf (texts : List String) (j : Json) (name : String) : Bool :=
  ((j.member? name).bind Json.text?).any texts.contains

/-- Whether a member of an object is a text. -/
def isText (j : Json) (name : String) : Bool :=
  ((j.member? name).bind Json.text?).isSome

/-- Whether an object is a public or shared key of one of the known types. -/
def isKey (j : Json) : Bool :=
  let curves := ["P-256", "P-384", "P-521", "Ed25519"]
  (isOneOf ["EC"] j "kty" && isOneOf curves j "crv" && isText j "x" && isText j "y")
    || (isOneOf ["RSA"] j "kty" && isText j "n" && isText j "e")
    || (isOneOf ["oct"] j "kty" && isText j "k")
    || (isOneOf ["OKP"] j "kty" && isOneOf curves j "crv" && isText j "x")

/-- Reads the key that a header may hold. All members are looked at, also those that no
key has. -/
def key? (j : Json) : Option Unit :=
  match j with
  | .object ms =>
    let known := ms.filter fun m =>
      ["use", "key_ops", "alg", "kid", "x5u", "x5c", "x5t", "x5t#S256", "kty", "crv", "x", "y",
        "n", "e", "k"].contains m.1
    if (known.map Prod.fst).Nodup && j.isReadable && isKey j
        && ["use", "alg", "kid", "x5u", "x5t", "x5t#S256"].all (fits Json.text? j)
        && ["key_ops", "x5c"].all (fits (Json.list? Json.text?) j) then some ()
    else none
  | _ => none

/-- Reads a header. It is an object, its known members stand there once, and its
unknown ones are texts. -/
def ofJson? (j : Json) : Option TokenHeader :=
  match j with
  | .object ms => do
    let known := ms.filter fun m => (textNames ++ listNames ++ ["alg", "jwk"]).contains m.1
    let unknown := ms.filter fun m => !(textNames ++ listNames ++ ["alg", "jwk"]).contains m.1
    let algorithm ← (j.member? "alg").bind (Json.variant? SignatureAlgorithm.names)
    if (known.map Prod.fst).Nodup && unknown.all (fun m => (Json.text? m.2).isSome)
        && textNames.all (fits Json.text? j)
        && listNames.all (fits (Json.list? Json.text?) j) && fits key? j "jwk" then
      some ⟨algorithm, (j.member? "kid").bind Json.text?⟩
    else none
  | _ => none

end TokenHeader

/-- The three parts of a token as they are written. -/
structure Jws where
  header : String
  payload : String
  signature : String
  deriving DecidableEq

namespace Jws

/-- A text before and after its last dot. -/
def splitLastDot? (s : List Char) : Option (List Char × List Char) :=
  match s.reverse.span (· ≠ '.') with
  | (after, _ :: before) => some (before.reverse, after.reverse)
  | (_, []) => none

/-- The parts of a token. -/
def ofText? (token : String) : Option Jws := do
  let (message, signature) ← splitLastDot? token.toList
  let (header, payload) ← splitLastDot? message
  return ⟨.ofList header, .ofList payload, .ofList signature⟩

/-- What is signed. -/
def message (t : Jws) : String :=
  t.header ++ "." ++ t.payload

/-- The token. -/
def text (t : Jws) : String :=
  t.message ++ "." ++ t.signature

/-- The JSON value that a part stands for. -/
def jsonOf (part : String) : Except TokenFault Json :=
  match Base64.decodeUrl? part with
  | none => .error .base64
  | some bytes =>
    match Json.parseBytes? bytes with
    | some j => .ok j
    | none => .error .json

/-- The header. -/
def readHeader (t : Jws) : Except TokenFault TokenHeader := do
  match TokenHeader.ofJson? (← jsonOf t.header) with
  | some h => return h
  | none => throw .json

/-- The payload, read by `f`. -/
def readPayload {α : Type} (t : Jws) (f : Json → Option α) : Except TokenFault α := do
  match f (← jsonOf t.payload) with
  | some a => return a
  | none => throw .json

/-- A token with a header, a payload and a signature made by `sign?`. -/
def create? (header payload : Json) (sign? : Bytes → Option Bytes) : Option Jws := do
  let part (j : Json) : String := Base64.encodeUrl (Utf8.ofString j.render)
  let unsigned : Jws := ⟨part header, part payload, ""⟩
  let signature ← sign? (Utf8.ofString unsigned.message)
  return { unsigned with signature := Base64.encodeUrl signature }

/-- Checks the signature with `accepts`, which gets the message and the
signature. -/
def checkSignature (t : Jws) (accepts : Bytes → Bytes → Bool) : Except TokenFault Unit :=
  match Base64.decodeUrl? t.signature with
  | none => .error .base64
  | some signature =>
    if accepts (Utf8.ofString t.message) signature then .ok () else .error .signature

end Jws

/-! ## The registered claims -/

/-- Whether a value ends where it is expected to when a number is looked for: a
list or an object must be empty, and what cannot be read given up at its end. -/
def isSkippable : Json → Bool
  | .array (_ :: _) | .object (_ :: _) => false
  | .unreadable ends => ends
  | _ => true

/-- Whether a value ends where it is expected to when a text is looked for: it is
no list and no object, and what cannot be read is given up at its end. -/
def isScalar : Json → Bool
  | .array _ | .object _ => false
  | .unreadable ends => ends
  | _ => true

/-- Whether the registered claims `exp`, `nbf`, `sub`, `iss` and `aud` of a payload
can be looked at: none stands there twice, and a list has exactly these five. -/
def registeredClaimsFit (j : Json) : Bool :=
  match Json.Record.ofJson? ["exp", "nbf", "sub", "iss", "aud"] j with
  | none => false
  | some r => (!r.positional || r.fields.length == 5)
    && (r.fields.lookup "exp").all isSkippable && (r.fields.lookup "nbf").all isSkippable
    && (r.fields.lookup "sub").all isScalar

end OpenIdProvider
