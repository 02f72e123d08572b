import OpenIdProvider.Crypto.Sha256
import OpenIdProvider.Error
import OpenIdProvider.Text.Base64

/-!
# Proof key for code exchange

A client sends the challenge of a secret verifier with its authorization request,
and the verifier itself when it redeems the code.
-/

namespace OpenIdProvider.Pkce

/-- The one method that is supported. -/
def s256 : String := "S256"

/-- The challenge of a verifier: its SHA-256 digest in base64url. -/
def challenge (verifier : String) : String :=
  Base64.encodeUrl (Sha256.digest (Utf8.ofString verifier))

/-- The characters of a verifier. -/
def isUnreserved (c : Char) : Bool :=
  c.isAlphanum || c = '-' || c = '.' || c = '_' || c = '~'

/-- Checks a verifier against a challenge. -/
def check (verifier codeChallenge : String) : Except ProtocolError Unit :=
  if verifier.utf8ByteSize < 43 || 128 < verifier.utf8ByteSize then
    .error (.invalidGrant "code_verifier must be between 43 and 128 characters")
  else if !verifier.toList.all isUnreserved then
    .error (.invalidGrant "code_verifier contains invalid characters")
  else if challenge verifier ≠ codeChallenge then
    .error (.invalidGrant "PKCE verification failed")
  else .ok ()

/-- Checks what was sent when a code is redeemed against what its request had. -/
def checkRedemption (codeChallenge method verifier : Option String) : Except ProtocolError Unit :=
  match codeChallenge, verifier with
  | some codeChallenge, some verifier =>
    if method = some s256 then check verifier codeChallenge
    else .error (.invalidGrant "unsupported code_challenge_method")
  | some _, none => .error (.invalidGrant "code_verifier is required")
  | none, some _ => .error (.invalidGrant "code_verifier sent without a code_challenge")
  | none, none => .ok ()

end OpenIdProvider.Pkce
