import OpenIdProvider.Crypto.KeyMaterial
import OpenIdProvider.Json.Value

/-!
# Errors

What can go wrong in the store (`StoreError`), in the protocol (`ProtocolError`)
and in an operation as a whole (`Fault`): an operation is refused with an error
of the protocol, or it stops because an instant or a span leaves its range.
Unknown, disabled and replayed things are refused with the same words, so that a
refusal does not tell which check failed.
-/

namespace OpenIdProvider

/-! ## Errors of the store -/

/-- Why the store refuses an operation. -/
inductive StoreError where
  | notFound (entity id : String)
  | duplicate (entity id : String)
  | invalidData (reason : String)
  | connection (reason : String)
  | internal (reason : String)
  deriving DecidableEq, Repr

namespace StoreError

/-- The text of an error. -/
def message : StoreError → String
  | notFound entity id => "Entity not found: " ++ entity ++ " with id '" ++ id ++ "'"
  | duplicate entity id => "Duplicate " ++ entity ++ ": '" ++ id ++ "' already exists"
  | invalidData reason => "Invalid data: " ++ reason
  | connection reason => "Storage connection error: " ++ reason
  | internal reason => "Internal storage error: " ++ reason

/-- Whether a thing was not there. -/
def isNotFound : StoreError → Bool
  | notFound .. => true
  | _ => false

/-- Whether a thing was there already. -/
def isDuplicate : StoreError → Bool
  | duplicate .. => true
  | _ => false

end StoreError

/-! ## Errors of a service -/

/-- Why a service failed, in the words for its operator. -/
inductive ServiceError where
  | config (reason : String)
  | storage (reason : String)
  | crypto (reason : String)
  | authentication
  | validation (reason : String)
  | internal
  deriving DecidableEq, Repr

namespace ServiceError

/-- The text of an error. -/
def message : ServiceError → String
  | config reason => "configuration error: " ++ reason
  | storage reason => "storage error: " ++ reason
  | crypto reason => "cryptographic error: " ++ reason
  | authentication => "authentication failed"
  | validation reason => "validation error: " ++ reason
  | internal => "internal error"

/-- Whether the service is at fault, and not its caller. -/
def isServerError : ServiceError → Bool
  | config _ | storage _ | crypto _ | internal => true
  | authentication | validation _ => false

end ServiceError

/-- An error of the store as one of the service. -/
def StoreError.toService (e : StoreError) : ServiceError :=
  .storage e.message

/-! ## Errors of the protocol -/

/-- Why a request is refused. -/
inductive ProtocolError where
  | invalidRequest (reason : String)
  | invalidClient (reason : String)
  | invalidGrant (reason : String)
  | unauthorizedClient (reason : String)
  | unsupportedGrantType (reason : String)
  | invalidScope (reason : String)
  | unsupportedResponseType (reason : String)
  | accessDenied (reason : String)
  | invalidToken (reason : String)
  | noSigningKey
  | tokenSigning (reason : String)
  | storage (e : StoreError)
  | keyMaterial (e : KeyError)
  | serverError (reason : String)
  deriving DecidableEq, Repr

namespace ProtocolError

/-- The code of an error in a response. -/
def code : ProtocolError → String
  | invalidRequest _ => "invalid_request"
  | invalidClient _ => "invalid_client"
  | invalidGrant _ => "invalid_grant"
  | unauthorizedClient _ => "unauthorized_client"
  | unsupportedGrantType _ => "unsupported_grant_type"
  | invalidScope _ => "invalid_scope"
  | unsupportedResponseType _ => "unsupported_response_type"
  | accessDenied _ => "access_denied"
  | invalidToken _ => "invalid_token"
  | noSigningKey | tokenSigning _ | storage _ | keyMaterial _ | serverError _ => "server_error"

/-- The status of a response with an error. -/
def status : ProtocolError → Nat
  | invalidRequest _ | invalidScope _ | unsupportedGrantType _ | unsupportedResponseType _
  | invalidGrant _ | unauthorizedClient _ => 400
  | invalidClient _ | invalidToken _ => 401
  | accessDenied _ => 403
  | noSigningKey | tokenSigning _ | storage _ | keyMaterial _ | serverError _ => 500

/-- Whether the provider is at fault, and not its caller. -/
def isServerError (e : ProtocolError) : Bool :=
  500 ≤ e.status

/-- The text of an error. -/
def message : ProtocolError → String
  | invalidRequest reason => "invalid_request: " ++ reason
  | invalidClient reason => "invalid_client: " ++ reason
  | invalidGrant reason => "invalid_grant: " ++ reason
  | unauthorizedClient reason => "unauthorized_client: " ++ reason
  | unsupportedGrantType reason => "unsupported_grant_type: " ++ reason
  | invalidScope reason => "invalid_scope: " ++ reason
  | unsupportedResponseType reason => "unsupported_response_type: " ++ reason
  | accessDenied reason => "access_denied: " ++ reason
  | invalidToken reason => "invalid_token: " ++ reason
  | noSigningKey => "no usable signing key"
  | tokenSigning reason => "token signing failed: " ++ reason
  | storage e => "storage failure: " ++ e.message
  | keyMaterial e => "key material failure: " ++ e.message
  | serverError reason => "server_error: " ++ reason

/-- What a response says of an error: nothing specific if the provider is at
fault. -/
def publicMessage (e : ProtocolError) : String :=
  if e.isServerError then "internal server error" else e.message

/-- The body of a response with an error. -/
def toJson (e : ProtocolError) : Json :=
  .object [("error", .string e.code), ("error_description", .string e.publicMessage)]

end ProtocolError

/-! ## Faults -/

/-- Why an operation did not end well. -/
inductive Fault where
  /-- The operation was refused. -/
  | refused (e : ProtocolError)
  /-- An instant or a span left its range, and the operation stopped there. -/
  | outOfRange
  deriving DecidableEq, Repr

end OpenIdProvider
