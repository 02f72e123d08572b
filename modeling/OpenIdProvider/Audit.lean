import OpenIdProvider.Text.Uuid
import OpenIdProvider.Time.Timestamp

/-!
# Audit events

Every authorization, authentication and token operation leaves an event. An event
holds identifiers and never a secret, an assertion or a token. A record of an
event adds an identifier and the instant at which it was made.
-/

namespace OpenIdProvider

/-- What an event reports. -/
inductive EventType where
  | authorizationRequest
  | authorizationRequestError
  | loginComplete
  | clientLogin
  | clientLoginError
  | codeToToken
  | codeToTokenError
  | refreshToken
  | refreshTokenError
  | clientCredentials
  | anonymousToken
  | revokeGrant
  | signingKeysLoaded
  deriving DecidableEq

namespace EventType

/-- The name of a type of event. -/
def name : EventType → String
  | authorizationRequest => "AUTHORIZATION_REQUEST"
  | authorizationRequestError => "AUTHORIZATION_REQUEST_ERROR"
  | loginComplete => "LOGIN_COMPLETE"
  | clientLogin => "CLIENT_LOGIN"
  | clientLoginError => "CLIENT_LOGIN_ERROR"
  | codeToToken => "CODE_TO_TOKEN"
  | codeToTokenError => "CODE_TO_TOKEN_ERROR"
  | refreshToken => "REFRESH_TOKEN"
  | refreshTokenError => "REFRESH_TOKEN_ERROR"
  | clientCredentials => "CLIENT_CREDENTIALS"
  | anonymousToken => "ANONYMOUS_TOKEN"
  | revokeGrant => "REVOKE_GRANT"
  | signingKeysLoaded => "SIGNING_KEYS_LOADED"

/-- The types of events with their names. -/
def names : List (String × EventType) :=
  [authorizationRequest, authorizationRequestError, loginComplete, clientLogin, clientLoginError,
    codeToToken, codeToTokenError, refreshToken, refreshTokenError, clientCredentials,
    anonymousToken, revokeGrant, signingKeysLoaded].map fun t => (t.name, t)

end EventType

/-- How an operation ended. -/
inductive Outcome where
  | success
  | failure
  deriving DecidableEq

namespace Outcome

/-- The name of an outcome. -/
def name : Outcome → String
  | success => "success"
  | failure => "failure"

/-- The outcomes with their names. -/
def names : List (String × Outcome) :=
  [("success", success), ("failure", failure)]

end Outcome

/-- An event. -/
structure AuditEvent where
  eventType : EventType
  /-- The error of a failure; a success has none. -/
  error : Option String := none
  tenantId : Option String := none
  clientId : Option String := none
  userId : Option String := none
  details : List (String × String) := []
  deriving DecidableEq

namespace AuditEvent

/-- How the reported operation ended. -/
def outcome (e : AuditEvent) : Outcome :=
  if e.error.isSome then .failure else .success

end AuditEvent

/-- A line of the audit log. -/
structure AuditLine where
  level : String
  message : String
  eventType : String
  tenantId : String
  clientId : String
  userId : String
  error : Option String
  details : List (String × String)
  deriving DecidableEq

/-- The line of an event; a missing identifier is a hyphen there. -/
def AuditEvent.line (e : AuditEvent) : AuditLine where
  level := match e.outcome with | .success => "INFO" | .failure => "WARN"
  message := match e.outcome with
    | .success => "protocol event"
    | .failure => "protocol event failed"
  eventType := e.eventType.name
  tenantId := e.tenantId.getD "-"
  clientId := e.clientId.getD "-"
  userId := e.userId.getD "-"
  error := e.error
  details := e.details

/-- The JSON form of a detail. -/
def detailToJson (d : String × String) : Json :=
  .array [.string d.1, .string d.2]

/-- The JSON form of a line. -/
def AuditLine.toJson (l : AuditLine) : Json :=
  .object ([("level", .string l.level), ("message", .string l.message),
      ("event_type", .string l.eventType), ("tenant_id", .string l.tenantId),
      ("client_id", .string l.clientId), ("user_id", .string l.userId)]
    ++ Json.memberIf "error" .string l.error
    ++ [("details", .array (l.details.map detailToJson))])

/-- The record of an event. -/
structure AuditRecord where
  id : Uuid
  timestamp : Instant
  eventType : EventType
  outcome : Outcome
  tenantId : Option String
  clientId : Option String
  userId : Option String
  error : Option String
  details : List (String × String)
  deriving DecidableEq

/-- The record of an event with an identifier and an instant. -/
def AuditEvent.record (e : AuditEvent) (id : Uuid) (timestamp : Instant) : AuditRecord :=
  { id, timestamp, eventType := e.eventType, outcome := e.outcome, tenantId := e.tenantId
    clientId := e.clientId, userId := e.userId, error := e.error, details := e.details }

namespace AuditRecord

/-- Reads a detail. -/
def detailOfJson? : Json → Option (String × String)
  | .array [.string key, .string value] => some (key, value)
  | _ => none

/-- Reads a UUID. -/
def idOfJson? (j : Json) : Option Uuid :=
  (Json.text? j).bind Uuid.read?

/-- The JSON form of a record. -/
def toJson (r : AuditRecord) : Json :=
  .object [("id", .string r.id.text), ("timestamp", r.timestamp.toJson),
    ("event_type", .string r.eventType.name), ("outcome", .string r.outcome.name),
    ("tenant_id", .ofText? r.tenantId), ("client_id", .ofText? r.clientId),
    ("user_id", .ofText? r.userId), ("error", .ofText? r.error),
    ("details", .array (r.details.map detailToJson))]

/-- The names of the fields, in order. -/
def fieldNames : List String :=
  ["id", "timestamp", "event_type", "outcome", "tenant_id", "client_id", "user_id", "error",
    "details"]

/-- Reads a record. -/
def ofJson? (j : Json) : Option AuditRecord := do
  let r ← Json.Record.ofJson? fieldNames j
  return {
    id := ← r.required "id" idOfJson?
    timestamp := ← r.required "timestamp" Instant.ofJson?
    eventType := ← r.required "event_type" (Json.variant? EventType.names)
    outcome := ← r.required "outcome" (Json.variant? Outcome.names)
    tenantId := ← r.optional "tenant_id" Json.text?
    clientId := ← r.optional "client_id" Json.text?
    userId := ← r.optional "user_id" Json.text?
    error := ← r.optional "error" Json.text?
    details := ← r.required "details" (Json.list? detailOfJson?) }

end AuditRecord

end OpenIdProvider
