import OpenIdProvider.Crypto.Aes
import OpenIdProvider.Crypto.Der
import OpenIdProvider.Crypto.Hmac
import OpenIdProvider.Crypto.KeyMaterial
import OpenIdProvider.Crypto.Pem
import OpenIdProvider.Crypto.Rsa
import OpenIdProvider.Crypto.Sha256
import OpenIdProvider.Json.Reader
import OpenIdProvider.Json.Record
import OpenIdProvider.Json.Value
import OpenIdProvider.Text.Base64
import OpenIdProvider.Text.Blank
import OpenIdProvider.Text.Decimal
import OpenIdProvider.Text.Form
import OpenIdProvider.Text.Hex
import OpenIdProvider.Text.Percent
import OpenIdProvider.Text.Utf8
import OpenIdProvider.Time.Calendar
import OpenIdProvider.Time.Instant
import OpenIdProvider.Time.Timestamp
import OpenIdProvider.Url.Host
import OpenIdProvider.Url.Punycode
import OpenIdProvider.Url.Basic
import OpenIdProvider.Url.Domain
import OpenIdProvider.Url.Parser
import OpenIdProvider.Entity.Client
import OpenIdProvider.Entity.Scope
import OpenIdProvider.Entity.SigningKey
import OpenIdProvider.Entity.Tenant
import OpenIdProvider.Entity.User
import OpenIdProvider.Record.Basic
import OpenIdProvider.Audit
import OpenIdProvider.Config
import OpenIdProvider.Error
import OpenIdProvider.Store.Basic
import OpenIdProvider.Token.Claims
import OpenIdProvider.Token.Jws
import OpenIdProvider.Key.Current
import OpenIdProvider.Provider.Basic
import OpenIdProvider.Provider.Issuance
import OpenIdProvider.Authorization.Pkce
import OpenIdProvider.Authorization.Redirect
import OpenIdProvider.ClientAuth.Credentials
import OpenIdProvider.Crypto.Compare
import OpenIdProvider.Provider.Authorization
import OpenIdProvider.Provider.ClientAuthentication
import OpenIdProvider.Provider.Grants
import OpenIdProvider.Discovery
import OpenIdProvider.Http.Message
import OpenIdProvider.Http.Route
import OpenIdProvider.Http.Service
import OpenIdProvider.Startup.Seed
import OpenIdProvider.Json.Form
import OpenIdProvider.Proofs.CodeBinding
import OpenIdProvider.Proofs.Replay
import OpenIdProvider.Proofs.TokenLifetime
import OpenIdProvider.Proofs.KeyFreshness
import OpenIdProvider.Proofs.Refresh
import OpenIdProvider.Proofs.RefreshChain
import OpenIdProvider.Proofs.ScopeNarrowing
import OpenIdProvider.Proofs.Revocation
import OpenIdProvider.Proofs.LiveRecords
import OpenIdProvider.Proofs.Authentication
import OpenIdProvider.Proofs.Issuance
import OpenIdProvider.Proofs.KeyPublication
import OpenIdProvider.Proofs.KeyRevocation
import OpenIdProvider.Proofs.InactiveTenant
import OpenIdProvider.Proofs.AnonymousUsers
import OpenIdProvider.Proofs.TenantIsolation
import OpenIdProvider.Proofs.LoginCompletion
import OpenIdProvider.Proofs.Reports
import OpenIdProvider.Proofs.UniformRefusals
import OpenIdProvider.Proofs.AuditTrail
import OpenIdProvider.Proofs.ClientIdentity
import OpenIdProvider.Proofs.RecordForms
import OpenIdProvider.Proofs.Startup
import OpenIdProvider.Proofs.TokenEvents
import OpenIdProvider.Proofs.AuditSecrecy
import OpenIdProvider.Proofs.RedirectMatching
import OpenIdProvider.Proofs.AssertionAcceptance
import OpenIdProvider.Proofs.RefreshEffect
import OpenIdProvider.Proofs.AuthorizationDecision
import OpenIdProvider.Proofs.ResponseAgreement
import OpenIdProvider.Proofs.ServiceScopes
import OpenIdProvider.Proofs.LoginLifetime
import OpenIdProvider.Proofs.PointwisePublication
import OpenIdProvider.Proofs.RedirectParameters
import OpenIdProvider.Proofs.Credentials
import OpenIdProvider.Proofs.ScopeTokens
import OpenIdProvider.Proofs.CertificateChain
