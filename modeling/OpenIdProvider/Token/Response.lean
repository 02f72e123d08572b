import OpenIdProvider.Json.Value

/-!
# Token responses

What a client gets when it is granted a token.
-/

namespace OpenIdProvider

/-- The answer to a token request. -/
structure TokenResponse where
  accessToken : String
  /-- The lifetime of the access token in seconds. -/
  expiresIn : Int
  refreshToken : Option String
  idToken : Option String
  scope : Option String
  deriving DecidableEq

namespace TokenResponse

/-- An answer with an access token alone. -/
def bearer (accessToken : String) (expiresIn : Int) (scope : Option String) : TokenResponse :=
  ⟨accessToken, expiresIn, none, none, scope⟩

/-- The JSON form of an answer. -/
def toJson (r : TokenResponse) : Json :=
  .object ([("access_token", .string r.accessToken), ("token_type", .string "Bearer"),
      ("expires_in", .integer r.expiresIn)]
    ++ Json.memberIf "refresh_token" .string r.refreshToken
    ++ Json.memberIf "id_token" .string r.idToken ++ Json.memberIf "scope" .string r.scope)

end TokenResponse

end OpenIdProvider
