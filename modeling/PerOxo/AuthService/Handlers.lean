import PerOxo.AuthService.Redis
import PerOxo.Lib.Json

/-!
# auth-service

`user_token.rs`, `rate_limit.rs`, and what `handlers.rs` and `grpc.rs` answer. The functions are
given what the clock, the database and Redis say; `AuthService/System.lean` puts them together.
-/

set_option autoImplicit false

namespace PerOxo.AuthService

structure UserToken where
  projectId : String
  userId : String
  expiresAt : Nat
  deriving DecidableEq

/-- `serde_json` on `UserToken`: `to_string` and `from_str`. -/
structure Codec where
  toString : UserToken → String
  fromStr : String → Option UserToken

def Codec.RoundTrips (codec : Codec) : Prop := ∀ t, codec.fromStr (codec.toString t) = some t

namespace UserToken

def jsonProjectId : List Char := "\x7b\"project_id\":".toList
def jsonUserId : List Char := ",\"user_id\":".toList
def jsonExpiresAt : List Char := ",\"expires_at\":".toList

/-- What the derived `Serialize` writes. -/
def toJson (t : UserToken) : String :=
  String.ofList (jsonProjectId ++ (Json.quote t.projectId ++ (jsonUserId ++
    (Json.quote t.userId ++ (jsonExpiresAt ++ (Nat.toDigits 10 t.expiresAt ++ ['\x7d']))))))

/-- The derived `Deserialize`, on a text with the fields in this order and no spaces. -/
def ofJson (json : String) : Option UserToken := do
  let rest ← Json.readLiteral jsonProjectId json.toList
  let (projectId, rest) ← Json.readString rest
  let rest ← Json.readLiteral jsonUserId rest
  let (userId, rest) ← Json.readString rest
  let rest ← Json.readLiteral jsonExpiresAt rest
  let (expiresAt, rest) ← Json.readNat rest
  if rest = ['\x7d'] then some ⟨projectId, userId, expiresAt⟩ else none

@[simp] theorem ofJson_toJson (t : UserToken) : ofJson t.toJson = some t := by
  have hnat := Json.readNat_append t.expiresAt (c := '\x7d') rfl []
  simp only [ofJson, toJson, String.toList_ofList, Json.readLiteral_append, Option.bind_eq_bind,
    Option.bind_some, Json.readString_quote, hnat, if_true]

end UserToken

def jsonCodec : Codec := ⟨UserToken.toJson, UserToken.ofJson⟩

theorem jsonCodec_roundTrips : jsonCodec.RoundTrips := UserToken.ofJson_toJson

/-- A status code and the text of the body. -/
abbrev HttpError := Nat × String

def unauthorized : Nat := 401
def tooManyRequests : Nat := 429
def internalServerError : Nat := 500

/-! ## Tokens -/

def tokenPrefix : String := "pxtok_"

def ttlSecs : Nat := 600

/-- `generate_token`, from 24 alphanumeric characters. -/
def generateToken (randString : String) : String := tokenPrefix ++ randString

/-- The payload of `store_user_token`; `now` is in seconds. -/
def userTokenPayload (now : Nat) (projectId userId : String) : UserToken :=
  ⟨projectId, userId, now + ttlSecs⟩

/-- What `verify_user_token` reads out of the answer of `GET`: nothing, where the token is not
there or does not parse. -/
def parsePayload (codec : Codec) (data : Option String) : Option UserToken :=
  data.bind codec.fromStr

/-- The end of `verify_user_token`; `now` is in seconds. -/
def checkExpiry (now : Nat) : Option UserToken → Option UserToken
  | some parsed => if now > parsed.expiresAt then none else some parsed
  | none => none

structure GenerateUserTokenRequest where
  userId : String
  projectId : String
  secretApiKey : String
  deriving DecidableEq

/-- The checks of `generate_user_token_handler`, given what the database has for the project. -/
def checkSecretKey (payload : GenerateUserTokenRequest) :
    Except String (Option String) → Except HttpError Unit
  | .error e => .error (internalServerError, e)
  | .ok none => .error (unauthorized, "Invalid project_id or secret_api_key")
  | .ok (some storedKey) =>
      if storedKey ≠ payload.secretApiKey then .error (unauthorized, "Invalid secret_api_key")
      else .ok ()

/-- How the handler reports an error of `store_user_token`. -/
def storeError (e : String) : HttpError :=
  (internalServerError, "Failed to store token: " ++ e)

/-! ## Answers to a verification -/

/-- `verify_user_token_handler`. -/
def verifyUserTokenHandler : Except String (Option UserToken) → Except HttpError (Option UserToken)
  | .ok result => .ok result
  | .error err => .error (internalServerError, err)

structure VerifyUserTokenResponse where
  found : Bool
  userToken : Option UserToken
  deriving DecidableEq

/-- `AuthServiceImpl::verify_user_token`; the error is the text of `Status::internal`. -/
def grpcVerifyUserToken : Except String (Option UserToken) → Except String VerifyUserTokenResponse
  | .ok (some t) => .ok ⟨true, some t⟩
  | .ok none => .ok ⟨false, none⟩
  | .error e => .error e

/-! ## Rate limit -/

inductive RateLimitError
  | exceeded
  | redisError (e : String)

def maxRequests : Int := 3

def windowSecs : Nat := 3600

def rateLimitKey (googleSub : String) : String := "rl:gen_tenant:" ++ googleSub

/-- The end of `check_rate_limit`, once the window has been set. -/
def checkCount (count : Int) : Except RateLimitError Unit :=
  if count > maxRequests then .error .exceeded else .ok ()

/-- How `generate_tenant_handler` reports it. -/
def rateLimitResponse : RateLimitError → HttpError
  | .exceeded =>
      (tooManyRequests, "Rate limit exceeded: maximum 3 tenant generations per hour")
  | .redisError _ => (internalServerError, "Internal error")

structure GenerateTenantResponse where
  projectId : String
  secretApiKey : String
  deriving DecidableEq

/-- `TenantKeypair::new`, from 40 alphanumeric characters and a nanoid. -/
def tenantKeypair (randomSegment nanoid : String) : GenerateTenantResponse :=
  ⟨"peroxo_pj_" ++ nanoid, "peroxo_" ++ randomSegment⟩

/-! ## Keys -/

theorem rateLimitKey_injective : Function.Injective rateLimitKey := by
  intro a b h
  simpa [rateLimitKey, String.append_right_inj] using h

theorem rateLimitKey_ne {u v : String} (h : u ≠ v) : rateLimitKey v ≠ rateLimitKey u :=
  rateLimitKey_injective.ne h.symm

/-- No name of a counter is a token. -/
theorem not_isToken_rateLimitKey (googleSub : String) :
    ¬ tokenPrefix.toList <+: (rateLimitKey googleSub).toList := by
  simp [tokenPrefix, rateLimitKey]

end PerOxo.AuthService
