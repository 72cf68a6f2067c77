import PerOxo.AuthService.System

/-!
# Who gets a key

The whole of `generate_tenant_handler`, with `google_auth.rs`: a request presents an ID token in
its `Authorization` header, Google's `tokeninfo` endpoint says whose it is, and from the rate limit
on the request is one of the tasks of `AuthState`.

What Google answers is in the action. A request that Google never answers is one that no action
takes on.
-/

set_option autoImplicit false

namespace PerOxo.AuthService

/-! ## The header -/

/-- `HeaderValue::to_str`: visible ASCII and tabs only. -/
def headerToStr (value : List UInt8) : Option String :=
  if ∀ b ∈ value, (32 ≤ b ∧ b < 127) ∨ b = 9 then
    some (String.ofList (value.map fun b => Char.ofNat b.toNat))
  else none

def bearer : String := "Bearer "

/-- The ID token of a request, by the value of its `Authorization` header. -/
def idToken (authorization : Option (List UInt8)) : Except HttpError String :=
  match authorization.bind headerToStr with
  | none => .error (unauthorized, "Missing or invalid Authorization header")
  | some value =>
      if bearer.toList <+: value.toList then
        .ok (String.ofList (value.toList.drop bearer.toList.length))
      else .error (unauthorized, "Missing or invalid Authorization header")

/-! ## Google -/

structure GoogleUser where
  sub : String
  email : String

inductive GoogleAuthError
  | invalidToken (msg : String)
  | audienceMismatch
  | requestFailed

structure TokenInfoResponse where
  sub : String
  email : String
  aud : String

/-- How the request to the `tokeninfo` endpoint ends. -/
inductive TokenInfo
  | unreachable
  /-- Its status is no success. -/
  | rejected
  /-- The body is no `TokenInfoResponse`. -/
  | malformed (e : String)
  | answered (info : TokenInfoResponse)

/-- `verify_id_token`; `clientId` is the variable `GOOGLE_CLIENT_ID` of the environment. -/
def verifyIdToken (clientId : Option String) : TokenInfo → Except GoogleAuthError GoogleUser
  | .unreachable => .error .requestFailed
  | .rejected => .error (.invalidToken "token rejected by Google")
  | .malformed e => .error (.invalidToken e)
  | .answered info =>
      match clientId with
      | none => .error .requestFailed
      | some expectedClientId =>
          if info.aud ≠ expectedClientId then .error .audienceMismatch
          else .ok ⟨info.sub, info.email⟩

/-- How `generate_tenant_handler` reports it. -/
def googleAuthResponse : GoogleAuthError → HttpError
  | .audienceMismatch => (unauthorized, "Token audience mismatch")
  | .invalidToken msg => (unauthorized, "Invalid Google token: " ++ msg)
  | .requestFailed => (unauthorized, "Google authentication failed")

/-! ## Requests -/

inductive TenantRequestPhase
  | verifying (token : String)
  | refused (e : HttpError)
  /-- The rest of the handler is the task `r`. -/
  | confirmed (user : GoogleUser) (r : Nat)

structure TenantRequest where
  authorization : Option (List UInt8)
  phase : TenantRequestPhase

structure TenantsState where
  auth : AuthState
  requests : Arena TenantRequest

inductive TenantsAction
  | request (authorization : Option (List UInt8))
  | tokenInfo (k : Nat) (reply : TokenInfo)
  | auth (act : AuthAction)

namespace TenantsState

def start (tenantKeys : List (String × String)) (now : Nat) : TenantsState :=
  ⟨.start tenantKeys now, .empty⟩

/-- The handler up to its call to Google. -/
def request (s : TenantsState) (authorization : Option (List UInt8)) : TenantsState :=
  let phase :=
    match idToken authorization with
    | .ok token => .verifying token
    | .error e => .refused e
  { s with requests := s.requests.alloc ⟨authorization, phase⟩ }

/-- The handler up to `check_rate_limit`. -/
def tokenInfo (clientId : Option String) (s : TenantsState) (k : Nat) (reply : TokenInfo) :
    Option TenantsState :=
  match s.requests.get? k with
  | some ⟨_, .verifying _⟩ =>
      match verifyIdToken clientId reply with
      | .error e =>
          some { s with requests := s.requests.modify k fun request =>
            { request with phase := .refused (googleAuthResponse e) } }
      | .ok user =>
          some {
            auth := { s.auth with tenants := s.auth.tenants.alloc ⟨user.sub, .received⟩ }
            requests := s.requests.modify k fun request =>
              { request with phase := .confirmed user s.auth.tenants.next } }
  | _ => none

/-- All that auth-service does but for taking up the request of a user. -/
def allows : AuthAction → Bool
  | .generateTenant _ => false
  | _ => true

def step (codec : Codec) (clientId : Option String) (s : TenantsState) :
    TenantsAction → Option TenantsState
  | .request authorization => some (s.request authorization)
  | .tokenInfo k reply => s.tokenInfo clientId k reply
  | .auth act =>
      if allows act then (s.auth.step codec act).map fun auth => { s with auth := auth } else none

/-! ## What a step does -/

/-- The outcomes of a step. -/
inductive Stepped (codec : Codec) (clientId : Option String) (s : TenantsState) :
    TenantsAction → TenantsState → Prop
  | requested (authorization : Option (List UInt8)) (phase : TenantRequestPhase)
      (unconfirmed : ∀ user r, phase ≠ .confirmed user r)
      (token : ∀ token, phase = .verifying token → idToken authorization = .ok token) :
      s.Stepped codec clientId (.request authorization)
        { s with requests := s.requests.alloc ⟨authorization, phase⟩ }
  | refused {k : Nat} {reply : TokenInfo} {e : HttpError}
      {authorization : Option (List UInt8)} {token : String}
      (found : s.requests.get? k = some ⟨authorization, .verifying token⟩) :
      s.Stepped codec clientId (.tokenInfo k reply)
        { s with requests := s.requests.modify k fun request =>
          { request with phase := .refused e } }
  | confirmed {k : Nat} {info : TokenInfoResponse} {authorization : Option (List UInt8)}
      {token : String} (found : s.requests.get? k = some ⟨authorization, .verifying token⟩)
      (audience : clientId = some info.aud) :
      s.Stepped codec clientId (.tokenInfo k (.answered info))
        { auth := { s.auth with tenants := s.auth.tenants.alloc ⟨info.sub, .received⟩ }
          requests := s.requests.modify k fun request =>
            { request with phase := .confirmed ⟨info.sub, info.email⟩ s.auth.tenants.next } }
  | auth {act : AuthAction} {auth : AuthState} (allowed : allows act = true)
      (result : s.auth.step codec act = some auth) :
      s.Stepped codec clientId (.auth act) { s with auth := auth }

theorem verifyIdToken_eq_ok {clientId : Option String} {reply : TokenInfo} {user : GoogleUser}
    (h : verifyIdToken clientId reply = .ok user) : ∃ info, reply = .answered info ∧
      clientId = some info.aud ∧ user = ⟨info.sub, info.email⟩ := by
  cases reply with
  | answered info =>
    cases clientId with
    | none => cases h
    | some expected =>
      simp only [verifyIdToken] at h
      split at h
      · cases h
      · next haud => exact ⟨info, rfl, congrArg some (not_not.mp haud).symm, (Except.ok.inj h).symm⟩
  | unreachable => cases h
  | rejected => cases h
  | malformed e => cases h

theorem tenants_stepped {codec : Codec} {clientId : Option String} {s s' : TenantsState}
    {act : TenantsAction} (h : s.step codec clientId act = some s') :
    s.Stepped codec clientId act s' := by
  cases act with
  | request authorization =>
    obtain rfl := Option.some.inj h
    unfold request
    cases ht : idToken authorization with
    | ok token => exact .requested _ _ (fun _ _ he => by cases he) fun _ he => by cases he; exact ht
    | error e => exact .requested _ _ (fun _ _ he => by cases he) fun _ he => by cases he
  | tokenInfo k reply =>
    simp only [step, tokenInfo] at h
    split at h
    · next authorization token found =>
      split at h
      · exact Option.some.inj h ▸ .refused found
      · next user hv =>
        obtain ⟨info, rfl, haud, rfl⟩ := verifyIdToken_eq_ok hv
        exact Option.some.inj h ▸ .confirmed found haud
    · cases h
  | auth act =>
    simp only [step] at h
    split at h
    · next hallowed =>
      obtain ⟨auth, hauth, rfl⟩ := Option.map_eq_some_iff.mp h
      exact .auth hallowed hauth
    · cases h

end TenantsState

def tenantsSystem (codec : Codec) (clientId : Option String) (tenantKeys : List (String × String))
    (now : Nat) : Machine TenantsState TenantsAction where
  init := .start tenantKeys now
  step := TenantsState.step codec clientId

end PerOxo.AuthService
