import Mathlib
import PerOxo.AuthService.Handlers
import PerOxo.Lib.Arena
import PerOxo.Lib.Machine

/-!
# auth-service, running

Any number of requests at once, over one Redis, one table of keys and one clock (in milliseconds).
A request is a task that goes on by one action for each call it makes to the outside; the actions
of different tasks interleave. What follows the last call of a request happens with it: there is
no `await` behind a Redis call.
-/

set_option autoImplicit false

namespace PerOxo.AuthService

/-- How a call to Redis or to the database fails: it has not been carried out, or it has, and the
reply is lost. -/
inductive Fault
  | refused (e : String)
  | lost (e : String)

def Fault.text : Fault → String
  | .refused e => e
  | .lost e => e

/-! ## Requests -/

inductive TenantPhase
  | received
  /-- The first call of its window: `EXPIRE` comes next. -/
  | counted
  | accepted
  | stopped
  | answered (result : Except HttpError GenerateTenantResponse)

/-- A `generate_tenant` request of a user that Google has confirmed. -/
structure TenantTask where
  googleSub : String
  phase : TenantPhase

inductive TokenPhase
  | received
  | authorized
  /-- The token and the time, in seconds, that `store_user_token` has. -/
  | drawn (token : String) (drawnAt : Nat)
  /-- Answered with the token, which was stored at `storedAt`, in milliseconds. -/
  | issued (token : String) (drawnAt storedAt : Nat)
  | refused (e : HttpError)

/-- A `generate_user_token` request. -/
structure TokenTask where
  payload : GenerateUserTokenRequest
  phase : TokenPhase

inductive Transport
  | http
  | grpc
  deriving DecidableEq

inductive Answer
  | http (result : Except HttpError (Option UserToken))
  | grpc (result : Except String VerifyUserTokenResponse)
  deriving DecidableEq

def Transport.answer (result : Except String (Option UserToken)) : Transport → Answer
  | .http => .http (verifyUserTokenHandler result)
  | .grpc => .grpc (grpcVerifyUserToken result)

inductive VerifyPhase
  | received
  /-- What was found under the token. -/
  | found (parsed : Option UserToken)
  | answered (answer : Answer)
  deriving DecidableEq

/-- A request to verify a token. -/
structure VerifyTask where
  transport : Transport
  token : String
  phase : VerifyPhase
  deriving DecidableEq

structure AuthState where
  redis : Redis
  now : Nat
  /-- The table `tenant_keys`: `project_id` and `secret_api_key`. -/
  tenantKeys : List (String × String)
  /-- What `generate_token` has returned. -/
  tokens : List String
  tenants : Arena TenantTask
  requests : Arena TokenTask
  verifications : Arena VerifyTask

inductive AuthAction
  | tick (now : Nat)
  | generateTenant (googleSub : String)
  | incr (r : Nat) (fault : Option Fault)
  | expire (r : Nat) (fault : Option Fault)
  /-- The call stops between two commands. -/
  | stop (r : Nat)
  | insertKeypair (r : Nat) (randomSegment nanoid : String) (fault : Option Fault)
  | generateUserToken (payload : GenerateUserTokenRequest)
  | selectKey (g : Nat) (row : Except String (Option String))
  | draw (g : Nat) (randString : String)
  | setEx (g : Nat) (fault : Option Fault)
  | verifyUserToken (transport : Transport) (token : String)
  | get (v : Nat) (error : Option String)
  | check (v : Nat)

namespace AuthState

def start (tenantKeys : List (String × String)) (now : Nat) : AuthState :=
  ⟨.empty, now, tenantKeys, [], .empty, .empty, .empty⟩

/-- `SystemTime::now()` as seconds since the epoch. -/
def nowSecs (s : AuthState) : Nat := s.now / 1000

def setTenant (s : AuthState) (r : Nat) (phase : TenantPhase) : AuthState :=
  { s with tenants := s.tenants.modify r fun task => { task with phase := phase } }

def setRequest (s : AuthState) (g : Nat) (phase : TokenPhase) : AuthState :=
  { s with requests := s.requests.modify g fun task => { task with phase := phase } }

def setVerification (s : AuthState) (v : Nat) (phase : VerifyPhase) : AuthState :=
  { s with verifications := s.verifications.modify v fun task => { task with phase := phase } }

/-! ## `generate_tenant_handler` -/

/-- How the request goes on after `check_rate_limit`. -/
def afterRateLimit : Except RateLimitError Unit → TenantPhase
  | .ok () => .accepted
  | .error e => .answered (.error (rateLimitResponse e))

/-- `check_rate_limit` up to `EXPIRE`. -/
def incr (s : AuthState) (r : Nat) (fault : Option Fault) : Option AuthState :=
  match s.tenants.get? r with
  | some ⟨googleSub, .received⟩ =>
      match fault with
      | some (.refused e) => some (s.setTenant r (afterRateLimit (.error (.redisError e))))
      | _ =>
          match s.redis.incr s.now (rateLimitKey googleSub) with
          | .error e => some (s.setTenant r (afterRateLimit (.error (.redisError e))))
          | .ok (count, redis) =>
              let s := { s with redis := redis }
              match fault with
              | some f => some (s.setTenant r (afterRateLimit (.error (.redisError f.text))))
              | none =>
                  if count = 1 then some (s.setTenant r .counted)
                  else some (s.setTenant r (afterRateLimit (checkCount count)))
  | _ => none

/-- The rest of `check_rate_limit`, for a call that has counted 1. -/
def expire (s : AuthState) (r : Nat) (fault : Option Fault) : Option AuthState :=
  match s.tenants.get? r with
  | some ⟨googleSub, .counted⟩ =>
      match fault with
      | some (.refused e) => some (s.setTenant r (afterRateLimit (.error (.redisError e))))
      | _ =>
          let s := { s with redis := (s.redis.expire s.now (rateLimitKey googleSub) windowSecs).2 }
          match fault with
          | some f => some (s.setTenant r (afterRateLimit (.error (.redisError f.text))))
          | none => some (s.setTenant r (afterRateLimit (checkCount 1)))
  | _ => none

def stop (s : AuthState) (r : Nat) : Option AuthState :=
  match s.tenants.get? r with
  | some ⟨_, .received⟩ => some (s.setTenant r .stopped)
  | some ⟨_, .counted⟩ => some (s.setTenant r .stopped)
  | _ => none

/-- The end of the handler, with `insert_tenant_keypair`. -/
def insertKeypair (s : AuthState) (r : Nat) (randomSegment nanoid : String)
    (fault : Option Fault) : Option AuthState :=
  match s.tenants.get? r with
  | some ⟨_, .accepted⟩ =>
      match fault with
      | some (.refused e) => some (s.setTenant r (.answered (.error (internalServerError, e))))
      | _ =>
          let kp := tenantKeypair randomSegment nanoid
          let s := { s with tenantKeys := s.tenantKeys ++ [(kp.projectId, kp.secretApiKey)] }
          match fault with
          | some f => some (s.setTenant r (.answered (.error (internalServerError, f.text))))
          | none => some (s.setTenant r (.answered (.ok kp)))
  | _ => none

/-! ## `generate_user_token_handler` -/

/-- The database answers `get_secret_key_by_project_id` with a row of the project, if there is
one, or fails. -/
def Answers (s : AuthState) (projectId : String) : Except String (Option String) → Prop
  | .error _ => True
  | .ok (some key) => (projectId, key) ∈ s.tenantKeys
  | .ok none => ∀ row ∈ s.tenantKeys, row.1 ≠ projectId

instance (s : AuthState) (projectId : String) (row : Except String (Option String)) :
    Decidable (s.Answers projectId row) :=
  match row with
  | .error _ => .isTrue trivial
  | .ok (some _) => inferInstanceAs (Decidable (_ ∈ _))
  | .ok none => inferInstanceAs (Decidable (∀ row ∈ s.tenantKeys, row.1 ≠ projectId))

/-- The handler up to `store_user_token`. -/
def selectKey (s : AuthState) (g : Nat) (row : Except String (Option String)) :
    Option AuthState :=
  match s.requests.get? g with
  | some ⟨payload, .received⟩ =>
      if s.Answers payload.projectId row then
        match checkSecretKey payload row with
        | .ok () => some (s.setRequest g .authorized)
        | .error e => some (s.setRequest g (.refused e))
      else none
  | _ => none

/-- `store_user_token` up to `SET`: `generate_token` returns a token it has not returned before,
and the clock is read. -/
def draw (s : AuthState) (g : Nat) (randString : String) : Option AuthState :=
  match s.requests.get? g with
  | some ⟨_, .authorized⟩ =>
      let token := generateToken randString
      if randString.toList.length = 24 ∧ (∀ c ∈ randString.toList, c.isAlphanum) ∧
          token ∉ s.tokens then
        let s := { s with tokens := s.tokens ++ [token] }
        some (s.setRequest g (.drawn token s.nowSecs))
      else none
  | _ => none

/-- The rest of the handler: the token is stored, and is the answer. -/
def setEx (codec : Codec) (s : AuthState) (g : Nat) (fault : Option Fault) :
    Option AuthState :=
  match s.requests.get? g with
  | some ⟨payload, .drawn token drawnAt⟩ =>
      match fault with
      | some (.refused e) => some (s.setRequest g (.refused (storeError e)))
      | _ =>
          let json := codec.toString (userTokenPayload drawnAt payload.projectId payload.userId)
          let s := { s with redis := s.redis.setEx s.now token json ttlSecs }
          match fault with
          | some f => some (s.setRequest g (.refused (storeError f.text)))
          | none => some (s.setRequest g (.issued token drawnAt s.now))
  | _ => none

/-! ## `verify_user_token` -/

/-- `verify_user_token` up to its look at the clock. Only what looks like a token is looked up. -/
def get (codec : Codec) (s : AuthState) (v : Nat) (error : Option String) : Option AuthState :=
  match s.verifications.get? v with
  | some ⟨transport, token, .received⟩ =>
      if ¬ tokenPrefix.toList <+: token.toList then some (s.setVerification v (.found none))
      else
        match error with
        | some e => some (s.setVerification v (.answered (transport.answer (.error e))))
        | none =>
            some (s.setVerification v (.found (parsePayload codec (s.redis.get s.now token))))
  | _ => none

def check (s : AuthState) (v : Nat) : Option AuthState :=
  match s.verifications.get? v with
  | some ⟨transport, _, .found parsed⟩ =>
      some (s.setVerification v (.answered (transport.answer (.ok (checkExpiry s.nowSecs parsed)))))
  | _ => none

def step (codec : Codec) (s : AuthState) : AuthAction → Option AuthState
  | .tick now => if s.now ≤ now then some { s with now := now } else none
  | .generateTenant googleSub => some { s with tenants := s.tenants.alloc ⟨googleSub, .received⟩ }
  | .incr r fault => s.incr r fault
  | .expire r fault => s.expire r fault
  | .stop r => s.stop r
  | .insertKeypair r randomSegment nanoid fault => s.insertKeypair r randomSegment nanoid fault
  | .generateUserToken payload => some { s with requests := s.requests.alloc ⟨payload, .received⟩ }
  | .selectKey g row => s.selectKey g row
  | .draw g randString => s.draw g randString
  | .setEx g fault => s.setEx codec g fault
  | .verifyUserToken transport token =>
      some { s with verifications := s.verifications.alloc ⟨transport, token, .received⟩ }
  | .get v error => s.get codec v error
  | .check v => s.check v

/-! ## What a step does -/

/-- The outcomes of a step. -/
inductive Stepped (codec : Codec) (s : AuthState) : AuthAction → AuthState → Prop
  | ticked {now : Nat} (le : s.now ≤ now) : s.Stepped codec (.tick now) { s with now := now }
  | tenantArrived (googleSub : String) : s.Stepped codec (.generateTenant googleSub)
      { s with tenants := s.tenants.alloc ⟨googleSub, .received⟩ }
  /-- `INCR` has not been carried out. -/
  | incrFailed {r : Nat} {fault : Option Fault} {googleSub e : String}
      (found : s.tenants.get? r = some ⟨googleSub, .received⟩) :
      s.Stepped codec (.incr r fault) (s.setTenant r (afterRateLimit (.error (.redisError e))))
  | incrLost {r : Nat} {googleSub e : String} {count : Int} {redis : Redis}
      (found : s.tenants.get? r = some ⟨googleSub, .received⟩)
      (result : s.redis.incr s.now (rateLimitKey googleSub) = .ok (count, redis)) :
      s.Stepped codec (.incr r (some (.lost e)))
        ({ s with redis := redis }.setTenant r (afterRateLimit (.error (.redisError e))))
  | counted {r : Nat} {googleSub : String} {redis : Redis}
      (found : s.tenants.get? r = some ⟨googleSub, .received⟩)
      (result : s.redis.incr s.now (rateLimitKey googleSub) = .ok (1, redis)) :
      s.Stepped codec (.incr r none) ({ s with redis := redis }.setTenant r .counted)
  | limited {r : Nat} {googleSub : String} {count : Int} {redis : Redis}
      (found : s.tenants.get? r = some ⟨googleSub, .received⟩)
      (result : s.redis.incr s.now (rateLimitKey googleSub) = .ok (count, redis))
      (notFirst : count ≠ 1) :
      s.Stepped codec (.incr r none)
        ({ s with redis := redis }.setTenant r (afterRateLimit (checkCount count)))
  /-- `EXPIRE` has not been carried out. -/
  | expireFailed {r : Nat} {googleSub e : String}
      (found : s.tenants.get? r = some ⟨googleSub, .counted⟩) :
      s.Stepped codec (.expire r (some (.refused e)))
        (s.setTenant r (afterRateLimit (.error (.redisError e))))
  | expired {r : Nat} {fault : Option Fault} {googleSub : String}
      {result : Except RateLimitError Unit}
      (found : s.tenants.get? r = some ⟨googleSub, .counted⟩) :
      s.Stepped codec (.expire r fault)
        ({ s with redis := (s.redis.expire s.now (rateLimitKey googleSub) windowSecs).2 }.setTenant r
          (afterRateLimit result))
  | stopped {r : Nat} {task : TenantTask} (found : s.tenants.get? r = some task) :
      s.Stepped codec (.stop r) (s.setTenant r .stopped)
  | inserted {r : Nat} {randomSegment nanoid googleSub : String} {fault : Option Fault}
      {rows : List (String × String)} {result : Except HttpError GenerateTenantResponse}
      (found : s.tenants.get? r = some ⟨googleSub, .accepted⟩) :
      s.Stepped codec (.insertKeypair r randomSegment nanoid fault)
        ({ s with tenantKeys := s.tenantKeys ++ rows }.setTenant r (.answered result))
  | requestArrived (payload : GenerateUserTokenRequest) : s.Stepped codec
      (.generateUserToken payload) { s with requests := s.requests.alloc ⟨payload, .received⟩ }
  | authorized {g : Nat} {payload : GenerateUserTokenRequest}
      (found : s.requests.get? g = some ⟨payload, .received⟩)
      (key : (payload.projectId, payload.secretApiKey) ∈ s.tenantKeys) :
      s.Stepped codec (.selectKey g (.ok (some payload.secretApiKey)))
        (s.setRequest g .authorized)
  | rejected {g : Nat} {row : Except String (Option String)} {payload : GenerateUserTokenRequest}
      {e : HttpError} (found : s.requests.get? g = some ⟨payload, .received⟩) :
      s.Stepped codec (.selectKey g row) (s.setRequest g (.refused e))
  | drawn {g : Nat} {randString : String} {payload : GenerateUserTokenRequest}
      (found : s.requests.get? g = some ⟨payload, .authorized⟩)
      (fresh : generateToken randString ∉ s.tokens) :
      s.Stepped codec (.draw g randString)
        ({ s with tokens := s.tokens ++ [generateToken randString] }.setRequest g
          (.drawn (generateToken randString) s.nowSecs))
  /-- `SET` has not been carried out. -/
  | setFailed {g : Nat} {e token : String} {drawnAt : Nat} {payload : GenerateUserTokenRequest}
      (found : s.requests.get? g = some ⟨payload, .drawn token drawnAt⟩) :
      s.Stepped codec (.setEx g (some (.refused e))) (s.setRequest g (.refused (storeError e)))
  | setLost {g : Nat} {e token : String} {drawnAt : Nat} {payload : GenerateUserTokenRequest}
      (found : s.requests.get? g = some ⟨payload, .drawn token drawnAt⟩) :
      s.Stepped codec (.setEx g (some (.lost e)))
        ({ s with redis := s.redis.setEx s.now token (codec.toString (userTokenPayload drawnAt
          payload.projectId payload.userId)) ttlSecs }.setRequest g (.refused (storeError e)))
  | issued {g : Nat} {token : String} {drawnAt : Nat} {payload : GenerateUserTokenRequest}
      (found : s.requests.get? g = some ⟨payload, .drawn token drawnAt⟩) :
      s.Stepped codec (.setEx g none)
        ({ s with redis := s.redis.setEx s.now token (codec.toString (userTokenPayload drawnAt
          payload.projectId payload.userId)) ttlSecs }.setRequest g (.issued token drawnAt s.now))
  | verificationArrived (transport : Transport) (token : String) :
      s.Stepped codec (.verifyUserToken transport token)
        { s with verifications := s.verifications.alloc ⟨transport, token, .received⟩ }
  | foreign {v : Nat} {error : Option String} {transport : Transport} {token : String}
      (found : s.verifications.get? v = some ⟨transport, token, .received⟩)
      (noToken : ¬ tokenPrefix.toList <+: token.toList) :
      s.Stepped codec (.get v error) (s.setVerification v (.found none))
  | getFailed {v : Nat} {e : String} {transport : Transport} {token : String}
      (found : s.verifications.get? v = some ⟨transport, token, .received⟩) :
      s.Stepped codec (.get v (some e))
        (s.setVerification v (.answered (transport.answer (.error e))))
  | got {v : Nat} {transport : Transport} {token : String}
      (found : s.verifications.get? v = some ⟨transport, token, .received⟩)
      (isToken : tokenPrefix.toList <+: token.toList) :
      s.Stepped codec (.get v none)
        (s.setVerification v (.found (parsePayload codec (s.redis.get s.now token))))
  | checked {v : Nat} {transport : Transport} {token : String} {parsed : Option UserToken}
      (found : s.verifications.get? v = some ⟨transport, token, .found parsed⟩) :
      s.Stepped codec (.check v) (s.setVerification v
        (.answered (transport.answer (.ok (checkExpiry s.nowSecs parsed)))))

theorem incr_stepped {codec : Codec} {s s' : AuthState} {r : Nat} {fault : Option Fault}
    (h : s.incr r fault = some s') : s.Stepped codec (.incr r fault) s' := by
  unfold incr at h
  split at h
  · next googleSub hr =>
    split at h
    · exact Option.some.inj h ▸ .incrFailed hr
    · split at h
      · exact Option.some.inj h ▸ .incrFailed hr
      · next hnot _ count redis hi =>
        cases fault with
        | none =>
          simp only at h
          split at h
          · next hc =>
            subst hc
            exact Option.some.inj h ▸ .counted hr hi
          · next hc => exact Option.some.inj h ▸ .limited hr hi hc
        | some f =>
          cases f with
          | refused e => exact absurd rfl (hnot e)
          | lost e => exact Option.some.inj h ▸ .incrLost hr hi
  · cases h

theorem expire_stepped {codec : Codec} {s s' : AuthState} {r : Nat} {fault : Option Fault}
    (h : s.expire r fault = some s') : s.Stepped codec (.expire r fault) s' := by
  unfold expire at h
  split at h
  · next googleSub hr =>
    split at h
    · exact Option.some.inj h ▸ .expireFailed hr
    · simp only at h
      split at h
      · exact Option.some.inj h ▸ .expired hr
      · exact Option.some.inj h ▸ .expired hr
  · cases h

theorem insertKeypair_stepped {codec : Codec} {s s' : AuthState} {r : Nat}
    {randomSegment nanoid : String} {fault : Option Fault}
    (h : s.insertKeypair r randomSegment nanoid fault = some s') :
    s.Stepped codec (.insertKeypair r randomSegment nanoid fault) s' := by
  unfold insertKeypair at h
  split at h
  · next googleSub hr =>
    split at h
    · next e =>
      have hsame : s.setTenant r (.answered (.error (internalServerError, e))) =
          { s with tenantKeys := s.tenantKeys ++ [] }.setTenant r
            (.answered (.error (internalServerError, e))) := by
        rw [List.append_nil]
      rw [hsame] at h
      exact Option.some.inj h ▸ .inserted hr
    · simp only at h
      split at h
      · exact Option.some.inj h ▸ .inserted hr
      · exact Option.some.inj h ▸ .inserted hr
  · cases h

theorem selectKey_stepped {codec : Codec} {s s' : AuthState} {g : Nat}
    {row : Except String (Option String)} (h : s.selectKey g row = some s') :
    s.Stepped codec (.selectKey g row) s' := by
  unfold selectKey at h
  split at h
  · next payload hg =>
    split at h
    · next ha =>
      split at h
      · next hc =>
        cases row with
        | error e => cases hc
        | ok key =>
          cases key with
          | none => cases hc
          | some key =>
            simp only [checkSecretKey] at hc
            split at hc
            · cases hc
            · next hk =>
              obtain rfl : key = payload.secretApiKey := not_not.mp hk
              exact Option.some.inj h ▸ .authorized hg ha
      · exact Option.some.inj h ▸ .rejected hg
    · cases h
  · cases h

theorem setEx_stepped {codec : Codec} {s s' : AuthState} {g : Nat} {fault : Option Fault}
    (h : s.setEx codec g fault = some s') : s.Stepped codec (.setEx g fault) s' := by
  unfold setEx at h
  split at h
  · next payload token drawnAt hg =>
    split at h
    · exact Option.some.inj h ▸ .setFailed hg
    · next hnot =>
      cases fault with
      | none => exact Option.some.inj h ▸ .issued hg
      | some f =>
        cases f with
        | refused e => exact absurd rfl (hnot e)
        | lost e => exact Option.some.inj h ▸ .setLost hg
  · cases h

theorem get_stepped {codec : Codec} {s s' : AuthState} {v : Nat} {error : Option String}
    (h : s.get codec v error = some s') : s.Stepped codec (.get v error) s' := by
  unfold get at h
  split at h
  · next transport token hv =>
    split at h
    · next hp => exact Option.some.inj h ▸ .foreign hv hp
    · next hp =>
      split at h
      · exact Option.some.inj h ▸ .getFailed hv
      · exact Option.some.inj h ▸ .got hv (not_not.mp hp)
  · cases h

theorem stepped {codec : Codec} {s s' : AuthState} {act : AuthAction}
    (h : s.step codec act = some s') : s.Stepped codec act s' := by
  cases act with
  | tick now =>
    simp only [step] at h
    split at h
    · next hle => exact Option.some.inj h ▸ .ticked hle
    · cases h
  | generateTenant googleSub => exact Option.some.inj h ▸ .tenantArrived googleSub
  | incr r fault => exact incr_stepped h
  | expire r fault => exact expire_stepped h
  | stop r =>
    simp only [step, stop] at h
    split at h
    · next hr => exact Option.some.inj h ▸ .stopped hr
    · next hr => exact Option.some.inj h ▸ .stopped hr
    · cases h
  | insertKeypair r randomSegment nanoid fault => exact insertKeypair_stepped h
  | generateUserToken payload => exact Option.some.inj h ▸ .requestArrived payload
  | selectKey g row => exact selectKey_stepped h
  | draw g randString =>
    simp only [step, draw] at h
    split at h
    · next payload hg =>
      split at h
      · next hc => exact Option.some.inj h ▸ .drawn hg hc.2.2
      · cases h
    · cases h
  | setEx g fault => exact setEx_stepped h
  | verifyUserToken transport token => exact Option.some.inj h ▸ .verificationArrived transport token
  | get v error => exact get_stepped h
  | check v =>
    simp only [step, check] at h
    split at h
    · next transport token parsed hv => exact Option.some.inj h ▸ .checked hv
    · cases h

end AuthState

/-- auth-service over an empty Redis, with the keys that the table has at first. -/
def authSystem (codec : Codec) (tenantKeys : List (String × String)) (now : Nat) :
    Machine AuthState AuthAction where
  init := .start tenantKeys now
  step := AuthState.step codec

end PerOxo.AuthService
