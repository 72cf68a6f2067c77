import PerOxo.Actors.System
import PerOxo.AuthService.System

/-!
# How a socket is opened

`lib.rs`, `tenant.rs` and `socket.rs`: the handler of `/ws`, which has auth-service verify the
token of the request, and hands the upgraded socket to the connection manager. Here a server of
PerOxo and auth-service run side by side, with any number of requests under way between them.

What a request asks auth-service is one of the verifications of `AuthState`, and stands in its
arena beside those of other callers; the index is what the request awaits. A request whose client
goes away is one that no action takes on.
-/

set_option autoImplicit false

namespace PerOxo.Gateway

open ChatService AuthService

def badRequest : Nat := 400

/-- `TenantUserId::from_token`. It never fails, and its caller does not rely on it. -/
def fromToken (token : UserToken) : Except String TenantUserId :=
  .ok ⟨token.projectId, token.userId⟩

/-- `verify_token`, given how the call to auth-service ends. -/
def verifyToken : Except Status VerifyUserTokenResponse → Except HttpError UserToken
  | .error e => .error (internalServerError, "Auth service error: " ++ e)
  | .ok resp =>
      if resp.found = false then .error (unauthorized, "Invalid token")
      else
        match resp.userToken with
        | some userToken => .ok userToken
        | none =>
            .error (internalServerError,
              "Auth service returned found=true but no user_token data")

/-- `ws_handler` after its call. -/
def identify (outcome : Except Status VerifyUserTokenResponse) : Except HttpError TenantUserId :=
  match verifyToken outcome with
  | .error err => .error err
  | .ok userToken =>
      match fromToken userToken with
      | .ok id => .ok id
      | .error _ => .error (unauthorized, "Invalid tenant token")

/-- How far a request has come. Its verification stays there for the statements only. -/
inductive UpgradePhase
  | received
  | verifying (v : Nat)
  /-- Answered with the upgrade; `dm_socket` runs once the socket is there. -/
  | upgraded (v : Nat) (tenantUserId : TenantUserId)
  | connected (v : Nat) (sid : SessionId)
  | refused (e : HttpError)

/-- A request for `/ws`, with the parameters of its query. -/
structure Upgrade where
  params : HashMap String String
  phase : UpgradePhase

def UpgradePhase.verification? : UpgradePhase → Option Nat
  | .verifying v => some v
  | .upgraded v _ => some v
  | .connected v _ => some v
  | _ => none

structure GatewayState where
  auth : AuthState
  server : State
  upgrades : Arena Upgrade

inductive GatewayAction
  | request (params : HashMap String String)
  /-- `ws_handler` up to its call. -/
  | call (r : Nat)
  /-- The rest of it. -/
  | reply (r : Nat) (failure : Option Status)
  | dmSocket (r : Nat)
  | auth (act : AuthAction)
  | server (act : Action)

namespace GatewayState

def start (tenantKeys : List (String × String)) (now : Nat) (store : Store) : GatewayState :=
  ⟨.start tenantKeys now, .start store, .empty⟩

def setUpgrade (s : GatewayState) (r : Nat) (phase : UpgradePhase) : GatewayState :=
  { s with upgrades := s.upgrades.modify r fun upgrade => { upgrade with phase := phase } }

/-- What auth-service has answered to a verification, as its client sees it: `internal` says how a
`Status::internal` is displayed there. -/
def answer (internal : String → Status) (s : GatewayState) (v : Nat) :
    Option (Except Status VerifyUserTokenResponse) :=
  match s.auth.verifications.get? v with
  | some ⟨_, _, .answered (.grpc result)⟩ => some (result.mapError internal)
  | _ => none

/-- How the call ends. It may fail before it has reached auth-service, or after. -/
def outcome (internal : String → Status) (s : GatewayState) (v : Nat) :
    Option Status → Option (Except Status VerifyUserTokenResponse)
  | some e => some (.error e)
  | none => s.answer internal v

def call (s : GatewayState) (r : Nat) : Option GatewayState :=
  match s.upgrades.get? r with
  | some ⟨params, .received⟩ =>
      match params.lookup "token" with
      | none => some (s.setUpgrade r (.refused (badRequest, "Missing token")))
      | some token =>
          let task : VerifyTask := ⟨.grpc, token, .received⟩
          let auth := { s.auth with verifications := s.auth.verifications.alloc task }
          some ({ s with auth := auth }.setUpgrade r (.verifying s.auth.verifications.next))
  | _ => none

def reply (internal : String → Status) (s : GatewayState) (r : Nat) (failure : Option Status) :
    Option GatewayState :=
  match s.upgrades.get? r with
  | some ⟨_, .verifying v⟩ =>
      (s.outcome internal v failure).map fun outcome =>
        match identify outcome with
        | .ok tenantUserId => s.setUpgrade r (.upgraded v tenantUserId)
        | .error e => s.setUpgrade r (.refused e)
  | _ => none

/-- `dm_socket`, up to the first `await` of the session it creates. -/
def dmSocket (s : GatewayState) (r : Nat) : Option GatewayState :=
  match s.upgrades.get? r with
  | some ⟨_, .upgraded v tenantUserId⟩ =>
      some ({ s with server := s.server.connect tenantUserId }.setUpgrade r
        (.connected v s.server.sessions.next))
  | _ => none

/-- All that a server does but for opening a session. -/
def allows : Action → Bool
  | .connect _ => false
  | _ => true

def step (codec : Codec) (internal : String → Status) (db : Db) (s : GatewayState) :
    GatewayAction → Option GatewayState
  | .request params => some { s with upgrades := s.upgrades.alloc ⟨params, .received⟩ }
  | .call r => s.call r
  | .reply r failure => s.reply internal r failure
  | .dmSocket r => s.dmSocket r
  | .auth act => (s.auth.step codec act).map fun auth => { s with auth := auth }
  | .server act =>
      if allows act then (s.server.step db act).map fun server => { s with server := server }
      else none

/-! ## What a step does -/

theorem identify_eq_ok {outcome : Except Status VerifyUserTokenResponse} {u : TenantUserId} :
    identify outcome = .ok u ↔
      ∃ token, outcome = .ok ⟨true, some token⟩ ∧ u = ⟨token.projectId, token.userId⟩ := by
  rcases outcome with e | ⟨found, token⟩
  · simp [identify, verifyToken]
  · cases found with
    | false => simp [identify, verifyToken]
    | true =>
      cases token with
      | none => simp [identify, verifyToken]
      | some token => simp [identify, verifyToken, fromToken, eq_comm]

/-- The outcomes of a step. -/
inductive Stepped (codec : Codec) (internal : String → Status) (db : Db) (s : GatewayState) :
    GatewayAction → GatewayState → Prop
  | requested (params : HashMap String String) : s.Stepped codec internal db (.request params)
      { s with upgrades := s.upgrades.alloc ⟨params, .received⟩ }
  | tokenMissing {r : Nat} {params : HashMap String String}
      (found : s.upgrades.get? r = some ⟨params, .received⟩)
      (missing : params.lookup "token" = none) :
      s.Stepped codec internal db (.call r)
        (s.setUpgrade r (.refused (badRequest, "Missing token")))
  | called {r : Nat} {params : HashMap String String} {token : String} {auth : AuthState}
      (found : s.upgrades.get? r = some ⟨params, .received⟩)
      (present : params.lookup "token" = some token)
      (asked : s.auth.step codec (.verifyUserToken .grpc token) = some auth) :
      s.Stepped codec internal db (.call r)
        ({ s with auth := auth }.setUpgrade r (.verifying s.auth.verifications.next))
  | callFailed {r v : Nat} {params : HashMap String String} {e : Status}
      (found : s.upgrades.get? r = some ⟨params, .verifying v⟩) :
      s.Stepped codec internal db (.reply r (some e))
        (s.setUpgrade r (.refused (internalServerError, "Auth service error: " ++ e)))
  | refused {r v : Nat} {params : HashMap String String} {e : HttpError}
      {outcome : Except Status VerifyUserTokenResponse}
      (found : s.upgrades.get? r = some ⟨params, .verifying v⟩)
      (answered : s.answer internal v = some outcome) (result : identify outcome = .error e) :
      s.Stepped codec internal db (.reply r none) (s.setUpgrade r (.refused e))
  | admitted {r v : Nat} {params : HashMap String String} {token : UserToken}
      (found : s.upgrades.get? r = some ⟨params, .verifying v⟩)
      (answered : s.answer internal v = some (.ok ⟨true, some token⟩)) :
      s.Stepped codec internal db (.reply r none)
        (s.setUpgrade r (.upgraded v ⟨token.projectId, token.userId⟩))
  | opened {r v : Nat} {params : HashMap String String} {tenantUserId : TenantUserId}
      {server : State} (found : s.upgrades.get? r = some ⟨params, .upgraded v tenantUserId⟩)
      (result : s.server.step db (.connect tenantUserId) = some server) :
      s.Stepped codec internal db (.dmSocket r)
        ({ s with server := server }.setUpgrade r (.connected v s.server.sessions.next))
  | auth {act : AuthAction} {auth : AuthState} (result : s.auth.step codec act = some auth) :
      s.Stepped codec internal db (.auth act) { s with auth := auth }
  | server {act : Action} {server : State} (allowed : allows act = true)
      (result : s.server.step db act = some server) :
      s.Stepped codec internal db (.server act) { s with server := server }

theorem reply_stepped {codec : Codec} {internal : String → Status} {db : Db}
    {s s' : GatewayState} {r : Nat} {failure : Option Status}
    (h : s.reply internal r failure = some s') :
    s.Stepped codec internal db (.reply r failure) s' := by
  unfold reply at h
  split at h
  · next params v hr =>
    obtain ⟨outcome, ho, rfl⟩ := Option.map_eq_some_iff.mp h
    cases failure with
    | some e =>
      obtain rfl := Option.some.inj ho
      exact .callFailed hr
    | none =>
      cases ha : identify outcome with
      | error e => exact .refused hr ho ha
      | ok u =>
        obtain ⟨token, rfl, rfl⟩ := identify_eq_ok.mp ha
        exact .admitted hr ho
  · cases h

theorem stepped {codec : Codec} {internal : String → Status} {db : Db} {s s' : GatewayState}
    {act : GatewayAction} (h : s.step codec internal db act = some s') :
    s.Stepped codec internal db act s' := by
  cases act with
  | request params => exact Option.some.inj h ▸ .requested params
  | call r =>
    simp only [step, call] at h
    split at h
    · next params hr =>
      split at h
      · next ht => exact Option.some.inj h ▸ .tokenMissing hr ht
      · next token ht => exact Option.some.inj h ▸ .called hr ht rfl
    · cases h
  | reply r failure => exact reply_stepped h
  | dmSocket r =>
    simp only [step, dmSocket] at h
    split at h
    · next params v u hr => exact Option.some.inj h ▸ .opened hr rfl
    · cases h
  | auth act =>
    obtain ⟨auth, ha, rfl⟩ := Option.map_eq_some_iff.mp h
    exact .auth ha
  | server act =>
    simp only [step] at h
    split at h
    · next ha =>
      obtain ⟨server, hs, rfl⟩ := Option.map_eq_some_iff.mp h
      exact .server ha hs
    · cases h

end GatewayState

/-- A server and auth-service that have just started. -/
def gateway (codec : Codec) (internal : String → Status) (db : Db)
    (tenantKeys : List (String × String)) (now : Nat) (store : Store) :
    Machine GatewayState GatewayAction where
  init := .start tenantKeys now store
  step := GatewayState.step codec internal db

end PerOxo.Gateway
