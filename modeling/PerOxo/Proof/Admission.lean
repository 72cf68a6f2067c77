import PerOxo.Gateway
import PerOxo.Proof.Grants
import PerOxo.Proof.Spoofing

/-!
# Who gets a socket

From the token to the messages. A session is opened by a request that carried a token which
auth-service had stored for this user, on behalf of somebody who knew a key of the project, and
which a verification of this very request has let through (`sockets_backed`). Since a message
names the user of its session, every sender that is delivered or written goes back to such a token
(`senders_backed`). Conversely a request that carries a token of its own in time is upgraded for the
user, and is told why where it is not (`admitted_iff`).
-/

set_option autoImplicit false

namespace PerOxo.Gateway

open ChatService AuthService

inductive GatewayEvent
  | auth (e : Event)
  /-- `dm_socket` has opened a session for a request. -/
  | opened (r : Nat) (sid : SessionId)

def GatewayEvent.auth? : GatewayEvent → Option Event
  | .auth e => some e
  | .opened _ _ => none

/-- The part of auth-service in a history. -/
def authEvents (hist : List GatewayEvent) : List Event := hist.filterMap GatewayEvent.auth?

/-- What happens in a step. -/
def GatewayState.events (s : GatewayState) : GatewayAction → List GatewayEvent
  | .auth act => (s.auth.events act).map .auth
  | .dmSocket r => [.opened r s.server.sessions.next]
  | _ => []

/-- The token has been stored for the user, and the verification has let it through. -/
def LetThrough (hist : List Event) (v : Nat) (token : String) (u : TenantUserId) : Prop :=
  ∃ payload drawnAt, Grants hist v token payload drawnAt ∧
    u = ⟨payload.projectId, payload.userId⟩

/-- How far each request has come, and what it has shown for it. -/
structure Admitted (codec : Codec) (hist : List GatewayEvent) (s : GatewayState) : Prop where
  granted : Granted codec (authEvents hist) s.auth
  /-- A request has asked for the token it carries. -/
  asked : ∀ r upgrade v, s.upgrades.get? r = some upgrade →
    upgrade.phase.verification? = some v → ∃ token phase,
      upgrade.params.lookup "token" = some token ∧
        s.auth.verifications.get? v = some ⟨.grpc, token, phase⟩
  /-- No two requests share a verification, so an answer lets one request in. -/
  own : ∀ r r' upgrade upgrade' v, s.upgrades.get? r = some upgrade →
    s.upgrades.get? r' = some upgrade' → upgrade.phase.verification? = some v →
    upgrade'.phase.verification? = some v → r = r'
  upgraded : ∀ r params v u, s.upgrades.get? r = some ⟨params, .upgraded v u⟩ → ∃ token,
    params.lookup "token" = some token ∧ LetThrough (authEvents hist) v token u
  /-- The token was let through for the user of the session, and before this was opened: so the
  history is cut there. -/
  connected : ∀ r params v sid, s.upgrades.get? r = some ⟨params, .connected v sid⟩ →
    ∃ token u before after, params.lookup "token" = some token ∧
      hist = before ++ .opened r sid :: after ∧ LetThrough (authEvents before) v token u ∧
        s.server.UserOf sid u
  /-- The server has no session but those the requests have opened. -/
  seated : ∀ sid, sid < s.server.sessions.next → ∃ r params v,
    s.upgrades.get? r = some ⟨params, .connected v sid⟩
  /-- A session was opened by one request. -/
  single : ∀ r r' params params' v v' sid, s.upgrades.get? r = some ⟨params, .connected v sid⟩ →
    s.upgrades.get? r' = some ⟨params', .connected v' sid⟩ → r = r'

/-! ## What a step does -/

theorem authEvents_append (hist evs : List GatewayEvent) :
    authEvents (hist ++ evs) = authEvents hist ++ authEvents evs := List.filterMap_append

theorem authEvents_map (evs : List Event) : authEvents (evs.map .auth) = evs := by
  rw [authEvents, List.filterMap_map]
  exact List.filterMap_some

theorem LetThrough.append {hist evs : List Event} {v : Nat} {token : String} {u : TenantUserId}
    (h : LetThrough hist v token u) : LetThrough (hist ++ evs) v token u :=
  let ⟨payload, drawnAt, hg, hu⟩ := h
  ⟨payload, drawnAt, hg.append, hu⟩

/-- Only `connect` opens a session. -/
theorem sessions_next_step {db : Db} {s s' : State} {act : Action}
    (h : s.step db act = some s') (hact : GatewayState.allows act = true) :
    s'.sessions.next = s.sessions.next := by
  cases State.stepped h with
  | connected v => cases hact
  | framed found active fresh result => cases State.framed result <;> rfl
  | @routed e rest p n t next result =>
    obtain ⟨o, m⟩ := e
    cases State.handledByRouter result with
    | refusedRegistration sender respondTo online => exact Arena.next_modify
    | registered sender respondTo offline => exact Arena.next_modify
    | _ => rfl
  | @roomHandled a r e rest p t found alive next result =>
    have hr : s'.registry = s.registry := result ▸ State.registry_handleMessage _ a r p e.message
    exact congrArg (fun r : Registry => r.sessions.next) hr
  | started => exact Arena.next_modify
  | failed => exact Arena.next_modify
  | recvEnded => exact Arena.next_modify
  | sendFailed => exact Arena.next_modify
  | sendEnded => exact Arena.next_modify
  | ended => exact Arena.next_modify
  | _ => rfl

/-- A verification keeps what it is about. -/
theorem verification_kept {codec : Codec} {s s' : AuthState} {act : AuthAction}
    (h : s.step codec act = some s') {v : Nat} {transport : Transport} {token : String}
    {phase : VerifyPhase} (hv : s.verifications.get? v = some ⟨transport, token, phase⟩) :
    ∃ phase', s'.verifications.get? v = some ⟨transport, token, phase'⟩ := by
  have hmod : ∀ (v₀ : Nat) (next : VerifyPhase), ∃ phase',
      (s.setVerification v₀ next).verifications.get? v = some ⟨transport, token, phase'⟩ := by
    intro v₀ next
    by_cases hvv : v = v₀
    · subst hvv
      exact ⟨next, Arena.get?_modify_self hv⟩
    · exact ⟨phase, (Arena.get?_modify_ne hvv).trans hv⟩
  cases AuthState.stepped h with
  | verificationArrived => exact ⟨phase, Arena.get?_alloc_of_some hv⟩
  | foreign found => exact hmod _ _
  | getFailed found => exact hmod _ _
  | got found => exact hmod _ _
  | checked found => exact hmod _ _
  | _ => exact ⟨phase, hv⟩

/-- Where a request that is there after one has gone on comes from. -/
theorem get?_setUpgrade {s : GatewayState} {r r' : Nat} {upgrade upgrade' : Upgrade}
    {phase : UpgradePhase} (hr : s.upgrades.get? r = some upgrade)
    (h : (s.setUpgrade r phase).upgrades.get? r' = some upgrade') :
    (r' = r ∧ upgrade' = ⟨upgrade.params, phase⟩) ∨
      (r' ≠ r ∧ s.upgrades.get? r' = some upgrade') := by
  rcases Arena.get?_modify_eq_some.mp h with ⟨rfl, a, ha, rfl⟩ | ⟨hne, h⟩
  · obtain rfl := Option.some.inj (ha.symm.trans hr)
    exact .inl ⟨rfl, rfl⟩
  · exact .inr ⟨hne, h⟩

/-- An answer that says that the token was found. -/
theorem answer_eq_found {internal : String → Status} {s : GatewayState} {v : Nat} {token : String}
    {phase : VerifyPhase} {t : UserToken}
    (hv : s.auth.verifications.get? v = some ⟨.grpc, token, phase⟩)
    (h : s.answer internal v = some (.ok ⟨true, some t⟩)) :
    s.auth.verifications.get? v =
      some ⟨.grpc, token, .answered (Transport.grpc.answer (.ok (some t)))⟩ := by
  unfold GatewayState.answer at h
  rw [hv] at h
  split at h
  · next result he =>
    cases he
    cases result with
    | error e => cases h
    | ok resp =>
      obtain rfl := Except.ok.inj (Option.some.inj h)
      exact hv
  · cases h

section Step

variable {codec : Codec} {internal : String → Status} {db : Db} {hist : List GatewayEvent}
  {s s' : GatewayState} {act : GatewayAction}

/-- A request goes on within `ws_handler`, and nothing else happens. -/
theorem Admitted.set (hi : Admitted codec hist s) {r : Nat} {upgrade : Upgrade}
    (phase : UpgradePhase) (hr : s.upgrades.get? r = some upgrade)
    (hbefore : ∀ v sid, upgrade.phase ≠ .connected v sid)
    (hsame : ∀ v, phase.verification? = some v → upgrade.phase.verification? = some v)
    (hafter : ∀ v sid, phase ≠ .connected v sid)
    (hup : ∀ v u, phase = .upgraded v u → ∃ token,
      upgrade.params.lookup "token" = some token ∧ LetThrough (authEvents hist) v token u) :
    Admitted codec hist (s.setUpgrade r phase) := by
  have hold : ∀ {r' upgrade' v}, (s.setUpgrade r phase).upgrades.get? r' = some upgrade' →
      upgrade'.phase.verification? = some v → ∃ upgrade₀, s.upgrades.get? r' = some upgrade₀ ∧
        upgrade₀.params = upgrade'.params ∧ upgrade₀.phase.verification? = some v := by
    intro r' upgrade' v h hv
    rcases get?_setUpgrade hr h with ⟨rfl, rfl⟩ | ⟨-, h⟩
    · exact ⟨upgrade, hr, rfl, hsame v hv⟩
    · exact ⟨upgrade', h, rfl, hv⟩
  have hconn : ∀ {r' params v sid},
      (s.setUpgrade r phase).upgrades.get? r' = some ⟨params, .connected v sid⟩ →
      s.upgrades.get? r' = some ⟨params, .connected v sid⟩ := by
    intro r' params v sid h
    rcases get?_setUpgrade hr h with ⟨-, he⟩ | ⟨-, h⟩
    · exact absurd (congrArg Upgrade.phase he).symm (hafter v sid)
    · exact h
  refine ⟨hi.granted, fun r' upgrade' v h hv => ?_, fun r₁ r₂ u₁ u₂ v h₁ h₂ hv₁ hv₂ => ?_,
    fun r' params v u h => ?_, fun r' params v sid h => hi.connected r' params v sid (hconn h),
    fun sid hsid => ?_,
    fun r₁ r₂ p₁ p₂ v₁ v₂ sid h₁ h₂ => hi.single r₁ r₂ p₁ p₂ v₁ v₂ sid (hconn h₁) (hconn h₂)⟩
  · obtain ⟨upgrade₀, h₀, hp, hv₀⟩ := hold h hv
    rw [← hp]
    exact hi.asked r' upgrade₀ v h₀ hv₀
  · obtain ⟨w₁, hw₁, -, hx₁⟩ := hold h₁ hv₁
    obtain ⟨w₂, hw₂, -, hx₂⟩ := hold h₂ hv₂
    exact hi.own r₁ r₂ w₁ w₂ v hw₁ hw₂ hx₁ hx₂
  · rcases get?_setUpgrade hr h with ⟨-, he⟩ | ⟨-, h⟩
    · obtain ⟨rfl, hp⟩ := Upgrade.mk.inj he
      exact hup v u hp.symm
    · exact hi.upgraded r' params v u h
  · obtain ⟨r', params, v, h⟩ := hi.seated sid hsid
    have hne : r' ≠ r := by
      rintro rfl
      exact hbefore v sid (congrArg Upgrade.phase (Option.some.inj (hr.symm.trans h)))
    exact ⟨r', params, v, (Arena.get?_modify_ne hne).trans h⟩

/-- auth-service goes on by itself. -/
theorem Admitted.auth (hi : Admitted codec hist s) (hcodec : codec.RoundTrips) {a : AuthAction}
    {auth : AuthState} (h : s.auth.step codec a = some auth) :
    Admitted codec (hist ++ (s.auth.events a).map .auth) { s with auth := auth } := by
  have happend : authEvents (hist ++ (s.auth.events a).map .auth) =
      authEvents hist ++ s.auth.events a := by
    rw [authEvents_append, authEvents_map]
  refine ⟨?_, fun r upgrade v hr hv => ?_, hi.own, fun r params v u hr => ?_,
    fun r params v sid hr => ?_, hi.seated, hi.single⟩
  · rw [happend]
    exact hi.granted.step hcodec h
  · obtain ⟨token, phase, ht, hphase⟩ := hi.asked r upgrade v hr hv
    obtain ⟨phase', hphase'⟩ := verification_kept h hphase
    exact ⟨token, phase', ht, hphase'⟩
  · obtain ⟨token, ht, hl⟩ := hi.upgraded r params v u hr
    rw [happend]
    exact ⟨token, ht, hl.append⟩
  · obtain ⟨token, u, before, after, ht, rfl, hl, hu⟩ := hi.connected r params v sid hr
    exact ⟨token, u, before, after ++ (s.auth.events a).map .auth, ht,
      List.append_assoc _ _ _, hl, hu⟩

/-- The server goes on, and opens no session. -/
theorem Admitted.server (hi : Admitted codec hist s) {a : Action} {server : State}
    (hallowed : GatewayState.allows a = true) (h : s.server.step db a = some server) :
    Admitted codec hist { s with server := server } := by
  refine ⟨hi.granted, hi.asked, hi.own, hi.upgraded, fun r params v sid hr => ?_,
    fun sid hsid => hi.seated sid (sessions_next_step h hallowed ▸ hsid), hi.single⟩
  obtain ⟨token, u, before, after, ht, hh, hl, hu⟩ := hi.connected r params v sid hr
  exact ⟨token, u, before, after, ht, hh, hl, userOf_step h hu⟩

theorem Admitted.called (hi : Admitted codec hist s) (hcodec : codec.RoundTrips) {r : Nat}
    {params : HashMap String String} {token : String} {auth : AuthState}
    (hr : s.upgrades.get? r = some ⟨params, .received⟩)
    (ht : params.lookup "token" = some token)
    (h : s.auth.step codec (.verifyUserToken .grpc token) = some auth) :
    Admitted codec hist
      ({ s with auth := auth }.setUpgrade r (.verifying s.auth.verifications.next)) := by
  have ha : Admitted codec hist { s with auth := auth } := by
    have hstep : Admitted codec (hist ++ []) { s with auth := auth } := hi.auth hcodec h
    rwa [List.append_nil] at hstep
  have hauth : auth.verifications = s.auth.verifications.alloc ⟨.grpc, token, .received⟩ := by
    rw [← Option.some.inj h]
  have hfresh : ∀ {r' upgrade'}, s.upgrades.get? r' = some upgrade' →
      upgrade'.phase.verification? ≠ some s.auth.verifications.next := by
    intro r' upgrade' h' hv
    obtain ⟨t, phase, -, hp⟩ := hi.asked r' upgrade' _ h' hv
    exact Nat.lt_irrefl _ (Arena.lt_next_of_get? hp)
  have hconn : ∀ {r' params' v sid},
      ({ s with auth := auth }.setUpgrade r (.verifying s.auth.verifications.next)).upgrades.get? r'
        = some ⟨params', .connected v sid⟩ →
      s.upgrades.get? r' = some ⟨params', .connected v sid⟩ := by
    intro r' params' v sid h'
    rcases get?_setUpgrade (s := { s with auth := auth }) hr h' with ⟨-, he⟩ | ⟨-, h'⟩
    · cases he
    · exact h'
  refine ⟨ha.granted, fun r' upgrade' v h' hv => ?_, fun r₁ r₂ u₁ u₂ v h₁ h₂ hv₁ hv₂ => ?_,
    fun r' params' v u h' => ?_, fun r' params' v sid h' => ha.connected r' params' v sid (hconn h'),
    fun sid hsid => ?_,
    fun r₁ r₂ p₁ p₂ v₁ v₂ sid h₁ h₂ => hi.single r₁ r₂ p₁ p₂ v₁ v₂ sid (hconn h₁) (hconn h₂)⟩
  · rcases get?_setUpgrade (s := { s with auth := auth }) hr h' with ⟨-, rfl⟩ | ⟨-, h'⟩
    · obtain rfl := Option.some.inj hv
      exact ⟨token, .received, ht, hauth ▸ Arena.get?_alloc_self⟩
    · exact ha.asked r' upgrade' v h' hv
  · rcases get?_setUpgrade (s := { s with auth := auth }) hr h₁ with ⟨rfl, rfl⟩ | ⟨-, hold₁⟩ <;>
      rcases get?_setUpgrade (s := { s with auth := auth }) hr h₂ with ⟨rfl, rfl⟩ | ⟨-, hold₂⟩
    · rfl
    · obtain rfl := Option.some.inj hv₁
      exact absurd hv₂ (hfresh hold₂)
    · obtain rfl := Option.some.inj hv₂
      exact absurd hv₁ (hfresh hold₁)
    · exact hi.own r₁ r₂ u₁ u₂ v hold₁ hold₂ hv₁ hv₂
  · rcases get?_setUpgrade (s := { s with auth := auth }) hr h' with ⟨-, he⟩ | ⟨-, h'⟩
    · cases he
    · exact hi.upgraded r' params' v u h'
  · obtain ⟨r', params', v, h'⟩ := hi.seated sid hsid
    have hne : r' ≠ r := by
      rintro rfl
      cases hr.symm.trans h'
    exact ⟨r', params', v, (Arena.get?_modify_ne hne).trans h'⟩

theorem Admitted.opened (hi : Admitted codec hist s) {r v : Nat}
    {params : HashMap String String} {u : TenantUserId} {server : State}
    (hr : s.upgrades.get? r = some ⟨params, .upgraded v u⟩)
    (h : s.server.step db (.connect u) = some server) :
    Admitted codec (hist ++ [.opened r s.server.sessions.next])
      ({ s with server := server }.setUpgrade r (.connected v s.server.sessions.next)) := by
  have hauth : authEvents (hist ++ [.opened r s.server.sessions.next]) = authEvents hist :=
    (authEvents_append _ _).trans (List.append_nil _)
  have hserver : server.sessions = s.server.sessions.alloc ⟨u, .creating, .pending, .idle, .idle⟩ := by
    rw [← Option.some.inj h]
    rfl
  have hold : ∀ {r' upgrade' w},
      ({ s with server := server }.setUpgrade r
        (.connected v s.server.sessions.next)).upgrades.get? r' = some upgrade' →
      upgrade'.phase.verification? = some w → ∃ upgrade₀, s.upgrades.get? r' = some upgrade₀ ∧
        upgrade₀.params = upgrade'.params ∧ upgrade₀.phase.verification? = some w := by
    intro r' upgrade' w h' hw
    rcases get?_setUpgrade (s := { s with server := server }) hr h' with ⟨rfl, rfl⟩ | ⟨-, h'⟩
    · exact ⟨_, hr, rfl, hw⟩
    · exact ⟨upgrade', h', rfl, hw⟩
  have hconn : ∀ {r' params' w sid},
      ({ s with server := server }.setUpgrade r
        (.connected v s.server.sessions.next)).upgrades.get? r' =
          some ⟨params', .connected w sid⟩ →
      (r' = r ∧ params' = params ∧ w = v ∧ sid = s.server.sessions.next) ∨
        (s.upgrades.get? r' = some ⟨params', .connected w sid⟩ ∧
          sid < s.server.sessions.next) := by
    intro r' params' w sid h'
    rcases get?_setUpgrade (s := { s with server := server }) hr h' with ⟨rfl, he⟩ | ⟨-, h'⟩
    · cases he
      exact .inl ⟨rfl, rfl, rfl, rfl⟩
    · obtain ⟨-, u', -, -, -, -, -, hu'⟩ := hi.connected r' params' w sid h'
      exact .inr ⟨h', hu'.lt_next⟩
  refine ⟨hauth.symm ▸ hi.granted, fun r' upgrade' w h' hw => ?_,
    fun r₁ r₂ u₁ u₂ w h₁ h₂ hw₁ hw₂ => ?_, fun r' params' w u' h' => ?_,
    fun r' params' w sid h' => ?_, fun sid hsid => ?_, fun r₁ r₂ p₁ p₂ v₁ v₂ sid h₁ h₂ => ?_⟩
  · obtain ⟨upgrade₀, h₀, hp, hw₀⟩ := hold h' hw
    rw [← hp]
    exact hi.asked r' upgrade₀ w h₀ hw₀
  · obtain ⟨w₁, hx₁, -, hy₁⟩ := hold h₁ hw₁
    obtain ⟨w₂, hx₂, -, hy₂⟩ := hold h₂ hw₂
    exact hi.own r₁ r₂ w₁ w₂ w hx₁ hx₂ hy₁ hy₂
  · rw [hauth]
    rcases get?_setUpgrade (s := { s with server := server }) hr h' with ⟨-, he⟩ | ⟨-, h'⟩
    · cases he
    · exact hi.upgraded r' params' w u' h'
  · rcases hconn h' with ⟨rfl, rfl, rfl, rfl⟩ | ⟨h', -⟩
    · obtain ⟨token, ht, hl⟩ := hi.upgraded r' params' w u hr
      exact ⟨token, u, hist, [], ht, rfl, hl, ⟨_, hserver ▸ Arena.get?_alloc_self, rfl⟩⟩
    · obtain ⟨token, u', before, after, ht, hh, hl, hu⟩ := hi.connected r' params' w sid h'
      refine ⟨token, u', before, after ++ [.opened r s.server.sessions.next], ht, ?_, hl,
        userOf_step h hu⟩
      rw [hh, List.append_assoc]
      rfl
  · have hsid : sid < s.server.sessions.next + 1 := by
      have hnext : server.sessions.next = s.server.sessions.next + 1 := by
        rw [hserver, Arena.next_alloc]
      exact hnext ▸ hsid
    rcases Nat.lt_succ_iff_lt_or_eq.mp hsid with hlt | rfl
    · obtain ⟨r', params', w, h'⟩ := hi.seated sid hlt
      have hne : r' ≠ r := by
        rintro rfl
        cases hr.symm.trans h'
      exact ⟨r', params', w, (Arena.get?_modify_ne hne).trans h'⟩
    · exact ⟨r, params, v, Arena.get?_modify_self hr⟩
  · rcases hconn h₁ with ⟨rfl, -, -, hs₁⟩ | ⟨h₁, hlt₁⟩ <;>
      rcases hconn h₂ with ⟨rfl, -, -, hs₂⟩ | ⟨h₂, hlt₂⟩
    · rfl
    · exact absurd (hs₁ ▸ hlt₂) (Nat.lt_irrefl _)
    · exact absurd (hs₂ ▸ hlt₁) (Nat.lt_irrefl _)
    · exact hi.single r₁ r₂ p₁ p₂ v₁ v₂ sid h₁ h₂

theorem Admitted.requested (hi : Admitted codec hist s) (params : HashMap String String) :
    Admitted codec hist { s with upgrades := s.upgrades.alloc ⟨params, .received⟩ } := by
  have hold : ∀ {r upgrade}, (s.upgrades.alloc ⟨params, .received⟩).get? r = some upgrade →
      upgrade.phase ≠ .received → s.upgrades.get? r = some upgrade := by
    intro r upgrade h hne
    rcases Arena.get?_alloc_eq_some.mp h with ⟨-, rfl⟩ | h
    · exact absurd rfl hne
    · exact h
  have hasked : ∀ {r upgrade v}, (s.upgrades.alloc ⟨params, .received⟩).get? r = some upgrade →
      upgrade.phase.verification? = some v → s.upgrades.get? r = some upgrade := by
    intro r upgrade v h hv
    refine hold h fun hp => ?_
    rw [hp] at hv
    cases hv
  refine ⟨hi.granted, fun r upgrade v h hv => hi.asked r upgrade v (hasked h hv) hv,
    fun r r' u u' v h h' hv hv' => hi.own r r' u u' v (hasked h hv) (hasked h' hv') hv hv',
    fun r params' v u h => hi.upgraded r params' v u (hasked h rfl),
    fun r params' v sid h => hi.connected r params' v sid (hasked h rfl), fun sid hsid => ?_,
    fun r r' p p' v v' sid h h' => hi.single r r' p p' v v' sid (hasked h rfl) (hasked h' rfl)⟩
  obtain ⟨r, params', v, h⟩ := hi.seated sid hsid
  exact ⟨r, params', v, Arena.get?_alloc_of_some h⟩

theorem Admitted.step (hi : Admitted codec hist s) (hcodec : codec.RoundTrips)
    (h : s.step codec internal db act = some s') : Admitted codec (hist ++ s.events act) s' := by
  have hquiet : s.events act = [] → Admitted codec hist s' →
      Admitted codec (hist ++ s.events act) s' := by
    intro he hi'
    rwa [he, List.append_nil]
  cases GatewayState.stepped h with
  | requested params => exact hquiet rfl (hi.requested params)
  | tokenMissing found missing => exact hquiet rfl (hi.set _ found nofun nofun nofun nofun)
  | called found present asked => exact hquiet rfl (hi.called hcodec found present asked)
  | callFailed found => exact hquiet rfl (hi.set _ found nofun nofun nofun nofun)
  | refused found answered result => exact hquiet rfl (hi.set _ found nofun nofun nofun nofun)
  | @admitted r v params token found answered =>
    refine hquiet rfl (hi.set _ found nofun (fun _ => id) nofun fun v' u he => ?_)
    obtain ⟨rfl, rfl⟩ := UpgradePhase.upgraded.inj he
    obtain ⟨t, phase, ht, hv⟩ := hi.asked r _ v found rfl
    obtain ⟨payload, drawnAt, hg, rfl⟩ := hi.granted.passed v .grpc t token
      (answer_eq_found hv answered)
    exact ⟨t, ht, payload, drawnAt, hg, rfl⟩
  | opened found result => exact hi.opened found result
  | auth result => exact hi.auth hcodec result
  | server allowed result => exact hquiet rfl (hi.server allowed result)

theorem Admitted.start (codec : Codec) (tenantKeys : List (String × String)) (now : Nat)
    (store : Store) : Admitted codec [] (.start tenantKeys now store) where
  granted := .start codec tenantKeys now
  asked r upgrade v h := by simp [GatewayState.start] at h
  own r r' u u' v h := by simp [GatewayState.start] at h
  upgraded r params v u h := by simp [GatewayState.start] at h
  connected r params v sid h := by simp [GatewayState.start] at h
  seated sid h := absurd h (Nat.not_lt_zero sid)
  single r r' p p' v v' sid h := by simp [GatewayState.start] at h

end Step

section Run

variable {codec : Codec} {internal : String → Status} {db : Db}
  {tenantKeys : List (String × String)} {now : Nat} {store : Store} {acts : List GatewayAction}
  {s : GatewayState}

theorem admitted (hcodec : codec.RoundTrips)
    (h : (gateway codec internal db tenantKeys now store).Run (.start tenantKeys now store) acts s) :
    Admitted codec ((gateway codec internal db tenantKeys now store).collect GatewayState.events
      (.start tenantKeys now store) acts) s :=
  h.invariant_collect (I := Admitted codec) (fun _ _ _ _ hs hi => hi.step hcodec hs) []
    (.start codec tenantKeys now store)

/-- What the server does behind the handler, it does by itself. -/
theorem server_reachable
    (h : (gateway codec internal db tenantKeys now store).Reachable s) :
    (system db store).Reachable s.server := by
  refine h.invariant (I := fun s => (system db store).Reachable s.server) .init
    fun s act s' _ hs hr => ?_
  cases GatewayState.stepped hs with
  | @opened r v params u server found result => exact hr.step (a := .connect u) result
  | @server act server allowed result => exact hr.step (a := act) result
  | _ => exact hr

end Run

/-! ## The results -/

/-- The request `r` has opened the session `sid` with a token: this token has been stored for `u`
on behalf of somebody who knew a key of the project, and the verification the request had asked for
has let it through, before the session was opened. -/
def BackedBy (hist : List GatewayEvent) (s : GatewayState) (sid : SessionId) (r : Nat)
    (token : String) (u : TenantUserId) : Prop :=
  ∃ params v payload drawnAt before after,
    s.upgrades.get? r = some ⟨params, .connected v sid⟩ ∧ params.lookup "token" = some token ∧
    hist = before ++ .opened r sid :: after ∧
    Grants (authEvents before) v token payload drawnAt ∧
    (payload.projectId, payload.secretApiKey) ∈ s.auth.tenantKeys ∧
    u = ⟨payload.projectId, payload.userId⟩

structure SocketsBacked (hist : List GatewayEvent) (s : GatewayState) : Prop where
  backed : ∀ sid u, s.server.UserOf sid u → ∃ r token, BackedBy hist s sid r token u
  /-- A request opens one session, after a verification of its own. -/
  own : ∀ r r' params params' v v' sid sid',
    s.upgrades.get? r = some ⟨params, .connected v sid⟩ →
    s.upgrades.get? r' = some ⟨params', .connected v' sid'⟩ → v = v' ∨ sid = sid' → r = r'
  /-- A token stands for one user. -/
  one : ∀ sid sid' r r' token u u', BackedBy hist s sid r token u →
    BackedBy hist s sid' r' token u' → u = u'

theorem Admitted.backed {codec : Codec} {hist : List GatewayEvent} {s : GatewayState}
    (hi : Admitted codec hist s) {sid : SessionId} {u : TenantUserId}
    (hu : s.server.UserOf sid u) : ∃ r token, BackedBy hist s sid r token u := by
  obtain ⟨r, params, v, hr⟩ := hi.seated sid hu.lt_next
  obtain ⟨token, w, before, after, ht, hh, ⟨payload, drawnAt, hg, rfl⟩, hw⟩ :=
    hi.connected r params v sid hr
  refine ⟨r, token, params, v, payload, drawnAt, before, after, hr, ht, hh, hg, ?_, hu.unique hw⟩
  obtain ⟨storedAt, checkedAt, hsub, -⟩ := hg
  have hmem : .stored token payload drawnAt storedAt ∈ authEvents hist := by
    rw [hh, authEvents_append]
    exact List.mem_append_left _ (hsub.subset List.mem_cons_self)
  exact (hi.granted.stored token payload drawnAt storedAt hmem).1

theorem Admitted.socketsBacked {codec : Codec} {hist : List GatewayEvent} {s : GatewayState}
    (hi : Admitted codec hist s) : SocketsBacked hist s := by
  have hstored : ∀ {before after token v payload drawnAt}, hist = before ++ after →
      Grants (authEvents before) v token payload drawnAt →
      ∃ storedAt, .stored token payload drawnAt storedAt ∈ authEvents hist := by
    rintro before after token v payload drawnAt rfl ⟨storedAt, checkedAt, hsub, -⟩
    rw [authEvents_append]
    exact ⟨storedAt, List.mem_append_left _ (hsub.subset List.mem_cons_self)⟩
  refine ⟨fun sid u hu => hi.backed hu, fun r r' params params' v v' sid sid' hr hr' hsame => ?_,
    fun sid sid' r r' token u u' hb hb' => ?_⟩
  · rcases hsame with rfl | rfl
    · exact hi.own r r' _ _ v hr hr' rfl rfl
    · exact hi.single r r' params params' v v' sid hr hr'
  · obtain ⟨params, v, payload, d, before, after, -, -, hh, hg, -, rfl⟩ := hb
    obtain ⟨params', v', payload', d', before', after', -, -, hh', hg', -, rfl⟩ := hb'
    obtain ⟨a, hm⟩ := hstored hh hg
    obtain ⟨a', hm'⟩ := hstored hh' hg'
    obtain ⟨rfl, -⟩ := hi.granted.one token payload payload' d d' a a' hm hm'
    rfl

/-- **Every socket is backed by a token**, whatever the order in which requests, verifications and
calls to Redis interleave, and whatever of them fails. Assumed are that `serde_json` reads a payload
back as it was written (`hcodec`), and that `generate_token` never returns a token twice, which is a
guard of `AuthState.draw`: that one token never stands for two users rests on it. -/
theorem sockets_backed {codec : Codec} (hcodec : codec.RoundTrips) {internal : String → Status}
    {db : Db} {tenantKeys : List (String × String)} {now : Nat} {store : Store}
    {acts : List GatewayAction} {s : GatewayState}
    (h : (gateway codec internal db tenantKeys now store).Run (.start tenantKeys now store) acts s) :
    SocketsBacked ((gateway codec internal db tenantKeys now store).collect GatewayState.events
      (.start tenantKeys now store) acts) s :=
  (admitted hcodec h).socketsBacked

/-- Every sender goes back to a token of its own session. -/
structure SendersBacked (hist : List GatewayEvent) (s : GatewayState) : Prop where
  /-- What has been enqueued to a session. -/
  queued : ∀ sid m, (sid, m) ∈ s.server.queues.log → ∃ u id o r token,
    m.sender? = some (u, id) ∧ s.server.CausedBy id o ∧ BackedBy hist s o r token u
  /-- What chat-service has been asked to write. -/
  written : ∀ c call, s.server.writes.get? c = some call → ∃ u id o r token,
    Uuid.parseStr call.request.messageId = some id ∧ s.server.CausedBy id o ∧
      BackedBy hist s o r token u ∧ call.request.projectId = u.projectId ∧
        call.request.senderId = u.userId
  /-- Who is in a room. -/
  members : ∀ a room, s.server.actors.get? a = some room → ∀ u sid,
    room.members.lookup u = some sid → ∃ r token, BackedBy hist s sid r token u

theorem write_causedBy {db : Db} {store : Store} {s : State} (h : (system db store).Reachable s)
    {c : CallId} {call : WriteCall} (hc : s.writes.get? c = some call) :
    ∃ id o u, Uuid.parseStr call.request.messageId = some id ∧ s.CausedBy id o ∧ s.UserOf o u ∧
      call.request.projectId = u.projectId ∧ call.request.senderId = u.userId := by
  have hi := speaking h
  have hd := ids h
  obtain ⟨n, p, hp, hreq⟩ := hd.tasks.calls c call hc
  rw [← hreq]
  cases hd.tasks.persisting n p hp with
  | @direct o c content f v timestamp mem request =>
    have hx := List.mem_append_left s.mailbox mem
    obtain ⟨u, hu, hs⟩ := hi.entered _ hx
    obtain rfl : f = u := hs
    rw [request]
    exact ⟨p.messageId, o, f, Uuid.parseStr_toString _, hd.sent.causedBy hx rfl, hu, rfl, rfl⟩
  | @room a r o content f timestamp found mem request =>
    obtain ⟨x, hx, -, ho, hf⟩ := hd.rooms.source found (List.mem_append_left _ mem)
    have hx := List.mem_append_left s.mailbox hx
    obtain ⟨u, hu, hs⟩ := hi.entered x hx
    obtain rfl : f = u := hf.speaksFor hs
    rw [request]
    exact ⟨p.messageId, x.origin, f, Uuid.parseStr_toString _,
      hd.sent.causedBy hx hf.messageId.symm, hu, rfl, rfl⟩

/-- **Every sender is backed by a token.** -/
theorem senders_backed {codec : Codec} (hcodec : codec.RoundTrips) {internal : String → Status}
    {db : Db} {tenantKeys : List (String × String)} {now : Nat} {store : Store}
    {acts : List GatewayAction} {s : GatewayState}
    (h : (gateway codec internal db tenantKeys now store).Run (.start tenantKeys now store) acts s) :
    SendersBacked ((gateway codec internal db tenantKeys now store).collect GatewayState.events
      (.start tenantKeys now store) acts) s := by
  have hi := admitted hcodec h
  have hs := server_reachable ⟨acts, h⟩
  refine ⟨fun sid m hm => ?_, fun c call hc => ?_, fun a room hr u sid hl => ?_⟩
  · obtain ⟨u, id, o, hsender, hcause, hu⟩ := (speaking hs).queued sid m hm
    obtain ⟨r, token, hb⟩ := hi.backed hu
    exact ⟨u, id, o, r, token, hsender, hcause, hb⟩
  · obtain ⟨id, o, u, hid, hcause, hu, hproject, hsender⟩ := write_causedBy hs hc
    obtain ⟨r, token, hb⟩ := hi.backed hu
    exact ⟨u, id, o, r, token, hid, hcause, hb, hproject, hsender⟩
  · exact hi.backed ((wired hs).addressed.members a room u sid hr hl)

/-! ## Who is let in -/

section Reply

variable {codec : Codec} {internal : String → Status} {db : Db} {s s' : GatewayState}
  {act : GatewayAction}

/-- A `SET` that Redis has carried out is reported as such. -/
def Reported (_ : GatewayState) (act : GatewayAction) : Prop :=
  ∀ g e, act ≠ .auth (.setEx g (some (.lost e)))

/-- What the gateway does to auth-service. -/
theorem auth_moved (h : s.step codec internal db act = some s') :
    s'.auth = s.auth ∨ ∃ a, s.auth.step codec a = some s'.auth ∧
      (act = .auth a ∨ ∃ transport token, a = .verifyUserToken transport token) := by
  cases GatewayState.stepped h with
  | called found present asked => exact .inr ⟨_, asked, .inr ⟨_, _, rfl⟩⟩
  | auth result => exact .inr ⟨_, result, .inl rfl⟩
  | _ => exact .inl rfl

theorem issuing_step (h : s.step codec internal db act = some s') (hc : Reported s act)
    (hi : Issuing codec s.auth) : Issuing codec s'.auth := by
  rcases auth_moved h with he | ⟨a, ha, hact⟩
  · exact he ▸ hi
  · refine hi.step (fun g e hlost => ?_) ha
    rcases hact with rfl | ⟨transport, token, rfl⟩
    · exact hc g e (congrArg GatewayAction.auth hlost)
    · cases hlost

/-- A request that has asked for the verification `v` waits for it, or has been answered. -/
def Asked (s : GatewayState) (r v : Nat) (params : HashMap String String) : Prop :=
  ∃ phase, s.upgrades.get? r = some ⟨params, phase⟩ ∧ phase ≠ .received ∧
    ∀ w, phase = .verifying w → w = v

theorem Asked.step {r v : Nat} {params : HashMap String String}
    (h : s.step codec internal db act = some s') (hi : Asked s r v params) :
    Asked s' r v params := by
  obtain ⟨phase, hr, hrec, hver⟩ := hi
  have hset : ∀ {t : GatewayState} {r₀ : Nat} {upgrade : Upgrade} {next : UpgradePhase},
      t.upgrades = s.upgrades → s.upgrades.get? r₀ = some upgrade → next ≠ .received →
      (∀ w, next = .verifying w → upgrade.phase = .received) →
      Asked (t.setUpgrade r₀ next) r v params := by
    intro t r₀ upgrade next ht hr₀ hnext hcall
    have hrt : t.upgrades.get? r = some ⟨params, phase⟩ := ht ▸ hr
    by_cases hrr : r = r₀
    · subst hrr
      obtain rfl := Option.some.inj (hr.symm.trans hr₀)
      exact ⟨next, Arena.get?_modify_self hrt, hnext, fun w hw => absurd (hcall w hw) hrec⟩
    · exact ⟨phase, (Arena.get?_modify_ne hrr).trans hrt, hrec, hver⟩
  cases GatewayState.stepped h with
  | requested => exact ⟨phase, Arena.get?_alloc_of_some hr, hrec, hver⟩
  | tokenMissing found => exact hset rfl found nofun nofun
  | called found => exact hset rfl found nofun fun _ _ => rfl
  | callFailed found => exact hset rfl found nofun nofun
  | refused found => exact hset rfl found nofun nofun
  | admitted found => exact hset rfl found nofun nofun
  | opened found => exact hset rfl found nofun nofun
  | _ => exact ⟨phase, hr, hrec, hver⟩

/-- A verification that has been answered stays as it is. -/
theorem answered_kept {s s' : AuthState} {act : AuthAction} (h : s.step codec act = some s')
    {v : Nat} {transport : Transport} {token : String} {a : Answer}
    (hv : s.verifications.get? v = some ⟨transport, token, .answered a⟩) :
    s'.verifications.get? v = some ⟨transport, token, .answered a⟩ := by
  have hmod : ∀ {v₀ : Nat} {task : VerifyTask} {next : VerifyPhase},
      s.verifications.get? v₀ = some task → task.phase ≠ .answered a →
      (s.setVerification v₀ next).verifications.get? v =
        some ⟨transport, token, .answered a⟩ := by
    intro v₀ task next hv₀ hne
    refine (Arena.get?_modify_ne ?_).trans hv
    rintro rfl
    obtain rfl := Option.some.inj (hv.symm.trans hv₀)
    exact hne rfl
  cases AuthState.stepped h with
  | verificationArrived => exact Arena.get?_alloc_of_some hv
  | foreign found => exact hmod found nofun
  | getFailed found => exact hmod found nofun
  | got found => exact hmod found nofun
  | checked found => exact hmod found nofun
  | _ => exact hv

theorem answer_of_answered {v : Nat} {token : String} {result : Except String (Option UserToken)}
    (hv : s.auth.verifications.get? v =
      some ⟨.grpc, token, .answered (Transport.grpc.answer result)⟩) :
    s.answer internal v = some ((grpcVerifyUserToken result).mapError internal) := by
  unfold GatewayState.answer
  rw [hv]
  rfl

/-- How a request goes on whose verification has ended with this. -/
def decided (v : Nat) : Option UserToken → UpgradePhase
  | some t => .upgraded v ⟨t.projectId, t.userId⟩
  | none => .refused (unauthorized, "Invalid token")

theorem decided_eq_upgraded {v : Nat} {found : Option UserToken} {u : TenantUserId} :
    decided v found = .upgraded v u ↔ ∃ t, found = some t ∧ u = ⟨t.projectId, t.userId⟩ := by
  cases found with
  | none => simp [decided]
  | some t => simp [decided, eq_comm]

theorem reply_of_answered {r v : Nat} {params : HashMap String String} {token : String}
    {result : Option UserToken} (hr : Asked s r v params)
    (hv : s.auth.verifications.get? v =
      some ⟨.grpc, token, .answered (Transport.grpc.answer (.ok result))⟩)
    (h : s.step codec internal db (.reply r none) = some s') :
    s'.upgrades.get? r = some ⟨params, decided v result⟩ := by
  have hanswer : s.answer internal v = _ := answer_of_answered hv
  obtain ⟨phase, hphase, -, hver⟩ := hr
  cases GatewayState.stepped h with
  | @refused r w params' e outcome found answered result' =>
    obtain ⟨rfl, rfl⟩ := Upgrade.mk.inj (Option.some.inj (hphase.symm.trans found))
    obtain rfl := hver w rfl
    obtain rfl := Option.some.inj (hanswer.symm.trans answered)
    cases result with
    | none =>
      obtain rfl : (unauthorized, "Invalid token") = e := Except.error.inj result'
      exact Arena.get?_modify_self found
    | some t => cases result'
  | @admitted r w params' t found answered =>
    obtain ⟨rfl, rfl⟩ := Upgrade.mk.inj (Option.some.inj (hphase.symm.trans found))
    obtain rfl := hver w rfl
    have he := Option.some.inj (hanswer.symm.trans answered)
    cases result with
    | none => cases he
    | some t' =>
      cases he
      exact Arena.get?_modify_self found

end Reply

/-- The decision on a request with a token: `s` is where the token is looked up, `s₂` where the
clock is read, and `s₅` where the request is answered. -/
structure Decided (s s₂ s₅ : GatewayState) (r v : Nat) (params : HashMap String String)
    (token : String) : Prop where
  admitted : ∀ u, s₅.upgrades.get? r = some ⟨params, .upgraded v u⟩ ↔ ∃ drawnAt storedAt,
    s.auth.Issued token u.projectId u.userId drawnAt storedAt ∧
      s.auth.now ≤ storedAt + ttlSecs * 1000 ∧ s₂.auth.nowSecs ≤ drawnAt + ttlSecs
  refused : (∀ u, s₅.upgrades.get? r ≠ some ⟨params, .upgraded v u⟩) →
    s₅.upgrades.get? r = some ⟨params, .refused (unauthorized, "Invalid token")⟩

section Decision

variable {codec : Codec} {internal : String → Status} {db : Db}
  {tenantKeys : List (String × String)} {now : Nat} {store : Store}

/-- What each step of auth-service keeps, each run of the gateway keeps. -/
theorem auth_invariant {I : AuthState → Prop}
    (hstep : ∀ a s s', s.step codec a = some s' → I s → I s') {s s' : GatewayState}
    {acts : List GatewayAction}
    (h : (gateway codec internal db tenantKeys now store).Run s acts s') (hi : I s.auth) :
    I s'.auth := by
  refine h.invariant (I := fun s => I s.auth) (fun s act s' hs hi => ?_) hi
  rcases auth_moved hs with he | ⟨a, ha, -⟩
  · exact he ▸ hi
  · exact hstep a s.auth s'.auth ha hi

theorem Asked.run {s s' : GatewayState} {acts : List GatewayAction} {r v : Nat}
    {params : HashMap String String} (hi : Asked s r v params)
    (h : (gateway codec internal db tenantKeys now store).Run s acts s') :
    Asked s' r v params :=
  h.invariant (I := fun s => Asked s r v params) (fun _ _ _ hs hi => hi.step hs) hi

/-- What the lookup has found is what the request is answered with, once the clock is read. -/
theorem reply_of_found {s₁ s₂ s₃ s₄ s₅ : GatewayState} {acts acts' : List GatewayAction} {r v : Nat}
    {params : HashMap String String} {token : String} {parsed : Option UserToken}
    (hr : Asked s₁ r v params)
    (hv : s₁.auth.verifications.get? v = some ⟨.grpc, token, .found parsed⟩)
    (hrun : (gateway codec internal db tenantKeys now store).Run s₁ acts s₂)
    (hcheck : s₂.step codec internal db (.auth (.check v)) = some s₃)
    (hrun' : (gateway codec internal db tenantKeys now store).Run s₃ acts' s₄)
    (hreply : s₄.step codec internal db (.reply r none) = some s₅) :
    s₅.upgrades.get? r = some ⟨params, decided v (checkExpiry s₂.auth.nowSecs parsed)⟩ := by
  obtain ⟨phase, hv₂, hphase⟩ := auth_invariant (I := fun s => ∃ phase,
      s.verifications.get? v = some ⟨.grpc, token, phase⟩ ∧
        (phase = .found parsed ∨ ∃ a, phase = .answered a))
    (fun a s s' hs ⟨phase, hphase, hor⟩ => by
      have hne : phase ≠ .received := by
        rcases hor with rfl | ⟨a, rfl⟩ <;> nofun
      obtain ⟨phase', hphase', hor'⟩ := verification_step hs hphase hne
      rcases hor' with rfl | ha
      · exact ⟨_, hphase', hor⟩
      · exact ⟨_, hphase', .inr ha⟩) hrun ⟨_, hv, .inl rfl⟩
  obtain ⟨auth, ha, rfl⟩ := Option.map_eq_some_iff.mp hcheck
  have hv₃ := checked_of_found hv₂ hphase ha
  have hv₄ := auth_invariant (I := fun s => s.verifications.get? v = some ⟨.grpc, token, _⟩)
    (fun _ _ _ hs hi => answered_kept hs hi) hrun' hv₃
  exact reply_of_answered (((hr.run hrun).step hcheck).run hrun') hv₄ hreply

/-- **A token has its request upgraded for its user, as long as it is valid**, and a request that is
not upgraded is told so: in every run in which Redis reports what it has stored, and whatever
happens between the lookup, the look at the clock and the answer. What the upgrade leads to is
`dm_socket`, which the router may still refuse where the user is online already. -/
theorem admitted_iff (hcodec : codec.RoundTrips) {s s₁ s₂ s₃ s₄ s₅ : GatewayState}
    {acts acts₁ acts₂ : List GatewayAction}
    (h : (gateway codec internal db tenantKeys now store).Run (.start tenantKeys now store) acts s)
    (hm : (gateway codec internal db tenantKeys now store).Meets Reported
      (.start tenantKeys now store) acts) {r v : Nat} {params : HashMap String String}
    {token : String} (hr : s.upgrades.get? r = some ⟨params, .verifying v⟩)
    (ht : params.lookup "token" = some token)
    (hget : s.step codec internal db (.auth (.get v none)) = some s₁)
    (hrun : (gateway codec internal db tenantKeys now store).Run s₁ acts₁ s₂)
    (hcheck : s₂.step codec internal db (.auth (.check v)) = some s₃)
    (hrun' : (gateway codec internal db tenantKeys now store).Run s₃ acts₂ s₄)
    (hreply : s₄.step codec internal db (.reply r none) = some s₅) :
    Decided s s₂ s₅ r v params token := by
  have hi : Issuing codec s.auth := h.invariant_of_meets (I := fun s => Issuing codec s.auth)
    (fun _ _ _ hs hc hi => issuing_step hs hc hi) hm (.start tenantKeys now)
  obtain ⟨token', phase, ht', hv⟩ := (admitted hcodec h).asked r _ v hr rfl
  obtain rfl := Option.some.inj (ht'.symm.trans ht)
  have hasked : Asked s r v params := ⟨_, hr, nofun, fun w hw => (UpgradePhase.verifying.inj hw).symm⟩
  obtain ⟨auth, ha, rfl⟩ := Option.map_eq_some_iff.mp hget
  have hdecided : ∀ {parsed : Option UserToken},
      auth.verifications.get? v = some ⟨.grpc, token', .found parsed⟩ →
      s₅.upgrades.get? r = some ⟨params,
        decided v (checkExpiry s₂.auth.nowSecs parsed)⟩ := fun hv₁ =>
    reply_of_found (hasked.step hget) hv₁ hrun hcheck hrun' hreply
  have hrefused : ∀ {parsed : Option UserToken},
      auth.verifications.get? v = some ⟨.grpc, token', .found parsed⟩ →
      (∀ u, s₅.upgrades.get? r ≠ some ⟨params, .upgraded v u⟩) →
      s₅.upgrades.get? r = some ⟨params, .refused (unauthorized, "Invalid token")⟩ := by
    intro parsed hv₁ hno
    rw [hdecided hv₁] at hno ⊢
    cases hc : checkExpiry s₂.auth.nowSecs parsed with
    | none => rfl
    | some t =>
      rw [hc] at hno
      exact absurd rfl (hno _)
  cases AuthState.stepped ha with
  | foreign found noToken =>
    cases hv.symm.trans found
    have hv₁ := Arena.get?_modify_self (f := fun task : VerifyTask =>
      { task with phase := .found none }) found
    refine ⟨fun u => ⟨fun hu => ?_, ?_⟩, hrefused hv₁⟩
    · rw [hdecided hv₁] at hu
      cases hu
    · rintro ⟨d, a, ⟨g, key, hg, -⟩, -⟩
      exact absurd (hi.drawn.tokens g _ token' hg rfl).1 noToken
  | got found isToken =>
    cases hv.symm.trans found
    have hv₁ := Arena.get?_modify_self (f := fun task : VerifyTask =>
      { task with phase := .found (parsePayload codec (s.auth.redis.get s.auth.now token')) }) found
    refine ⟨fun u => ⟨fun hu => ?_, ?_⟩, hrefused hv₁⟩
    · rw [hdecided hv₁] at hu
      obtain ⟨t, hc, rfl⟩ := decided_eq_upgraded.mp (Upgrade.mk.inj (Option.some.inj hu)).2
      obtain ⟨hp, hle⟩ := checkExpiry_eq_some.mp hc
      obtain ⟨d, a, hissued, he, hlive⟩ := (hi.get_eq_some hcodec isToken).mp hp
      exact ⟨d, a, hissued, hlive, he ▸ hle⟩
    · rintro ⟨d, a, hissued, hlive, hle⟩
      have hp := (hi.get_eq_some hcodec isToken).mpr ⟨d, a, hissued, rfl, hlive⟩
      rw [hdecided hv₁, hp, checkExpiry_eq_some.mpr ⟨rfl, hle⟩]
      rfl

end Decision

/-! ## One user -/

def aliceParams : HashMap String String := AList.insert "token" aliceToken ∅

theorem lookup_aliceParams : aliceParams.lookup "token" = some aliceToken := AList.lookup_insert _

/-- A token is issued to `alice`, and a request carries it. -/
def aliceRequest : List GatewayAction :=
  [.auth (.generateUserToken ⟨"alice", "acme", "key"⟩), .auth (.selectKey 0 (.ok (some "key"))),
    .auth (.draw 0 aliceRandString), .auth (.setEx 0 none), .request aliceParams, .call 0]

def aliceAuth (phase : VerifyPhase) : AuthState :=
  ⟨Redis.setEx .empty 5000 aliceToken (jsonCodec.toString ⟨"acme", "alice", 605⟩) ttlSecs, 5000,
    [("acme", "key")], [aliceToken], .empty, ⟨[⟨⟨"alice", "acme", "key"⟩, .issued aliceToken 5 5000⟩]⟩,
    ⟨[⟨.grpc, aliceToken, phase⟩]⟩⟩

def aliceState (phase : VerifyPhase) (upgrade : UpgradePhase) (server : State) : GatewayState :=
  ⟨aliceAuth phase, server, ⟨[⟨aliceParams, upgrade⟩]⟩⟩

def aliceGateway : Machine GatewayState GatewayAction :=
  gateway jsonCodec id lenientDb [("acme", "key")] 5000 .empty

theorem exec_aliceRequest : aliceGateway.exec (.start [("acme", "key")] 5000 .empty) aliceRequest =
    some (aliceState .received (.verifying 0) (.start .empty)) := by
  have hlength : aliceRandString.toList.length = 24 :=
    (congrArg List.length String.toList_ofList).trans List.length_replicate
  have halphanum : (∀ c ∈ aliceRandString.toList, c.isAlphanum) = True :=
    eq_true fun c hc => List.eq_of_mem_replicate (String.toList_ofList ▸ hc) ▸ rfl
  simp [aliceRequest, aliceGateway, aliceState, aliceAuth, lookup_aliceParams, aliceToken, Machine.exec,
    gateway, GatewayState.step, GatewayState.start, GatewayState.call, GatewayState.setUpgrade,
    AuthState.step, AuthState.start, AuthState.selectKey, AuthState.Answers, checkSecretKey,
    AuthState.draw, AuthState.setEx, AuthState.setRequest, AuthState.nowSecs, Arena.get?,
    Arena.alloc, Arena.modify, Arena.empty, Arena.next, hlength, halphanum, userTokenPayload, ttlSecs]

theorem step_aliceGet : aliceGateway.step
    (aliceState .received (.verifying 0) (.start .empty)) (.auth (.get 0 none)) =
    some (aliceState (.found (some ⟨"acme", "alice", 605⟩)) (.verifying 0) (.start .empty)) := by
  have hparsed : parsePayload jsonCodec ((aliceAuth .received).redis.get 5000 aliceToken) =
      some ⟨"acme", "alice", 605⟩ := by
    have hentry : (aliceAuth .received).redis.entries aliceToken = some ⟨.text (jsonCodec.toString
        ⟨"acme", "alice", 605⟩), some 605000⟩ := Redis.entries_setEx_self
    have hlive : ∀ d ∈ some 605000, 5000 ≤ d := by simp
    rw [Redis.get, Expiring.lookup_eq_some.mpr ⟨hentry, hlive⟩]
    exact jsonCodec_roundTrips _
  have hreceived : (aliceAuth .received).verifications.get? 0 = some ⟨.grpc, aliceToken, .received⟩ :=
    rfl
  have hget := AuthState.get_of_isToken jsonCodec hreceived (isToken_generateToken _)
  rw [show (aliceAuth .received).now = 5000 from rfl, hparsed] at hget
  exact congrArg (Option.map fun auth : AuthState =>
    (⟨auth, .start .empty, ⟨[⟨aliceParams, .verifying 0⟩]⟩⟩ : GatewayState)) hget

theorem step_aliceCheck : aliceGateway.step
    (aliceState (.found (some ⟨"acme", "alice", 605⟩)) (.verifying 0) (.start .empty))
      (.auth (.check 0)) =
    some (aliceState (.answered (.grpc (.ok ⟨true, some ⟨"acme", "alice", 605⟩⟩))) (.verifying 0)
      (.start .empty)) := rfl

theorem step_aliceReply : aliceGateway.step
    (aliceState (.answered (.grpc (.ok ⟨true, some ⟨"acme", "alice", 605⟩⟩))) (.verifying 0)
      (.start .empty)) (.reply 0 none) =
    some (aliceState (.answered (.grpc (.ok ⟨true, some ⟨"acme", "alice", 605⟩⟩)))
      (.upgraded 0 alice) (.start .empty)) := rfl

/-- Once she is let in, `alice` writes to herself. -/
def aliceChats : List GatewayAction :=
  [.dmSocket 0, .server (.router 0 0), .server (.finishCreation 0),
    .server (.frame 0 (some (.sendDirectMessage "c" alice "hi" (.ofTime 8))) (.ofTime 1)),
    .server (.router 0 0)]

theorem run_alice : ∃ s, aliceGateway.Run (.start [("acme", "key")] 5000 .empty)
    (aliceRequest ++ ([.auth (.get 0 none), .auth (.check 0), .reply 0 none] ++ aliceChats)) s ∧
      s.server.UserOf 0 alice ∧
      s.server.queues.log = [(0, .directMessage alice "hi" (.ofTime 1) 0)] := by
  obtain ⟨s, hs, he⟩ := Option.map_eq_some_iff.mp
    (show (aliceGateway.exec (aliceState
        (.answered (.grpc (.ok ⟨true, some ⟨"acme", "alice", 605⟩⟩))) (.upgraded 0 alice)
        (.start .empty)) aliceChats).map
          (fun s => ((s.server.sessions.get? 0).map (·.tenantUserId), s.server.queues.log)) =
      some (some alice, [(0, .directMessage alice "hi" (.ofTime 1) 0)]) from rfl)
  obtain ⟨hu, hq⟩ := Prod.mk.inj he
  exact ⟨s, (Machine.run_of_exec exec_aliceRequest).append (.cons step_aliceGet
    (.cons step_aliceCheck (.cons step_aliceReply (Machine.run_of_exec hs)))),
    Option.map_eq_some_iff.mp hu, hq⟩

theorem sockets_backed_alice : ∃ acts s,
    aliceGateway.Run (.start [("acme", "key")] 5000 .empty) acts s ∧ s.server.UserOf 0 alice ∧
      SocketsBacked (aliceGateway.collect GatewayState.events
        (.start [("acme", "key")] 5000 .empty) acts) s := by
  obtain ⟨s, hs, hu, -⟩ := run_alice
  exact ⟨_, s, hs, hu, sockets_backed jsonCodec_roundTrips hs⟩

theorem senders_backed_alice : ∃ acts s,
    aliceGateway.Run (.start [("acme", "key")] 5000 .empty) acts s ∧
      s.server.queues.log = [(0, .directMessage alice "hi" (.ofTime 1) 0)] ∧
      SendersBacked (aliceGateway.collect GatewayState.events
        (.start [("acme", "key")] 5000 .empty) acts) s := by
  obtain ⟨s, hs, -, hq⟩ := run_alice
  exact ⟨_, s, hs, hq, senders_backed jsonCodec_roundTrips hs⟩

theorem admitted_iff_alice : ∃ s s₂ s₅,
    s₅.upgrades.get? 0 = some ⟨aliceParams, .upgraded 0 alice⟩ ∧
      Decided s s₂ s₅ 0 0 aliceParams aliceToken :=
  ⟨_, _, _, rfl, admitted_iff jsonCodec_roundTrips (Machine.run_of_exec exec_aliceRequest)
    (Machine.meets_of_forall (by simp [aliceRequest, Reported]) _) rfl lookup_aliceParams
    step_aliceGet (.nil _) step_aliceCheck (.nil _) step_aliceReply⟩

end PerOxo.Gateway
