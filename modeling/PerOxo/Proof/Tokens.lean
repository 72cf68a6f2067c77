import PerOxo.AuthService.System

/-!
# User tokens

A token is drawn once, for one request, and only this request stores something under it
(`Issuing.source`); what it stores stays there until it expires (`Issuing.issued`). So a
verification answers with what the request was authorized for, or not at all
(`verify_user_token_iff`).
-/

set_option autoImplicit false

namespace PerOxo.AuthService

/-- `token.starts_with("pxtok_")`. -/
def IsToken (token : String) : Prop := tokenPrefix.toList <+: token.toList

theorem isToken_generateToken (randString : String) : IsToken (generateToken randString) := by
  simp [IsToken, generateToken]

/-- The token a request has drawn. -/
def TokenPhase.token? : TokenPhase → Option String
  | .drawn token _ => some token
  | .issued token _ _ => some token
  | _ => none

/-- The request has been checked against the stored key. -/
def TokenPhase.Authorized : TokenPhase → Prop
  | .received => False
  | .refused _ => False
  | _ => True

/-- What is stored under a token. -/
def tokenEntry (codec : Codec) (payload : GenerateUserTokenRequest) (drawnAt storedAt : Nat) :
    Expiring.Entry Value :=
  ⟨.text (codec.toString (userTokenPayload drawnAt payload.projectId payload.userId)),
    some (storedAt + ttlSecs * 1000)⟩

/-! ## What a step does -/

/-- What a step does to the requests, the tokens and the keys that are tokens. -/
inductive TokenStep (codec : Codec) (s s' : AuthState) (act : AuthAction) : Prop
  | quiet (requests : s'.requests = s.requests) (tokens : s'.tokens = s.tokens)
      (entries : ∀ key, IsToken key → s'.redis.entries key = s.redis.entries key)
  | arrived {payload : GenerateUserTokenRequest}
      (requests : s'.requests = s.requests.alloc ⟨payload, .received⟩)
      (tokens : s'.tokens = s.tokens) (redis : s'.redis = s.redis)
  | authorized {g : Nat} {payload : GenerateUserTokenRequest}
      (found : s.requests.get? g = some ⟨payload, .received⟩)
      (key : (payload.projectId, payload.secretApiKey) ∈ s.tenantKeys)
      (result : s' = s.setRequest g .authorized)
  | refused {g : Nat} {task : TokenTask} {e : HttpError} (found : s.requests.get? g = some task)
      (notIssued : ∀ token drawnAt storedAt, task.phase ≠ .issued token drawnAt storedAt)
      (result : s' = s.setRequest g (.refused e))
  | drawn {g : Nat} {payload : GenerateUserTokenRequest} {token : String} {drawnAt : Nat}
      (found : s.requests.get? g = some ⟨payload, .authorized⟩) (isToken : IsToken token)
      (fresh : token ∉ s.tokens)
      (result : s' = { s with tokens := s.tokens ++ [token] }.setRequest g (.drawn token drawnAt))
  | issued {g : Nat} {payload : GenerateUserTokenRequest} {token : String} {drawnAt : Nat}
      (found : s.requests.get? g = some ⟨payload, .drawn token drawnAt⟩)
      (result : s' = { s with
        redis := s.redis.put token (tokenEntry codec payload drawnAt s.now) }.setRequest g
          (.issued token drawnAt s.now))
  | lost {g : Nat} {e : String} (action : act = .setEx g (some (.lost e)))
      {payload : GenerateUserTokenRequest} {token : String} {drawnAt : Nat}
      (found : s.requests.get? g = some ⟨payload, .drawn token drawnAt⟩)
      (result : s' = { s with
        redis := s.redis.put token (tokenEntry codec payload drawnAt s.now) }.setRequest g
          (.refused (storeError e)))

section Step

variable {codec : Codec} {s s' : AuthState} {act : AuthAction}

theorem token_step (h : s.step codec act = some s') : TokenStep codec s s' act := by
  have hne : ∀ {key u : String}, IsToken key → key ≠ rateLimitKey u := by
    rintro key u hkey rfl
    exact not_isToken_rateLimitKey u hkey
  cases AuthState.stepped h with
  | requestArrived payload => exact .arrived rfl rfl rfl
  | authorized found key => exact .authorized found key rfl
  | rejected found => exact .refused found nofun rfl
  | drawn found fresh => exact .drawn found (isToken_generateToken _) fresh rfl
  | setFailed found => exact .refused found nofun rfl
  | setLost found => exact .lost rfl found rfl
  | issued found => exact .issued found rfl
  | incrLost found result =>
    exact .quiet rfl rfl fun key hkey => Redis.entries_incr_ne (hne hkey) result
  | counted found result =>
    exact .quiet rfl rfl fun key hkey => Redis.entries_incr_ne (hne hkey) result
  | limited found result =>
    exact .quiet rfl rfl fun key hkey => Redis.entries_incr_ne (hne hkey) result
  | expired found => exact .quiet rfl rfl fun key hkey => Redis.entries_expire_ne (hne hkey)
  | _ => exact .quiet rfl rfl fun _ _ => rfl

/-- Keys are only added. -/
theorem tenantKeys_step (h : s.step codec act = some s') {row : String × String}
    (hrow : row ∈ s.tenantKeys) : row ∈ s'.tenantKeys := by
  cases AuthState.stepped h with
  | inserted found => exact List.mem_append_left _ hrow
  | _ => exact hrow

/-- Where a request that is there after a step comes from. -/
theorem get?_setRequest {g g' : Nat} {task task' : TokenTask} {phase : TokenPhase}
    (hg : s.requests.get? g = some task)
    (h : (s.setRequest g phase).requests.get? g' = some task') :
    (g' = g ∧ task' = ⟨task.payload, phase⟩) ∨ (g' ≠ g ∧ s.requests.get? g' = some task') := by
  rcases Arena.get?_modify_eq_some.mp h with ⟨rfl, a, ha, rfl⟩ | ⟨hne, h⟩
  · obtain rfl := Option.some.inj (ha.symm.trans hg)
    exact .inl ⟨rfl, rfl⟩
  · exact .inr ⟨hne, h⟩

end Step

/-! ## Tokens that are drawn -/

/-- A token is drawn by one request. -/
structure Drawn (s : AuthState) : Prop where
  /-- It is of the form `generate_token` gives it, and among those that are not drawn again. -/
  tokens : ∀ g task token, s.requests.get? g = some task → task.phase.token? = some token →
    IsToken token ∧ token ∈ s.tokens
  distinct : ∀ g g' task task' token, s.requests.get? g = some task →
    s.requests.get? g' = some task' → task.phase.token? = some token →
    task'.phase.token? = some token → g = g'

section Step

variable {codec : Codec} {s s' : AuthState} {act : AuthAction}

/-- A request goes on with the token it has, if it has one. -/
theorem Drawn.set (hi : Drawn s) {g : Nat} {task : TokenTask} (phase : TokenPhase)
    (hg : s.requests.get? g = some task) (hr : s'.requests = (s.setRequest g phase).requests)
    (ht : s'.tokens = s.tokens)
    (hphase : ∀ token, phase.token? = some token → task.phase.token? = some token) :
    Drawn s' := by
  have hold : ∀ {g' task' token}, s'.requests.get? g' = some task' →
      task'.phase.token? = some token →
      ∃ task₀, s.requests.get? g' = some task₀ ∧ task₀.phase.token? = some token := by
    intro g' task' token h htoken
    rcases get?_setRequest hg (hr ▸ h) with ⟨rfl, rfl⟩ | ⟨-, h⟩
    · exact ⟨task, hg, hphase token htoken⟩
    · exact ⟨task', h, htoken⟩
  refine ⟨fun g' task' token h htoken => ?_, fun g₁ g₂ task₁ task₂ token h₁ h₂ ht₁ ht₂ => ?_⟩
  · obtain ⟨task₀, h₀, ht₀⟩ := hold h htoken
    rw [ht]
    exact hi.tokens g' task₀ token h₀ ht₀
  · obtain ⟨task₃, h₃, ht₃⟩ := hold h₁ ht₁
    obtain ⟨task₄, h₄, ht₄⟩ := hold h₂ ht₂
    exact hi.distinct g₁ g₂ task₃ task₄ token h₃ h₄ ht₃ ht₄

theorem Drawn.step (hi : Drawn s) (h : s.step codec act = some s') : Drawn s' := by
  cases token_step h with
  | quiet requests tokens entries =>
    refine ⟨?_, ?_⟩
    · rw [requests, tokens]
      exact hi.tokens
    · rw [requests]
      exact hi.distinct
  | arrived requests tokens redis =>
    have hold : ∀ {g task token}, s'.requests.get? g = some task →
        task.phase.token? = some token → s.requests.get? g = some task := by
      intro g task token hg htoken
      rw [requests] at hg
      rcases Arena.get?_alloc_eq_some.mp hg with ⟨-, rfl⟩ | hg
      · cases htoken
      · exact hg
    refine ⟨fun g task token hg ht => ?_, fun g g' task task' token hg hg' ht ht' => ?_⟩
    · rw [tokens]
      exact hi.tokens g task token (hold hg ht) ht
    · exact hi.distinct g g' task task' token (hold hg ht) (hold hg' ht') ht ht'
  | authorized found key result =>
    subst result
    exact hi.set .authorized found rfl rfl nofun
  | @refused g task e found notIssued result =>
    subst result
    exact hi.set (.refused e) found rfl rfl nofun
  | @issued g payload token drawnAt found result =>
    subst result
    exact hi.set (.issued token drawnAt s.now) found rfl rfl fun _ ht => ht
  | @lost g e action payload token drawnAt found result =>
    subst result
    exact hi.set (.refused (storeError e)) found rfl rfl nofun
  | @drawn g payload token drawnAt found isToken fresh result =>
    subst result
    have hself : ∀ {g' : Nat} {task' : TokenTask} {other : String},
        s.requests.get? g' = some task' → task'.phase.token? = some other → other ≠ token := by
      rintro g' task' other h' ht' rfl
      exact fresh (hi.tokens g' task' other h' ht').2
    refine ⟨fun g' task' other h' ht' => ?_, fun g₁ g₂ task₁ task₂ other h₁ h₂ ht₁ ht₂ => ?_⟩
    · rcases get?_setRequest (s := { s with tokens := _ }) found h' with ⟨-, rfl⟩ | ⟨-, h'⟩
      · obtain rfl := Option.some.inj ht'
        exact ⟨isToken, List.mem_append_right _ (List.mem_singleton_self _)⟩
      · obtain ⟨hp, hm⟩ := hi.tokens g' task' other h' ht'
        exact ⟨hp, List.mem_append_left _ hm⟩
    · rcases get?_setRequest (s := { s with tokens := _ }) found h₁ with ⟨rfl, rfl⟩ | ⟨-, hold₁⟩ <;>
        rcases get?_setRequest (s := { s with tokens := _ }) found h₂ with ⟨rfl, rfl⟩ | ⟨-, hold₂⟩
      · rfl
      · exact absurd (Option.some.inj ht₁).symm (hself hold₂ ht₂)
      · exact absurd (Option.some.inj ht₂).symm (hself hold₁ ht₁)
      · exact hi.distinct g₁ g₂ task₁ task₂ other hold₁ hold₂ ht₁ ht₂

theorem Drawn.start (tenantKeys : List (String × String)) (now : Nat) :
    Drawn (.start tenantKeys now) where
  tokens g task token h := by simp [AuthState.start] at h
  distinct g g' task task' token h := by simp [AuthState.start] at h

end Step

/-! ## Tokens that are issued -/

/-- A `SET` that Redis has carried out is reported as such. -/
def SetReported (_ : AuthState) (act : AuthAction) : Prop :=
  ∀ g e, act ≠ .setEx g (some (.lost e))

/-- What is stored under a token is what its request was authorized for. -/
structure Issuing (codec : Codec) (s : AuthState) : Prop where
  drawn : Drawn s
  /-- A key is checked before the token is drawn, and is not taken from the table. -/
  authorized : ∀ g task, s.requests.get? g = some task → task.phase.Authorized →
    (task.payload.projectId, task.payload.secretApiKey) ∈ s.tenantKeys
  /-- Nobody overwrites what a request has stored: others have other tokens, and the limiter has
  keys that are no tokens. -/
  issued : ∀ g payload token drawnAt storedAt,
    s.requests.get? g = some ⟨payload, .issued token drawnAt storedAt⟩ →
      s.redis.entries token = some (tokenEntry codec payload drawnAt storedAt)
  /-- There is a request behind every entry. This is where `SetReported` is needed: an entry whose
  `SET` has returned an error would have none that was answered with the token. -/
  source : ∀ token e, IsToken token → s.redis.entries token = some e →
    ∃ g payload drawnAt storedAt,
      s.requests.get? g = some ⟨payload, .issued token drawnAt storedAt⟩

section Step

variable {codec : Codec} {s s' : AuthState} {act : AuthAction}

/-- A request goes on, and nothing is stored. -/
theorem Issuing.set (hi : Issuing codec s) (hdrawn : Drawn s') {g : Nat} {task : TokenTask}
    (phase : TokenPhase) (hg : s.requests.get? g = some task)
    (hr : s'.requests = (s.setRequest g phase).requests) (hredis : s'.redis = s.redis)
    (hkeys : s'.tenantKeys = s.tenantKeys)
    (hauth : phase.Authorized → (task.payload.projectId, task.payload.secretApiKey) ∈ s.tenantKeys)
    (hbefore : ∀ token drawnAt storedAt, task.phase ≠ .issued token drawnAt storedAt)
    (hafter : ∀ token drawnAt storedAt, phase ≠ .issued token drawnAt storedAt) :
    Issuing codec s' := by
  refine ⟨hdrawn, fun g' task' h ha => ?_, fun g' payload token d a h => ?_,
    fun token e ht he => ?_⟩
  · rw [hkeys]
    rcases get?_setRequest hg (hr ▸ h) with ⟨-, rfl⟩ | ⟨-, h⟩
    · exact hauth ha
    · exact hi.authorized g' task' h ha
  · rw [hredis]
    rcases get?_setRequest hg (hr ▸ h) with ⟨-, he⟩ | ⟨-, h⟩
    · exact absurd (congrArg TokenTask.phase he).symm (hafter token d a)
    · exact hi.issued g' payload token d a h
  · obtain ⟨g', payload, d, a, h⟩ := hi.source token e ht (hredis ▸ he)
    refine ⟨g', payload, d, a, ?_⟩
    have hne : g' ≠ g := by
      rintro rfl
      exact hbefore token d a (congrArg TokenTask.phase (Option.some.inj (hg.symm.trans h)))
    rw [hr]
    exact (Arena.get?_modify_ne hne).trans h

theorem Issuing.step (hi : Issuing codec s) (hc : SetReported s act)
    (h : s.step codec act = some s') : Issuing codec s' := by
  have hdrawn := hi.drawn.step h
  cases token_step h with
  | quiet requests tokens entries =>
    refine ⟨hdrawn, ?_, fun g payload token d a hg => ?_, fun token e ht he => ?_⟩
    · rw [requests]
      exact fun g task hg ha => tenantKeys_step h (hi.authorized g task hg ha)
    · rw [requests] at hg
      rw [entries token (hi.drawn.tokens g _ token hg rfl).1]
      exact hi.issued g payload token d a hg
    · rw [requests]
      exact hi.source token e ht (entries token ht ▸ he)
  | arrived requests tokens redis =>
    refine ⟨hdrawn, fun g task hg ha => ?_, fun g payload token d a hg => ?_,
      fun token e ht he => ?_⟩
    · rw [requests] at hg
      rcases Arena.get?_alloc_eq_some.mp hg with ⟨-, rfl⟩ | hg
      · exact ha.elim
      · exact tenantKeys_step h (hi.authorized g task hg ha)
    · rw [requests] at hg
      rw [redis]
      rcases Arena.get?_alloc_eq_some.mp hg with ⟨-, he⟩ | hg
      · cases he
      · exact hi.issued g payload token d a hg
    · obtain ⟨g, payload, d, a, hg⟩ := hi.source token e ht (redis ▸ he)
      exact ⟨g, payload, d, a, requests ▸ Arena.get?_alloc_of_some hg⟩
  | authorized found key result =>
    subst result
    exact hi.set hdrawn .authorized found rfl rfl rfl (fun _ => key) nofun nofun
  | @refused g task e found notIssued result =>
    subst result
    exact hi.set hdrawn (.refused e) found rfl rfl rfl False.elim notIssued nofun
  | @drawn g payload token drawnAt found isToken fresh result =>
    subst result
    exact hi.set hdrawn (.drawn token drawnAt) found rfl rfl rfl
      (fun _ => hi.authorized g _ found trivial) nofun nofun
  | lost action => exact absurd action (hc _ _)
  | @issued g payload token drawnAt found result =>
    subst result
    have hother : ∀ {g' : Nat} {task' : TokenTask} {other : String}, g' ≠ g →
        s.requests.get? g' = some task' → task'.phase.token? = some other → other ≠ token := by
      rintro g' task' other hne h' ht' rfl
      exact hne (hi.drawn.distinct g' g task' _ other h' found ht' rfl)
    refine ⟨hdrawn, fun g' task' h' ha => ?_, fun g' payload' token' d a h' => ?_,
      fun token' e ht he => ?_⟩
    · rcases get?_setRequest (s := { s with redis := _ }) found h' with ⟨-, rfl⟩ | ⟨-, h'⟩
      · exact hi.authorized g ⟨payload, .drawn token drawnAt⟩ found trivial
      · exact hi.authorized g' task' h' ha
    · rcases get?_setRequest (s := { s with redis := _ }) found h' with ⟨-, he⟩ | ⟨hne, h'⟩
      · cases he
        exact Expiring.entries_put_self
      · exact (Expiring.entries_put_ne (hother hne h' rfl)).trans
          (hi.issued g' payload' token' d a h')
    · by_cases htoken : token' = token
      · subst htoken
        exact ⟨g, payload, drawnAt, s.now, Arena.get?_modify_self found⟩
      · obtain ⟨g', payload', d, a, h'⟩ := hi.source token' e ht
          ((Expiring.entries_put_ne htoken).symm.trans he)
        have hne : g' ≠ g := by
          rintro rfl
          cases found.symm.trans h'
        exact ⟨g', payload', d, a, (Arena.get?_modify_ne hne).trans h'⟩

theorem Issuing.start (tenantKeys : List (String × String)) (now : Nat) :
    Issuing codec (.start tenantKeys now) where
  drawn := .start tenantKeys now
  authorized g task h := by simp [AuthState.start] at h
  issued g payload token d a h := by simp [AuthState.start] at h
  source token e ht h := by simp [AuthState.start] at h

end Step

/-! ## Verifications -/

/-- A request was answered with the token: it presented the key that is stored for the project. -/
def AuthState.Issued (s : AuthState) (token projectId userId : String) (drawnAt storedAt : Nat) :
    Prop :=
  ∃ g secretApiKey, s.requests.get? g =
      some ⟨⟨userId, projectId, secretApiKey⟩, .issued token drawnAt storedAt⟩ ∧
    (projectId, secretApiKey) ∈ s.tenantKeys

section Verify

variable {codec : Codec} {s s' : AuthState} {act : AuthAction}

/-- What `GET` finds under a token. -/
theorem Issuing.get_eq_some (hi : Issuing codec s) (hcodec : codec.RoundTrips) {token : String}
    (ht : IsToken token) {p u : String} {e : Nat} :
    parsePayload codec (s.redis.get s.now token) = some ⟨p, u, e⟩ ↔
      ∃ drawnAt storedAt, s.Issued token p u drawnAt storedAt ∧ e = drawnAt + ttlSecs ∧
        s.now ≤ storedAt + ttlSecs * 1000 := by
  constructor
  · intro h
    obtain ⟨json, hjson, hparse⟩ := Option.bind_eq_some_iff.mp h
    obtain ⟨entry, hl, rfl⟩ := Option.map_eq_some_iff.mp hjson
    obtain ⟨hentry, hlive⟩ := Expiring.lookup_eq_some.mp hl
    obtain ⟨g, payload, d, a, hg⟩ := hi.source token entry ht hentry
    obtain rfl := Option.some.inj (hentry.symm.trans (hi.issued g payload token d a hg))
    rw [tokenEntry, Value.toText, hcodec] at hparse
    cases hparse
    exact ⟨d, a, ⟨g, payload.secretApiKey, hg, hi.authorized g _ hg trivial⟩, rfl, hlive _ rfl⟩
  · rintro ⟨d, a, ⟨g, key, hg, -⟩, rfl, hlive⟩
    have hl : s.redis.lookup s.now token = some (tokenEntry codec ⟨u, p, key⟩ d a) := by
      refine Expiring.lookup_eq_some.mpr ⟨hi.issued g _ token d a hg, fun x hx => ?_⟩
      obtain rfl := Option.some.inj hx
      exact hlive
    rw [Redis.get, hl, parsePayload, Option.map_some, Option.bind_some, tokenEntry, Value.toText,
      hcodec]
    rfl

theorem checkExpiry_eq_some {now : Nat} {parsed : Option UserToken} {t : UserToken} :
    checkExpiry now parsed = some t ↔ parsed = some t ∧ now ≤ t.expiresAt := by
  cases parsed with
  | none => simp [checkExpiry]
  | some x =>
    by_cases hx : now > x.expiresAt
    · simp only [checkExpiry, if_pos hx, Option.some.injEq]
      constructor
      · nofun
      · rintro ⟨rfl, hle⟩
        exact absurd hx (Nat.not_lt.mpr hle)
    · simp only [checkExpiry, if_neg hx, Option.some.injEq]
      constructor
      · rintro rfl
        exact ⟨rfl, Nat.not_lt.mp hx⟩
      · exact And.left

/-- A verification that has looked up its token goes on by itself. -/
theorem verification_step (h : s.step codec act = some s') {v : Nat} {transport : Transport}
    {token : String} {phase : VerifyPhase}
    (hv : s.verifications.get? v = some ⟨transport, token, phase⟩) (hne : phase ≠ .received) :
    ∃ phase', s'.verifications.get? v = some ⟨transport, token, phase'⟩ ∧
      (phase' = phase ∨ ∃ a, phase' = .answered a) := by
  have hmod : ∀ {v' : Nat} {task : VerifyTask} {next : VerifyPhase},
      s.verifications.get? v' = some task → (task.phase ≠ .received → ∃ a, next = .answered a) →
      ∃ phase', (s.setVerification v' next).verifications.get? v =
          some ⟨transport, token, phase'⟩ ∧ (phase' = phase ∨ ∃ a, phase' = .answered a) := by
    intro v' task next hv' hnext
    by_cases hvv : v = v'
    · subst hvv
      obtain rfl := Option.some.inj (hv.symm.trans hv')
      exact ⟨next, Arena.get?_modify_self hv, .inr (hnext hne)⟩
    · exact ⟨phase, (Arena.get?_modify_ne hvv).trans hv, .inl rfl⟩
  cases AuthState.stepped h with
  | verificationArrived => exact ⟨phase, Arena.get?_alloc_of_some hv, .inl rfl⟩
  | foreign found => exact hmod found fun hc => absurd rfl hc
  | getFailed found => exact hmod found fun hc => absurd rfl hc
  | got found => exact hmod found fun hc => absurd rfl hc
  | checked found => exact hmod found fun _ => ⟨_, rfl⟩
  | _ => exact ⟨phase, hv, .inl rfl⟩

theorem verification_run {tenantKeys : List (String × String)} {now : Nat}
    {acts : List AuthAction} (hrun : (authSystem codec tenantKeys now).Run s acts s') {v : Nat}
    {transport : Transport} {token : String} {phase : VerifyPhase}
    (hv : s.verifications.get? v = some ⟨transport, token, phase⟩) (hne : phase ≠ .received) :
    ∃ phase', s'.verifications.get? v = some ⟨transport, token, phase'⟩ ∧
      (phase' = phase ∨ ∃ a, phase' = .answered a) := by
  refine hrun.invariant (I := fun t => ∃ phase',
    t.verifications.get? v = some ⟨transport, token, phase'⟩ ∧
      (phase' = phase ∨ ∃ a, phase' = .answered a)) ?_ ⟨phase, hv, .inl rfl⟩
  rintro t a t' hs ⟨phase', hv', hphase⟩
  have hne' : phase' ≠ .received := by
    rcases hphase with rfl | ⟨a, rfl⟩
    · exact hne
    · nofun
  obtain ⟨phase'', hv'', hphase'⟩ := verification_step hs hv' hne'
  refine ⟨phase'', hv'', ?_⟩
  rcases hphase' with rfl | ha
  · exact hphase
  · exact .inr ha

/-- What has been found is still there when the clock is read. -/
theorem checked_of_found {v : Nat} {transport : Transport} {token : String}
    {parsed : Option UserToken} {phase : VerifyPhase}
    (hv : s.verifications.get? v = some ⟨transport, token, phase⟩)
    (hphase : phase = .found parsed ∨ ∃ a, phase = .answered a)
    (hcheck : s.step codec (.check v) = some s') :
    s'.verifications.get? v = some ⟨transport, token,
      .answered (transport.answer (.ok (checkExpiry s.nowSecs parsed)))⟩ := by
  cases AuthState.stepped hcheck with
  | checked found =>
    cases hv.symm.trans found
    rcases hphase with hp | ⟨a, hp⟩
    · cases hp
      exact Arena.get?_modify_self found
    · cases hp

theorem not_checked_of_answered {v : Nat} {transport : Transport} {token : String} {answer : Answer}
    {phase : VerifyPhase} (hv : s.verifications.get? v = some ⟨transport, token, phase⟩)
    (hphase : phase = .answered answer ∨ ∃ a, phase = .answered a) :
    s.step codec (.check v) ≠ some s' := by
  intro hcheck
  cases AuthState.stepped hcheck with
  | checked found =>
    cases hv.symm.trans found
    rcases hphase with hp | ⟨a, hp⟩
    · cases hp
    · cases hp

end Verify

theorem Transport.answer_http (result : Option UserToken) :
    Transport.http.answer (.ok result) = .http (.ok result) := rfl

theorem Transport.answer_grpc (result : Option UserToken) :
    Transport.grpc.answer (.ok result) = .grpc (.ok ⟨result.isSome, result⟩) := by
  cases result <;> rfl

/-- What `verify_user_token` answers: with the user that the token was issued for, as long as
neither Redis nor the time in the payload has let it expire. -/
structure Verified (s s₂ : AuthState) (token : String) (result : Option UserToken) : Prop where
  iff : ∀ p u e, result = some ⟨p, u, e⟩ ↔ ∃ drawnAt storedAt,
    s.Issued token p u drawnAt storedAt ∧ e = drawnAt + ttlSecs ∧
      s.now ≤ storedAt + ttlSecs * 1000 ∧ s₂.nowSecs ≤ drawnAt + ttlSecs
  /-- The name of a counter is no token. -/
  counter : ∀ googleSub, token = rateLimitKey googleSub → result = none

/-- **Verification of user tokens**, in every run in which Redis reports what it has stored: the
token is looked up in the state `s`, and the clock is read in `s₂`. The result is the body of an
HTTP answer; by gRPC it comes with whether there is one. -/
theorem verify_user_token_iff {codec : Codec} (hcodec : codec.RoundTrips)
    {tenantKeys : List (String × String)} {now : Nat} {acts acts' : List AuthAction}
    {s s₁ s₂ s₃ : AuthState}
    (h : (authSystem codec tenantKeys now).Run (.start tenantKeys now) acts s)
    (hm : (authSystem codec tenantKeys now).Meets SetReported (.start tenantKeys now) acts)
    {v : Nat} {transport : Transport} {token : String}
    (hv : s.verifications.get? v = some ⟨transport, token, .received⟩) {error : Option String}
    (hget : s.step codec (.get v error) = some s₁)
    (hrun : (authSystem codec tenantKeys now).Run s₁ acts' s₂)
    (hcheck : s₂.step codec (.check v) = some s₃) :
    ∃ result,
      (transport = .http → s₃.verifications.get? v =
        some ⟨.http, token, .answered (.http (.ok result))⟩) ∧
      (transport = .grpc → s₃.verifications.get? v =
        some ⟨.grpc, token, .answered (.grpc (.ok ⟨result.isSome, result⟩))⟩) ∧
      Verified s s₂ token result := by
  have hi : Issuing codec s := h.invariant_of_meets (I := Issuing codec)
    (fun _ _ _ hs hc hi => hi.step hc hs) hm (.start tenantKeys now)
  have hanswer : ∀ parsed, s₁.verifications.get? v = some ⟨transport, token, .found parsed⟩ →
      (transport = .http → s₃.verifications.get? v = some ⟨.http, token,
        .answered (.http (.ok (checkExpiry s₂.nowSecs parsed)))⟩) ∧
      (transport = .grpc → s₃.verifications.get? v = some ⟨.grpc, token, .answered (.grpc
        (.ok ⟨(checkExpiry s₂.nowSecs parsed).isSome, checkExpiry s₂.nowSecs parsed⟩))⟩) := by
    intro parsed hv₁
    obtain ⟨phase, hv₂, hphase⟩ := verification_run hrun hv₁ nofun
    have hv₃ := checked_of_found hv₂ hphase hcheck
    constructor
    · rintro rfl
      rw [hv₃, Transport.answer_http]
    · rintro rfl
      rw [hv₃, Transport.answer_grpc]
  cases AuthState.stepped hget with
  | foreign found noToken =>
    cases hv.symm.trans found
    obtain ⟨hhttp, hgrpc⟩ := hanswer none (Arena.get?_modify_self found)
    refine ⟨_, hhttp, hgrpc, ⟨fun p u e => ⟨nofun, ?_⟩, fun _ _ => rfl⟩⟩
    rintro ⟨d, a, ⟨g, key, hg, -⟩, -⟩
    exact absurd (hi.drawn.tokens g _ token hg rfl).1 noToken
  | getFailed found =>
    cases hv.symm.trans found
    obtain ⟨phase, hv₂, hphase⟩ := verification_run hrun (Arena.get?_modify_self found) nofun
    exact absurd hcheck (not_checked_of_answered hv₂ hphase)
  | got found isToken =>
    cases hv.symm.trans found
    obtain ⟨hhttp, hgrpc⟩ := hanswer _ (Arena.get?_modify_self found)
    refine ⟨_, hhttp, hgrpc, ⟨fun p u e => ?_, ?_⟩⟩
    · rw [checkExpiry_eq_some, hi.get_eq_some hcodec isToken]
      constructor
      · rintro ⟨⟨d, a, hissued, rfl, hlive⟩, hle⟩
        exact ⟨d, a, hissued, rfl, hlive, hle⟩
      · rintro ⟨d, a, hissued, rfl, hlive, hle⟩
        exact ⟨⟨d, a, hissued, rfl, hlive⟩, hle⟩
    · rintro googleSub rfl
      exact absurd isToken (not_isToken_rateLimitKey googleSub)

/-! ## One token -/

/-- What the generator of random strings returns. -/
def aliceRandString : String := String.ofList (List.replicate 24 'a')

def aliceToken : String := generateToken aliceRandString

/-- A token is issued to `alice`, and somebody asks for it. -/
def oneToken (transport : Transport) : List AuthAction :=
  [.generateUserToken ⟨"alice", "acme", "key"⟩, .selectKey 0 (.ok (some "key")),
    .draw 0 aliceRandString, .setEx 0 none, .verifyUserToken transport aliceToken]

theorem exec_oneToken (codec : Codec) (transport : Transport) :
    (authSystem codec [("acme", "key")] 5000).exec (.start [("acme", "key")] 5000)
      (oneToken transport) = some ⟨Redis.setEx .empty 5000 aliceToken (codec.toString ⟨"acme", "alice", 605⟩) ttlSecs,
        5000, [("acme", "key")], [aliceToken], .empty,
        ⟨[⟨⟨"alice", "acme", "key"⟩, .issued aliceToken 5 5000⟩]⟩,
        ⟨[⟨transport, aliceToken, .received⟩]⟩⟩ := by
  have hlength : aliceRandString.toList.length = 24 :=
    (congrArg List.length String.toList_ofList).trans List.length_replicate
  have halphanum : (∀ c ∈ aliceRandString.toList, c.isAlphanum) = True :=
    eq_true fun c hc => List.eq_of_mem_replicate (String.toList_ofList ▸ hc) ▸ rfl
  simp [oneToken, aliceToken, Machine.exec, authSystem, AuthState.step, AuthState.start,
    AuthState.selectKey, AuthState.Answers, checkSecretKey, AuthState.draw, AuthState.setEx,
    AuthState.setRequest, AuthState.nowSecs, Arena.get?, Arena.alloc, Arena.modify, Arena.empty,
    hlength, halphanum, userTokenPayload, ttlSecs]

theorem AuthState.get_of_isToken (codec : Codec) {s : AuthState} {v : Nat} {transport : Transport}
    {token : String} (hv : s.verifications.get? v = some ⟨transport, token, .received⟩)
    (ht : IsToken token) : s.step codec (.get v none) =
      some (s.setVerification v (.found (parsePayload codec (s.redis.get s.now token)))) := by
  show s.get codec v none = _
  unfold AuthState.get
  rw [hv]
  exact if_neg (not_not_intro ht)

theorem AuthState.check_of_found (codec : Codec) {s : AuthState} {v : Nat} {transport : Transport}
    {token : String} {parsed : Option UserToken}
    (hv : s.verifications.get? v = some ⟨transport, token, .found parsed⟩) :
    s.step codec (.check v) = some (s.setVerification v
      (.answered (transport.answer (.ok (checkExpiry s.nowSecs parsed))))) := by
  show s.check v = _
  unfold AuthState.check
  rw [hv]

/-- The token is looked up and found, and the look at the clock answers the request. -/
theorem oneToken_answered (transport : Transport) :
    ∃ s s₁ s₃,
      (authSystem jsonCodec [("acme", "key")] 5000).exec (.start [("acme", "key")] 5000)
        (oneToken transport) = some s ∧
      s.verifications.get? 0 = some ⟨transport, aliceToken, .received⟩ ∧
      s.step jsonCodec (.get 0 none) = some s₁ ∧ s₁.step jsonCodec (.check 0) = some s₃ ∧
      s₃.verifications.get? 0 = some ⟨transport, aliceToken,
        .answered (transport.answer (.ok (some ⟨"acme", "alice", 605⟩)))⟩ := by
  have hs := exec_oneToken jsonCodec transport
  generalize ht : (⟨Redis.setEx .empty 5000 aliceToken _ ttlSecs, _, _, _, _, _, _⟩ : AuthState) = s
    at hs
  have hnow : s.now = 5000 := ht ▸ rfl
  have hv : s.verifications.get? 0 = some ⟨transport, aliceToken, .received⟩ := ht ▸ rfl
  have hentry : s.redis.entries aliceToken = some ⟨.text (jsonCodec.toString
      ⟨"acme", "alice", 605⟩), some 605000⟩ := ht ▸ Redis.entries_setEx_self
  have hparsed : parsePayload jsonCodec (s.redis.get s.now aliceToken) =
      some ⟨"acme", "alice", 605⟩ := by
    have hlive : ∀ d ∈ some 605000, 5000 ≤ d := by simp
    have hlookup := Expiring.lookup_eq_some.mpr ⟨hentry, hlive⟩
    rw [hnow, Redis.get, hlookup]
    exact jsonCodec_roundTrips _
  have hget := AuthState.get_of_isToken jsonCodec hv (isToken_generateToken _)
  rw [hparsed] at hget
  have hfound := Arena.get?_modify_self
    (f := fun task => { task with phase := VerifyPhase.found (some ⟨"acme", "alice", 605⟩) }) hv
  have hcheck := AuthState.check_of_found jsonCodec
    (s := s.setVerification 0 (.found (some ⟨"acme", "alice", 605⟩))) hfound
  have hsecs : AuthState.nowSecs (s.setVerification 0 (.found (some ⟨"acme", "alice", 605⟩))) = 5 :=
    congrArg (· / 1000) hnow
  refine ⟨s, _, _, hs, hv, hget, hcheck, (Arena.get?_modify_self hfound).trans ?_⟩
  rw [hsecs]
  rfl

/-- The answer by HTTP, and the one by gRPC. -/
theorem verify_user_token_iff_oneToken :
    (∃ s s₁ s₃ result,
      (authSystem jsonCodec [("acme", "key")] 5000).exec (.start [("acme", "key")] 5000)
        (oneToken .http) = some s ∧
      s.step jsonCodec (.get 0 none) = some s₁ ∧ s₁.step jsonCodec (.check 0) = some s₃ ∧
      s₃.verifications.get? 0 = some ⟨.http, aliceToken, .answered (.http (.ok result))⟩ ∧
      result = some ⟨"acme", "alice", 605⟩ ∧ Verified s s₁ aliceToken result) ∧
    ∃ s s₁ s₃ result,
      (authSystem jsonCodec [("acme", "key")] 5000).exec (.start [("acme", "key")] 5000)
        (oneToken .grpc) = some s ∧
      s.step jsonCodec (.get 0 none) = some s₁ ∧ s₁.step jsonCodec (.check 0) = some s₃ ∧
      s₃.verifications.get? 0 = some ⟨.grpc, aliceToken, .answered
        (.grpc (.ok ⟨result.isSome, result⟩))⟩ ∧
      result = some ⟨"acme", "alice", 605⟩ ∧ Verified s s₁ aliceToken result := by
  constructor
  · obtain ⟨s, s₁, s₃, hs, hv, hget, hcheck, hv₃⟩ := oneToken_answered .http
    obtain ⟨result, hhttp, -, hverified⟩ := verify_user_token_iff jsonCodec_roundTrips
      (Machine.run_of_exec hs) (Machine.meets_of_forall (by simp [oneToken, SetReported]) _) hv hget
      (.nil _) hcheck
    refine ⟨s, s₁, s₃, result, hs, hget, hcheck, hhttp rfl, ?_, hverified⟩
    have he := (hhttp rfl).symm.trans hv₃
    simpa [Transport.answer_http] using he
  · obtain ⟨s, s₁, s₃, hs, hv, hget, hcheck, hv₃⟩ := oneToken_answered .grpc
    obtain ⟨result, -, hgrpc, hverified⟩ := verify_user_token_iff jsonCodec_roundTrips
      (Machine.run_of_exec hs) (Machine.meets_of_forall (by simp [oneToken, SetReported]) _) hv hget
      (.nil _) hcheck
    refine ⟨s, s₁, s₃, result, hs, hget, hcheck, hgrpc rfl, ?_, hverified⟩
    have he := (hgrpc rfl).symm.trans hv₃
    simp only [Transport.answer_grpc, Option.some.injEq, VerifyTask.mk.injEq,
      VerifyPhase.answered.injEq, Answer.grpc.injEq, Except.ok.injEq,
      VerifyUserTokenResponse.mk.injEq, true_and] at he
    exact he.2

end PerOxo.AuthService
