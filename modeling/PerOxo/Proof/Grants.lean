import PerOxo.Proof.Tokens

/-!
# What a token stands for

The history of auth-service: which tokens Redis has stored, for which request, and which
verifications have let a token through. Whatever Redis reports to the caller, what is found under
a token goes back to a request that was authorized for it (`Granted.entries`), and a verification
that lets a token through comes after the `SET` of this token, not later than the time in its
payload (`Granted.passed`). A token is stored once, so it stands for one user (`Granted.one`).

The state alone cannot say this. An entry of Redis expires, and a verification that has read it
before still lets the token through; the request that stored it may have been answered with an
error, because only the reply was lost. So the events are read off the step (`AuthState.events`),
when a `SET` is carried out and not when it is reported, and `Granted` ties each place where a
payload may stand (Redis, a verification that has found it, an answer) to an event of the history.

What a step does is said twice, by what it is about: `StoreStep` for what is stored, and
`VerificationStep` for a verification. `Granted.step` needs no more than these two.
-/

set_option autoImplicit false

namespace PerOxo.AuthService

/-- What the proofs remember of a run. -/
inductive Event
  /-- Redis has carried out the `SET` of a token. Drawn in seconds, stored in milliseconds. -/
  | stored (token : String) (payload : GenerateUserTokenRequest) (drawnAt storedAt : Nat)
  /-- A verification has let its token through, at a time in seconds. -/
  | passed (v : Nat) (checkedAt : Nat)
  deriving DecidableEq

/-- What happens in a step. -/
def AuthState.events (s : AuthState) : AuthAction → List Event
  | .setEx g fault =>
      match s.requests.get? g, fault with
      | some ⟨_, .drawn _ _⟩, some (.refused _) => []
      | some ⟨payload, .drawn token drawnAt⟩, _ => [.stored token payload drawnAt s.now]
      | _, _ => []
  | .check v =>
      match s.verifications.get? v with
      | some ⟨_, _, .found parsed⟩ =>
          if (checkExpiry s.nowSecs parsed).isSome then [.passed v s.nowSecs] else []
      | _ => []
  | _ => []

/-- What the payload of a token says. -/
def tokenFor (payload : GenerateUserTokenRequest) (drawnAt : Nat) : UserToken :=
  userTokenPayload drawnAt payload.projectId payload.userId

/-- The token was stored for the request, and let through later, while it was valid. -/
def Grants (hist : List Event) (v : Nat) (token : String) (payload : GenerateUserTokenRequest)
    (drawnAt : Nat) : Prop :=
  ∃ storedAt checkedAt, [.stored token payload drawnAt storedAt, .passed v checkedAt].Sublist hist ∧
    checkedAt ≤ drawnAt + ttlSecs

/-- Every payload goes back to a `SET` in the history, and every `SET` to a key of a tenant. -/
structure Granted (codec : Codec) (hist : List Event) (s : AuthState) : Prop where
  /-- A token is drawn by one request, and looks like one: no key of another kind is mistaken for
  it. -/
  drawn : Drawn s
  /-- A request keeps its key from its authorization to its `SET`, so that the key can be named when
  the token is stored. -/
  authorized : ∀ g task, s.requests.get? g = some task → task.phase.Authorized →
    (task.payload.projectId, task.payload.secretApiKey) ∈ s.tenantKeys
  /-- The key stays in the table, and the token among those that are not drawn again: what was
  stored is never mistaken for what is stored later. -/
  stored : ∀ token payload drawnAt storedAt, .stored token payload drawnAt storedAt ∈ hist →
    (payload.projectId, payload.secretApiKey) ∈ s.tenantKeys ∧ token ∈ s.tokens
  /-- Who has still to store its token is the first to do so. This is what `one` needs of a step. -/
  unstored : ∀ g payload token drawnAt, s.requests.get? g = some ⟨payload, .drawn token drawnAt⟩ →
    ∀ payload' drawnAt' storedAt, .stored token payload' drawnAt' storedAt ∉ hist
  /-- All that is stored under a token is of one request. -/
  one : ∀ token payload payload' drawnAt drawnAt' storedAt storedAt',
    .stored token payload drawnAt storedAt ∈ hist →
    .stored token payload' drawnAt' storedAt' ∈ hist → payload = payload' ∧ drawnAt = drawnAt'
  /-- Nobody but `SET` writes under a token: the counters of the rate limiter have other keys. -/
  entries : ∀ token e, IsToken token → s.redis.entries token = some e →
    ∃ payload drawnAt storedAt, .stored token payload drawnAt storedAt ∈ hist ∧
      e = tokenEntry codec payload drawnAt storedAt
  /-- A verification has read what stood there, and Redis may have dropped it since: the history
  has it still. -/
  found : ∀ v transport token t, s.verifications.get? v =
      some ⟨transport, token, .found (some t)⟩ →
    ∃ payload drawnAt storedAt, .stored token payload drawnAt storedAt ∈ hist ∧
      t = tokenFor payload drawnAt
  /-- Who has got an answer with a user has got it after the `SET`, and in time. -/
  passed : ∀ v transport token t, s.verifications.get? v =
      some ⟨transport, token, .answered (transport.answer (.ok (some t)))⟩ →
    ∃ payload drawnAt, Grants hist v token payload drawnAt ∧ t = tokenFor payload drawnAt

/-! ## What a step does -/

section Step

variable {codec : Codec} {s s' : AuthState} {act : AuthAction}

/-- What a step does to the tokens that are stored. The `SET` may be reported as it was carried out
or not, so nothing is said of the phase but that the request has no token to store any more. -/
inductive StoreStep (codec : Codec) (s s' : AuthState) (act : AuthAction) : Prop
  | kept (none : ∀ token payload d a, .stored token payload d a ∉ s.events act)
      (entries : ∀ key, IsToken key → s'.redis.entries key = s.redis.entries key)
      (tokens : ∀ token ∈ s.tokens, token ∈ s'.tokens)
      (drawn : ∀ g payload token d, s'.requests.get? g = some ⟨payload, .drawn token d⟩ →
        s.requests.get? g = some ⟨payload, .drawn token d⟩ ∨ token ∉ s.tokens)
  | stored {g : Nat} {payload : GenerateUserTokenRequest} {token : String} {drawnAt : Nat}
      {phase : TokenPhase} (found : s.requests.get? g = some ⟨payload, .drawn token drawnAt⟩)
      (event : s.events act = [.stored token payload drawnAt s.now])
      (result : s' = { s with
        redis := s.redis.put token (tokenEntry codec payload drawnAt s.now) }.setRequest g phase)
      (done : ∀ token' drawnAt', phase ≠ .drawn token' drawnAt')

theorem store_step (h : s.step codec act = some s') : StoreStep codec s s' act := by
  have hne : ∀ {key u : String}, IsToken key → key ≠ rateLimitKey u := by
    rintro key u hkey rfl
    exact not_isToken_rateLimitKey u hkey
  have hset : ∀ {t : AuthState} {g : Nat} {task : TokenTask} {phase : TokenPhase},
      t.requests = s.requests → s.requests.get? g = some task →
      (∀ token d, phase = .drawn token d → token ∉ s.tokens) →
      ∀ g' payload token d,
        (t.setRequest g phase).requests.get? g' = some ⟨payload, .drawn token d⟩ →
        s.requests.get? g' = some ⟨payload, .drawn token d⟩ ∨ token ∉ s.tokens := by
    intro t g task phase ht hg hphase g' payload token d hg'
    rcases get?_setRequest (s := t) (ht ▸ hg) hg' with ⟨-, he⟩ | ⟨-, hg'⟩
    · exact .inr (hphase token d (congrArg TokenTask.phase he).symm)
    · exact .inl (ht ▸ hg')
  cases AuthState.stepped h with
  | requestArrived payload =>
    refine .kept (fun _ _ _ _ => List.not_mem_nil) (fun _ _ => rfl) (fun _ => id) ?_
    intro g payload' token d hg
    rcases Arena.get?_alloc_eq_some.mp hg with ⟨-, he⟩ | hg
    · cases he
    · exact .inl hg
  | authorized found key =>
    exact .kept (fun _ _ _ _ => List.not_mem_nil) (fun _ _ => rfl) (fun _ => id)
      (hset rfl found nofun)
  | rejected found =>
    exact .kept (fun _ _ _ _ => List.not_mem_nil) (fun _ _ => rfl) (fun _ => id)
      (hset rfl found nofun)
  | @drawn g randString payload found fresh =>
    refine .kept (fun _ _ _ _ => List.not_mem_nil) (fun _ _ => rfl)
      (fun _ ht => List.mem_append_left _ ht) (hset rfl found ?_)
    intro token d he
    cases he
    exact fresh
  | setFailed found =>
    refine .kept (fun _ _ _ _ => ?_) (fun _ _ => rfl) (fun _ => id) (hset rfl found nofun)
    simp [AuthState.events, found]
  | setLost found => exact .stored found (by simp [AuthState.events, found]) rfl nofun
  | issued found => exact .stored found (by simp [AuthState.events, found]) rfl nofun
  | checked found =>
    refine .kept (fun _ _ _ _ => ?_) (fun _ _ => rfl) (fun _ => id) fun _ _ _ _ => .inl
    simp only [AuthState.events, found]
    split <;> simp
  | incrLost found result =>
    exact .kept (fun _ _ _ _ => List.not_mem_nil)
      (fun key hkey => Redis.entries_incr_ne (hne hkey) result) (fun _ => id) fun _ _ _ _ => .inl
  | counted found result =>
    exact .kept (fun _ _ _ _ => List.not_mem_nil)
      (fun key hkey => Redis.entries_incr_ne (hne hkey) result) (fun _ => id) fun _ _ _ _ => .inl
  | limited found result =>
    exact .kept (fun _ _ _ _ => List.not_mem_nil)
      (fun key hkey => Redis.entries_incr_ne (hne hkey) result) (fun _ => id) fun _ _ _ _ => .inl
  | expired found =>
    exact .kept (fun _ _ _ _ => List.not_mem_nil)
      (fun key hkey => Redis.entries_expire_ne (hne hkey)) (fun _ => id) fun _ _ _ _ => .inl
  | _ =>
    exact .kept (fun _ _ _ _ => List.not_mem_nil) (fun _ _ => rfl) (fun _ => id)
      fun _ _ _ _ => .inl

/-- What a step does to a verification: where one that has found something, or has been answered
with a token, comes from. -/
inductive VerificationStep (codec : Codec) (s : AuthState) (act : AuthAction) (v : Nat)
    (transport : Transport) (token : String) : VerifyPhase → Prop
  | kept {phase : VerifyPhase}
      (found : s.verifications.get? v = some ⟨transport, token, phase⟩) :
      VerificationStep codec s act v transport token phase
  | arrived : VerificationStep codec s act v transport token .received
  | foreign : VerificationStep codec s act v transport token (.found none)
  | failed (e : String) :
      VerificationStep codec s act v transport token (.answered (transport.answer (.error e)))
  | got (isToken : IsToken token) : VerificationStep codec s act v transport token
      (.found (parsePayload codec (s.redis.get s.now token)))
  | checked {parsed : Option UserToken} (action : act = .check v)
      (found : s.verifications.get? v = some ⟨transport, token, .found parsed⟩) :
      VerificationStep codec s act v transport token
        (.answered (transport.answer (.ok (checkExpiry s.nowSecs parsed))))

theorem verification_moved (h : s.step codec act = some s') {v : Nat} {transport : Transport}
    {token : String} {phase : VerifyPhase}
    (hv : s'.verifications.get? v = some ⟨transport, token, phase⟩) :
    VerificationStep codec s act v transport token phase := by
  have hmod : ∀ {v₀ : Nat} {task : VerifyTask} {next : VerifyPhase},
      s.verifications.get? v₀ = some task →
      (s.setVerification v₀ next).verifications.get? v = some ⟨transport, token, phase⟩ →
      (v = v₀ ∧ task.transport = transport ∧ task.token = token ∧ phase = next) ∨
        s.verifications.get? v = some ⟨transport, token, phase⟩ := by
    intro v₀ task next hv₀ hv
    rcases Arena.get?_modify_eq_some.mp hv with ⟨rfl, task', ht, he⟩ | ⟨-, hv⟩
    · obtain rfl := Option.some.inj (ht.symm.trans hv₀)
      cases he
      exact .inl ⟨rfl, rfl, rfl, rfl⟩
    · exact .inr hv
  cases AuthState.stepped h with
  | verificationArrived transport' token' =>
    rcases Arena.get?_alloc_eq_some.mp hv with ⟨-, he⟩ | hv
    · cases he
      exact .arrived
    · exact .kept hv
  | foreign found noToken =>
    rcases hmod found hv with ⟨-, -, -, rfl⟩ | hv
    · exact .foreign
    · exact .kept hv
  | getFailed found =>
    rcases hmod found hv with ⟨-, rfl, -, rfl⟩ | hv
    · exact .failed _
    · exact .kept hv
  | got found isToken =>
    rcases hmod found hv with ⟨-, -, rfl, rfl⟩ | hv
    · exact .got isToken
    · exact .kept hv
  | checked found =>
    rcases hmod found hv with ⟨rfl, rfl, rfl, rfl⟩ | hv
    · exact .checked rfl found
    · exact .kept hv
  | _ => exact .kept hv

/-- An answer tells what it answers, over HTTP and over gRPC: so it can be said of an answer that it
lets its token through. -/
theorem transport_answer_inj {transport : Transport} {r r' : Except String (Option UserToken)}
    (h : transport.answer r = transport.answer r') : r = r' := by
  cases transport with
  | http =>
    rcases r with e | t <;> rcases r' with e' | t'
    · cases h
      rfl
    · cases h
    · cases h
    · cases h
      rfl
  | grpc =>
    rcases r with e | _ | t <;> rcases r' with e' | _ | t'
    all_goals first
      | rfl
      | (cases h; rfl)
      | cases h

end Step

/-! ## The invariant -/

theorem Grants.append {hist evs : List Event} {v : Nat} {token : String}
    {payload : GenerateUserTokenRequest} {drawnAt : Nat} (h : Grants hist v token payload drawnAt) :
    Grants (hist ++ evs) v token payload drawnAt := by
  obtain ⟨storedAt, checkedAt, hsub, hle⟩ := h
  exact ⟨storedAt, checkedAt, hsub.trans (List.sublist_append_left _ _), hle⟩

section Invariant

variable {codec : Codec} {hist : List Event} {s s' : AuthState} {act : AuthAction}

/-- Whatever happens, requests that are authorized presented a key of the table. -/
theorem authorized_step (h : s.step codec act = some s')
    (hi : ∀ g task, s.requests.get? g = some task → task.phase.Authorized →
      (task.payload.projectId, task.payload.secretApiKey) ∈ s.tenantKeys) :
    ∀ g task, s'.requests.get? g = some task → task.phase.Authorized →
      (task.payload.projectId, task.payload.secretApiKey) ∈ s'.tenantKeys := by
  intro g task hg ha
  suffices hsuff : (task.payload.projectId, task.payload.secretApiKey) ∈ s.tenantKeys from
    tenantKeys_step h hsuff
  have hset : ∀ {t : AuthState} {g₀ : Nat} {task₀ : TokenTask} {phase : TokenPhase},
      t.requests = s.requests → s.requests.get? g₀ = some task₀ →
      (phase.Authorized → (task₀.payload.projectId, task₀.payload.secretApiKey) ∈ s.tenantKeys) →
      (t.setRequest g₀ phase).requests.get? g = some task →
      (task.payload.projectId, task.payload.secretApiKey) ∈ s.tenantKeys := by
    intro t g₀ task₀ phase ht hg₀ hphase hg
    rcases get?_setRequest (s := t) (ht ▸ hg₀) hg with ⟨-, rfl⟩ | ⟨-, hg⟩
    · exact hphase ha
    · exact hi g task (ht ▸ hg) ha
  cases token_step h with
  | quiet requests tokens entries => exact hi g task (requests ▸ hg) ha
  | arrived requests tokens redis =>
    rcases Arena.get?_alloc_eq_some.mp (requests ▸ hg) with ⟨-, rfl⟩ | hg
    · exact ha.elim
    · exact hi g task hg ha
  | authorized found key result =>
    subst result
    exact hset rfl found (fun _ => key) hg
  | refused found notIssued result =>
    subst result
    exact hset rfl found False.elim hg
  | drawn found isToken fresh result =>
    subst result
    exact hset rfl found (fun _ => hi _ _ found trivial) hg
  | issued found result =>
    subst result
    exact hset rfl found (fun _ => hi _ _ found trivial) hg
  | lost action found result =>
    subst result
    exact hset rfl found False.elim hg

/-- What `GET` returns is parsed back into the payload that was stored. -/
theorem Granted.found_step (hi : Granted codec hist s) (hcodec : codec.RoundTrips)
    (h : s.step codec act = some s') {v : Nat} {transport : Transport} {token : String}
    {t : UserToken}
    (hv : s'.verifications.get? v = some ⟨transport, token, .found (some t)⟩) :
    ∃ payload drawnAt storedAt, .stored token payload drawnAt storedAt ∈ hist ∧
      t = tokenFor payload drawnAt := by
  generalize hp : VerifyPhase.found (some t) = phase at hv
  cases verification_moved h hv with
  | kept found => exact hi.found v transport token t (hp ▸ found)
  | got isToken =>
    obtain ⟨json, hjson, hparse⟩ := Option.bind_eq_some_iff.mp (VerifyPhase.found.inj hp).symm
    obtain ⟨entry, hl, rfl⟩ := Option.map_eq_some_iff.mp hjson
    obtain ⟨hentry, -⟩ := Expiring.lookup_eq_some.mp hl
    obtain ⟨payload, d, a, hmem, rfl⟩ := hi.entries token entry isToken hentry
    rw [tokenEntry, Value.toText, hcodec] at hparse
    exact ⟨payload, d, a, hmem, (Option.some.inj hparse).symm⟩
  | arrived => cases hp
  | foreign => cases hp
  | failed => cases hp
  | checked => cases hp

/-- The check comes last, so its event comes after the one of the `SET`. -/
theorem Granted.passed_step (hi : Granted codec hist s) (h : s.step codec act = some s') {v : Nat}
    {transport : Transport} {token : String} {t : UserToken} (hv : s'.verifications.get? v =
      some ⟨transport, token, .answered (transport.answer (.ok (some t)))⟩) :
    ∃ payload drawnAt, Grants (hist ++ s.events act) v token payload drawnAt ∧
      t = tokenFor payload drawnAt := by
  generalize hp : VerifyPhase.answered (transport.answer (.ok (some t))) = phase at hv
  cases verification_moved h hv with
  | kept found =>
    obtain ⟨payload, d, hg, ht⟩ := hi.passed v transport token t (hp ▸ found)
    exact ⟨payload, d, hg.append, ht⟩
  | failed e => cases transport_answer_inj (VerifyPhase.answered.inj hp)
  | @checked parsed action found =>
    have hcheck : checkExpiry s.nowSecs parsed = some t :=
      (Except.ok.inj (transport_answer_inj (VerifyPhase.answered.inj hp))).symm
    obtain ⟨rfl, hle⟩ := checkExpiry_eq_some.mp hcheck
    obtain ⟨payload, d, a, hmem, rfl⟩ := hi.found v transport token t found
    have hev : s.events act = [.passed v s.nowSecs] := by
      simp [AuthState.events, action, found, hcheck]
    refine ⟨payload, d, ⟨a, s.nowSecs, ?_, hle⟩, rfl⟩
    rw [hev]
    exact (List.singleton_sublist.mpr hmem).append (.refl _)
  | arrived => cases hp
  | foreign => cases hp
  | got => cases hp

/-- Either the step leaves what is stored alone, or it is a `SET` of a token that is stored for the
first time. -/
theorem Granted.step (hi : Granted codec hist s) (hcodec : codec.RoundTrips)
    (h : s.step codec act = some s') : Granted codec (hist ++ s.events act) s' := by
  have hdrawn := hi.drawn.step h
  have hauth := authorized_step h hi.authorized
  have hfound : ∀ v transport token t, s'.verifications.get? v =
      some ⟨transport, token, .found (some t)⟩ →
      ∃ payload drawnAt storedAt, .stored token payload drawnAt storedAt ∈ hist ++ s.events act ∧
        t = tokenFor payload drawnAt := by
    intro v transport token t hv
    obtain ⟨payload, d, a, hmem, ht⟩ := hi.found_step hcodec h hv
    exact ⟨payload, d, a, List.mem_append_left _ hmem, ht⟩
  have hpassed : ∀ v transport token t, s'.verifications.get? v =
      some ⟨transport, token, .answered (transport.answer (.ok (some t)))⟩ →
      ∃ payload drawnAt, Grants (hist ++ s.events act) v token payload drawnAt ∧
        t = tokenFor payload drawnAt := fun v transport token t hv => hi.passed_step h hv
  cases store_step h with
  | kept none entries tokens drawn =>
    have hold : ∀ {token payload d a}, .stored token payload d a ∈ hist ++ s.events act →
        .stored token payload d a ∈ hist := by
      intro token payload d a hm
      exact (List.mem_append.mp hm).resolve_right (none token payload d a)
    refine ⟨hdrawn, hauth, fun token payload d a hm => ?_, fun g payload token d hg p d' a hm => ?_,
      fun token p p' d d' a a' hm hm' => hi.one token p p' d d' a a' (hold hm) (hold hm'),
      fun token e ht he => ?_, hfound, hpassed⟩
    · obtain ⟨hkey, ht⟩ := hi.stored token payload d a (hold hm)
      exact ⟨tenantKeys_step h hkey, tokens token ht⟩
    · rcases drawn g payload token d hg with hg | hfresh
      · exact hi.unstored g payload token d hg p d' a (hold hm)
      · exact hfresh (hi.stored token p d' a (hold hm)).2
    · obtain ⟨payload, d, a, hm, rfl⟩ := hi.entries token e ht (entries token ht ▸ he)
      exact ⟨payload, d, a, List.mem_append_left _ hm, rfl⟩
  | @stored g payload token drawnAt phase found event result done =>
    rw [event] at hfound hpassed ⊢
    have hsplit : ∀ {token' p d a},
        Event.stored token' p d a ∈ hist ++ [.stored token payload drawnAt s.now] →
        Event.stored token' p d a ∈ hist ∨ (token' = token ∧ p = payload ∧ d = drawnAt) := by
      intro token' p d a hm
      rcases List.mem_append.mp hm with hm | hm
      · exact .inl hm
      · cases List.mem_singleton.mp hm
        exact .inr ⟨rfl, rfl, rfl⟩
    have hnew := hi.unstored g payload token drawnAt found
    subst result
    refine ⟨hdrawn, hauth, fun token' p d a hm => ?_, fun g' p' token' d' hg p d a hm => ?_,
      fun token' p p' d d' a a' hm hm' => ?_, fun token' e ht he => ?_, hfound, hpassed⟩
    · rcases hsplit hm with hm | ⟨rfl, rfl, rfl⟩
      · exact hi.stored token' p d a hm
      · exact ⟨hi.authorized g _ found trivial, (hi.drawn.tokens g _ _ found rfl).2⟩
    · rcases get?_setRequest (s := { s with redis := _ }) found hg with ⟨-, he⟩ | ⟨hne, hold⟩
      · exact done token' d' (congrArg TokenTask.phase he).symm
      · rcases hsplit hm with hm | ⟨rfl, rfl, rfl⟩
        · exact hi.unstored g' p' token' d' hold p d a hm
        · exact hne (hi.drawn.distinct g' g _ _ _ hold found rfl rfl)
    · rcases hsplit hm with hold | ⟨rfl, rfl, rfl⟩ <;>
        rcases hsplit hm' with hold' | ⟨ht, rfl, rfl⟩
      · exact hi.one token' p p' d d' a a' hold hold'
      · subst ht
        exact absurd hold (hnew p d a)
      · exact absurd hold' (hnew p' d' a')
      · exact ⟨rfl, rfl⟩
    · by_cases htoken : token' = token
      · subst htoken
        obtain rfl := Option.some.inj (he.symm.trans Expiring.entries_put_self)
        exact ⟨payload, drawnAt, s.now, List.mem_append_right _ (List.mem_singleton_self _), rfl⟩
      · obtain ⟨p, d, a, hm, rfl⟩ := hi.entries token' e ht
          ((Expiring.entries_put_ne htoken).symm.trans he)
        exact ⟨p, d, a, List.mem_append_left _ hm, rfl⟩

theorem Granted.start (codec : Codec) (tenantKeys : List (String × String)) (now : Nat) :
    Granted codec [] (.start tenantKeys now) where
  drawn := .start tenantKeys now
  authorized g task h := by simp [AuthState.start] at h
  stored token payload d a h := by cases h
  unstored g payload token d h := by simp [AuthState.start] at h
  one token p p' d d' a a' h := by cases h
  entries token e ht h := by simp [AuthState.start] at h
  found v transport token t h := by simp [AuthState.start] at h
  passed v transport token t h := by simp [AuthState.start] at h

end Invariant

end PerOxo.AuthService
