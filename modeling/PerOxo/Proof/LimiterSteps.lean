import PerOxo.AuthService.RateLimiter
import PerOxo.Proof.RateLimitBound
import PerOxo.Proof.Tokens

/-!
# The limiter inside auth-service

auth-service takes a call of `check_rate_limit` past its last command in one step, and the limiter
takes every step of it alone. Each run of auth-service is a run of the limiter all the same, with
the same Redis, the same clock and the same calls (`authSystem_limits`), so what bounds the calls
of the limiter bounds the requests of auth-service (`authSystem_rateLimitBound`).
-/

set_option autoImplicit false

namespace PerOxo.AuthService

/-- A request of auth-service, and how far its call of `check_rate_limit` has come. -/
inductive Follows : TenantPhase → CallPhase → Prop
  | received : Follows .received .received
  | counted : Follows .counted (.counted 1)
  | stopped : Follows .stopped .stopped
  | accepted : Follows .accepted (.returned (.ok ()))
  | refused (e : RateLimitError) :
      Follows (.answered (.error (rateLimitResponse e))) (.returned (.error e))
  | answered (result : Except HttpError GenerateTenantResponse) :
      Follows (.answered result) (.returned (.ok ()))

theorem follows_afterRateLimit (result : Except RateLimitError Unit) :
    Follows (AuthState.afterRateLimit result) (.returned result) := by
  cases result with
  | ok u => exact .accepted
  | error e => exact .refused e

structure Limits (s : AuthState) (w : LimiterState) : Prop where
  redis : w.redis = s.redis
  now : w.now = s.now
  next : w.calls.next = s.tenants.next
  calls : ∀ r u phase, s.tenants.get? r = some ⟨u, phase⟩ → ∃ phase',
    w.calls.get? r = some ⟨u, phase'⟩ ∧ Follows phase phase'

theorem LimiterState.setPhase_setPhase (w : LimiterState) (r : Nat) (phase phase' : CallPhase) :
    (w.setPhase r phase).setPhase r phase' = w.setPhase r phase' := by
  simp only [LimiterState.setPhase, Arena.modify_modify, Function.comp_def]

section Step

variable {codec : Codec} {s s' : AuthState} {w : LimiterState} {act : AuthAction}

theorem Limits.received (hl : Limits s w) {r : Nat} {u : String}
    (found : s.tenants.get? r = some ⟨u, .received⟩) : w.calls.get? r = some ⟨u, .received⟩ := by
  obtain ⟨phase, hr, hf⟩ := hl.calls r u _ found
  cases hf
  exact hr

theorem Limits.counted (hl : Limits s w) {r : Nat} {u : String}
    (found : s.tenants.get? r = some ⟨u, .counted⟩) : w.calls.get? r = some ⟨u, .counted 1⟩ := by
  obtain ⟨phase, hr, hf⟩ := hl.calls r u _ found
  cases hf
  exact hr

/-- A request and its call go on together. -/
theorem Limits.set (hl : Limits s w) (t : AuthState) (v : LimiterState)
    (ht : t.tenants = s.tenants) (hv : v.calls = w.calls) (hredis : v.redis = t.redis)
    (hnow : v.now = t.now) (r : Nat) {phase : TenantPhase} {phase' : CallPhase}
    (hf : Follows phase phase') : Limits (t.setTenant r phase) (v.setPhase r phase') := by
  refine ⟨hredis, hnow, ?_, fun o u after ho => ?_⟩
  · show (v.calls.modify r _).next = (t.tenants.modify r _).next
    rw [Arena.next_modify, Arena.next_modify, hv, ht, hl.next]
  · have ho' : (s.tenants.modify r fun task => { task with phase := phase }).get? o =
        some ⟨u, after⟩ := ht ▸ ho
    rcases Arena.get?_modify_eq_some.mp ho' with ⟨rfl, task, hr, he⟩ | ⟨hor, ho⟩
    · obtain ⟨rfl, rfl⟩ := TenantTask.mk.inj he
      obtain ⟨before, hw, -⟩ := hl.calls o _ _ hr
      have hself : v.calls.get? o = some ⟨task.googleSub, before⟩ := hv.symm ▸ hw
      exact ⟨phase', Arena.get?_modify_self hself, hf⟩
    · obtain ⟨before, hw, hfollows⟩ := hl.calls o u after ho
      exact ⟨before, (Arena.get?_modify_ne hor).trans (hv.symm ▸ hw), hfollows⟩

/-- Redis has carried out a command for them. -/
theorem Limits.carriedOut (hl : Limits s w) (redis : Redis) (command : Command) (r : Nat)
    {phase : TenantPhase} {phase' : CallPhase} (hf : Follows phase phase') :
    Limits ({ s with redis := redis }.setTenant r phase)
      ((w.carryOut redis command).setPhase r phase') :=
  hl.set { s with redis := redis } (w.carryOut redis command) rfl rfl rfl hl.now r hf

/-- A step that has nothing to do with the requests. -/
theorem Limits.aside (hl : Limits s w) (start : Nat) (s' : AuthState)
    (hredis : s'.redis = s.redis) (hnow : s'.now = s.now) (ht : s'.tenants = s.tenants) :
    ∃ acts w', (limiter start).Run w acts w' ∧ Limits s' w' := by
  refine ⟨[], w, .nil w, hl.redis.trans hredis.symm, hl.now.trans hnow.symm, ?_,
    fun r u phase hr => hl.calls r u phase (ht ▸ hr)⟩
  rw [ht]
  exact hl.next

/-- A token is stored. -/
theorem Limits.stored (hl : Limits s w) (hd : Drawn s) (start : Nat) {g drawnAt : Nat}
    {payload : GenerateUserTokenRequest} {token : String}
    (found : s.requests.get? g = some ⟨payload, .drawn token drawnAt⟩) (s' : AuthState)
    (text : String) (hredis : s'.redis = s.redis.setEx s.now token text ttlSecs)
    (hnow : s'.now = s.now) (ht : s'.tenants = s.tenants) :
    ∃ acts w', (limiter start).Run w acts w' ∧ Limits s' w' := by
  have hother : ∀ u, token ≠ rateLimitKey u := by
    rintro u rfl
    exact not_isToken_rateLimitKey u (hd.tokens g _ _ found rfl).1
  refine ⟨[.write token ⟨.text text, some (s.now + ttlSecs * 1000)⟩ hother], _,
    .cons rfl (.nil _), ?_, hl.now.trans hnow.symm, ?_,
    fun r u phase hr => hl.calls r u phase (ht ▸ hr)⟩
  · rw [hredis, ← hl.redis]
    rfl
  · rw [ht]
    exact hl.next

/-- The call takes its `INCR`. -/
theorem Limits.counts (hl : Limits s w) {r : Nat} {u : String} {count : Int} {redis : Redis}
    (fault : Option Fault) (found : s.tenants.get? r = some ⟨u, .received⟩)
    (sent : ∀ e, fault ≠ some (.refused e))
    (result : s.redis.incr s.now (rateLimitKey u) = .ok (count, redis)) : ∃ command,
      w.step (.incr r fault) =
        some ((w.carryOut redis command).setPhase r (.onReply (.counted count) fault)) := by
  rw [← hl.redis, ← hl.now] at result
  exact ⟨_, LimiterState.step_of_stepped (.counted (hl.received found) sent result)⟩

theorem Limits.incr (hl : Limits s w) {r : Nat} {fault : Option Fault}
    (h : s.incr r fault = some s') (start : Nat) :
    ∃ acts w', (limiter start).Run w acts w' ∧ Limits s' w' := by
  unfold AuthState.incr at h
  split at h
  · next u found =>
    split at h
    · next e =>
      obtain rfl := Option.some.inj h
      exact ⟨[.incr r (some (.refused e))], _,
        .cons (LimiterState.step_of_stepped (.refused (hl.received found))) (.nil _),
        hl.set _ _ rfl rfl hl.redis hl.now r (follows_afterRateLimit _)⟩
    · next hsent =>
      split at h
      · next e hincr =>
        obtain rfl := Option.some.inj h
        rw [← hl.redis, ← hl.now] at hincr
        exact ⟨[.incr r fault], _,
          .cons (LimiterState.step_of_stepped (.notCounted (hl.received found) hsent hincr)) (.nil _),
          hl.set _ _ rfl rfl hl.redis hl.now r (follows_afterRateLimit _)⟩
      · next count redis hincr =>
        obtain ⟨command, hstep⟩ := hl.counts fault found hsent hincr
        cases fault with
        | some f =>
          obtain rfl := Option.some.inj h
          exact ⟨[.incr r (some f)], _, .cons hstep (.nil _), hl.carriedOut _ _ r (follows_afterRateLimit _)⟩
        | none =>
          simp only at h
          split at h
          · next hc =>
            obtain rfl := Option.some.inj h
            subst hc
            exact ⟨[.incr r none], _, .cons hstep (.nil _), hl.carriedOut _ _ r .counted⟩
          · next hc =>
            -- The limiter takes the test of the count by itself.
            obtain rfl := Option.some.inj h
            have hcounted : ((w.carryOut redis command).setPhase r (.counted count)).calls.get? r =
                some ⟨u, .counted count⟩ := Arena.get?_modify_self (hl.received found)
            have htest := LimiterState.step_of_stepped (.tested (.inr ⟨hcounted, hc⟩))
            refine ⟨[.incr r none, .test r], _, .cons hstep (.cons htest (.nil _)), ?_⟩
            rw [LimiterState.setPhase_setPhase]
            exact hl.carriedOut _ _ r (follows_afterRateLimit (checkCount count))
  · cases h

theorem Limits.expire (hl : Limits s w) {r : Nat} {fault : Option Fault}
    (h : s.expire r fault = some s') (start : Nat) :
    ∃ acts w', (limiter start).Run w acts w' ∧ Limits s' w' := by
  unfold AuthState.expire at h
  split at h
  · next u found =>
    have hcounted := hl.counted found
    set redis := (s.redis.expire s.now (rateLimitKey u) windowSecs).2 with hredis
    have hstep : ∀ fault, (∀ e, fault ≠ some (.refused e)) → w.step (.expire r fault) =
        some ((w.carryOut redis ⟨u, r, .expire⟩).setPhase r (.onReply (.windowSet 1) fault)) := by
      intro fault hsent
      rw [hredis, ← hl.redis, ← hl.now]
      exact LimiterState.step_of_stepped (.expired hcounted hsent)
    split at h
    · next e =>
      obtain rfl := Option.some.inj h
      exact ⟨[.expire r (some (.refused e))], _,
        .cons (LimiterState.step_of_stepped (.windowRefused hcounted)) (.nil _),
        hl.set _ _ rfl rfl hl.redis hl.now r (follows_afterRateLimit _)⟩
    · next hsent =>
      cases fault with
      | some f =>
        obtain rfl := Option.some.inj h
        exact ⟨[.expire r (some f)], _, .cons (hstep _ hsent) (.nil _),
          hl.carriedOut _ _ r (follows_afterRateLimit _)⟩
      | none =>
        -- Here too the test is a step of the limiter.
        obtain rfl := Option.some.inj h
        have hwindow : ((w.carryOut redis ⟨u, r, .expire⟩).setPhase r (.windowSet 1)).calls.get? r =
            some ⟨u, .windowSet 1⟩ := Arena.get?_modify_self hcounted
        have htest := LimiterState.step_of_stepped (.tested (.inl hwindow))
        refine ⟨[.expire r none, .test r], _, .cons (hstep _ hsent) (.cons htest (.nil _)), ?_⟩
        rw [LimiterState.setPhase_setPhase]
        exact hl.carriedOut _ _ r (follows_afterRateLimit (checkCount 1))
  · cases h

theorem Limits.stop (hl : Limits s w) {r : Nat} (h : s.stop r = some s') (start : Nat) :
    ∃ acts w', (limiter start).Run w acts w' ∧ Limits s' w' := by
  have hset := hl.set s w rfl rfl hl.redis hl.now r .stopped
  unfold AuthState.stop at h
  split at h
  · next u found =>
    obtain rfl := Option.some.inj h
    exact ⟨[.stop r], _, .cons (LimiterState.step_of_stepped
      (.stopped (hl.received found) ⟨nofun, nofun⟩)) (.nil _), hset⟩
  · next u found =>
    obtain rfl := Option.some.inj h
    exact ⟨[.stop r], _, .cons (LimiterState.step_of_stepped
      (.stopped (hl.counted found) ⟨nofun, nofun⟩)) (.nil _), hset⟩
  · cases h

/-- A row is added to the table of keys. -/
theorem Limits.insertKeypair (hl : Limits s w) {r : Nat} {u : String}
    {rows : List (String × String)} (result : Except HttpError GenerateTenantResponse)
    (found : s.tenants.get? r = some ⟨u, .accepted⟩) (start : Nat) :
    ∃ acts w', (limiter start).Run w acts w' ∧
      Limits ({ s with tenantKeys := s.tenantKeys ++ rows }.setTenant r (.answered result)) w' := by
  refine ⟨[], w, .nil w, hl.redis, hl.now, ?_, fun o v phase ho => ?_⟩
  · show _ = (s.tenants.modify r _).next
    rw [Arena.next_modify, hl.next]
  · rcases Arena.get?_modify_eq_some.mp ho with ⟨rfl, task, hr, he⟩ | ⟨hor, ho⟩
    · obtain rfl := Option.some.inj (found.symm.trans hr)
      obtain ⟨rfl, rfl⟩ := TenantTask.mk.inj he
      obtain ⟨phase', hw, hf⟩ := hl.calls o _ _ found
      cases hf
      exact ⟨_, hw, .answered result⟩
    · exact hl.calls o v phase ho

/-- **What auth-service does in a step, the limiter does** in some of its own. -/
theorem Limits.step (hl : Limits s w) (hd : Drawn s) (h : s.step codec act = some s')
    (start : Nat) : ∃ acts w', (limiter start).Run w acts w' ∧ Limits s' w' := by
  cases act with
  | incr r fault => exact hl.incr h start
  | expire r fault => exact hl.expire h start
  | stop r => exact hl.stop h start
  | tick now =>
    cases AuthState.stepped h with
    | ticked le =>
      have hstep : w.step (.tick now) = some { w with now := now } := if_pos (hl.now ▸ le)
      exact ⟨[.tick now], _, .cons hstep (.nil _), hl.redis, rfl, hl.next, hl.calls⟩
  | generateTenant u =>
    cases AuthState.stepped h
    refine ⟨[.call u], _, .cons rfl (.nil _), hl.redis, hl.now, ?_, fun r v phase hr => ?_⟩
    · simp [hl.next]
    · rcases Arena.get?_alloc_eq_some.mp hr with ⟨rfl, he⟩ | hr
      · obtain ⟨rfl, rfl⟩ := TenantTask.mk.inj he
        exact ⟨_, hl.next ▸ Arena.get?_alloc_self, .received⟩
      · obtain ⟨phase', hw, hf⟩ := hl.calls r v phase hr
        exact ⟨phase', Arena.get?_alloc_of_some hw, hf⟩
  | insertKeypair r randomSegment nanoid fault =>
    cases AuthState.stepped h with
    | inserted found => exact hl.insertKeypair _ found start
  | setEx g fault =>
    cases AuthState.stepped h with
    | setFailed found => exact hl.aside start _ rfl rfl rfl
    | setLost found => exact hl.stored hd start found _ _ rfl rfl rfl
    | issued found => exact hl.stored hd start found _ _ rfl rfl rfl
  | _ => cases AuthState.stepped h <;> exact hl.aside start _ rfl rfl rfl

end Step

/-- **Each run of auth-service is a run of the limiter.** -/
theorem authSystem_limits {codec : Codec} {tenantKeys : List (String × String)} {now : Nat}
    {acts : List AuthAction} {t : AuthState}
    (h : (authSystem codec tenantKeys now).Run (.start tenantKeys now) acts t) :
    ∃ acts' w, (limiter now).Run (.start now) acts' w ∧ Limits t w := by
  have hstep : ∀ s act s' w, (authSystem codec tenantKeys now).step s act = some s' →
      Drawn s ∧ Limits s w → ∃ acts' w', (limiter now).Run w acts' w' ∧ Drawn s' ∧ Limits s' w' := by
    intro s act s' w hs hi
    obtain ⟨acts', w', hr, hl⟩ := hi.2.step hi.1 hs now
    exact ⟨acts', w', hr, hi.1.step hs, hl⟩
  have hstart : Limits (.start tenantKeys now) (.start now) := ⟨rfl, rfl, rfl, nofun⟩
  obtain ⟨acts', w, hr, -, hl⟩ := h.simulates hstep ⟨.start tenantKeys now, hstart⟩
  exact ⟨acts', w, hr, hl⟩

/-- **The bound of the rate limit in auth-service.** Its Redis, its clock and its requests are those
of a run of the limiter, in which every user is bounded. -/
theorem authSystem_rateLimitBound {codec : Codec} {tenantKeys : List (String × String)} {now : Nat}
    {acts : List AuthAction} {t : AuthState}
    (h : (authSystem codec tenantKeys now).Run (.start tenantKeys now) acts t) :
    ∃ acts' w, Limits t w ∧ ∀ googleSub, RateLimitBound googleSub now acts' w := by
  obtain ⟨acts', w, hr, hl⟩ := authSystem_limits h
  exact ⟨acts', w, hl, fun googleSub => rateLimitBound_of_run hr googleSub⟩

end PerOxo.AuthService
