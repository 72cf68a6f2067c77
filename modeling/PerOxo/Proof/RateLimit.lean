import PerOxo.Proof.Tokens

/-!
# The rate limit

`check_rate_limit` counts with `INCR` and, where the count is 1, sets the window with `EXPIRE`. A
call that ends in between leaves a counter without a deadline: it is never 1 again, and nobody
sets the window any more. `rate_limit_unlocked` says that this is the only way to be locked out.
-/

set_option autoImplicit false

namespace PerOxo.AuthService

def windowMillis : Nat := windowSecs * 1000

/-- A call of `check_rate_limit` for the user is in progress. -/
def AuthState.Calling (s : AuthState) (googleSub : String) : Prop :=
  ∃ r, s.tenants.get? r = some ⟨googleSub, .received⟩ ∨
    s.tenants.get? r = some ⟨googleSub, .counted⟩

/-- No call for the user that has counted 1 ends before its `EXPIRE` has been carried out: the
reply of its `INCR` is not lost, `EXPIRE` does not fail, and it does not stop in between. -/
def SetsWindow (googleSub : String) (s : AuthState) (act : AuthAction) : Prop :=
  ∀ r, (s.tenants.get? r = some ⟨googleSub, .received⟩ →
      s.redis.lookup s.now (rateLimitKey googleSub) = none → ∀ e, act ≠ .incr r (some (.lost e))) ∧
    (s.tenants.get? r = some ⟨googleSub, .counted⟩ →
      act ≠ .stop r ∧ ∀ e, act ≠ .expire r (some (.refused e)))

/-- No call for the user is counted. -/
def NoIncr (googleSub : String) (s : AuthState) (act : AuthAction) : Prop :=
  ∀ r fault, s.tenants.get? r = some ⟨googleSub, .received⟩ → act ≠ .incr r fault

/-- The counter of the user is gone, or will be after the window, and then it starts from 1. -/
structure Unlocked (codec : Codec) (googleSub : String) (t : AuthState) : Prop where
  window : ∀ e, t.redis.lookup t.now (rateLimitKey googleSub) = some e →
    ∃ d, e.deadline = some d ∧ d ≤ t.now + windowMillis
  /-- Once the window has passed without new calls, a call is accepted again. -/
  again : ∀ tenantKeys now acts t', (authSystem codec tenantKeys now).Run t acts t' →
    (authSystem codec tenantKeys now).Meets (NoIncr googleSub) t acts →
    t.now + windowMillis < t'.now → ∀ r, t'.tenants.get? r = some ⟨googleSub, .received⟩ →
    ∃ u w, t'.step codec (.incr r none) = some u ∧ u.step codec (.expire r none) = some w ∧
      w.tenants.get? r = some ⟨googleSub, .accepted⟩

/-! ## What a step does -/

/-- What a step does to the counter of the user, and to the calls that have counted 1. -/
inductive CounterStep (googleSub : String) (s s' : AuthState) (act : AuthAction) : Prop
  | other (entries : s'.redis.entries (rateLimitKey googleSub) =
        s.redis.entries (rateLimitKey googleSub)) (now : s.now ≤ s'.now)
      (counted : ∀ r, s'.tenants.get? r = some ⟨googleSub, .counted⟩ ↔
        s.tenants.get? r = some ⟨googleSub, .counted⟩)
  | incr {r : Nat} {fault : Option Fault} {count : Int} {redis : Redis} {phase : TenantPhase}
      (action : act = .incr r fault) (found : s.tenants.get? r = some ⟨googleSub, .received⟩)
      (result : s.redis.incr s.now (rateLimitKey googleSub) = .ok (count, redis))
      (state : s' = { s with redis := redis }.setTenant r phase)
      (first : s.redis.lookup s.now (rateLimitKey googleSub) = none →
        phase = .counted ∨ ∃ e, fault = some (.lost e))
  | expired {r : Nat} {phase : TenantPhase}
      (found : s.tenants.get? r = some ⟨googleSub, .counted⟩)
      (state : s' = { s with
        redis := (s.redis.expire s.now (rateLimitKey googleSub) windowSecs).2 }.setTenant r phase)
  /-- A call that has counted 1 ends, and its window is not set. -/
  | ended {r : Nat} (found : s.tenants.get? r = some ⟨googleSub, .counted⟩)
      (action : act = .stop r ∨ ∃ e, act = .expire r (some (.refused e)))

section Step

variable {codec : Codec} {googleSub : String} {s s' : AuthState} {act : AuthAction}

theorem afterRateLimit_ne_counted (result : Except RateLimitError Unit) :
    AuthState.afterRateLimit result ≠ .counted := by
  cases result <;> nofun

/-- A call goes on that has not counted 1 for the user. -/
theorem counted_setTenant {r : Nat} {task : TenantTask} {phase : TenantPhase}
    (hr : s.tenants.get? r = some task)
    (hne : task.googleSub ≠ googleSub ∨ (task.phase ≠ .counted ∧ phase ≠ .counted)) (o : Nat) :
    (s.setTenant r phase).tenants.get? o = some ⟨googleSub, .counted⟩ ↔
      s.tenants.get? o = some ⟨googleSub, .counted⟩ := by
  by_cases ho : o = r
  · subst ho
    have hself : (s.setTenant o phase).tenants.get? o = some { task with phase := phase } :=
      Arena.get?_modify_self hr
    rw [hself, hr]
    obtain ⟨u, before⟩ := task
    simp only [Option.some.injEq, TenantTask.mk.injEq]
    constructor
    · rintro ⟨hu, hp⟩
      exact (hne.elim (· hu) fun h => h.2 hp).elim
    · rintro ⟨hu, hp⟩
      exact (hne.elim (· hu) fun h => h.1 hp).elim
  · exact iff_of_eq (congrArg (· = _) (Arena.get?_modify_ne ho))

theorem counter_step (hd : Drawn s) (h : s.step codec act = some s') :
    CounterStep googleSub s s' act := by
  -- A call for another user is counted.
  have hincr : ∀ {r : Nat} {u : String} {count : Int} {redis : Redis} {phase : TenantPhase},
      s.tenants.get? r = some ⟨u, .received⟩ → u ≠ googleSub →
      s.redis.incr s.now (rateLimitKey u) = .ok (count, redis) →
      CounterStep googleSub s ({ s with redis := redis }.setTenant r phase) act :=
    fun found hne result => .other (Redis.entries_incr_ne (rateLimitKey_ne hne) result) le_rfl
      (counted_setTenant (s := { s with redis := _ }) found (.inl hne))
  have htoken : ∀ {g : Nat} {payload : GenerateUserTokenRequest} {token text : String}
      {drawnAt : Nat}, s.requests.get? g = some ⟨payload, .drawn token drawnAt⟩ →
      (s.redis.setEx s.now token text ttlSecs).entries (rateLimitKey googleSub) =
        s.redis.entries (rateLimitKey googleSub) := by
    intro g payload token text drawnAt found
    refine Redis.entries_setEx_ne ?_
    rintro rfl
    exact not_isToken_rateLimitKey googleSub (hd.tokens g _ _ found rfl).1
  cases AuthState.stepped h with
  | ticked le => exact .other rfl le fun _ => Iff.rfl
  | tenantArrived u =>
    refine .other rfl le_rfl fun r => ?_
    rw [Arena.get?_alloc_eq_some]
    exact or_iff_right (by rintro ⟨-, ⟨⟩⟩)
  | incrFailed found =>
    exact .other rfl le_rfl
      (counted_setTenant found (.inr ⟨nofun, afterRateLimit_ne_counted _⟩))
  | @incrLost r u e count redis found result =>
    by_cases hu : u = googleSub
    · subst hu
      exact .incr rfl found result rfl fun _ => .inr ⟨e, rfl⟩
    · exact hincr found hu result
  | @counted r u redis found result =>
    by_cases hu : u = googleSub
    · subst hu
      exact .incr rfl found result rfl fun _ => .inl rfl
    · exact hincr found hu result
  | @limited r u count redis found result notFirst =>
    by_cases hu : u = googleSub
    · subst hu
      refine .incr rfl found result rfl fun hl => ?_
      rw [Redis.incr_of_none hl] at result
      exact absurd (Prod.mk.inj (Except.ok.inj result)).1.symm notFirst
    · exact hincr found hu result
  | @expireFailed r u e found =>
    by_cases hu : u = googleSub
    · subst hu
      exact .ended found (.inr ⟨e, rfl⟩)
    · exact .other rfl le_rfl (counted_setTenant found (.inl hu))
  | @expired r fault u result found =>
    by_cases hu : u = googleSub
    · subst hu
      exact .expired found rfl
    · exact .other (Redis.entries_expire_ne (rateLimitKey_ne hu)) le_rfl
        (counted_setTenant (s := { s with redis := _ }) found (.inl hu))
  | @stopped r task found =>
    by_cases hc : task = ⟨googleSub, .counted⟩
    · subst hc
      exact .ended found (.inl rfl)
    · refine .other rfl le_rfl (counted_setTenant found ?_)
      obtain ⟨u, phase⟩ := task
      by_cases hu : u = googleSub
      · subst hu
        refine .inr ⟨?_, nofun⟩
        rintro rfl
        exact hc rfl
      · exact .inl hu
  | inserted found =>
    exact .other rfl le_rfl
      (counted_setTenant (s := { s with tenantKeys := _ }) found (.inr ⟨nofun, nofun⟩))
  | setLost found => exact .other (htoken found) le_rfl fun _ => Iff.rfl
  | issued found => exact .other (htoken found) le_rfl fun _ => Iff.rfl
  | _ => exact .other rfl le_rfl fun _ => Iff.rfl

/-! ## Runs in which every window is set -/

/-- A counter without a deadline is of a call that is about to set it. -/
structure Limited (googleSub : String) (s : AuthState) : Prop where
  drawn : Drawn s
  owned : ∀ e, s.redis.entries (rateLimitKey googleSub) = some e → e.deadline = none →
    ∃ r, s.tenants.get? r = some ⟨googleSub, .counted⟩
  bounded : ∀ e d, s.redis.entries (rateLimitKey googleSub) = some e → e.deadline = some d →
    d ≤ s.now + windowMillis

theorem Limited.step (hi : Limited googleSub s) (hc : SetsWindow googleSub s act)
    (h : s.step codec act = some s') : Limited googleSub s' := by
  have hdrawn := hi.drawn.step h
  cases counter_step hi.drawn h with
  | other entries now counted =>
    refine ⟨hdrawn, fun e he hd => ?_, fun e d he hd => ?_⟩
    · exact (hi.owned e (entries ▸ he) hd).imp fun r => (counted r).mpr
    · exact (hi.bounded e d (entries ▸ he) hd).trans (Nat.add_le_add_right now _)
  | @incr r fault count redis phase action found result state first =>
    subst state
    cases hl : s.redis.lookup s.now (rateLimitKey googleSub) with
    | none =>
      -- The counter is new, and its call will set the window.
      have hphase : phase = .counted := by
        rcases first hl with hp | ⟨e, rfl⟩
        · exact hp
        · exact absurd action ((hc r).1 found hl e)
      subst hphase
      rw [Redis.incr_of_none hl] at result
      obtain ⟨-, rfl⟩ := Prod.mk.inj (Except.ok.inj result)
      refine ⟨hdrawn, fun e he hd => ⟨r, Arena.get?_modify_self found⟩, fun e d he hd => ?_⟩
      obtain rfl := Option.some.inj (Expiring.entries_put_self.symm.trans he)
      cases hd
    | some e₀ =>
      obtain ⟨v, rfl⟩ := Redis.incr_of_some hl result
      have he₀ := (Expiring.lookup_eq_some.mp hl).1
      refine ⟨hdrawn, fun e he hd => ?_, fun e d he hd => ?_⟩
      · obtain rfl := Option.some.inj (Expiring.entries_put_self.symm.trans he)
        obtain ⟨o, ho⟩ := hi.owned e₀ he₀ hd
        have hor : o ≠ r := by
          rintro rfl
          cases ho.symm.trans found
        exact ⟨o, (Arena.get?_modify_ne hor).trans ho⟩
      · obtain rfl := Option.some.inj (Expiring.entries_put_self.symm.trans he)
        exact hi.bounded e₀ d he₀ hd
  | expired found state =>
    subst state
    refine ⟨hdrawn, fun e he hd => ?_, fun e d he hd => ?_⟩
    · rcases Redis.entries_expire_self he with hw | ⟨-, d, hw⟩
      · cases hd.symm.trans hw
      · cases hd.symm.trans hw
    · rcases Redis.entries_expire_self he with hw | ⟨hold, -⟩
      · exact (Option.some.inj (hd.symm.trans hw)).le
      · exact hi.bounded e d hold hd
  | @ended r found action =>
    rcases action with ha | ⟨e, ha⟩
    · exact absurd ha ((hc r).2 found).1
    · exact absurd ha (((hc r).2 found).2 e)

theorem Limited.start (tenantKeys : List (String × String)) (now : Nat) :
    Limited googleSub (.start tenantKeys now) where
  drawn := .start tenantKeys now
  owned e he := by simp [AuthState.start] at he
  bounded e d he := by simp [AuthState.start] at he

/-! ## After the window -/

/-- No call for the user is in the middle, and the counter is as it was in `t`. -/
structure Resting (googleSub : String) (t s : AuthState) : Prop where
  drawn : Drawn s
  quiet : ∀ r, s.tenants.get? r ≠ some ⟨googleSub, .counted⟩
  entries : s.redis.entries (rateLimitKey googleSub) = t.redis.entries (rateLimitKey googleSub)

theorem Resting.step {t : AuthState} (hi : Resting googleSub t s) (hc : NoIncr googleSub s act)
    (h : s.step codec act = some s') : Resting googleSub t s' := by
  cases counter_step hi.drawn h with
  | other entries now counted =>
    exact ⟨hi.drawn.step h, fun r hr => hi.quiet r ((counted r).mp hr), entries.trans hi.entries⟩
  | @incr r fault count redis phase action found => exact absurd action (hc r fault found)
  | @expired r phase found => exact absurd found (hi.quiet r)
  | @ended r found => exact absurd found (hi.quiet r)

/-- A call that has counted 1 sets the window, and is accepted. -/
theorem expire_of_counted {r : Nat} (hr : s.tenants.get? r = some ⟨googleSub, .counted⟩) :
    s.step codec (.expire r none) = some ({ s with
      redis := (s.redis.expire s.now (rateLimitKey googleSub) windowSecs).2 }.setTenant r
        .accepted) := by
  simp only [AuthState.step, AuthState.expire, hr]
  rfl

/-- A call that finds no counter counts 1. -/
theorem incr_of_lookup {r : Nat} (hr : s.tenants.get? r = some ⟨googleSub, .received⟩)
    (hl : s.redis.lookup s.now (rateLimitKey googleSub) = none) :
    s.step codec (.incr r none) = some ({ s with
      redis := s.redis.put (rateLimitKey googleSub) ⟨.integer 1, none⟩ }.setTenant r
        .counted) := by
  simp only [AuthState.step, AuthState.incr, hr, Redis.incr_of_none hl]
  rfl

end Step

/-- **A user whose windows have all been set is not locked out**, in any state in which no call for
the user is in progress. -/
theorem rate_limit_unlocked {codec : Codec} {tenantKeys : List (String × String)} {now : Nat}
    {acts : List AuthAction} {t : AuthState} {googleSub : String}
    (h : (authSystem codec tenantKeys now).Run (.start tenantKeys now) acts t)
    (hm : (authSystem codec tenantKeys now).Meets (SetsWindow googleSub) (.start tenantKeys now)
      acts)
    (hq : ¬ t.Calling googleSub) : Unlocked codec googleSub t := by
  have hi : Limited googleSub t := h.invariant_of_meets (I := Limited googleSub)
    (fun _ _ _ hs hc hi => hi.step hc hs) hm (.start tenantKeys now)
  have hwindow : ∀ e, t.redis.entries (rateLimitKey googleSub) = some e →
      ∃ d, e.deadline = some d ∧ d ≤ t.now + windowMillis := by
    intro e he
    cases hd : e.deadline with
    | none =>
      obtain ⟨r, hr⟩ := hi.owned e he hd
      exact absurd ⟨r, .inr hr⟩ hq
    | some d => exact ⟨d, rfl, hi.bounded e d he hd⟩
  refine ⟨fun e he => hwindow e (Expiring.lookup_eq_some.mp he).1, ?_⟩
  intro tenantKeys' now' acts' t' hrun hmeets hlater r hr
  have hrest : Resting googleSub t t' := hrun.invariant_of_meets (I := Resting googleSub t)
    (fun _ _ _ hs hc hi => hi.step hc hs) hmeets
    ⟨hi.drawn, fun r hr => hq ⟨r, .inr hr⟩, rfl⟩
  have hgone : t'.redis.lookup t'.now (rateLimitKey googleSub) = none := by
    refine Option.eq_none_iff_forall_ne_some.mpr fun e he => ?_
    obtain ⟨hentry, hlive⟩ := Expiring.lookup_eq_some.mp he
    obtain ⟨d, hd, hle⟩ := hwindow e (hrest.entries ▸ hentry)
    exact absurd ((hlive d hd).trans hle) (Nat.not_le.mpr hlater)
  refine ⟨_, _, incr_of_lookup hr hgone, expire_of_counted (Arena.get?_modify_self hr), ?_⟩
  exact Arena.get?_modify_self (Arena.get?_modify_self hr)

/-! ## A window that is not set -/

/-- `EXPIRE` fails for the first call of a user; four more calls follow, the last one a year
later. -/
def windowNotSet : List AuthAction :=
  [.generateTenant "u", .incr 0 none, .expire 0 (some (.refused "connection reset")),
    .generateTenant "u", .incr 1 none, .generateTenant "u", .incr 2 none,
    .generateTenant "u", .incr 3 none, .tick 31536000000, .generateTenant "u", .incr 4 none]

/-- The counter has no deadline, and the user is rejected for good. -/
theorem locked_out :
    ∃ t, (authSystem jsonCodec [] 0).exec (.start [] 0) windowNotSet = some t ∧
      ¬ t.Calling "u" ∧
      t.redis.lookup t.now (rateLimitKey "u") = some ⟨.integer 5, none⟩ ∧
      t.tenants.get? 4 = some ⟨"u", .answered (.error
        (429, "Rate limit exceeded: maximum 3 tenant generations per hour"))⟩ := by
  obtain ⟨t, ht, hf⟩ := Option.map_eq_some_iff.mp
    (show ((authSystem jsonCodec [] 0).exec (.start [] 0) windowNotSet).map (fun t =>
        (t.redis.lookup t.now (rateLimitKey "u"), t.tenants.rows)) =
      some (some ⟨.integer 5, none⟩, [⟨"u", .answered (.error (500, "Internal error"))⟩,
        ⟨"u", .accepted⟩, ⟨"u", .accepted⟩,
        ⟨"u", .answered (.error (429, "Rate limit exceeded: maximum 3 tenant generations per hour"))⟩,
        ⟨"u", .answered (.error (429, "Rate limit exceeded: maximum 3 tenant generations per hour"))⟩])
      from rfl)
  obtain ⟨hcounter, hrows⟩ := Prod.mk.inj hf
  refine ⟨t, ht, ?_, hcounter, ?_⟩
  · rintro ⟨r, hr | hr⟩ <;>
      have hmem := List.mem_of_getElem? hr <;>
      simp [hrows] at hmem
  · rw [Arena.get?, hrows]
    rfl

/-- The window of the first call is set; the fourth call is rejected, and one after the window is
accepted. -/
def windowSet : List AuthAction :=
  [.generateTenant "u", .incr 0 none, .expire 0 none, .generateTenant "u", .incr 1 none,
    .generateTenant "u", .incr 2 none, .generateTenant "u", .incr 3 none]

theorem rate_limit_unlocked_fourCalls :
    ∃ t, (authSystem jsonCodec [] 0).exec (.start [] 0) windowSet = some t ∧
      t.redis.lookup t.now (rateLimitKey "u") = some ⟨.integer 4, some 3600000⟩ ∧
      Unlocked jsonCodec "u" t := by
  obtain ⟨t, ht, hf⟩ := Option.map_eq_some_iff.mp
    (show ((authSystem jsonCodec [] 0).exec (.start [] 0) windowSet).map (fun t =>
        (t.redis.lookup t.now (rateLimitKey "u"), t.tenants.rows)) =
      some (some ⟨.integer 4, some 3600000⟩, [⟨"u", .accepted⟩, ⟨"u", .accepted⟩, ⟨"u", .accepted⟩,
        ⟨"u", .answered (.error (429, "Rate limit exceeded: maximum 3 tenant generations per hour"))⟩])
      from rfl)
  obtain ⟨hcounter, hrows⟩ := Prod.mk.inj hf
  have hr := Machine.run_of_exec ht
  refine ⟨t, ht, hcounter, rate_limit_unlocked hr ?_ ?_⟩
  · exact Machine.meets_of_forall (by simp [windowSet, SetsWindow]) _
  · rintro ⟨r, hr | hr⟩ <;>
      have hmem := List.mem_of_getElem? hr <;>
      simp [hrows] at hmem

end PerOxo.AuthService
