import PerOxo.AuthService.Tenants
import PerOxo.Lib.Work
import PerOxo.Proof.RateLimit

/-!
# How many keys a user gets

A life of the counter lets three calls pass, and the next life cannot begin before the window of
this one is past. So in any stretch of a run the calls that pass are bounded by its duration,
whatever fails in it; and whoever gets a key has passed.

Three invariants over the history of a run, each for what the one before leaves open:

* `Budget` counts the calls that pass. A call may pass with its `INCR` or, the first of a life,
  with its `EXPIRE`; between the two it is `pending`, and the budget has it as spent already,
  since nothing can stop it from passing.
* `Inserts` says that the table of keys has a row for each request that has inserted one, and
  nothing else that was not there before. The row may be there without an answer, where the answer
  of the database was lost, so rows are counted, not answers.
* `Confirmed` leads from a task of auth-service back to the request that began it, whose ID token
  Google has confirmed for the user the counter is about.

A failed `EXPIRE` is on the safe side here: the counter then has no deadline, so its life does not
end, and it lets no more than its three pass.
-/

set_option autoImplicit false

namespace PerOxo.AuthService

/-! ## What is counted -/

/-- A call of the user has counted 1 and is about to set the window. -/
def TenantTask.pendingFor (googleSub : String) (task : TenantTask) : Bool :=
  decide (task.googleSub = googleSub) &&
    match task.phase with
    | .counted => true
    | _ => false

/-- A call of the user has passed, and has inserted nothing yet. -/
def TenantTask.acceptedFor (googleSub : String) (task : TenantTask) : Bool :=
  decide (task.googleSub = googleSub) &&
    match task.phase with
    | .accepted => true
    | _ => false

/-- A row that a request has put into `tenant_keys`. -/
structure Insert where
  task : Nat
  googleSub : String
  keypair : GenerateTenantResponse

def Insert.row (x : Insert) : String × String := (x.keypair.projectId, x.keypair.secretApiKey)

namespace AuthState

def pending (s : AuthState) (googleSub : String) : Nat :=
  s.tenants.count (TenantTask.pendingFor googleSub)

/-- The user whose call of `check_rate_limit` returns `Ok` with the step. -/
def passed (s : AuthState) : AuthAction → List String
  | .incr r none =>
      match s.tenants.get? r with
      | some ⟨googleSub, .received⟩ =>
          match s.redis.incr s.now (rateLimitKey googleSub) with
          | .ok (count, _) => if count ≠ 1 ∧ count ≤ maxRequests then [googleSub] else []
          | .error _ => []
      | _ => []
  | .expire r none =>
      match s.tenants.get? r with
      | some ⟨googleSub, .counted⟩ => [googleSub]
      | _ => []
  | _ => []

/-- The row that the step inserts, also where the database's answer is lost. -/
def inserted (s : AuthState) : AuthAction → List Insert
  | .insertKeypair r randomSegment nanoid fault =>
      match s.tenants.get? r, fault with
      | some ⟨_, .accepted⟩, some (.refused _) => []
      | some ⟨googleSub, .accepted⟩, _ => [⟨r, googleSub, tenantKeypair randomSegment nanoid⟩]
      | _, _ => []
  | _ => []

end AuthState

/-! ## What a step does to the counter -/

/-- What a step does to the counter of the user, and whether a call of the user passes with it. -/
inductive QuotaStep (googleSub : String) (s s' : AuthState) (act : AuthAction) : Prop
  /-- The counter stands, and nobody passes. The clock may go on, and a call may end. -/
  | other (entries : s'.redis.entries (rateLimitKey googleSub) =
        s.redis.entries (rateLimitKey googleSub)) (now : s.now ≤ s'.now)
      (pending : s'.pending googleSub ≤ s.pending googleSub)
      (passed : (s.passed act).count googleSub = 0)
  /-- A life begins: there is no counter, or the one there is has expired. The call has the window
  yet to set. -/
  | created (gone : s.redis.lookup s.now (rateLimitKey googleSub) = none)
      (entries : s'.redis.entries (rateLimitKey googleSub) = some ⟨.integer 1, none⟩)
      (now : s'.now = s.now) (pending : s'.pending googleSub ≤ s.pending googleSub + 1)
      (passed : (s.passed act).count googleSub = 0)
  /-- A life goes on: `INCR` keeps the deadline. The call passes where it is among the first three
  of the life, but not as its first, which has the window yet to set. -/
  | counted {e : Expiring.Entry Value} {n : Int}
      (found : s.redis.entries (rateLimitKey googleSub) = some e) (value : e.value.int? = some n)
      (entries : s'.redis.entries (rateLimitKey googleSub) =
        some { e with value := .integer (n + 1) })
      (now : s'.now = s.now) (pending : n ≠ 0 → s'.pending googleSub ≤ s.pending googleSub)
      (passed : (s.passed act).count googleSub = 0 ∨
        n + 1 ≤ maxRequests ∧ (s.passed act).count googleSub = 1)
  /-- The call that has begun the life sets the window, and passes. Where the reply of `EXPIRE` is
  lost the window is set and the call does not pass. -/
  | expired (entries : s'.redis.entries (rateLimitKey googleSub) =
        (s.redis.expire s.now (rateLimitKey googleSub) windowSecs).2.entries
          (rateLimitKey googleSub))
      (now : s'.now = s.now) (pending : s'.pending googleSub + 1 = s.pending googleSub)
      (passed : (s.passed act).count googleSub ≤ 1)

section Step

variable {codec : Codec} {googleSub : String} {s s' : AuthState} {act : AuthAction}

theorem pending_modify (googleSub : String) {r : Nat} {u : String} {before : TenantPhase}
    (hr : s.tenants.get? r = some ⟨u, before⟩) (phase : TenantPhase) :
    (s.tenants.modify r fun task => { task with phase := phase }).count
        (TenantTask.pendingFor googleSub) + (TenantTask.pendingFor googleSub ⟨u, before⟩).toNat =
      s.pending googleSub + (TenantTask.pendingFor googleSub ⟨u, phase⟩).toNat :=
  Arena.count_modify hr

/-- A call goes on that does not come to have counted 1 for the user. -/
theorem pending_modify_le {r : Nat} {task : TenantTask} (hr : s.tenants.get? r = some task)
    {phase : TenantPhase} (hp : task.googleSub ≠ googleSub ∨ phase ≠ .counted) :
    (s.tenants.modify r fun task => { task with phase := phase }).count
      (TenantTask.pendingFor googleSub) ≤ s.pending googleSub := by
  obtain ⟨u, before⟩ := task
  have hsum := pending_modify googleSub hr phase
  have hzero : TenantTask.pendingFor googleSub ⟨u, phase⟩ = false := by
    rcases hp with hu | hp
    · have hne : u ≠ googleSub := hu
      simp [TenantTask.pendingFor, hne]
    · cases phase with
      | counted => exact absurd rfl hp
      | _ => simp [TenantTask.pendingFor]
  rw [hzero, Bool.toNat_false, Nat.add_zero] at hsum
  exact hsum ▸ Nat.le_add_right _ _

/-- How `INCR` ends for a call: it has not been carried out, or it has. -/
theorem incr_outcome {r : Nat} {fault : Option Fault} (h : s.incr r fault = some s') :
    ∃ u, s.tenants.get? r = some ⟨u, .received⟩ ∧
      ((∃ e, s' = s.setTenant r (AuthState.afterRateLimit (.error e)) ∧
          s.passed (.incr r fault) = []) ∨
        ∃ count redis phase, s.redis.incr s.now (rateLimitKey u) = .ok (count, redis) ∧
          s' = { s with redis := redis }.setTenant r phase ∧
          (phase = .counted ∧ count = 1 ∨ ∃ result, phase = AuthState.afterRateLimit result) ∧
          ((phase ≠ .accepted ∧ s.passed (.incr r fault) = []) ∨
            count ≠ 1 ∧ count ≤ maxRequests ∧ s.passed (.incr r fault) = [u])) := by
  unfold AuthState.incr at h
  split at h
  · next u found =>
    refine ⟨u, found, ?_⟩
    split at h
    · exact .inl ⟨_, (Option.some.inj h).symm, rfl⟩
    · split at h
      · next e hincr =>
        refine .inl ⟨_, (Option.some.inj h).symm, ?_⟩
        cases fault with
        | none => simp [AuthState.passed, found, hincr]
        | some f => rfl
      · next count redis hincr =>
        refine .inr ⟨count, redis, ?_⟩
        cases fault with
        | some f =>
          exact ⟨_, hincr, (Option.some.inj h).symm, .inr ⟨_, rfl⟩, .inl ⟨nofun, rfl⟩⟩
        | none =>
          simp only at h
          split at h
          · next hc =>
            exact ⟨_, hincr, (Option.some.inj h).symm, .inl ⟨rfl, hc⟩,
              .inl ⟨nofun, by simp [AuthState.passed, found, hincr, hc]⟩⟩
          · next hc =>
            refine ⟨_, hincr, (Option.some.inj h).symm, .inr ⟨_, rfl⟩, ?_⟩
            by_cases hle : count ≤ maxRequests
            · exact .inr ⟨hc, hle, by simp [AuthState.passed, found, hincr, hc, hle]⟩
            · refine .inl ⟨?_, by simp [AuthState.passed, found, hincr, hle]⟩
              rw [checkCount, if_pos (not_le.mp hle)]
              nofun
  · cases h

theorem quota_incr {r : Nat} {fault : Option Fault} (h : s.incr r fault = some s') :
    QuotaStep googleSub s s' (.incr r fault) := by
  obtain ⟨u, found, ⟨e, rfl, hpassed⟩ | ⟨count, redis, phase, hincr, rfl, hphase, hpassed⟩⟩ :=
    incr_outcome h
  · exact .other rfl le_rfl (pending_modify_le found (.inr (afterRateLimit_ne_counted _)))
      (by rw [hpassed, List.count_nil])
  · by_cases hu : u = googleSub
    · subst hu
      cases hl : s.redis.lookup s.now (rateLimitKey u) with
      | none =>
        rw [Redis.incr_of_none hl] at hincr
        obtain ⟨rfl, rfl⟩ := Prod.mk.inj (Except.ok.inj hincr)
        refine .created hl Expiring.entries_put_self rfl ?_ ?_
        · have hsum := pending_modify u found phase
          have hone := (TenantTask.pendingFor u ⟨u, phase⟩).toNat_le
          change (s.tenants.modify r _).count _ ≤ _
          omega
        · rcases hpassed with ⟨-, hp⟩ | ⟨hne, -, -⟩
          · rw [hp, List.count_nil]
          · exact absurd rfl hne
      | some e =>
        have he := (Expiring.lookup_eq_some.mp hl).1
        cases hv : e.value.int? with
        | none => simp [Redis.incr, hl, hv] at hincr
        | some n =>
          obtain ⟨rfl, rfl⟩ : n + 1 = count ∧
              s.redis.put (rateLimitKey u) { e with value := .integer (n + 1) } = redis := by
            simp only [Redis.incr, hl, hv] at hincr
            split at hincr
            · exact Prod.mk.inj (Except.ok.inj hincr)
            · cases hincr
          refine .counted he hv Expiring.entries_put_self rfl (fun hn => ?_) ?_
          · refine pending_modify_le (s := s) found (.inr fun hp => hn ?_)
            rcases hphase with ⟨-, hone⟩ | ⟨result, rfl⟩
            · omega
            · exact absurd hp (afterRateLimit_ne_counted result)
          · rcases hpassed with ⟨-, hp⟩ | ⟨-, hle, hp⟩
            · exact .inl (by rw [hp, List.count_nil])
            · exact .inr ⟨hle, by rw [hp, List.count_singleton_self]⟩
    · refine .other (Redis.entries_incr_ne (rateLimitKey_ne hu) hincr) le_rfl
        (pending_modify_le (s := s) found (.inl hu)) ?_
      rcases hpassed with ⟨-, hp⟩ | ⟨-, -, hp⟩
      · rw [hp, List.count_nil]
      · rw [hp]
        exact List.count_eq_zero_of_not_mem fun hm => hu (List.mem_singleton.mp hm).symm

/-- The other steps of a call for the user. -/
theorem quota_expire {r : Nat} {fault : Option Fault} (h : s.expire r fault = some s') :
    QuotaStep googleSub s s' (.expire r fault) := by
  unfold AuthState.expire at h
  split at h
  · next u found =>
    have hpassed : (s.passed (.expire r fault)) = [] ∨ s.passed (.expire r fault) = [u] := by
      cases fault with
      | none => exact .inr (by simp [AuthState.passed, found])
      | some f => exact .inl rfl
    split at h
    · obtain rfl := Option.some.inj h
      exact .other rfl le_rfl (pending_modify_le found (.inr (afterRateLimit_ne_counted _))) rfl
    · obtain ⟨result, rfl⟩ : ∃ result, s' = { s with
          redis := (s.redis.expire s.now (rateLimitKey u) windowSecs).2 }.setTenant r
            (AuthState.afterRateLimit result) := by
        cases fault with
        | none => exact ⟨_, (Option.some.inj h).symm⟩
        | some f => exact ⟨_, (Option.some.inj h).symm⟩
      by_cases hu : u = googleSub
      · subst hu
        refine .expired rfl rfl ?_ ?_
        · have hsum := pending_modify u found (AuthState.afterRateLimit result)
          have hold : TenantTask.pendingFor u ⟨u, .counted⟩ = true := by
            simp [TenantTask.pendingFor]
          have hnew : TenantTask.pendingFor u ⟨u, AuthState.afterRateLimit result⟩ = false := by
            cases result <;> simp [TenantTask.pendingFor, AuthState.afterRateLimit]
          rw [hold, hnew] at hsum
          exact hsum
        · rcases hpassed with hp | hp <;> simp [hp]
      · refine .other (Redis.entries_expire_ne (rateLimitKey_ne hu)) le_rfl
          (pending_modify_le (s := s) found (.inl hu)) ?_
        rcases hpassed with hp | hp
        · rw [hp, List.count_nil]
        · rw [hp]
          exact List.count_eq_zero_of_not_mem fun hm => hu (List.mem_singleton.mp hm).symm
  · cases h

theorem quota_step (googleSub : String) (hd : Drawn s) (h : s.step codec act = some s') :
    QuotaStep googleSub s s' act := by
  have htoken : ∀ {g : Nat} {payload : GenerateUserTokenRequest} {token text : String}
      {drawnAt : Nat}, s.requests.get? g = some ⟨payload, .drawn token drawnAt⟩ →
      (s.redis.setEx s.now token text ttlSecs).entries (rateLimitKey googleSub) =
        s.redis.entries (rateLimitKey googleSub) := by
    intro g payload token text drawnAt found
    refine Redis.entries_setEx_ne ?_
    rintro rfl
    exact not_isToken_rateLimitKey googleSub (hd.tokens g _ _ found rfl).1
  cases act with
  | incr r fault => exact quota_incr h
  | expire r fault => exact quota_expire h
  | tick now =>
    cases AuthState.stepped h with
    | ticked le => exact .other rfl le le_rfl rfl
  | generateTenant u =>
    cases AuthState.stepped h
    refine .other rfl le_rfl (Nat.le_of_eq ?_) rfl
    refine Arena.count_alloc.trans ?_
    simp [AuthState.pending, TenantTask.pendingFor]
  | stop r =>
    cases AuthState.stepped h with
    | stopped found => exact .other rfl le_rfl (pending_modify_le found (.inr nofun)) rfl
  | insertKeypair r randomSegment nanoid fault =>
    cases AuthState.stepped h with
    | inserted found =>
      exact .other rfl le_rfl (pending_modify_le (s := s) found (.inr nofun)) rfl
  | setEx g fault =>
    cases AuthState.stepped h with
    | setFailed found => exact .other rfl le_rfl le_rfl rfl
    | setLost found => exact .other (htoken found) le_rfl le_rfl rfl
    | issued found => exact .other (htoken found) le_rfl le_rfl rfl
  | _ => cases AuthState.stepped h <;> exact .other rfl le_rfl le_rfl rfl

/-! ## The budget -/

/-- How many calls of the user have passed since `base`, by the lives of the counter since then:
each that is past has let three pass, and has lasted for the window, but for the `first` ones, which
may have begun before. -/
structure Budget (googleSub : String) (base first spent : Nat) (s : AuthState) : Prop where
  begun : base ≤ s.now
  /-- A key that has never been set: no life has begun. -/
  absent : s.redis.entries (rateLimitKey googleSub) = none →
    spent = 0 ∧ s.pending googleSub = 0
  /-- The last life is there, expired or not. It has begun a window after each of the `past` ones
  at the least; where it has a deadline this is not before its own window is over, and the call
  that has set it is not pending any more; and what has been spent in it is no more than what the
  counter shows, and three. -/
  present : ∀ e, s.redis.entries (rateLimitKey googleSub) = some e →
    ∃ (n past began : Nat), e.value = .integer n ∧ 0 < n ∧
      (∀ j, past = j + first → base + j * windowMillis ≤ began) ∧ began ≤ s.now ∧
      (∀ d, e.deadline = some d → began + windowMillis ≤ d ∧ s.pending googleSub = 0) ∧
      s.pending googleSub ≤ 1 ∧ spent + s.pending googleSub ≤ 3 * past + min n 3

/-- A life begins after one whose window is over, or there has been none. -/
theorem Budget.created {base first spent : Nat} (hi : Budget googleSub base first spent s)
    (gone : s.redis.lookup s.now (rateLimitKey googleSub) = none)
    (entries : s'.redis.entries (rateLimitKey googleSub) = some ⟨.integer 1, none⟩)
    (now : s'.now = s.now) (pending : s'.pending googleSub ≤ s.pending googleSub + 1) :
    Budget googleSub base first spent s' := by
  refine ⟨now ▸ hi.begun, fun he => ?_, fun e he => ?_⟩
  · rw [entries] at he
    cases he
  rw [entries] at he
  obtain rfl := Option.some.inj he
  cases hold : s.redis.entries (rateLimitKey googleSub) with
  | none =>
    obtain ⟨hs, hp⟩ := hi.absent hold
    refine ⟨1, 0, s.now, rfl, Nat.one_pos, fun j hj => ?_, now ▸ le_rfl, fun d hd => ?_, by omega,
      by omega⟩
    · obtain ⟨rfl, -⟩ := Nat.add_eq_zero_iff.mp hj.symm
      rw [Nat.zero_mul]
      exact hi.begun
    · cases hd
  | some e =>
    -- The window of the life that is past has been set, and it is over.
    obtain ⟨n, past, began, hv, hn, hpast, hbegan, hdead, hone, hsum⟩ := hi.present e hold
    obtain ⟨d, hed, hlt⟩ : ∃ d, e.deadline = some d ∧ d < s.now := by
      by_contra hlive
      simp only [not_exists, not_and, not_lt] at hlive
      rw [Expiring.lookup_eq_some.mpr ⟨hold, fun d hd => hlive d hd⟩] at gone
      cases gone
    obtain ⟨hle, hzero⟩ := hdead d hed
    refine ⟨1, past + 1, s.now, rfl, Nat.one_pos, fun j hj => ?_, now ▸ le_rfl, fun d hd => ?_,
      by omega, by omega⟩
    · cases j with
      | zero =>
        rw [Nat.zero_mul]
        exact hi.begun
      | succ j =>
        have hj' := hpast j (by omega)
        rw [Nat.add_mul, Nat.one_mul]
        omega
    · cases hd

/-- Only a life that begins adds to `past`. A call that passes with its `EXPIRE` was pending. -/
theorem Budget.step {base first spent : Nat} (hi : Budget googleSub base first spent s)
    (hd : Drawn s) (h : s.step codec act = some s') :
    Budget googleSub base first (spent + (s.passed act).count googleSub) s' := by
  cases quota_step googleSub hd h with
  | other entries now pending passed =>
    rw [passed, Nat.add_zero]
    refine ⟨hi.begun.trans now, fun he => ?_, fun e he => ?_⟩
    · obtain ⟨hs, hp⟩ := hi.absent (entries ▸ he)
      exact ⟨hs, by omega⟩
    · obtain ⟨n, past, began, hv, hn, hpast, hbegan, hdead, hone, hsum⟩ :=
        hi.present e (entries ▸ he)
      refine ⟨n, past, began, hv, hn, hpast, hbegan.trans now, fun d hed => ?_, by omega, by omega⟩
      obtain ⟨hle, hzero⟩ := hdead d hed
      exact ⟨hle, by omega⟩
  | created gone entries now pending passed =>
    rw [passed, Nat.add_zero]
    exact hi.created gone entries now pending
  | counted found value entries now pending passed =>
    refine ⟨now ▸ hi.begun, fun he => absurd (entries.symm.trans he) (Option.some_ne_none _),
      fun e he => ?_⟩
    obtain rfl := Option.some.inj (entries.symm.trans he)
    obtain ⟨n, past, began, hv, hn, hpast, hbegan, hdead, hone, hsum⟩ := hi.present _ found
    obtain rfl := Option.some.inj ((congrArg Value.int? hv).symm.trans value)
    have hkept := pending (by omega)
    refine ⟨n + 1, past, began, rfl, Nat.succ_pos n, hpast, now ▸ hbegan, fun d hed => ?_,
      by omega, ?_⟩
    · obtain ⟨hle, hzero⟩ := hdead d hed
      exact ⟨hle, by omega⟩
    · have hmax : maxRequests = 3 := rfl
      rcases passed with hp | ⟨hle, hp⟩ <;> rw [hp] <;> omega
  | expired entries now pending passed =>
    have hpresent : s.redis.entries (rateLimitKey googleSub) ≠ none := fun he => by
      have hzero := (hi.absent he).2
      omega
    obtain ⟨e, he⟩ := Option.ne_none_iff_exists'.mp hpresent
    obtain ⟨n, past, began, hv, hn, hpast, hbegan, hdead, hone, hsum⟩ := hi.present e he
    have hnone : e.deadline = none := Option.eq_none_iff_forall_ne_some.mpr fun d hed => by
      have hzero := (hdead d hed).2
      omega
    have hentries : s'.redis.entries (rateLimitKey googleSub) =
        some { e with deadline := some (s.now + windowMillis) } := by
      rw [entries, Redis.expire, Expiring.lookup_of_no_deadline he hnone]
      exact Expiring.entries_put_self
    refine ⟨now ▸ hi.begun, fun he' => absurd (hentries.symm.trans he') (Option.some_ne_none _),
      fun e' he' => ?_⟩
    obtain rfl := Option.some.inj (hentries.symm.trans he')
    refine ⟨n, past, began, hv, hn, hpast, now ▸ hbegan, fun d hed => ?_, by omega, by omega⟩
    obtain rfl := Option.some.inj hed
    exact ⟨by omega, by omega⟩

theorem Budget.start (googleSub : String) (tenantKeys : List (String × String)) (now : Nat) :
    Budget googleSub now 0 0 (.start tenantKeys now) :=
  ⟨le_rfl, fun _ => ⟨rfl, rfl⟩, fun _ he => by cases he⟩

/-- The account is opened anew; the life that is there may have begun before. -/
theorem Budget.reopen {base first spent : Nat} (hi : Budget googleSub base first spent s) :
    Budget googleSub s.now 1 0 s := by
  refine ⟨le_rfl, fun he => ⟨rfl, (hi.absent he).2⟩, fun e he => ?_⟩
  obtain ⟨n, past, began, hv, hn, -, hbegan, hdead, hone, -⟩ := hi.present e he
  exact ⟨n, 0, began, hv, hn, fun j hj => by omega, hbegan, hdead, hone, by omega⟩

/-- The lives since `base` but the first ones and the last have each taken a window of the time. -/
theorem Budget.spent_le {base first spent : Nat} (hi : Budget googleSub base first spent s) :
    spent ≤ 3 * (first + 1 + (s.now - base) / windowMillis) := by
  cases he : s.redis.entries (rateLimitKey googleSub) with
  | none => exact (hi.absent he).1 ▸ Nat.zero_le _
  | some e =>
    obtain ⟨n, past, began, -, -, hpast, hbegan, -, -, hsum⟩ := hi.present e he
    have hle : past ≤ first + (s.now - base) / windowMillis := by
      by_cases hf : past ≤ first
      · exact hf.trans (Nat.le_add_right _ _)
      · have hj := hpast (past - first) (by omega)
        have hdiv : past - first ≤ (s.now - base) / windowMillis := by
          refine (Nat.le_div_iff_mul_le (by decide)).mpr ?_
          omega
        omega
    omega

/-! ## Who has passed, and what has been inserted -/

/-- What a step does to the requests and to the table of keys. -/
inductive TenantStep (s s' : AuthState) (act : AuthAction) : Prop
  | other (tenants : s'.tenants = s.tenants) (keys : s'.tenantKeys = s.tenantKeys)
      (inserted : s.inserted act = [])
  | arrived (u : String) (action : act = .generateTenant u)
      (tenants : s'.tenants = s.tenants.alloc ⟨u, .received⟩)
      (keys : s'.tenantKeys = s.tenantKeys) (inserted : s.inserted act = [])
  | moved {r : Nat} {u : String} {before phase : TenantPhase}
      (found : s.tenants.get? r = some ⟨u, before⟩) (waiting : ∀ result, before ≠ .answered result)
      (tenants : s'.tenants = s.tenants.modify r fun task => { task with phase := phase })
      (refused : ∀ keypair, phase ≠ .answered (.ok keypair))
      (passed : phase = .accepted → s.passed act = [u]) (keys : s'.tenantKeys = s.tenantKeys)
      (inserted : s.inserted act = [])
  | inserted {x : Insert} {result : Except HttpError GenerateTenantResponse}
      (found : s.tenants.get? x.task = some ⟨x.googleSub, .accepted⟩)
      (tenants : s'.tenants = s.tenants.modify x.task fun task =>
        { task with phase := .answered result })
      (answer : result = .ok x.keypair ∨ ∃ e, result = .error (internalServerError, e))
      (keys : s'.tenantKeys = s.tenantKeys ++ [x.row]) (inserted : s.inserted act = [x])

theorem afterRateLimit_ne_ok (result : Except RateLimitError Unit)
    (keypair : GenerateTenantResponse) :
    AuthState.afterRateLimit result ≠ .answered (.ok keypair) := by
  cases result <;> nofun

theorem tenant_step (h : s.step codec act = some s') : TenantStep s s' act := by
  cases act with
  | incr r fault =>
    obtain ⟨u, found, ⟨e, rfl, -⟩ | ⟨count, redis, phase, -, rfl, hphase, hpassed⟩⟩ :=
      incr_outcome h
    · exact .moved found nofun rfl nofun nofun rfl rfl
    · refine .moved found nofun rfl ?_ ?_ rfl rfl
      · rcases hphase with ⟨rfl, -⟩ | ⟨result, rfl⟩
        · nofun
        · exact afterRateLimit_ne_ok result
      · intro hp
        rcases hpassed with ⟨hne, -⟩ | ⟨-, -, hpassed⟩
        · exact absurd hp hne
        · exact hpassed
  | expire r fault =>
    change s.expire r fault = some s' at h
    unfold AuthState.expire at h
    split at h
    · next u found =>
      split at h
      · obtain rfl := Option.some.inj h
        exact .moved found nofun rfl (afterRateLimit_ne_ok _) nofun rfl rfl
      · cases fault with
        | none =>
          obtain rfl := Option.some.inj h
          exact .moved found nofun rfl (afterRateLimit_ne_ok _)
            (fun _ => by simp [AuthState.passed, found]) rfl rfl
        | some f =>
          obtain rfl := Option.some.inj h
          exact .moved found nofun rfl (afterRateLimit_ne_ok _) nofun rfl rfl
    · cases h
  | generateTenant u =>
    cases AuthState.stepped h
    exact .arrived u rfl rfl rfl rfl
  | stop r =>
    change s.stop r = some s' at h
    unfold AuthState.stop at h
    split at h
    · next u found =>
      obtain rfl := Option.some.inj h
      exact .moved found nofun rfl nofun nofun rfl rfl
    · next u found =>
      obtain rfl := Option.some.inj h
      exact .moved found nofun rfl nofun nofun rfl rfl
    · cases h
  | insertKeypair r randomSegment nanoid fault =>
    change s.insertKeypair r randomSegment nanoid fault = some s' at h
    unfold AuthState.insertKeypair at h
    split at h
    · next u found =>
      split at h
      · obtain rfl := Option.some.inj h
        exact .moved found nofun rfl nofun nofun rfl (by simp [AuthState.inserted, found])
      · next hsent =>
        have hinserted : s.inserted (.insertKeypair r randomSegment nanoid fault) =
            [⟨r, u, tenantKeypair randomSegment nanoid⟩] := by
          cases fault with
          | none => simp [AuthState.inserted, found]
          | some f =>
            cases f with
            | refused e => exact absurd rfl (hsent e)
            | lost e => simp [AuthState.inserted, found]
        cases fault with
        | none =>
          obtain rfl := Option.some.inj h
          exact .inserted (x := ⟨r, u, _⟩) found rfl (.inl rfl) rfl hinserted
        | some f =>
          obtain rfl := Option.some.inj h
          exact .inserted (x := ⟨r, u, _⟩) found rfl (.inr ⟨_, rfl⟩) rfl hinserted
    · cases h
  | _ => cases AuthState.stepped h <;> exact .other rfl rfl rfl

/-- The table of keys is what it was, and what the requests have inserted since. -/
structure Inserts (keys : List (String × String)) (hist : List Insert) (s : AuthState) :
    Prop where
  rows : s.tenantKeys = keys ++ hist.map Insert.row
  /-- A request inserts once, so that rows can be charged to the calls that have passed. -/
  nodup : (hist.map Insert.task).Nodup
  /-- Whoever has inserted is done: it has been told of its key, or of an error where the answer of
  the database was lost. -/
  answered : ∀ x ∈ hist, ∃ result, s.tenants.get? x.task = some ⟨x.googleSub, .answered result⟩ ∧
    (result = .ok x.keypair ∨ ∃ e, result = .error (internalServerError, e))
  /-- Whoever has got a key has got one that stands in the table. -/
  stored : ∀ r u keypair, s.tenants.get? r = some ⟨u, .answered (.ok keypair)⟩ →
    ⟨r, u, keypair⟩ ∈ hist

theorem Inserts.step {keys : List (String × String)} {hist : List Insert}
    (hi : Inserts keys hist s) (h : s.step codec act = some s') :
    Inserts keys (hist ++ s.inserted act) s' := by
  cases tenant_step h with
  | other tenants keys inserted =>
    rw [inserted, List.append_nil]
    exact ⟨keys.trans hi.rows, hi.nodup, tenants ▸ hi.answered, tenants ▸ hi.stored⟩
  | arrived u action tenants keys inserted =>
    rw [inserted, List.append_nil]
    refine ⟨keys.trans hi.rows, hi.nodup, fun x hx => ?_, fun r v keypair hr => ?_⟩
    · obtain ⟨result, hr, hresult⟩ := hi.answered x hx
      exact ⟨result, tenants ▸ Arena.get?_alloc_of_some hr, hresult⟩
    · rw [tenants] at hr
      rcases Arena.get?_alloc_eq_some.mp hr with ⟨-, he⟩ | hr
      · cases he
      · exact hi.stored r v keypair hr
  | @moved r u before phase found waiting tenants refused passed keys inserted =>
    rw [inserted, List.append_nil]
    refine ⟨keys.trans hi.rows, hi.nodup, fun x hx => ?_, fun o v keypair ho => ?_⟩
    · obtain ⟨result, hr, hresult⟩ := hi.answered x hx
      have hne : x.task ≠ r := fun he => by
        rw [he, found] at hr
        exact waiting result (TenantTask.mk.inj (Option.some.inj hr)).2
      exact ⟨result, tenants ▸ (Arena.get?_modify_ne hne).trans hr, hresult⟩
    · rw [tenants] at ho
      rcases Arena.get?_modify_eq_some.mp ho with ⟨-, task, -, he⟩ | ⟨-, ho⟩
      · exact absurd (TenantTask.mk.inj he).2.symm (refused keypair)
      · exact hi.stored o v keypair ho
  | @inserted x result found tenants answer keys inserted =>
    rw [inserted]
    have hnew : ∀ y ∈ hist, y.task ≠ x.task := fun y hy he => by
      obtain ⟨result, hr, -⟩ := hi.answered y hy
      rw [he, found] at hr
      exact absurd (TenantTask.mk.inj (Option.some.inj hr)).2 nofun
    refine ⟨?_, ?_, fun y hy => ?_, fun o v keypair ho => ?_⟩
    · rw [keys, hi.rows, List.map_append, List.append_assoc]
      rfl
    · rw [List.map_append]
      refine List.nodup_append.mpr ⟨hi.nodup, List.nodup_singleton _, ?_⟩
      rintro a ha b hb rfl
      obtain ⟨y, hy, rfl⟩ := List.mem_map.mp ha
      exact hnew y hy (List.mem_singleton.mp hb)
    · rcases List.mem_append.mp hy with hy | hy
      · obtain ⟨result, hr, hresult⟩ := hi.answered y hy
        exact ⟨result, tenants ▸ (Arena.get?_modify_ne (hnew y hy)).trans hr, hresult⟩
      · obtain rfl := List.mem_singleton.mp hy
        exact ⟨result, tenants ▸ Arena.get?_modify_self found, answer⟩
    · rw [tenants] at ho
      rcases Arena.get?_modify_eq_some.mp ho with ⟨rfl, task, hr, he⟩ | ⟨-, ho⟩
      · obtain rfl := Option.some.inj (found.symm.trans hr)
        obtain ⟨rfl, hphase⟩ := TenantTask.mk.inj he
        obtain rfl := TenantPhase.answered.inj hphase
        refine List.mem_append_right _ (List.mem_singleton.mpr ?_)
        rcases answer with ha | ⟨e, ha⟩
        · obtain rfl := Except.ok.inj ha
          rfl
        · cases ha
      · exact List.mem_append_left _ (hi.stored o v keypair ho)

/-- The calls of the user that have passed and may still insert. -/
def AuthState.accepted (s : AuthState) (googleSub : String) : Nat :=
  s.tenants.count (TenantTask.acceptedFor googleSub)

/-- Whoever inserts has passed. -/
theorem accepted_step (h : s.step codec act = some s') :
    (s.inserted act).countP (·.googleSub = googleSub) + s'.accepted googleSub ≤
      s.accepted googleSub + (s.passed act).count googleSub := by
  have hmodify : ∀ {r : Nat} {u : String} {before phase : TenantPhase},
      s.tenants.get? r = some ⟨u, before⟩ →
      s'.tenants = s.tenants.modify r (fun task => { task with phase := phase }) →
      s'.accepted googleSub + (TenantTask.acceptedFor googleSub ⟨u, before⟩).toNat =
        s.accepted googleSub + (TenantTask.acceptedFor googleSub ⟨u, phase⟩).toNat := by
    intro r u before phase found tenants
    rw [AuthState.accepted, tenants]
    exact Arena.count_modify found
  cases tenant_step h with
  | other tenants keys inserted =>
    rw [inserted, AuthState.accepted, tenants, AuthState.accepted, List.countP_nil, Nat.zero_add]
    exact Nat.le_add_right _ _
  | arrived u action tenants keys inserted =>
    rw [inserted, AuthState.accepted, tenants, Arena.count_alloc, List.countP_nil, Nat.zero_add]
    simp [TenantTask.acceptedFor, AuthState.accepted]
  | @moved r u before phase found waiting tenants refused passed keys inserted =>
    have hsum := hmodify found tenants
    have hpassed : (TenantTask.acceptedFor googleSub ⟨u, phase⟩).toNat ≤
        (s.passed act).count googleSub := by
      cases phase with
      | accepted =>
        rw [passed rfl]
        by_cases hu : u = googleSub <;> simp [TenantTask.acceptedFor, hu]
      | _ => simp [TenantTask.acceptedFor]
    rw [inserted, List.countP_nil, Nat.zero_add]
    omega
  | @inserted x result found tenants answer keys inserted =>
    have hsum := hmodify found tenants
    have hrow : (s.inserted act).countP (·.googleSub = googleSub) =
        (TenantTask.acceptedFor googleSub ⟨x.googleSub, .accepted⟩).toNat := by
      rw [inserted]
      by_cases hu : x.googleSub = googleSub <;> simp [TenantTask.acceptedFor, hu]
    have hnone : (TenantTask.acceptedFor googleSub ⟨x.googleSub, .answered result⟩).toNat = 0 := by
      simp [TenantTask.acceptedFor]
    omega

/-- A request stays the one of its user. -/
theorem tenant_before (h : s.step codec act = some s') (ha : ∀ u, act ≠ .generateTenant u) {r : Nat}
    {u : String} {phase : TenantPhase} (hr : s'.tenants.get? r = some ⟨u, phase⟩) :
    ∃ before, s.tenants.get? r = some ⟨u, before⟩ := by
  have hmodify : ∀ {o : Nat} {after : TenantPhase},
      s'.tenants = s.tenants.modify o (fun task => { task with phase := after }) →
      ∃ before, s.tenants.get? r = some ⟨u, before⟩ := by
    intro o after tenants
    rw [tenants] at hr
    rcases Arena.get?_modify_eq_some.mp hr with ⟨-, task, ho, he⟩ | ⟨-, ho⟩
    · obtain ⟨rfl, -⟩ := TenantTask.mk.inj he
      exact ⟨_, ho⟩
    · exact ⟨phase, ho⟩
  cases tenant_step h with
  | other tenants keys inserted => exact ⟨phase, tenants ▸ hr⟩
  | arrived u action tenants keys inserted => exact absurd action (ha u)
  | moved found waiting tenants refused passed keys inserted => exact hmodify tenants
  | inserted found tenants answer keys inserted => exact hmodify tenants

end Step

/-! ## With the requests -/

namespace TenantsState

def passed (s : TenantsState) : TenantsAction → List String
  | .auth act => s.auth.passed act
  | _ => []

def inserted (s : TenantsState) : TenantsAction → List Insert
  | .auth act => s.auth.inserted act
  | _ => []

/-- A task of auth-service belongs to a request whose ID token Google has confirmed, for this user
and this client. -/
def Vouched (clientId : Option String) (acts : List TenantsAction) (s : TenantsState) (r : Nat)
    (googleSub : String) : Prop :=
  ∃ k authorization token info,
    s.requests.get? k = some ⟨authorization, .confirmed ⟨info.sub, info.email⟩ r⟩ ∧
    idToken authorization = .ok token ∧ .tokenInfo k (.answered info) ∈ acts ∧
    clientId = some info.aud ∧ info.sub = googleSub

end TenantsState

section Tenants

variable {codec : Codec} {clientId : Option String} {s s' : TenantsState} {act : TenantsAction}
  {acts : List TenantsAction} {googleSub : String}

/-- What a step is for auth-service. -/
theorem auth_step (h : s.step codec clientId act = some s') :
    (s'.auth = s.auth ∧ s.passed act = [] ∧ s.inserted act = []) ∨
      ∃ a, s.auth.step codec a = some s'.auth ∧ s.passed act = s.auth.passed a ∧
        s.inserted act = s.auth.inserted a := by
  cases TenantsState.tenants_stepped h with
  | requested authorization phase unconfirmed token => exact .inl ⟨rfl, rfl, rfl⟩
  | refused found => exact .inl ⟨rfl, rfl, rfl⟩
  | @confirmed k info authorization token found audience =>
    exact .inr ⟨.generateTenant info.sub, rfl, rfl, rfl⟩
  | @auth a auth allowed result => exact .inr ⟨a, result, rfl, rfl⟩

theorem Budget.tenants {base first spent : Nat}
    (hi : Drawn s.auth ∧ Budget googleSub base first spent s.auth)
    (h : s.step codec clientId act = some s') :
    Drawn s'.auth ∧
      Budget googleSub base first (spent + (s.passed act).count googleSub) s'.auth := by
  rcases auth_step h with ⟨he, hp, -⟩ | ⟨a, ha, hp, -⟩
  · rw [he, hp]
    exact hi
  · rw [hp]
    exact ⟨hi.1.step ha, hi.2.step hi.1 ha⟩

/-- Each task of auth-service is vouched for. -/
structure Confirmed (clientId : Option String) (acts : List TenantsAction) (s : TenantsState) :
    Prop where
  /-- The token Google is asked about is the one of the header. -/
  tokens : ∀ k authorization token,
    s.requests.get? k = some ⟨authorization, .verifying token⟩ → idToken authorization = .ok token
  tasks : ∀ r u phase, s.auth.tenants.get? r = some ⟨u, phase⟩ → s.Vouched clientId acts r u

theorem Confirmed.step (hi : Confirmed clientId acts s) (h : s.step codec clientId act = some s') :
    Confirmed clientId (acts ++ [act]) s' := by
  cases TenantsState.tenants_stepped h with
  | requested authorization phase unconfirmed token =>
    refine ⟨fun k header t hk => ?_, fun r u before hr => ?_⟩
    · rcases Arena.get?_alloc_eq_some.mp hk with ⟨-, he⟩ | hk
      · obtain ⟨rfl, rfl⟩ := TenantRequest.mk.inj he
        exact token t rfl
      · exact hi.tokens k header t hk
    · obtain ⟨k, header, t, info, hk, ht, hacts, haud, hsub⟩ := hi.tasks r u before hr
      exact ⟨k, header, t, info, Arena.get?_alloc_of_some hk, ht, List.mem_append_left _ hacts,
        haud, hsub⟩
  | @refused k reply e authorization token found =>
    refine ⟨fun o header t ho => ?_, fun r u before hr => ?_⟩
    · rcases Arena.get?_modify_eq_some.mp ho with ⟨-, request, -, he⟩ | ⟨-, ho⟩
      · cases (TenantRequest.mk.inj he).2
      · exact hi.tokens o header t ho
    · obtain ⟨o, header, t, info, ho, ht, hacts, haud, hsub⟩ := hi.tasks r u before hr
      have hne : o ≠ k := fun hok => by
        rw [hok, found] at ho
        cases ho
      exact ⟨o, header, t, info, (Arena.get?_modify_ne hne).trans ho, ht,
        List.mem_append_left _ hacts, haud, hsub⟩
  | @confirmed k info authorization token found audience =>
    refine ⟨fun o header t ho => ?_, fun r u before hr => ?_⟩
    · rcases Arena.get?_modify_eq_some.mp ho with ⟨-, request, -, he⟩ | ⟨-, ho⟩
      · cases (TenantRequest.mk.inj he).2
      · exact hi.tokens o header t ho
    · rcases Arena.get?_alloc_eq_some.mp hr with ⟨rfl, he⟩ | hr
      · obtain ⟨rfl, -⟩ := TenantTask.mk.inj he
        exact ⟨k, authorization, token, info, Arena.get?_modify_self found,
          hi.tokens k authorization token found,
          List.mem_append_right _ (List.mem_singleton.mpr rfl), audience, rfl⟩
      · obtain ⟨o, header, t, info', ho, ht, hacts, haud, hsub⟩ := hi.tasks r u before hr
        have hne : o ≠ k := fun hok => by
          rw [hok, found] at ho
          cases ho
        exact ⟨o, header, t, info', (Arena.get?_modify_ne hne).trans ho, ht,
          List.mem_append_left _ hacts, haud, hsub⟩
  | @auth a auth allowed result =>
    refine ⟨hi.tokens, fun r u phase hr => ?_⟩
    have hnot : ∀ v, a ≠ .generateTenant v := by
      rintro v rfl
      cases allowed
    obtain ⟨before, hb⟩ := tenant_before result hnot hr
    obtain ⟨k, header, t, info, hk, ht, hacts, haud, hsub⟩ := hi.tasks r u before hb
    exact ⟨k, header, t, info, hk, ht, List.mem_append_left _ hacts, haud, hsub⟩

end Tenants

/-! ## Runs -/

section Runs

variable {codec : Codec} {clientId : Option String} {tenantKeys : List (String × String)}
  {now : Nat} {acts : List TenantsAction} {s t : TenantsState} {googleSub : String}

theorem budget_run {base first : Nat}
    (h : (tenantsSystem codec clientId tenantKeys now).Run s acts t) (hd : Drawn s.auth)
    (hi : Budget googleSub base first 0 s.auth) :
    Drawn t.auth ∧ Budget googleSub base first
      (((tenantsSystem codec clientId tenantKeys now).collect TenantsState.passed s acts).count
        googleSub) t.auth := by
  refine h.invariant_collect (I := fun hist s => Drawn s.auth ∧
    Budget googleSub base first (hist.count googleSub) s.auth) ?_ [] ?_
  · intro hist s act s' hs hi
    rw [List.count_append]
    exact Budget.tenants hi hs
  · exact ⟨hd, hi⟩

/-- Each insert is paid for by a call that has passed, in the stretch or before it. -/
theorem inserted_le_passed (googleSub : String)
    (h : (tenantsSystem codec clientId tenantKeys now).Run s acts t) :
    ((tenantsSystem codec clientId tenantKeys now).collect TenantsState.inserted s acts).countP
        (·.googleSub = googleSub) + t.auth.accepted googleSub ≤
      s.auth.accepted googleSub +
        ((tenantsSystem codec clientId tenantKeys now).collect TenantsState.passed s acts).count
          googleSub := by
  induction h with
  | nil s => exact Nat.le_of_eq (Nat.add_comm _ _)
  | @cons s s' t act acts hs hr ih =>
    have hstep : (s.inserted act).countP (·.googleSub = googleSub) + s'.auth.accepted googleSub ≤
        s.auth.accepted googleSub + (s.passed act).count googleSub := by
      rcases auth_step hs with ⟨he, hp, hins⟩ | ⟨a, ha, hp, hins⟩
      · rw [he, hp, hins]
        exact Nat.le_of_eq (Nat.add_comm _ _)
      · rw [hp, hins]
        exact accepted_step ha
    rw [Machine.collect_cons hs, Machine.collect_cons hs, List.countP_append, List.count_append]
    omega

theorem inserts_run (h : (tenantsSystem codec clientId tenantKeys now).Run
    (.start tenantKeys now) acts t) : Inserts tenantKeys
      ((tenantsSystem codec clientId tenantKeys now).collect TenantsState.inserted
        (.start tenantKeys now) acts) t.auth := by
  refine h.invariant_collect (I := fun hist s => Inserts tenantKeys hist s.auth) ?_ [] ?_
  · intro hist s act s' hs hi
    rcases auth_step hs with ⟨he, -, hins⟩ | ⟨a, ha, -, hins⟩
    · rw [he, hins, List.append_nil]
      exact hi
    · rw [hins]
      exact hi.step ha
  · exact ⟨(List.append_nil _).symm, List.nodup_nil, nofun, nofun⟩

theorem confirmed_run (h : (tenantsSystem codec clientId tenantKeys now).Run
    (.start tenantKeys now) acts t) : Confirmed clientId acts t := by
  have hrun := h.invariant_collect (f := fun _ a => [a])
    (I := fun acts s => Confirmed clientId acts s) (fun acts s act s' hs hi => hi.step hs) []
    ⟨nofun, nofun⟩
  rw [List.nil_append, h.collect_labels, List.flatMap_singleton'] at hrun
  exact hrun

/-- The keys that a run has handed out. -/
structure KeysAccounted (clientId : Option String) (tenantKeys : List (String × String)) (now : Nat)
    (acts : List TenantsAction) (inserts : List Insert) (t : TenantsState) : Prop where
  table : Inserts tenantKeys inserts t.auth
  /-- Google has been asked about the header of the request, and has named the user. -/
  vouched : ∀ x ∈ inserts, t.Vouched clientId acts x.task x.googleSub
  /-- Three for the life of the counter that is there, and three for each window since the start. -/
  quota : ∀ googleSub, inserts.countP (·.googleSub = googleSub) ≤
    3 * (1 + (t.auth.now - now) / windowMillis)

/-- Each key stands in the table, and belongs to a request that Google has vouched for; and no user
gets more keys, or past the rate limit more often, than the time that has gone by allows. The run
starts with an empty Redis, so every counter in it is one that the run has begun. -/
theorem keys_accounted {acts' : List TenantsAction}
    (h : (tenantsSystem codec clientId tenantKeys now).Run (.start tenantKeys now) acts s)
    (h' : (tenantsSystem codec clientId tenantKeys now).Run s acts' t) :
    KeysAccounted clientId tenantKeys now (acts ++ acts')
        ((tenantsSystem codec clientId tenantKeys now).collect TenantsState.inserted
          (.start tenantKeys now) (acts ++ acts')) t ∧
      ∀ googleSub, ((tenantsSystem codec clientId tenantKeys now).collect TenantsState.passed s
        acts').count googleSub ≤ 3 * (2 + (t.auth.now - s.auth.now) / windowMillis) := by
  have hall := h.append h'
  refine ⟨⟨inserts_run hall, fun x hx => ?_, fun u => ?_⟩, fun u => ?_⟩
  · obtain ⟨result, hr, -⟩ := (inserts_run hall).answered x hx
    exact (confirmed_run hall).tasks _ _ _ hr
  · have hspent := (budget_run hall (.start tenantKeys now) (.start u tenantKeys now)).2.spent_le
    have hle := inserted_le_passed u hall
    have hstart : AuthState.accepted (TenantsState.start tenantKeys now).auth u = 0 := rfl
    rw [Nat.zero_add] at hspent
    omega
  · obtain ⟨hd, hi⟩ := budget_run h (.start tenantKeys now) (.start u tenantKeys now)
    exact (budget_run h' hd hi.reopen).2.spent_le

/-- `Bearer id` -/
def aliceHeader : List UInt8 := [66, 101, 97, 114, 101, 114, 32, 105, 100]

/-- Her token is looked at by Google. -/
def aliceVerifying : TenantsState :=
  ⟨.start [] 0, ⟨[⟨some aliceHeader, .verifying "id"⟩]⟩⟩

def aliceKey : List TenantsAction :=
  [.tokenInfo 0 (.answered ⟨"alice", "alice@mail", "client"⟩), .auth (.incr 0 none),
    .auth (.expire 0 none), .auth (.insertKeypair 0 "segment" "nanoid" none)]

theorem keys_accounted_alice :
    ∃ t, (tenantsSystem jsonCodec (some "client") [] 0).Run (.start [] 0)
        [.request (some aliceHeader)] aliceVerifying ∧
      (tenantsSystem jsonCodec (some "client") [] 0).exec aliceVerifying aliceKey = some t ∧
      t.auth.tenantKeys = [("peroxo_pj_nanoid", "peroxo_segment")] ∧
      (tenantsSystem jsonCodec (some "client") [] 0).collect TenantsState.passed aliceVerifying
        aliceKey = ["alice"] ∧
      ∃ inserts, KeysAccounted (some "client") [] 0 ([.request (some aliceHeader)] ++ aliceKey)
        inserts t := by
  have hstart : (tenantsSystem jsonCodec (some "client") [] 0).Run (.start [] 0)
      [.request (some aliceHeader)] aliceVerifying := by
    refine .cons ?_ (.nil _)
    have htoken : idToken (some aliceHeader) = .ok "id" := by
      simp [idToken, headerToStr, bearer, aliceHeader]
    simp only [tenantsSystem, TenantsState.step, TenantsState.request, htoken]
    rfl
  obtain ⟨t, ht, hkeys⟩ := Option.map_eq_some_iff.mp
    (show ((tenantsSystem jsonCodec (some "client") [] 0).exec aliceVerifying aliceKey).map
      (·.auth.tenantKeys) = some [("peroxo_pj_nanoid", "peroxo_segment")] from rfl)
  exact ⟨t, hstart, ht, hkeys, rfl, _, (keys_accounted hstart (Machine.run_of_exec ht)).1⟩

end Runs

end PerOxo.AuthService
