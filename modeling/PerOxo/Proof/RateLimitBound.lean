import PerOxo.AuthService.RateLimiter
import PerOxo.Lib.Lists

/-!
# The bound of the rate limit

The commands on the counter of a user fall into the lives of the key: a life begins with the `INCR`
that finds no key, and all commands up to the next such `INCR` belong to it. In each life the calls
are counted from 1 on, so the first three are never told `Exceeded` and all later ones are; and the
one `EXPIRE` that a life gets comes from the call that began it.
-/

set_option autoImplicit false

namespace PerOxo.AuthService

/-! ## Lives -/

/-- An `INCR`: the call, and whether the count has reached it. -/
structure Increment where
  call : Nat
  replied : Bool
  deriving DecidableEq

/-- A life of a counter: its increments, and the calls it has got an `EXPIRE` from. -/
structure Life where
  increments : List Increment
  expires : List Nat
  deriving DecidableEq

/-- One command more. An `INCR` that has found no key begins a life; every other command belongs to
the latest one. -/
def Life.add (lives : List Life) (c : Command) : List Life :=
  match c.kind, lives with
  | .incr true replied, lives => ⟨[⟨c.call, replied⟩], []⟩ :: lives
  | .incr false replied, life :: lives =>
      { life with increments := life.increments ++ [⟨c.call, replied⟩] } :: lives
  | .incr false replied, [] => [⟨[⟨c.call, replied⟩], []⟩]
  | .expire, life :: lives => { life with expires := life.expires ++ [c.call] } :: lives
  | .expire, [] => [⟨[], [c.call]⟩]

/-- The lives of the counter of a user, the latest one first. -/
def lives (googleSub : String) (commands : List Command) : List Life :=
  (commands.filter (·.googleSub = googleSub)).foldl Life.add []

theorem lives_snoc (googleSub : String) (commands : List Command) (c : Command) :
    lives googleSub (commands ++ [c]) =
      if c.googleSub = googleSub then Life.add (lives googleSub commands) c
      else lives googleSub commands := by
  unfold lives
  rw [List.filter_append]
  by_cases hc : c.googleSub = googleSub
  · simp [hc]
  · simp [hc]

/-- What has been counted stays where it is. -/
theorem Life.mem_add {life : Life} {lives : List Life} (h : life ∈ lives) (c : Command) :
    ∃ life' ∈ Life.add lives c, life.increments <+: life'.increments := by
  obtain ⟨googleSub, call, kind⟩ := c
  cases kind with
  | incr created replied =>
    cases created with
    | true => exact ⟨life, List.mem_cons_of_mem _ h, List.prefix_refl _⟩
    | false =>
      cases lives with
      | nil => cases h
      | cons l rest =>
        rcases List.mem_cons.mp h with rfl | h
        · exact ⟨_, List.mem_cons_self, List.prefix_append _ _⟩
        · exact ⟨life, List.mem_cons_of_mem _ h, List.prefix_refl _⟩
  | expire =>
    cases lives with
    | nil => cases h
    | cons l rest =>
      rcases List.mem_cons.mp h with rfl | h
      · exact ⟨_, List.mem_cons_self, List.prefix_refl _⟩
      · exact ⟨life, List.mem_cons_of_mem _ h, List.prefix_refl _⟩

/-! ## What holds in every state -/

/-- How far a call can have come whose increment is the `n`-th of its life. -/
inductive Came (n : Int) (replied : Bool) : CallPhase → Prop
  | counted (reply : replied = true) : Came n replied (.counted n)
  | windowSet (reply : replied = true) (first : n = 1) : Came n replied (.windowSet n)
  | tested (reply : replied = true) : Came n replied (.returned (checkCount n))
  /-- The reply of the `INCR` is lost, or the `EXPIRE` of the first call fails. -/
  | failed (e : String) (cause : replied = false ∨ n = 1) :
      Came n replied (.returned (.error (.redisError e)))
  | stopped : Came n replied .stopped

/-- The call is told that there are too many, or will be. -/
def CallPhase.OverLimit : CallPhase → Prop
  | .counted count => maxRequests < count
  | .windowSet count => maxRequests < count
  | .returned (.error .exceeded) => True
  | _ => False

/-- A life is made by calls of the user. -/
structure LifeOk (googleSub : String) (s : LimiterState) (life : Life) : Prop where
  /-- The place of an increment in its life is what the call has been told, or would have been. -/
  increments : ∀ (i : Nat) (x : Increment), life.increments[i]? = some x → ∃ phase,
    s.calls.get? x.call = some ⟨googleSub, phase⟩ ∧ Came (i + 1) x.replied phase
  /-- One `EXPIRE` at most, by the call that has begun the life. -/
  expires : life.expires = [] ∨
    ∃ x, life.increments.head? = some x ∧ life.expires = [x.call]

/-- The counter, its lives and the calls of the user agree. -/
structure Counter (googleSub : String) (s : LimiterState) : Prop where
  lives : ∀ life ∈ lives googleSub s.commands, LifeOk googleSub s life
  /-- The key holds the number of increments of the latest life, and no deadline before the
  `EXPIRE`. -/
  current : ∀ e, s.redis.entries (rateLimitKey googleSub) = some e → ∃ life rest,
    AuthService.lives googleSub s.commands = life :: rest ∧ life.increments ≠ [] ∧
      e.value = .integer life.increments.length ∧ (e.deadline = none ↔ life.expires = [])
  /-- An `EXPIRE` that is still to come will hit the life that its call has begun. -/
  pending : ∀ r, s.calls.get? r = some ⟨googleSub, .counted 1⟩ → ∃ e life rest x,
    s.redis.entries (rateLimitKey googleSub) = some e ∧ e.deadline = none ∧
      AuthService.lives googleSub s.commands = life :: rest ∧
      life.increments.head? = some x ∧ x.call = r
  /-- Who is told that there are too many has counted more than the first three of some life; this
  may be over by then. -/
  placed : ∀ r phase, s.calls.get? r = some ⟨googleSub, phase⟩ → phase.OverLimit →
    ∃ life ∈ AuthService.lives googleSub s.commands, ∃ (i : Nat) (x : Increment),
      life.increments[i]? = some x ∧ x.call = r ∧ maxRequests ≤ i

/-! ## One step -/

section Step

variable {googleSub : String} {s s' : LimiterState} {act : LimiterAction}

/-- No call of the user falls back. -/
def Advances (googleSub : String) (s s' : LimiterState) : Prop :=
  ∀ r phase, s.calls.get? r = some ⟨googleSub, phase⟩ → ∃ phase',
    s'.calls.get? r = some ⟨googleSub, phase'⟩ ∧ ∀ n replied, Came n replied phase →
      Came n replied phase'

theorem LifeOk.mono {life : Life} (h : LifeOk googleSub s life) (ha : Advances googleSub s s') :
    LifeOk googleSub s' life := by
  refine ⟨fun i x hx => ?_, h.expires⟩
  obtain ⟨phase, hr, hc⟩ := h.increments i x hx
  obtain ⟨phase', hr', hc'⟩ := ha _ _ hr
  exact ⟨phase', hr', hc' _ _ hc⟩

/-- A step of one call. -/
theorem advances_setPhase {r : Nat} {call : RateLimitCall} {phase : CallPhase}
    (hr : s.calls.get? r = some call)
    (hc : call.googleSub = googleSub → ∀ n replied, Came n replied call.phase →
      Came n replied phase) : Advances googleSub s (s.setPhase r phase) := by
  intro o before ho
  by_cases hor : o = r
  · subst hor
    obtain rfl := Option.some.inj (hr.symm.trans ho)
    exact ⟨phase, Arena.get?_modify_self hr, hc rfl⟩
  · exact ⟨before, (Arena.get?_modify_ne hor).trans ho, fun _ _ h => h⟩

theorem get?_setPhase {r o : Nat} {phase after : CallPhase}
    (h : (s.setPhase r phase).calls.get? o = some ⟨googleSub, after⟩) :
    (o = r ∧ after = phase ∧ ∃ before, s.calls.get? r = some ⟨googleSub, before⟩) ∨
      (o ≠ r ∧ s.calls.get? o = some ⟨googleSub, after⟩) := by
  rcases Arena.get?_modify_eq_some.mp h with ⟨rfl, ⟨u, before⟩, hr, he⟩ | ⟨hor, ho⟩
  · obtain ⟨rfl, rfl⟩ := RateLimitCall.mk.inj he
    exact .inl ⟨rfl, rfl, before, hr⟩
  · exact .inr ⟨hor, ho⟩

/-- A step that does nothing to the counter. -/
theorem Counter.frame (hi : Counter googleSub s)
    (hentries : s'.redis.entries (rateLimitKey googleSub) =
      s.redis.entries (rateLimitKey googleSub))
    (hlives : AuthService.lives googleSub s'.commands = AuthService.lives googleSub s.commands)
    (ha : Advances googleSub s s')
    (hcalls : ∀ r phase, s'.calls.get? r = some ⟨googleSub, phase⟩ →
      phase = .counted 1 ∨ phase.OverLimit → ∃ before,
        s.calls.get? r = some ⟨googleSub, before⟩ ∧ (phase = .counted 1 → before = .counted 1) ∧
          (phase.OverLimit → before.OverLimit)) : Counter googleSub s' where
  lives life hl := (hi.lives life (hlives ▸ hl)).mono ha
  current e he := hlives ▸ hi.current e (hentries ▸ he)
  pending r hr := by
    obtain ⟨before, hb, hone, -⟩ := hcalls r _ hr (.inl rfl)
    rw [hentries, hlives]
    exact hi.pending r (hone rfl ▸ hb)
  placed r phase hr ho := by
    obtain ⟨before, hb, -, hover⟩ := hcalls r _ hr (.inr ho)
    rw [hlives]
    exact hi.placed r before hb (hover ho)

/-- One call goes on, and the counter stays as it is. -/
theorem Counter.moved (hi : Counter googleSub s) {t : LimiterState} (hcalls : t.calls = s.calls)
    (hentries : t.redis.entries (rateLimitKey googleSub) = s.redis.entries (rateLimitKey googleSub))
    (hlives : AuthService.lives googleSub t.commands = AuthService.lives googleSub s.commands)
    {r : Nat} {call : RateLimitCall} {phase : CallPhase} (hr : s.calls.get? r = some call)
    (hc : call.googleSub = googleSub →
      (∀ n replied, Came n replied call.phase → Came n replied phase) ∧
        phase ≠ .counted 1 ∧ (phase.OverLimit → call.phase.OverLimit)) :
    Counter googleSub (t.setPhase r phase) := by
  have ht : t.calls.get? r = some call := hcalls.symm ▸ hr
  have ha : Advances googleSub s (t.setPhase r phase) := fun o before ho =>
    advances_setPhase ht (fun hu => (hc hu).1) o before (hcalls.symm ▸ ho)
  refine hi.frame hentries hlives ha fun o after ho hover => ?_
  rcases get?_setPhase ho with ⟨rfl, rfl, before, hb⟩ | ⟨-, ho⟩
  · obtain rfl := Option.some.inj (ht.symm.trans hb)
    obtain ⟨-, hne, hlimit⟩ := hc rfl
    exact ⟨before, hr, fun h => absurd h hne, hlimit⟩
  · exact ⟨after, hcalls ▸ ho, id, id⟩

theorem came_onReply {n : Int} {next : CallPhase} (fault : Option Fault)
    (h : fault = none → Came n true next) : Came n fault.isNone (next.onReply fault) := by
  cases fault with
  | none => exact h rfl
  | some f => exact .failed _ (.inl rfl)

/-- The `INCR` that begins a life. -/
theorem Counter.created (hi : Counter googleSub s) {r : Nat} {fault : Option Fault}
    (found : s.calls.get? r = some ⟨googleSub, .received⟩)
    (hl : s.redis.lookup s.now (rateLimitKey googleSub) = none) :
    Counter googleSub ((s.carryOut (s.redis.put (rateLimitKey googleSub) ⟨.integer 1, none⟩)
      ⟨googleSub, r, .incr true fault.isNone⟩).setPhase r (.onReply (.counted 1) fault)) := by
  set t := s.carryOut (s.redis.put (rateLimitKey googleSub) ⟨.integer 1, none⟩)
    ⟨googleSub, r, .incr true fault.isNone⟩
  have hlives : AuthService.lives googleSub (t.setPhase r (.onReply (.counted 1) fault)).commands =
      ⟨[⟨r, fault.isNone⟩], []⟩ :: AuthService.lives googleSub s.commands :=
    (lives_snoc ..).trans (if_pos rfl)
  have ha : Advances googleSub s (t.setPhase r (.onReply (.counted 1) fault)) :=
    advances_setPhase (s := t) found fun _ n replied hc => nomatch hc
  have hself : (t.setPhase r (.onReply (.counted 1) fault)).calls.get? r =
      some ⟨googleSub, .onReply (.counted 1) fault⟩ := Arena.get?_modify_self found
  have hentry : (t.setPhase r (.onReply (.counted 1) fault)).redis.entries (rateLimitKey googleSub) =
      some ⟨.integer 1, none⟩ := Expiring.entries_put_self
  refine ⟨fun life hlife => ?_, fun e he => ?_, fun o ho => ?_, fun o phase ho hover => ?_⟩
  · rw [hlives] at hlife
    rcases List.mem_cons.mp hlife with rfl | hlife
    · refine ⟨fun i x hx => ?_, .inl rfl⟩
      obtain ⟨rfl, rfl⟩ : i = 0 ∧ x = ⟨r, fault.isNone⟩ := by
        cases i with
        | zero => exact ⟨rfl, (Option.some.inj hx).symm⟩
        | succ i => cases hx
      exact ⟨_, hself, came_onReply fault fun _ => .counted rfl⟩
    · exact (hi.lives life hlife).mono ha
  · obtain rfl := Option.some.inj (hentry.symm.trans he)
    exact ⟨_, _, hlives, by simp, rfl, iff_of_true rfl rfl⟩
  · rcases get?_setPhase ho with ⟨rfl, -, -⟩ | ⟨hor, ho⟩
    · exact ⟨_, _, _, _, hentry, rfl, hlives, rfl, rfl⟩
    · obtain ⟨e, -, -, -, he, hd, -⟩ := hi.pending o ho
      cases hl.symm.trans (Expiring.lookup_of_no_deadline he hd)
  · rcases get?_setPhase ho with ⟨rfl, rfl, -⟩ | ⟨hor, ho⟩
    · cases fault with
      | none => exact absurd hover (show ¬ maxRequests < 1 by decide)
      | some f => exact hover.elim
    · obtain ⟨life, hlife, hplace⟩ := hi.placed o phase ho hover
      exact ⟨life, hlives ▸ List.mem_cons_of_mem _ hlife, hplace⟩

/-- A later `INCR` of the same life. -/
theorem Counter.counted (hi : Counter googleSub s) {r : Nat} {fault : Option Fault} {count : Int}
    {redis : Redis} {e : Expiring.Entry Value}
    (found : s.calls.get? r = some ⟨googleSub, .received⟩)
    (hl : s.redis.lookup s.now (rateLimitKey googleSub) = some e)
    (result : s.redis.incr s.now (rateLimitKey googleSub) = .ok (count, redis)) :
    Counter googleSub ((s.carryOut redis ⟨googleSub, r, .incr false fault.isNone⟩).setPhase r
      (.onReply (.counted count) fault)) := by
  have he := (Expiring.lookup_eq_some.mp hl).1
  obtain ⟨life, rest, hlife, hne, hvalue, hdeadline⟩ := hi.current e he
  obtain ⟨v, d⟩ := e
  obtain rfl : v = .integer life.increments.length := hvalue
  obtain ⟨rfl, rfl⟩ := Redis.incr_of_integer hl result
  set t := s.carryOut (s.redis.put (rateLimitKey googleSub)
    ⟨.integer (life.increments.length + 1), d⟩) ⟨googleSub, r, .incr false fault.isNone⟩
  set phase := CallPhase.onReply (.counted (life.increments.length + 1)) fault with hphase
  have hlen : 0 < life.increments.length := List.length_pos_iff.mpr hne
  have hlives : AuthService.lives googleSub (t.setPhase r phase).commands =
      { life with increments := life.increments ++ [⟨r, fault.isNone⟩] } :: rest := by
    refine (lives_snoc ..).trans ((if_pos rfl).trans ?_)
    rw [hlife]
    rfl
  have ha : Advances googleSub s (t.setPhase r phase) :=
    advances_setPhase (s := t) found fun _ n replied hc => nomatch hc
  have hself : (t.setPhase r phase).calls.get? r = some ⟨googleSub, phase⟩ :=
    Arena.get?_modify_self found
  have hentry : (t.setPhase r phase).redis.entries (rateLimitKey googleSub) =
      some ⟨.integer (life.increments.length + 1), d⟩ := Expiring.entries_put_self
  have hold := hi.lives life (hlife ▸ List.mem_cons_self)
  have hhead : (life.increments ++ [(⟨r, fault.isNone⟩ : Increment)]).head? =
      life.increments.head? := List.head?_append_of_ne_nil _ hne
  refine ⟨fun l hmem => ?_, fun e he => ?_, fun o ho => ?_, fun o after ho hover => ?_⟩
  · rw [hlives] at hmem
    rcases List.mem_cons.mp hmem with rfl | hmem
    · refine ⟨fun i x hx => ?_, ?_⟩
      · rcases List.getElem?_concat_eq_some.mp hx with hx | ⟨rfl, rfl⟩
        · exact (hold.mono ha).increments i x hx
        · exact ⟨_, hself, came_onReply fault fun _ => .counted rfl⟩
      · exact hold.expires.imp_right fun ⟨x, hx, hexp⟩ => ⟨x, hhead.trans hx, hexp⟩
    · exact (hi.lives l (hlife ▸ List.mem_cons_of_mem _ hmem)).mono ha
  · obtain rfl := Option.some.inj (hentry.symm.trans he)
    exact ⟨_, _, hlives, by simp, by simp, hdeadline⟩
  · rcases get?_setPhase ho with ⟨rfl, hone, -⟩ | ⟨hor, ho⟩
    · -- The count is at least 2.
      cases fault with
      | none =>
        have hcount := CallPhase.counted.inj (hone.trans hphase)
        omega
      | some f => cases hone.trans hphase
    · obtain ⟨e, l, rest', x, he', hd, hl', hx, rfl⟩ := hi.pending o ho
      obtain rfl := Option.some.inj (he.symm.trans he')
      obtain ⟨rfl, rfl⟩ := List.cons.inj (hlife.symm.trans hl')
      exact ⟨_, _, _, x, hentry, hd, hlives, hhead.trans hx, rfl⟩
  · rcases get?_setPhase ho with ⟨rfl, rfl, -⟩ | ⟨hor, ho⟩
    · refine ⟨_, hlives ▸ List.mem_cons_self, life.increments.length, ⟨o, fault.isNone⟩, ?_, rfl, ?_⟩
      · simp
      · cases fault with
        | none =>
          have hcount : maxRequests < (life.increments.length : Int) + 1 := hover
          omega
        | some f => exact hover.elim
    · obtain ⟨l, hmem, i, x, hx, hplace⟩ := hi.placed o after ho hover
      have hadd := Life.mem_add hmem ⟨googleSub, r, .incr false fault.isNone⟩
      obtain ⟨l', hmem', hprefix⟩ := hadd
      refine ⟨l', ?_, i, x, List.IsPrefix.getElem?_eq_some hprefix hx, hplace⟩
      rw [hlives]
      rw [hlife] at hmem'
      exact hmem'

/-- The `EXPIRE`: its life is still there, and has got none before. -/
theorem Counter.expired (hi : Counter googleSub s) {r : Nat} {fault : Option Fault}
    (found : s.calls.get? r = some ⟨googleSub, .counted 1⟩) :
    Counter googleSub ((s.carryOut (s.redis.expire s.now (rateLimitKey googleSub) windowSecs).2
      ⟨googleSub, r, .expire⟩).setPhase r (.onReply (.windowSet 1) fault)) := by
  obtain ⟨e, life, rest, x, he, hd, hlife, hx, rfl⟩ := hi.pending r found
  obtain ⟨life', rest', hlife', hne, hvalue, hdeadline⟩ := hi.current e he
  obtain ⟨rfl, rfl⟩ := List.cons.inj (hlife.symm.trans hlife')
  have hexpires : life.expires = [] := hdeadline.mp hd
  have hexpire : (s.redis.expire s.now (rateLimitKey googleSub) windowSecs).2 =
      s.redis.put (rateLimitKey googleSub)
        { e with deadline := some (s.now + windowSecs * 1000) } := by
    rw [Redis.expire, Expiring.lookup_of_no_deadline he hd]
  rw [hexpire]
  set t := s.carryOut (s.redis.put (rateLimitKey googleSub)
    { e with deadline := some (s.now + windowSecs * 1000) }) ⟨googleSub, x.call, .expire⟩
  set phase := CallPhase.onReply (.windowSet 1) fault with hphase
  have hlives : AuthService.lives googleSub (t.setPhase x.call phase).commands =
      { life with expires := [x.call] } :: rest := by
    refine (lives_snoc ..).trans ((if_pos rfl).trans ?_)
    rw [hlife]
    simp only [Life.add, hexpires, List.nil_append]
  have hcame : ∀ n replied, Came n replied (.counted 1) → Came n replied phase := by
    intro n replied hc
    cases hc with
    | counted reply =>
      cases fault with
      | none => exact .windowSet reply rfl
      | some f => exact .failed _ (.inr rfl)
  have ha : Advances googleSub s (t.setPhase x.call phase) :=
    advances_setPhase (s := t) found fun _ => hcame
  have hentry : (t.setPhase x.call phase).redis.entries (rateLimitKey googleSub) =
      some { e with deadline := some (s.now + windowSecs * 1000) } := Expiring.entries_put_self
  refine ⟨fun l hmem => ?_, fun e' he' => ?_, fun o ho => ?_, fun o after ho hover => ?_⟩
  · rw [hlives] at hmem
    rcases List.mem_cons.mp hmem with rfl | hmem
    · have hold := (hi.lives life (hlife ▸ List.mem_cons_self)).mono ha
      exact ⟨hold.increments, .inr ⟨x, hx, rfl⟩⟩
    · exact (hi.lives l (hlife ▸ List.mem_cons_of_mem _ hmem)).mono ha
  · obtain rfl := Option.some.inj (hentry.symm.trans he')
    exact ⟨_, _, hlives, hne, hvalue,
      iff_of_false (Option.some_ne_none _) (List.cons_ne_nil _ _)⟩
  · rcases get?_setPhase ho with ⟨-, hone, -⟩ | ⟨hor, ho⟩
    · cases fault <;> cases hone.trans hphase
    · -- Only one call has begun the life.
      obtain ⟨-, l, rest', x', -, -, hl, hx', rfl⟩ := hi.pending o ho
      obtain ⟨rfl, rfl⟩ := List.cons.inj (hlife.symm.trans hl)
      obtain rfl := Option.some.inj (hx.symm.trans hx')
      exact absurd rfl hor
  · rcases get?_setPhase ho with ⟨rfl, rfl, -⟩ | ⟨hor, ho⟩
    · cases fault with
      | none => exact absurd hover (show ¬ maxRequests < 1 by decide)
      | some f => exact hover.elim
    · obtain ⟨l, hmem, hplace⟩ := hi.placed o after ho hover
      rw [hlife] at hmem
      rw [hlives]
      rcases List.mem_cons.mp hmem with rfl | hmem
      · exact ⟨_, List.mem_cons_self, hplace⟩
      · exact ⟨l, List.mem_cons_of_mem _ hmem, hplace⟩

theorem lives_carryOut {u : String} (hu : u ≠ googleSub) (redis : Redis) (r : Nat)
    (kind : CommandKind) : AuthService.lives googleSub (s.carryOut redis ⟨u, r, kind⟩).commands =
      AuthService.lives googleSub s.commands :=
  (lives_snoc ..).trans (if_neg hu)

/-- Only the count itself may exceed the limit. -/
theorem overLimit_checkCount {count : Int}
    (h : (CallPhase.returned (checkCount count)).OverLimit) : maxRequests < count := by
  unfold checkCount at h
  split at h
  · next hc => exact hc
  · exact h.elim

theorem Counter.step (hi : Counter googleSub s) (h : s.step act = some s') :
    Counter googleSub s' := by
  have hsame : Advances googleSub s s := fun r phase hr => ⟨phase, hr, fun _ _ h => h⟩
  cases LimiterState.stepped h with
  | ticked le => exact hi.frame rfl rfl hsame fun r phase hr _ => ⟨phase, hr, id, id⟩
  | arrived u =>
    refine hi.frame rfl rfl (fun r phase hr => ⟨phase, Arena.get?_alloc_of_some hr, fun _ _ h => h⟩)
      fun r phase hr hp => ?_
    rcases Arena.get?_alloc_eq_some.mp hr with ⟨-, he⟩ | hr
    · obtain rfl := (RateLimitCall.mk.inj he).2
      rcases hp with hp | hp <;> cases hp
    · exact ⟨phase, hr, id, id⟩
  | refused found =>
    exact hi.moved rfl rfl rfl found fun _ => ⟨fun _ _ hc => (nomatch hc), nofun, False.elim⟩
  | notCounted found sent result =>
    exact hi.moved rfl rfl rfl found fun _ => ⟨fun _ _ hc => (nomatch hc), nofun, False.elim⟩
  | @counted r fault u count redis found sent result =>
    by_cases hu : u = googleSub
    · subst hu
      cases hl : s.redis.lookup s.now (rateLimitKey u) with
      | none =>
        rw [Redis.incr_of_none hl] at result
        obtain ⟨rfl, rfl⟩ := Prod.mk.inj (Except.ok.inj result)
        exact hi.created found hl
      | some e => exact hi.counted found hl result
    · exact hi.moved (t := s.carryOut redis _) rfl (Redis.entries_incr_ne (rateLimitKey_ne hu) result)
        (lives_carryOut hu _ _ _) found fun he => absurd he hu
  | windowRefused found =>
    refine hi.moved rfl rfl rfl found fun _ => ⟨fun n replied hc => ?_, nofun, False.elim⟩
    cases hc with
    | counted reply => exact .failed _ (.inr rfl)
  | @expired r fault u found sent =>
    by_cases hu : u = googleSub
    · subst hu
      exact hi.expired found
    · exact hi.moved (t := s.carryOut _ _) rfl (Redis.entries_expire_ne (rateLimitKey_ne hu))
        (lives_carryOut hu _ _ _) found fun he => absurd he hu
  | @tested r u count found =>
    rcases found with found | ⟨found, -⟩
    · refine hi.moved rfl rfl rfl found fun _ => ⟨fun n replied hc => ?_, nofun, overLimit_checkCount⟩
      cases hc with
      | windowSet reply first => exact .tested reply
    · refine hi.moved rfl rfl rfl found fun _ => ⟨fun n replied hc => ?_, nofun, overLimit_checkCount⟩
      cases hc with
      | counted reply => exact .tested reply
  | stopped found running =>
    exact hi.moved rfl rfl rfl found fun _ => ⟨fun _ _ _ => .stopped, nofun, False.elim⟩
  | written other =>
    exact hi.frame (Expiring.entries_put_ne (other googleSub).symm) rfl hsame
      fun r phase hr _ => ⟨phase, hr, id, id⟩

theorem Counter.start (googleSub : String) (now : Nat) : Counter googleSub (.start now) where
  lives _ hl := nomatch hl
  current _ he := nomatch he
  pending _ hr := nomatch hr
  placed _ _ hr := nomatch hr

/-- A deadline is not moved as long as the key is there. -/
theorem Counter.deadline_kept (hi : Counter googleSub s) (h : s.step act = some s')
    {e : Expiring.Entry Value} {d : Nat}
    (hl : s.redis.lookup s.now (rateLimitKey googleSub) = some e) (hd : e.deadline = some d) :
    ∃ e', s'.redis.entries (rateLimitKey googleSub) = some e' ∧ e'.deadline = some d := by
  have he := (Expiring.lookup_eq_some.mp hl).1
  cases LimiterState.stepped h with
  | @counted r fault u count redis found sent result =>
    by_cases hu : u = googleSub
    · subst hu
      obtain ⟨v, rfl⟩ := Redis.incr_of_some hl result
      exact ⟨_, Expiring.entries_put_self, hd⟩
    · exact ⟨e, (Redis.entries_incr_ne (rateLimitKey_ne hu) result).trans he, hd⟩
  | @expired r fault u found sent =>
    by_cases hu : u = googleSub
    · subst hu
      obtain ⟨e', -, -, -, he', hnone, -⟩ := hi.pending r found
      obtain rfl := Option.some.inj (he.symm.trans he')
      cases hd.symm.trans hnone
    · exact ⟨e, (Redis.entries_expire_ne (rateLimitKey_ne hu)).trans he, hd⟩
  | written other => exact ⟨e, (Expiring.entries_put_ne (other googleSub).symm).trans he, hd⟩
  | _ => exact ⟨e, he, hd⟩

end Step

/-! ## Other users -/

/-- Time passes, a call arrives, or a call for the user goes on. -/
def LimiterState.Concerns (googleSub : String) (s : LimiterState) : LimiterAction → Bool
  | .tick _ => true
  | .call _ => true
  | .write .. => false
  | .incr r _ => (s.calls.get? r).any (·.googleSub = googleSub)
  | .expire r _ => (s.calls.get? r).any (·.googleSub = googleSub)
  | .test r => (s.calls.get? r).any (·.googleSub = googleSub)
  | .stop r => (s.calls.get? r).any (·.googleSub = googleSub)

/-- The action, unless it is of a call for another user or of somebody else altogether. -/
def LimiterState.own (googleSub : String) (s : LimiterState) (act : LimiterAction) :
    List LimiterAction :=
  if s.Concerns googleSub act then [act] else []

/-- The user cannot tell the one state from the other. -/
structure SameFor (googleSub : String) (s w : LimiterState) : Prop where
  now : w.now = s.now
  entries : w.redis.entries (rateLimitKey googleSub) = s.redis.entries (rateLimitKey googleSub)
  next : w.calls.next = s.calls.next
  calls : ∀ r phase, w.calls.get? r = some ⟨googleSub, phase⟩ ↔
    s.calls.get? r = some ⟨googleSub, phase⟩

section SameFor

variable {googleSub : String} {s s' w : LimiterState} {act : LimiterAction}

theorem SameFor.refl (s : LimiterState) : SameFor googleSub s s :=
  ⟨rfl, rfl, rfl, fun _ _ => Iff.rfl⟩

theorem SameFor.concerns (h : SameFor googleSub s w) {r : Nat} {call : RateLimitCall}
    (hr : s.calls.get? r = some call) (hc : (s.calls.get? r).any (·.googleSub = googleSub)) :
    call.googleSub = googleSub ∧ w.calls.get? r = some call := by
  obtain ⟨u, phase⟩ := call
  rw [hr] at hc
  obtain rfl : u = googleSub := of_decide_eq_true hc
  exact ⟨rfl, (h.calls r phase).mpr hr⟩

/-- A call for the user goes on in both. -/
theorem SameFor.both (h : SameFor googleSub s w) {t v : LimiterState} (ht : t.calls = s.calls)
    (hv : v.calls = w.calls) (hnow : v.now = t.now)
    (hentries : v.redis.entries (rateLimitKey googleSub) =
      t.redis.entries (rateLimitKey googleSub)) {r : Nat} {before : CallPhase}
    (hr : s.calls.get? r = some ⟨googleSub, before⟩) (phase : CallPhase) :
    SameFor googleSub (t.setPhase r phase) (v.setPhase r phase) := by
  have hwr := (h.calls r before).mpr hr
  refine ⟨hnow, hentries, ?_, fun o after => ?_⟩
  · show (v.calls.modify r _).next = (t.calls.modify r _).next
    rw [Arena.next_modify, Arena.next_modify, ht, hv, h.next]
  · show (v.calls.modify r _).get? o = _ ↔ (t.calls.modify r _).get? o = _
    rw [ht, hv]
    by_cases hor : o = r
    · subst hor
      rw [Arena.get?_modify_self hr, Arena.get?_modify_self hwr]
    · rw [Arena.get?_modify_ne hor, Arena.get?_modify_ne hor]
      exact h.calls o after

/-- A call for another user goes on. -/
theorem SameFor.other (h : SameFor googleSub s w) {t : LimiterState} (ht : t.calls = s.calls)
    (hnow : t.now = s.now)
    (hentries : t.redis.entries (rateLimitKey googleSub) =
      s.redis.entries (rateLimitKey googleSub)) {r : Nat} {call : RateLimitCall}
    (hr : s.calls.get? r = some call)
    (hc : ¬ (s.calls.get? r).any (·.googleSub = googleSub)) (phase : CallPhase) :
    SameFor googleSub (t.setPhase r phase) w := by
  have hne : call.googleSub ≠ googleSub := by
    rw [hr] at hc
    exact fun hu => hc (decide_eq_true hu)
  refine ⟨h.now.trans hnow.symm, h.entries.trans hentries.symm, ?_, fun o after => ?_⟩
  · show w.calls.next = (t.calls.modify r _).next
    rw [Arena.next_modify, ht, h.next]
  · show w.calls.get? o = _ ↔ (t.calls.modify r _).get? o = _
    rw [ht, h.calls]
    by_cases hor : o = r
    · subst hor
      rw [Arena.get?_modify_self hr, hr]
      exact iff_of_false (fun he => hne (RateLimitCall.mk.inj (Option.some.inj he)).1)
        fun he => hne (RateLimitCall.mk.inj (Option.some.inj he)).1
    · rw [Arena.get?_modify_ne hor]

/-- Where the steps of the user's own calls can be taken in the other state too, what becomes of
the two states. -/
theorem SameFor.goesOn (h : SameFor googleSub s w) {now : Nat} {t : LimiterState} {r : Nat}
    {call : RateLimitCall} {phase : CallPhase} (hr : s.calls.get? r = some call)
    (hact : s.Concerns googleSub act = (s.calls.get? r).any (·.googleSub = googleSub))
    (ht : t.calls = s.calls) (hnow : t.now = s.now)
    (hother : call.googleSub ≠ googleSub → t.redis.entries (rateLimitKey googleSub) =
      s.redis.entries (rateLimitKey googleSub))
    (hown : call.googleSub = googleSub → w.calls.get? r = some call → ∃ v : LimiterState,
      w.step act = some (v.setPhase r phase) ∧ v.calls = w.calls ∧ v.now = w.now ∧
        v.redis.entries (rateLimitKey googleSub) = t.redis.entries (rateLimitKey googleSub)) :
    ∃ w', (limiter now).Run w (s.own googleSub act) w' ∧
      SameFor googleSub (t.setPhase r phase) w' := by
  unfold LimiterState.own
  rw [hact]
  split
  · next hc =>
    obtain ⟨hu, hwr⟩ := h.concerns hr hc
    obtain ⟨v, hstep, hv, hvnow, hentries⟩ := hown hu hwr
    obtain ⟨u, before⟩ := call
    obtain rfl : u = googleSub := hu
    exact ⟨_, .cons hstep (.nil _), h.both ht hv (hvnow.trans (h.now.trans hnow.symm)) hentries hr _⟩
  · next hc =>
    refine ⟨w, .nil w, h.other ht hnow (hother ?_) hr hc phase⟩
    rw [hr] at hc
    exact fun hu => hc (decide_eq_true hu)

theorem SameFor.step (h : SameFor googleSub s w) (hs : s.step act = some s') (now : Nat) :
    ∃ w', (limiter now).Run w (s.own googleSub act) w' ∧ SameFor googleSub s' w' := by
  cases LimiterState.stepped hs with
  | @ticked now' le =>
    have hw : w.step (.tick now') = some { w with now := now' } := if_pos (h.now ▸ le)
    exact ⟨_, .cons hw (.nil _), rfl, h.entries, h.next, h.calls⟩
  | arrived u =>
    refine ⟨_, .cons rfl (.nil _), h.now, h.entries, ?_, fun r phase => ?_⟩
    · simp [h.next]
    · show (w.calls.alloc _).get? r = _ ↔ (s.calls.alloc _).get? r = _
      rw [Arena.get?_alloc_eq_some, Arena.get?_alloc_eq_some, h.next, h.calls]
  | @refused r u e found =>
    exact h.goesOn found rfl rfl rfl (fun _ => rfl) fun _ hwr =>
      ⟨w, LimiterState.step_of_stepped (.refused hwr), rfl, rfl, h.entries⟩
  | @notCounted r fault u e found sent result =>
    refine h.goesOn found rfl rfl rfl (fun _ => rfl) fun hu hwr => ?_
    obtain rfl : u = googleSub := hu
    refine ⟨w, LimiterState.step_of_stepped (.notCounted hwr sent ?_), rfl, rfl, h.entries⟩
    rw [h.now]
    exact (Redis.incr_congr (n := 0) h.entries).1 e result
  | @counted r fault u count redis found sent result =>
    refine h.goesOn (t := s.carryOut redis _) found rfl rfl rfl
      (fun hu => Redis.entries_incr_ne (rateLimitKey_ne hu) result) fun hu hwr => ?_
    obtain rfl : u = googleSub := hu
    obtain ⟨q, hq, hentries⟩ := (Redis.incr_congr h.entries).2 redis result
    exact ⟨w.carryOut q _, LimiterState.step_of_stepped (.counted hwr sent (h.now ▸ hq)), rfl, rfl,
      hentries⟩
  | @windowRefused r u e found =>
    exact h.goesOn found rfl rfl rfl (fun _ => rfl) fun _ hwr =>
      ⟨w, LimiterState.step_of_stepped (.windowRefused hwr), rfl, rfl, h.entries⟩
  | @expired r fault u found sent =>
    refine h.goesOn (t := s.carryOut _ _) found rfl rfl rfl
      (fun hu => Redis.entries_expire_ne (rateLimitKey_ne hu)) fun hu hwr => ?_
    obtain rfl : u = googleSub := hu
    refine ⟨w.carryOut _ _, LimiterState.step_of_stepped (.expired hwr sent), rfl, rfl, ?_⟩
    rw [h.now]
    exact Redis.expire_congr h.entries
  | @tested r u count found =>
    rcases found with found | ⟨found, hne⟩
    · exact h.goesOn found rfl rfl rfl (fun _ => rfl) fun _ hwr =>
        ⟨w, LimiterState.step_of_stepped (.tested (.inl hwr)), rfl, rfl, h.entries⟩
    · exact h.goesOn found rfl rfl rfl (fun _ => rfl) fun _ hwr =>
        ⟨w, LimiterState.step_of_stepped (.tested (.inr ⟨hwr, hne⟩)), rfl, rfl, h.entries⟩
  | @stopped r call found running =>
    exact h.goesOn found rfl rfl rfl (fun _ => rfl) fun _ hwr =>
      ⟨w, LimiterState.step_of_stepped (.stopped hwr running), rfl, rfl, h.entries⟩
  | written other =>
    exact ⟨w, .nil w, h.now, h.entries.trans (Expiring.entries_put_ne (other googleSub).symm).symm,
      h.next, h.calls⟩

end SameFor

/-! ## Runs -/

/-- The call is told that there are too many; or it will be, if it does not stop before. -/
def LimiterState.Exceeds (t : LimiterState) (googleSub : String) (r : Nat) : Prop :=
  t.calls.get? r = some ⟨googleSub, .returned (.error .exceeded)⟩ ∨
    t.calls.get? r = some ⟨googleSub, .stopped⟩ ∨
    ∃ t', t.step (.test r) = some t' ∧
      t'.calls.get? r = some ⟨googleSub, .returned (.error .exceeded)⟩

/-- What the rate limit does for a user in a state to which the actions have led. -/
structure RateLimitBound (googleSub : String) (now : Nat) (acts : List LimiterAction)
    (t : LimiterState) : Prop where
  first : ∀ life ∈ lives googleSub t.commands, ∀ (i : Nat) (x : Increment),
    life.increments[i]? = some x → i < maxRequests →
    t.calls.get? x.call ≠ some ⟨googleSub, .returned (.error .exceeded)⟩
  later : ∀ life ∈ lives googleSub t.commands, ∀ (i : Nat) (x : Increment),
    life.increments[i]? = some x → maxRequests ≤ i → x.replied = true →
    t.Exceeds googleSub x.call
  /-- Nobody else is told so. -/
  only : ∀ r, t.calls.get? r = some ⟨googleSub, .returned (.error .exceeded)⟩ →
    ∃ life ∈ lives googleSub t.commands, ∃ (i : Nat) (x : Increment),
      life.increments[i]? = some x ∧ x.call = r ∧ maxRequests ≤ i
  expires : ∀ life ∈ lives googleSub t.commands, life.expires = [] ∨
    ∃ x, life.increments.head? = some x ∧ life.expires = [x.call]
  notProlonged : ∀ act t' e d, t.step act = some t' →
    t.redis.lookup t.now (rateLimitKey googleSub) = some e → e.deadline = some d →
    ∃ e', t'.redis.entries (rateLimitKey googleSub) = some e' ∧ e'.deadline = some d
  /-- Without the steps of all other calls, those of the user come to the same. -/
  isolated : ∃ w, (limiter now).Run (.start now)
      ((limiter now).collect (LimiterState.own googleSub) (.start now) acts) w ∧
    SameFor googleSub t w

theorem Came.exceeded {n : Int} {replied : Bool}
    (h : Came n replied (.returned (.error .exceeded))) : maxRequests < n := by
  generalize hp : CallPhase.returned (.error .exceeded) = phase at h
  cases h with
  | tested reply => exact overLimit_checkCount (hp ▸ trivial)
  | _ => cases hp

theorem rateLimitBound_of_run {now : Nat} {acts : List LimiterAction} {t : LimiterState}
    (h : (limiter now).Run (.start now) acts t) (googleSub : String) :
    RateLimitBound googleSub now acts t := by
  have hi : Counter googleSub t :=
    h.invariant (fun _ _ _ hs hi => hi.step hs) (.start googleSub now)
  refine ⟨fun life hl i x hx hlt hr => ?_, fun life hl i x hx hle hreply => ?_, fun r hr => ?_,
    fun life hl => (hi.lives life hl).expires, fun act t' e d hs hl hd => hi.deadline_kept hs hl hd,
    ?_⟩
  · obtain ⟨phase, hphase, hcame⟩ := (hi.lives life hl).increments i x hx
    obtain rfl := (RateLimitCall.mk.inj (Option.some.inj (hr.symm.trans hphase))).2
    have hover := hcame.exceeded
    omega
  · obtain ⟨phase, hphase, hcame⟩ := (hi.lives life hl).increments i x hx
    have hthree : maxRequests = 3 := rfl
    have hcheck : checkCount ((i : Int) + 1) = .error .exceeded := if_pos (by omega)
    cases hcame with
    | counted reply =>
      have hne : (i : Int) + 1 ≠ 1 := by
          omega
      refine .inr (.inr ⟨_, LimiterState.step_of_stepped (.tested (.inr ⟨hphase, hne⟩)), ?_⟩)
      exact (Arena.get?_modify_self hphase).trans (by rw [hcheck])
    | windowSet reply first =>
      omega
    | tested reply => exact .inl (hcheck ▸ hphase)
    | failed e cause =>
      rcases cause with hc | hc
      · cases hreply.symm.trans hc
      · omega
    | stopped => exact .inr (.inl hphase)
  · exact hi.placed r _ hr trivial
  · exact h.simulates_collect (R := SameFor googleSub)
      (fun s act s' w hs hsame => hsame.step hs now) (.refl _)

/-- **The bound of the rate limit**, in every state and for every user. -/
theorem rate_limit_bound {now : Nat} {acts : List LimiterAction} {t : LimiterState}
    (h : (limiter now).Run (.start now) acts t) (googleSub : String) :
    RateLimitBound googleSub now acts t :=
  rateLimitBound_of_run h googleSub

/-- Four calls for `u` have counted before any of them goes on, and the key has expired before the
fourth is tested. By then a call for `u` has begun a new life, and one for `v` has counted too. -/
def lateTests : List LimiterAction :=
  [.call "u", .call "u", .call "u", .call "u", .call "u", .call "v", .incr 0 none, .incr 1 none,
    .incr 2 none, .incr 3 none, .expire 0 none, .tick 3600001, .incr 4 none, .incr 5 none, .test 3,
    .test 0, .test 1, .test 2, .expire 5 none]

theorem rate_limit_bound_lateTests :
    ∃ t, (limiter 0).exec (.start 0) lateTests = some t ∧
      lives "u" t.commands = [⟨[⟨4, true⟩], []⟩,
        ⟨[⟨0, true⟩, ⟨1, true⟩, ⟨2, true⟩, ⟨3, true⟩], [0]⟩] ∧
      t.calls.rows = [⟨"u", .returned (.ok ())⟩, ⟨"u", .returned (.ok ())⟩,
        ⟨"u", .returned (.ok ())⟩, ⟨"u", .returned (.error .exceeded)⟩, ⟨"u", .counted 1⟩,
        ⟨"v", .windowSet 1⟩] ∧
      RateLimitBound "u" 0 lateTests t := by
  obtain ⟨t, ht, hf⟩ := Option.map_eq_some_iff.mp
    (show ((limiter 0).exec (.start 0) lateTests).map (fun t =>
        (lives "u" t.commands, t.calls.rows)) =
      some ([⟨[⟨4, true⟩], []⟩, ⟨[⟨0, true⟩, ⟨1, true⟩, ⟨2, true⟩, ⟨3, true⟩], [0]⟩],
        [⟨"u", .returned (.ok ())⟩, ⟨"u", .returned (.ok ())⟩, ⟨"u", .returned (.ok ())⟩,
          ⟨"u", .returned (.error .exceeded)⟩, ⟨"u", .counted 1⟩, ⟨"v", .windowSet 1⟩])
      from rfl)
  obtain ⟨hlives, hrows⟩ := Prod.mk.inj hf
  exact ⟨t, ht, hlives, hrows, rate_limit_bound (Machine.run_of_exec ht) "u"⟩

end PerOxo.AuthService
