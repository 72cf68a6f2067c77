import PerOxo.AuthService.System

/-!
# `check_rate_limit`, command by command

The calls of `check_rate_limit` alone, over the Redis they share with the rest of auth-service, in
smaller steps than `AuthService/System.lean` takes: here any number of commands may come between
the `INCR` of a call and its test of the count.
-/

set_option autoImplicit false

namespace PerOxo.AuthService

inductive CallPhase
  | received
  /-- `INCR` has returned the count. -/
  | counted (count : Int)
  /-- `EXPIRE` has returned too. -/
  | windowSet (count : Int)
  | returned (result : Except RateLimitError Unit)
  | stopped

/-- How a call goes on after a command that has been carried out. -/
def CallPhase.onReply (next : CallPhase) : Option Fault → CallPhase
  | none => next
  | some f => .returned (.error (.redisError f.text))

structure RateLimitCall where
  googleSub : String
  phase : CallPhase

/-- A command that Redis has carried out: an `INCR` that has found no key, or has found one, and
whether the count has reached the call; or an `EXPIRE`. -/
inductive CommandKind
  | incr (created replied : Bool)
  | expire
  deriving DecidableEq

structure Command where
  googleSub : String
  call : Nat
  kind : CommandKind
  deriving DecidableEq

structure LimiterState where
  redis : Redis
  now : Nat
  calls : Arena RateLimitCall
  /-- What has been carried out for the calls, in order; no step reads it. -/
  commands : List Command

inductive LimiterAction
  | tick (now : Nat)
  | call (googleSub : String)
  | incr (r : Nat) (fault : Option Fault)
  | expire (r : Nat) (fault : Option Fault)
  | test (r : Nat)
  /-- The call stops before it returns. -/
  | stop (r : Nat)
  /-- Something else is stored under a key that counts no calls. -/
  | write (key : String) (e : Expiring.Entry Value)
      (other : ∀ googleSub, key ≠ rateLimitKey googleSub)

namespace LimiterState

def start (now : Nat) : LimiterState := ⟨.empty, now, .empty, []⟩

def setPhase (s : LimiterState) (r : Nat) (phase : CallPhase) : LimiterState :=
  { s with calls := s.calls.modify r fun call => { call with phase := phase } }

/-- Redis has carried out a command. -/
def carryOut (s : LimiterState) (redis : Redis) (command : Command) : LimiterState :=
  { s with redis := redis, commands := s.commands ++ [command] }

def incr (s : LimiterState) (r : Nat) (fault : Option Fault) : Option LimiterState :=
  match s.calls.get? r with
  | some ⟨googleSub, .received⟩ =>
      match fault with
      | some (.refused e) => some (s.setPhase r (.returned (.error (.redisError e))))
      | _ =>
          match s.redis.incr s.now (rateLimitKey googleSub) with
          | .error e => some (s.setPhase r (.returned (.error (.redisError e))))
          | .ok (count, redis) =>
              let created := (s.redis.lookup s.now (rateLimitKey googleSub)).isNone
              some ((s.carryOut redis ⟨googleSub, r, .incr created fault.isNone⟩).setPhase r
                (.onReply (.counted count) fault))
  | _ => none

def expire (s : LimiterState) (r : Nat) (fault : Option Fault) : Option LimiterState :=
  match s.calls.get? r with
  | some ⟨googleSub, .counted count⟩ =>
      if count = 1 then
        match fault with
        | some (.refused e) => some (s.setPhase r (.returned (.error (.redisError e))))
        | _ =>
            let redis := (s.redis.expire s.now (rateLimitKey googleSub) windowSecs).2
            some ((s.carryOut redis ⟨googleSub, r, .expire⟩).setPhase r
              (.onReply (.windowSet count) fault))
      else none
  | _ => none

/-- The count is tested. -/
def test (s : LimiterState) (r : Nat) : Option LimiterState :=
  match s.calls.get? r with
  | some ⟨_, .counted count⟩ =>
      if count = 1 then none else some (s.setPhase r (.returned (checkCount count)))
  | some ⟨_, .windowSet count⟩ => some (s.setPhase r (.returned (checkCount count)))
  | _ => none

def stop (s : LimiterState) (r : Nat) : Option LimiterState :=
  match s.calls.get? r with
  | some ⟨_, .returned _⟩ => none
  | some ⟨_, .stopped⟩ => none
  | some _ => some (s.setPhase r .stopped)
  | none => none

def step (s : LimiterState) : LimiterAction → Option LimiterState
  | .tick now => if s.now ≤ now then some { s with now := now } else none
  | .call googleSub => some { s with calls := s.calls.alloc ⟨googleSub, .received⟩ }
  | .incr r fault => s.incr r fault
  | .expire r fault => s.expire r fault
  | .test r => s.test r
  | .stop r => s.stop r
  | .write key e _ => some { s with redis := s.redis.put key e }

end LimiterState

/-- Any number of calls over an empty Redis. -/
def limiter (now : Nat) : Machine LimiterState LimiterAction where
  init := .start now
  step := LimiterState.step

/-! ## What a step does -/

namespace LimiterState

/-- The outcomes of a step. -/
inductive Stepped (s : LimiterState) : LimiterAction → LimiterState → Prop
  | ticked {now : Nat} (le : s.now ≤ now) : s.Stepped (.tick now) { s with now := now }
  | arrived (googleSub : String) :
      s.Stepped (.call googleSub) { s with calls := s.calls.alloc ⟨googleSub, .received⟩ }
  | refused {r : Nat} {googleSub e : String}
      (found : s.calls.get? r = some ⟨googleSub, .received⟩) :
      s.Stepped (.incr r (some (.refused e)))
        (s.setPhase r (.returned (.error (.redisError e))))
  /-- Redis does not count any further. -/
  | notCounted {r : Nat} {fault : Option Fault} {googleSub e : String}
      (found : s.calls.get? r = some ⟨googleSub, .received⟩)
      (sent : ∀ e, fault ≠ some (.refused e))
      (result : s.redis.incr s.now (rateLimitKey googleSub) = .error e) :
      s.Stepped (.incr r fault) (s.setPhase r (.returned (.error (.redisError e))))
  | counted {r : Nat} {fault : Option Fault} {googleSub : String} {count : Int} {redis : Redis}
      (found : s.calls.get? r = some ⟨googleSub, .received⟩)
      (sent : ∀ e, fault ≠ some (.refused e))
      (result : s.redis.incr s.now (rateLimitKey googleSub) = .ok (count, redis)) :
      s.Stepped (.incr r fault)
        ((s.carryOut redis ⟨googleSub, r, .incr
          (s.redis.lookup s.now (rateLimitKey googleSub)).isNone fault.isNone⟩).setPhase r
            (.onReply (.counted count) fault))
  | windowRefused {r : Nat} {googleSub e : String}
      (found : s.calls.get? r = some ⟨googleSub, .counted 1⟩) :
      s.Stepped (.expire r (some (.refused e)))
        (s.setPhase r (.returned (.error (.redisError e))))
  | expired {r : Nat} {fault : Option Fault} {googleSub : String}
      (found : s.calls.get? r = some ⟨googleSub, .counted 1⟩)
      (sent : ∀ e, fault ≠ some (.refused e)) :
      s.Stepped (.expire r fault)
        ((s.carryOut (s.redis.expire s.now (rateLimitKey googleSub) windowSecs).2
          ⟨googleSub, r, .expire⟩).setPhase r (.onReply (.windowSet 1) fault))
  | tested {r : Nat} {googleSub : String} {count : Int}
      (found : s.calls.get? r = some ⟨googleSub, .windowSet count⟩ ∨
        s.calls.get? r = some ⟨googleSub, .counted count⟩ ∧ count ≠ 1) :
      s.Stepped (.test r) (s.setPhase r (.returned (checkCount count)))
  | stopped {r : Nat} {call : RateLimitCall} (found : s.calls.get? r = some call)
      (running : (∀ result, call.phase ≠ .returned result) ∧ call.phase ≠ .stopped) :
      s.Stepped (.stop r) (s.setPhase r .stopped)
  | written {key : String} {e : Expiring.Entry Value}
      (other : ∀ googleSub, key ≠ rateLimitKey googleSub) :
      s.Stepped (.write key e other) { s with redis := s.redis.put key e }

theorem incr_stepped {s s' : LimiterState} {r : Nat} {fault : Option Fault}
    (h : s.incr r fault = some s') : s.Stepped (.incr r fault) s' := by
  unfold incr at h
  split at h
  · next googleSub hr =>
    split at h
    · exact Option.some.inj h ▸ .refused hr
    · next hsent =>
      split at h
      · next hi => exact Option.some.inj h ▸ .notCounted hr hsent hi
      · next hi => exact Option.some.inj h ▸ .counted hr hsent hi
  · cases h

theorem expire_stepped {s s' : LimiterState} {r : Nat} {fault : Option Fault}
    (h : s.expire r fault = some s') : s.Stepped (.expire r fault) s' := by
  unfold expire at h
  split at h
  · next googleSub count hr =>
    split at h
    · next hc =>
      subst hc
      split at h
      · exact Option.some.inj h ▸ .windowRefused hr
      · next hsent => exact Option.some.inj h ▸ .expired hr hsent
    · cases h
  · cases h

theorem test_stepped {s s' : LimiterState} {r : Nat} (h : s.test r = some s') :
    s.Stepped (.test r) s' := by
  unfold test at h
  split at h
  · next googleSub count hr =>
    split at h
    · cases h
    · next hc => exact Option.some.inj h ▸ .tested (.inr ⟨hr, hc⟩)
  · next hr => exact Option.some.inj h ▸ .tested (.inl hr)
  · cases h

theorem stop_stepped {s s' : LimiterState} {r : Nat} (h : s.stop r = some s') :
    s.Stepped (.stop r) s' := by
  unfold stop at h
  split at h
  · cases h
  · cases h
  · next call hreturned hstopped hr =>
    refine Option.some.inj h ▸ .stopped hr ⟨fun result hp => ?_, fun hp => ?_⟩
    · exact hreturned call.googleSub result (hp ▸ rfl)
    · exact hstopped call.googleSub (hp ▸ rfl)
  · cases h

theorem stepped {s s' : LimiterState} {act : LimiterAction} (h : s.step act = some s') :
    s.Stepped act s' := by
  cases act with
  | tick now =>
    simp only [step] at h
    split at h
    · next hle => exact Option.some.inj h ▸ .ticked hle
    · cases h
  | call googleSub => exact Option.some.inj h ▸ .arrived googleSub
  | incr r fault => exact incr_stepped h
  | expire r fault => exact expire_stepped h
  | test r => exact test_stepped h
  | stop r => exact stop_stepped h
  | write key e other => exact Option.some.inj h ▸ .written other

/-- All of them can come about. -/
theorem step_of_stepped {s s' : LimiterState} {act : LimiterAction} (h : s.Stepped act s') :
    s.step act = some s' := by
  cases h with
  | ticked le => exact if_pos le
  | arrived googleSub => rfl
  | refused found => simp only [step, incr, found]
  | @notCounted r fault googleSub e found sent result =>
    rcases fault with _ | _ | _
    · simp only [step, incr, found, result]
    · exact absurd rfl (sent _)
    · simp only [step, incr, found, result]
  | @counted r fault googleSub count redis found sent result =>
    rcases fault with _ | _ | _
    · simp only [step, incr, found, result]
    · exact absurd rfl (sent _)
    · simp only [step, incr, found, result]
  | windowRefused found => simp only [step, expire, found, if_true]
  | @expired r fault googleSub found sent =>
    rcases fault with _ | _ | _
    · simp only [step, expire, found, if_true]
    · exact absurd rfl (sent _)
    · simp only [step, expire, found, if_true]
  | tested found =>
    rcases found with found | ⟨found, hne⟩
    · simp only [step, test, found]
    · simp only [step, test, found, if_neg hne]
  | @stopped r call found running =>
    obtain ⟨googleSub, phase⟩ := call
    cases phase with
    | returned result => exact absurd rfl (running.1 result)
    | stopped => exact absurd rfl running.2
    | _ => simp only [step, stop, found]
  | written other => rfl

end LimiterState

end PerOxo.AuthService
