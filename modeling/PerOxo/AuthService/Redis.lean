import Mathlib.Algebra.Ring.Int.Defs
import PerOxo.Lib.Expiring

/-!
# Redis

The four commands auth-service uses, on the one key space it uses them on. A key is gone once the
clock has passed its deadline, in milliseconds. `INCR` leaves the deadline of a key alone and
creates a key without one; `SET` with `EX` replaces the key, its deadline included.
-/

set_option autoImplicit false

namespace PerOxo.AuthService

/-- A value: a string, or the integer Redis keeps in place of its decimal. -/
inductive Value
  | text (s : String)
  | integer (n : Int)
  deriving DecidableEq

namespace Value

/-- What `GET` answers. -/
def toText : Value → String
  | .text s => s
  | .integer n => toString n

/-- What `INCR` finds: a string counts as an integer if it is the decimal of one. -/
def int? : Value → Option Int
  | .text s => s.toInt?.filter fun n => toString n = s
  | .integer n => some n

end Value

abbrev Redis := Expiring String Value

namespace Redis

def maxInt : Int := 2 ^ 63 - 1

def get (r : Redis) (now : Nat) (key : String) : Option String :=
  (r.lookup now key).map (·.value.toText)

/-- `SET key text EX seconds`. -/
def setEx (r : Redis) (now : Nat) (key text : String) (seconds : Nat) : Redis :=
  r.put key ⟨.text text, some (now + seconds * 1000)⟩

/-- `INCR key`: the new count. -/
def incr (r : Redis) (now : Nat) (key : String) : Except String (Int × Redis) :=
  match r.lookup now key with
  | none => .ok (1, r.put key ⟨.integer 1, none⟩)
  | some e =>
      match e.value.int? with
      | some n =>
          if n < maxInt then .ok (n + 1, r.put key { e with value := .integer (n + 1) })
          else .error "ERR increment or decrement would overflow"
      | none => .error "ERR value is not an integer or out of range"

/-- `EXPIRE key seconds`: whether there was such a key. -/
def expire (r : Redis) (now : Nat) (key : String) (seconds : Nat) : Bool × Redis :=
  match r.lookup now key with
  | none => (false, r)
  | some e => (true, r.put key { e with deadline := some (now + seconds * 1000) })

/-! ## What the commands do to the keys -/

variable {r r' : Redis} {now : Nat} {key key' text : String} {seconds : Nat} {n : Int}

@[simp] theorem entries_setEx_self : (r.setEx now key text seconds).entries key =
    some ⟨.text text, some (now + seconds * 1000)⟩ :=
  Expiring.entries_put_self

theorem entries_setEx_ne (h : key' ≠ key) :
    (r.setEx now key text seconds).entries key' = r.entries key' :=
  Expiring.entries_put_ne h

/-- A key that is not there is counted from 1 on, and has no deadline. -/
theorem incr_of_none (h : r.lookup now key = none) :
    r.incr now key = .ok (1, r.put key ⟨.integer 1, none⟩) := by
  rw [incr, h]

/-- A key that is there keeps its deadline. -/
theorem incr_of_some {e : Expiring.Entry Value} (h : r.lookup now key = some e)
    (hincr : r.incr now key = .ok (n, r')) :
    ∃ v, r' = r.put key ⟨v, e.deadline⟩ := by
  rw [incr, h] at hincr
  simp only at hincr
  split at hincr
  · split at hincr
    · obtain ⟨-, rfl⟩ := Prod.mk.inj (Except.ok.inj hincr)
      exact ⟨_, rfl⟩
    · cases hincr
  · cases hincr

/-- An integer is counted up, up to the largest one. -/
theorem incr_of_integer {m : Int} {d : Option Nat} (h : r.lookup now key = some ⟨.integer m, d⟩)
    (hincr : r.incr now key = .ok (n, r')) : n = m + 1 ∧ r' = r.put key ⟨.integer (m + 1), d⟩ := by
  simp only [incr, h, Value.int?] at hincr
  split at hincr
  · obtain ⟨hn, hr⟩ := Prod.mk.inj (Except.ok.inj hincr)
    exact ⟨hn.symm, hr.symm⟩
  · cases hincr

theorem entries_incr_ne (h : key' ≠ key) (hincr : r.incr now key = .ok (n, r')) :
    r'.entries key' = r.entries key' := by
  cases hl : r.lookup now key with
  | none =>
    rw [incr_of_none hl] at hincr
    obtain ⟨-, rfl⟩ := Prod.mk.inj (Except.ok.inj hincr)
    exact Expiring.entries_put_ne h
  | some e =>
    obtain ⟨v, rfl⟩ := incr_of_some hl hincr
    exact Expiring.entries_put_ne h

theorem entries_expire_ne (h : key' ≠ key) :
    (r.expire now key seconds).2.entries key' = r.entries key' := by
  unfold expire
  split
  · rfl
  · exact Expiring.entries_put_ne h

/-- After `EXPIRE` a key that is still there has a deadline, and no later one. -/
theorem entries_expire_self {e : Expiring.Entry Value}
    (h : (r.expire now key seconds).2.entries key = some e) :
    e.deadline = some (now + seconds * 1000) ∨
      (r.entries key = some e ∧ ∃ d, e.deadline = some d) := by
  unfold expire at h
  split at h
  · next hl =>
    refine .inr ⟨h, ?_⟩
    cases hd : e.deadline with
    | none => rw [Expiring.lookup_of_no_deadline h hd] at hl; cases hl
    | some d => exact ⟨d, rfl⟩
  · rw [Expiring.entries_put_self] at h
    obtain rfl := Option.some.inj h
    exact .inl rfl

/-! ## What the commands see of the keys -/

section Congr

variable {q : Redis}

theorem incr_congr (h : q.entries key = r.entries key) :
    (∀ e, r.incr now key = .error e → q.incr now key = .error e) ∧
      ∀ r', r.incr now key = .ok (n, r') →
        ∃ q', q.incr now key = .ok (n, q') ∧ q'.entries key = r'.entries key := by
  have hl : q.lookup now key = r.lookup now key := by
    unfold Expiring.lookup
    rw [h]
  simp only [incr, hl]
  split
  · refine ⟨nofun, fun r' hr => ?_⟩
    obtain ⟨rfl, rfl⟩ := Prod.mk.inj (Except.ok.inj hr)
    exact ⟨_, rfl, by simp⟩
  · split
    · split
      · refine ⟨nofun, fun r' hr => ?_⟩
        obtain ⟨rfl, rfl⟩ := Prod.mk.inj (Except.ok.inj hr)
        exact ⟨_, rfl, by simp⟩
      · exact ⟨fun e => id, nofun⟩
    · exact ⟨fun e => id, nofun⟩

theorem expire_congr (h : q.entries key = r.entries key) :
    (q.expire now key seconds).2.entries key = (r.expire now key seconds).2.entries key := by
  have hl : q.lookup now key = r.lookup now key := by
    unfold Expiring.lookup
    rw [h]
  simp only [expire, hl]
  split
  · exact h
  · simp

end Congr

end Redis

end PerOxo.AuthService
