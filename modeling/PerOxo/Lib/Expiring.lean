import Mathlib.Logic.Function.Basic
import Mathlib.Tactic.Common

/-!
# Tables whose entries expire

An entry may have a deadline; once the clock has passed it, the entry can no longer be looked up.
Nothing else removes an entry: what is looked up stays the same until it is written again, or is
gone for good.
-/

set_option autoImplicit false

universe u v

structure Expiring.Entry (V : Type v) where
  value : V
  deadline : Option Nat

/-- The entry can still be looked up at this time. -/
def Expiring.Entry.Live {V : Type v} (e : Entry V) (now : Nat) : Prop := ∀ d ∈ e.deadline, now ≤ d

instance {V : Type v} (e : Expiring.Entry V) (now : Nat) : Decidable (e.Live now) :=
  match h : e.deadline with
  | none => .isTrue (by simp [Expiring.Entry.Live, h])
  | some d => decidable_of_iff (now ≤ d) (by simp [Expiring.Entry.Live, h])

structure Expiring (K : Type u) (V : Type v) where
  entries : K → Option (Expiring.Entry V)

namespace Expiring

variable {K : Type u} {V : Type v} {t : Expiring K V} {k k' : K} {e : Entry V} {now : Nat}

def empty : Expiring K V := ⟨fun _ => none⟩

@[simp] theorem entries_empty : (empty : Expiring K V).entries k = none := rfl

/-! ## Looking up -/

def lookup (t : Expiring K V) (now : Nat) (k : K) : Option (Entry V) :=
  (t.entries k).filter fun e => decide (e.Live now)

theorem lookup_eq_some : t.lookup now k = some e ↔ t.entries k = some e ∧ e.Live now := by
  simp [lookup, Option.filter_eq_some_iff]

/-- An entry without a deadline is always found. -/
theorem lookup_of_no_deadline (h : t.entries k = some e) (hd : e.deadline = none) :
    t.lookup now k = some e :=
  lookup_eq_some.mpr ⟨h, by simp [Entry.Live, hd]⟩

/-! ## Writing -/

variable [DecidableEq K]

def put (t : Expiring K V) (k : K) (e : Entry V) : Expiring K V :=
  ⟨Function.update t.entries k (some e)⟩

@[simp] theorem entries_put_self : (t.put k e).entries k = some e := Function.update_self ..

theorem entries_put_ne (h : k' ≠ k) : (t.put k e).entries k' = t.entries k' :=
  Function.update_of_ne h ..

end Expiring
