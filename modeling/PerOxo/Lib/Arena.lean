import Mathlib.Data.List.Basic
import Mathlib.Tactic.Common

/-!
# Append-only tables, and the sending half of a one-shot channel

Things that are created one after the other and never go away (sessions, tasks, calls) live
in an `Arena`: an entry gets the next free index when it is allocated and may be modified
later, but keeps its index. So a fresh index is one no older entry has, by construction.

`Oneshot α` is what the receiver of a one-shot channel can see of its sender.
-/

set_option autoImplicit false

universe u v

/-- A table whose entries are never removed. -/
structure Arena (α : Type u) where
  rows : List α

namespace Arena

variable {α : Type u} {t : Arena α} {i j : Nat} {a b : α} {f : α → α}

def empty : Arena α := ⟨[]⟩

/-- The index the next entry gets. -/
def next (t : Arena α) : Nat := t.rows.length

def get? (t : Arena α) (i : Nat) : Option α := t.rows[i]?

def alloc (t : Arena α) (a : α) : Arena α := ⟨t.rows ++ [a]⟩

def modify (t : Arena α) (i : Nat) (f : α → α) : Arena α := ⟨t.rows.modify i f⟩

@[simp] theorem get?_empty : (empty : Arena α).get? i = none := rfl

@[simp] theorem next_alloc : (t.alloc a).next = t.next + 1 := by simp [next, alloc]

@[simp] theorem next_modify : (t.modify i f).next = t.next := by simp [next, modify]

theorem lt_next_of_get? (h : t.get? i = some a) : i < t.next :=
  (List.getElem?_eq_some_iff.mp h).1

theorem exists_of_lt_next (h : i < t.next) : ∃ a, t.get? i = some a :=
  ⟨t.rows[i], List.getElem?_eq_getElem h⟩

@[simp] theorem get?_next : t.get? t.next = none := List.getElem?_eq_none (Nat.le_refl _)

theorem get?_alloc : (t.alloc a).get? i = if i = t.next then some a else t.get? i := by
  by_cases h : i = t.next
  · subst h
    simp [alloc, get?, next]
  · rw [if_neg h]
    rcases Nat.lt_or_gt_of_ne h with h | h
    · exact List.getElem?_append_left h
    · have hlen : (t.rows ++ [a]).length ≤ i := by
        rw [List.length_append]
        exact h
      exact (List.getElem?_eq_none hlen).trans (List.getElem?_eq_none (Nat.le_of_lt h)).symm

theorem get?_alloc_self : (t.alloc a).get? t.next = some a := by simp [get?_alloc]

/-- What was allocated before is still there. -/
theorem get?_alloc_of_some (h : t.get? i = some b) : (t.alloc a).get? i = some b := by
  rw [get?_alloc, if_neg (Nat.ne_of_lt (lt_next_of_get? h)), h]

theorem get?_alloc_eq_some :
    (t.alloc a).get? i = some b ↔ (i = t.next ∧ b = a) ∨ t.get? i = some b := by
  rw [get?_alloc]
  by_cases h : i = t.next
  · simp [h, eq_comm]
  · simp [h]

theorem get?_modify :
    (t.modify i f).get? j = if j = i then (t.get? j).map f else t.get? j := by
  simp only [modify, get?, List.getElem?_modify]
  by_cases h : i = j
  · simp [h]
  · simp [h, Ne.symm h]

theorem get?_modify_self (h : t.get? i = some a) : (t.modify i f).get? i = some (f a) := by
  simp [get?_modify, h]

theorem get?_modify_ne (h : j ≠ i) : (t.modify i f).get? j = t.get? j := by
  simp [get?_modify, h]

/-- Where an entry of the modified table comes from. -/
theorem get?_modify_eq_some :
    (t.modify i f).get? j = some b ↔
      (j = i ∧ ∃ a, t.get? j = some a ∧ b = f a) ∨ (j ≠ i ∧ t.get? j = some b) := by
  rw [get?_modify]
  by_cases h : j = i
  · simp [h, eq_comm]
  · simp [h]

/-- What an entry has, and has still where it is modified, some entry in its place has. -/
theorem exists_modify {p : α → Prop} (h : t.get? j = some a) (ha : p a) (hf : j = i → p (f a)) :
    ∃ b, (t.modify i f).get? j = some b ∧ p b := by
  by_cases hj : j = i
  · exact ⟨f a, hj ▸ get?_modify_self (hj ▸ h), hf hj⟩
  · exact ⟨a, (get?_modify_ne hj).trans h, ha⟩

theorem ext {t₁ t₂ : Arena α} (h : ∀ i, t₁.get? i = t₂.get? i) : t₁ = t₂ := by
  obtain ⟨r₁⟩ := t₁
  obtain ⟨r₂⟩ := t₂
  exact congrArg Arena.mk (List.ext_getElem? h)

theorem modify_modify {g : α → α} : (t.modify i f).modify i g = t.modify i (g ∘ f) := by
  refine ext fun j => ?_
  by_cases h : j = i
  · simp [get?_modify, h]
  · simp [get?_modify, h]

/-- Only what `f` makes of the entry itself matters. -/
theorem modify_congr {g : α → α} (h : ∀ a, t.get? i = some a → f a = g a) :
    t.modify i f = t.modify i g := by
  refine ext fun j => ?_
  by_cases hj : j = i
  · subst hj
    cases ha : t.get? j with
    | none => simp [get?_modify, ha]
    | some a => simp [get?_modify, ha, h a ha]
  · simp [get?_modify, hj]

theorem modify_alloc_next : (t.alloc a).modify t.next f = t.alloc (f a) := by
  refine ext fun j => ?_
  by_cases hj : j = t.next
  · simp [get?_modify, get?_alloc, hj]
  · simp [get?_modify, get?_alloc, hj]

end Arena

/-- The sending half of a one-shot channel. -/
inductive Oneshot (α : Type u)
  | pending
  | sent (a : α)
  | dropped
  deriving DecidableEq, Repr

namespace Oneshot

variable {α : Type u}

/-- `send` consumes the sender: only the first one counts. -/
def send (a : α) : Oneshot α → Oneshot α
  | pending => sent a
  | o => o

def drop : Oneshot α → Oneshot α
  | pending => dropped
  | o => o

@[simp] theorem send_pending (a : α) : send a pending = sent a := rfl
@[simp] theorem send_sent (a b : α) : send a (sent b) = sent b := rfl
@[simp] theorem send_dropped (a : α) : send a (dropped : Oneshot α) = dropped := rfl

@[simp] theorem send_ne_pending (a : α) (o : Oneshot α) : send a o ≠ pending := by
  cases o <;> simp

theorem send_eq_sent {a b : α} {o : Oneshot α} :
    send a o = sent b ↔ o = sent b ∨ (o = pending ∧ a = b) := by
  cases o <;> simp

end Oneshot

/-- A one-shot channel together with the task that awaits its receiver: what the task holds,
what it has been sent, and whether it has run to its end. -/
structure Waiter (κ : Type u) (ρ : Type v) where
  context : κ
  reply : Oneshot ρ
  done : Bool

namespace Waiter

variable {κ : Type u} {ρ : Type v}

/-- A task that starts to wait. -/
def start (context : κ) : Waiter κ ρ := ⟨context, .pending, false⟩

def send (r : ρ) (w : Waiter κ ρ) : Waiter κ ρ := { w with reply := w.reply.send r }

/-- The sender is dropped unused. -/
def drop (w : Waiter κ ρ) : Waiter κ ρ := { w with reply := w.reply.drop }

def finish (w : Waiter κ ρ) : Waiter κ ρ := { w with done := true }

end Waiter
