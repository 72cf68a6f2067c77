import Mathlib.Data.List.AList
import Mathlib.Tactic.Common

/-!
# Hash maps

A hash map whose iteration order nothing depends on is Mathlib's `AList`: a list of entries
with distinct keys. What it lacks here is `retain`, and the values in iteration order.
-/

set_option autoImplicit false

universe u v

/-- A map from `K` to `V`. -/
abbrev HashMap (K : Type u) (V : Type v) := AList fun _ : K => V

namespace HashMap

variable {K : Type u} {V : Type v}

/-- Keep the entries that satisfy the predicate. -/
def retain (m : HashMap K V) (p : K → V → Bool) : HashMap K V where
  entries := m.entries.filter fun e => p e.1 e.2
  nodupKeys := m.nodupKeys.sublist List.filter_sublist

/-- The values, in iteration order. -/
def values (m : HashMap K V) : List V := m.entries.map (·.2)

variable [DecidableEq K]

theorem lookup_retain_eq_some {m : HashMap K V} {p : K → V → Bool} {k : K} {v : V} :
    (retain m p).lookup k = some v ↔ m.lookup k = some v ∧ p k v = true := by
  have h : ∀ m : HashMap K V, m.lookup k = some v ↔ (⟨k, v⟩ : Sigma fun _ : K => V) ∈ m.entries :=
    fun m => AList.mem_lookup_iff
  rw [h, h]
  exact List.mem_filter

theorem lookup_of_lookup_retain {m : HashMap K V} {p : K → V → Bool} {k : K} {v : V}
    (h : (retain m p).lookup k = some v) : m.lookup k = some v :=
  (lookup_retain_eq_some.mp h).1

theorem lookup_retain_eq_none {m : HashMap K V} {p : K → V → Bool} {k : K}
    (h : ∀ v, m.lookup k = some v → p k v = false) : (retain m p).lookup k = none := by
  cases hl : (retain m p).lookup k with
  | none => rfl
  | some v =>
    obtain ⟨hv, hp⟩ := lookup_retain_eq_some.mp hl
    rw [h v hv] at hp
    cases hp

theorem mem_values {m : HashMap K V} {v : V} :
    v ∈ values m ↔ ∃ k, m.lookup k = some v := by
  unfold values
  rw [List.mem_map]
  constructor
  · rintro ⟨⟨k, w⟩, he, rfl⟩
    exact ⟨k, AList.mem_lookup_iff.mpr he⟩
  · rintro ⟨k, hk⟩
    exact ⟨⟨k, v⟩, AList.mem_lookup_iff.mp hk, rfl⟩

theorem lookup_insert_eq {m : HashMap K V} {k k' : K} {v : V} :
    (m.insert k v).lookup k' = if k' = k then some v else m.lookup k' := by
  by_cases h : k' = k
  · subst h; simp
  · rw [if_neg h, AList.lookup_insert_ne h]

theorem lookup_erase_eq {m : HashMap K V} {k k' : K} :
    (m.erase k).lookup k' = if k' = k then none else m.lookup k' := by
  by_cases h : k' = k
  · subst h; simp
  · rw [if_neg h, AList.lookup_erase_ne h]

/-- A map without a value for any key is empty. -/
theorem eq_empty {m : HashMap K V} (h : ∀ k, m.lookup k = none) : m = ∅ := by
  apply AList.ext
  cases he : m.entries with
  | nil => rfl
  | cons x rest =>
    have hx : m.lookup x.1 = some x.2 := AList.mem_lookup_iff.mpr (he ▸ List.mem_cons_self)
    rw [h] at hx
    cases hx

end HashMap
