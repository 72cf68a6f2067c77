import Mathlib.Order.Bounds.Basic
import PerOxo.Lib.Clustered

/-!
# A table that keeps the latest of another one

Beside a partition of rows with times there is often a summary, with one entry a group: the
time of the latest row of the group. `Clustered.Latest` says that a summary is right. A writer
that inserts a row and then sets the entry of its group to the row's time leaves the summary
right exactly if no row of the group is later (`Latest.upsert_iff`).
-/

set_option autoImplicit false

universe u v w

theorem isGreatest_insert_self {T : Type w} [Preorder T] {t : T} {S : Set T} :
    IsGreatest (insert t S) t ↔ t ∈ upperBounds S := by
  rw [IsGreatest, upperBounds_insert]
  constructor
  · rintro ⟨-, -, hS⟩
    exact hS
  · intro hS
    exact ⟨Set.mem_insert t S, le_refl t, hS⟩

namespace Clustered

variable {K : Type u} {R : Type v} {T : Type w} [LinearOrder K]

/-- What `f` gives for the rows with `P`. -/
def image (t : Clustered K R) (P : R → Prop) (f : R → T) : Set T :=
  {b | ∃ k r, (k, r) ∈ t.rows ∧ P r ∧ f r = b}

section Image

variable {t : Clustered K R} {k : K} {r : R} {P : R → Prop} {f : R → T}

@[simp] theorem image_empty : (empty : Clustered K R).image P f = ∅ := by simp [image]

/-- A row is written that was not there, or was there as it is. -/
theorem mem_upsert_of_same (hsame : ∀ r', (k, r') ∈ t.rows → r' = r) {x : K × R} :
    x ∈ (t.upsert k r).rows ↔ x = (k, r) ∨ x ∈ t.rows := by
  rw [mem_upsert]
  constructor
  · rintro (rfl | ⟨hx, -⟩)
    · exact .inl rfl
    · exact .inr hx
  · rintro (rfl | hx)
    · exact .inl rfl
    · by_cases hk : x.1 = k
      · subst hk
        exact .inl (Prod.ext rfl (hsame x.2 hx))
      · exact .inr ⟨hx, hk⟩

theorem image_upsert_of_pos (hsame : ∀ r', (k, r') ∈ t.rows → r' = r) (hP : P r) :
    (t.upsert k r).image P f = insert (f r) (t.image P f) := by
  ext b
  simp only [image, Set.mem_ofPred_eq, Set.mem_insert_iff, mem_upsert_of_same hsame, Prod.mk.injEq]
  constructor
  · rintro ⟨k', r', ⟨rfl, rfl⟩ | hx, hP', rfl⟩
    · exact .inl rfl
    · exact .inr ⟨k', r', hx, hP', rfl⟩
  · rintro (rfl | ⟨k', r', hx, hP', rfl⟩)
    · exact ⟨k, r, .inl ⟨rfl, rfl⟩, hP, rfl⟩
    · exact ⟨k', r', .inr hx, hP', rfl⟩

theorem image_upsert_of_neg (hsame : ∀ r', (k, r') ∈ t.rows → r' = r) (hP : ¬ P r) :
    (t.upsert k r).image P f = t.image P f := by
  ext b
  simp only [image, Set.mem_ofPred_eq, mem_upsert_of_same hsame, Prod.mk.injEq]
  constructor
  · rintro ⟨k', r', ⟨rfl, rfl⟩ | hx, hP', rfl⟩
    · exact absurd hP' hP
    · exact ⟨k', r', hx, hP', rfl⟩
  · rintro ⟨k', r', hx, hP', rfl⟩
    exact ⟨k', r', .inr hx, hP', rfl⟩

end Image

/-- The entries are the greatest times of the groups `S`; a group without a row has none. -/
def Latest [Preorder T] (t : Clustered K T) (S : K → Set T) : Prop :=
  ∀ k b, (k, b) ∈ t.rows ↔ IsGreatest (S k) b

namespace Latest

variable [PartialOrder T] {t t' : Clustered K T} {S S' : K → Set T} {k : K} {b : T}

theorem empty : (empty : Clustered K T).Latest fun _ => ∅ := by
  intro k b
  simp [IsGreatest]

/-- **A new row and its entry**: `t'` is `t` with the entry `b` for the group `k`, to which a row
of this time has come. -/
theorem upsert_iff (h : t.Latest S) (hk : S' k = insert b (S k)) (hne : ∀ j, j ≠ k → S' j = S j)
    (hrows : ∀ j c, (j, c) ∈ t'.rows ↔ (j = k ∧ c = b) ∨ ((j, c) ∈ t.rows ∧ j ≠ k)) :
    t'.Latest S' ↔ b ∈ upperBounds (S k) := by
  rw [← isGreatest_insert_self, ← hk]
  constructor
  · intro h'
    exact (h' k b).mp ((hrows k b).mpr (.inl ⟨rfl, rfl⟩))
  · intro hb j c
    rw [hrows]
    by_cases hj : j = k
    · subst hj
      constructor
      · rintro (⟨-, rfl⟩ | ⟨-, hc⟩)
        · exact hb
        · exact absurd rfl hc
      · intro hc
        exact .inl ⟨rfl, hc.unique hb⟩
    · rw [hne j hj, ← h j c]
      simp [hj]

/-- What neither the rows nor the entries of a partition are touched by. -/
theorem congr (hS : ∀ j, S' j = S j) (ht : t' = t) : t'.Latest S' ↔ t.Latest S := by
  rw [ht, funext hS]

end Latest

end Clustered
