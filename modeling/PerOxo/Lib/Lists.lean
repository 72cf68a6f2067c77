import Mathlib.Data.List.Nodup
import Mathlib.Data.List.Pairwise
import Mathlib.Order.Lattice
import Mathlib.Tactic.Common

/-!
# Lists without duplicates

Histories are lists in which nothing occurs twice. What is read off such a list at two places
comes from two items (`List.eq_of_nodup_filterMap`), and two parts of it agree on the order of
what they share (`List.Sublist.filter_mem_comm`).
-/

set_option autoImplicit false

universe u v

namespace List

variable {α : Type u} {β : Type v}

/-- Where `f` leads to no value twice, it leads to none from two items. -/
theorem eq_of_nodup_filterMap {f : α → Option β} {l : List α} (h : (l.filterMap f).Nodup)
    {x y : α} (hx : x ∈ l) (hy : y ∈ l) {b : β} (hfx : f x = some b) (hfy : f y = some b) :
    x = y := by
  have hsymm : Std.Symm fun a a' => ∀ b, f a = some b → ∀ b', f a' = some b' → b ≠ b' :=
    ⟨fun _ _ h b hb b' hb' => (h b' hb' b hb).symm⟩
  by_contra hne
  exact (pairwise_filterMap.mp h).forall hx hy hne b hfx b hfy rfl

/-- What `f` reads off a list is a part of what `g` does, where `g` agrees with it. -/
theorem filterMap_sublist_filterMap {f g : α → Option β}
    (h : ∀ a b, f a = some b → g a = some b) (l : List α) :
    Sublist (l.filterMap f) (l.filterMap g) := by
  induction l with
  | nil => exact .slnil
  | cons a l ih =>
    cases hf : f a with
    | none =>
      simp only [filterMap_cons, hf]
      split
      · exact ih
      · exact ih.cons _
    | some b =>
      simp only [filterMap_cons, hf, h a b hf]
      exact ih.cons_cons b

/-- What comes next in a list in ascending order, after a prefix of it. -/
theorem getElem?_concat_eq_some {l : List α} {a x : α} {i : Nat} :
    (l ++ [a])[i]? = some x ↔ l[i]? = some x ∨ i = l.length ∧ a = x := by
  rcases Nat.lt_trichotomy i l.length with hi | rfl | hi
  · rw [getElem?_append_left hi]
    exact (or_iff_left fun h => absurd h.1 (Nat.ne_of_lt hi)).symm
  · simp
  · have hnone : (l ++ [a])[i]? = none := getElem?_eq_none (by simp; omega)
    rw [hnone, getElem?_eq_none (Nat.le_of_lt hi)]
    simp only [reduceCtorEq, false_or, false_iff, not_and]
    exact fun h => absurd h (Nat.ne_of_gt hi)

theorem IsPrefix.getElem?_eq_some {l₁ l₂ : List α} (h : l₁ <+: l₂) {i : Nat} {x : α}
    (hx : l₁[i]? = some x) : l₂[i]? = some x := by
  obtain ⟨rest, rfl⟩ := h
  rw [getElem?_append_left (getElem?_eq_some_iff.mp hx).1]
  exact hx

theorem concat_prefix_iff [LinearOrder α] {l p : List α} (hs : l.Pairwise (· < ·)) {a : α} :
    p ++ [a] <+: l ↔ p <+: l ∧ a ∈ l ∧ a ∉ p ∧ ∀ b ∈ l, b < a → b ∈ p := by
  constructor
  · intro h
    obtain ⟨rest, rfl⟩ := h
    rw [append_assoc] at hs
    obtain ⟨-, hrest, hacross⟩ := pairwise_append.mp hs
    refine ⟨by simp, by simp, fun ha => lt_irrefl a (hacross a ha a (by simp)), ?_⟩
    intro b hb hlt
    rw [append_assoc] at hb
    rcases mem_append.mp hb with hb | hb
    · exact hb
    · rcases mem_cons.mp hb with rfl | hb
      · exact absurd hlt (lt_irrefl b)
      · exact absurd hlt (lt_asymm ((pairwise_cons.mp hrest).1 b hb))
  · intro h
    obtain ⟨⟨rest, rfl⟩, ha, hnew, hbefore⟩ := h
    obtain ⟨-, hrest, hacross⟩ := pairwise_append.mp hs
    have ha := (mem_append.mp ha).resolve_left hnew
    cases rest with
    | nil => cases ha
    | cons b rest =>
      rcases mem_cons.mp ha with rfl | ha
      · exact ⟨rest, by simp⟩
      · -- `b` would have to be in the prefix, and behind it.
        have hlt := (pairwise_cons.mp hrest).1 a ha
        have hb := hbefore b (by simp) hlt
        exact absurd (hacross b hb b (by simp)) (lt_irrefl b)

variable {l l₁ l₂ : List α}

/-- A list without duplicates is a prefix of what it is drawn from, not of what is added to it. -/
theorem Nodup.prefix_append_iff (hn : l.Nodup) (hsub : l ⊆ l₁) : l <+: l₁ ++ l₂ ↔ l <+: l₁ := by
  constructor
  · intro h
    rcases prefix_or_prefix_of_prefix h (prefix_append l₁ l₂) with h | ⟨rest, rfl⟩
    · exact h
    · cases rest with
      | nil => simp
      | cons a rest =>
        have ha : a ∈ l₁ := hsub (by simp)
        exact absurd rfl ((nodup_append.mp hn).2.2 a ha a (by simp))
  · intro h
    exact h.trans (prefix_append l₁ l₂)

theorem Nodup.filter_eq_singleton [DecidableEq α] (h : l.Nodup) (x : α) :
    l.filter (fun y => decide (y = x)) = if x ∈ l then [x] else [] := by
  induction l with
  | nil => rfl
  | cons a l ih =>
    rw [nodup_cons] at h
    by_cases ha : a = x
    · subst ha
      rw [filter_cons_of_pos (by simp), ih h.2, if_neg h.1, if_pos mem_cons_self]
    · have hmem : x ∈ a :: l ↔ x ∈ l := by simp [Ne.symm ha]
      rw [filter_cons_of_neg (by simpa using ha), ih h.2]
      exact if_congr hmem.symm rfl rfl

variable [BEq α] [LawfulBEq α]

/-- A part of a list is what the list has of its items. -/
theorem Sublist.filter_mem (h : l₁.Sublist l) (hn : l.Nodup) : l.filter (· ∈ l₁) = l₁ := by
  induction h with
  | slnil => rfl
  | @cons l₁ l a h ih =>
    rw [nodup_cons] at hn
    have ha : a ∉ l₁ := fun hc => hn.1 (h.mem hc)
    rw [filter_cons_of_neg (by simpa using ha), ih hn.2]
  | @cons_cons l₁ l a h ih =>
    rw [nodup_cons] at hn
    have hsame : l.filter (· ∈ a :: l₁) = l.filter (· ∈ l₁) := by
      refine filter_congr fun x hx => ?_
      have hne : x ≠ a := fun hc => hn.1 (hc ▸ hx)
      simp [hne]
    rw [filter_cons_of_pos (by simp), hsame, ih hn.2]

/-- Two parts of one list have what they share in one order. -/
theorem Sublist.filter_mem_comm (h₁ : l₁.Sublist l) (h₂ : l₂.Sublist l) (hn : l.Nodup) :
    l₁.filter (· ∈ l₂) = l₂.filter (· ∈ l₁) := by
  calc l₁.filter (· ∈ l₂) = (l.filter (· ∈ l₁)).filter (· ∈ l₂) := by rw [h₁.filter_mem hn]
    _ = (l.filter (· ∈ l₂)).filter (· ∈ l₁) := by simp only [filter_filter, Bool.and_comm]
    _ = l₂.filter (· ∈ l₁) := by rw [h₂.filter_mem hn]

end List
