import Mathlib.Logic.Function.Conjugate
import Mathlib.Tactic.Common

/-!
# An operation that is repeated

An operation is tried again until it is known to have been carried out, so it may be carried
out more than once, while other operations go on beside it. Where it is idempotent and
commutes with those, once is as good as many times: `repeatedly_eq`.
-/

set_option autoImplicit false

universe u

namespace Repeat

variable {σ : Type u} {f : σ → σ} {others : Nat → σ → σ} {hit : Nat → Prop} [DecidablePred hit]

/-- `n` rounds: in round `i` first `others i`, then `f` if the round is a hit. -/
def repeatedly (f : σ → σ) (others : Nat → σ → σ) (hit : Nat → Prop) [DecidablePred hit] :
    Nat → σ → σ
  | 0, a => a
  | n + 1, a =>
      let a := others n (repeatedly f others hit n a)
      if hit n then f a else a

/-- The same rounds without `f`. -/
def undisturbed (others : Nat → σ → σ) : Nat → σ → σ
  | 0, a => a
  | n + 1, a => others n (undisturbed others n a)

/-- **Repetition does no harm**: what is left is what is left by one `f`, if there was a hit. -/
theorem repeatedly_eq (hidem : ∀ a, f (f a) = f a) {n : Nat}
    (hcomm : ∀ i < n, Function.Commute f (others i)) (a : σ) :
    repeatedly f others hit n a =
      if ∃ i < n, hit i then f (undisturbed others n a) else undisturbed others n a := by
  induction n with
  | zero => simp [repeatedly, undisturbed]
  | succ n ih =>
    have hn := hcomm n (Nat.lt_succ_self n)
    have hsplit : (∃ i < n + 1, hit i) ↔ hit n ∨ ∃ i < n, hit i := by
      constructor
      · intro h
        obtain ⟨i, hi, hhit⟩ := h
        rcases Nat.lt_succ_iff_lt_or_eq.mp hi with hi | rfl
        · exact .inr ⟨i, hi, hhit⟩
        · exact .inl hhit
      · intro h
        rcases h with hhit | ⟨i, hi, hhit⟩
        · exact ⟨n, Nat.lt_succ_self n, hhit⟩
        · exact ⟨i, Nat.lt_succ_of_lt hi, hhit⟩
    simp only [repeatedly, undisturbed, hsplit]
    rw [ih fun i hi => hcomm i (Nat.lt_succ_of_lt hi)]
    by_cases hbefore : ∃ i < n, hit i
    · -- `f` was there already: it moves past the round, and meets the one of the round.
      rw [if_pos hbefore, if_pos (Or.inr hbefore), ← hn.eq, hidem, ite_self]
    · simp only [hbefore, if_false, or_false]

end Repeat
