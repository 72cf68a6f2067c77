import Mathlib.Algebra.Ring.Int.Defs
import Mathlib.Data.List.Basic
import Mathlib.Tactic.Common

/-!
# Signed 32-bit numbers and their text

`toString` is the decimal text, and `Int32.parseStr` accepts what `str::parse::<i32>` is
documented to: at most one sign, then digits and nothing else, within range. `parseStr_toString`
says the second inverts the first. The other way round it does not go: `007` and `+7` are read
as `7` is.
-/

set_option autoImplicit false

namespace Int32

def parseDigits (l : List Char) : Option Nat :=
  if l ≠ [] ∧ l.all Char.isDigit then some (Nat.ofDigitChars 10 l 0) else none

def parseInt : List Char → Option Int
  | '-' :: l => (parseDigits l).map fun n : Nat => -(n : Int)
  | '+' :: l => (parseDigits l).map fun n : Nat => (n : Int)
  | l => (parseDigits l).map fun n : Nat => (n : Int)

def parseStr (s : String) : Option Int32 :=
  ((parseInt s.toList).filter fun n => -2 ^ 31 ≤ n ∧ n < 2 ^ 31).map Int32.ofInt

theorem parseDigits_repr (n : Nat) : parseDigits n.repr.toList = some n := by
  have hdigits : (Nat.toDigits 10 n).all Char.isDigit := by
    rw [List.all_eq_true]
    exact fun c hc => Nat.isDigit_of_mem_toDigits (by decide) (by decide) hc
  simp [parseDigits, Nat.toList_repr, Nat.toDigits_ne_nil, hdigits, Nat.ofDigitChars_ten_toDigits]

/-- A number without a sign is read digit by digit. -/
theorem parseInt_of_digit {l : List Char} {n : Nat} (h : parseDigits l = some n) :
    parseInt l = some (n : Int) := by
  unfold parseInt
  split
  · simp [parseDigits] at h
  · simp [parseDigits] at h
  · rw [h]
    rfl

theorem parseInt_repr (a : Int) : parseInt a.repr.toList = some a := by
  rw [Int.repr_eq_if]
  split
  · rename_i hnonneg
    rw [parseInt_of_digit (parseDigits_repr _), Int.toNat_of_nonneg hnonneg]
  · rename_i hneg
    have hminus : ("-" ++ (-a).toNat.repr).toList = '-' :: (-a).toNat.repr.toList := by simp
    have hneg' : -((-a).toNat : Int) = a := by omega
    rw [hminus, parseInt, parseDigits_repr, Option.map_some, hneg']

/-- **Parsing inverts printing.** -/
@[simp] theorem parseStr_toString (n : Int32) : parseStr (toString n) = some n := by
  have hrange : -2 ^ 31 ≤ n.toInt ∧ n.toInt < 2 ^ 31 := ⟨n.le_toInt, n.toInt_lt⟩
  have hprint : toString n = n.toInt.repr := rfl
  rw [parseStr, hprint, parseInt_repr, Option.filter_some, if_pos (decide_eq_true hrange)]
  simp

theorem underscore_notMem_toString (n : Int32) : '_' ∉ (toString n).toList := by
  have hprint : toString n = n.toInt.repr := rfl
  rw [hprint, Int.repr_eq_if]
  split
  · simp [Nat.toList_repr, Nat.underscore_not_in_toDigits]
  · simp [Nat.toList_repr, Nat.underscore_not_in_toDigits]

end Int32
