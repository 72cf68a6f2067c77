import Mathlib.Data.Nat.Digits.Lemmas
import Mathlib.Data.String.Basic
import PerOxo.Lib.Uuid

/-!
# UUIDs in the order of their texts

Texts of UUIDs compare as their digits do, from the first digit on. A `timeuuid` column compares
the timestamp first, and the text of a UUID begins with the low end of it: `toString_lt_iff` beside
`lt_iff_timestamp`. What lies between the two orders is a matter of the timestamps alone
(`fallsBack_or_textBelow`), apart from UUIDs of one and the same time.
-/

set_option autoImplicit false

/-! ## The lexicographic order -/

namespace List

variable {α β : Type*} [LT α] [LT β]

theorem append_lt_append_iff {l₁ m₁ l₂ m₂ : List α} (h : l₁.length = m₁.length) :
    l₁ ++ l₂ < m₁ ++ m₂ ↔ l₁ < m₁ ∨ l₁ = m₁ ∧ l₂ < m₂ := by
  induction l₁ generalizing m₁ with
  | nil =>
    obtain rfl := length_eq_zero_iff.mp h.symm
    simp
  | cons a l₁ ih =>
    cases m₁ with
    | nil => cases h
    | cons b m₁ =>
      simp only [cons_append, cons_lt_cons_iff, ih (Nat.succ.inj h), cons.injEq]
      tauto

theorem map_lt_map_iff {f : α → β} (hf : ∀ {a b}, f a < f b ↔ a < b) (hinj : f.Injective)
    {l m : List α} : l.map f < m.map f ↔ l < m := by
  induction l generalizing m with
  | nil => cases m <;> simp
  | cons a l ih =>
    cases m with
    | nil => simp
    | cons b m => simp only [map_cons, cons_lt_cons_iff, hf, hinj.eq_iff, ih]

end List

/-! ## Numbers and their digits -/

/-- The number that the digits stand for, the most significant one first. -/
def digitsValue {b : Nat} (ds : List (Fin b)) : Nat := Nat.ofDigits b (ds.map Fin.val).reverse

section DigitsValue

variable {b : Nat} {ds es : List (Fin b)}

theorem digitsValue_append (ds es : List (Fin b)) :
    digitsValue (ds ++ es) = digitsValue ds * b ^ es.length + digitsValue es := by
  simp only [digitsValue, List.map_append, List.reverse_append, Nat.ofDigits_append,
    List.length_reverse, List.length_map]
  ring

theorem digitsValue_lt (hb : 1 < b) (ds : List (Fin b)) : digitsValue ds < b ^ ds.length := by
  have hlt := Nat.ofDigits_lt_base_pow_length (l := (ds.map Fin.val).reverse) hb (by simp)
  simpa [digitsValue] using hlt

/-- **Digits compare as their numbers do.** -/
theorem digitsValue_lt_iff (hb : 1 < b) (h : ds.length = es.length) :
    digitsValue ds < digitsValue es ↔ ds < es := by
  induction ds generalizing es with
  | nil =>
    obtain rfl := List.length_eq_zero_iff.mp h.symm
    simp
  | cons d ds ih =>
    cases es with
    | nil => cases h
    | cons e es =>
      have hlen : ds.length = es.length := Nat.succ.inj h
      have hone : ∀ (d : Fin b) ds, digitsValue (d :: ds) =
          d.val * b ^ ds.length + digitsValue ds := fun d ds => by
        simpa [digitsValue] using digitsValue_append [d] ds
      have hd := digitsValue_lt hb ds
      have he := digitsValue_lt hb es
      rw [hone, hone, List.cons_lt_cons_iff, ← ih hlen, hlen]
      rw [hlen] at hd
      rcases lt_trichotomy d e with hlt | rfl | hlt
      · have hstep : (d.val + 1) * b ^ es.length ≤ e.val * b ^ es.length :=
          Nat.mul_le_mul_right _ hlt
        rw [Nat.succ_mul] at hstep
        exact iff_of_true (by omega) (.inl hlt)
      · simp
      · have hstep : (e.val + 1) * b ^ es.length ≤ d.val * b ^ es.length :=
          Nat.mul_le_mul_right _ hlt
        rw [Nat.succ_mul] at hstep
        refine iff_of_false (by omega) ?_
        rintro (h | ⟨rfl, -⟩)
        · exact h.asymm hlt
        · exact lt_irrefl _ hlt

theorem digitsValue_inj (hb : 1 < b) (h : ds.length = es.length) :
    digitsValue ds = digitsValue es ↔ ds = es := by
  refine ⟨fun he => ?_, congrArg _⟩
  have hnlt : ¬ ds < es := fun hlt => he.not_lt ((digitsValue_lt_iff hb h).mpr hlt)
  have hngt : ¬ es < ds := fun hlt => he.not_gt ((digitsValue_lt_iff hb h.symm).mpr hlt)
  exact le_antisymm (not_lt.mp hngt) (not_lt.mp hnlt)

end DigitsValue

namespace Uuid

/-! ## Text -/

theorem hexDigit_lt_hexDigit : ∀ {d e : Fin 16}, hexDigit d < hexDigit e ↔ d < e := by decide

theorem hexDigit_injective : Function.Injective hexDigit := by
  intro d e h
  have := congrArg hexVal h
  rwa [hexVal_hexDigit, hexVal_hexDigit, Option.some.injEq] at this

/-- The hyphens do not count. -/
theorem hyphenate_lt_hyphenate {ns : List Nat} {l m : List Char} (h : l.length = m.length) :
    hyphenate ns l < hyphenate ns m ↔ l < m := by
  induction ns generalizing l m with
  | nil => rfl
  | cons n ns ih =>
    have htake : (l.take n).length = (m.take n).length := by simp [h]
    have hdrop : (l.drop n).length = (m.drop n).length := by simp [h]
    simp only [hyphenate]
    rw [List.append_lt_append_iff htake, List.cons_lt_cons_iff, ih hdrop]
    conv_rhs => rw [← List.take_append_drop n l, ← List.take_append_drop n m,
      List.append_lt_append_iff htake]
    simp

theorem toString_lt_toString {u v : Uuid} : u.toString < v.toString ↔ u.digits < v.digits := by
  have hlen : (u.digits.map hexDigit).length = (v.digits.map hexDigit).length := by
    simp [u.length_digits, v.length_digits]
  rw [String.lt_iff_toList_lt]
  simp only [toString, String.toList_ofList]
  rw [hyphenate_lt_hyphenate hlen, List.map_lt_map_iff hexDigit_lt_hexDigit hexDigit_injective]

/-! ## Time -/

theorem digits_eq (u : Uuid) :
    u.digits = u.timeLow ++ (u.timeMid ++ ([u.digit 12] ++ (u.timeHi ++ u.nodeDigits))) := by
  have hall : u.digits = (List.finRange 32).map u.digit := by
    apply List.ext_getElem
    · simp [u.length_digits]
    · intro i hi hi'
      simp [digit]
  exact hall

/-- The 60-bit timestamp of a version-1 UUID. -/
def timestamp (u : Uuid) : Nat := digitsValue u.timestampDigits

@[simp] theorem length_timeLow (u : Uuid) : u.timeLow.length = 8 := rfl

@[simp] theorem length_timeMid (u : Uuid) : u.timeMid.length = 4 := rfl

@[simp] theorem length_timeHi (u : Uuid) : u.timeHi.length = 3 := rfl

theorem timestamp_eq (u : Uuid) : u.timestamp =
    (digitsValue u.timeHi * 2 ^ 16 + digitsValue u.timeMid) * 2 ^ 32 + digitsValue u.timeLow := by
  show digitsValue (u.timeHi ++ u.timeMid ++ u.timeLow) = _
  rw [digitsValue_append, digitsValue_append, length_timeLow, length_timeMid]
  norm_num

/-- The fields of the timestamp, as numbers. -/
theorem timestamp_fields (u : Uuid) : u.timestamp % 2 ^ 32 = digitsValue u.timeLow ∧
    u.timestamp / 2 ^ 32 % 2 ^ 16 = digitsValue u.timeMid ∧
    u.timestamp / 2 ^ 48 = digitsValue u.timeHi := by
  have hlow := digitsValue_lt (by decide) u.timeLow
  have hmid := digitsValue_lt (by decide) u.timeMid
  have htime := u.timestamp_eq
  rw [length_timeLow] at hlow
  rw [length_timeMid] at hmid
  omega

/-- A time that comes first in the order of texts: by its low 32 bits, then by the middle 16, then
by the high 12. -/
def TextBelow (t t' : Nat) : Prop :=
  t % 2 ^ 32 < t' % 2 ^ 32 ∨ t % 2 ^ 32 = t' % 2 ^ 32 ∧
    (t / 2 ^ 32 % 2 ^ 16 < t' / 2 ^ 32 % 2 ^ 16 ∨ t / 2 ^ 32 % 2 ^ 16 = t' / 2 ^ 32 % 2 ^ 16 ∧
      t / 2 ^ 48 < t' / 2 ^ 48)

/-- From a time to a later one the low 32 bits fall back; or they are the same, and the middle 16
fall back. -/
def FallsBack (t t' : Nat) : Prop :=
  t < t' ∧ (t' % 2 ^ 32 < t % 2 ^ 32 ∨ t' % 2 ^ 32 = t % 2 ^ 32 ∧
    t' / 2 ^ 32 % 2 ^ 16 < t / 2 ^ 32 % 2 ^ 16)

instance (t t' : Nat) : Decidable (FallsBack t t') := inferInstanceAs (Decidable (_ ∧ _))

theorem FallsBack.textBelow {t t' : Nat} (h : FallsBack t t') : TextBelow t' t := by
  obtain ⟨-, hlow | ⟨hlow, hmid⟩⟩ := h
  · exact .inl hlow
  · exact .inr ⟨hlow, .inl hmid⟩

theorem fallsBack_or_textBelow {t t' : Nat} (h : t < t') : FallsBack t t' ∨ TextBelow t t' := by
  unfold FallsBack TextBelow
  omega

theorem TextBelow.asymm {t t' : Nat} (h : TextBelow t t') : ¬ TextBelow t' t := by
  unfold TextBelow at h ⊢
  omega

section Order

variable {u v : Uuid}

theorem timestamp_eq_iff : u.timestamp = v.timestamp ↔ u.timestampDigits = v.timestampDigits :=
  digitsValue_inj (by decide) rfl

/-- The order of a `timeuuid` column. -/
theorem lt_iff_timestamp (h : u.digit 12 = v.digit 12) :
    u < v ↔ u.timestamp < v.timestamp ∨
      u.timestamp = v.timestamp ∧ u.signedNodeDigits < v.signedNodeDigits := by
  show u.timeuuidKey < v.timeuuidKey ↔ _
  have hlen : (u.timestampDigits ++ u.signedNodeDigits).length =
      (v.timestampDigits ++ v.signedNodeDigits).length := rfl
  have hlen' : u.timestampDigits.length = v.timestampDigits.length := rfl
  rw [timeuuidKey, timeuuidKey, List.append_lt_append_iff hlen, List.append_lt_append_iff hlen',
    timestamp_eq_iff, timestamp, timestamp, digitsValue_lt_iff (by decide) hlen', h]
  simp

/-- Digits are compared field by field. -/
theorem digits_lt_iff (h : u.digit 12 = v.digit 12) :
    u.digits < v.digits ↔ u.timeLow < v.timeLow ∨ u.timeLow = v.timeLow ∧
      (u.timeMid < v.timeMid ∨ u.timeMid = v.timeMid ∧
        (u.timeHi < v.timeHi ∨ u.timeHi = v.timeHi ∧ u.nodeDigits < v.nodeDigits)) := by
  have hself : ¬ [v.digit 12] < [v.digit 12] := lt_irrefl _
  rw [digits_eq, digits_eq, h, List.append_lt_append_iff (by simp),
    List.append_lt_append_iff (by simp), List.append_lt_append_iff (by simp),
    List.append_lt_append_iff (by simp)]
  simp only [hself, false_or, true_and]

theorem timestamp_eq_iff_fields : u.timestamp = v.timestamp ↔
    digitsValue u.timeLow = digitsValue v.timeLow ∧ digitsValue u.timeMid = digitsValue v.timeMid ∧
      digitsValue u.timeHi = digitsValue v.timeHi := by
  have hu := u.timestamp_fields
  have hv := v.timestamp_fields
  refine ⟨fun h => ?_, fun ⟨hlow, hmid, hhi⟩ => ?_⟩
  · rw [← hu.1, ← hv.1, ← hu.2.1, ← hv.2.1, ← hu.2.2, ← hv.2.2, h]
    exact ⟨rfl, rfl, rfl⟩
  · rw [timestamp_eq, timestamp_eq, hlow, hmid, hhi]

/-- **The order of the texts.** -/
theorem toString_lt_iff (h : u.digit 12 = v.digit 12) :
    u.toString < v.toString ↔ TextBelow u.timestamp v.timestamp ∨
      u.timestamp = v.timestamp ∧ u.nodeDigits < v.nodeDigits := by
  obtain ⟨hlow, hmid, hhi⟩ := u.timestamp_fields
  obtain ⟨hlow', hmid', hhi'⟩ := v.timestamp_fields
  have hb : 1 < 16 := by decide
  rw [toString_lt_toString, digits_lt_iff h, timestamp_eq_iff_fields, TextBelow, hlow, hmid, hhi,
    hlow', hmid', hhi', ← digitsValue_lt_iff hb (by simp), ← digitsValue_lt_iff hb (by simp),
    ← digitsValue_lt_iff hb (by simp), ← digitsValue_inj hb (by simp),
    ← digitsValue_inj hb (by simp), ← digitsValue_inj hb (by simp)]
  simp only [and_or_left, or_assoc, and_assoc]

end Order

end Uuid
