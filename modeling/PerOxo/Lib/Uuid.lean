import Mathlib.Algebra.GroupWithZero.Nat
import Mathlib.Data.List.Lex
import Mathlib.Data.Fintype.Pi
import Mathlib.Data.Fintype.Card
import Mathlib.Order.Basic
import Mathlib.Tactic.FinCases

/-!
# UUIDs, their text, and the order of a `timeuuid` column

A UUID is its 32 hexadecimal digits. `Uuid.toString` is the hyphenated lower-case text and
`Uuid.parseStr` accepts the four documented spellings (simple, hyphenated, braced, URN), in
either case. `parseStr_toString` says the second inverts the first.

The order on `Uuid` is the one a `timeuuid` clustering column has: by the 60-bit timestamp,
then by the remaining eight bytes compared as signed bytes. The version digit is not part of
either; it comes last here, so that the order is total on all UUIDs. On version-1 UUIDs, the
only ones such a column holds, that digit is constant.
-/

set_option autoImplicit false

/-- A UUID, most significant digit first. -/
structure Uuid where
  digits : List (Fin 16)
  length_digits : digits.length = 32
  deriving DecidableEq

namespace Uuid

/-! ## Text -/

def hexDigit (d : Fin 16) : Char := Char.ofNat (if d.val < 10 then 48 + d.val else 87 + d.val)

def hexVal (c : Char) : Option (Fin 16) :=
  let n := c.toNat
  if 48 ≤ n ∧ n ≤ 57 then some (Fin.ofNat 16 (n - 48))
  else if 97 ≤ n ∧ n ≤ 102 then some (Fin.ofNat 16 (n - 87))
  else if 65 ≤ n ∧ n ≤ 70 then some (Fin.ofNat 16 (n - 55))
  else none

/-- The last hexadecimal digit of a number. -/
abbrev lastDigit (n : Nat) : Fin 16 := Fin.ofNat 16 n

theorem hexVal_hexDigit : ∀ d : Fin 16, hexVal (hexDigit d) = some d := by decide

/-- Put a hyphen after each of the groups; what is left after the last one follows. -/
def hyphenate : List Nat → List Char → List Char
  | [], l => l
  | n :: ns, l => l.take n ++ '-' :: hyphenate ns (l.drop n)

/-- Take the hyphens out again; `none` where one is missing. -/
def unhyphenate : List Nat → List Char → Option (List Char)
  | [], l => some l
  | n :: ns, l =>
      match l.drop n with
      | '-' :: rest => (unhyphenate ns rest).map (l.take n ++ ·)
      | _ => none

theorem unhyphenate_hyphenate (ns : List Nat) (l : List Char) (h : ns.sum ≤ l.length) :
    unhyphenate ns (hyphenate ns l) = some l := by
  induction ns generalizing l with
  | nil => rfl
  | cons n ns ih =>
    rw [List.sum_cons] at h
    have hn : (l.take n).length = n := by rw [List.length_take]; omega
    have hd : (l.take n ++ '-' :: hyphenate ns (l.drop n)).drop n =
        '-' :: hyphenate ns (l.drop n) := List.drop_left' hn
    have ht : (l.take n ++ '-' :: hyphenate ns (l.drop n)).take n = l.take n :=
      List.take_left' hn
    simp only [unhyphenate, hyphenate, hd, ht]
    rw [ih (l.drop n) (by rw [List.length_drop]; omega)]
    simp

theorem length_hyphenate (ns : List Nat) (l : List Char) (h : ns.sum ≤ l.length) :
    (hyphenate ns l).length = l.length + ns.length := by
  induction ns generalizing l with
  | nil => rfl
  | cons n ns ih =>
    rw [List.sum_cons] at h
    have := ih (l.drop n) (by rw [List.length_drop]; omega)
    simp only [hyphenate, List.length_append, List.length_cons, this, List.length_take,
      List.length_drop]
    omega

/-- The groups of the hyphenated form, the last one left out: 8-4-4-4-12. -/
def groups : List Nat := [8, 4, 4, 4]

def toString (u : Uuid) : String := String.ofList (hyphenate groups (u.digits.map hexDigit))

def parseSimple (l : List Char) : Option Uuid :=
  match l.mapM hexVal with
  | some ds => if h : ds.length = 32 then some ⟨ds, h⟩ else none
  | none => none

def parseHyphenated (l : List Char) : Option Uuid := (unhyphenate groups l).bind parseSimple

def parseStr (s : String) : Option Uuid :=
  let l := s.toList
  if l.length = 32 then parseSimple l
  else if l.length = 36 then parseHyphenated l
  else if l.length = 38 ∧ l.head? = some '{' ∧ l.getLast? = some '}' then
    parseHyphenated l.tail.dropLast
  else if l.length = 45 ∧ l.take 9 = "urn:uuid:".toList then parseHyphenated (l.drop 9)
  else none

theorem mapM_hexVal (ds : List (Fin 16)) : (ds.map hexDigit).mapM hexVal = some ds := by
  induction ds with
  | nil => rfl
  | cons d ds ih => simp [hexVal_hexDigit, ih]

theorem length_toString (u : Uuid) : u.toString.toList.length = 36 := by
  rw [toString, String.toList_ofList, length_hyphenate] <;>
    simp [groups, u.length_digits]

/-- **Parsing inverts printing.** -/
@[simp] theorem parseStr_toString (u : Uuid) : parseStr u.toString = some u := by
  have hlen := u.length_toString
  have hp : parseHyphenated u.toString.toList = some u := by
    rw [toString, String.toList_ofList, parseHyphenated, unhyphenate_hyphenate]
    · rw [Option.bind_some, parseSimple, mapM_hexVal]
      simp [u.length_digits]
    · simp [groups, u.length_digits]
  simp only [parseStr, hlen, hp]
  rfl

theorem toString_injective : Function.Injective toString := by
  intro u v h
  have := congrArg parseStr h
  simpa using this

theorem toString_ne_empty (u : Uuid) : u.toString ≠ "" := by
  intro h
  have := u.length_toString
  rw [h] at this
  simp at this

/-! ## Fields -/

def digit (u : Uuid) (i : Fin 32) : Fin 16 := u.digits.get (i.cast u.length_digits.symm)

theorem ext_digit {u v : Uuid} (h : ∀ i, u.digit i = v.digit i) : u = v := by
  obtain ⟨du, hu⟩ := u
  obtain ⟨dv, hv⟩ := v
  have : du = dv := List.ext_get (hu.trans hv.symm) fun n h₁ _ => h ⟨n, hu ▸ h₁⟩
  subst this
  rfl

/-- There are finitely many, so cursors cannot descend forever. -/
instance : Finite Uuid :=
  Finite.of_injective digit fun _ _ h => ext_digit fun i => congrFun h i

def timeLow (u : Uuid) : List (Fin 16) := [0, 1, 2, 3, 4, 5, 6, 7].map u.digit

def timeMid (u : Uuid) : List (Fin 16) := [8, 9, 10, 11].map u.digit

def timeHi (u : Uuid) : List (Fin 16) := [13, 14, 15].map u.digit

/-- Digits `16..31`, as they are. -/
def nodeDigits (u : Uuid) : List (Fin 16) :=
  [16, 17, 18, 19, 20, 21, 22, 23, 24, 25, 26, 27, 28, 29, 30, 31].map u.digit

/-! ## The order of a `timeuuid` column -/

/-- The 60-bit timestamp, most significant digit first: `time_hi`, `time_mid`, `time_low`. -/
def timestampDigits (u : Uuid) : List (Fin 16) :=
  [13, 14, 15, 8, 9, 10, 11, 0, 1, 2, 3, 4, 5, 6, 7].map u.digit

def flipSign (d : Fin 16) : Fin 16 := Fin.ofNat 16 (d.val + 8)

theorem flipSign_inj : ∀ {d e : Fin 16}, flipSign d = flipSign e ↔ d = e := by decide

/-- Digits `16..31`, the high digit of each byte with its sign bit flipped. -/
def signedNodeDigits (u : Uuid) : List (Fin 16) :=
  [16, 18, 20, 22, 24, 26, 28, 30].flatMap fun i => [flipSign (u.digit i), u.digit (i + 1)]

def timeuuidKey (u : Uuid) : List (Fin 16) :=
  u.timestampDigits ++ u.signedNodeDigits ++ [u.digit 12]

theorem timeuuidKey_injective : Function.Injective timeuuidKey := by
  intro u v h
  simp only [timeuuidKey, timestampDigits, signedNodeDigits, List.map_cons, List.map_nil,
    List.flatMap_cons, List.flatMap_nil, List.cons_append, List.nil_append, List.append_nil,
    List.cons.injEq, flipSign_inj, and_true] at h
  apply ext_digit
  intro i
  fin_cases i <;> simp_all

instance : LinearOrder Uuid := LinearOrder.lift' timeuuidKey timeuuidKey_injective

/-- The version-1 UUID with the given low 32 bits of its timestamp, everything else zero. -/
def ofTime (t : Nat) : Uuid where
  digits := [28, 24, 20, 16, 12, 8, 4, 0].map (fun k => Fin.ofNat 16 (t / 2 ^ k)) ++
    [0, 0, 0, 0, 1, 0, 0, 0, 8, 0, 0, 0] ++ List.replicate 12 0
  length_digits := by simp

/-- The version-1 UUID of the given time, with nothing else in it. -/
def ofTimestamp (t : Nat) : Uuid where
  digits := [28, 24, 20, 16, 12, 8, 4, 0, 44, 40, 36, 32].map (fun k => lastDigit (t / 2 ^ k)) ++
    1 :: [56, 52, 48].map (fun k => lastDigit (t / 2 ^ k)) ++ 8 :: List.replicate 15 0
  length_digits := by simp

end Uuid
