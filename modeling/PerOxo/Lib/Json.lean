import PerOxo.Lib.Uuid

/-!
# JSON text

Strings and natural numbers as `serde_json` writes them, and how they are read back from the
front of a text: `readString_quote` and `readNat_append` say that reading inverts writing,
whatever follows. A reader takes what is written here and some more (all the escapes, any number
of leading zeros), not all of JSON.
-/

set_option autoImplicit false

namespace Json

/-! ## Strings -/

/-- A character of a string, escaped where it has to be. -/
def escape (c : Char) : List Char :=
  match c.toNat with
  | 34 => ['\\', '"']
  | 92 => ['\\', '\\']
  | 8 => ['\\', 'b']
  | 12 => ['\\', 'f']
  | 10 => ['\\', 'n']
  | 13 => ['\\', 'r']
  | 9 => ['\\', 't']
  | n =>
      if n < 32 then
        ['\\', 'u', '0', '0', Uuid.hexDigit (Uuid.lastDigit (n / 16)),
          Uuid.hexDigit (Uuid.lastDigit n)]
      else [c]

def quote (s : String) : List Char := '"' :: (s.toList.flatMap escape ++ ['"'])

/-- The character after a backslash. -/
def unescape : Char → Option Char
  | '"' => some '"'
  | '\\' => some '\\'
  | '/' => some '/'
  | 'b' => some (Char.ofNat 8)
  | 'f' => some (Char.ofNat 12)
  | 'n' => some (Char.ofNat 10)
  | 'r' => some (Char.ofNat 13)
  | 't' => some (Char.ofNat 9)
  | _ => none

/-- Four hexadecimal digits; no half of a surrogate pair. -/
def readHex (a b c d : Char) : Option Char :=
  match Uuid.hexVal a, Uuid.hexVal b, Uuid.hexVal c, Uuid.hexVal d with
  | some a, some b, some c, some d =>
      let n := ((a.val * 16 + b.val) * 16 + c.val) * 16 + d.val
      if n.isValidChar then some (Char.ofNat n) else none
  | _, _, _, _ => none

/-- The rest of a string, up to the quote that ends it, and what follows. -/
def readBody : List Char → Option (List Char × List Char)
  | [] => none
  | '"' :: rest => some ([], rest)
  | '\\' :: 'u' :: a :: b :: c :: d :: rest =>
      match readHex a b c d with
      | some x => (readBody rest).map fun p => (x :: p.1, p.2)
      | none => none
  | '\\' :: e :: rest =>
      match unescape e with
      | some x => (readBody rest).map fun p => (x :: p.1, p.2)
      | none => none
  | x :: rest => if x.toNat < 32 then none else (readBody rest).map fun p => (x :: p.1, p.2)

def readString : List Char → Option (String × List Char)
  | '"' :: rest => (readBody rest).map fun p => (String.ofList p.1, p.2)
  | _ => none

theorem readHex_escape : ∀ n, n < 32 →
    readHex '0' '0' (Uuid.hexDigit (Uuid.lastDigit (n / 16))) (Uuid.hexDigit (Uuid.lastDigit n)) =
      some (Char.ofNat n) := by
  decide

/-- A character that needs no escape. -/
theorem readBody_cons {c : Char} (hquote : c.toNat ≠ 34) (hslash : c.toNat ≠ 92)
    (hcontrol : ¬ c.toNat < 32) (rest : List Char) :
    readBody (c :: rest) = (readBody rest).map fun p => (c :: p.1, p.2) := by
  rw [readBody.eq_def]
  split
  · next h => cases h
  · next h => exact absurd (congrArg Char.toNat (List.cons.inj h).1) hquote
  · next h => exact absurd (congrArg Char.toNat (List.cons.inj h).1) hslash
  · next h => exact absurd (congrArg Char.toNat (List.cons.inj h).1) hslash
  · next x l h =>
    obtain ⟨rfl, rfl⟩ := List.cons.inj h
    rw [if_neg hcontrol]

theorem readBody_escape (c : Char) (rest : List Char) :
    readBody (escape c ++ rest) = (readBody rest).map fun p => (c :: p.1, p.2) := by
  have hofNat : ∀ n, c.toNat = n → Char.ofNat n = c := by
    rintro n rfl
    exact Char.ofNat_toNat c
  unfold escape
  split
  · next h => rw [← hofNat 34 h]; rfl
  · next h => rw [← hofNat 92 h]; rfl
  · next h => rw [← hofNat 8 h]; rfl
  · next h => rw [← hofNat 12 h]; rfl
  · next h => rw [← hofNat 10 h]; rfl
  · next h => rw [← hofNat 13 h]; rfl
  · next h => rw [← hofNat 9 h]; rfl
  · next h34 h92 h8 h12 h10 h13 h9 =>
    split
    · next hlt =>
      simp only [List.cons_append, List.nil_append, readBody, readHex_escape _ hlt,
        Char.ofNat_toNat]
    · next hlt => exact readBody_cons h34 h92 hlt rest

theorem readBody_quote (l rest : List Char) :
    readBody (l.flatMap escape ++ '"' :: rest) = some (l, rest) := by
  induction l with
  | nil => rfl
  | cons c l ih => rw [List.flatMap_cons, List.append_assoc, readBody_escape, ih]; rfl

/-- **Reading a string inverts writing it.** -/
theorem readString_quote (s : String) (rest : List Char) :
    readString (quote s ++ rest) = some (s, rest) := by
  have hbody : readBody (s.toList.flatMap escape ++ ['"'] ++ rest) = some (s.toList, rest) := by
    rw [List.append_assoc]
    exact readBody_quote s.toList rest
  rw [quote, List.cons_append, readString, hbody, Option.map_some, String.ofList_toList]

/-! ## Numbers -/

/-- A number, as far as its digits go. -/
def readNat (l : List Char) : Option (Nat × List Char) :=
  match l.takeWhile Char.isDigit with
  | [] => none
  | digits => some (Nat.ofDigitChars 10 digits 0, l.dropWhile Char.isDigit)

/-- **Reading a number inverts writing it**, where no digit follows. -/
theorem readNat_append (n : Nat) {c : Char} (hc : c.isDigit = false) (rest : List Char) :
    readNat (Nat.toDigits 10 n ++ c :: rest) = some (n, c :: rest) := by
  have hdigits : ∀ d ∈ Nat.toDigits 10 n, d.isDigit = true := fun d hd =>
    Nat.isDigit_of_mem_toDigits (by decide) (by decide) hd
  have htake : (Nat.toDigits 10 n ++ c :: rest).takeWhile Char.isDigit = Nat.toDigits 10 n := by
    rw [List.takeWhile_append_of_pos hdigits, List.takeWhile_cons, hc]
    simp
  have hdrop : (Nat.toDigits 10 n ++ c :: rest).dropWhile Char.isDigit = c :: rest := by
    rw [List.dropWhile_append_of_pos hdigits, List.dropWhile_cons, hc]
    simp
  rw [readNat, htake, hdrop]
  split
  · next h => exact absurd h Nat.toDigits_ne_nil
  · rw [Nat.ofDigitChars_toDigits (by decide) (by decide)]

/-- A number with its sign. -/
def writeInt (n : Int) : List Char :=
  if n < 0 then '-' :: Nat.toDigits 10 n.natAbs else Nat.toDigits 10 n.natAbs

def readInt : List Char → Option (Int × List Char)
  | '-' :: l => (readNat l).map fun p => (-p.1, p.2)
  | l => (readNat l).map fun p => (p.1, p.2)

theorem readInt_append (n : Int) {c : Char} (hc : c.isDigit = false) (rest : List Char) :
    readInt (writeInt n ++ c :: rest) = some (n, c :: rest) := by
  have hnat := readNat_append n.natAbs hc rest
  unfold writeInt
  split
  · next hn =>
    rw [List.cons_append, readInt, hnat, Option.map_some, ← Int.eq_neg_natAbs_of_nonpos hn.le]
  · next hn =>
    -- The first character is a digit.
    cases hd : Nat.toDigits 10 n.natAbs with
    | nil => exact absurd hd Nat.toDigits_ne_nil
    | cons d ds =>
      have hdigit : d.isDigit = true :=
        Nat.isDigit_of_mem_toDigits (by decide) (by decide) (hd ▸ List.mem_cons_self)
      rw [hd] at hnat
      unfold readInt
      split
      · next l hl =>
        obtain rfl := (List.cons.inj hl).1
        cases hdigit
      · rw [hnat, Option.map_some, Int.natAbs_of_nonneg (Int.not_lt.mp hn)]

/-- An integer of `bits` bits. -/
def InRange (bits : Nat) (n : Int) : Prop := -2 ^ (bits - 1) ≤ n ∧ n < 2 ^ (bits - 1)

instance (bits : Nat) (n : Int) : Decidable (InRange bits n) := inferInstanceAs (Decidable (_ ∧ _))

/-- A number in the range of its field. -/
def readInRange (bits : Nat) (l : List Char) : Option (Int × List Char) :=
  (readInt l).filter fun p => decide (InRange bits p.1)

theorem readInRange_append {bits : Nat} {n : Int} (hn : InRange bits n) {c : Char}
    (hc : c.isDigit = false) (rest : List Char) :
    readInRange bits (writeInt n ++ c :: rest) = some (n, c :: rest) := by
  rw [readInRange, readInt_append n hc rest]
  exact Option.filter_some_pos (decide_eq_true hn)

/-! ## Fixed text -/

/-- What follows a text at the front. -/
def readLiteral : List Char → List Char → Option (List Char)
  | [], l => some l
  | _ :: _, [] => none
  | c :: cs, x :: l => if c = x then readLiteral cs l else none

@[simp] theorem readLiteral_append (cs l : List Char) : readLiteral cs (cs ++ l) = some l := by
  induction cs with
  | nil => rfl
  | cons c cs ih => simp [readLiteral, ih]

/-! ## Fields -/

/-- The name of a field after `sep`: a brace for the first field, else a comma. -/
def field (sep : Char) (name : String) : List Char := sep :: '"' :: (name.toList ++ ['"', ':'])

def stringField (sep : Char) (name s : String) : List Char := field sep name ++ quote s

def intField (sep : Char) (name : String) (n : Int) : List Char := field sep name ++ writeInt n

def readStringField (sep : Char) (name : String) (l : List Char) : Option (String × List Char) :=
  (readLiteral (field sep name) l).bind readString

def readIntField (bits : Nat) (sep : Char) (name : String) (l : List Char) :
    Option (Int × List Char) :=
  (readLiteral (field sep name) l).bind (readInRange bits)

theorem readStringField_append (sep : Char) (name s : String) (rest : List Char) :
    readStringField sep name (stringField sep name s ++ rest) = some (s, rest) := by
  rw [readStringField, stringField, List.append_assoc, readLiteral_append, Option.bind_some]
  exact readString_quote s rest

theorem readIntField_append {bits : Nat} {n : Int} (hn : InRange bits n) (sep : Char)
    (name : String) {c : Char} (hc : c.isDigit = false) (rest : List Char) :
    readIntField bits sep name (intField sep name n ++ c :: rest) = some (n, c :: rest) := by
  rw [readIntField, intField, List.append_assoc, readLiteral_append, Option.bind_some]
  exact readInRange_append hn hc rest

end Json
