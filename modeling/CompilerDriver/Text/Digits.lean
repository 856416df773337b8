/-!
# Digits

Whole numbers in decimal and bytes in hexadecimal, both ways.

Main statements: `value_decimal` (a written number reads back), `decimal_isDigit`, and
`length_hex`, `hex_isLowerHex` for the digits of a byte string.
-/

namespace CompilerDriver.Digits

/-! ## Decimal -/

/-- Whether a character is an ASCII decimal digit. -/
def isDigit (c : Char) : Bool := '0' ≤ c && c ≤ '9'

/-- The number that a digit stands for. -/
def digitValue (c : Char) : Nat := c.toNat - '0'.toNat

/-- The digit of a number below ten. -/
def digit (n : Nat) : Char := Char.ofNat ('0'.toNat + n)

/-- The number written by some digits after `n` has been read. -/
def valueFrom (n : Nat) (cs : List Char) : Nat := cs.foldl (fun n c => n * 10 + digitValue c) n

/-- The number that some digits write. -/
def value (cs : List Char) : Nat := valueFrom 0 cs

/-- The digits of `n`, put in front of `tail`. -/
def decimalOnto (n : Nat) (tail : List Char) : List Char :=
  if n < 10 then digit n :: tail else decimalOnto (n / 10) (digit (n % 10) :: tail)

/-- A number in decimal, without leading zeros. -/
def decimal (n : Nat) : List Char := decimalOnto n []

/-- A number in decimal, with zeros in front up to `width` digits. -/
def padded (width n : Nat) : List Char :=
  let ds := decimal n
  List.replicate (width - ds.length) '0' ++ ds

/-- A whole number in decimal, with a minus sign where it is negative. -/
def signed (n : Int) : List Char :=
  if n < 0 then '-' :: decimal n.natAbs else decimal n.natAbs

theorem decimalOnto_append (n : Nat) (tail : List Char) :
    decimalOnto n tail = decimal n ++ tail := by
  induction n using Nat.strongRecOn generalizing tail with
  | _ n ih =>
    rw [decimal, decimalOnto.eq_def n tail, decimalOnto.eq_def n []]
    split
    · rfl
    · rw [ih (n / 10) (by omega), ih (n / 10) (by omega) [digit (n % 10)]]
      simp

/-- The last digit of a number stands after the digits of a tenth of it. -/
theorem decimal_of_ten_le {n : Nat} (h : 10 ≤ n) :
    decimal n = decimal (n / 10) ++ [digit (n % 10)] := by
  rw [decimal, decimalOnto, if_neg (by omega), decimalOnto_append]

theorem decimal_of_lt_ten {n : Nat} (h : n < 10) : decimal n = [digit n] := by
  rw [decimal, decimalOnto, if_pos h]

theorem digit_spec {n : Nat} (h : n < 10) :
    isDigit (digit n) = true ∧ digitValue (digit n) = n := by
  match n, h with
  | 0, _ | 1, _ | 2, _ | 3, _ | 4, _ | 5, _ | 6, _ | 7, _ | 8, _ | 9, _ => exact ⟨rfl, rfl⟩

theorem valueFrom_append (n : Nat) (cs ds : List Char) :
    valueFrom n (cs ++ ds) = valueFrom (valueFrom n cs) ds := by
  simp [valueFrom, List.foldl_append]

/-- A written number reads back. -/
@[simp] theorem value_decimal (n : Nat) : value (decimal n) = n := by
  induction n using Nat.strongRecOn with
  | _ n ih =>
    by_cases h : n < 10
    · rw [decimal_of_lt_ten h]
      simp [value, valueFrom, (digit_spec h).2]
    · rw [decimal_of_ten_le (by omega), value, valueFrom_append, ← value, ih (n / 10) (by omega)]
      simp only [valueFrom, List.foldl_cons, List.foldl_nil, (digit_spec (n := n % 10) (by omega)).2]
      omega

/-- A written number is made of digits. -/
theorem decimal_isDigit (n : Nat) : (decimal n).all isDigit = true := by
  induction n using Nat.strongRecOn with
  | _ n ih =>
    by_cases h : n < 10
    · rw [decimal_of_lt_ten h]
      simp [(digit_spec h).1]
    · rw [decimal_of_ten_le (by omega)]
      simp only [List.all_append, ih (n / 10) (by omega), List.all_cons,
        (digit_spec (n := n % 10) (by omega)).1, List.all_nil, Bool.and_self]

theorem decimal_ne_nil (n : Nat) : decimal n ≠ [] := by
  by_cases h : n < 10
  · simp [decimal_of_lt_ten h]
  · simp [decimal_of_ten_le (n := n) (by omega)]

/-- The number that a text of digits writes, if it is one. -/
def value? (cs : List Char) : Option Nat :=
  if cs ≠ [] ∧ cs.all isDigit then some (value cs) else none

/-- The number that digits write behind a plus sign or without one. -/
def unsigned? : List Char → Option Nat
  | '+' :: cs => value? cs
  | cs => value? cs

/-! ## Decimal in words of 64 bits -/

/-- The word that holds a number, if the number has room in one. -/
def word? (n : Nat) : Option UInt64 := if n < UInt64.size then some (UInt64.ofNat n) else none

/-- The word with one more digit behind its number. First the number is made ten times as large, then the digit is
added, and there has to be room each time. -/
def pushDigit? (n : UInt64) (c : Char) : Option UInt64 :=
  if isDigit c then (word? (n.toNat * 10)).bind fun tens => word? (tens.toNat + digitValue c) else none

/-- The number that some digits write, read digit by digit into a word; without digits there is none. -/
def wordOfDigits? : List Char → Option UInt64
  | [] => none
  | cs => cs.foldlM pushDigit? 0

/-- The number that digits write behind a plus sign or without one, read into a word. -/
def unsignedWord? : List Char → Option UInt64
  | '+' :: cs => wordOfDigits? cs
  | cs => wordOfDigits? cs

/-! ## Hexadecimal -/

/-- Whether a character is a digit of lower case hexadecimal. -/
def isLowerHex (c : Char) : Bool := isDigit c || ('a' ≤ c && c ≤ 'f')

/-- The number that a hexadecimal digit of either case stands for. -/
def hexValue? (c : Char) : Option Nat :=
  if isDigit c then some (digitValue c)
  else if 'a' ≤ c ∧ c ≤ 'f' then some (c.toNat - 'a'.toNat + 10)
  else if 'A' ≤ c ∧ c ≤ 'F' then some (c.toNat - 'A'.toNat + 10)
  else none

/-- The lower case digit of a number below sixteen. -/
def hexDigit (n : Nat) : Char :=
  if n < 10 then digit n else Char.ofNat ('a'.toNat + (n - 10))

/-- A byte as two digits. -/
def hexByte (b : UInt8) : List Char := [hexDigit (b.toNat / 16), hexDigit (b.toNat % 16)]

/-- Bytes as digits, two each. -/
def hex (bs : List UInt8) : List Char := bs.flatMap hexByte

/-- The number that some hexadecimal digits write. -/
def hexNumber? (cs : List Char) : Option Nat :=
  cs.foldlM (fun n c => (hexValue? c).map (n * 16 + ·)) 0

/-- The bytes that an even number of digits writes. -/
def unhex? : List Char → Option (List UInt8)
  | [] => some []
  | [_] => none
  | a :: b :: rest => do
    let high ← hexValue? a
    let low ← hexValue? b
    let tail ← unhex? rest
    return UInt8.ofNat (high * 16 + low) :: tail

theorem hexDigit_isLowerHex {n : Nat} (h : n < 16) : isLowerHex (hexDigit n) = true := by
  have all : ∀ n : Fin 16, isLowerHex (hexDigit n) = true := by decide
  exact all ⟨n, h⟩

/-- Two digits a byte. -/
theorem length_hex (bs : List UInt8) : (hex bs).length = 2 * bs.length := by
  induction bs with
  | nil => rfl
  | cons b bs ih =>
    simp only [hex, List.flatMap_cons, List.length_append] at *
    simp only [ih, hexByte, List.length_cons, List.length_nil]
    omega

/-- Bytes are written with lower case digits. -/
theorem hex_isLowerHex (bs : List UInt8) : (hex bs).all isLowerHex = true := by
  induction bs with
  | nil => rfl
  | cons b bs ih =>
    have hb := b.toNat_lt
    simp only [hex, List.flatMap_cons, List.all_append] at *
    simp only [ih, hexByte, List.all_cons, List.all_nil, Bool.and_true,
      hexDigit_isLowerHex (n := b.toNat / 16) (by omega),
      hexDigit_isLowerHex (n := b.toNat % 16) (by omega)]

end CompilerDriver.Digits
