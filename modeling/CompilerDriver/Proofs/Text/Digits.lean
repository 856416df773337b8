import CompilerDriver.Text.Digits

/-!
# Digits inside a longer text

Numbers are written into texts that go on behind them, and a reader has to find where they end. What the
readers of this project need for that is here: a written number is a run of digits that does not begin with
a superfluous zero, and the run ends where the text goes on with something else.

Main statements: `takeWhile_isDigit_append` and `dropWhile_isDigit_append` for the end of a run,
`eq_zero_of_head?_decimal` for its beginning, `value_padded` and `length_padded` for fields of fixed width,
and `unhex?_hex` for bytes.
-/

namespace CompilerDriver.Digits

/-- The text does not go on with a digit. -/
def NoDigitAhead (cs : List Char) : Prop := ∀ c rest, cs = c :: rest → isDigit c = false

theorem noDigitAhead_cons {c : Char} {cs : List Char} (h : isDigit c = false) :
    NoDigitAhead (c :: cs) := by
  intro d rest hd
  cases hd
  exact h

/-! ## Where a run of digits ends -/

theorem takeWhile_isDigit_append {ds rest : List Char} (hd : ds.all isDigit = true)
    (hr : NoDigitAhead rest) : (ds ++ rest).takeWhile isDigit = ds := by
  rw [List.takeWhile_append_of_pos (List.all_eq_true.1 hd)]
  cases rest with
  | nil => simp
  | cons c rest => simp [hr c rest rfl]

theorem dropWhile_isDigit_append {ds rest : List Char} (hd : ds.all isDigit = true)
    (hr : NoDigitAhead rest) : (ds ++ rest).dropWhile isDigit = rest := by
  rw [List.dropWhile_append_of_pos (List.all_eq_true.1 hd)]
  cases rest with
  | nil => rfl
  | cons c rest => simp [hr c rest rfl]

/-! ## How a written number begins -/

theorem exists_decimal_eq_cons (n : Nat) : ∃ d ds, decimal n = d :: ds ∧ isDigit d = true := by
  have hall := decimal_isDigit n
  cases hd : decimal n with
  | nil => exact absurd hd (decimal_ne_nil n)
  | cons d ds =>
    rw [hd, List.all_cons, Bool.and_eq_true] at hall
    exact ⟨d, ds, rfl, hall.1⟩

/-- Only the number zero is written with a zero in front. -/
theorem eq_zero_of_head?_decimal {n : Nat} (h : (decimal n).head? = some '0') : n = 0 := by
  induction n using Nat.strongRecOn with
  | _ n ih =>
    by_cases hn : n < 10
    · rw [decimal_of_lt_ten hn, List.head?_cons, Option.some.injEq] at h
      have hv := (digit_spec hn).2
      rw [h] at hv
      exact hv.symm
    · obtain ⟨d, ds, hds, -⟩ := exists_decimal_eq_cons (n / 10)
      rw [decimal_of_ten_le (by omega), hds, List.cons_append, List.head?_cons] at h
      have := ih (n / 10) (by omega) (by rw [hds, List.head?_cons, h])
      omega

/-! ## Fields of fixed width -/

theorem length_decimal_le (n width : Nat) (h : n < Nat.pow 10 (width + 1)) :
    (decimal n).length ≤ width + 1 := by
  induction width generalizing n with
  | zero =>
    have hn : n < 10 := h
    simp [decimal_of_lt_ten hn]
  | succ width ih =>
    by_cases hn : n < 10
    · simp [decimal_of_lt_ten hn]
    · have hpow : Nat.pow 10 (width + 1 + 1) = Nat.pow 10 (width + 1) * 10 := rfl
      have := ih (n := n / 10) (by omega)
      rw [decimal_of_ten_le (by omega), List.length_append, List.length_singleton]
      omega

/-- A number that fits into its field fills it. -/
theorem length_padded {width n : Nat} (h : (decimal n).length ≤ width) :
    (padded width n).length = width := by
  simp only [padded, List.length_append, List.length_replicate]
  omega

theorem padded_isDigit (width n : Nat) : (padded width n).all isDigit = true := by
  simp only [padded, List.all_append, decimal_isDigit, Bool.and_true]
  rw [List.all_eq_true]
  intro c hc
  rw [List.eq_of_mem_replicate hc]
  rfl

theorem padded_ne_nil (width n : Nat) : padded width n ≠ [] := by
  intro h
  exact decimal_ne_nil n (List.append_eq_nil_iff.1 h).2

theorem valueFrom_zeros (n : Nat) (cs : List Char) :
    valueFrom 0 (List.replicate n '0' ++ cs) = valueFrom 0 cs := by
  induction n with
  | zero => rfl
  | succ n ih => exact ih

@[simp] theorem value_padded (width n : Nat) : value (padded width n) = n := by
  rw [value, padded, valueFrom_zeros, ← value, value_decimal]

/-- Further digits never make a number smaller. -/
theorem le_valueFrom (n : Nat) (cs : List Char) : n ≤ valueFrom n cs := by
  induction cs generalizing n with
  | nil => exact Nat.le_refl n
  | cons c cs ih =>
    have hrest : n * 10 + digitValue c ≤ valueFrom n (c :: cs) := ih (n * 10 + digitValue c)
    omega

/-- Each zero behind a number makes it ten times as large. -/
theorem value_append_zeros (cs : List Char) (n : Nat) :
    value (cs ++ List.replicate n '0') = value cs * Nat.pow 10 n := by
  induction n with
  | zero => simp
  | succ n ih =>
    rw [List.replicate_succ', ← List.append_assoc, value, valueFrom_append, ← value, ih]
    show value cs * Nat.pow 10 n * 10 + 0 = value cs * (Nat.pow 10 n * 10)
    rw [Nat.add_zero, Nat.mul_assoc]

/-! ## Bytes in hexadecimal -/

theorem hexValue?_hexDigit {n : Nat} (h : n < 16) : hexValue? (hexDigit n) = some n := by
  have all : ∀ n : Fin 16, hexValue? (hexDigit n) = some n := by decide
  exact all ⟨n, h⟩

theorem unhex?_hex (bs : List UInt8) : unhex? (hex bs) = some bs := by
  induction bs with
  | nil => rfl
  | cons b bs ih =>
    have hlt := b.toNat_lt
    have hbyte : b.toNat / 16 * 16 + b.toNat % 16 = b.toNat := by omega
    show unhex? (hexDigit (b.toNat / 16) :: hexDigit (b.toNat % 16) :: hex bs) = _
    rw [unhex?, hexValue?_hexDigit (by omega), hexValue?_hexDigit (by omega), ih]
    simp only [Option.bind_eq_bind, Option.bind_some, hbyte, UInt8.ofNat_toNat]
    rfl

theorem hex_inj {bs ds : List UInt8} (h : hex bs = hex ds) : bs = ds := by
  have hread := unhex?_hex bs
  rw [h, unhex?_hex] at hread
  exact (Option.some.inj hread).symm

end CompilerDriver.Digits
