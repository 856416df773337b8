import CompilerDriver.Proofs.Text.Digits

/-!
# Numbers read into words

Digits are read into a word of 64 bits one by one, and there has to be room for the number after each of them. A
further digit never makes a number smaller, so where there is no room on the way, there is none for the whole number
(`foldlM_pushDigit?`). Hence a word is read exactly where it holds the number that is written
(`unsignedWord?_eq_some_iff`), however many digits there are.

Which number that is, `IsDecimal` and `IsUnsigned` say in terms of the standard library.
-/

namespace CompilerDriver.Digits

/-! ## Decimal numbers -/

/-- The characters are digits, at least one, and in decimal they write the number. -/
structure IsDecimal (digits : List Char) (n : Nat) : Prop where
  ne_nil : digits ≠ []
  isDigit : ∀ c ∈ digits, c.isDigit = true
  value_eq : Nat.ofDigitChars 10 digits 0 = n

/-- The characters write the number in decimal, behind a plus sign or without one. -/
def IsUnsigned (cs : List Char) (n : Nat) : Prop :=
  ∃ digits, IsDecimal digits n ∧ (cs = digits ∨ cs = '+' :: digits)

/-- A plus sign is no digit. -/
theorem not_isDecimal_plus (digits : List Char) (n : Nat) : ¬IsDecimal ('+' :: digits) n := by
  intro h
  exact absurd (h.isDigit '+' List.mem_cons_self) (by decide)

theorem IsUnsigned.unique {cs : List Char} {m n : Nat} (hm : IsUnsigned cs m) (hn : IsUnsigned cs n) :
    m = n := by
  obtain ⟨digits, hdigits, hcs⟩ := hm
  obtain ⟨digits', hdigits', hcs'⟩ := hn
  have hsame : digits = digits' := by
    rcases hcs with rfl | rfl <;> rcases hcs' with rfl | hcs'
    · rfl
    · exact absurd (hcs' ▸ hdigits) (not_isDecimal_plus digits' m)
    · exact absurd hdigits' (not_isDecimal_plus digits n)
    · exact (List.cons.inj hcs').2
  rw [← hdigits.value_eq, ← hdigits'.value_eq, hsame]

theorem valueFrom_eq (n : Nat) (cs : List Char) : valueFrom n cs = Nat.ofDigitChars 10 cs n := by
  induction cs generalizing n with
  | nil => rfl
  | cons c cs ih =>
    rw [Nat.ofDigitChars_cons, Nat.mul_comm 10 n]
    exact ih (n * 10 + digitValue c)

theorem isDecimal_iff {cs : List Char} {n : Nat} :
    IsDecimal cs n ↔ cs ≠ [] ∧ cs.all isDigit = true ∧ value cs = n := by
  rw [value, valueFrom_eq, List.all_eq_true]
  constructor
  · rintro ⟨hne, hdigits, hvalue⟩
    exact ⟨hne, hdigits, hvalue⟩
  · rintro ⟨hne, hdigits, hvalue⟩
    exact ⟨hne, hdigits, hvalue⟩

/-- The text of a number writes it. -/
theorem isDecimal_toString (n : Nat) : IsDecimal (toString n).toList n := by
  rw [Nat.toString_eq_ofList_toDigits, String.toList_ofList]
  exact {
    ne_nil := Nat.toDigits_ne_nil
    isDigit := fun c hc => Nat.isDigit_of_mem_toDigits (by decide) (by decide) hc
    value_eq := Nat.ofDigitChars_ten_toDigits }

/-! ## Reading digits -/

theorem word?_eq_some_iff {n : Nat} {w : UInt64} : word? n = some w ↔ w.toNat = n := by
  rw [word?]
  constructor
  · intro h
    split at h
    next hn =>
      obtain rfl := Option.some.inj h
      exact UInt64.toNat_ofNat_of_lt' hn
    next => cases h
  · rintro rfl
    rw [if_pos w.toNat_lt_size, UInt64.ofNat_toNat]

/-- A digit is pushed into a word if there is room for the number with this digit. -/
theorem pushDigit?_eq_some_iff {n w : UInt64} {c : Char} :
    pushDigit? n c = some w ↔ isDigit c = true ∧ w.toNat = n.toNat * 10 + digitValue c := by
  rw [pushDigit?]
  split
  next hc =>
    simp only [Option.bind_eq_some_iff, word?_eq_some_iff, hc, true_and]
    constructor
    · rintro ⟨tens, htens, hw⟩
      rw [hw, htens]
    · intro hw
      -- the number with the digit has room, so it had room without
      have hroom := w.toNat_lt_size
      have htens := UInt64.toNat_ofNat_of_lt' (n := n.toNat * 10) (by omega)
      exact ⟨_, htens, by rw [hw, htens]⟩
  next hc => simp [hc]

/-- Digits are pushed into a word, one after the other, if there is room for the number with all of them. -/
theorem foldlM_pushDigit? {cs : List Char} {n w : UInt64} :
    cs.foldlM pushDigit? n = some w ↔ cs.all isDigit = true ∧ w.toNat = valueFrom n.toNat cs := by
  induction cs generalizing n with
  | nil =>
    rw [List.foldlM_nil, Option.pure_def, Option.some.injEq, ← UInt64.toNat_inj, eq_comm]
    simp [valueFrom]
  | cons c cs ih =>
    have hvalue : valueFrom n.toNat (c :: cs) = valueFrom (n.toNat * 10 + digitValue c) cs := rfl
    simp only [List.foldlM_cons, Option.bind_eq_bind, Option.bind_eq_some_iff, pushDigit?_eq_some_iff, ih,
      List.all_cons, Bool.and_eq_true, hvalue]
    constructor
    · rintro ⟨next, ⟨hc, hnext⟩, hcs, hw⟩
      exact ⟨⟨hc, hcs⟩, by rw [hw, hnext]⟩
    · rintro ⟨⟨hc, hcs⟩, hw⟩
      -- the digits that are left do not make the number smaller
      have hle := le_valueFrom (n.toNat * 10 + digitValue c) cs
      have hroom := w.toNat_lt_size
      have hnext := UInt64.toNat_ofNat_of_lt' (n := n.toNat * 10 + digitValue c) (by omega)
      exact ⟨_, ⟨hc, hnext⟩, hcs, by rw [hw, hnext]⟩

theorem wordOfDigits?_eq_some_iff {cs : List Char} {w : UInt64} :
    wordOfDigits? cs = some w ↔ IsDecimal cs w.toNat := by
  rw [isDecimal_iff]
  cases cs with
  | nil => simp [wordOfDigits?]
  | cons c cs =>
    show (c :: cs).foldlM pushDigit? 0 = some w ↔ _
    rw [foldlM_pushDigit?, eq_comm (a := w.toNat)]
    simp [value]

/-- A word is read if the characters write its number. -/
theorem unsignedWord?_eq_some_iff {cs : List Char} {w : UInt64} :
    unsignedWord? cs = some w ↔ IsUnsigned cs w.toNat := by
  rw [unsignedWord?.eq_def]
  split
  next digits =>
    rw [wordOfDigits?_eq_some_iff]
    constructor
    · intro h
      exact ⟨digits, h, .inr rfl⟩
    · rintro ⟨_, h, rfl | hcons⟩
      · exact absurd h (not_isDecimal_plus digits w.toNat)
      · exact (List.cons.inj hcons).2 ▸ h
  next hsign =>
    rw [wordOfDigits?_eq_some_iff]
    constructor
    · intro h
      exact ⟨cs, h, .inl rfl⟩
    · rintro ⟨digits, h, rfl | rfl⟩
      · exact h
      · exact absurd rfl (hsign digits)

/-- However many digits there are, the number that they write is read, or none if it has no room. -/
theorem map_unsignedWord? {cs : List Char} {n : Nat} (h : IsUnsigned cs n) :
    (unsignedWord? cs).map UInt64.toNat = if n < UInt64.size then some n else none := by
  cases hread : unsignedWord? cs with
  | some w =>
    obtain rfl := h.unique (unsignedWord?_eq_some_iff.1 hread)
    rw [if_pos w.toNat_lt_size, Option.map_some]
  | none =>
    split
    next hn =>
      have hw : (UInt64.ofNat n).toNat = n := UInt64.toNat_ofNat_of_lt' hn
      rw [unsignedWord?_eq_some_iff.2 (hw.symm ▸ h)] at hread
      cases hread
    next => rfl

end CompilerDriver.Digits
