import CompilerDriver.Json.Strict
import CompilerDriver.Proofs.Text.Digits

/-!
# Records that can be held in memory

What stands in a word of 64 bits lies in the range of double precision (`isFinite_integer`): all its digits are
gathered (`gather_of_lt`), so there is no power of ten to multiply them with. Hence a record without further arrays
or objects, whose values are texts and such numbers, is strict (`isStrict_record`).
-/

namespace CompilerDriver

namespace DoublePrecision

theorem nearestMultiple_le (unit n : Nat) : nearestMultiple unit n ≤ n + unit := by
  have hbelow : n / unit * unit ≤ n := Nat.div_mul_le_self n unit
  rw [nearestMultiple]
  split
  · omega
  · rw [Nat.add_mul, Nat.one_mul]
    omega

/-- Rounding to 53 binary digits doubles a number at most. -/
theorem round_le {n : Nat} (h : n ≠ 0) : round n ≤ 2 * n := by
  have hunit : Nat.pow 2 (n.log2 - 52) ≤ n := by
    calc Nat.pow 2 (n.log2 - 52)
        ≤ Nat.pow 2 n.log2 := Nat.pow_le_pow_right (by decide) (Nat.sub_le _ _)
      _ ≤ n := Nat.log2_self_le h
  have hround := nearestMultiple_le (Nat.pow 2 (n.log2 - 52)) n
  rw [round]
  omega

theorem isFinite_of_lt {n : Nat} (h : n < UInt64.size) : isFinite n 0 = true := by
  simp only [isFinite, Bool.or_eq_true, Bool.and_eq_true, beq_iff_eq, decide_eq_true_eq]
  by_cases hn : n = 0
  · exact .inl hn
  · refine .inr ⟨Nat.zero_le maxPower, ?_⟩
    have hround := round_le hn
    have hone : round (Nat.pow 10 0) = 1 := by decide +kernel
    have hrange : 2 * UInt64.size ≤ overflow := by decide +kernel
    rw [hone]
    omega

end DoublePrecision

namespace JsonNumber

/-- Digits are gathered to the end if a word can hold their number. -/
theorem gather_of_lt {n : Nat} {cs : List Char} (h : Digits.valueFrom n cs < UInt64.size) :
    gather n cs = (Digits.valueFrom n cs, []) := by
  induction cs generalizing n with
  | nil => rfl
  | cons c cs ih =>
    have hnext : n * 10 + Digits.digitValue c < UInt64.size :=
      Nat.lt_of_le_of_lt (Digits.le_valueFrom _ cs) h
    rw [gather, if_pos hnext]
    exact ih h

theorem isFinite_integer (negative : Bool) {magnitude : Nat} (h : magnitude < UInt64.size) :
    (integer negative magnitude).isFinite = true := by
  have hvalue : Digits.valueFrom 0 (Digits.decimal magnitude) = magnitude := Digits.value_decimal magnitude
  have hgather : gather 0 (Digits.decimal magnitude) = (magnitude, []) := by
    rw [gather_of_lt (by rwa [hvalue]), hvalue]
  simp only [isFinite, scaled, hgather, gather]
  exact DoublePrecision.isFinite_of_lt h

end JsonNumber

namespace Json

theorem isStrict_record {members : List (String × Json)}
    (h : ∀ member ∈ members, member.2.depth = 0 ∧ member.2.isPlain = true) :
    (record members).isStrict = true := by
  have hmembers : depthMembers (members.map fun member => (some member.1, member.2)) = 0 ∧
      isPlainMembers (members.map fun member => (some member.1, member.2)) = true := by
    induction members with
    | nil => exact ⟨rfl, rfl⟩
    | cons member rest ih =>
      obtain ⟨⟨hdepth, hplain⟩, hrest⟩ := List.forall_mem_cons.1 h
      obtain ⟨hdepths, hplains⟩ := ih hrest
      simp [depthMembers, isPlainMembers, hdepth, hplain, hdepths, hplains]
  simp [record, isStrict, depth, isPlain, hmembers, maxDepth]

end Json

end CompilerDriver
