import CompilerDriver.Text.Utf8

/-!
# Text from broken bytes

Reading bytes as text, broken sequences and all, and writing the text again gives bytes that are no fewer
(`length_le_encode_decodeLossy`) and that hold no ASCII character which was not there before
(`mem_of_mem_encode_decodeLossy`): the mark for a broken sequence is as long as the longest of these, and it
is not ASCII.
-/

namespace CompilerDriver.Utf8

theorem encode_append (cs ds : List Char) : encode (cs ++ ds) = encode cs ++ encode ds :=
  List.flatMap_append

theorem follow_le_three {b : Nat} {lead : Lead} (h : Lead.ofByte? b = some lead) : lead.follow ≤ 3 := by
  unfold Lead.ofByte? at h
  repeat' split at h
  all_goals cases h <;> simp

/-! ## Steps that read no character -/

/-- A broken sequence is shorter than the character that it began as. -/
theorem length_of_broken {n low high bits taken k : Nat} {bs rest : Bytes}
    (h : continueWith n low high bits taken bs = .broken k rest) :
    rest <:+ bs ∧ bs.length < n + rest.length := by
  fun_induction continueWith n low high bits taken bs with
  | case1 => cases h
  | case2 => cases h
  | case3 n low high bits taken b bs' hb ih =>
    obtain ⟨hsuffix, hlength⟩ := ih h
    refine ⟨hsuffix.trans (List.suffix_cons b bs'), ?_⟩
    rw [List.length_cons]
    omega
  | case4 n low high bits taken b bs' hb =>
    cases h
    refine ⟨List.suffix_refl _, ?_⟩
    omega

theorem length_of_truncated {n low high bits taken : Nat} {bs : Bytes}
    (h : continueWith n low high bits taken bs = .truncated) : bs.length < n := by
  fun_induction continueWith n low high bits taken bs with
  | case1 => cases h
  | case2 => exact Nat.succ_pos _
  | case3 n low high bits taken b bs' hb ih =>
    have hlength := ih h
    rw [List.length_cons]
    omega
  | case4 => cases h

theorem spec_of_next_broken {b : UInt8} {bs rest : Bytes} {k : Nat} (h : next b bs = .broken k rest) :
    rest <:+ bs ∧ (b :: bs).length ≤ 3 + rest.length := by
  rw [next] at h
  split at h
  next =>
    cases h
    refine ⟨List.suffix_refl _, ?_⟩
    rw [List.length_cons]
    omega
  next lead hlead =>
    obtain ⟨hsuffix, hlength⟩ := length_of_broken h
    have hfollow := follow_le_three hlead
    refine ⟨hsuffix, ?_⟩
    rw [List.length_cons]
    omega

theorem length_of_next_truncated {b : UInt8} {bs : Bytes} (h : next b bs = .truncated) :
    (b :: bs).length ≤ 3 := by
  rw [next] at h
  split at h
  next => cases h
  next lead hlead =>
    have hlength := length_of_truncated h
    have hfollow := follow_le_three hlead
    rw [List.length_cons]
    omega

/-! ## Whole texts -/

/-- The mark for a broken sequence. -/
theorem encode_replacement (cs : List Char) :
    encode ('\uFFFD' :: cs) = 0xEF :: 0xBF :: 0xBD :: encode cs := by
  rw [encode, List.flatMap_cons, show encodeChar '\uFFFD' = [0xEF, 0xBF, 0xBD] by decide]
  rfl

/-- What is well formed is read as what it is. -/
theorem decodeLossy_encodeChar (c : Char) (bs : Bytes) :
    decodeLossy (encodeChar c ++ bs) = c :: decodeLossy bs := by
  obtain ⟨b, rest, hchar, hnext⟩ := next_encodeChar c bs
  rw [hchar, List.cons_append, decodeLossy]
  split
  next c' rest' h =>
    rw [hnext] at h
    cases h
    rfl
  next h =>
    rw [hnext] at h
    cases h
  next h =>
    rw [hnext] at h
    cases h

theorem decodeLossy_encode (cs : List Char) : decodeLossy (encode cs) = cs := by
  induction cs with
  | nil => rw [encode, List.flatMap_nil, decodeLossy]
  | cons c cs ih =>
    rw [encode, List.flatMap_cons, decodeLossy_encodeChar]
    exact congrArg (c :: ·) ih

/-- What is read without a mark is well formed. -/
theorem eq_encode_of_decodeLossy {bs : Bytes} (h : '\uFFFD' ∉ decodeLossy bs) :
    bs = encode (decodeLossy bs) := by
  fun_induction decodeLossy bs with
  | case1 => rfl
  | case2 b rest _ c rest' hchar _ ih =>
    rw [List.mem_cons, not_or] at h
    rw [encodeChar_of_next hchar, encode, List.flatMap_cons]
    exact congrArg (encodeChar c ++ ·) (ih h.2)
  | case3 => exact absurd List.mem_cons_self h
  | case4 => exact absurd List.mem_cons_self h

/-- A text without the mark is read from no other bytes than its own. -/
theorem encode_decodeLossy_eq_iff {bs : Bytes} {cs : List Char} (h : '\uFFFD' ∉ cs) :
    encode (decodeLossy bs) = encode cs ↔ bs = encode cs := by
  constructor
  · intro hsame
    have hread : decodeLossy bs = cs := by
      rw [← decodeLossy_encode (decodeLossy bs), hsame, decodeLossy_encode]
    rw [← hread] at h ⊢
    exact eq_encode_of_decodeLossy h
  · rintro rfl
    rw [decodeLossy_encode]

theorem length_le_encode_decodeLossy (bs : Bytes) : bs.length ≤ (encode (decodeLossy bs)).length := by
  fun_induction decodeLossy bs with
  | case1 => exact Nat.le_refl _
  | case2 b rest _ c rest' hchar _ ih =>
    rw [encodeChar_of_next hchar, encode, List.flatMap_cons, List.length_append, List.length_append]
    exact Nat.add_le_add_left ih _
  | case3 b rest _ k rest' hbroken _ ih =>
    -- no broken sequence has more bytes than the mark that is put in its place
    have hlength := (spec_of_next_broken hbroken).2
    rw [encode_replacement]
    simp only [List.length_cons] at hlength ⊢
    omega
  | case4 b rest _ htruncated =>
    exact length_of_next_truncated htruncated

/-- ASCII characters are never made up. -/
theorem mem_of_mem_encode_decodeLossy {a : UInt8} (ha : a.toNat < 0x80) {bs : Bytes}
    (h : a ∈ encode (decodeLossy bs)) : a ∈ bs := by
  have hmark (cs : List Char) (hmem : a ∈ encode ('\uFFFD' :: cs)) : a ∈ encode cs := by
    rw [encode_replacement] at hmem
    simp only [List.mem_cons] at hmem
    rcases hmem with rfl | rfl | rfl | hmem
    · exact absurd ha (by decide)
    · exact absurd ha (by decide)
    · exact absurd ha (by decide)
    · exact hmem
  fun_induction decodeLossy bs with
  | case1 => exact h
  | case2 b rest _ c rest' hchar _ ih =>
    rw [encode, List.flatMap_cons] at h
    rw [encodeChar_of_next hchar]
    rcases List.mem_append.1 h with h | h
    · exact List.mem_append_left _ h
    · exact List.mem_append_right _ (ih h)
  | case3 b rest _ k rest' hbroken _ ih =>
    have hrest := ih (hmark _ h)
    exact List.mem_cons_of_mem _ ((spec_of_next_broken hbroken).1.subset hrest)
  | case4 b rest _ htruncated =>
    exact absurd (hmark [] h) (by simp [encode])

end CompilerDriver.Utf8
