/-!
# UTF-8

Paths and files are bytes, names and documents are text. This module holds both directions of
UTF-8 over `List Char` and `List UInt8`.

* `encode` writes each character in its shortest form.
* `next` reads one character off the front of some bytes. Where none can be read it says how many
  bytes the broken sequence has: as many as could still have begun a character.
* `decode` reads all bytes or gives the place of the first broken sequence.
* `decodeLossy` reads all bytes and shows each broken sequence as one U+FFFD.

Main statements: `decode_encode` (what is written reads back) and `encode_of_decode` (what reads has
been written that way), so text and well-formed bytes are in bijection.
-/

namespace CompilerDriver

/-- A file's contents, or the bytes of a name. -/
abbrev Bytes := List UInt8

namespace Utf8

/-! ## Writing -/

/-- The bytes of one character: one below U+0080, two below U+0800, three below U+10000, else four. -/
def encodeChar (c : Char) : Bytes :=
  let n := c.toNat
  if n < 0x80 then [.ofNat n]
  else if n < 0x800 then [.ofNat (0xC0 + n / 0x40), .ofNat (0x80 + n % 0x40)]
  else if n < 0x10000 then
    [.ofNat (0xE0 + n / 0x1000), .ofNat (0x80 + n / 0x40 % 0x40), .ofNat (0x80 + n % 0x40)]
  else
    [.ofNat (0xF0 + n / 0x40000), .ofNat (0x80 + n / 0x1000 % 0x40),
      .ofNat (0x80 + n / 0x40 % 0x40), .ofNat (0x80 + n % 0x40)]

/-- The bytes of a text. -/
def encode (cs : List Char) : Bytes := cs.flatMap encodeChar

/-! ## Reading one character -/

/-- What the first byte of a character announces. -/
structure Lead where
  /-- The number of bytes that follow. -/
  follow : Nat
  /-- The least byte that may come second. -/
  low : Nat
  /-- The greatest byte that may come second. -/
  high : Nat
  /-- The leading bits of the code point. -/
  bits : Nat

/-- The announcement of a first byte. The ranges for the second byte leave out the overlong forms,
the surrogates and what lies above U+10FFFF; a byte that can begin no character announces nothing. -/
def Lead.ofByte? (b : Nat) : Option Lead :=
  if b < 0x80 then some ⟨0, 0, 0, b⟩
  else if b < 0xC2 then none
  else if b < 0xE0 then some ⟨1, 0x80, 0xBF, b - 0xC0⟩
  else if b = 0xE0 then some ⟨2, 0xA0, 0xBF, 0⟩
  else if b = 0xED then some ⟨2, 0x80, 0x9F, 13⟩
  else if b < 0xF0 then some ⟨2, 0x80, 0xBF, b - 0xE0⟩
  else if b = 0xF0 then some ⟨3, 0x90, 0xBF, 0⟩
  else if b < 0xF4 then some ⟨3, 0x80, 0xBF, b - 0xF0⟩
  else if b = 0xF4 then some ⟨3, 0x80, 0x8F, 4⟩
  else none

/-- What stands at the front of some bytes. -/
inductive Step where
  /-- A character, and the bytes after it. -/
  | char (c : Char) (rest : Bytes)
  /-- A broken sequence of `length` bytes, and the bytes after it. -/
  | broken (length : Nat) (rest : Bytes)
  /-- A character that the end of the bytes cuts short. -/
  | truncated

/-- Reads the `n` bytes that still follow. The first of them lies between `low` and `high`, the others
are ordinary continuation bytes; `taken` bytes have been read, which gave `bits`. -/
def continueWith : (n low high bits taken : Nat) → Bytes → Step
  | 0, _, _, bits, _, rest => .char (Char.ofNat bits) rest
  | _ + 1, _, _, _, _, [] => .truncated
  | n + 1, low, high, bits, taken, b :: rest =>
    if low ≤ b.toNat ∧ b.toNat ≤ high then
      continueWith n 0x80 0xBF (bits * 0x40 + (b.toNat - 0x80)) (taken + 1) rest
    else .broken taken (b :: rest)

/-- Reads one character off the front of `b :: rest`. -/
def next (b : UInt8) (rest : Bytes) : Step :=
  match Lead.ofByte? b.toNat with
  | none => .broken 1 rest
  | some lead => continueWith lead.follow lead.low lead.high lead.bits 1 rest

/-- The bytes that a step leaves over. -/
def Step.rest : Step → Bytes
  | .char _ rest => rest
  | .broken _ rest => rest
  | .truncated => []

theorem length_rest_continueWith (n low high bits taken : Nat) (bs : Bytes) :
    (continueWith n low high bits taken bs).rest.length ≤ bs.length := by
  fun_induction continueWith n low high bits taken bs with
  | case1 => exact Nat.le_refl _
  | case2 => exact Nat.le_refl _
  | case3 n low high bits taken b rest h ih => exact Nat.le_trans ih (Nat.le_succ _)
  | case4 => exact Nat.le_refl _

/-- A step consumes at least the byte it looks at. -/
theorem length_rest_next (b : UInt8) (rest : Bytes) : (next b rest).rest.length ≤ rest.length := by
  unfold next
  split
  · exact Nat.le_refl _
  · exact length_rest_continueWith ..

/-! ## Reading a whole text -/

/-- Where the first broken sequence stands. -/
structure Fault where
  /-- The number of bytes before it. -/
  index : Nat
  /-- Its length, or nothing where the end of the bytes cuts a character short. -/
  length? : Option Nat
deriving DecidableEq, Repr

/-- The wording of a fault. -/
def Fault.message (fault : Fault) : String :=
  match fault.length? with
  | some n => s!"invalid utf-8 sequence of {n} bytes from index {fault.index}"
  | none => s!"incomplete utf-8 byte sequence from index {fault.index}"

/-- Reads bytes of which `index` have been read before. -/
def decodeFrom (index : Nat) (bs : Bytes) : Except Fault (List Char) :=
  match bs with
  | [] => .ok []
  | b :: rest =>
    have := length_rest_next b rest
    match h : next b rest with
    | .char c rest' =>
      have : rest'.length ≤ rest.length := by rw [h] at this; exact this
      match decodeFrom (index + c.utf8Size) rest' with
      | .ok cs => .ok (c :: cs)
      | .error fault => .error fault
    | .broken n _ => .error ⟨index, some n⟩
    | .truncated => .error ⟨index, none⟩
termination_by bs.length

/-- The text of some bytes, or their first fault. -/
def decode (bs : Bytes) : Except Fault (List Char) := decodeFrom 0 bs

/-- The text of some bytes, with U+FFFD in the place of each broken sequence. -/
def decodeLossy (bs : Bytes) : List Char :=
  match bs with
  | [] => []
  | b :: rest =>
    have := length_rest_next b rest
    match h : next b rest with
    | .char c rest' =>
      have : rest'.length ≤ rest.length := by rw [h] at this; exact this
      c :: decodeLossy rest'
    | .broken _ rest' =>
      have : rest'.length ≤ rest.length := by rw [h] at this; exact this
      '\uFFFD' :: decodeLossy rest'
    | .truncated => ['\uFFFD']
termination_by bs.length

/-- The text of some bytes, if they are well formed. -/
def decode? (bs : Bytes) : Option (List Char) := (decode bs).toOption

/-! ## What is written reads back -/

/-- Code points end at U+10FFFF. -/
theorem toNat_lt (c : Char) : c.toNat < 0x110000 := by
  have := c.valid
  simp only [UInt32.isValidChar, Nat.isValidChar] at this
  show c.val.toNat < 0x110000
  omega

/-- No character is a surrogate. -/
theorem not_surrogate (c : Char) : c.toNat < 0xD800 ∨ 0xDFFF < c.toNat := by
  have := c.valid
  simp only [UInt32.isValidChar, Nat.isValidChar] at this
  show c.val.toNat < 0xD800 ∨ 0xDFFF < c.val.toNat
  omega

/-- Reading a written character gives the character and leaves what follows it. -/
theorem next_encodeChar (c : Char) (rest : Bytes) :
    ∃ b bs, encodeChar c = b :: bs ∧ next b (bs ++ rest) = .char c rest := by
  have hlt := toNat_lt c
  have hs := not_surrogate c
  have hc : Char.ofNat c.toNat = c := Char.ofNat_toNat c
  unfold encodeChar
  generalize hn : c.toNat = n at *
  simp only
  split
  · refine ⟨_, _, rfl, ?_⟩
    have e : (UInt8.ofNat n).toNat = n := by simp; omega
    simp [next, Lead.ofByte?, *, continueWith]
  · split
    · refine ⟨_, _, rfl, ?_⟩
      have e : (UInt8.ofNat (0xC0 + n / 0x40)).toNat = 0xC0 + n / 0x40 := by simp; omega
      have e1 : (UInt8.ofNat (0x80 + n % 0x40)).toNat = 0x80 + n % 0x40 := by simp; omega
      have hl : Lead.ofByte? (0xC0 + n / 0x40) = some ⟨1, 0x80, 0xBF, n / 0x40⟩ := by
        unfold Lead.ofByte?
        rw [if_neg (by omega), if_neg (by omega), if_pos (by omega)]
        simp
      simp only [next, e, hl, List.cons_append, List.nil_append, continueWith, e1]
      rw [if_pos (by omega)]
      have : n / 64 * 64 + (128 + n % 64 - 128) = n := by omega
      rw [this, hc]
    · split
      · refine ⟨_, _, rfl, ?_⟩
        have e : (UInt8.ofNat (0xE0 + n / 0x1000)).toNat = 0xE0 + n / 0x1000 := by simp; omega
        have e1 : (UInt8.ofNat (0x80 + n / 0x40 % 0x40)).toNat = 0x80 + n / 0x40 % 0x40 := by
          simp; omega
        have e2 : (UInt8.ofNat (0x80 + n % 0x40)).toNat = 0x80 + n % 0x40 := by simp; omega
        have hl : ∃ low high, Lead.ofByte? (0xE0 + n / 0x1000) = some ⟨2, low, high, n / 0x1000⟩ ∧
            low ≤ 0x80 + n / 0x40 % 0x40 ∧ 0x80 + n / 0x40 % 0x40 ≤ high := by
          unfold Lead.ofByte?
          rw [if_neg (by omega), if_neg (by omega), if_neg (by omega)]
          by_cases h0 : 0xE0 + n / 0x1000 = 0xE0
          · rw [if_pos h0]
            exact ⟨_, _, by rw [show n / 0x1000 = 0 by omega], by omega, by omega⟩
          · rw [if_neg h0]
            by_cases hd : 0xE0 + n / 0x1000 = 0xED
            · rw [if_pos hd]
              exact ⟨_, _, by rw [show n / 0x1000 = 13 by omega], by omega, by omega⟩
            · rw [if_neg hd, if_pos (by omega)]
              exact ⟨_, _, by rw [show 0xE0 + n / 0x1000 - 0xE0 = n / 0x1000 by omega], by omega, by omega⟩
        obtain ⟨low, high, hl, hlow, hhigh⟩ := hl
        simp only [next, e, hl, List.cons_append, List.nil_append, continueWith, e1, e2]
        rw [if_pos ⟨hlow, hhigh⟩, if_pos (by omega)]
        have : (n / 4096 * 64 + (128 + n / 64 % 64 - 128)) * 64 + (128 + n % 64 - 128) = n := by
          omega
        rw [this, hc]
      · refine ⟨_, _, rfl, ?_⟩
        have e : (UInt8.ofNat (0xF0 + n / 0x40000)).toNat = 0xF0 + n / 0x40000 := by simp; omega
        have e1 : (UInt8.ofNat (0x80 + n / 0x1000 % 0x40)).toNat = 0x80 + n / 0x1000 % 0x40 := by
          simp; omega
        have e2 : (UInt8.ofNat (0x80 + n / 0x40 % 0x40)).toNat = 0x80 + n / 0x40 % 0x40 := by
          simp; omega
        have e3 : (UInt8.ofNat (0x80 + n % 0x40)).toNat = 0x80 + n % 0x40 := by simp; omega
        have hl : ∃ low high, Lead.ofByte? (0xF0 + n / 0x40000) = some ⟨3, low, high, n / 0x40000⟩ ∧
            low ≤ 0x80 + n / 0x1000 % 0x40 ∧ 0x80 + n / 0x1000 % 0x40 ≤ high := by
          unfold Lead.ofByte?
          rw [if_neg (by omega), if_neg (by omega), if_neg (by omega), if_neg (by omega),
            if_neg (by omega), if_neg (by omega)]
          by_cases h0 : 0xF0 + n / 0x40000 = 0xF0
          · rw [if_pos h0]
            exact ⟨_, _, by rw [show n / 0x40000 = 0 by omega], by omega, by omega⟩
          · rw [if_neg h0]
            by_cases h4 : 0xF0 + n / 0x40000 < 0xF4
            · rw [if_pos h4]
              exact ⟨_, _, by rw [show 0xF0 + n / 0x40000 - 0xF0 = n / 0x40000 by omega], by omega, by omega⟩
            · rw [if_neg h4, if_pos (by omega)]
              exact ⟨_, _, by rw [show n / 0x40000 = 4 by omega], by omega, by omega⟩
        obtain ⟨low, high, hl, hlow, hhigh⟩ := hl
        simp only [next, e, hl, List.cons_append, List.nil_append, continueWith, e1, e2, e3]
        rw [if_pos ⟨hlow, hhigh⟩, if_pos (by omega), if_pos (by omega)]
        have : ((n / 262144 * 64 + (128 + n / 4096 % 64 - 128)) * 64
            + (128 + n / 64 % 64 - 128)) * 64 + (128 + n % 64 - 128) = n := by omega
        rw [this, hc]

theorem decodeFrom_encode (index : Nat) (cs : List Char) :
    decodeFrom index (encode cs) = .ok cs := by
  induction cs generalizing index with
  | nil => rw [encode, List.flatMap_nil, decodeFrom]
  | cons c cs ih =>
    obtain ⟨b, bs, hb, hn⟩ := next_encodeChar c (encode cs)
    have : encode (c :: cs) = b :: (bs ++ encode cs) := by
      simp [encode, List.flatMap_cons, hb]
    rw [this, decodeFrom]
    split
    · next h => rw [hn] at h; cases h; rw [ih]
    · next h => rw [hn] at h; cases h
    · next h => rw [hn] at h; cases h

/-- What is written reads back. -/
theorem decode_encode (cs : List Char) : decode (encode cs) = .ok cs :=
  decodeFrom_encode 0 cs

/-! ## What reads has been written that way -/

/-- A code point in range is the code point of its character. -/
theorem toNat_ofNat_char {n : Nat} (h : n < 0xD800 ∨ (0xDFFF < n ∧ n < 0x110000)) :
    (Char.ofNat n).toNat = n := by
  have : n.isValidChar := by unfold Nat.isValidChar; omega
  rw [Char.ofNat, dif_pos this]
  rfl

/-- A byte is told by its value. -/
theorem ofNat_eq_of_toNat {b : UInt8} {n : Nat} (h : n = b.toNat) : UInt8.ofNat n = b := by
  rw [h]; simp

/-- If the last byte of a character was read, it was there and in range. -/
theorem continueWith_one {low high bits taken : Nat} {bs rest : Bytes} {c : Char}
    (h : continueWith 1 low high bits taken bs = .char c rest) :
    ∃ b, bs = b :: rest ∧ low ≤ b.toNat ∧ b.toNat ≤ high ∧
      c = Char.ofNat (bits * 0x40 + (b.toNat - 0x80)) := by
  cases bs with
  | nil => simp [continueWith] at h
  | cons b bs =>
    simp only [continueWith] at h
    split at h
    next hb =>
      simp only [Step.char.injEq] at h
      exact ⟨b, by rw [h.2], hb.1, hb.2, h.1.symm⟩
    next => cases h

/-- As `continueWith_one`, with more bytes to follow. -/
theorem continueWith_succ {n low high bits taken : Nat} {bs rest : Bytes} {c : Char}
    (h : continueWith (n + 1) low high bits taken bs = .char c rest) :
    ∃ b bs', bs = b :: bs' ∧ low ≤ b.toNat ∧ b.toNat ≤ high ∧
      continueWith n 0x80 0xBF (bits * 0x40 + (b.toNat - 0x80)) (taken + 1) bs' = .char c rest := by
  cases bs with
  | nil => simp [continueWith] at h
  | cons b bs =>
    simp only [continueWith] at h
    split at h
    next hb => exact ⟨b, bs, rfl, hb.1, hb.2, h⟩
    next => cases h

/-- A character that was read stands there in its only written form. -/
theorem encodeChar_of_next {b : UInt8} {bs rest : Bytes} {c : Char}
    (h : next b bs = .char c rest) : b :: bs = encodeChar c ++ rest := by
  unfold next at h
  have hb := b.toNat_lt
  have two : ∀ {low high bits}, 0x80 ≤ low → high ≤ 0xBF → 2 ≤ bits → bits < 0x20 →
      b.toNat = 0xC0 + bits → continueWith 1 low high bits 1 bs = .char c rest →
      b :: bs = encodeChar c ++ rest := by
    intro low high bits hl hh h2 h3 hbits h
    obtain ⟨b1, rfl, h4, h5, hc⟩ := continueWith_one h
    rw [hc]
    unfold encodeChar
    rw [toNat_ofNat_char (by omega)]
    simp only
    rw [if_neg (by omega), if_pos (by omega)]
    simp only [List.cons_append, List.nil_append, List.cons.injEq, and_true]
    exact ⟨(ofNat_eq_of_toNat (by omega)).symm, (ofNat_eq_of_toNat (by omega)).symm⟩
  have three : ∀ {low high bits}, 0x80 ≤ low → high ≤ 0xBF → bits < 0x10 →
      (bits = 0 → 0xA0 ≤ low) → (bits = 13 → high ≤ 0x9F) →
      b.toNat = 0xE0 + bits → continueWith 2 low high bits 1 bs = .char c rest →
      b :: bs = encodeChar c ++ rest := by
    intro low high bits hl hh h2 h3 h4 hbits h
    obtain ⟨b1, bs1, rfl, h5, h6, h⟩ := continueWith_succ h
    obtain ⟨b2, rfl, h7, h8, hc⟩ := continueWith_one h
    rw [hc]
    unfold encodeChar
    rw [toNat_ofNat_char (by omega)]
    simp only
    rw [if_neg (by omega), if_neg (by omega), if_pos (by omega)]
    simp only [List.cons_append, List.nil_append, List.cons.injEq, and_true]
    exact ⟨(ofNat_eq_of_toNat (by omega)).symm, (ofNat_eq_of_toNat (by omega)).symm,
      (ofNat_eq_of_toNat (by omega)).symm⟩
  have four : ∀ {low high bits}, 0x80 ≤ low → high ≤ 0xBF → bits < 5 →
      (bits = 0 → 0x90 ≤ low) → (bits = 4 → high ≤ 0x8F) →
      b.toNat = 0xF0 + bits → continueWith 3 low high bits 1 bs = .char c rest →
      b :: bs = encodeChar c ++ rest := by
    intro low high bits hl hh h2 h3 h4 hbits h
    obtain ⟨b1, bs1, rfl, h5, h6, h⟩ := continueWith_succ h
    obtain ⟨b2, bs2, rfl, h7, h8, h⟩ := continueWith_succ h
    obtain ⟨b3, rfl, h9, h10, hc⟩ := continueWith_one h
    rw [hc]
    unfold encodeChar
    rw [toNat_ofNat_char (by omega)]
    simp only
    rw [if_neg (by omega), if_neg (by omega), if_neg (by omega)]
    simp only [List.cons_append, List.nil_append, List.cons.injEq, and_true]
    exact ⟨(ofNat_eq_of_toNat (by omega)).symm, (ofNat_eq_of_toNat (by omega)).symm,
      (ofNat_eq_of_toNat (by omega)).symm, (ofNat_eq_of_toNat (by omega)).symm⟩
  unfold Lead.ofByte? at h
  split at h
  · cases h
  next lead hlead =>
    split at hlead
    · cases hlead
      simp only [continueWith] at h
      cases h
      unfold encodeChar
      rw [toNat_ofNat_char (by omega)]
      simp [*]
    split at hlead
    · cases hlead
    split at hlead
    · cases hlead; dsimp only at h; exact two (by omega) (by omega) (by omega) (by omega) (by omega) h
    split at hlead
    · cases hlead; dsimp only at h; exact three (by omega) (by omega) (by omega) (by omega) (by omega) (by omega) h
    split at hlead
    · cases hlead; dsimp only at h; exact three (by omega) (by omega) (by omega) (by omega) (by omega) (by omega) h
    split at hlead
    · cases hlead; dsimp only at h; exact three (by omega) (by omega) (by omega) (by omega) (by omega) (by omega) h
    split at hlead
    · cases hlead; dsimp only at h; exact four (by omega) (by omega) (by omega) (by omega) (by omega) (by omega) h
    split at hlead
    · cases hlead; dsimp only at h; exact four (by omega) (by omega) (by omega) (by omega) (by omega) (by omega) h
    split at hlead
    · cases hlead; dsimp only at h; exact four (by omega) (by omega) (by omega) (by omega) (by omega) (by omega) h
    · cases hlead

theorem encode_of_decodeFrom {index : Nat} {bs : Bytes} {cs : List Char}
    (h : decodeFrom index bs = .ok cs) : encode cs = bs := by
  fun_induction decodeFrom index bs generalizing cs with
  | case1 => cases h; rfl
  | case2 index b rest _ c rest' hn _ cs' hcs ih =>
    cases h
    rw [encode, List.flatMap_cons, ← encode, ih hcs, ← encodeChar_of_next hn]
  | case3 => cases h
  | case4 => cases h
  | case5 => cases h

/-- What reads has been written that way. -/
theorem encode_of_decode {bs : Bytes} {cs : List Char} (h : decode bs = .ok cs) :
    encode cs = bs := encode_of_decodeFrom h

end Utf8

end CompilerDriver
