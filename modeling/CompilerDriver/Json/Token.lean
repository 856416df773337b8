import CompilerDriver.Json.Basic
import CompilerDriver.Text.Digits

/-!
# The tokens of a JSON document

`scan` takes a text apart into tokens; the blanks between them are left out. Two tokens need no blank
between them, and whether they may stand side by side is for the parser to say.

Strings are read in two steps. `stringBody` finds the end of a literal and its pieces, where a `\u`
escape is a piece of its own. `assemble` turns the pieces into text: two escapes that form a surrogate
pair are one character, and half a pair is no text at all.
-/

namespace CompilerDriver

/-- A token of a JSON document. -/
inductive JsonToken where
  | objectStart
  | objectEnd
  | arrayStart
  | arrayEnd
  | comma
  | colon
  | null
  | bool (value : Bool)
  | number (value : JsonNumber)
  | string (value : JsonText)
deriving DecidableEq, Repr

namespace JsonToken

open Digits

/-! ## Strings -/

/-- A part of a string literal. -/
inductive Piece where
  /-- A character, or the escape that names it. -/
  | char (c : Char)
  /-- The escape `\u` with its four digits. -/
  | unit (n : Nat)
deriving DecidableEq, Repr

/-- The character that an escape of one letter names. -/
def namedEscape? (c : Char) : Option Char :=
  if c = '"' ∨ c = '\\' ∨ c = '/' then some c
  else if c = 'b' then some '\x08'
  else if c = 'f' then some '\x0c'
  else if c = 'n' then some '\n'
  else if c = 'r' then some '\r'
  else if c = 't' then some '\t'
  else none

/-- The pieces up to the closing quote, and what follows it. Control characters must be escaped. -/
def stringBody : List Char → Option (List Piece × List Char)
  | [] => none
  | c :: rest =>
    if c = '"' then some ([], rest)
    else if c = '\\' then
      match rest with
      | [] => none
      | e :: rest =>
        if e = 'u' then
          match rest with
          | a :: b :: c :: d :: rest =>
            match hexNumber? [a, b, c, d], stringBody rest with
            | some n, some (pieces, tail) => some (.unit n :: pieces, tail)
            | _, _ => none
          | _ => none
        else
          match namedEscape? e, stringBody rest with
          | some c, some (pieces, tail) => some (.char c :: pieces, tail)
          | _, _ => none
    else if c.toNat < 0x20 then none
    else
      match stringBody rest with
      | some (pieces, tail) => some (.char c :: pieces, tail)
      | none => none

/-- The text of some pieces. -/
def assemble : List Piece → Option (List Char)
  | [] => some []
  | .char c :: rest => (assemble rest).map (c :: ·)
  | .unit high :: rest =>
    if high < 0xD800 ∨ 0xDFFF < high then (assemble rest).map (Char.ofNat high :: ·)
    else
      match rest with
      | .unit low :: rest =>
        if high ≤ 0xDBFF ∧ 0xDC00 ≤ low ∧ low ≤ 0xDFFF then
          (assemble rest).map
            (Char.ofNat (0x10000 + (high - 0xD800) * 0x400 + (low - 0xDC00)) :: ·)
        else none
      | _ => none

/-! ## Numbers -/

/-- A minus sign at the front, or its absence. -/
def minusSign : List Char → Bool × List Char
  | '-' :: rest => (true, rest)
  | cs => (false, cs)

/-- The digits behind a decimal point; none without a point. A point needs digits. -/
def fractionDigits : List Char → Option (List Char × List Char)
  | '.' :: rest =>
    let digits := rest.takeWhile isDigit
    if digits = [] then none else some (digits, rest.dropWhile isDigit)
  | cs => some ([], cs)

/-- A plus or minus sign at the front, or its absence. -/
def eitherSign : List Char → Bool × List Char
  | '+' :: rest => (false, rest)
  | '-' :: rest => (true, rest)
  | cs => (false, cs)

/-- A whole number with its sign. -/
def signedInt (negative : Bool) (magnitude : Nat) : Int := if negative then -magnitude else magnitude

/-- The exponent behind an `e` of either case; nothing without one. An `e` needs digits. -/
def exponentPart : List Char → Option (Option Int × List Char)
  | [] => some (none, [])
  | c :: rest =>
    if c = 'e' ∨ c = 'E' then
      let (negative, rest) := eitherSign rest
      let digits := rest.takeWhile isDigit
      if digits = [] then none
      else some (some (signedInt negative (value digits)), rest.dropWhile isDigit)
    else some (none, c :: rest)

/-- A number at the front of a text. Its digits do not begin with a zero that others follow. -/
def scanNumber (cs : List Char) : Option (JsonNumber × List Char) :=
  let (negative, cs) := minusSign cs
  let whole := cs.takeWhile isDigit
  if whole = [] ∨ (whole.head? = some '0' ∧ whole.length ≠ 1) then none
  else
    match fractionDigits (cs.dropWhile isDigit) with
    | none => none
    | some (digits, cs) =>
      match exponentPart cs with
      | none => none
      | some (none, rest) =>
        if digits = [] then some (.integer negative (value whole), rest)
        else some (.decimal negative (value whole) digits 0, rest)
      | some (some exponent, rest) => some (.decimal negative (value whole) digits exponent, rest)

/-! ## All tokens -/

/-- The blanks that may stand between tokens. -/
def isSpace (c : Char) : Bool := c == ' ' || c == '\n' || c == '\r' || c == '\t'

/-- `rest` without `word` at its front, as the end of the token `token`. -/
def finishWord (token : JsonToken) (word rest : List Char) : Option (JsonToken × List Char) :=
  if word.isPrefixOf rest then some (token, rest.drop word.length) else none

/-- The token that begins with `c`, and what follows it. -/
def next (c : Char) (rest : List Char) : Option (JsonToken × List Char) :=
  if c = '\x7b' then some (.objectStart, rest)
  else if c = '\x7d' then some (.objectEnd, rest)
  else if c = '[' then some (.arrayStart, rest)
  else if c = ']' then some (.arrayEnd, rest)
  else if c = ',' then some (.comma, rest)
  else if c = ':' then some (.colon, rest)
  else if c = '"' then
    (stringBody rest).map fun (pieces, rest) => (.string ((assemble pieces).map String.ofList), rest)
  else if c = 'n' then finishWord .null ['u', 'l', 'l'] rest
  else if c = 't' then finishWord (.bool true) ['r', 'u', 'e'] rest
  else if c = 'f' then finishWord (.bool false) ['a', 'l', 's', 'e'] rest
  else (scanNumber (c :: rest)).map fun (n, rest) => (.number n, rest)

/-! ### Every token consumes at least its first character -/

theorem length_dropWhile_le (p : Char → Bool) (cs : List Char) :
    (cs.dropWhile p).length ≤ cs.length := (List.dropWhile_sublist p).length_le

theorem length_stringBody {cs : List Char} {pieces : List Piece} {rest : List Char}
    (h : stringBody cs = some (pieces, rest)) : rest.length ≤ cs.length := by
  induction hn : cs.length using Nat.strongRecOn generalizing cs pieces rest with
  | ind n ih =>
    have shorter {ds ps r} (hd : stringBody ds = some (ps, r)) (hlt : ds.length < n) :
        r.length ≤ ds.length := ih ds.length hlt hd rfl
    clear ih
    unfold stringBody at h
    repeat' split at h
    all_goals grind

theorem length_fractionDigits {cs digits rest : List Char}
    (h : fractionDigits cs = some (digits, rest)) : rest.length ≤ cs.length := by
  unfold fractionDigits at h
  split at h
  next r =>
    simp only at h
    split at h
    · cases h
    · cases h
      exact Nat.le_succ_of_le (length_dropWhile_le _ _)
  next => cases h; exact Nat.le_refl _

theorem length_exponentPart {cs rest : List Char} {e : Option Int}
    (h : exponentPart cs = some (e, rest)) : rest.length ≤ cs.length := by
  unfold exponentPart at h
  split at h
  next => cases h; exact Nat.le_refl _
  next c r =>
    have hsign : (eitherSign r).2.length ≤ r.length := by
      unfold eitherSign; split <;> simp
    split at h
    · simp only at h
      split at h
      · cases h
      · cases h
        have := length_dropWhile_le isDigit (eitherSign r).2
        simp only [List.length_cons]
        omega
    · cases h; exact Nat.le_refl _

theorem length_scanNumber {cs rest : List Char} {n : JsonNumber}
    (h : scanNumber cs = some (n, rest)) : rest.length < cs.length := by
  unfold scanNumber at h
  have hminus : (minusSign cs).2.length ≤ cs.length := by
    unfold minusSign; split <;> simp
  simp only at h
  split at h
  · cases h
  next hw =>
    have hpos : ((minusSign cs).2.dropWhile isDigit).length < (minusSign cs).2.length := by
      cases hcs : (minusSign cs).2 with
      | nil => simp [hcs] at hw
      | cons d ds =>
        have hd : isDigit d = true := by
          by_cases hd : isDigit d = true
          · exact hd
          · simp [hcs, hd] at hw
        rw [List.dropWhile_cons_of_pos hd]
        exact Nat.lt_succ_of_le (length_dropWhile_le _ _)
    split at h
    · cases h
    next digits r hf =>
      have h1 := length_fractionDigits hf
      split at h
      · cases h
      next r' he =>
        have h2 := length_exponentPart he
        split at h <;> cases h <;> omega
      next e r' he =>
        have h2 := length_exponentPart he
        cases h
        omega

theorem length_finishWord {token t : JsonToken} {word rest rest' : List Char}
    (h : finishWord token word rest = some (t, rest')) : rest'.length ≤ rest.length := by
  unfold finishWord at h
  split at h
  · cases h; simp
  · cases h

/-- A token leaves over no more than what followed its first character. -/
theorem length_next {c : Char} {rest rest' : List Char} {t : JsonToken}
    (h : next c rest = some (t, rest')) : rest'.length ≤ rest.length := by
  unfold next at h
  repeat' split at h
  case isFalse =>
    obtain ⟨⟨n, r⟩, hn, he⟩ := Option.map_eq_some_iff.1 h
    cases he
    exact Nat.le_of_lt_succ (length_scanNumber hn)
  all_goals first
    | (cases h; exact Nat.le_refl _)
    | exact length_finishWord h
    | (obtain ⟨⟨pieces, r⟩, hn, he⟩ := Option.map_eq_some_iff.1 h
       cases he
       exact length_stringBody hn)

/-- The tokens of a text, if it consists of tokens and blanks. -/
def scan (cs : List Char) : Option (List JsonToken) :=
  match cs with
  | [] => some []
  | c :: rest =>
    if isSpace c then scan rest
    else
      match h : next c rest with
      | none => none
      | some (token, rest') =>
        have : rest'.length ≤ rest.length := length_next h
        (scan rest').map (token :: ·)
termination_by cs.length

end JsonToken

end CompilerDriver
