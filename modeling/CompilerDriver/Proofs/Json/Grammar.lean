import CompilerDriver.Json.Token
import CompilerDriver.Proofs.Text.Digits

/-!
# The spelling of tokens

Which texts spell a token is said here without the scanner: `Lexeme token text`, with `IsNumeral` for numbers and
`IsBody` for what stands between the quotes of a string. The scanner agrees with the grammar. What it takes off
a text is a lexeme of the token that it gives (`lexeme_of_next`), and a lexeme is scanned into its token
(`Lexeme.next_eq`), unless it is a number and the text goes on with a part of one.
-/

namespace CompilerDriver.JsonToken

open Digits

/-! ## Numbers -/

/-- The spellings of a minus sign and of its absence. -/
inductive IsMinus : Bool → List Char → Prop
  | absent : IsMinus false []
  | minus : IsMinus true ['-']

/-- The spellings of the sign of an exponent. -/
inductive IsSign : Bool → List Char → Prop
  | absent : IsSign false []
  | plus : IsSign false ['+']
  | minus : IsSign true ['-']

/-- The digits before the point: they do not begin with a zero that others follow. -/
structure IsWhole (digits : List Char) : Prop where
  ne_nil : digits ≠ []
  all_isDigit : digits.all isDigit = true
  length_of_zero : digits.head? = some '0' → digits.length = 1

/-- The spellings of the digits behind the point. A point needs digits. -/
inductive IsFraction : List Char → List Char → Prop
  | absent : IsFraction [] []
  | digits {ds : List Char} (hne : ds ≠ []) (hds : ds.all isDigit = true) : IsFraction ds ('.' :: ds)

/-- The spellings of an exponent. -/
inductive IsExponent : Option Int → List Char → Prop
  | absent : IsExponent none []
  | power {mark : Char} {negative : Bool} {sign ds : List Char} (hmark : mark = 'e' ∨ mark = 'E')
      (hsign : IsSign negative sign) (hne : ds ≠ []) (hds : ds.all isDigit = true) :
      IsExponent (some (signedInt negative (value ds))) (mark :: (sign ++ ds))

/-- The number with the given parts. Without a fraction and an exponent it is an integer. -/
def numberOf (negative : Bool) (whole : Nat) (fraction : List Char) (exponent? : Option Int) :
    JsonNumber :=
  if exponent? = none ∧ fraction = [] then .integer negative whole
  else .decimal negative whole fraction (exponent?.getD 0)

/-- The spellings of a number. -/
inductive IsNumeral : JsonNumber → List Char → Prop
  | parts {negative : Bool} {sign whole fraction point exponent : List Char} {exponent? : Option Int}
      (hsign : IsMinus negative sign) (hwhole : IsWhole whole) (hfraction : IsFraction fraction point)
      (hexponent : IsExponent exponent? exponent) :
      IsNumeral (numberOf negative (value whole) fraction exponent?)
        (sign ++ (whole ++ (point ++ exponent)))

/-- The text does not go on with a part of a number. -/
def NoNumberAhead (cs : List Char) : Prop :=
  ∀ c rest, cs = c :: rest → isDigit c = false ∧ c ≠ '.' ∧ c ≠ 'e' ∧ c ≠ 'E'

theorem noNumberAhead_nil : NoNumberAhead [] := by
  intro c rest h
  cases h

theorem noNumberAhead_cons {c : Char} {cs : List Char}
    (h : isDigit c = false ∧ c ≠ '.' ∧ c ≠ 'e' ∧ c ≠ 'E') : NoNumberAhead (c :: cs) := by
  intro d rest hd
  cases hd
  exact h

theorem NoNumberAhead.append {cs rest : List Char} (hc : NoNumberAhead cs)
    (hr : NoNumberAhead rest) : NoNumberAhead (cs ++ rest) := by
  cases cs with
  | nil => exact hr
  | cons c cs => exact noNumberAhead_cons (hc c cs rfl)

theorem NoNumberAhead.noDigitAhead {cs : List Char} (h : NoNumberAhead cs) : NoDigitAhead cs :=
  fun c rest hc => (h c rest hc).1

theorem ne_of_isDigit {c d : Char} (hc : isDigit c = true) (hd : isDigit d = false) : c ≠ d := by
  rintro rfl
  rw [hc] at hd
  cases hd

/-- A digit in front of a text is none of its signs. -/
theorem exists_eq_cons_of_all_isDigit {ds : List Char} (hne : ds ≠ []) (hds : ds.all isDigit = true) :
    ∃ d tail, ds = d :: tail ∧ isDigit d = true := by
  cases ds with
  | nil => exact absurd rfl hne
  | cons d tail =>
    rw [List.all_cons, Bool.and_eq_true] at hds
    exact ⟨d, tail, rfl, hds.1⟩

theorem IsMinus.read {negative : Bool} {sign : List Char} (h : IsMinus negative sign) {d : Char}
    (hd : isDigit d = true) (rest : List Char) :
    minusSign (sign ++ d :: rest) = (negative, d :: rest) := by
  cases h with
  | minus => rfl
  | absent =>
    rw [List.nil_append, minusSign.eq_def]
    split
    next heq => exact absurd (List.cons.inj heq).1 (ne_of_isDigit hd rfl)
    next => rfl

theorem IsSign.read {negative : Bool} {sign : List Char} (h : IsSign negative sign) {d : Char}
    (hd : isDigit d = true) (rest : List Char) :
    eitherSign (sign ++ d :: rest) = (negative, d :: rest) := by
  cases h with
  | plus => rfl
  | minus => rfl
  | absent =>
    rw [List.nil_append, eitherSign.eq_def]
    split
    next heq => exact absurd (List.cons.inj heq).1 (ne_of_isDigit hd rfl)
    next heq => exact absurd (List.cons.inj heq).1 (ne_of_isDigit hd rfl)
    next => rfl

theorem IsFraction.read {fraction point rest : List Char} (h : IsFraction fraction point)
    (hr : NoDigitAhead rest) (hp : ∀ r, rest ≠ '.' :: r) :
    fractionDigits (point ++ rest) = some (fraction, rest) := by
  cases h with
  | absent =>
    rw [List.nil_append, fractionDigits.eq_def]
    split
    next r => exact absurd rfl (hp r)
    next => rfl
  | digits hne hds =>
    rw [List.cons_append, fractionDigits, takeWhile_isDigit_append hds hr,
      dropWhile_isDigit_append hds hr, if_neg hne]

theorem IsExponent.read {exponent? : Option Int} {text rest : List Char}
    (h : IsExponent exponent? text) (hr : NoNumberAhead rest) :
    exponentPart (text ++ rest) = some (exponent?, rest) := by
  cases h with
  | absent =>
    cases rest with
    | nil => rfl
    | cons c rest =>
      obtain ⟨-, -, hsmall, hlarge⟩ := hr c rest rfl
      rw [List.nil_append, exponentPart, if_neg (by simp [hsmall, hlarge])]
  | @power mark negative sign ds hmark hsign hne hds =>
    obtain ⟨d, tail, rfl, hd⟩ := exists_eq_cons_of_all_isDigit hne hds
    have hread := hsign.read hd (tail ++ rest)
    rw [List.cons_append, List.append_assoc, List.cons_append, exponentPart, if_pos hmark, hread]
    simp only [← List.cons_append, takeWhile_isDigit_append hds hr.noDigitAhead,
      dropWhile_isDigit_append hds hr.noDigitAhead, if_neg hne]

/-- An exponent, or what follows where there is none, is neither a digit nor a point. -/
theorem IsExponent.ahead {exponent? : Option Int} {text rest : List Char}
    (h : IsExponent exponent? text) (hr : NoNumberAhead rest) {c : Char} {cs : List Char}
    (hc : text ++ rest = c :: cs) : isDigit c = false ∧ c ≠ '.' := by
  cases h with
  | absent => exact ⟨(hr c cs hc).1, (hr c cs hc).2.1⟩
  | power hmark =>
    obtain ⟨rfl, -⟩ := List.cons.inj hc
    rcases hmark with rfl | rfl <;> decide

/-- A number is read as far as its spelling goes. -/
theorem IsNumeral.read {n : JsonNumber} {text rest : List Char} (h : IsNumeral n text)
    (hr : NoNumberAhead rest) : scanNumber (text ++ rest) = some (n, rest) := by
  obtain @⟨negative, sign, whole, fraction, point, exponent, exponent?, hsign, hwhole, hfraction,
    hexponent⟩ := h
  obtain ⟨d, tail, hd, hdigit⟩ := exists_eq_cons_of_all_isDigit hwhole.ne_nil hwhole.all_isDigit
  have hbehind : NoDigitAhead (point ++ (exponent ++ rest)) := by
    cases hfraction with
    | absent => exact fun c cs hc => (hexponent.ahead hr hc).1
    | digits => exact noDigitAhead_cons rfl
  have hminus : minusSign (sign ++ (whole ++ (point ++ (exponent ++ rest)))) =
      (negative, whole ++ (point ++ (exponent ++ rest))) := by
    rw [hd]
    exact hsign.read hdigit _
  have hpoint : fractionDigits (point ++ (exponent ++ rest)) = some (fraction, exponent ++ rest) :=
    hfraction.read (fun c cs hc => (hexponent.ahead hr hc).1)
      fun r hr' => (hexponent.ahead hr hr').2 rfl
  have hzero : ¬(whole = [] ∨ (whole.head? = some '0' ∧ whole.length ≠ 1)) := by
    rintro (hnil | ⟨hhead, hlength⟩)
    · exact hwhole.ne_nil hnil
    · exact hlength (hwhole.length_of_zero hhead)
  simp only [List.append_assoc]
  rw [scanNumber, hminus]
  simp only [takeWhile_isDigit_append hwhole.all_isDigit hbehind,
    dropWhile_isDigit_append hwhole.all_isDigit hbehind, hpoint, hexponent.read hr, if_neg hzero]
  cases exponent? with
  | none => by_cases hdigits : fraction = [] <;> simp [numberOf, hdigits]
  | some exponent => simp [numberOf]

theorem isMinus_minusSign (cs : List Char) :
    ∃ sign, cs = sign ++ (minusSign cs).2 ∧ IsMinus (minusSign cs).1 sign := by
  rw [minusSign.eq_def]
  split
  next => exact ⟨['-'], rfl, .minus⟩
  next => exact ⟨[], rfl, .absent⟩

theorem isSign_eitherSign (cs : List Char) :
    ∃ sign, cs = sign ++ (eitherSign cs).2 ∧ IsSign (eitherSign cs).1 sign := by
  rw [eitherSign.eq_def]
  split
  next => exact ⟨['+'], rfl, .plus⟩
  next => exact ⟨['-'], rfl, .minus⟩
  next => exact ⟨[], rfl, .absent⟩

theorem isFraction_of_fractionDigits {cs fraction rest : List Char}
    (h : fractionDigits cs = some (fraction, rest)) :
    ∃ point, cs = point ++ rest ∧ IsFraction fraction point := by
  rw [fractionDigits.eq_def] at h
  split at h
  next tail =>
    dsimp only at h
    split at h
    next => cases h
    next hne =>
      cases h
      refine ⟨_, ?_, .digits hne List.all_takeWhile⟩
      rw [List.cons_append, List.takeWhile_append_dropWhile]
  next =>
    cases h
    exact ⟨[], rfl, .absent⟩

theorem isExponent_of_exponentPart {cs rest : List Char} {exponent? : Option Int}
    (h : exponentPart cs = some (exponent?, rest)) :
    ∃ text, cs = text ++ rest ∧ IsExponent exponent? text := by
  cases cs with
  | nil =>
    cases h
    exact ⟨[], rfl, .absent⟩
  | cons mark tail =>
    rw [exponentPart] at h
    split at h
    next hmark =>
      obtain ⟨sign, htail, hsign⟩ := isSign_eitherSign tail
      dsimp only at h
      split at h
      next => cases h
      next hne =>
        cases h
        refine ⟨_, ?_, .power hmark hsign hne List.all_takeWhile⟩
        rw [List.cons_append, List.append_assoc, List.takeWhile_append_dropWhile, ← htail]
    next =>
      cases h
      exact ⟨[], rfl, .absent⟩

/-- What is read as a number spells this number. -/
theorem isNumeral_of_scanNumber {cs rest : List Char} {n : JsonNumber}
    (h : scanNumber cs = some (n, rest)) : ∃ text, cs = text ++ rest ∧ IsNumeral n text := by
  obtain ⟨sign, hcs, hsign⟩ := isMinus_minusSign cs
  rw [scanNumber] at h
  dsimp only at h
  split at h
  next => cases h
  next hwhole =>
    rw [not_or] at hwhole
    have hdigits : IsWhole ((minusSign cs).2.takeWhile isDigit) :=
      ⟨hwhole.1, List.all_takeWhile, fun hhead => Decidable.byContradiction fun hlength =>
        hwhole.2 ⟨hhead, hlength⟩⟩
    split at h
    next => cases h
    next fraction behind hfraction =>
      obtain ⟨point, hpoint, hfraction⟩ := isFraction_of_fractionDigits hfraction
      have parts {exponent? : Option Int} {rest' : List Char}
          (hexponent : exponentPart behind = some (exponent?, rest')) :
          ∃ text, cs = text ++ rest' ∧
            IsNumeral (numberOf (minusSign cs).1 (value ((minusSign cs).2.takeWhile isDigit))
              fraction exponent?) text := by
        obtain ⟨exponent, hbehind, hexponent⟩ := isExponent_of_exponentPart hexponent
        refine ⟨_, ?_, .parts hsign hdigits hfraction hexponent⟩
        rw [List.append_assoc, List.append_assoc, List.append_assoc, ← hbehind, ← hpoint,
          List.takeWhile_append_dropWhile, ← hcs]
      split at h
      next => cases h
      next rest' hexponent =>
        have hparts := parts hexponent
        split at h
        next hnil =>
          cases h
          rwa [numberOf, if_pos ⟨rfl, hnil⟩] at hparts
        next hnil =>
          cases h
          rwa [numberOf, if_neg fun both => hnil both.2] at hparts
      next exponent rest' hexponent =>
        cases h
        exact parts hexponent

/-- A number begins with a digit or a minus sign. -/
theorem IsNumeral.exists_eq_cons {n : JsonNumber} {text : List Char} (h : IsNumeral n text) :
    ∃ c cs, text = c :: cs ∧ (isDigit c = true ∨ c = '-') := by
  obtain ⟨hsign, hwhole, -, -⟩ := h
  obtain ⟨d, tail, rfl, hdigit⟩ := exists_eq_cons_of_all_isDigit hwhole.ne_nil hwhole.all_isDigit
  cases hsign with
  | absent => exact ⟨d, _, rfl, .inl hdigit⟩
  | minus => exact ⟨'-', _, rfl, .inr rfl⟩

/-! ## Strings -/

/-- The spellings of a piece of a string. -/
inductive IsPiece : Piece → List Char → Prop
  /-- A character stands for itself, unless it is a control character or has to be escaped. -/
  | plain {c : Char} (hquote : c ≠ '"') (hescape : c ≠ '\\') (hcontrol : ¬c.toNat < 0x20) :
      IsPiece (.char c) [c]
  | named {e c : Char} (hc : namedEscape? e = some c) : IsPiece (.char c) ['\\', e]
  | unit {a b c d : Char} {n : Nat} (hn : hexNumber? [a, b, c, d] = some n) :
      IsPiece (.unit n) ['\\', 'u', a, b, c, d]

/-- The spellings of what stands between the quotes of a string. -/
inductive IsBody : List Piece → List Char → Prop
  | nil : IsBody [] []
  | cons {piece : Piece} {pieces : List Piece} {text tail : List Char} (hpiece : IsPiece piece text)
      (hpieces : IsBody pieces tail) : IsBody (piece :: pieces) (text ++ tail)

theorem IsPiece.read {piece : Piece} {text : List Char} (h : IsPiece piece text) (rest : List Char) :
    stringBody (text ++ rest) = (stringBody rest).map fun found => (piece :: found.1, found.2) := by
  cases h with
  | plain hquote hescape hcontrol =>
    rw [List.singleton_append, stringBody.eq_def]
    simp only [if_neg hquote, if_neg hescape, if_neg hcontrol]
    cases stringBody rest <;> rfl
  | @named e c hc =>
    have hunit : e ≠ 'u' := by
      rintro rfl
      cases hc
    simp only [List.cons_append, List.nil_append]
    rw [stringBody.eq_def]
    simp only [Char.reduceEq, ↓reduceIte, if_neg hunit, hc]
    cases stringBody rest <;> rfl
  | unit hn =>
    simp only [List.cons_append, List.nil_append]
    rw [stringBody.eq_def]
    simp only [Char.reduceEq, ↓reduceIte, hn]
    cases stringBody rest <;> rfl

/-- The pieces of a string are read up to its closing quote. -/
theorem IsBody.read {pieces : List Piece} {text : List Char} (h : IsBody pieces text)
    (rest : List Char) : stringBody (text ++ '"' :: rest) = some (pieces, rest) := by
  induction h with
  | nil =>
    rw [List.nil_append, stringBody.eq_def]
    rfl
  | cons hpiece _ ih =>
    rw [List.append_assoc, hpiece.read, ih]
    rfl

/-- A string ends here, or it goes on with a piece. -/
theorem stringBody_cases {cs tail : List Char} {pieces : List Piece}
    (h : stringBody cs = some (pieces, tail)) :
    (cs = '"' :: tail ∧ pieces = []) ∨
    ∃ front rest piece later, cs = front ++ rest ∧ pieces = piece :: later ∧
      IsPiece piece front ∧ stringBody rest = some (later, tail) := by
  rw [stringBody.eq_def] at h
  split at h
  next => cases h
  next c rest =>
    split at h
    next hquote =>
      cases h
      exact .inl ⟨by rw [hquote], rfl⟩
    next hquote =>
      right
      split at h
      next hescape =>
        subst hescape
        split at h
        next => cases h
        next e rest =>
          split at h
          next hunit =>
            subst hunit
            split at h
            next a b c d rest =>
              split at h
              next n later tail' hnumber hrest =>
                cases h
                exact ⟨['\\', 'u', a, b, c, d], rest, .unit n, later, rfl, rfl, .unit hnumber, hrest⟩
              next => cases h
            next => cases h
          next =>
            split at h
            next c later tail' hnamed hrest =>
              cases h
              exact ⟨['\\', e], rest, .char c, later, rfl, rfl, .named hnamed, hrest⟩
            next => cases h
      next hescape =>
        split at h
        next => cases h
        next hcontrol =>
          split at h
          next later tail' hrest =>
            cases h
            exact ⟨[c], rest, .char c, later, rfl, rfl, .plain hquote hescape hcontrol, hrest⟩
          next => cases h

theorem IsPiece.ne_nil {piece : Piece} {text : List Char} (h : IsPiece piece text) : text ≠ [] := by
  cases h <;> exact List.cons_ne_nil _ _

/-- What is read up to a closing quote spells the pieces read. -/
theorem isBody_of_stringBody {cs tail : List Char} {pieces : List Piece}
    (h : stringBody cs = some (pieces, tail)) :
    ∃ text, cs = text ++ '"' :: tail ∧ IsBody pieces text := by
  -- a piece may be an escape of several characters, so what is left is not just the tail
  induction hlength : cs.length using Nat.strongRecOn generalizing cs pieces with
  | ind n ih =>
    rcases stringBody_cases h with ⟨rfl, rfl⟩ | ⟨front, rest, piece, later, rfl, rfl, hpiece, hrest⟩
    · exact ⟨[], rfl, .nil⟩
    · have hshorter : rest.length < n := by
        rw [← hlength, List.length_append]
        exact Nat.lt_add_of_pos_left (List.length_pos_iff.2 hpiece.ne_nil)
      obtain ⟨text, rfl, hbody⟩ := ih rest.length hshorter hrest rfl
      exact ⟨front ++ text, (List.append_assoc ..).symm, .cons hpiece hbody⟩

/-! ## Tokens -/

/-- The spellings of a token. -/
inductive Lexeme : JsonToken → List Char → Prop
  | objectStart : Lexeme .objectStart ['\x7b']
  | objectEnd : Lexeme .objectEnd ['\x7d']
  | arrayStart : Lexeme .arrayStart ['[']
  | arrayEnd : Lexeme .arrayEnd [']']
  | comma : Lexeme .comma [',']
  | colon : Lexeme .colon [':']
  | null : Lexeme .null ['n', 'u', 'l', 'l']
  | yes : Lexeme (.bool true) ['t', 'r', 'u', 'e']
  | no : Lexeme (.bool false) ['f', 'a', 'l', 's', 'e']
  | number {n : JsonNumber} {text : List Char} (h : IsNumeral n text) : Lexeme (.number n) text
  | string {pieces : List Piece} {text : List Char} (h : IsBody pieces text) :
      Lexeme (.string ((assemble pieces).map String.ofList)) ('"' :: (text ++ ['"']))

theorem next_of_number {c : Char} (h : isDigit c = true ∨ c = '-') (rest : List Char) :
    next c rest = (scanNumber (c :: rest)).map fun found => (.number found.1, found.2) := by
  have other {m : Char} (hm : isDigit m = false ∧ m ≠ '-') : c ≠ m := by
    rintro rfl
    rcases h with h | h
    · rw [hm.1] at h; cases h
    · exact hm.2 h
  unfold next
  rw [if_neg (other (by decide)), if_neg (other (by decide)), if_neg (other (by decide)),
    if_neg (other (by decide)), if_neg (other (by decide)), if_neg (other (by decide)),
    if_neg (other (by decide)), if_neg (other (by decide)), if_neg (other (by decide)),
    if_neg (other (by decide))]

theorem isSpace_of_number {c : Char} (h : isDigit c = true ∨ c = '-') : isSpace c = false := by
  cases hs : isSpace c with
  | false => rfl
  | true =>
    simp only [isSpace, Bool.or_eq_true, beq_iff_eq] at hs
    rcases hs with ((rfl | rfl) | rfl) | rfl <;> revert h <;> decide

/-- A lexeme is scanned into its token. All but numbers end by themselves. -/
theorem Lexeme.next_eq {token : JsonToken} {text rest : List Char} (h : Lexeme token text)
    (hr : ∀ n, token = .number n → NoNumberAhead rest) :
    ∃ c cs, text = c :: cs ∧ isSpace c = false ∧ next c (cs ++ rest) = some (token, rest) := by
  cases h with
  | objectStart | objectEnd | arrayStart | arrayEnd | comma | colon =>
    exact ⟨_, _, rfl, rfl, by simp [next]⟩
  | null | yes | no => exact ⟨_, _, rfl, rfl, by simp [next, finishWord]⟩
  | number hn =>
    obtain ⟨c, cs, rfl, hfirst⟩ := hn.exists_eq_cons
    refine ⟨c, cs, rfl, isSpace_of_number hfirst, ?_⟩
    rw [next_of_number hfirst, ← List.cons_append, hn.read (hr _ rfl)]
    rfl
  | string hbody =>
    refine ⟨_, _, rfl, rfl, ?_⟩
    rw [List.append_assoc, List.singleton_append, next]
    simp only [Char.reduceEq, ↓reduceIte, hbody.read, Option.map_some]

theorem lexeme_of_finishWord {token token' : JsonToken} {word rest rest' : List Char} {c : Char}
    (h : finishWord token word rest = some (token', rest')) (hl : Lexeme token (c :: word)) :
    ∃ text, c :: rest = text ++ rest' ∧ Lexeme token' text := by
  rw [finishWord] at h
  split at h
  next hprefix =>
    cases h
    obtain ⟨tail, rfl⟩ := List.isPrefixOf_iff_prefix.1 hprefix
    exact ⟨c :: word, by rw [List.drop_left, List.cons_append], hl⟩
  next => cases h

/-- What the scanner takes off a text is a lexeme of the token that it gives. -/
theorem lexeme_of_next {c : Char} {rest rest' : List Char} {token : JsonToken}
    (h : next c rest = some (token, rest')) :
    ∃ text, c :: rest = text ++ rest' ∧ Lexeme token text := by
  have mark {d : Char} {t : JsonToken} (hd : c = d) (ht : some (t, rest) = some (token, rest'))
      (hl : Lexeme t [d]) : ∃ text, c :: rest = text ++ rest' ∧ Lexeme token text := by
    cases hd
    cases ht
    exact ⟨[c], rfl, hl⟩
  rw [next] at h
  split at h
  next hc => exact mark hc h .objectStart
  split at h
  next hc => exact mark hc h .objectEnd
  split at h
  next hc => exact mark hc h .arrayStart
  split at h
  next hc => exact mark hc h .arrayEnd
  split at h
  next hc => exact mark hc h .comma
  split at h
  next hc => exact mark hc h .colon
  split at h
  next hc =>
    obtain ⟨⟨pieces, tail⟩, hbody, hfound⟩ := Option.map_eq_some_iff.1 h
    cases hfound
    obtain ⟨text, rfl, hpieces⟩ := isBody_of_stringBody hbody
    exact ⟨'"' :: (text ++ ['"']), by simp [hc], .string hpieces⟩
  split at h
  next hc => exact hc ▸ lexeme_of_finishWord h (hc ▸ .null)
  split at h
  next hc => exact hc ▸ lexeme_of_finishWord h (hc ▸ .yes)
  split at h
  next hc => exact hc ▸ lexeme_of_finishWord h (hc ▸ .no)
  next =>
    obtain ⟨⟨n, tail⟩, hscan, hfound⟩ := Option.map_eq_some_iff.1 h
    cases hfound
    obtain ⟨text, htext, hnumeral⟩ := isNumeral_of_scanNumber hscan
    exact ⟨text, htext, .number hnumeral⟩

end CompilerDriver.JsonToken
