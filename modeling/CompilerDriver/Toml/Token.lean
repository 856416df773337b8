import CompilerDriver.Text.Digits

/-!
# The tokens of a configuration

`scan` takes a text apart into tokens. Blanks and comments are left out, but the ends of lines are tokens,
because they end statements. A line ends with a line feed or with carriage return and line feed; `unifyLines`
makes one of these two, so that a carriage return is a control character like all others from there on.

There are four kinds of string literals. Those in double quotes know escapes, those in single quotes do not;
and either kind, in threefold quotes, may go over several lines.
-/

namespace CompilerDriver

/-- A token of a configuration. -/
inductive TomlToken where
  /-- A key without quotes. -/
  | word (text : String)
  /-- A string literal. -/
  | text (value : String)
  /-- A string literal in threefold quotes, which no key can be. -/
  | longText (value : String)
  | dot
  | equals
  | comma
  | openBrace
  | closeBrace
  | openBracket
  | closeBracket
  | lineEnd
deriving DecidableEq, Repr

namespace TomlToken

open Digits

/-- Turns every carriage return that a line feed follows into nothing. -/
def unifyLines : List Char → List Char
  | '\r' :: '\n' :: rest => '\n' :: unifyLines rest
  | c :: rest => c :: unifyLines rest
  | [] => []

/-- The blanks within a line. -/
def isGap (c : Char) : Bool := c == ' ' || c == '\t'

/-- The characters that may stand in a literal or a comment: all but controls, and the tab. -/
def isTextual (c : Char) : Bool := c == '\t' || (0x20 ≤ c.toNat && c.toNat != 0x7F)

/-- The characters of keys without quotes. -/
def isWordChar (c : Char) : Bool :=
  isDigit c || ('a' ≤ c && c ≤ 'z') || ('A' ≤ c && c ≤ 'Z') || c == '_' || c == '-'

/-! ## String literals -/

/-- A literal with one more character at its front. -/
def prepend (c : Char) (literal : Option (List Char × List Char)) :
    Option (List Char × List Char) :=
  literal.map fun (cs, rest) => (c :: cs, rest)

/-- What is left of a long literal behind threefold quotes: up to two more quotes belong to it. -/
def closing (quote : Char) (rest : List Char) : List Char × List Char :=
  let quotes := (rest.take 2).takeWhile (· == quote)
  (quotes, rest.drop quotes.length)

/-- The character that an escape of one letter names. -/
def namedEscape? (c : Char) : Option Char :=
  if c = '"' ∨ c = '\\' then some c
  else if c = 'b' then some '\x08'
  else if c = 't' then some '\t'
  else if c = 'n' then some '\n'
  else if c = 'f' then some '\x0c'
  else if c = 'r' then some '\r'
  else none

/-- The character that some hexadecimal digits number. -/
def numberedEscape? (digits : List Char) : Option Char := do
  let n ← hexNumber? digits
  if n.isValidChar then some (Char.ofNat n) else none

/-- Whether nothing but blanks stands in front of the end of the line. -/
def endsLine (cs : List Char) : Bool := (cs.dropWhile isGap).head? == some '\n'

/-- A literal in double quotes up to its end, and what follows it. In a `long` one a backslash at the end of a
line takes away all blanks and line ends up to the next character; while that goes on, `skipping` is set. -/
def basicBody (long skipping : Bool) : List Char → Option (List Char × List Char)
  | [] => none
  | c :: rest =>
    if skipping && (isGap c || c == '\n') then basicBody long true rest
    else if c = '"' then
      if long then
        match rest with
        | '"' :: '"' :: rest => some (closing '"' rest)
        | _ => prepend c (basicBody long false rest)
      else some ([], rest)
    else if c = '\\' then
      if long && endsLine rest then basicBody long true rest
      else match rest with
        | 'u' :: a :: b :: c :: d :: rest =>
          match numberedEscape? [a, b, c, d] with
          | some c => prepend c (basicBody long false rest)
          | none => none
        | 'U' :: a :: b :: c :: d :: e :: f :: g :: h :: rest =>
          match numberedEscape? [a, b, c, d, e, f, g, h] with
          | some c => prepend c (basicBody long false rest)
          | none => none
        | e :: rest =>
          match namedEscape? e with
          | some c => prepend c (basicBody long false rest)
          | none => none
        | [] => none
    else if isTextual c || (long && c == '\n') then prepend c (basicBody long false rest)
    else none

/-- A literal in single quotes up to its end, and what follows it. -/
def literalBody (long : Bool) : List Char → Option (List Char × List Char)
  | [] => none
  | c :: rest =>
    if c = '\'' then
      if long then
        match rest with
        | '\'' :: '\'' :: rest => some (closing '\'' rest)
        | _ => prepend c (literalBody long rest)
      else some ([], rest)
    else if isTextual c || (long && c == '\n') then prepend c (literalBody long rest)
    else none

/-- A long literal may begin with the end of a line, which does not belong to it. -/
def dropFirstLineEnd : List Char → List Char
  | '\n' :: rest => rest
  | cs => cs

/-- The string literal behind its first quote. -/
def literal (quote : Char) (body : Bool → List Char → Option (List Char × List Char))
    (rest : List Char) : Option (TomlToken × List Char) :=
  if [quote, quote].isPrefixOf rest then
    (body true (dropFirstLineEnd (rest.drop 2))).map fun (cs, rest) =>
      (.longText (String.ofList cs), rest)
  else (body false rest).map fun (cs, rest) => (.text (String.ofList cs), rest)

/-! ## All tokens -/

/-- The token that is one character. -/
def mark? (c : Char) : Option TomlToken :=
  match c with
  | '.' => some .dot
  | '=' => some .equals
  | ',' => some .comma
  | '\x7b' => some .openBrace
  | '\x7d' => some .closeBrace
  | '[' => some .openBracket
  | ']' => some .closeBracket
  | '\n' => some .lineEnd
  | _ => none

/-- The token that begins with `c`, and what follows it. -/
def next (c : Char) (rest : List Char) : Option (TomlToken × List Char) :=
  match mark? c with
  | some token => some (token, rest)
  | none =>
    if c = '"' then literal c (fun long => basicBody long false) rest
    else if c = '\'' then literal c literalBody rest
    else if isWordChar c then
      some (.word (String.ofList (c :: rest.takeWhile isWordChar)), rest.dropWhile isWordChar)
    else none

/-! ### Every token consumes at least its first character -/

theorem prepend_eq_some_iff {c : Char} {literal : Option (List Char × List Char)}
    {cs rest : List Char} :
    prepend c literal = some (cs, rest) ↔ ∃ ds, literal = some (ds, rest) ∧ c :: ds = cs := by
  simp [prepend]

theorem length_closing (quote : Char) (cs : List Char) :
    (closing quote cs).2.length ≤ cs.length := by
  simp [closing]

theorem length_basicBody {long skipping : Bool} {cs ds rest : List Char}
    (h : basicBody long skipping cs = some (ds, rest)) : rest.length ≤ cs.length := by
  induction hn : cs.length using Nat.strongRecOn generalizing skipping cs ds rest with
  | ind n ih =>
    have shorter {skipping es ds r} (hd : basicBody long skipping es = some (ds, r))
        (hlt : es.length < n) : r.length ≤ es.length := ih es.length hlt hd rfl
    clear ih
    unfold basicBody at h
    repeat' split at h
    all_goals simp_all only [prepend_eq_some_iff, Option.some.injEq, List.length_cons, reduceCtorEq]
    all_goals grind [length_closing]

theorem length_literalBody {long : Bool} {cs ds rest : List Char}
    (h : literalBody long cs = some (ds, rest)) : rest.length ≤ cs.length := by
  fun_induction literalBody long cs generalizing ds rest <;>
    simp_all only [prepend_eq_some_iff, Option.some.injEq, List.length_cons, reduceCtorEq] <;>
    grind [length_closing]

theorem length_dropFirstLineEnd (cs : List Char) : (dropFirstLineEnd cs).length ≤ cs.length := by
  unfold dropFirstLineEnd
  split <;> simp

theorem length_literal {quote : Char} {body : Bool → List Char → Option (List Char × List Char)}
    (hbody : ∀ {long : Bool} {cs ds rest : List Char},
      body long cs = some (ds, rest) → rest.length ≤ cs.length)
    {cs rest : List Char} {t : TomlToken} (h : literal quote body cs = some (t, rest)) :
    rest.length ≤ cs.length := by
  unfold literal at h
  split at h
  · obtain ⟨⟨ds, r⟩, hb, he⟩ := Option.map_eq_some_iff.1 h
    cases he
    refine Nat.le_trans (hbody hb) (Nat.le_trans (length_dropFirstLineEnd _) ?_)
    simp
  · obtain ⟨⟨ds, r⟩, hb, he⟩ := Option.map_eq_some_iff.1 h
    cases he
    exact hbody hb

/-- A token leaves over no more than what followed its first character. -/
theorem length_next {c : Char} {rest rest' : List Char} {t : TomlToken}
    (h : next c rest = some (t, rest')) : rest'.length ≤ rest.length := by
  unfold next at h
  split at h
  next => cases h; exact Nat.le_refl _
  next =>
    split at h
    next => exact length_literal length_basicBody h
    next =>
      split at h
      next => exact length_literal length_literalBody h
      next =>
        split at h
        next => cases h; exact (List.dropWhile_sublist _).length_le
        next => cases h

/-- The tokens of a text, if it consists of tokens, blanks and comments. -/
def scan (cs : List Char) : Option (List TomlToken) :=
  match cs with
  | [] => some []
  | c :: rest =>
    if isGap c then scan rest
    else if c = '#' then
      have : (rest.dropWhile isTextual).length ≤ rest.length :=
        (List.dropWhile_sublist _).length_le
      scan (rest.dropWhile isTextual)
    else
      match h : next c rest with
      | none => none
      | some (token, rest') =>
        have : rest'.length ≤ rest.length := length_next h
        (scan rest').map (token :: ·)
termination_by cs.length

end TomlToken

end CompilerDriver
