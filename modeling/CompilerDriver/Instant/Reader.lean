import CompilerDriver.Instant.Basic
import CompilerDriver.Text.Blank
import CompilerDriver.Text.Digits

/-!
# Reading instants

Records are also written by hand and by other tools, so the reader takes more than the printer writes:
fields without leading zeros, blanks before each field and around the whole, a space or a small `t`
between date and time, seconds with any number of fraction digits, and any distance from universal time
below a day. Each step takes a field off the front of the text and gives what follows it.
-/

namespace CompilerDriver.Instant

open Digits Text

/-- The longest run of digits at the front, but at most `width` of them. -/
def digitRun : (width : Nat) → List Char → List Char × List Char
  | 0, cs => ([], cs)
  | _ + 1, [] => ([], [])
  | width + 1, c :: cs =>
    if isDigit c then
      let (run, rest) := digitRun width cs
      (c :: run, rest)
    else ([], c :: cs)

/-- A number of one to `width` digits. -/
def number (width : Nat) (cs : List Char) : Option (Nat × List Char) :=
  match digitRun width cs with
  | ([], _) => none
  | (run, rest) => some (value run, rest)

/-- A number of one or two digits, after blanks. -/
def field (cs : List Char) : Option (Nat × List Char) := number 2 (skipBlanks cs)

/-- A year: up to four digits, or a sign and any number of them. -/
def yearField (cs : List Char) : Option (Int × List Char) :=
  match skipBlanks cs with
  | '-' :: cs => (number cs.length cs).map fun (n, rest) => (-(n : Int), rest)
  | '+' :: cs => (number cs.length cs).map fun (n, rest) => ((n : Int), rest)
  | cs => (number 4 cs).map fun (n, rest) => ((n : Int), rest)

/-- The character `mark`, after blanks. -/
def mark (mark : Char) (cs : List Char) : Option (List Char) :=
  match skipBlanks cs with
  | c :: rest => if c = mark then some rest else none
  | [] => none

/-- What separates date and time: the letter `T` in either case, or a space. -/
def dateTimeMark : List Char → Option (List Char)
  | c :: rest => if c = 'T' ∨ c = 't' ∨ c = ' ' then some rest else none
  | [] => none

/-- The fraction of a second in nanoseconds. The first nine digits count; without a point it is 0. -/
def fraction : List Char → Option (Nat × List Char)
  | '.' :: cs =>
    match digitRun 9 cs with
    | ([], _) => none
    | (run, rest) =>
      some (value (run ++ List.replicate (9 - run.length) '0'), rest.dropWhile isDigit)
  | cs => some (0, cs)

/-- The distance from universal time in seconds: sign, two digits of hours, two of minutes. Colons and
blanks may separate the two. -/
def distance (cs : List Char) : Option (Int × List Char) := do
  let (sign, cs) ← match cs with
    | '+' :: cs => some ((1 : Int), cs)
    | '-' :: cs => some (-1, cs)
    | '\u2212' :: cs => some (-1, cs)
    | _ => none
  let (hours, cs) ← twoDigits cs
  let (minutes, cs) ← twoDigits (cs.dropWhile fun c => c == ':' || isBlank c)
  if minutes < 60 ∧ hours < 24 then some (sign * (hours * 3600 + minutes * 60 : Nat), cs) else none
where
  /-- A number of exactly two digits. -/
  twoDigits : List Char → Option (Nat × List Char)
    | a :: b :: rest => if isDigit a ∧ isDigit b then some (value [a, b], rest) else none
    | _ => none

/-- The zone: `Z` or `UTC` in either case, or a distance. -/
def zone (cs : List Char) : Option (Int × List Char) :=
  match cs with
  | c :: rest =>
    if c = 'Z' ∨ c = 'z' then some (0, rest)
    else if (cs.take 3).map Char.toUpper = ['U', 'T', 'C'] then some (0, cs.drop 3)
    else distance cs
  | [] => none

/-- The fields of a written instant, as they stand there. -/
structure Fields where
  date : Date
  hour : Nat
  minute : Nat
  second : Nat
  nanos : Nat
  /-- Seconds by which the written time is ahead of universal time. -/
  ahead : Int

/-- Takes a text apart. Nothing but blanks may be left over. -/
def fields? (cs : List Char) : Option Fields := do
  let (year, cs) ← yearField cs
  let (month, cs) ← field (← mark '-' cs)
  let (day, cs) ← field (← mark '-' cs)
  let (hour, cs) ← field (← dateTimeMark cs)
  let (minute, cs) ← field (← mark ':' cs)
  let (second, cs) ← field (← mark ':' cs)
  let (nanos, cs) ← fraction cs
  let (ahead, cs) ← zone (skipBlanks cs)
  if skipBlanks cs = [] then some ⟨⟨year, month, day⟩, hour, minute, second, nanos, ahead⟩ else none

/-- The instant that fields stand for: a day of the calendar in the years there are, a time of that day,
where a 60th second is the leap second after the 59th. -/
def Fields.instant? (f : Fields) : Option Instant :=
  if f.date.isValid ∧ firstYear ≤ f.date.year ∧ f.date.year ≤ lastYear ∧
      f.hour < 24 ∧ f.minute < 60 ∧ f.second ≤ 60 then
    let second := min f.second 59
    let leap := if f.second = 60 then 1000000000 else 0
    ofUnix? ((f.date.dayNumber - epochDay) * 86400 +
      (f.hour * 3600 + f.minute * 60 + second : Nat) - f.ahead) (f.nanos + leap)
  else none

/-- The instant that a text writes, if it writes one. -/
def ofText? (s : String) : Option Instant := (fields? s.toList).bind Fields.instant?

end CompilerDriver.Instant
