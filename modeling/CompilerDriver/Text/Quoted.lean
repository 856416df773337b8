import CompilerDriver.Text.Digits
import CompilerDriver.Text.Invisible
import CompilerDriver.Text.Utf8

/-!
# Quoted bytes

Bytes in quotation marks, for a person to read: text stands for itself, except that the quotation mark, the
backslash and invisible characters are escaped, and a byte that belongs to no text is given by its number.
-/

namespace CompilerDriver.Quoted

/-- The digits of a number in base 16, the most significant one first. -/
def hexDigits (n : Nat) : List Char :=
  if n < 16 then [Digits.hexDigit n] else hexDigits (n / 16) ++ [Digits.hexDigit (n % 16)]

/-- A character of a quoted text. -/
def escape (c : Char) : List Char :=
  if c = '\x00' then ['\\', '0']
  else if c = '\t' then ['\\', 't']
  else if c = '\n' then ['\\', 'n']
  else if c = '\r' then ['\\', 'r']
  else if c = '"' ∨ c = '\\' then ['\\', c]
  else if Text.isInvisible c then
    ['\\', 'u', '\x7b'] ++ hexDigits c.toNat ++ ['\x7d']
  else [c]

/-- A byte that belongs to no text. -/
def brokenByte (b : UInt8) : List Char :=
  ['\\', 'x'] ++ (Digits.hexByte b).map Char.toUpper

/-- The text of some bytes, character by character. -/
def body (bytes : Bytes) : List Char :=
  match bytes with
  | [] => []
  | b :: rest =>
    have := Utf8.length_rest_next b rest
    match h : Utf8.next b rest with
    | .char c after =>
      have : after.length ≤ rest.length := by rw [h] at this; exact this
      escape c ++ body after
    | .broken length after =>
      have : after.length ≤ rest.length := by rw [h] at this; exact this
      ((b :: rest).take length).flatMap brokenByte ++ body after
    | .truncated => (b :: rest).flatMap brokenByte
termination_by bytes.length

/-- Some bytes in quotation marks. -/
def ofBytes (bytes : Bytes) : String := String.ofList ('"' :: body bytes ++ ['"'])

end CompilerDriver.Quoted
