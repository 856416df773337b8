import CompilerDriver.Pattern.Reader
import CompilerDriver.Text.Alphanumeric
import CompilerDriver.Text.Blank
import CompilerDriver.Text.Digits

/-!
# Log filters

What goes into the log is said by directives with commas between them, such as
`target[span{field=value}]=level`, of which any part may be missing. A directive that cannot be read is left
out, and the user is told.

The places of the parts are found in a directive without the blanks around it, but the value of a field and the
level are then taken from the directive as it was written, as many bytes from the front. So they only are what they
seem to be where no blanks stand in front.
-/

namespace CompilerDriver.LogFilter

/-! ## Levels -/

/-- The levels of the log, the least talkative first. A number from 0 on also stands for each. -/
def levels : List String := ["off", "error", "warn", "info", "debug", "trace"]

/-- Whether a text stands for a level; letters count in either case. -/
def isLevel (text : List Char) : Bool :=
  match Digits.unsigned? text with
  | some n => n < levels.length
  | none => levels.contains (String.ofList (text.map Char.toLower))

/-! ## Values of fields -/

/-- Whether a text is an exponent, or nothing. -/
def isExponent : List Char → Bool
  | [] => true
  | e :: cs =>
    let digits := match cs with
      | '+' :: digits => digits
      | '-' :: digits => digits
      | digits => digits
    (e == 'e' || e == 'E') && !digits.isEmpty && digits.all Digits.isDigit

/-- Whether a text is a decimal number without a sign. A point needs digits on one side. -/
def isDecimal (text : List Char) : Bool :=
  let whole := text.takeWhile Digits.isDigit
  match text.dropWhile Digits.isDigit with
  | '.' :: rest =>
    (!whole.isEmpty || (rest.takeWhile Digits.isDigit) != []) && isExponent (rest.dropWhile Digits.isDigit)
  | rest => !whole.isEmpty && isExponent rest

/-- Whether a text is a number. There are names for what is no finite number. -/
def isNumber (text : List Char) : Bool :=
  let unsigned := match text with
    | '+' :: unsigned => unsigned
    | '-' :: unsigned => unsigned
    | unsigned => unsigned
  ["inf", "infinity", "nan"].contains (String.ofList (unsigned.map Char.toLower)) || isDecimal unsigned

/-- What is wrong with a field, if anything is. Behind the first equals sign stands its value, a number or a pattern;
what stands behind another one does not count. -/
def fieldFault? (field : List Char) : Option Pattern.Fault :=
  match field.dropWhile (· != '=') with
  | [] => none
  | _ :: rest =>
    let value := rest.takeWhile (· != '=')
    if isNumber value then none else Pattern.faultOf? value

/-! ## Directives -/

/-- What is wrong with a directive. -/
inductive Fault where
  /-- It has not the form of a directive. -/
  | malformed
  /-- The value of a field is a pattern that cannot be used. -/
  | field (fault : Pattern.Fault)
  /-- What stands in the place of its level is none. -/
  | unknownLevel
deriving DecidableEq, Repr

/-- The wording of a fault. -/
def Fault.message : Fault → String
  | .malformed => "invalid filter directive"
  | .field fault => s!"invalid field filter: {fault.message}"
  | .unknownLevel =>
    "error parsing level filter: expected one of \"off\", \"error\", \"warn\", \"info\", " ++
      "\"debug\", \"trace\", or a number 0-5"

/-- The part of a directive that is being read. -/
inductive Part where
  /-- The first character. -/
  | start
  /-- A target, or a level without one. -/
  | target
  /-- The name of a span. -/
  | span
  /-- A field of a span, which begins so many bytes from the front. -/
  | field (start : Nat)
  /-- The end of a span, behind its field. -/
  | fieldEnd
  /-- The end of a directive, or its level. -/
  | spanEnd
deriving DecidableEq, Repr

/-- Whether a directive can begin with a character, other than with a span. -/
def canBegin (c : Char) : Bool := c == '-' || c == ':' || c == '_' || Text.isAlphanumeric c

/-- A text without so many bytes at its front. -/
def dropBytes : (count : Nat) → List Char → List Char
  | _, [] => []
  | 0, cs => cs
  | count, c :: cs => dropBytes (count - c.utf8Size) cs

/-- So many bytes at the front of a text. -/
def takeBytes : (count : Nat) → List Char → List Char
  | _, [] => []
  | 0, _ => []
  | count, c :: cs => c :: takeBytes (count - c.utf8Size) cs

/-- What is wrong with a level, if anything is. It may be left out behind its equals sign. -/
def levelFault? (level : List Char) : Option Fault :=
  if level.isEmpty || isLevel level then none else some .unknownLevel

/-- What is wrong with a directive that was written as `written`, if anything is, when it is read from one of its
parts on, `place` bytes from the front. -/
def faultFrom? (written : List Char) (part : Part) (place : Nat) : List Char → Option Fault
  | [] =>
    match part with
    | .target | .spanEnd => none
    | _ => some .malformed
  | c :: rest =>
    let goOn (part : Part) : Option Fault := faultFrom? written part (place + c.utf8Size) rest
    match part with
    | .start =>
      if c = '[' then goOn .span else if canBegin c then goOn .target else some .malformed
    | .target =>
      if c = '=' then levelFault? (dropBytes (place + 1) written)
      else if c = '[' then goOn .span
      else goOn .target
    | .span =>
      if c = ']' then goOn .spanEnd
      else if c = '\x7b' then goOn (.field (place + 1))
      else goOn .span
    | .field start =>
      if c = '\x7d' then
        if start = place then some .malformed
        else match fieldFault? (takeBytes (place - start) (dropBytes start written)) with
          | some fault => some (.field fault)
          | none => goOn .fieldEnd
      else goOn part
    | .fieldEnd => if c = ']' then goOn .spanEnd else some .malformed
    | .spanEnd =>
      if c = '=' then levelFault? (dropBytes (place + 1) written) else some .malformed

/-- A text without the blanks around it. -/
def trim (cs : List Char) : List Char :=
  (Text.skipBlanks (Text.skipBlanks cs).reverse).reverse

/-- What is wrong with a directive, if anything is. -/
def fault? (directive : List Char) : Option Fault := faultFrom? directive .start 0 (trim directive)

/-! ## Filters -/

/-- What stands before the first comma of a text, and what stands behind each of its commas. -/
def cutAtCommas : List Char → List Char × List (List Char)
  | [] => ([], [])
  | c :: rest =>
    let (piece, others) := cutAtCommas rest
    if c = ',' then ([], piece :: others) else (c :: piece, others)

/-- The directives of a filter. Between two commas there need not be one. -/
def directives (filter : String) : List (List Char) :=
  let (piece, others) := cutAtCommas filter.toList
  (piece :: others).filter fun directive => !directive.isEmpty

/-- What the user is told of a filter: a line for each directive that cannot be read. -/
def complaints (filter : String) : List String :=
  (directives filter).filterMap fun directive =>
    (fault? directive).map fun fault =>
      s!"ignoring `{String.ofList directive}`: {fault.message}"

end CompilerDriver.LogFilter
