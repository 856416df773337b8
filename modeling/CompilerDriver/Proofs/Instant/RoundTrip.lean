import CompilerDriver.Instant.Printer
import CompilerDriver.Instant.Reader
import CompilerDriver.Proofs.Text.Digits

/-!
# Written instants read back

Main statement: `ofText?_text`, for every instant, in any year, with any fraction of a second and also within
a leap second. The reader takes one field after the other off the front of a text, so there is a lemma for
each field, with any text behind it that does not go on with a digit (`yearField_append`, `field_append`,
`fraction_append`); `fields?_chars` puts them together, and what is left is the calendar.
-/

namespace CompilerDriver.Instant

open Digits Text

/-! ## Blanks and runs of digits -/

theorem toNat_of_isDigit {c : Char} (h : isDigit c = true) : 48 ≤ c.toNat ∧ c.toNat ≤ 57 := by
  simp only [isDigit, Bool.and_eq_true, decide_eq_true_eq, Char.le_def, UInt32.le_iff_toNat_le] at h
  exact h

theorem isBlank_of_isDigit {c : Char} (h : isDigit c = true) : isBlank c = false := by
  have hrange := toNat_of_isDigit h
  have wide : wideBlanks.any isDigit = false := by decide
  have hspace : c ≠ ' ' := by
    rintro rfl
    exact absurd h (by decide)
  have hwide : c ∉ wideBlanks := by
    intro hc
    rw [List.any_eq_true.2 ⟨c, hc, h⟩] at wide
    cases wide
  simp only [isBlank, Bool.or_eq_false_iff, beq_eq_false_iff_ne, ne_eq, List.contains_eq_mem,
    decide_eq_false_iff_not]
  refine ⟨⟨?_, hspace⟩, hwide⟩
  rw [Bool.and_eq_false_iff]
  right
  exact decide_eq_false (by omega)

theorem skipBlanks_cons {c : Char} (h : isBlank c = false) (cs : List Char) :
    skipBlanks (c :: cs) = c :: cs := by
  rw [skipBlanks, List.dropWhile_cons_of_neg (by simp [h])]

/-- In front of digits there is nothing to skip. -/
theorem skipBlanks_append {ds : List Char} (hd : ds.all isDigit = true) (hne : ds ≠ [])
    (rest : List Char) : skipBlanks (ds ++ rest) = ds ++ rest := by
  cases ds with
  | nil => exact absurd rfl hne
  | cons d ds =>
    rw [List.all_cons, Bool.and_eq_true] at hd
    exact skipBlanks_cons (isBlank_of_isDigit hd.1) _

/-- A run of digits ends where it is as long as allowed, or where the text goes on with something else. -/
theorem digitRun_append (width : Nat) {ds rest : List Char} (hd : ds.all isDigit = true)
    (hw : ds.length ≤ width) (hr : ds.length = width ∨ NoDigitAhead rest) :
    digitRun width (ds ++ rest) = (ds, rest) := by
  induction ds generalizing width with
  | nil =>
    cases width with
    | zero => rfl
    | succ width =>
      rcases hr with hr | hr
      · cases hr
      · cases rest with
        | nil => rfl
        | cons c rest => simp [digitRun, hr c rest rfl]
  | cons d ds ih =>
    rw [List.all_cons, Bool.and_eq_true] at hd
    cases width with
    | zero => cases hw
    | succ width =>
      rw [List.length_cons, Nat.add_right_cancel_iff] at hr
      have := ih _ hd.2 (Nat.le_of_succ_le_succ hw) hr
      simp [digitRun, hd.1, this]

theorem number_append (width : Nat) {ds rest : List Char} (hd : ds.all isDigit = true)
    (hne : ds ≠ []) (hw : ds.length ≤ width) (hr : ds.length = width ∨ NoDigitAhead rest) :
    number width (ds ++ rest) = some (value ds, rest) := by
  rw [number, digitRun_append width hd hw hr]
  cases ds with
  | nil => exact absurd rfl hne
  | cons d ds => rfl

/-! ## Single fields -/

theorem field_append {n : Nat} (h : n < 100) (rest : List Char) :
    field (padded 2 n ++ rest) = some (n, rest) := by
  have hlen : (padded 2 n).length = 2 := length_padded (length_decimal_le n 1 h)
  rw [field, skipBlanks_append (padded_isDigit 2 n) (padded_ne_nil 2 n),
    number_append 2 (padded_isDigit 2 n) (padded_ne_nil 2 n) (Nat.le_of_eq hlen) (.inl hlen),
    value_padded]

theorem mark_cons {m : Char} (h : isBlank m = false) (rest : List Char) :
    mark m (m :: rest) = some rest := by
  rw [mark, skipBlanks_cons h]
  simp

/-- A year reads back, with its sign or without one. -/
theorem yearField_append (year : Int) {rest : List Char} (hr : NoDigitAhead rest) :
    yearField (yearText year ++ rest) = some (year, rest) := by
  have hall (n : Nat) := padded_isDigit 4 n
  have hne (n : Nat) := padded_ne_nil 4 n
  by_cases h : 0 ≤ year ∧ year ≤ 9999
  · have hlen : (padded 4 year.toNat).length = 4 :=
      length_padded (length_decimal_le _ 3 (by simp; omega))
    have hnumber : number 4 (padded 4 year.toNat ++ rest) = some (year.toNat, rest) := by
      rw [number_append 4 (hall _) (hne _) (Nat.le_of_eq hlen) (.inl hlen), value_padded]
    obtain ⟨d, ds, hd⟩ := List.exists_cons_of_ne_nil (hne year.toNat)
    have hdig : isDigit d = true := by
      have := hall year.toNat
      rw [hd, List.all_cons, Bool.and_eq_true] at this
      exact this.1
    rw [yearText, if_pos h, yearField, skipBlanks_append (hall _) (hne _)]
    rw [hd, List.cons_append] at hnumber ⊢
    split
    next heq =>
      rw [(List.cons.inj heq).1] at hdig
      exact absurd hdig (by decide)
    next heq =>
      rw [(List.cons.inj heq).1] at hdig
      exact absurd hdig (by decide)
    next =>
      rw [hnumber, Option.map_some]
      simp only [Option.some.injEq, Prod.mk.injEq, and_true]
      omega
  -- a year with a sign may have any number of digits, and the dash behind it ends them
  · have hnumber := number_append (padded 4 year.natAbs ++ rest).length (hall year.natAbs)
      (hne year.natAbs)
      (by rw [List.length_append]; exact Nat.le_add_right _ _) (.inr hr)
    rw [value_padded] at hnumber
    rw [yearText, if_neg h]
    by_cases hneg : year < 0
    · rw [if_pos hneg, List.cons_append, yearField, skipBlanks_cons (by decide)]
      simp only [hnumber, Option.map_some, Option.some.injEq, Prod.mk.injEq, and_true]
      omega
    · rw [if_neg hneg, List.cons_append, yearField, skipBlanks_cons (by decide)]
      simp only [hnumber, Option.map_some, Option.some.injEq, Prod.mk.injEq, and_true]
      omega

/-- A fraction of `width` digits counts as many units of its last place. -/
theorem fraction_point {width n : Nat} (hw : width ≤ 9) (hn : (decimal n).length ≤ width)
    {rest : List Char} (hr : NoDigitAhead rest) :
    fraction ('.' :: (padded width n ++ rest)) = some (n * Nat.pow 10 (9 - width), rest) := by
  have hlen := length_padded hn
  have hrun := digitRun_append 9 (padded_isDigit width n) (by omega) (.inr hr)
  have hnone : ([] : List Char).all isDigit = true := rfl
  have hdrop : rest.dropWhile isDigit = rest := dropWhile_isDigit_append hnone hr
  have hvalue := value_append_zeros (padded width n) (9 - width)
  rw [value_padded] at hvalue
  rw [fraction, hrun]
  split
  next h => exact absurd (Prod.mk.inj h).1 (padded_ne_nil width n)
  next h =>
    obtain ⟨rfl, rfl⟩ := Prod.mk.inj h
    rw [hlen, hvalue, hdrop]

theorem fraction_append {nanos : Nat} (h : nanos < 1000000000) {rest : List Char}
    (hr : NoDigitAhead rest) (hp : ∀ r, rest ≠ '.' :: r) :
    fraction (fractionText nanos ++ rest) = some (nanos, rest) := by
  unfold fractionText
  split
  · next h0 =>
    rw [List.nil_append, fraction.eq_def]
    split
    next cs => exact absurd rfl (hp cs)
    next => rw [h0]
  split
  · next h0 =>
    have hlen := length_decimal_le (nanos / 1000000) 2 (by simp; omega)
    rw [List.cons_append, fraction_point (by decide) hlen hr]
    simp
    omega
  split
  · next h0 =>
    have hlen := length_decimal_le (nanos / 1000) 5 (by simp; omega)
    rw [List.cons_append, fraction_point (by decide) hlen hr]
    simp
    omega
  · have hlen := length_decimal_le nanos 8 (by simp; omega)
    rw [List.cons_append, fraction_point (by decide) hlen hr]
    simp

/-! ## The date and time of an instant -/

theorem month_day_lt (t : Instant) : t.date.month < 100 ∧ t.date.day < 100 := by
  have short (leap : Bool) : ∀ length ∈ Date.monthLengths leap, length ≤ 31 := by
    cases leap <;> decide
  have twelve (leap : Bool) : (Date.monthLengths leap).length = 12 := by
    cases leap <;> rfl
  obtain ⟨i, length, hmonth, hlength, hday, -, -⟩ :=
    Date.findMonth_ofDayNumber (t.seconds / 86400 + epochDay)
  obtain ⟨hi, -⟩ := List.getElem?_eq_some_iff.1 hlength
  have hle := short _ length (List.mem_of_getElem? hlength)
  rw [twelve] at hi
  unfold date
  omega

theorem year_bounds (t : Instant) : firstYear ≤ t.date.year ∧ t.date.year ≤ lastYear := by
  have hlow := t.seconds_ge
  have hhigh := t.seconds_le
  obtain ⟨e, c, q, y, r, hyear, hday, h⟩ := Date.yearOf_parts (t.seconds / 86400 + epochDay)
  show firstYear ≤ Date.yearOf (t.seconds / 86400 + epochDay) ∧
    Date.yearOf (t.seconds / 86400 + epochDay) ≤ lastYear
  rw [hyear]
  simp only [firstYear, lastYear, epochDay] at *
  omega

/-- The second that a leap second adds to its minute. -/
def leapSecond (t : Instant) : Nat := if 1000000000 ≤ t.nanos then 1 else 0

theorem secondOfDay_lt (t : Instant) : t.secondOfDay < 86400 := by
  unfold secondOfDay
  omega

/-- A date and a time, spelled as in records, are taken apart again. -/
theorem fields?_spelled (year : Int) {month day hour minute second nanos : Nat}
    (hmonth : month < 100) (hday : day < 100) (hhour : hour < 100) (hminute : minute < 100)
    (hsecond : second < 100) (hnanos : nanos < 1000000000) :
    fields? (yearText year ++ '-' :: (padded 2 month ++ '-' :: (padded 2 day ++ 'T' ::
      (padded 2 hour ++ ':' :: (padded 2 minute ++ ':' :: (padded 2 second ++
        (fractionText nanos ++ ['Z']))))))) =
      some ⟨⟨year, month, day⟩, hour, minute, second, nanos, 0⟩ := by
  have hyear (rest : List Char) : yearField (yearText year ++ '-' :: rest) =
      some (year, '-' :: rest) := yearField_append year (noDigitAhead_cons (by decide))
  have hdash (rest : List Char) := mark_cons (m := '-') (by decide) rest
  have hcolon (rest : List Char) := mark_cons (m := ':') (by decide) rest
  have hmark (rest : List Char) : dateTimeMark ('T' :: rest) = some rest := rfl
  have hfraction : fraction (fractionText nanos ++ ['Z']) = some (nanos, ['Z']) :=
    fraction_append hnanos (noDigitAhead_cons (by decide)) fun r h =>
      absurd (List.cons.inj h).1 (by decide)
  have hzone : zone (skipBlanks ['Z']) = some (0, []) := by
    rw [skipBlanks_cons (by decide)]
    rfl
  have hend : skipBlanks [] = [] := rfl
  rw [fields?]
  simp only [hyear, hdash, hmark, hcolon, hfraction, hzone, hend, field_append hmonth,
    field_append hday, field_append hhour, field_append hminute, field_append hsecond,
    Option.bind_eq_bind, Option.bind_some, if_true]

theorem fields?_chars (t : Instant) :
    fields? (t.chars .letter) = some {
      date := t.date
      hour := t.secondOfDay / 3600
      minute := t.secondOfDay / 60 % 60
      second := t.secondOfDay % 60 + t.leapSecond
      nanos := t.nanos - t.leapSecond * 1000000000
      ahead := 0 } := by
  have hsecond := t.secondOfDay_lt
  have hnanos := t.nanos_lt
  have hleap : t.leapSecond ≤ 1 ∧ t.nanos - t.leapSecond * 1000000000 < 1000000000 := by
    unfold leapSecond
    split <;> omega
  have htext : t.chars .letter = yearText t.date.year ++ '-' :: (padded 2 t.date.month ++
      '-' :: (padded 2 t.date.day ++ 'T' :: (padded 2 (t.secondOfDay / 3600) ++
        ':' :: (padded 2 (t.secondOfDay / 60 % 60) ++
          ':' :: (padded 2 (t.secondOfDay % 60 + t.leapSecond) ++
            (fractionText (t.nanos - t.leapSecond * 1000000000) ++ ['Z'])))))) := by
    simp only [chars, dateText, timeText, Zone.text, leapSecond, List.append_assoc,
      List.cons_append]
  rw [htext]
  exact fields?_spelled t.date.year t.month_day_lt.1 t.month_day_lt.2 (by omega) (by omega)
    (by omega) hleap.2

/-- A written instant reads back. -/
theorem ofText?_text (t : Instant) : ofText? t.text = some t := by
  have hsecond := t.secondOfDay_lt
  have hyear := t.year_bounds
  have hvalid : t.date.isValid = true := Date.isValid_ofDayNumber _
  have hday : t.date.dayNumber = t.seconds / 86400 + epochDay := Date.dayNumber_ofDayNumber _
  have hsod : (t.secondOfDay : Int) = t.seconds % 86400 := by
    unfold secondOfDay
    omega
  -- within a leap second the minute has its 59th second behind it
  have hsum : (t.seconds / 86400 + epochDay - epochDay) * 86400 +
      ((t.secondOfDay / 3600 * 3600 + t.secondOfDay / 60 % 60 * 60 +
        min (t.secondOfDay % 60 + t.leapSecond) 59 : Nat) : Int) - 0 = t.seconds := by
    have hleap := t.leap
    unfold leapSecond
    split <;> omega
  have hnanos : t.nanos - t.leapSecond * 1000000000 +
      (if t.secondOfDay % 60 + t.leapSecond = 60 then 1000000000 else 0) = t.nanos := by
    have hleap := t.leap
    unfold leapSecond
    split <;> split <;> omega
  have hbounds : t.secondOfDay / 3600 < 24 ∧ t.secondOfDay / 60 % 60 < 60 ∧
      t.secondOfDay % 60 + t.leapSecond ≤ 60 := by
    unfold leapSecond
    split <;> omega
  rw [ofText?, text, String.toList_ofList, fields?_chars, Option.bind_some, Fields.instant?,
    if_pos ⟨hvalid, hyear.1, hyear.2, hbounds⟩]
  simp only [hday, hsum, hnanos]
  exact ofUnix?_self t

end CompilerDriver.Instant
