import CompilerDriver.Mode
import CompilerDriver.Proofs.DriverOption.Spelling
import CompilerDriver.Proofs.Text.Words

/-!
# The parameters of batches

Each parameter of batches has an option of its own, of which only the last occurrence counts
(`lastArgument?_eq_some_iff`). The parameter is the number that its argument writes, if a word of 64 bits can hold it
(`of_ofGiven_eq_some_iff`). If there is no such number, there is no parameter either: an earlier occurrence does not
take the place of the last one (`ofGiven_exact`).
-/

namespace CompilerDriver

namespace Occurrences

/-- The option is given with the argument, or without one if it is `none`, and not again behind that. -/
def LastGiven (given : Occurrences) (o : DriverOption) (argument : Option String) : Prop :=
  ∃ before after, given = before ++ ⟨o, argument⟩ :: after ∧ ∀ x ∈ after, x.option ≠ o

variable {given : Occurrences} {o : DriverOption}

theorem LastGiven.lastArgument?_eq {argument : Option String} (h : LastGiven given o argument) :
    given.lastArgument? o = argument := by
  obtain ⟨before, after, rfl, hafter⟩ := h
  have hnone : after.reverse.find? (fun x => x.option == o) = none := by
    apply List.find?_eq_none.2
    intro x hx
    simpa using hafter x (List.mem_reverse.1 hx)
  simp [lastArgument?, hnone]

theorem lastArgument?_eq_some_iff {argument : String} :
    given.lastArgument? o = some argument ↔ LastGiven given o (some argument) := by
  constructor
  · intro h
    obtain ⟨⟨option, _⟩, hfound, rfl⟩ := Option.bind_eq_some_iff.1 h
    obtain ⟨hoption, after, before, hreverse, hafter⟩ := List.find?_eq_some_iff_append.1 hfound
    obtain rfl := beq_iff_eq.1 hoption
    refine ⟨before.reverse, after.reverse, ?_, ?_⟩
    · rw [← List.reverse_reverse given, hreverse]
      simp
    · intro x hx
      simpa using hafter x (List.mem_reverse.1 hx)
  · intro h
    exact h.lastArgument?_eq

end Occurrences

namespace BatchParameters

open Digits Occurrences

/-- The parameters of batches, by name. -/
inductive Field where
  | seed | count | sizeLimit
deriving DecidableEq, Repr

namespace Field

/-- The option that gives the parameter. -/
def option : Field → DriverOption
  | .seed => .driverBatchSeed
  | .count => .driverBatchCount
  | .sizeLimit => .driverBatchSizeLimit

/-- The parameter among some. -/
def of (field : Field) (parameters : BatchParameters) : Option UInt64 :=
  match field with
  | .seed => parameters.seed
  | .count => parameters.count
  | .sizeLimit => parameters.sizeLimit

end Field

variable (field : Field) (given : Occurrences)

theorem of_ofGiven : field.of (ofGiven given) = (given.lastArgument? field.option).bind number? := by
  cases field <;> rfl

/-- A parameter is the number that the last argument of its option writes. -/
theorem of_ofGiven_eq_some_iff {w : UInt64} : field.of (ofGiven given) = some w ↔
    ∃ argument, LastGiven given field.option (some argument) ∧ IsUnsigned argument.toList w.toNat := by
  simp only [of_ofGiven, Option.bind_eq_some_iff, lastArgument?_eq_some_iff, number?, unsignedWord?_eq_some_iff]

/-- The same without words. -/
theorem map_of_ofGiven_eq_some_iff {n : Nat} : (field.of (ofGiven given)).map UInt64.toNat = some n ↔
    n < UInt64.size ∧
      ∃ argument, LastGiven given field.option (some argument) ∧ IsUnsigned argument.toList n := by
  rw [Option.map_eq_some_iff]
  constructor
  · rintro ⟨w, hw, rfl⟩
    exact ⟨w.toNat_lt_size, (of_ofGiven_eq_some_iff field given).1 hw⟩
  · rintro ⟨hn, hlast⟩
    have hw : (UInt64.ofNat n).toNat = n := UInt64.toNat_ofNat_of_lt' hn
    exact ⟨UInt64.ofNat n, (of_ofGiven_eq_some_iff field given).2 (hw.symm ▸ hlast), hw⟩

theorem of_ofGiven_eq_none_iff : field.of (ofGiven given) = none ↔
    ¬∃ n < UInt64.size,
      ∃ argument, LastGiven given field.option (some argument) ∧ IsUnsigned argument.toList n := by
  simp only [← map_of_ofGiven_eq_some_iff, ← Option.isSome_iff_exists, Option.isSome_map, Bool.not_eq_true,
    Option.isSome_eq_false_iff, Option.isNone_iff_eq_none]

/-- The options of parameters are followed by their arguments. -/
theorem read_option (argument : String) :
    read [field.option.spelling, argument] = .ok [.withArgument field.option argument] := by
  have htakes : field.option.takesArgument = true := by cases field <;> rfl
  have hgives := gives_next htakes List.mem_cons_self argument
  exact hgives []

/-- The parameters of batches are read exactly:

* a parameter is a number if and only if this is below 2^64 and the last occurrence of its option has an argument that
  writes it;
* it is absent if and only if there is no such number;
* so whatever stands before the last occurrence, it is absent if that one has no argument, or one that writes no number
  below 2^64;
* an option followed by the text of a number below 2^64 gives this number;
* digits are never read as another number than the one they write. -/
theorem ofGiven_exact :
    (∀ (field : Field) (given : Occurrences) (n : Nat), (field.of (ofGiven given)).map UInt64.toNat = some n ↔
      n < UInt64.size ∧
        ∃ argument, LastGiven given field.option (some argument) ∧ IsUnsigned argument.toList n) ∧
    (∀ (field : Field) (given : Occurrences), field.of (ofGiven given) = none ↔
      ¬∃ n < UInt64.size,
        ∃ argument, LastGiven given field.option (some argument) ∧ IsUnsigned argument.toList n) ∧
    (∀ (field : Field) (before after : Occurrences) (last : Option String),
      (∀ x ∈ after, x.option ≠ field.option) →
      (∀ argument, last = some argument → ∀ n < UInt64.size, ¬IsUnsigned argument.toList n) →
        field.of (ofGiven (before ++ ⟨field.option, last⟩ :: after)) = none) ∧
    (∀ (field : Field), ∀ n < UInt64.size, ∃ given, read [field.option.spelling, toString n] = .ok given ∧
      (field.of (ofGiven given)).map UInt64.toNat = some n) ∧
    ∀ digits n, IsDecimal digits n →
      (number? (String.ofList digits)).map UInt64.toNat = if n < UInt64.size then some n else none := by
  refine ⟨fun field given n => map_of_ofGiven_eq_some_iff field given, of_ofGiven_eq_none_iff, ?last, ?parsed,
    ?digits⟩
  case last =>
    intro field before after last hafter hlast
    apply (of_ofGiven_eq_none_iff field _).2
    rintro ⟨n, hn, argument, hargument, hwrites⟩
    have hgiven : LastGiven (before ++ ⟨field.option, last⟩ :: after) field.option last :=
      ⟨before, after, rfl, hafter⟩
    have hsame : last = some argument := hgiven.lastArgument?_eq.symm.trans hargument.lastArgument?_eq
    exact hlast argument hsame n hn hwrites
  case parsed =>
    intro field n hn
    have hlast : LastGiven [.withArgument field.option (toString n)] field.option (some (toString n)) :=
      ⟨[], [], rfl, by simp⟩
    have hwrites : IsUnsigned (toString n).toList n := ⟨_, isDecimal_toString n, .inl rfl⟩
    exact ⟨_, read_option field (toString n), (map_of_ofGiven_eq_some_iff field _).2 ⟨hn, _, hlast, hwrites⟩⟩
  case digits =>
    intro digits n h
    rw [number?, String.toList_ofList]
    exact map_unsignedWord? ⟨digits, h, .inl rfl⟩

/-- The greatest number that can be given, behind zeros and a plus sign, and the number after it. -/
example : number? "+00018446744073709551615" = some 18446744073709551615 ∧
    number? "18446744073709551616" = none := by decide +kernel

end BatchParameters

end CompilerDriver
