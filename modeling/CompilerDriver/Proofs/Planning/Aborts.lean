import CompilerDriver.Proofs.DriverOption.Spelling
import CompilerDriver.Proofs.Planning.Agreement
import CompilerDriver.Proofs.Planning.Invocations

/-!
# Planning never aborts

A driver that reads words as bytes and looks things up in tables relies on more than its types say, and has to abort
where it is wrong (`Abort`): the option found for a glued argument is one that takes glued arguments, its spelling ends
between two characters of the word, and the option that stands for the group `modes` decides about the products. Here
planning is done with all of this checked (`settleChecked`), and no check ever fails: an invocation is refused
with an error that the user is told of, or everything is settled (`planning_ends`).

A word is cut by bytes. That this is where the spelling ends rests on the bytes of the spelling being the first ones of
the word (`dropBytes?_eq_some_iff`), whatever characters stand behind it.
-/

namespace CompilerDriver

/-- What went wrong where nothing can. -/
inductive Abort where
  /-- An argument is glued to an option that takes no glued arguments. -/
  | notJoined (option : DriverOption)
  /-- A word is to be cut inside of a character or behind its end. -/
  | badCut (word : String) (place : Nat)
  /-- An option that does not decide about the products was to do so. -/
  | unhandledMode (e : UnhandledMode)
deriving DecidableEq, Repr

/-- Why planning stops. -/
inductive Stop where
  | refused (e : InvocationError)
  | aborted (abort : Abort)
deriving DecidableEq, Repr

/-! ## Cutting words -/

namespace Word

/-- What stands behind the first `place` bytes of some characters, if that place is not inside of a character and not
behind the end. -/
def dropBytes? : (place : Nat) → List Char → Option (List Char)
  | place, [] => if place = 0 then some [] else none
  | place, c :: cs =>
    if place = 0 then some (c :: cs)
    else if (Utf8.encodeChar c).length ≤ place then dropBytes? (place - (Utf8.encodeChar c).length) cs
    else none

theorem encodeChar_length_pos (c : Char) : 0 < (Utf8.encodeChar c).length := by
  obtain ⟨b, bs, hchar, -⟩ := Utf8.next_encodeChar c []
  rw [hchar]
  exact Nat.succ_pos _

theorem length_encode_cons (c : Char) (cs : List Char) :
    (Utf8.encode (c :: cs)).length = (Utf8.encodeChar c).length + (Utf8.encode cs).length := by
  rw [Utf8.encode, List.flatMap_cons, List.length_append, Utf8.encode]

/-- Characters can be cut exactly behind some of them, at the number of bytes that these have. -/
theorem dropBytes?_eq_some_iff {place : Nat} {cs rest : List Char} : dropBytes? place cs = some rest ↔
    ∃ front, cs = front ++ rest ∧ (Utf8.encode front).length = place := by
  induction cs generalizing place with
  | nil =>
    rw [dropBytes?]
    constructor
    · intro h
      split at h
      next hplace =>
        cases h
        exact ⟨[], rfl, hplace.symm⟩
      next => cases h
    · rintro ⟨front, hfront, rfl⟩
      obtain ⟨rfl, rfl⟩ := List.append_eq_nil_iff.1 hfront.symm
      rfl
  | cons c cs ih =>
    have hpos := encodeChar_length_pos c
    rw [dropBytes?]
    constructor
    · intro h
      split at h
      next hplace =>
        cases h
        exact ⟨[], rfl, hplace.symm⟩
      next =>
        split at h
        next hfits =>
          obtain ⟨front, rfl, hfront⟩ := ih.1 h
          refine ⟨c :: front, rfl, ?_⟩
          rw [length_encode_cons]
          omega
        next => cases h
    · rintro ⟨front, hfront, hplace⟩
      cases front with
      | nil =>
        have hzero : place = 0 := hplace.symm
        rw [if_pos hzero]
        exact congrArg some hfront
      | cons d front =>
        obtain ⟨rfl, rfl⟩ := List.cons.inj hfront
        rw [length_encode_cons] at hplace
        rw [if_neg (by omega), if_pos (by omega)]
        exact ih.2 ⟨front, rfl, by omega⟩

/-- The second byte of a word can be in the middle of its first character. -/
example : dropBytes? 1 "é=".toList = none ∧ dropBytes? 2 "é=".toList = some ['='] ∧
    dropBytes? 4 "é=".toList = none := by
  decide

/-- Cuts off the argument that is glued to an option in a word. -/
def cutGlued (option : DriverOption) (word : String) : Except Abort Occurrence :=
  let place := (Utf8.encode option.spelling.toList).length
  if option.form = .joined then
    match dropBytes? place word.toList with
    | some argument => .ok (.withArgument option (String.ofList argument))
    | none => .error (.badCut word place)
  else .error (.notJoined option)

/-- An argument that is found to be glued to an option is cut off. -/
theorem cutGlued_of_gluedArgument? {option : DriverOption} {word argument : String}
    (h : option.gluedArgument? word = some argument) :
    cutGlued option word = .ok (.withArgument option argument) := by
  obtain ⟨hjoined, rest, hrest⟩ := DriverOption.begins_of_gluedArgument? (Option.isSome_of_eq_some h)
  have hcut : dropBytes? (Utf8.encode option.spelling.toList).length word.toList = some rest :=
    dropBytes?_eq_some_iff.2 ⟨_, hrest.symm, rfl⟩
  have hargument : argument = String.ofList rest := by
    rw [DriverOption.gluedArgument?] at h
    split at h
    next =>
      rw [← Option.some.inj h, ← hrest, List.drop_left]
    next => cases h
  simp only [cutGlued, if_pos hjoined, hcut, hargument]

/-- A flag is not cut off, nor is a spelling that ends within a character of the word. -/
example : cutGlued .verbose "-v8" = .error (.notJoined .verbose) ∧
    cutGlued .importPath "-é" = .error (.badCut "-é" 2) :=
  ⟨rfl, rfl⟩

/-! ## Reading words -/

/-- What a word with a glued argument says by itself. -/
def gluedChecked (word : String) : Except Abort Word :=
  match DriverOption.gluedIn? word with
  | some option => (cutGlued option word).map .whole
  | none => .ok .unknown

/-- What a word says by itself, with everything checked. -/
def checked (word : String) : Except Abort Word :=
  if word = "-" ∨ word.toList.head? ≠ some '-' then .ok .input
  else if word = "--" then .ok .separator
  else match DriverOption.ofSpelling? word with
    | some option => .ok (if option.takesArgument then .awaiting option else .whole (.flag option))
    | none =>
      match splitAtEquals? word with
      | none => gluedChecked word
      | some (name, value) =>
        match DriverOption.ofSpelling? name with
        | none => gluedChecked word
        | some option =>
          .ok (if option.takesArgument then .whole (.withArgument option value) else .overfull name)

/-- The option that is found has an argument glued to it, so it can be cut off. -/
theorem gluedChecked_eq (word : String) : gluedChecked word =
    .ok (match glued? word with
      | some occurrence => .whole occurrence
      | none => .unknown) := by
  rw [gluedChecked, glued?]
  cases hfound : DriverOption.gluedIn? word with
  | none => rfl
  | some option =>
    rw [DriverOption.gluedIn?] at hfound
    have hfits := List.find?_some hfound
    obtain ⟨argument, hargument⟩ := Option.isSome_iff_exists.1 hfits
    simp only [Option.bind_eq_bind, Option.bind_some, hargument, cutGlued_of_gluedArgument? hargument]
    rfl

theorem checked_eq (word : String) : checked word = .ok (Word.of word) := by
  rw [checked, Word.of, gluedChecked_eq]
  split
  next => rfl
  next =>
    split
    next => rfl
    next =>
      cases DriverOption.ofSpelling? word with
      | some option => rfl
      | none =>
        cases splitAtEquals? word with
        | none => rfl
        | some parts =>
          obtain ⟨name, value⟩ := parts
          dsimp only
          cases DriverOption.ofSpelling? name <;> rfl

end Word

namespace Occurrences

/-- The options that some words give, with everything checked. -/
def readChecked : List String → Except Stop Occurrences
  | [] => .ok []
  | word :: rest =>
    match Word.checked word with
    | .error abort => .error (.aborted abort)
    | .ok .input => do return .input word :: (← readChecked rest)
    | .ok .separator => .ok (rest.map .input)
    | .ok (.whole occurrence) => do return occurrence :: (← readChecked rest)
    | .ok (.awaiting option) =>
      match rest with
      | [] => .error (.refused (.arguments (.missingArgument word)))
      | argument :: rest => do return .withArgument option argument :: (← readChecked rest)
    | .ok (.overfull spelling) => .error (.refused (.arguments (.unexpectedArgument spelling)))
    | .ok .unknown => .error (.refused (.arguments (.unknownOption word)))

/-- Checking makes no difference to what is read. -/
theorem readChecked_eq (words : List String) :
    readChecked words = (read words).mapError fun e => .refused (.arguments e) := by
  -- an option takes the word behind it along, so what is left is not just the tail
  induction hlength : words.length using Nat.strongRecOn generalizing words with
  | ind n ih =>
    cases words with
    | nil => rfl
    | cons word rest =>
      have hrest : readChecked rest = (read rest).mapError fun e => .refused (.arguments e) :=
        ih rest.length (hlength ▸ Nat.lt_succ_self _) rest rfl
      rw [readChecked.eq_def, read.eq_def]
      simp only [Word.checked_eq]
      cases Word.of word with
      | input =>
        simp only [hrest]
        cases read rest <;> rfl
      | separator => rfl
      | whole occurrence =>
        simp only [hrest]
        cases read rest <;> rfl
      | awaiting option =>
        cases rest with
        | nil => rfl
        | cons argument rest =>
          have hshorter : rest.length < n := hlength ▸ Nat.lt_succ_of_lt (Nat.lt_succ_self _)
          simp only [ih rest.length hshorter rest rfl]
          cases read rest <;> rfl
      | overfull spelling => rfl
      | unknown => rfl

end Occurrences

/-! ## Whole invocations -/

namespace Planning

open Personality

/-- Settles what is to be done about an invocation, with everything checked. -/
def settleChecked (select : Occurrences → Option BatchParameters) (argv : List String) :
    Except Stop Settled := do
  let (personality, arguments) ← (Personality.ofInvocation argv).mapError fun e => .refused (.personality e)
  let given ← Occurrences.readChecked arguments
  let products ← (Products.resolve given personality).mapError fun e => .aborted (.unhandledMode e)
  return {
    plan := {
      personality := personality
      mode := .resolveWith select personality given
      products := products }
    fingerprint := fingerprint given }

/-- With everything checked the same is settled as without. -/
theorem settleChecked_eq (select : Occurrences → Option BatchParameters) (argv : List String) :
    settleChecked select argv = (settle select argv).mapError .refused := by
  rw [settleChecked, settle]
  cases ofInvocation argv with
  | error e => rfl
  | ok selected =>
    obtain ⟨p, rest⟩ := selected
    show (Occurrences.readChecked rest >>= _) = ((Occurrences.read rest).mapError _ >>= _).mapError _
    rw [Occurrences.readChecked_eq]
    cases Occurrences.read rest with
    | error e => rfl
    | ok given =>
      show ((Products.resolve given p).mapError _ >>= _) = _
      rw [Products.resolve_eq_ofGiven]
      rfl

/-- How planning may end: with one of the errors of an invocation, or with everything settled. -/
inductive Ends (select : Occurrences → Option BatchParameters) :
    List String → Except Stop Settled → Prop
  | refused {argv : List String} {e : PersonalityError} (h : Refuses argv e) :
    Ends select argv (.error (.refused (.personality e)))
  | unread {argv rest : List String} {p : Personality} {e : ReadError} (h : Selects argv p rest)
    (hread : Occurrences.read rest = .error e) : Ends select argv (.error (.refused (.arguments e)))
  | settled {argv rest : List String} {p : Personality} {given : Occurrences} {products : Products}
    (h : Selects argv p rest) (hread : Occurrences.read rest = .ok given)
    (hproducts : Products.resolve given p = .ok products) :
    Ends select argv (.ok ⟨⟨p, .resolveWith select p given, products⟩, fingerprint given⟩)

theorem ends_settleChecked (select : Occurrences → Option BatchParameters) (argv : List String) :
    Ends select argv (settleChecked select argv) := by
  rw [settleChecked_eq, settle]
  rcases ofInvocation_cases argv with ⟨p, rest, hok, hselects⟩ | ⟨e, herror, hrefuses⟩
  · rw [hok]
    show Ends select argv (((Occurrences.read rest).mapError _ >>= _).mapError _)
    cases hread : Occurrences.read rest with
    | error e => exact .unread hselects hread
    | ok given => exact .settled hselects hread (Products.resolve_eq_ofGiven given p)
  · rw [herror]
    exact .refused hrefuses

/-- Planning an invocation ends with everything settled, or with an error that says why the personality is not known or
the arguments cannot be read. Checking makes no difference to it, and is never the reason to stop. Any options at all,
whether they were read or not, settle the products. -/
theorem planning_ends :
    (∀ (select : Occurrences → Option BatchParameters) (argv : List String),
      Ends select argv (settleChecked select argv) ∧
      settleChecked select argv = (settle select argv).mapError .refused ∧
      ∀ abort, settleChecked select argv ≠ .error (.aborted abort)) ∧
    ∀ (given : Occurrences) (personality : Personality),
      ∃ products, Products.resolve given personality = .ok products := by
  refine ⟨fun select argv => ⟨ends_settleChecked select argv, settleChecked_eq select argv, fun abort h => ?_⟩,
    Products.exists_resolve⟩
  have hends := ends_settleChecked select argv
  rw [h] at hends
  cases hends

end Planning

end CompilerDriver
