import CompilerDriver.Fingerprint
import CompilerDriver.Plan

/-!
# Invocations

An invocation is what the driver is called with: the executable and its arguments. The personality is chosen by the
first argument, if that is a selector, and else by the name of the executable (`Selects`); what is left is read as
options, and these settle all the rest (`settle`).

A selector is taken out of the arguments, and nothing else is. So it makes no difference which way a personality is
chosen (`selection_spec`): by the executable or by name, the same arguments are left, and the same plan is made.
-/

namespace CompilerDriver

namespace Personality

/-! ## Selectors -/

/-- An argument chooses a personality, if it is the first one. -/
inductive IsSelector : String → Prop
  | named (name : String) : IsSelector (selectorLead ++ name)
  | frontend : IsSelector "-frontend"
  | moduleWrap : IsSelector "-modulewrap"

theorem selector?_named (name : String) : selector? (selectorLead ++ name) = some (.named name) := by
  rw [selector?, if_pos]
  · simp
  · simp

/-- All that an argument can say about the personality. -/
theorem selector?_cases (argument : String) :
    (∃ name, argument = selectorLead ++ name ∧ selector? argument = some (.named name)) ∨
    (argument = "-frontend" ∧ selector? argument = some (.direct .frontend)) ∨
    (argument = "-modulewrap" ∧ selector? argument = some (.direct .moduleWrap)) ∨
    (¬IsSelector argument ∧ selector? argument = none) := by
  by_cases hlead : selectorLead.toList <+: argument.toList
  · obtain ⟨name, hname⟩ := hlead
    have hargument : argument = selectorLead ++ String.ofList name := by
      rw [← String.toList_inj, String.toList_append, String.toList_ofList, hname]
    exact .inl ⟨_, hargument, hargument ▸ selector?_named _⟩
  · have hprefix : ¬selectorLead.toList.isPrefixOf argument.toList = true :=
      fun h => hlead (List.isPrefixOf_iff_prefix.1 h)
    rw [selector?, if_neg hprefix]
    split
    next hfrontend => exact .inr (.inl ⟨hfrontend, rfl⟩)
    next hfrontend =>
      split
      next hwrap => exact .inr (.inr (.inl ⟨hwrap, rfl⟩))
      next hwrap =>
        refine .inr (.inr (.inr ⟨?_, rfl⟩))
        rintro (name | _ | _)
        · exact hlead (by rw [String.toList_append]; exact List.prefix_append _ _)
        · exact hfrontend rfl
        · exact hwrap rfl

theorem selector?_eq_none_iff {argument : String} : selector? argument = none ↔ ¬IsSelector argument := by
  constructor
  · intro hnone
    rcases selector?_cases argument with ⟨name, -, hsome⟩ | ⟨-, hsome⟩ | ⟨-, hsome⟩ | ⟨hother, -⟩
    · cases hnone.symm.trans hsome
    · cases hnone.symm.trans hsome
    · cases hnone.symm.trans hsome
    · exact hother
  · intro hother
    rcases selector?_cases argument with ⟨name, rfl, -⟩ | ⟨rfl, -⟩ | ⟨rfl, -⟩ | ⟨-, hnone⟩
    · exact absurd (.named name) hother
    · exact absurd .frontend hother
    · exact absurd .moduleWrap hother
    · exact hnone

/-! ## What is selected, and what is left -/

/-- An invocation has a personality, and arguments that are left to be read. -/
inductive Selects : List String → Personality → List String → Prop
  | named {executable name : String} {p : Personality} {rest : List String} (h : ofName name = .ok p) :
    Selects (executable :: (selectorLead ++ name) :: rest) p rest
  | frontend {executable : String} {rest : List String} :
    Selects (executable :: "-frontend" :: rest) .frontend rest
  | moduleWrap {executable : String} {rest : List String} :
    Selects (executable :: "-modulewrap" :: rest) .moduleWrap rest
  | executable {executable : String} {arguments : List String}
    (h : ∀ first ∈ arguments.head?, ¬IsSelector first) :
    Selects (executable :: arguments) (ofExecutablePath executable) arguments

/-- An invocation has no personality. -/
inductive Refuses : List String → PersonalityError → Prop
  | empty : Refuses [] .emptyInvocation
  | unknown {executable name : String} {rest : List String} {e : PersonalityError}
    (h : ofName name = .error e) : Refuses (executable :: (selectorLead ++ name) :: rest) (.unknownName name)

theorem eq_unknownName {name : String} {e : PersonalityError} (h : ofName name = .error e) :
    e = .unknownName name := by
  rw [ofName] at h
  split at h
  next => cases h
  next =>
    split at h
    next => cases h
    next =>
      cases h
      rfl

section Selecting

variable {argv arguments rest : List String} {executable name : String} {p : Personality}

theorem ofInvocation_named (executable name : String) (rest : List String) :
    ofInvocation (executable :: (selectorLead ++ name) :: rest) = (ofName name).map fun p => (p, rest) := by
  rw [ofInvocation, selector?_named]
  show (ofName name >>= fun p => .ok (p, rest)) = _
  cases ofName name <;> rfl

theorem ofInvocation_executable (h : ∀ first ∈ arguments.head?, ¬IsSelector first) :
    ofInvocation (executable :: arguments) = .ok (ofExecutablePath executable, arguments) := by
  cases arguments with
  | nil => rfl
  | cons first rest => rw [ofInvocation, selector?_eq_none_iff.2 (h first rfl)]

/-- An invocation selects a personality, or is refused. -/
theorem ofInvocation_cases (argv : List String) :
    (∃ p rest, ofInvocation argv = .ok (p, rest) ∧ Selects argv p rest) ∨
    ∃ e, ofInvocation argv = .error e ∧ Refuses argv e := by
  rcases argv with _ | ⟨executable, _ | ⟨first, rest⟩⟩
  · exact .inr ⟨_, rfl, .empty⟩
  · exact .inl ⟨_, _, rfl, .executable nofun⟩
  · rcases selector?_cases first with ⟨name, rfl, -⟩ | ⟨rfl, -⟩ | ⟨rfl, -⟩ | ⟨hother, -⟩
    · rw [ofInvocation_named]
      cases hname : ofName name with
      | ok p => exact .inl ⟨p, rest, rfl, .named hname⟩
      | error e => exact .inr ⟨e, rfl, eq_unknownName hname ▸ .unknown hname⟩
    · exact .inl ⟨_, _, rfl, .frontend⟩
    · exact .inl ⟨_, _, rfl, .moduleWrap⟩
    · have hfirst : ∀ word ∈ (first :: rest).head?, ¬IsSelector word := by
        rintro word ⟨⟩
        exact hother
      exact .inl ⟨_, _, ofInvocation_executable hfirst, .executable hfirst⟩

theorem ofInvocation_of_selects (h : Selects argv p rest) : ofInvocation argv = .ok (p, rest) := by
  cases h with
  | named hname =>
    rw [ofInvocation_named, hname]
    rfl
  | frontend => rfl
  | moduleWrap => rfl
  | executable hfirst => exact ofInvocation_executable hfirst

theorem ofInvocation_of_refuses {e : PersonalityError} (h : Refuses argv e) : ofInvocation argv = .error e := by
  cases h with
  | empty => rfl
  | unknown hname =>
    rw [ofInvocation_named, hname, eq_unknownName hname]
    rfl

theorem ofInvocation_eq_ok_iff : ofInvocation argv = .ok (p, rest) ↔ Selects argv p rest := by
  refine ⟨fun h => ?_, ofInvocation_of_selects⟩
  rcases ofInvocation_cases argv with ⟨p', rest', hok, hselects⟩ | ⟨e, herror, -⟩
  · rw [hok] at h
    cases h
    exact hselects
  · rw [herror] at h
    cases h

theorem ofInvocation_eq_error_iff {e : PersonalityError} :
    ofInvocation argv = .error e ↔ Refuses argv e := by
  refine ⟨fun h => ?_, ofInvocation_of_refuses⟩
  rcases ofInvocation_cases argv with ⟨p, rest, hok, -⟩ | ⟨e', herror, hrefuses⟩
  · rw [hok] at h
    cases h
  · rw [herror] at h
    cases h
    exact hrefuses

/-- Nothing is lost but the executable, and a selector if it stands behind it. -/
theorem Selects.left (h : Selects argv p rest) : ∃ executable arguments, argv = executable :: arguments ∧
    ((∃ selector, IsSelector selector ∧ arguments = selector :: rest) ∨
      (∀ first ∈ arguments.head?, ¬IsSelector first) ∧ arguments = rest) := by
  cases h with
  | named hname => exact ⟨_, _, rfl, .inl ⟨_, .named _, rfl⟩⟩
  | frontend => exact ⟨_, _, rfl, .inl ⟨_, .frontend, rfl⟩⟩
  | moduleWrap => exact ⟨_, _, rfl, .inl ⟨_, .moduleWrap, rfl⟩⟩
  | executable hfirst => exact ⟨_, _, rfl, .inr ⟨hfirst, rfl⟩⟩

end Selecting

/-! ## Executables -/

/-- The stem of an executable's name. -/
def stemOf? (executable : String) : Option String :=
  (Path.ofString executable).stem?.bind fun stem => (Path.mk stem).text?

theorem ofExecutablePath_of_stem {executable stem : String} {p : Personality}
    (hstem : stemOf? executable = some stem) (h : ofExecutable? stem = some p) :
    ofExecutablePath executable = p := by
  obtain ⟨bytes, hbytes, htext⟩ := Option.bind_eq_some_iff.1 hstem
  simp only [ofExecutablePath, hbytes, htext, Option.getD_some, h]

end Personality

/-! ## All that an invocation settles -/

/-- Why an invocation is refused. -/
inductive InvocationError where
  | personality (e : PersonalityError)
  | arguments (e : ReadError)
deriving DecidableEq, Repr

/-- What is settled about an invocation before any work is done. -/
structure Settled where
  plan : Plan
  fingerprint : String
deriving DecidableEq, Repr

namespace Planning

/-- Settles what is to be done about an invocation; `select` says whether it is done in batches. -/
def settle (select : Occurrences → Option BatchParameters) (argv : List String) :
    Except InvocationError Settled := do
  let (personality, arguments) ← (Personality.ofInvocation argv).mapError .personality
  let given ← (Occurrences.read arguments).mapError .arguments
  return {
    plan := {
      personality := personality
      mode := .resolveWith select personality given
      products := .ofGiven given personality }
    fingerprint := fingerprint given }

open Personality

variable {select : Occurrences → Option BatchParameters} {argv argv' rest : List String} {p : Personality}

/-- What is settled depends on the personality and the arguments that are left, and not on how they came about. -/
theorem settle_eq_of_selects (h : Selects argv p rest) (h' : Selects argv' p rest) :
    settle select argv = settle select argv' := by
  rw [settle, settle, ofInvocation_of_selects h, ofInvocation_of_selects h']

/-- The personality of an invocation, and what is left of it:

* a name behind the selector counts, whatever the executable is called and whatever follows;
* an invocation is refused exactly if it is empty, or if its selector names no personality;
* otherwise only the executable is taken away, and the selector behind it if there is one;
* an executable that is named for a personality may as well be any other one with a selector that names the same
  personality, as long as the arguments do not begin with a selector themselves. -/
theorem selection_spec :
    (∀ (executable name : String) (p : Personality) (arguments : List String), ofName name = .ok p →
      ofInvocation (executable :: (selectorLead ++ name) :: arguments) = .ok (p, arguments)) ∧
    (∀ (argv : List String) (e : PersonalityError), ofInvocation argv = .error e ↔
      (argv = [] ∧ e = .emptyInvocation) ∨
      ∃ executable name arguments, argv = executable :: (selectorLead ++ name) :: arguments ∧
        (∀ p, ofName name ≠ .ok p) ∧ e = .unknownName name) ∧
    (∀ (argv rest : List String) (p : Personality), ofInvocation argv = .ok (p, rest) →
      ∃ executable arguments, argv = executable :: arguments ∧
        ((∃ selector, IsSelector selector ∧ arguments = selector :: rest) ∨
          (∀ first ∈ arguments.head?, ¬IsSelector first) ∧ arguments = rest)) ∧
    (∀ (executable stem other : String) (p : Personality) (arguments : List String),
      stemOf? executable = some stem → ofExecutable? stem = some p →
      (∀ first ∈ arguments.head?, ¬IsSelector first) →
      ∀ select, settle select (executable :: arguments) =
        settle select (other :: (selectorLead ++ p.name) :: arguments)) := by
  refine ⟨fun executable name p arguments hname => ofInvocation_of_selects (.named hname), fun argv e => ?_,
    fun argv rest p h => (ofInvocation_eq_ok_iff.1 h).left,
    fun executable stem other p arguments hstem hp hfirst select => ?_⟩
  · rw [ofInvocation_eq_error_iff]
    constructor
    · rintro (_ | ⟨hname⟩)
      · exact .inl ⟨rfl, rfl⟩
      · exact .inr ⟨_, _, _, rfl, fun p hp => (by rw [hname] at hp; cases hp), rfl⟩
    · rintro (⟨rfl, rfl⟩ | ⟨executable, name, arguments, rfl, hnone, rfl⟩)
      · exact .empty
      · cases hname : ofName name with
        | ok p => exact absurd hname (hnone p)
        | error e => exact .unknown hname
  · have hselects : Selects (executable :: arguments) p arguments :=
      ofExecutablePath_of_stem hstem hp ▸ .executable hfirst
    exact settle_eq_of_selects hselects (.named (ofName_name p))

/-- A selector behind the first one is left to be read, and a path to `swiftc` is as good as the name of the batch
compiler. -/
theorem selection_spec_swiftc :
    ofInvocation ["swift", selectorLead ++ "swiftc", "-frontend"] = .ok (.batch, ["-frontend"]) ∧
    settle (fun _ => none) ["/usr/bin/swiftc", "-emit-library", "main.swift"] =
      settle (fun _ => none) ["", selectorLead ++ "batch", "-emit-library", "main.swift"] := by
  obtain ⟨hnamed, -, -, hexecutable⟩ := selection_spec
  have hfirst : ¬IsSelector "-emit-library" := selector?_eq_none_iff.1 (by decide +kernel)
  refine ⟨hnamed _ "swiftc" .batch _ rfl, hexecutable _ "swiftc" _ .batch _ (by decide +kernel) rfl ?_ _⟩
  rintro first ⟨⟩
  exact hfirst

end Planning

end CompilerDriver
