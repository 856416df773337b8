import CompilerDriver.Proofs.DriverOption.RoundTrip
import CompilerDriver.Proofs.Fingerprint.Options
import CompilerDriver.Proofs.Planning.Agreement
import Mathlib.Logic.Relation

/-!
# What planning reads of a command line

The mode of an invocation and its products depend on the options given only through the answers to a few questions
(`SameForMode`, `SameForProducts`). These questions read few options, and of them only in which order they were given
(`Mode.reads`, `Products.reads`): edits anywhere else in a command line (`Edit`) change neither result
(`planning_reads`). No option that counts for the fingerprint is read.
-/

namespace CompilerDriver

namespace Occurrences

variable {given given' : Occurrences}

/-! ## Questions about the last option of some -/

/-- The options of some that were given, in their order and without their arguments. -/
def kept (given : Occurrences) (among : DriverOption → Bool) : List DriverOption :=
  (given.map (·.option)).filter among

/-- The last option of some that was given. -/
def lastOf? (given : Occurrences) (among : DriverOption → Bool) : Option DriverOption :=
  (given.kept among).getLast?

theorem find?_reverse (given : Occurrences) (among : DriverOption → Bool) :
    (given.reverse.find? fun x => among x.option).map (·.option) = given.lastOf? among := by
  rw [lastOf?, kept, List.filter_map, List.getLast?_map, List.getLast?_eq_head?_reverse,
    ← List.filter_reverse, List.head?_filter]
  rfl

theorem lastInGroup?_option (given : Occurrences) (group : OptionGroup) :
    (given.lastInGroup? group).map (·.option) = given.lastOf? fun o => o.group? == some group :=
  find?_reverse given fun o => o.group? == some group

theorem isOn_eq (given : Occurrences) (positive negative : DriverOption) (default : Bool) :
    given.isOn positive negative default =
      ((given.lastOf? fun o => o == positive || o == negative).map (· == positive)).getD default := by
  rw [← find?_reverse, isOn]
  cases given.reverse.find? fun x => x.option == positive || x.option == negative <;> rfl

theorem isSome_lastOf? (given : Occurrences) (among : DriverOption → Bool) :
    (given.lastOf? among).isSome = given.any fun x => among x.option := by
  rw [← find?_reverse, Option.isSome_map, List.isSome_find?, List.any_reverse]

theorem contains_eq (given : Occurrences) (o : DriverOption) :
    given.contains o = (given.lastOf? (· == o)).isSome := (isSome_lastOf? given (· == o)).symm

theorem containsAny_eq (given : Occurrences) (among : List DriverOption) :
    given.containsAny among = (given.lastOf? among.contains).isSome := (isSome_lastOf? given among.contains).symm

/-- An input that was read has its path. -/
theorem isEmpty_inputs (h : WellFormed given) : given.inputs.isEmpty = !given.contains .input := by
  rw [Bool.eq_iff_iff, List.isEmpty_iff, Bool.not_eq_true', contains, List.any_eq_false, inputs, allArguments,
    List.filterMap_eq_nil_iff]
  refine forall₂_congr fun x hx => ?_
  by_cases hinput : x.option = .input
  · have hpositional : x.option.isPositional = true := by
      rw [hinput]
      rfl
    obtain ⟨path, rfl⟩ := eq_input_of_isPositional (h.complete x hx) hpositional
    simp [Occurrence.input]
  · simp [hinput]

/-! ## What settles mode and products -/

/-- The answers are the same to what is asked for the mode of an invocation. -/
structure SameForMode (given given' : Occurrences) : Prop where
  last : (given.lastInGroup? .modes).map (·.option) = (given'.lastInGroup? .modes).map (·.option)
  loop : given.containsAny Mode.replOptions = given'.containsAny Mode.replOptions
  input : given.contains .input = given'.contains .input
  wholeModule : given.lastOf? (fun o => o == .wholeModuleOptimization || o == .noWholeModuleOptimization) =
    given'.lastOf? fun o => o == .wholeModuleOptimization || o == .noWholeModuleOptimization

/-- The answers are the same to what is asked for the products of an invocation. -/
structure SameForProducts (given given' : Occurrences) : Prop where
  last : (given.lastInGroup? .modes).map (·.option) = (given'.lastInGroup? .modes).map (·.option)
  isStatic : given.contains .static = given'.contains .static
  asksForModule : given.containsAny [.emitModule, .emitModulePath] =
    given'.containsAny [.emitModule, .emitModulePath]

theorem SameForMode.resolveWith_eq (select : Occurrences → Option BatchParameters)
    (hselect : select given = select given') (hwell : WellFormed given) (hwell' : WellFormed given')
    (h : SameForMode given given') (personality : Personality) :
    Mode.resolveWith select personality given = Mode.resolveWith select personality given' := by
  have hdedicated (given : Occurrences) : ((given.lastInGroup? .modes).bind fun x => Mode.dedicated? x.option) =
      ((given.lastInGroup? .modes).map (·.option)).bind Mode.dedicated? := by
    rw [Option.bind_map]
    rfl
  rw [Mode.resolveWith, Mode.resolveWith, hdedicated given, hdedicated given', h.last, h.loop,
    isEmpty_inputs hwell, isEmpty_inputs hwell', h.input, isOn_eq, isOn_eq, h.wholeModule, hselect]

theorem SameForProducts.resolve_eq (h : SameForProducts given given') (personality : Personality) :
    Products.resolve given personality = Products.resolve given' personality := by
  rw [Products.resolve, Products.resolve, h.last]
  unfold Products.resolveFor
  rw [h.isStatic, h.asksForModule]

theorem SameForProducts.ofGiven_eq (h : SameForProducts given given') (personality : Personality) :
    Products.ofGiven given personality = Products.ofGiven given' personality := by
  have hsame := h.resolve_eq personality
  rw [Products.resolve_eq_ofGiven, Products.resolve_eq_ofGiven] at hsame
  exact Except.ok.inj hsame

end Occurrences

/-! ## What is read -/

/-- Whether the mode of an invocation depends on an option. -/
def Mode.reads (o : DriverOption) : Bool :=
  o.group? == some .modes || o == .input || o == .wholeModuleOptimization || o == .noWholeModuleOptimization

/-- Whether the products of an invocation depend on an option. -/
def Products.reads (o : DriverOption) : Bool :=
  o.group? == some .modes || o == .static || o == .emitModule || o == .emitModulePath

theorem Fingerprint.not_reads {o : DriverOption} (h : counts o = true) :
    Mode.reads o = false ∧ Products.reads o = false := by
  have each : ∀ o ∈ DriverOption.all, counts o = true → Mode.reads o = false ∧ Products.reads o = false := by
    decide +kernel
  exact each o o.mem_all h

namespace Occurrences

variable {given given' : Occurrences} {reads : DriverOption → Bool}

/-- Who keeps the same options of some keeps the same of fewer. -/
theorem kept_eq_of_le (h : given.kept reads = given'.kept reads) {among : DriverOption → Bool}
    (hreads : ∀ o, among o = true → reads o = true) : given.kept among = given'.kept among := by
  have hboth (o : DriverOption) : (among o && reads o) = among o := by
    cases hamong : among o with
    | false => rfl
    | true => rw [hreads o hamong]; rfl
  have hkept (given : Occurrences) : given.kept among = (given.kept reads).filter among := by
    rw [kept, kept, List.filter_filter]
    exact List.filter_congr fun o _ => (hboth o).symm
  rw [hkept given, hkept given', h]

theorem lastOf?_eq_of_kept (h : given.kept reads = given'.kept reads) {among : DriverOption → Bool}
    (hreads : ∀ o, among o = true → reads o = true) : given.lastOf? among = given'.lastOf? among := by
  rw [lastOf?, lastOf?, kept_eq_of_le h hreads]

theorem SameForMode.of_kept (h : given.kept Mode.reads = given'.kept Mode.reads) : SameForMode given given' := by
  refine ⟨?_, ?_, ?_, ?_⟩
  · rw [lastInGroup?_option, lastInGroup?_option]
    exact lastOf?_eq_of_kept h fun o ho => by simp [Mode.reads, beq_iff_eq.1 ho]
  · rw [containsAny_eq, containsAny_eq]
    refine congrArg _ (lastOf?_eq_of_kept h fun o ho => ?_)
    rw [Mode.reads, Mode.group?_of_mem_replOptions (List.contains_iff_mem.1 ho)]
    rfl
  · rw [contains_eq, contains_eq]
    exact congrArg _ (lastOf?_eq_of_kept h fun o ho => by simp [Mode.reads, beq_iff_eq.1 ho])
  · exact lastOf?_eq_of_kept h fun o ho => by
      rw [Bool.or_eq_true] at ho
      rcases ho with ho | ho <;> simp [Mode.reads, beq_iff_eq.1 ho]

theorem SameForProducts.of_kept (h : given.kept Products.reads = given'.kept Products.reads) :
    SameForProducts given given' := by
  refine ⟨?_, ?_, ?_⟩
  · rw [lastInGroup?_option, lastInGroup?_option]
    exact lastOf?_eq_of_kept h fun o ho => by simp [Products.reads, beq_iff_eq.1 ho]
  · rw [contains_eq, contains_eq]
    exact congrArg _ (lastOf?_eq_of_kept h fun o ho => by simp [Products.reads, beq_iff_eq.1 ho])
  · rw [containsAny_eq, containsAny_eq]
    refine congrArg _ (lastOf?_eq_of_kept h fun o ho => ?_)
    have hmem := List.contains_iff_mem.1 ho
    simp only [List.mem_cons, List.not_mem_nil, or_false] at hmem
    rcases hmem with rfl | rfl <;> rfl

/-! ## Edits -/

/-- One change of a command line that leaves the options of some, and their order, as they are: another option comes,
goes, or changes places with its neighbour, or an argument changes. -/
inductive Edit (reads : DriverOption → Bool) : Occurrences → Occurrences → Prop
  | insert (before after : Occurrences) {x : Occurrence} (h : reads x.option = false) :
    Edit reads (before ++ after) (before ++ x :: after)
  | remove (before after : Occurrences) {x : Occurrence} (h : reads x.option = false) :
    Edit reads (before ++ x :: after) (before ++ after)
  | swap (before after : Occurrences) {x y : Occurrence} (h : reads x.option = false ∨ reads y.option = false) :
    Edit reads (before ++ x :: y :: after) (before ++ y :: x :: after)
  | argument (before after : Occurrences) (o : DriverOption) (old new : Option String) :
    Edit reads (before ++ ⟨o, old⟩ :: after) (before ++ ⟨o, new⟩ :: after)

theorem kept_append (before after : Occurrences) :
    kept (before ++ after) reads = before.kept reads ++ after.kept reads := by
  rw [kept, List.map_append, List.filter_append]
  rfl

theorem kept_cons (x : Occurrence) (rest : Occurrences) : kept (x :: rest) reads =
    if reads x.option then x.option :: rest.kept reads else rest.kept reads := List.filter_cons

theorem Edit.kept_eq (h : Edit reads given given') : given.kept reads = given'.kept reads := by
  cases h with
  | insert before after h =>
    rw [kept_append, kept_append, kept_cons, h]
    rfl
  | remove before after h =>
    rw [kept_append, kept_append, kept_cons, h]
    rfl
  | swap before after h =>
    rw [kept_append, kept_append, kept_cons, kept_cons, kept_cons, kept_cons]
    rcases h with h | h <;> rw [h] <;> rfl
  | argument before after o old new => rw [kept_append, kept_append, kept_cons, kept_cons]

instance : Std.Symm (Edit reads) where
  symm _ _ h := by
    cases h with
    | insert before after h => exact .remove before after h
    | remove before after h => exact .insert before after h
    | swap before after h => exact .swap before after h.symm
    | argument before after o old new => exact .argument before after o new old

theorem Edit.cons (x : Occurrence) (h : Edit reads given given') : Edit reads (x :: given) (x :: given') := by
  cases h with
  | insert before after h => exact .insert (x :: before) after h
  | remove before after h => exact .remove (x :: before) after h
  | swap before after h => exact .swap (x :: before) after h
  | argument before after o old new => exact .argument (x :: before) after o old new

/-- Everything but the options of some can be edited away. -/
theorem edits_kept (reads : DriverOption → Bool) (given : Occurrences) :
    Relation.ReflTransGen (Edit reads) given ((given.kept reads).map .flag) := by
  induction given with
  | nil => exact .refl
  | cons x rest ih =>
    have hrest := ih.lift (x :: ·) fun _ _ => Edit.cons x
    rw [kept_cons]
    cases hx : reads x.option with
    | true => exact hrest.tail (.argument [] _ x.option x.argument none)
    | false => exact hrest.tail (.remove [] _ hx)

/-- Edits lead exactly to the command lines with the same options of some in the same order. -/
theorem edits_iff : Relation.ReflTransGen (Edit reads) given given' ↔ given.kept reads = given'.kept reads := by
  constructor
  · intro h
    induction h with
    | refl => rfl
    | tail _ hstep ih => exact ih.trans hstep.kept_eq
  · intro h
    have hback := Std.Symm.symm _ _ (edits_kept reads given')
    rw [← h] at hback
    exact (edits_kept reads given).trans hback

end Occurrences

namespace Planning

open Occurrences

/-- Command lines that give the same answers to what is asked for the mode have the same mode, and likewise the
products. So edits that leave alone what is read, and its order, keep the mode, or the products. Edits to nothing but
options that count for the fingerprint, and arguments, keep both. -/
theorem planning_reads {words words' : List String} {given given' : Occurrences}
    (hread : read words = .ok given) (hread' : read words' = .ok given') (personality : Personality) :
    (SameForMode given given' → Mode.resolve personality given = Mode.resolve personality given') ∧
    (SameForProducts given given' →
      Products.ofGiven given personality = Products.ofGiven given' personality) ∧
    (Relation.ReflTransGen (Edit Mode.reads) given given' →
      Mode.resolve personality given = Mode.resolve personality given') ∧
    (Relation.ReflTransGen (Edit Products.reads) given given' →
      Products.ofGiven given personality = Products.ofGiven given' personality) ∧
    (Relation.ReflTransGen (Edit fun o => !Fingerprint.counts o) given given' →
      Mode.resolve personality given = Mode.resolve personality given' ∧
        Products.ofGiven given personality = Products.ofGiven given' personality) := by
  have hmode (h : SameForMode given given') :
      Mode.resolve personality given = Mode.resolve personality given' :=
    h.resolveWith_eq (fun _ => none) rfl (wellFormed_of_read hread) (wellFormed_of_read hread') personality
  have hproducts (h : SameForProducts given given') :
      Products.ofGiven given personality = Products.ofGiven given' personality := h.ofGiven_eq personality
  refine ⟨hmode, hproducts, fun h => hmode (.of_kept (edits_iff.1 h)),
    fun h => hproducts (.of_kept (edits_iff.1 h)), fun h => ?_⟩
  have hkept := edits_iff.1 h
  have hcounts {o : DriverOption} (ho : Mode.reads o = true ∨ Products.reads o = true) :
      (!Fingerprint.counts o) = true := by
    cases hcounts : Fingerprint.counts o with
    | false => rfl
    | true =>
      obtain ⟨hmode, hproducts⟩ := Fingerprint.not_reads hcounts
      rw [hmode, hproducts] at ho
      rcases ho with ho | ho <;> cases ho
  exact ⟨hmode (.of_kept (kept_eq_of_le hkept fun o ho => hcounts (.inl ho))),
    hproducts (.of_kept (kept_eq_of_le hkept fun o ho => hcounts (.inr ho)))⟩

/-- A library in two ways, and the second one edited: a definition goes, debug information comes, and an input gets
another path. -/
theorem planning_reads_library : ∃ given given' edited : Occurrences,
    read ["-parse", "-O", "-emit-library", "-static", "a.swift"] = .ok given ∧
    read ["-D", "A", "b.swift", "-static", "-emit-library", "c.swift"] = .ok given' ∧
    read ["b.swift", "-static", "-g", "-emit-library", "d.swift"] = .ok edited ∧
    (Mode.resolve .batch given = Mode.resolve .batch given' ∧
      Mode.resolve .batch given' = Mode.resolve .batch edited) ∧
    Products.ofGiven given .batch = Products.ofGiven given' .batch ∧
      Products.ofGiven given' .batch = Products.ofGiven edited .batch := by
  have hread : read ["-parse", "-O", "-emit-library", "-static", "a.swift"] =
      .ok [.flag .parse, .flag .optimize, .flag .emitLibrary, .flag .static, .input "a.swift"] := rfl
  have hread' : read ["-D", "A", "b.swift", "-static", "-emit-library", "c.swift"] =
      .ok [.withArgument .define "A", .input "b.swift", .flag .static, .flag .emitLibrary, .input "c.swift"] := rfl
  have hedited : read ["b.swift", "-static", "-g", "-emit-library", "d.swift"] =
      .ok [.input "b.swift", .flag .static, .flag .debugInfo, .flag .emitLibrary, .input "d.swift"] := rfl
  obtain ⟨hmode, hproducts, -⟩ := planning_reads hread hread' .batch
  obtain ⟨-, -, -, -, hboth⟩ := planning_reads hread' hedited .batch
  obtain ⟨hmode', hproducts'⟩ := hboth (edits_iff.2 rfl)
  exact ⟨_, _, _, hread, hread', hedited, ⟨hmode ⟨rfl, rfl, rfl, rfl⟩, hmode'⟩,
    hproducts ⟨rfl, rfl, rfl⟩, hproducts'⟩

end Planning

end CompilerDriver
