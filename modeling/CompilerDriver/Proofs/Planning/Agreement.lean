import CompilerDriver.Mode
import CompilerDriver.Products

/-!
# Modes and products that go together

The mode of an invocation and its products are settled by the same options, but not by the same questions.
Both look at the last option of the group `modes` first. Only the mode then asks who was called, before it
asks for anything else; only the products then ask whether a module is wanted.

So a driver that is not interactive links only what it plans to compile, and makes nothing where it enters the
read-eval-print loop. The interactive driver runs its inputs whatever they are to be made into, and this is
the only way in which the two can part (`mode_fits_products`). Nothing is said of command lines on which
an option that asks for the loop is hidden by a later one of its group that makes something (`LoopHidden`).
-/

namespace CompilerDriver

open Occurrences

/-! ## What settles the mode -/

namespace Mode

/-- The options that ask for the loop belong to the group `modes`. -/
theorem group?_of_mem_replOptions {o : DriverOption} (h : o ∈ replOptions) : o.group? = some .modes := by
  have each : ∀ o ∈ replOptions, o.group? = some .modes := by decide
  exact each o h

/-- An option with a mode of its own is compiled as a whole, and never enters the loop. -/
theorem isSingleCompilation_of_dedicated? {o : DriverOption} {mode : Mode} (h : dedicated? o = some mode) :
    mode.isSingleCompilation = true := by
  unfold dedicated? at h
  split at h <;> cases h <;> rfl

variable {select : Occurrences → Option BatchParameters} {personality : Personality} {given : Occurrences}

theorem resolveWith_of_dedicated {x : Occurrence} {mode : Mode} (hlast : given.lastInGroup? .modes = some x)
    (h : dedicated? x.option = some mode) : resolveWith select personality given = mode := by
  simp [resolveWith, hlast, h]

/-- What decides where no option has a mode of its own. -/
theorem resolveWith_of_not_dedicated
    (h : ∀ x, given.lastInGroup? .modes = some x → dedicated? x.option = none) :
    (resolveWith select personality given = .repl ↔
      given.containsAny replOptions = true ∨ personality = .interactive ∧ given.inputs = []) ∧
    ((resolveWith select personality given).isPlanned = true ↔
      given.containsAny replOptions = false ∧ personality ≠ .interactive) := by
  have hnone : (given.lastInGroup? .modes).bind (fun x => dedicated? x.option) = none := by
    cases hlast : given.lastInGroup? .modes with
    | none => rfl
    | some x => exact h x hlast
  have hinteractive : personality.isInteractive = true ↔ personality = .interactive := by
    simp [Personality.isInteractive]
  rw [resolveWith, hnone]
  dsimp only
  split
  next hloop => simp [hloop, isPlanned]
  next hloop =>
    split
    next hwho =>
      rw [hinteractive] at hwho
      split
      next hinputs => simp_all [isPlanned]
      next hinputs => simp_all [isPlanned]
    next hwho =>
      rw [hinteractive] at hwho
      split
      · simp [hloop, hwho, isPlanned]
      · split <;> simp [hloop, hwho, isPlanned]

end Mode

/-! ## What settles the products -/

namespace Products

/-- No product at all. -/
def nothing : Products := ⟨none, none⟩

variable {given : Occurrences} {personality : Personality}

theorem resolve_eq_ofGiven (given : Occurrences) (personality : Personality) :
    resolve given personality = .ok (ofGiven given personality) := by
  unfold ofGiven
  split
  next products h => exact h
  next e h =>
    obtain ⟨products, hproducts⟩ := exists_resolve given personality
    rw [h] at hproducts
    cases hproducts

/-- The last option of the group `modes` decides by itself. -/
theorem ofMode?_last (personality : Personality) {x : Occurrence}
    (h : given.lastInGroup? .modes = some x) :
    ofMode? (given.contains .static) x.option = some (ofGiven given personality) := by
  have hresolve := resolve_eq_ofGiven given personality
  rw [resolve, h, Option.map_some, resolveFor] at hresolve
  split at hresolve
  next products hproducts => rw [hproducts, Except.ok.inj hresolve]
  next => cases hresolve

/-- Without an option of the group `modes` a module is made, or what the personality suggests. -/
theorem ofGiven_of_no_mode (h : given.lastInGroup? .modes = none) :
    ofGiven given personality =
      if given.containsAny [.emitModule, .emitModulePath] then ⟨some .swiftModule, none⟩
      else if personality = .interactive then nothing else ⟨some .object, some .executable⟩ := by
  have hresolve := resolve_eq_ofGiven given personality
  rw [resolve, h, Option.map_none, resolveFor] at hresolve
  have hinteractive : personality.isInteractive = true ↔ personality = .interactive := by
    simp [Personality.isInteractive]
  simp only [hinteractive] at hresolve
  rw [nothing]
  split at hresolve
  next hmodule => rw [if_pos hmodule, Except.ok.inj hresolve]
  next hmodule =>
    rw [if_neg hmodule]
    split at hresolve
    next hwho => rw [if_pos hwho, Except.ok.inj hresolve]
    next hwho => rw [if_neg hwho, Except.ok.inj hresolve]

/-- Only two options of the group `modes` link, and neither has a mode of its own. -/
theorem links_ofMode? {o : DriverOption} {isStatic : Bool} {products : Products}
    (h : ofMode? isStatic o = some products) :
    products.links = true ↔ o = .emitExecutable ∨ o = .emitLibrary := by
  unfold ofMode? at h
  split at h <;> cases h <;> simp [links]

theorem dedicated?_of_links {o : DriverOption} (h : o = .emitExecutable ∨ o = .emitLibrary) :
    Mode.dedicated? o = none := by
  rcases h with rfl | rfl <;> rfl

end Products

/-! ## Both together -/

namespace Occurrences

/-- An option asks for the loop, but a later one of its group stands for the group, and that one makes something in
no mode of its own. -/
def LoopHidden (given : Occurrences) : Prop :=
  given.containsAny Mode.replOptions = true ∧
    ∃ x, given.lastInGroup? .modes = some x ∧ Mode.dedicated? x.option = none ∧
      Products.ofMode? (given.contains .static) x.option ≠ some .nothing

/-- The option that stands for the group `modes` makes something in no mode of its own, or there is no such
option and a module is asked for. -/
def AsksForProduct (given : Occurrences) : Prop :=
  match given.lastInGroup? .modes with
  | some x => Mode.dedicated? x.option = none ∧
      Products.ofMode? (given.contains .static) x.option ≠ some .nothing
  | none => given.containsAny [.emitModule, .emitModulePath] = true

/-- Where an option asks for the loop, some option stands for its group. -/
theorem exists_last_of_replOptions {given : Occurrences} (h : given.containsAny Mode.replOptions = true) :
    ∃ x, given.lastInGroup? .modes = some x := by
  obtain ⟨x, hx, hloop⟩ := List.any_eq_true.1 h
  cases hlast : given.lastInGroup? .modes with
  | some last => exact ⟨last, rfl⟩
  | none =>
    have hgroup := Mode.group?_of_mem_replOptions (List.contains_iff_mem.1 hloop)
    exact absurd hgroup (lastInGroup?_eq_none_iff.1 hlast x hx)

end Occurrences

namespace Planning

variable {select : Occurrences → Option BatchParameters} {personality : Personality} {given : Occurrences}

/-- Who enters the loop was given no option with a mode of its own to stand for its group. -/
theorem dedicated?_of_repl (h : Mode.resolveWith select personality given = .repl) {x : Occurrence}
    (hlast : given.lastInGroup? .modes = some x) : Mode.dedicated? x.option = none := by
  cases hown : Mode.dedicated? x.option with
  | none => rfl
  | some mode =>
    have hsingle := Mode.isSingleCompilation_of_dedicated? hown
    have hmode : Mode.resolveWith select personality given = mode :=
      Mode.resolveWith_of_dedicated hlast hown
    rw [← hmode, h] at hsingle
    cases hsingle

/-- Where an option asks for the loop and is not hidden, nothing is made. -/
theorem ofGiven_of_replOptions (h : ¬ given.LoopHidden)
    (hloop : given.containsAny Mode.replOptions = true)
    (hown : ∀ x, given.lastInGroup? .modes = some x → Mode.dedicated? x.option = none) :
    Products.ofGiven given personality = .nothing := by
  obtain ⟨x, hlast⟩ := exists_last_of_replOptions hloop
  have hmakes : Products.ofMode? (given.contains .static) x.option = some .nothing :=
    Decidable.byContradiction fun hmade => h ⟨hloop, x, hlast, hown x hlast, hmade⟩
  exact Option.some.inj ((Products.ofMode?_last personality hlast).symm.trans hmakes)

/-- What is linked was asked for by an option, or is the executable that the batch compiler makes. -/
theorem links_cases (h : (Products.ofGiven given personality).links = true) :
    (∃ x, given.lastInGroup? .modes = some x ∧
      (x.option = .emitExecutable ∨ x.option = .emitLibrary)) ∨
    given.lastInGroup? .modes = none ∧ personality ≠ .interactive := by
  cases hlast : given.lastInGroup? .modes with
  | some x => exact .inl ⟨x, rfl, (Products.links_ofMode? (Products.ofMode?_last personality hlast)).1 h⟩
  | none =>
    refine .inr ⟨rfl, ?_⟩
    rintro rfl
    rw [Products.ofGiven_of_no_mode hlast] at h
    split at h <;> cases h

/-- A driver that is not interactive plans the compilation of what it links. -/
theorem isPlanned_of_links (hhidden : ¬ given.LoopHidden) (hwho : personality ≠ .interactive)
    (h : (Products.ofGiven given personality).links = true) :
    (Mode.resolveWith select personality given).isPlanned = true := by
  have hown : ∀ x, given.lastInGroup? .modes = some x → Mode.dedicated? x.option = none := by
    intro x hlast
    rcases links_cases h with ⟨y, hy, hlinks⟩ | ⟨hnone, -⟩
    · rw [hlast] at hy
      cases hy
      exact Products.dedicated?_of_links hlinks
    · rw [hlast] at hnone
      cases hnone
  have hloop : given.containsAny Mode.replOptions = false := by
    cases hloop : given.containsAny Mode.replOptions with
    | false => rfl
    | true =>
      rw [ofGiven_of_replOptions hhidden hloop hown] at h
      cases h
  exact (Mode.resolveWith_of_not_dedicated hown).2.2 ⟨hloop, hwho⟩

/-- Where the loop is entered although no option asks for it, the driver is interactive and has no inputs. -/
theorem products_of_repl (hhidden : ¬ given.LoopHidden)
    (h : Mode.resolveWith select personality given = .repl) :
    Products.ofGiven given personality = .nothing ∨ personality = .interactive ∧ given.inputs = [] := by
  have hown : ∀ x, given.lastInGroup? .modes = some x → Mode.dedicated? x.option = none :=
    fun x hlast => dedicated?_of_repl h hlast
  rcases (Mode.resolveWith_of_not_dedicated hown).1.1 h with hloop | hinteractive
  · exact .inl (ofGiven_of_replOptions hhidden hloop hown)
  · exact .inr hinteractive

theorem interactive_links_iff :
    ((Products.ofGiven given .interactive).links = true ∧
      (Mode.resolveWith select .interactive given).isPlanned = false) ↔
    ∃ x, given.lastInGroup? .modes = some x ∧
      (x.option = .emitExecutable ∨ x.option = .emitLibrary) := by
  constructor
  · rintro ⟨h, -⟩
    rcases links_cases h with hasked | ⟨-, hwho⟩
    · exact hasked
    · exact absurd rfl hwho
  · rintro ⟨x, hlast, hlinks⟩
    refine ⟨(Products.links_ofMode? (Products.ofMode?_last .interactive hlast)).2 hlinks, ?_⟩
    have hown : ∀ y, given.lastInGroup? .modes = some y → Mode.dedicated? y.option = none := by
      intro y hy
      rw [hlast] at hy
      cases hy
      exact Products.dedicated?_of_links hlinks
    rw [Bool.eq_false_iff]
    intro hplanned
    exact ((Mode.resolveWith_of_not_dedicated hown).2.1 hplanned).2 rfl

/-- What the interactive driver makes is asked for, unless the option that asks has a mode of its own. -/
theorem asksForProduct_iff :
    given.AsksForProduct ↔ Products.ofGiven given .interactive ≠ .nothing ∧
      ∀ x, given.lastInGroup? .modes = some x → Mode.dedicated? x.option = none := by
  unfold AsksForProduct
  cases hlast : given.lastInGroup? .modes with
  | some x =>
    dsimp only
    rw [Products.ofMode?_last .interactive hlast]
    grind
  | none =>
    dsimp only
    rw [Products.ofGiven_of_no_mode hlast]
    split <;> simp_all [Products.nothing]

theorem interactive_repl_iff (hhidden : ¬ given.LoopHidden) :
    (Mode.resolveWith select .interactive given = .repl ∧
      Products.ofGiven given .interactive ≠ .nothing) ↔
    given.inputs = [] ∧ given.AsksForProduct := by
  rw [asksForProduct_iff]
  constructor
  · rintro ⟨h, hmade⟩
    rcases products_of_repl hhidden h with hnothing | ⟨-, hinputs⟩
    · exact absurd hnothing hmade
    · exact ⟨hinputs, hmade, fun x hlast => dedicated?_of_repl h hlast⟩
  · rintro ⟨hinputs, hmade, hown⟩
    exact ⟨(Mode.resolveWith_of_not_dedicated hown).1.2 (.inr ⟨rfl, hinputs⟩), hmade⟩

/-- Mode and products of an invocation do not contradict each other, unless the driver is interactive. The
interactive driver runs its inputs or enters the loop before it is asked what to make, so it links without a
planned compilation exactly where an option asks for an executable or a library, and has a product in the
loop exactly where it has no inputs and an option asks for one. -/
theorem mode_fits_products (select : Occurrences → Option BatchParameters) (personality : Personality)
    (given : Occurrences) (h : ¬ given.LoopHidden) :
    (personality ≠ .interactive →
      ((Products.ofGiven given personality).links = true →
        (Mode.resolveWith select personality given).isPlanned = true) ∧
      (Mode.resolveWith select personality given = .repl →
        (Products.ofGiven given personality).compiled = none ∧
          (Products.ofGiven given personality).linked = none)) ∧
    (personality = .interactive →
      (((Products.ofGiven given personality).links = true ∧
          (Mode.resolveWith select personality given).isPlanned = false) ↔
        ∃ x, given.lastInGroup? .modes = some x ∧
          (x.option = .emitExecutable ∨ x.option = .emitLibrary)) ∧
      ((Mode.resolveWith select personality given = .repl ∧
          Products.ofGiven given personality ≠ .nothing) ↔
        given.inputs = [] ∧ given.AsksForProduct)) := by
  constructor
  · intro hwho
    refine ⟨isPlanned_of_links h hwho, fun hrepl => ?_⟩
    rcases products_of_repl h hrepl with hnothing | ⟨hinteractive, -⟩
    · rw [hnothing]
      exact ⟨rfl, rfl⟩
    · exact absurd hinteractive hwho
  · rintro rfl
    exact ⟨interactive_links_iff, interactive_repl_iff h⟩

/-- Options of which one asks for the loop, and the last one of its group makes nothing. -/
def loopOptions : Occurrences :=
  [.flag .emitLibrary, .flag .static, .flag .emitModule, .flag .repl, .flag .typecheck, .input "main.swift"]

theorem mode_fits_products_loop :
    Mode.resolve .batch loopOptions = .repl ∧ (Products.ofGiven loopOptions .batch).compiled = none ∧
      (Products.ofGiven loopOptions .batch).linked = none := by
  have hrepl : Mode.resolveWith (fun _ => none) .batch loopOptions = .repl := by decide
  have hshown : ¬ loopOptions.LoopHidden := by
    rintro ⟨-, x, hlast, -, hmade⟩
    obtain rfl : Occurrence.flag .typecheck = x := Option.some.inj hlast
    exact hmade rfl
  exact ⟨hrepl, ((mode_fits_products (fun _ => none) .batch loopOptions hshown).1 (by decide)).2 hrepl⟩

/-- The interactive driver runs a file although an executable is to be linked of it, and enters the loop
although an object file is to be made. -/
theorem interactive_contradicts_products :
    (Products.ofGiven [.flag .emitExecutable, .input "main.swift"] .interactive).links = true ∧
    Mode.resolve .interactive [.flag .emitExecutable, .input "main.swift"] = .immediate ∧
    Mode.immediate.isPlanned = false ∧
    Mode.resolve .interactive [.flag .emitObject] = .repl ∧
    (Products.ofGiven [.flag .emitObject] .interactive).compiled = some .object := by
  decide +kernel

end Planning

end CompilerDriver
