import CompilerDriver.Proofs.Planning.Agreement

/-!
# Batches, and products with a mode of their own

Who selects batches is asked last. So a selection can only take the place of compiling every input on its own, and
it leaves every other mode as it was (`resolveWith_eq_batched`).

Some products are made in a mode of their own. The mode of an invocation is looked up by the option that asks for the
product (`Mode.dedicated?`) and its products by that option in another table (`Products.ofMode?`). What is said
here of the product alone (`Mode.ofProduct?`) holds of both, so where such a product is made, no other option, no
input and no selection has a say in the mode (`batches_refine_mode`).
-/

namespace CompilerDriver

namespace Mode

/-! ## Batches -/

/-- The mode of a compilation, and batches if they were selected and each input is to be compiled on its own. -/
def batched (selected : Option BatchParameters) : Mode → Mode
  | .standardCompile =>
    match selected with
    | some parameters => .batchCompile parameters
    | none => .standardCompile
  | mode => mode

theorem batched_of_ne {mode : Mode} (h : mode ≠ .standardCompile) (selected : Option BatchParameters) :
    mode.batched selected = mode := by
  cases mode with
  | standardCompile => exact absurd rfl h
  | _ => rfl

/-- No option asks for the mode in which every input is compiled on its own. -/
theorem ne_standardCompile_of_dedicated? {o : DriverOption} {mode : Mode} (h : dedicated? o = some mode) :
    mode ≠ .standardCompile := by
  rintro rfl
  cases isSingleCompilation_of_dedicated? h

variable (select : Occurrences → Option BatchParameters) (personality : Personality) (given : Occurrences)

/-- A selection of batches comes after all else. -/
theorem resolveWith_eq_batched :
    resolveWith select personality given = (resolve personality given).batched (select given) := by
  rw [resolve, resolveWith, resolveWith]
  cases hown : (given.lastInGroup? .modes).bind fun x => dedicated? x.option with
  | some mode =>
    obtain ⟨x, -, hx⟩ := Option.bind_eq_some_iff.1 hown
    exact (batched_of_ne (ne_standardCompile_of_dedicated? hx) _).symm
  | none =>
    dsimp only
    split
    next => rfl
    next =>
      split
      next => split <;> rfl
      next =>
        split
        next => rfl
        next => cases select given <;> rfl

/-! ## Products with a mode of their own -/

/-- The mode of its own in which a product is made. -/
def ofProduct? : FileType → Option Mode
  | .pch | .importedModules | .indexData => some .singleCompile
  | .pcm => some .compilePrecompiledModule
  | _ => none

/-- An option has the mode of its own that its product has. -/
theorem dedicated?_eq_ofProduct? {o : DriverOption} {isStatic : Bool} {products : Products}
    (h : Products.ofMode? isStatic o = some products) : dedicated? o = products.compiled.bind ofProduct? := by
  unfold Products.ofMode? at h
  split at h <;> cases h <;> rfl

/-- The mode of its own that the options ask for is that of the product. -/
theorem dedicated?_last_eq_ofProduct? :
    ((given.lastInGroup? .modes).bind fun x => dedicated? x.option) =
      (Products.ofGiven given personality).compiled.bind ofProduct? := by
  cases hlast : given.lastInGroup? .modes with
  | some x => exact dedicated?_eq_ofProduct? (Products.ofMode?_last personality hlast)
  | none =>
    -- what is made without such an option is a module or an object file, if anything
    rw [Products.ofGiven_of_no_mode hlast]
    split
    next => rfl
    next => split <;> rfl

variable {personality given}

theorem resolveWith_of_product {mode : Mode}
    (h : (Products.ofGiven given personality).compiled.bind ofProduct? = some mode) :
    resolveWith select personality given = mode := by
  rw [resolveWith, dedicated?_last_eq_ofProduct? personality, h]

/-- Where no product has a mode of its own, no Clang module is precompiled. -/
theorem resolveWith_ne_compilePrecompiledModule
    (h : (Products.ofGiven given personality).compiled.bind ofProduct? = none) :
    resolveWith select personality given ≠ .compilePrecompiledModule := by
  rw [resolveWith, dedicated?_last_eq_ofProduct? personality, h]
  intro hmode
  dsimp only at hmode
  split at hmode
  next => cases hmode
  next =>
    split at hmode
    next => split at hmode <;> cases hmode
    next =>
      split at hmode
      next => cases hmode
      next => split at hmode <;> cases hmode

theorem ofProduct?_eq_compilePrecompiledModule {product : FileType}
    (h : ofProduct? product = some .compilePrecompiledModule) : product = .pcm := by
  have each : ∀ product ∈ FileType.all, ofProduct? product = some .compilePrecompiledModule →
      product = .pcm := by
    decide +kernel
  exact each product product.mem_all h

/-- A Clang module is precompiled exactly where it is to be made. -/
theorem resolveWith_eq_compilePrecompiledModule_iff :
    resolveWith select personality given = .compilePrecompiledModule ↔
      (Products.ofGiven given personality).compiled = some .pcm := by
  constructor
  · intro h
    cases hown : (Products.ofGiven given personality).compiled.bind ofProduct? with
    | none => exact absurd h (resolveWith_ne_compilePrecompiledModule select hown)
    | some mode =>
      rw [resolveWith_of_product select hown] at h
      subst h
      obtain ⟨product, hproduct, hmode⟩ := Option.bind_eq_some_iff.1 hown
      rw [hproduct, ofProduct?_eq_compilePrecompiledModule hmode]
  · intro h
    exact resolveWith_of_product select (by rw [h]; rfl)

end Mode

namespace Planning

/-- Whoever selects batches, and whatever else was given:

* a mode other than that in which every input is compiled on its own stays as it is;
* that one becomes a compilation in batches if they are selected, with the parameters that are;
* a Clang module is precompiled exactly where it is the product;
* a precompiled header, imported modules and index data are made by a single compilation. -/
theorem batches_refine_mode (select : Occurrences → Option BatchParameters) (personality : Personality)
    (given : Occurrences) :
    (Mode.resolve personality given ≠ .standardCompile →
      Mode.resolveWith select personality given = Mode.resolve personality given) ∧
    (Mode.resolve personality given = .standardCompile →
      (∀ parameters, select given = some parameters →
        Mode.resolveWith select personality given = .batchCompile parameters) ∧
      (select given = none → Mode.resolveWith select personality given = .standardCompile)) ∧
    (Mode.resolveWith select personality given = .compilePrecompiledModule ↔
      (Products.ofGiven given personality).compiled = some .pcm) ∧
    ∀ product ∈ [FileType.pch, .importedModules, .indexData],
      (Products.ofGiven given personality).compiled = some product →
        Mode.resolveWith select personality given = .singleCompile := by
  have hbatched := Mode.resolveWith_eq_batched select personality given
  refine ⟨fun hother => ?_, fun hstandard => ?_, Mode.resolveWith_eq_compilePrecompiledModule_iff select,
    fun product hproduct hmade => ?_⟩
  · rw [hbatched, Mode.batched_of_ne hother]
  · rw [hstandard] at hbatched
    constructor
    · intro parameters hselected
      rw [hbatched, hselected]
      rfl
    · intro hselected
      rw [hbatched, hselected]
      rfl
  · have hown : Mode.ofProduct? product = some .singleCompile := by
      simp only [List.mem_cons, List.not_mem_nil, or_false] at hproduct
      rcases hproduct with rfl | rfl | rfl <;> rfl
    exact Mode.resolveWith_of_product select (by rw [hmade]; exact hown)

/-- A selection takes the place of compiling every input on its own, and leaves the interactive driver alone when it is
to precompile a Clang module. -/
theorem batches_refine_mode_always :
    Mode.resolveWith (fun _ => some { count := some 2 }) .batch [.input "main.swift"] =
      .batchCompile { count := some 2 } ∧
    Mode.resolveWith (fun _ => some { count := some 2 }) .interactive
      [.flag .repl, .flag .wholeModuleOptimization, .flag .emitPcm, .input "module.modulemap"] =
        .compilePrecompiledModule := by
  constructor
  · have hstandard : Mode.resolve .batch [.input "main.swift"] = .standardCompile := by decide +kernel
    exact ((batches_refine_mode _ _ _).2.1 hstandard).1 _ rfl
  · exact (batches_refine_mode _ _ _).2.2.1.2 (by decide +kernel)

end Planning

end CompilerDriver
