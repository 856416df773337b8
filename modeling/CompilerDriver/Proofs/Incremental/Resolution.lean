import CompilerDriver.Proofs.Incremental.Rerun
import CompilerDriver.Proofs.OrderedMap.Renaming
import CompilerDriver.Proofs.Path.Names

/-!
# Inputs that are resolved twice

The inputs of a run are resolved when it starts, and once more for its record. In an absolute directory the
second time changes nothing, and there the record has the inputs of the run. It has them also in a directory that
names no place of its own, such as `.`. But a relative directory is put before a relative path each time, so its
names stand in the record twice. A record has the inputs of its run exactly where this does not happen
(`sameAs_inputDates_record`).
-/

namespace CompilerDriver

namespace Path

variable {isRooted : Path → Bool} {dir p : Path}

theorem resolveIn_of_settled (h : p.isAbsolute = true ∨ isRooted p = true) :
    p.resolveIn isRooted (some dir) = p := by
  rw [resolveIn]
  split
  next => rfl
  next hp => rw [join, if_pos (h.resolve_right hp)]

theorem resolveIn_of_not_isRooted (hrooted : isRooted p = false) :
    p.resolveIn isRooted (some dir) = dir.join p := by
  rw [resolveIn, hrooted, if_neg Bool.false_ne_true]

/-- In an absolute directory a resolved path stays as it is. -/
theorem resolveIn_again (hdir : dir.isAbsolute = true) :
    (p.resolveIn isRooted (some dir)).resolveIn isRooted (some dir) = p.resolveIn isRooted (some dir) := by
  cases hp : isRooted p with
  | true =>
    have hstays : p.resolveIn isRooted (some dir) = p := resolveIn_of_settled (.inr hp)
    rw [hstays, hstays]
  | false =>
    rw [resolveIn_of_not_isRooted hp]
    exact resolveIn_of_settled (.inl (isAbsolute_join hdir p))

/-- A directory without entries is put before a relative path once at most. -/
theorem compare_join_join (hdir : entries dir.bytes = []) (hp : p.isAbsolute = false) :
    compare (dir.join (dir.join p)) (dir.join p) = .eq := by
  by_cases hempty : dir.bytes = []
  · rw [join_of_empty hempty, join_of_empty hempty]
    exact Std.ReflCmp.compare_self
  · cases hjoin : (dir.join p).isAbsolute with
    | true =>
      rw [join, if_pos hjoin]
      exact Std.ReflCmp.compare_self
    | false =>
      rw [compare_eq_iff, components_join hempty hjoin, components_join hempty hp, entries_join dir hp, hdir,
        List.nil_append]

/-- In a directory without entries a resolved path stays the same path. -/
theorem compare_resolveIn_again (hdir : entries dir.bytes = []) :
    compare ((p.resolveIn isRooted (some dir)).resolveIn isRooted (some dir))
      (p.resolveIn isRooted (some dir)) = .eq := by
  by_cases hp : p.isAbsolute = true ∨ isRooted p = true
  · rw [resolveIn_of_settled hp, resolveIn_of_settled hp]
    exact Std.ReflCmp.compare_self
  · rw [not_or, Bool.not_eq_true, Bool.not_eq_true] at hp
    rw [resolveIn_of_not_isRooted hp.2]
    cases hjoin : isRooted (dir.join p) with
    | true =>
      rw [resolveIn_of_settled (.inr hjoin)]
      exact Std.ReflCmp.compare_self
    | false =>
      rw [resolveIn_of_not_isRooted hjoin]
      exact compare_join_join hdir hp.1

/-- A directory with entries makes every path longer that it is put before. -/
theorem length_entries_resolveIn (hdir : entries dir.bytes ≠ []) (hp : p.isAbsolute = false)
    (hrooted : isRooted p = false) :
    (entries p.bytes).length < (entries (p.resolveIn isRooted (some dir)).bytes).length := by
  rw [resolveIn_of_not_isRooted hrooted, entries_join dir hp, List.length_append]
  have := List.length_pos_of_ne_nil hdir
  omega

/-- In a directory with entries exactly those paths stay the same that it is not put before. -/
theorem compare_resolveIn_eq_iff (hdir : entries dir.bytes ≠ []) :
    compare (p.resolveIn isRooted (some dir)) p = .eq ↔ p.isAbsolute = true ∨ isRooted p = true := by
  refine ⟨fun h => ?_, fun h => by rw [resolveIn_of_settled h]; exact Std.ReflCmp.compare_self⟩
  by_contra hp
  rw [not_or, Bool.not_eq_true, Bool.not_eq_true] at hp
  have hlonger := length_entries_resolveIn hdir hp.1 hp.2
  rw [entries_congr h] at hlonger
  exact Nat.lt_irrefl _ hlonger

end Path

namespace Incremental.Run

variable {isRooted : Path → Bool} {dir : Path}

theorem compare_file_resolveIn_eq_iff {file : TypedPath} :
    compare (file.resolveIn isRooted (some dir)) file = .eq ↔
      compare (file.path.resolveIn isRooted (some dir)) file.path = .eq := by
  rw [TypedPath.compare_eq_iff]
  exact and_iff_left rfl

/-- Resolving files again in a directory with entries keeps them only if it is put before none of them. -/
theorem sameAs_resolved_iff (hdir : Path.entries dir.bytes ≠ []) {dates : OrderedMap TypedPath Instant} :
    (dates.mapKeys (TypedPath.resolveIn isRooted (some dir))).SameAs dates ↔
      ∀ input ∈ dates.keys, input.path.isAbsolute = true ∨ isRooted input.path = true := by
  have hstays (input : TypedPath) : compare (input.resolveIn isRooted (some dir)) input = .eq ↔
      input.path.isAbsolute = true ∨ isRooted input.path = true :=
    compare_file_resolveIn_eq_iff.trans (Path.compare_resolveIn_eq_iff hdir)
  have hsize (a b : TypedPath) (h : compare a b = .eq) :
      (Path.entries a.path.bytes).length = (Path.entries b.path.bytes).length :=
    congrArg List.length (Path.entries_congr (TypedPath.compare_eq_iff.1 h).1)
  -- so no input can take the place of another one
  have hgrows (input : TypedPath) : compare (input.resolveIn isRooted (some dir)) input = .eq ∨
      (Path.entries input.path.bytes).length <
        (Path.entries (input.resolveIn isRooted (some dir)).path.bytes).length := by
    refine or_iff_not_imp_left.2 fun hmoves => ?_
    rw [hstays, not_or, Bool.not_eq_true, Bool.not_eq_true] at hmoves
    exact Path.length_entries_resolveIn hdir hmoves.1 hmoves.2
  rw [OrderedMap.sameAs_mapKeys_iff (fun file => (Path.entries file.path.bytes).length) hsize
    fun input _ => hgrows input]
  exact forall₂_congr fun input _ => hstays input

variable {setup : Setup} {given : Occurrences} {run : Run}

theorem inputDates_record_eq (run : Run) (isRooted : Path → Bool) (results : OrderedMap JobId JobResult)
    (jobs : List Job) (skipped : Option (OrderedSet TypedPath)) :
    (run.record isRooted results jobs skipped).inputDates =
      run.inputDates.mapKeys (TypedPath.resolveIn isRooted run.workingDirectory) := rfl

/-- The record of a run has the inputs of the run, unless a relative directory with entries is put before one
of them again. Where the directory is absolute, or there is none, they are even spelled alike. -/
theorem sameAs_inputDates_record (hstart : start isRooted setup given = .ok run)
    (results : OrderedMap JobId JobResult) (jobs : List Job) (skipped : Option (OrderedSet TypedPath)) :
    ((run.record isRooted results jobs skipped).inputDates.SameAs run.inputDates ↔
      ∀ dir, run.workingDirectory = some dir →
        dir.isAbsolute = true ∨ Path.entries dir.bytes = [] ∨
          ∀ input ∈ run.inputDates.keys, input.path.isAbsolute = true ∨ isRooted input.path = true) ∧
    ((∀ dir, run.workingDirectory = some dir → dir.isAbsolute = true) →
      (run.record isRooted results jobs skipped).inputDates = run.inputDates) := by
  rw [inputDates_record_eq]
  -- an input of the run was resolved before, so the record resolves it again
  have hresolved (input : TypedPath) (hinput : input ∈ run.inputDates.keys) := resolved_of_start hstart hinput
  cases hrun : run.workingDirectory with
  | none =>
    have hsame : run.inputDates.mapKeys (TypedPath.resolveIn isRooted none) = run.inputDates :=
      OrderedMap.mapKeys_eq_self fun _ _ => rfl
    rw [hsame]
    exact ⟨iff_of_true (OrderedMap.SameAs.refl _) (fun _ h => nomatch h), fun _ => rfl⟩
  | some dir =>
    rw [hrun] at hresolved
    simp only [Option.some.injEq, forall_eq']
    have habsolute (hdir : dir.isAbsolute = true) :
        run.inputDates.mapKeys (TypedPath.resolveIn isRooted (some dir)) = run.inputDates := by
      refine OrderedMap.mapKeys_eq_self fun input hinput => ?_
      obtain ⟨file, rfl⟩ := hresolved input hinput
      exact congrArg (TypedPath.mk · _) (Path.resolveIn_again hdir)
    refine ⟨?_, habsolute⟩
    by_cases hdir : dir.isAbsolute = true
    · rw [habsolute hdir]
      exact iff_of_true (OrderedMap.SameAs.refl _) (.inl hdir)
    by_cases hentries : Path.entries dir.bytes = []
    · refine iff_of_true (OrderedMap.sameAs_mapKeys fun input hinput => ?_) (.inr (.inl hentries))
      obtain ⟨file, rfl⟩ := hresolved input hinput
      exact compare_file_resolveIn_eq_iff.2 (Path.compare_resolveIn_again hentries)
    · rw [sameAs_resolved_iff hentries, or_iff_right hdir, or_iff_right hentries]

/-! ## A directory that an option gives -/

/-- The build of one file, without a directory of its own. -/
def directionless : Setup := { oneFile with workingDirectory := none }

/-- Options that make a build incremental and give it a directory. -/
def optionsIn (dir : String) : Occurrences :=
  [.flag .incremental, .withArgument .workingDirectory dir]

theorem start_optionsIn (dir : String) : ∃ run,
    start Path.isAbsolute directionless (optionsIn dir) = .ok run ∧
    run.workingDirectory = some (.ofString dir) ∧
    run.inputDates = (directionless.inputDates.filterKeys fun input => input.type.isCompiled).mapKeys
      fun input => input.resolveIn Path.isAbsolute (some (.ofString dir)) := by
  have hentry : (directionless.outputFileMap.bind fun map => map.moduleOutput? .swiftDependencies) =
      some (.ofString "main.swiftdeps") := by
    decide +kernel
  have hasked : (optionsIn dir).contains .incremental = true := rfl
  obtain ⟨run, hrun⟩ := exists_start Path.isAbsolute hasked hentry
  obtain ⟨-, -, -, -, -, hdir, -, -, -, -, hdates⟩ := spec_of_start hrun
  have hdir : run.workingDirectory = some (.ofString dir) := hdir
  exact ⟨run, hrun, hdir, hdir ▸ hdates⟩

/-- Where the build works in `.`, the record has its input, spelled with one more dot. -/
theorem sameAs_inputDates_record_dot : ∃ run,
    start Path.isAbsolute directionless (optionsIn ".") = .ok run ∧
    (run.record Path.isAbsolute .empty [] none).inputDates.SameAs run.inputDates ∧
    run.inputDates.keys.map (·.path.display) = ["./main.swift"] ∧
    (run.record Path.isAbsolute .empty [] none).inputDates.keys.map (·.path.display) =
      ["././main.swift"] := by
  obtain ⟨run, hstart, hdir, hdates⟩ := start_optionsIn "."
  refine ⟨run, hstart, (sameAs_inputDates_record hstart .empty [] none).1.2 ?_, ?_, ?_⟩
  · intro dir h
    rw [hdir] at h
    cases h
    exact .inr (.inl (by decide +kernel))
  · rw [hdates]
    decide +kernel
  · rw [inputDates_record_eq, hdir, hdates]
    decide +kernel

/-- Where the build works in a relative directory, the directory stands in the record twice. -/
theorem inputDates_record_subdirectory : ∃ run,
    start Path.isAbsolute directionless (optionsIn "sub") = .ok run ∧
    run.inputDates.keys.map (·.path.display) = ["sub/main.swift"] ∧
    (run.record Path.isAbsolute .empty [] none).inputDates.keys.map (·.path.display) =
      ["sub/sub/main.swift"] ∧
    ¬ (run.record Path.isAbsolute .empty [] none).inputDates.SameAs run.inputDates := by
  obtain ⟨run, hstart, hdir, hdates⟩ := start_optionsIn "sub"
  refine ⟨run, hstart, ?_, ?_, ?_⟩
  · rw [hdates]
    decide +kernel
  · rw [inputDates_record_eq, hdir, hdates]
    decide +kernel
  · rw [inputDates_record_eq, hdir, hdates]
    decide +kernel

end Incremental.Run

end CompilerDriver
