import CompilerDriver.Proofs.Fingerprint.Options
import CompilerDriver.Proofs.Incremental.Steps
import CompilerDriver.Proofs.Path.Components

/-!
# Running again

A run that changes nothing that counts starts from the record of the last one (`loadUsable_rerun`). The record
is found and read as it was written (`loadUsable_saved`), so all depends on whether its inputs are those
that the new run has. They were resolved twice, once when the old run began and once more for its record.
The second time changes nothing: where it would, a path of the record would be relative, and such a record
is not written (`inputDates_record`).
-/

namespace CompilerDriver.Incremental.Run

/-! ## Inputs that are resolved twice -/

/-- A resolved path that resolving again makes absolute is absolute already, and stays as it is. -/
theorem resolveIn_resolved {isRooted : Path → Bool}
    (hrooted : ∀ path : Path, path.isAbsolute = true → isRooted path = true) {dir : Option Path}
    {file input : TypedPath} (hfile : file.resolveIn isRooted dir = input)
    (habsolute : (input.resolveIn isRooted dir).path.isAbsolute = true) :
    input.resolveIn isRooted dir = input := by
  cases dir with
  | none => rfl
  | some dir =>
    show (⟨if isRooted input.path then input.path else dir.join input.path, input.type⟩ : TypedPath) =
      input
    change (if isRooted input.path then input.path else dir.join input.path).isAbsolute = true
      at habsolute
    split
    next => rfl
    next hinput =>
      rw [if_neg hinput] at habsolute
      have hrelative : input.path.isAbsolute = false :=
        Bool.eq_false_iff.2 fun h => hinput (hrooted _ h)
      have hdir := Path.isAbsolute_of_join habsolute hrelative
      have hpath : (if isRooted file.path then file.path else dir.join file.path) = input.path :=
        congrArg TypedPath.path hfile
      split at hpath
      next hrootedFile =>
        rw [hpath] at hrootedFile
        exact absurd hrootedFile hinput
      next =>
        rw [← hpath, Path.isAbsolute_join hdir] at hrelative
        cases hrelative

/-- The inputs of a record that can be written are those that its run began with. -/
theorem inputDates_record {isRooted : Path → Bool}
    (hrooted : ∀ path : Path, path.isAbsolute = true → isRooted path = true) {setup : Setup}
    {given : Occurrences} {run : Run} (hstart : start isRooted setup given = .ok run)
    {results : OrderedMap JobId JobResult} {jobs : List Job}
    {skipped : Option (OrderedSet TypedPath)} {text : String}
    (hencode : (run.record isRooted results jobs skipped).encode = .ok text) :
    (run.record isRooted results jobs skipped).inputDates = run.inputDates := by
  apply OrderedMap.mapKeys_eq_self
  intro input hinput
  obtain ⟨file, hfile⟩ := resolved_of_start hstart hinput
  apply resolveIn_resolved hrooted hfile
  -- some spelling of the path stands in the record, and absoluteness does not depend on the spelling
  obtain ⟨key, hkey, hspelled⟩ := OrderedMap.exists_mem_keys_mapKeys
    (TypedPath.resolveIn isRooted run.workingDirectory) hinput
  have hin : key.path ∈ (run.record isRooted results jobs skipped).paths :=
    List.mem_append_left _ (List.mem_append_left _ (List.mem_map_of_mem hkey))
  have habsolute := (BuildRecord.spec_of_encode hencode).1 key.path hin
  have hpath : compare (input.resolveIn isRooted run.workingDirectory).path key.path = .eq :=
    (Ordering.then_eq_eq.1 hspelled).1
  rw [Path.isAbsolute_congr hpath, habsolute]

/-! ## The record of the run before -/

/-- A run that finds the saved record of another one uses it exactly if it can be read and the run has no
objection. -/
theorem loadUsable_saved {run next : Run} {storage : MemoryStorage} {now : Instant}
    {record found : BuildRecord} (hquiet : (run.save storage now record).diagnostic? = none)
    (hpath : compare next.recordPath run.recordPath = .eq) :
    next.loadUsable (run.save storage now record).storage = .ok found ↔
      record.readBack = .ok found ∧ next.mismatch? found = none := by
  obtain ⟨text, hencode, hstorage⟩ := spec_of_save hquiet
  have hload : next.load (run.save storage now record).storage = .ok found ↔ record.readBack = .ok found := by
    rw [load, hstorage, readPrior_put hpath, BuildRecord.decode_of_encode hencode, mapError_eq_ok,
      mapError_eq_ok]
  rw [loadUsable_eq_ok, hload]

theorem isRooted_of_isAbsolute (storage : MemoryStorage) (path : Path)
    (h : path.isAbsolute = true) : Storage.isRooted storage path = true := by
  show (storage.rootsEverything || path.isAbsolute) = true
  rw [h, Bool.or_true]

/-- A run with the compiler, the record path, the options that count and all the inputs of the run before has
no objection to its record. -/
theorem loadUsable_next {storage : MemoryStorage} {setup : Setup} {given given' : Occurrences}
    {run next : Run} {now : Instant} {results : OrderedMap JobId JobResult} {jobs : List Job}
    {skipped : Option (OrderedSet TypedPath)}
    (hstart : start (Storage.isRooted storage) setup given = .ok run) (hversion : run.swiftVersion ≠ "")
    (hquiet : (run.save storage now
      (run.record (Storage.isRooted storage) results jobs skipped)).diagnostic? = none)
    (hhash : next.argsHash = fingerprint given') (hversion' : next.swiftVersion = run.swiftVersion)
    (hpath : compare next.recordPath run.recordPath = .eq)
    (hsame : Fingerprint.SameOptions given given')
    (hinputs : ∀ input ∈ run.inputDates.keys, ∃ other ∈ next.inputDates.keys,
      compare input.path other.path = .eq) :
    next.loadUsable (run.save storage now
      (run.record (Storage.isRooted storage) results jobs skipped)).storage =
        .ok (run.record (Storage.isRooted storage) results jobs skipped) := by
  have hprint := argsHash_of_start hstart
  have hformed : Fingerprint.isWellFormed run.argsHash = true := by
    rw [hprint]
    exact Fingerprint.isWellFormed_fingerprint given
  obtain ⟨text, hencode, -⟩ := spec_of_save hquiet
  have hfits : next.mismatch? (run.record (Storage.isRooted storage) results jobs skipped) = none := by
    refine mismatch?_eq_none.2 ⟨hversion'.symm, ?_, ?_⟩
    · show run.argsHash = next.argsHash
      rw [hprint, hhash, Fingerprint.fingerprint_congr hsame]
    · rw [inputDates_record (isRooted_of_isAbsolute storage) hstart hencode]
      exact hinputs
  exact (loadUsable_saved hquiet hpath).2
    ⟨BuildRecord.readBack_eq_ok.2 ⟨hversion, hformed, rfl⟩, hfits⟩

/-- A storage in memory says of a path that it is rooted whatever files it holds. -/
theorem isRooted_congr {before storage : MemoryStorage}
    (h : before.rootsEverything = storage.rootsEverything) :
    (Storage.isRooted before : Path → Bool) = Storage.isRooted storage := by
  funext path
  show (before.rootsEverything || path.isAbsolute) = (storage.rootsEverything || path.isAbsolute)
  rw [h]

theorem isRooted_eq_isAbsolute {storage : MemoryStorage} (h : storage.rootsEverything = false) :
    (Storage.isRooted storage : Path → Bool) = Path.isAbsolute := by
  funext path
  show (storage.rootsEverything || path.isAbsolute) = path.isAbsolute
  rw [h, Bool.false_or]

/-- A run with the compiler, the record path, the relevant options and all the inputs of the run before
starts from the record that the run before left, whichever jobs were entered in its ledger. -/
theorem loadUsable_rerun {before storage : MemoryStorage} {setup setup' : Setup}
    {given given' : Occurrences} {run next : Run} {ledger closed : Ledger} {now : Instant}
    {jobs : List Job} {skipped : Option (OrderedSet TypedPath)} {saved : Saved MemoryStorage}
    (hrooted : before.rootsEverything = storage.rootsEverything)
    (hstart : start (Storage.isRooted before) setup given = .ok run)
    (hversion : run.swiftVersion ≠ "")
    (hfinal : run.finalize ledger storage now jobs skipped = .ok (closed, saved))
    (hquiet : saved.diagnostic? = none)
    (hstart' : start (Storage.isRooted saved.storage) setup' given' = .ok next)
    (hversion' : next.swiftVersion = run.swiftVersion)
    (hpath : compare next.recordPath run.recordPath = .eq)
    (hoptions : ∀ o : DriverOption, o.invalidates = true → given'.contains o = given.contains o)
    (hinputs : ∀ input ∈ run.inputDates.keys, ∃ other ∈ next.inputDates.keys,
      compare input.path other.path = .eq) :
    next.loadUsable saved.storage =
      .ok (run.record (Storage.isRooted storage) closed.results jobs skipped) := by
  obtain ⟨-, rfl, rfl⟩ := spec_of_finalize hfinal
  rw [isRooted_congr hrooted] at hstart
  have hsame : Fingerprint.SameOptions given given' := fun o ho =>
    (hoptions o (Fingerprint.counts_eq_invalidates o ▸ ho)).symm
  exact loadUsable_next hstart hversion hquiet (argsHash_of_start hstart') hversion' hpath hsame hinputs

/-! ## A run that is repeated -/

/-- An output file map that says where the record is kept, and nothing else. -/
def recordOnly : OutputFileMap :=
  OutputFileMap.declare .empty .empty .swiftDependencies (.ofString "main.swiftdeps")

/-- A build of one file, given relative to the directory that the build works in. -/
def oneFile : Setup where
  swiftVersion := "Swift version 6.0"
  outputFileMap := some recordOnly
  compiled := some .object
  workingDirectory := some (.ofString "/work")
  inputDates := .ofList [(.ofInput (.ofString "main.swift"), .epoch)]
  timeBeforeFirstJob := .epoch

/-- The run that is started for it. -/
def oneFileRun (given : Occurrences) : Run where
  recordPath := .ofString "/work/main.swiftdeps"
  swiftVersion := "Swift version 6.0"
  argsHash := fingerprint given
  workingDirectory := some (.ofString "/work")
  inputDates := .ofList [(.ofInput (.ofString "/work/main.swift"), .epoch)]
  timeBeforeFirstJob := .epoch

/-- A build of this file is that run wherever its working directory comes from, and whatever is made of the file
unless it is only a module. -/
theorem start_eq_oneFileRun {setup : Setup} {given : Occurrences} {storage : MemoryStorage}
    (hasked : given.contains .incremental = true) (hrooted : storage.rootsEverything = false)
    (hversion : setup.swiftVersion = oneFile.swiftVersion) (hmap : setup.outputFileMap = some recordOnly)
    (hcompiled : setup.compiled ≠ some .swiftModule) (htime : setup.timeBeforeFirstJob = .epoch)
    (hdir : setup.workingDirectory.or ((given.lastArgument? .workingDirectory).map Path.ofString) =
      some (.ofString "/work"))
    (hdates : ((setup.inputDates.filterKeys fun input => input.type.isCompiled).mapKeys
      fun input => input.resolveIn Path.isAbsolute (some (.ofString "/work"))) =
        .ofList [(.ofInput (.ofString "/work/main.swift"), .epoch)]) :
    start (Storage.isRooted storage) setup given = .ok (oneFileRun given) := by
  have hentry : recordOnly.moduleOutput? .swiftDependencies = some (.ofString "main.swiftdeps") := by
    decide +kernel
  have hplain : recordPathFor (.ofString "main.swiftdeps") setup.compiled = .ofString "main.swiftdeps" :=
    if_neg hcompiled
  have hpath : (Path.ofString "main.swiftdeps").resolveIn Path.isAbsolute (some (.ofString "/work")) =
      .ofString "/work/main.swiftdeps" := by
    decide +kernel
  rw [isRooted_eq_isAbsolute hrooted, start, if_pos hasked]
  simp only [hmap, hentry, hdir, hdates, hplain, hpath, hversion, htime]
  rfl

theorem start_oneFile {given : Occurrences} (h : given.contains .incremental = true)
    (storage : MemoryStorage) (hrooted : storage.rootsEverything = false) :
    start (Storage.isRooted storage) oneFile given = .ok (oneFileRun given) :=
  start_eq_oneFileRun h hrooted rfl rfl (by decide) rfl rfl (by decide +kernel)

/-- The job of the build. -/
def oneFileJob : Job :=
  .compile (.ofInput (.ofString "main.swift")) [⟨.ofString "main.o", .object⟩]

/-- The ledger after it was done. -/
def oneFileLedger : Ledger := ⟨.ofList [(oneFileJob.id, .success)], false⟩

/-- Options that make a library of it. -/
def libraryOptions : Occurrences :=
  [.flag .incremental, .withArgument .define "A", .flag .emitLibrary]

/-- The record of that build. -/
def libraryRecord : BuildRecord :=
  (oneFileRun libraryOptions).record (Storage.isRooted ({} : MemoryStorage)) oneFileLedger.results
    [oneFileJob] none

/-- What the build of the library leaves in a storage that was empty. -/
def librarySaved : Saved MemoryStorage := (oneFileRun libraryOptions).save {} .epoch libraryRecord

theorem librarySaved_quiet : librarySaved.diagnostic? = none := by decide +kernel

theorem rootsEverything_librarySaved : librarySaved.storage.rootsEverything = false := by
  decide +kernel

theorem finalize_library : (oneFileRun libraryOptions).finalize oneFileLedger ({} : MemoryStorage)
    .epoch [oneFileJob] none = .ok ({ oneFileLedger with isClosed := true }, librarySaved) := rfl

/-- The options of the library that count, in another order and one of them with another argument as well. The
others do not count. -/
def reorderedOptions : Occurrences :=
  [.withArgument .define "B", .flag .verbose, .flag .incremental, .withArgument .define "A"]

theorem reorderedOptions_contains {o : DriverOption} (h : o.invalidates = true) :
    reorderedOptions.contains o = libraryOptions.contains o := by
  have each : ∀ o ∈ DriverOption.all, o.invalidates = true →
      reorderedOptions.contains o = libraryOptions.contains o := by decide +kernel
  exact each o o.mem_all h

theorem loadUsable_rerun_library :
    (oneFileRun reorderedOptions).loadUsable librarySaved.storage = .ok libraryRecord := by
  have hagain : start (Storage.isRooted librarySaved.storage) oneFile reorderedOptions =
      .ok (oneFileRun reorderedOptions) :=
    start_oneFile rfl librarySaved.storage rootsEverything_librarySaved
  have hload := loadUsable_rerun rfl (start_oneFile rfl {} rfl) (by decide) finalize_library
    librarySaved_quiet hagain rfl Std.ReflCmp.compare_self (fun _ => reorderedOptions_contains)
    fun input hinput => ⟨input, hinput, Std.ReflCmp.compare_self⟩
  exact hload

end CompilerDriver.Incremental.Run
