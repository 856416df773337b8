import CompilerDriver.Products
import CompilerDriver.Proofs.Incremental.Places

/-!
# What a reused record guarantees

A run that starts from the record of the run before was given the same relevant options, unless two digests
collide, and makes only a module if that one did (`sameOptions_of_reuse`). It need not have been given the
options with the same arguments, and it may be asked for other products otherwise: the fingerprint covers
neither (`reuse_of_changed_arguments`).
-/

namespace CompilerDriver.Incremental.Run

/-- If a run starts from the record that the run before left in its place, then it is that record, and the two
runs were given the same relevant options; or else their fingerprints agree although they are digests of
different texts. With one output file map and one working directory, both make only a module or neither
does. -/
theorem sameOptions_of_reuse {σ : Type} [Storage σ] [LawfulStorage σ] [LawfulPaths σ] {before storage : σ}
    {setup setup' : Setup} {given given' : Occurrences} {run next : Run} {ledger closed : Ledger} {now : Instant}
    {jobs : List Job} {skipped : Option (OrderedSet TypedPath)} {saved : Saved σ} {record : BuildRecord}
    (hrooted : Storage.isRooted before = Storage.isRooted storage)
    (hstart : start (Storage.isRooted before) setup given = .ok run)
    (hfinal : run.finalize ledger storage now jobs skipped = .ok (closed, saved))
    (hquiet : saved.diagnostic? = none)
    (hstart' : start (Storage.isRooted saved.storage) setup' given' = .ok next)
    (hmap : setup'.outputFileMap = setup.outputFileMap)
    (hdir : next.workingDirectory = run.workingDirectory)
    (hpath : compare next.recordPath run.recordPath = .eq)
    (hload : next.loadUsable saved.storage = .ok record) :
    record = run.record (Storage.isRooted storage) closed.results jobs skipped ∧
      ((∀ o : DriverOption, o.invalidates = true → given.contains o = given'.contains o) ∨
        Fingerprint.Collides (Fingerprint.preimage given) (Fingerprint.preimage given')) ∧
      (setup.compiled = some .swiftModule ↔ setup'.compiled = some .swiftModule) := by
  obtain ⟨-, rfl, rfl⟩ := spec_of_finalize hfinal
  obtain ⟨hfound, hfits⟩ := loadUsable_eq_ok.1 hload
  obtain ⟨-, -, rfl⟩ := BuildRecord.readBack_eq_ok.1 (readBack_of_load hquiet hpath hfound)
  refine ⟨rfl, ?_, ?_⟩
  · have hhash : run.argsHash = next.argsHash := (mismatch?_eq_none.1 hfits).2.1
    rw [argsHash_of_start hstart, argsHash_of_start hstart'] at hhash
    rcases Fingerprint.sameOptions_or_collision hhash with hsame | hcollision
    · exact .inl fun o ho => hsame o ((Fingerprint.counts_eq_invalidates o).trans ho)
    · exact .inr hcollision
  · rw [isRooted_save] at hstart'
    rw [hrooted] at hstart
    exact makesModule_of_recordPath (fun _ _ => LawfulPaths.isRooted_eq storage) hstart hstart' hmap hdir hpath

/-- Options that only check the file that `libraryOptions` make a library of, with another value for the same
option. -/
def checkOptions : Occurrences :=
  [.flag .incremental, .withArgument .define "B", .flag .typecheck]

/-- The build of one file that makes nothing of it. -/
def checkedFile : Setup := { oneFile with compiled := none }

theorem start_checkedFile (storage : MemoryStorage) (hrooted : storage.rootsEverything = false) :
    start (Storage.isRooted storage) checkedFile checkOptions = .ok (oneFileRun checkOptions) :=
  start_eq_oneFileRun rfl hrooted rfl rfl (by decide) rfl rfl (by decide +kernel)

/-- Options that count like those of the library. -/
theorem sameOptions_library {given : Occurrences}
    (h : ∀ o ∈ DriverOption.all, libraryOptions.contains o = given.contains o ∨ Fingerprint.counts o = false) :
    Fingerprint.SameOptions libraryOptions given := by
  intro o ho
  rcases h o o.mem_all with hsame | hnot
  · exact hsame
  · rw [hnot] at ho
    cases ho

/-- A build of the same file with such options starts from the record of the library. -/
theorem loadUsable_library {given : Occurrences} (h : Fingerprint.SameOptions libraryOptions given) :
    (oneFileRun given).loadUsable librarySaved.storage = .ok libraryRecord :=
  loadUsable_next (start_oneFile rfl {} rfl) (by decide) librarySaved_quiet rfl rfl
    Std.ReflCmp.compare_self h fun input hinput => ⟨input, hinput, Std.ReflCmp.compare_self⟩

theorem loadUsable_check : (oneFileRun checkOptions).loadUsable librarySaved.storage = .ok libraryRecord :=
  loadUsable_library (sameOptions_library (by decide +kernel))

theorem sameOptions_of_reuse_check :
    libraryRecord = (oneFileRun libraryOptions).record (Storage.isRooted ({} : MemoryStorage))
        oneFileLedger.results [oneFileJob] none ∧
      ((∀ o : DriverOption, o.invalidates = true → libraryOptions.contains o = checkOptions.contains o) ∨
        Fingerprint.Collides (Fingerprint.preimage libraryOptions) (Fingerprint.preimage checkOptions)) ∧
      (some FileType.object = some .swiftModule ↔ (none : Option FileType) = some .swiftModule) := by
  have hagain : start (Storage.isRooted librarySaved.storage) checkedFile checkOptions =
      .ok (oneFileRun checkOptions) := start_checkedFile librarySaved.storage rootsEverything_librarySaved
  have hreuse := sameOptions_of_reuse rfl (start_oneFile rfl {} rfl) finalize_library librarySaved_quiet
    hagain rfl rfl Std.ReflCmp.compare_self loadUsable_check
  exact hreuse

/-- Options that make an executable of the file that `libraryOptions` make a library of, with another value for the
same option. -/
def executableOptions : Occurrences :=
  [.flag .incremental, .withArgument .define "B", .flag .emitExecutable]

theorem loadUsable_executable :
    (oneFileRun executableOptions).loadUsable librarySaved.storage = .ok libraryRecord :=
  loadUsable_library (sameOptions_library (by decide +kernel))

/-- Two runs of one driver with the same compiler, output file map, working directory and inputs: the second
starts from the record of the first, although a relevant option has another value and the driver is to
make something else. -/
theorem reuse_of_changed_arguments :
    start (Storage.isRooted ({} : MemoryStorage)) oneFile libraryOptions =
      .ok (oneFileRun libraryOptions) ∧
    (oneFileRun libraryOptions).finalize oneFileLedger ({} : MemoryStorage) .epoch [oneFileJob] none =
      .ok ({ oneFileLedger with isClosed := true }, librarySaved) ∧
    librarySaved.diagnostic? = none ∧
    start (Storage.isRooted librarySaved.storage) oneFile executableOptions =
      .ok (oneFileRun executableOptions) ∧
    (oneFileRun executableOptions).loadUsable librarySaved.storage = .ok libraryRecord ∧
    DriverOption.define.invalidates = true ∧
    libraryOptions.allArguments .define ≠ executableOptions.allArguments .define ∧
    (Products.ofGiven libraryOptions .batch).compiled = oneFile.compiled ∧
    (Products.ofGiven executableOptions .batch).compiled = oneFile.compiled ∧
    Products.ofGiven libraryOptions .batch ≠ Products.ofGiven executableOptions .batch :=
  ⟨start_oneFile rfl {} rfl, finalize_library, librarySaved_quiet,
    start_oneFile rfl librarySaved.storage rootsEverything_librarySaved, loadUsable_executable,
    by decide, by decide, by decide +kernel, by decide +kernel, by decide +kernel⟩

end CompilerDriver.Incremental.Run
