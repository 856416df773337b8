import CompilerDriver.CommandLine.Run
import CompilerDriver.Proofs.Incremental.Rerun
import CompilerDriver.Proofs.Path.Names

/-!
# Checking records

The command that checks a record and a build that loads it resolve the inputs of the compilation each in its
own way. The command tells the type of an input after it was resolved, the build before, and only the build
looks at the working directory that an option gives. Where neither makes a difference (`ResolvesAlike`), the
command says of a record that it can be used exactly if the build uses it (`exitCode_checkRecord`).
-/

namespace CompilerDriver

theorem FileType.ofInput_congr {p q : Path} (h : p.fileName? = q.fileName?) : ofInput p = ofInput q := by
  rw [ofInput, ofInput, Path.extension?, Path.extension?, h]

theorem Path.resolveIn_isAbsolute (dir p : Path) : p.resolveIn isAbsolute (some dir) = dir.join p := by
  rw [resolveIn]
  split
  next h => rw [join, if_pos h]
  next => rfl

theorem Path.resolveIn_congr (dir : Option Path) {p q : Path} (h : compare p q = .eq) :
    compare (p.resolveIn isAbsolute dir) (q.resolveIn isAbsolute dir) = .eq := by
  cases dir with
  | none => exact h
  | some dir =>
    rw [resolveIn_isAbsolute, resolveIn_isAbsolute]
    exact join_congr dir h

namespace CommandLine

/-! ## What the command answers -/

variable {config : Option Path} {version : Option String} {path : Path} {arguments : List String}
  {read : Path → Except StorageError Bytes} {settings : Settings} {contents : Bytes}
  {given : Occurrences} {record : BuildRecord}

/-- The command reads the record as a build does. -/
theorem recordOf_eq_ok :
    recordOf path (.ok contents) = .ok record ↔
      Incremental.Run.recordOfBytes contents = .ok record := by
  have hopened : (Except.ok contents : Except StorageError Bytes).bind Storage.textOf =
      Storage.textOf contents := rfl
  rw [recordOf, hopened, Storage.textOf, Utf8.decode?, Incremental.Run.recordOfBytes]
  cases Utf8.decode contents with
  | error fault => constructor <;> (intro h; cases h)
  | ok cs =>
    show (BuildRecord.decode (String.ofList cs)).mapError _ = .ok record ↔
      (BuildRecord.decode (String.ofList cs)).mapError _ = .ok record
    rw [mapError_eq_ok, mapError_eq_ok]

/-- The command succeeds if the record can be read and nothing speaks against it. -/
theorem exitCode_eq_zero (hsettings : settingsOf config read = .ok settings)
    (hfile : read path = .ok contents) (harguments : Occurrences.read arguments = .ok given) :
    ((Invocation.mk config (.checkRecord path version arguments)).run read).exitCode = 0 ↔
      ∃ record, Incremental.Run.recordOfBytes contents = .ok record ∧
        mismatch? (settings.override { swiftVersion := version }) record given = none := by
  have hoptions : optionsOf arguments = .ok given := mapError_eq_ok.2 harguments
  rw [Invocation.run, hsettings]
  dsimp only
  rw [resultOf, hfile, checkRecord, hoptions]
  cases hrecord : recordOf path (.ok contents) with
  | error line =>
    refine iff_of_false (fun h => ?_) ?_
    · cases h
    · rintro ⟨record, hread, -⟩
      rw [← recordOf_eq_ok, hrecord] at hread
      cases hread
  | ok record =>
    have hread := recordOf_eq_ok.1 hrecord
    simp only [bind, Except.bind, pure, Except.pure]
    constructor
    · intro h
      refine ⟨record, hread, ?_⟩
      split at h
      next hnone => exact hnone
      next => cases h
    · rintro ⟨found, hfound, hnone⟩
      rw [hread] at hfound
      cases hfound
      rw [hnone]
      rfl

/-! ## Where the inputs lie -/

/-- The path of an input, as the command resolves it. -/
def placeOf (settings : Settings) (input : String) : Path :=
  match settings.workingDirectory with
  | some dir => dir.join (.ofString input)
  | none => .ofString input

/-- The command resolves the inputs as a build does, as far as they are part of the compilation. -/
structure ResolvesAlike (settings : Settings) (given : Occurrences) : Prop where
  /-- If there is a directory that only an option gives, no input needs it. -/
  directory : settings.workingDirectory = none → given.lastArgument? .workingDirectory = none ∨
    ∀ input ∈ given.inputs, (FileType.ofInput (.ofString input)).isCompiled = true →
      (Path.ofString input).isAbsolute = true
  /-- An input in which nothing stands would be taken for the directory. -/
  entries : ∀ dir, settings.workingDirectory = some dir → (FileType.ofInput dir).isCompiled = false ∨
    ∀ input ∈ given.inputs, (Path.ofString input).isAbsolute = true ∨
      Path.entries (Path.ofString input).bytes ≠ []

theorem mem_currentInputs {file : TypedPath} :
    file ∈ currentInputs settings given ↔
      ∃ input ∈ given.inputs, file = .ofInput (placeOf settings input) ∧
        (FileType.ofInput (placeOf settings input)).isCompiled = true := by
  have hcurrent : currentInputs settings given =
      (given.inputs.map fun input => .ofInput (placeOf settings input)).filter
        fun input => input.type.isCompiled := by
    unfold currentInputs placeOf
    cases settings.workingDirectory <;> rfl
  simp only [hcurrent, List.mem_filter, List.mem_map]
  constructor
  · rintro ⟨⟨input, hinput, rfl⟩, hcompiled⟩
    exact ⟨input, hinput, rfl, hcompiled⟩
  · rintro ⟨input, hinput, rfl, hcompiled⟩
    exact ⟨⟨input, hinput, rfl⟩, hcompiled⟩

namespace ResolvesAlike

/-- An input is part of the compilation wherever it is resolved. -/
theorem isCompiled_placeOf (h : ResolvesAlike settings given) {input : String}
    (hinput : input ∈ given.inputs) :
    (FileType.ofInput (placeOf settings input)).isCompiled =
      (FileType.ofInput (.ofString input)).isCompiled := by
  rw [placeOf]
  split
  next dir hdir =>
    by_cases hkept : (Path.ofString input).isAbsolute = true ∨
        Path.entries (Path.ofString input).bytes ≠ []
    · rw [FileType.ofInput_congr (Path.fileName?_join_of_entries dir hkept)]
    · -- neither the input nor the directory that it is taken for is compiled
      obtain ⟨hrelative, hnothing⟩ := not_or.1 hkept
      have hdirectory := (h.entries dir hdir).resolve_right fun hnamed => hkept (hnamed input hinput)
      have hnone : (Path.ofString input).fileName? = none := by
        cases hname : (Path.ofString input).fileName? with
        | none => rfl
        | some name =>
          rw [Path.fileName?_eq_some, Decidable.not_not.1 hnothing] at hname
          cases hname
      rw [FileType.ofInput_congr (Path.fileName?_join_of_no_entries dir
        (Bool.eq_false_iff.2 hrelative) (Decidable.not_not.1 hnothing)), hdirectory,
        FileType.ofInput, Path.extension?, hnone]
      rfl
  next => rfl

theorem resolveIn_eq (h : ResolvesAlike settings given) {input : String} (hinput : input ∈ given.inputs)
    (hcompiled : (FileType.ofInput (.ofString input)).isCompiled = true) :
    (Path.ofString input).resolveIn Path.isAbsolute (settings.workingDirectory.or
      ((given.lastArgument? .workingDirectory).map Path.ofString)) = placeOf settings input := by
  rw [placeOf]
  split
  next dir hdir => rw [hdir, Option.some_or, Path.resolveIn_isAbsolute]
  next hnone =>
    rw [hnone, Option.none_or]
    rcases h.directory hnone with hoption | habsolute
    · rw [hoption]
      rfl
    · cases given.lastArgument? .workingDirectory with
      | none => rfl
      | some dir =>
        show (Path.ofString input).resolveIn Path.isAbsolute (some (.ofString dir)) = _
        rw [Path.resolveIn_isAbsolute, Path.join, if_pos (habsolute input hinput hcompiled)]

/-- A build resolves every spelling of a compiled input to the path that the command resolves it to. -/
theorem compare_resolveIn (h : ResolvesAlike settings given) {input : String}
    (hinput : input ∈ given.inputs) {key : TypedPath}
    (hspelled : compare key (.ofInput (.ofString input)) = .eq) (hcompiled : key.type.isCompiled = true) :
    compare (key.path.resolveIn Path.isAbsolute (settings.workingDirectory.or
      ((given.lastArgument? .workingDirectory).map Path.ofString))) (placeOf settings input) = .eq := by
  obtain ⟨hpath, htype⟩ := TypedPath.compare_eq_iff.1 hspelled
  rw [htype] at hcompiled
  rw [← h.resolveIn_eq hinput hcompiled]
  exact Path.resolveIn_congr _ hpath

end ResolvesAlike

/-! ## The build agrees -/

section Build

open Incremental

variable {setup : Setup} {run : Run} {storage : MemoryStorage}

/-- The inputs of a build, and those that the command looks at, are the same up to their spelling. -/
theorem exists_currentInputs_iff (halike : ResolvesAlike settings given)
    (hdir : setup.workingDirectory = settings.workingDirectory)
    (hdates : ∀ file, (∃ key ∈ setup.inputDates.keys, compare file key = .eq) ↔
      ∃ input ∈ given.inputs, compare file (.ofInput (.ofString input)) = .eq)
    (hstart : Run.start Path.isAbsolute setup given = .ok run) (path : Path) :
    (∃ other ∈ run.inputDates.keys, compare path other.path = .eq) ↔
      ∃ other ∈ currentInputs settings given, compare path other.path = .eq := by
  obtain ⟨-, -, -, -, -, hwhere, -, -, -, -, hinputs⟩ := Run.spec_of_start hstart
  rw [hdir] at hwhere
  constructor
  -- what the build has was spelled in some way among its dates, and the command resolves that input
  · rintro ⟨other, hother, hsame⟩
    rw [hinputs] at hother
    obtain ⟨key, hkey, rfl⟩ := OrderedMap.mem_keys_mapKeys hother
    obtain ⟨hin, hcompiled⟩ := OrderedMap.mem_keys_filterKeys.1 hkey
    obtain ⟨input, hinput, hspelled⟩ := (hdates key).1 ⟨key, hin, Std.ReflCmp.compare_self⟩
    have hplaced : (FileType.ofInput (placeOf settings input)).isCompiled = true := by
      rw [halike.isCompiled_placeOf hinput, ← hcompiled, (TypedPath.compare_eq_iff.1 hspelled).2]
      rfl
    refine ⟨_, mem_currentInputs.2 ⟨input, hinput, rfl, hplaced⟩, Std.TransCmp.eq_trans hsame ?_⟩
    have hresolved := halike.compare_resolveIn hinput hspelled hcompiled
    rwa [← hwhere] at hresolved
  -- what the command has is compiled under its own name, too, so the build did not leave it out
  · rintro ⟨other, hother, hsame⟩
    obtain ⟨input, hinput, rfl, hplaced⟩ := mem_currentInputs.1 hother
    obtain ⟨key, hkey, hspelled⟩ := (hdates (.ofInput (.ofString input))).2
      ⟨input, hinput, Std.ReflCmp.compare_self⟩
    have hcompiled : key.type.isCompiled = true := by
      rw [← (TypedPath.compare_eq_iff.1 hspelled).2]
      exact (halike.isCompiled_placeOf hinput).symm.trans hplaced
    have hkept : key ∈ (setup.inputDates.filterKeys fun input => input.type.isCompiled).keys :=
      OrderedMap.mem_keys_filterKeys.2 ⟨hkey, hcompiled⟩
    obtain ⟨other, hother, hfound⟩ := OrderedMap.exists_mem_keys_mapKeys
      (TypedPath.resolveIn Path.isAbsolute run.workingDirectory) hkept
    have hresolved := halike.compare_resolveIn hinput (Std.OrientedCmp.eq_symm hspelled) hcompiled
    rw [← hwhere] at hresolved
    rw [hinputs]
    refine ⟨other, hother, Std.TransCmp.eq_trans hsame ?_⟩
    exact Std.TransCmp.eq_trans (Std.OrientedCmp.eq_symm hresolved)
      (TypedPath.compare_eq_iff.1 hfound).1

/-- What the command says of a record is what a build with the same options does with it. -/
theorem exitCode_checkRecord (halike : ResolvesAlike settings given)
    (hsettings : settingsOf config read = .ok settings) (hfile : read path = .ok contents)
    (harguments : Occurrences.read arguments = .ok given)
    (hrooted : storage.rootsEverything = false)
    (hversion : setup.swiftVersion =
      (settings.override { swiftVersion := version }).effectiveSwiftVersion)
    (hdir : setup.workingDirectory = settings.workingDirectory)
    (hdates : ∀ file, (∃ key ∈ setup.inputDates.keys, compare file key = .eq) ↔
      ∃ input ∈ given.inputs, compare file (.ofInput (.ofString input)) = .eq)
    (hstart : Run.start (Storage.isRooted storage) setup given = .ok run)
    (hstored : Storage.read storage run.recordPath = .ok contents) :
    ((Invocation.mk config (.checkRecord path version arguments)).run read).exitCode = 0 ↔
      ∃ record, run.loadUsable storage = .ok record := by
  rw [Run.isRooted_eq_isAbsolute hrooted] at hstart
  have hload (record : BuildRecord) : run.load storage = .ok record ↔
      Run.recordOfBytes contents = .ok record := by
    simp only [Run.load_eq_ok, hstored, Except.ok.injEq, exists_eq_left']
  -- the version and the fingerprint are the same, and so are the inputs
  have hmismatch (record : BuildRecord) :
      mismatch? (settings.override { swiftVersion := version }) record given = none ↔
        run.mismatch? record = none := by
    obtain ⟨-, -, -, -, -, -, -, hrunVersion, hhash, -, -⟩ := Run.spec_of_start hstart
    have halike' : ResolvesAlike (settings.override { swiftVersion := version }) given :=
      ⟨halike.directory, halike.entries⟩
    rw [mismatch?, Run.mismatch?, Run.mismatch?_eq_none, Run.mismatch?_eq_none, hrunVersion, hversion,
      hhash]
    simp only [exists_currentInputs_iff halike' hdir hdates hstart]
  rw [exitCode_eq_zero hsettings hfile harguments]
  simp only [Run.loadUsable_eq_ok, hload, hmismatch]

/-! ## A directory that only an option gives -/

/-- The options of the library with a working directory and an input. -/
def directoryOptions (input : String) : Occurrences :=
  Run.libraryOptions ++ [.withArgument .workingDirectory "/work", .input input]

def directoryArguments (input : String) : List String :=
  ["-incremental", "-D", "A", "-emit-library", "-working-directory", "/work", input]

/-- The build of the library without a directory of its own. -/
def directorySetup (input : String) : Setup :=
  { Run.oneFile with
    workingDirectory := none
    inputDates := .ofList [(.ofInput (.ofString input), .epoch)] }

/-- The command that checks the record of the library. -/
def checkLibrary (input : String) : Invocation :=
  ⟨none, .checkRecord (.ofString "/work/main.swiftdeps") (some "Swift version 6.0")
    (directoryArguments input)⟩

theorem start_directory {input : String}
    (hdates : ((directorySetup input).inputDates.filterKeys fun input => input.type.isCompiled).mapKeys
      (fun input => input.resolveIn Path.isAbsolute (some (.ofString "/work"))) =
        .ofList [(.ofInput (.ofString "/work/main.swift"), .epoch)]) :
    Run.start (Storage.isRooted Run.librarySaved.storage) (directorySetup input)
      (directoryOptions input) = .ok (Run.oneFileRun (directoryOptions input)) := by
  have hcompiled : (directorySetup input).compiled ≠ some .swiftModule := by
    show some FileType.object ≠ some .swiftModule
    decide
  exact Run.start_eq_oneFileRun rfl Run.rootsEverything_librarySaved rfl rfl hcompiled rfl rfl hdates

theorem sameOptions_directory (input : String) :
    Fingerprint.SameOptions Run.libraryOptions (directoryOptions input) := by
  intro o ho
  have each : ∀ o ∈ DriverOption.all, Fingerprint.counts o = true →
      (DriverOption.workingDirectory == o || DriverOption.input == o) = false := by decide +kernel
  have hother := each o o.mem_all ho
  rw [Bool.or_eq_false_iff] at hother
  simp [directoryOptions, Occurrences.contains, Occurrence.withArgument, Occurrence.input, hother]

/-- A build with these options uses the record of the library. -/
theorem loadUsable_directory (input : String) :
    (Run.oneFileRun (directoryOptions input)).loadUsable Run.librarySaved.storage =
      .ok Run.libraryRecord :=
  Run.loadUsable_next (Run.start_oneFile rfl {} rfl) (by decide) Run.librarySaved_quiet rfl rfl
    Std.ReflCmp.compare_self (sameOptions_directory input)
    fun input hinput => ⟨input, hinput, Std.ReflCmp.compare_self⟩

theorem dates_directory (input : String) (file : TypedPath) :
    (∃ key ∈ (directorySetup input).inputDates.keys, compare file key = .eq) ↔
      ∃ other ∈ (directoryOptions input).inputs, compare file (.ofInput (.ofString other)) = .eq := by
  have hkeys : (directorySetup input).inputDates.keys = [.ofInput (.ofString input)] := rfl
  have hinputs : (directoryOptions input).inputs = [input] := rfl
  simp only [hkeys, hinputs, List.mem_singleton, exists_eq_left]

theorem exitCode_checkRecord_library :
    ((checkLibrary "/work/main.swift").run (Storage.read Run.librarySaved.storage)).exitCode = 0 := by
  have hload := loadUsable_directory "/work/main.swift"
  obtain ⟨contents, hread, -⟩ := Run.load_eq_ok.1 (Run.loadUsable_eq_ok.1 hload).1
  have halike : ResolvesAlike {} (directoryOptions "/work/main.swift") :=
    ⟨fun _ => .inr (by decide), fun _ h => by cases h⟩
  exact (exitCode_checkRecord halike rfl hread (by rfl) Run.rootsEverything_librarySaved rfl
    rfl (dates_directory _) (start_directory (by decide +kernel)) hread).2 ⟨_, hload⟩

/-- The command does not look for a working directory among the options. Where an option gives one that an input
needs, it rejects a record that a build with the same options uses. -/
theorem checkRecord_directory_of_option :
    Occurrences.read (directoryArguments "main.swift") = .ok (directoryOptions "main.swift") ∧
    (∃ run, Run.start (Storage.isRooted Run.librarySaved.storage) (directorySetup "main.swift")
        (directoryOptions "main.swift") = .ok run ∧
      run.recordPath = .ofString "/work/main.swiftdeps" ∧
      run.loadUsable Run.librarySaved.storage = .ok Run.libraryRecord) ∧
    ((checkLibrary "main.swift").run (Storage.read Run.librarySaved.storage)).exitCode ≠ 0 := by
  have harguments : Occurrences.read (directoryArguments "main.swift") =
      .ok (directoryOptions "main.swift") := by rfl
  have hload := loadUsable_directory "main.swift"
  obtain ⟨contents, hread, hrecord⟩ := Run.load_eq_ok.1 (Run.loadUsable_eq_ok.1 hload).1
  refine ⟨harguments, ⟨_, start_directory (by decide +kernel), rfl, hload⟩, fun hzero => ?_⟩
  obtain ⟨record, hfound, hfits⟩ := (exitCode_eq_zero rfl hread harguments).1 hzero
  rw [hrecord] at hfound
  cases hfound
  obtain ⟨-, -, hinputs⟩ := Run.mismatch?_eq_none.1 hfits
  -- the record has the input in the directory, and the command has it without one
  have hcurrent : currentInputs (({} : Settings).override { swiftVersion := some "Swift version 6.0" })
      (directoryOptions "main.swift") = [.ofInput (.ofString "main.swift")] := by decide +kernel
  obtain ⟨other, hother, hsame⟩ := hinputs (.ofInput (.ofString "/work/main.swift")) (by decide +kernel)
  rw [hcurrent, List.mem_singleton] at hother
  rw [hother] at hsame
  exact absurd hsame (by decide +kernel)

end Build

end CommandLine

end CompilerDriver
