import CompilerDriver.Proofs.BuildRecord.Writable
import CompilerDriver.Proofs.Incremental.Resolution
import CompilerDriver.Settings.Reader

/-!
# Runs whose record is refused

A record with a relative path in it is not written, and the user is told so. Where absolute paths are those that
begin with the separator, that happens exactly if a relative path was handed to the run and there was no absolute
directory to resolve it against (`finalize_reports_relative`). That inputs are resolved twice makes no difference
here: the second time makes none of them absolute that was not so before.
-/

namespace CompilerDriver

/-! ## Absolute directories -/

theorem Path.isAbsolute_resolveIn_eq_false {dir : Option Path} {p : Path} :
    (p.resolveIn Path.isAbsolute dir).isAbsolute = false ↔
      p.isAbsolute = false ∧ ∀ d, dir = some d → d.isAbsolute = false := by
  cases dir with
  | none => simp [resolveIn]
  | some dir =>
    simp only [Option.some.injEq, forall_eq']
    cases hp : p.isAbsolute with
    | true => simp [resolveIn_of_settled, hp]
    | false =>
      rw [resolveIn_of_not_isRooted hp, and_iff_right rfl, ← Bool.not_eq_true, ← Bool.not_eq_true,
        isAbsolute_join_iff dir hp]

namespace TypedPath

variable {dir : Option Path}

theorem isAbsolute_resolveIn_eq_false {file : TypedPath} :
    (file.resolveIn Path.isAbsolute dir).path.isAbsolute = false ↔
      (∀ d, dir = some d → d.isAbsolute = false) ∧ file.path.isAbsolute = false :=
  Path.isAbsolute_resolveIn_eq_false.trans and_comm

/-- Some resolved file is relative exactly if one was so before and there is no absolute directory. -/
theorem exists_relative_resolved_iff {files : List TypedPath} :
    (∃ file ∈ files, (file.resolveIn Path.isAbsolute dir).path.isAbsolute = false) ↔
      (∀ d, dir = some d → d.isAbsolute = false) ∧ ∃ file ∈ files, file.path.isAbsolute = false := by
  rw [← exists_and_left]
  exact exists_congr fun file => by rw [isAbsolute_resolveIn_eq_false, and_left_comm]

theorem exists_relative_mapKeys_iff {ν : Type} {m : OrderedMap TypedPath ν} :
    (∃ file ∈ (m.mapKeys (resolveIn Path.isAbsolute dir)).keys, file.path.isAbsolute = false) ↔
      (∀ d, dir = some d → d.isAbsolute = false) ∧ ∃ file ∈ m.keys, file.path.isAbsolute = false := by
  have hspelling (a b : TypedPath) (h : compare a b = .eq) :
      a.path.isAbsolute = false ↔ b.path.isAbsolute = false := by
    rw [Path.isAbsolute_congr (compare_eq_iff.1 h).1]
  rw [OrderedMap.exists_mem_keys_mapKeys_iff hspelling, exists_relative_resolved_iff]

end TypedPath

/-- Settings that pass their check have no relative directory. -/
theorem Settings.isAbsolute_of_check {settings checked : Settings} (h : settings.check = .ok checked) {dir : Path}
    (hdir : settings.workingDirectory = some dir) : dir.isAbsolute = true := by
  have hfault : settings.fault? = none := by
    rw [check] at h
    split at h
    next hnone => exact hnone
    next => cases h
  -- only a blank version is found before
  rw [fault?, hdir] at hfault
  split at hfault
  next => cases hfault
  next =>
    cases habsolute : dir.isAbsolute with
    | true => rfl
    | false =>
      rw [Option.filter_some, habsolute] at hfault
      cases hfault

/-! ## The warning about a relative path -/

namespace Diagnostic

theorem warning_append_ne {front front' : String}
    (h : ¬(front.toList <+: front'.toList ∨ front'.toList <+: front.toList)) (more more' : String) :
    warning (front ++ more) ≠ warning (front' ++ more') := by
  intro hsame
  have htexts : front.toList ++ more.toList = front'.toList ++ more'.toList := by
    rw [← String.toList_append, ← String.toList_append]
    exact congrArg (·.message.toList) hsame
  have hfront := List.prefix_append front.toList more.toList
  rw [htexts] at hfront
  exact h (List.prefix_or_prefix_of_prefix hfront (List.prefix_append _ _))

theorem recordNotSerialized_ne (path : Path) (reason : String) :
    recordNotSerialized reason ≠ recordPathNotAbsolute path := by
  have hdiffer : ¬("next compile won't be incremental; could not serialize build record: ".toList <+:
      "next compile won't be incremental; could not write build record: ".toList ∨
        "next compile won't be incremental; could not write build record: ".toList <+:
          "next compile won't be incremental; could not serialize build record: ".toList) := by
    decide +kernel
  exact warning_append_ne hdiffer _ _

theorem recordNotWritten_ne (path place : Path) (reason : String) :
    recordNotWritten place reason ≠ recordPathNotAbsolute path := by
  have hdiffer : ¬("next compile won't be incremental; could not write build record to ".toList <+:
      "next compile won't be incremental; could not write build record: ".toList ∨
        "next compile won't be incremental; could not write build record: ".toList <+:
          "next compile won't be incremental; could not write build record to ".toList) := by
    decide +kernel
  exact warning_append_ne hdiffer _ _

end Diagnostic

theorem Job.mem_flatMap_files {jobs : List Job} {file : TypedPath} : file ∈ jobs.flatMap Job.files ↔
    ∃ job ∈ jobs, file ∈ job.inputs ∨ file ∈ job.primaryInputs ∨ file ∈ job.outputs := by
  simp only [List.mem_flatMap, files, List.mem_append, or_assoc]

namespace BuildRecord

variable {record : BuildRecord}

theorem exists_notAbsolute_iff : (∃ path, record.encode = .error (.notAbsolute path)) ↔
    ∃ path, record.Mentions path ∧ path.isAbsolute = false := by
  simp only [encode_eq_notAbsolute, ← Option.isSome_iff_exists, List.find?_isSome, mem_paths,
    Bool.not_eq_true']

theorem exists_mentions_iff {P : Path → Prop} : (∃ path, record.Mentions path ∧ P path) ↔
    (∃ file ∈ record.inputDates.keys, P file.path) ∨ (∃ file ∈ record.skippedFiles, P file.path) ∨
      ∃ file ∈ record.jobs.flatMap Job.files, P file.path := by
  have hjobs : record.jobs.flatMap Job.paths = (record.jobs.flatMap Job.files).map (·.path) :=
    List.map_flatMap.symm
  simp only [← mem_paths, paths_eq, hjobs, List.mem_append, List.mem_map, or_and_right, exists_or,
    exists_exists_and_eq_and, or_assoc]

end BuildRecord

namespace Incremental.Run

/-- The file is handed to the run: as an input that is compiled, as a skipped input, or with a job. -/
inductive Handed (setup : Setup) (jobs : List Job) (skipped : Option (OrderedSet TypedPath)) : TypedPath → Prop
  | input {file : TypedPath} (h : file ∈ setup.inputDates.keys) (hcompiled : file.type.isCompiled = true) :
    Handed setup jobs skipped file
  | skipped {file : TypedPath} {files : OrderedSet TypedPath} (hskipped : skipped = some files)
    (h : file ∈ files.toList) : Handed setup jobs skipped file
  | jobInput {job : Job} {file : TypedPath} (hjob : job ∈ jobs) (h : file ∈ job.inputs) :
    Handed setup jobs skipped file
  | jobPrimaryInput {job : Job} {file : TypedPath} (hjob : job ∈ jobs) (h : file ∈ job.primaryInputs) :
    Handed setup jobs skipped file
  | jobOutput {job : Job} {file : TypedPath} (hjob : job ∈ jobs) (h : file ∈ job.outputs) :
    Handed setup jobs skipped file

variable {setup : Setup} {jobs : List Job} {skipped : Option (OrderedSet TypedPath)}

theorem exists_handed_iff {P : Path → Prop} : (∃ file, Handed setup jobs skipped file ∧ P file.path) ↔
    (∃ file ∈ (setup.inputDates.filterKeys fun input => input.type.isCompiled).keys, P file.path) ∨
      (∃ files, skipped = some files ∧ ∃ file ∈ files.toList, P file.path) ∨
      ∃ file ∈ jobs.flatMap Job.files, P file.path := by
  simp only [OrderedMap.mem_keys_filterKeys]
  constructor
  · rintro ⟨file, hhanded, hP⟩
    cases hhanded with
    | input h hcompiled => exact .inl ⟨_, ⟨h, hcompiled⟩, hP⟩
    | skipped hskipped h => exact .inr (.inl ⟨_, hskipped, _, h, hP⟩)
    | jobInput hjob h => exact .inr (.inr ⟨_, Job.mem_flatMap_files.2 ⟨_, hjob, .inl h⟩, hP⟩)
    | jobPrimaryInput hjob h =>
      exact .inr (.inr ⟨_, Job.mem_flatMap_files.2 ⟨_, hjob, .inr (.inl h)⟩, hP⟩)
    | jobOutput hjob h => exact .inr (.inr ⟨_, Job.mem_flatMap_files.2 ⟨_, hjob, .inr (.inr h)⟩, hP⟩)
  · rintro (⟨file, ⟨h, hcompiled⟩, hP⟩ | ⟨files, hskipped, file, h, hP⟩ | ⟨file, h, hP⟩)
    · exact ⟨_, .input h hcompiled, hP⟩
    · exact ⟨_, .skipped hskipped h, hP⟩
    · obtain ⟨job, hjob, h | h | h⟩ := Job.mem_flatMap_files.1 h
      · exact ⟨_, .jobInput hjob h, hP⟩
      · exact ⟨_, .jobPrimaryInput hjob h, hP⟩
      · exact ⟨_, .jobOutput hjob h, hP⟩

/-- The record mentions a relative path exactly if one was handed to the run and no absolute directory is there
to resolve it against. -/
theorem exists_relative_record_iff {given : Occurrences} {run : Run}
    (hstart : start Path.isAbsolute setup given = .ok run) (results : OrderedMap JobId JobResult) :
    (∃ path, (run.record Path.isAbsolute results jobs skipped).Mentions path ∧ path.isAbsolute = false) ↔
      (∀ dir, run.workingDirectory = some dir → dir.isAbsolute = false) ∧
        ∃ file, Handed setup jobs skipped file ∧ file.path.isAbsolute = false := by
  obtain ⟨-, -, -, -, -, -, -, -, -, -, hdates⟩ := spec_of_start hstart
  rw [BuildRecord.exists_mentions_iff (P := fun path => path.isAbsolute = false),
    exists_handed_iff (P := fun path => path.isAbsolute = false), and_or_left, and_or_left]
  refine or_congr ?inputs (or_congr ?skipped ?jobs)
  case inputs =>
    -- what the second time asks for is what the first time asked for
    rw [inputDates_record_eq, hdates, TypedPath.exists_relative_mapKeys_iff,
      TypedPath.exists_relative_mapKeys_iff, and_self_left]
  case skipped =>
    rw [BuildRecord.skippedFiles, record]
    cases skipped with
    | none => simp
    | some files =>
      simp only [Option.some.injEq, exists_eq_left']
      exact TypedPath.exists_relative_mapKeys_iff
  case jobs =>
    have hfiles : (run.record Path.isAbsolute results jobs skipped).jobs.flatMap Job.files =
        (jobs.flatMap Job.files).map (TypedPath.resolveIn Path.isAbsolute run.workingDirectory) := by
      simp only [record, List.flatMap_map, List.map_flatMap, Job.files_mapFiles]
    simp only [hfiles, List.mem_map, exists_exists_and_eq_and]
    exact TypedPath.exists_relative_resolved_iff

/-- A run tells its user that a path is not absolute exactly if its record mentions a relative one. -/
theorem exists_warning_iff {σ : Type} [Storage σ] {run : Run} {storage : σ} {now : Instant}
    {record : BuildRecord} :
    (∃ path, (run.save storage now record).diagnostic? = some (.recordPathNotAbsolute path)) ↔
      ∃ path, record.Mentions path ∧ path.isAbsolute = false := by
  rw [← BuildRecord.exists_notAbsolute_iff, save]
  cases record.encode with
  | ok text =>
    constructor
    · rintro ⟨path, h⟩
      obtain ⟨e, -, he⟩ := Option.map_eq_some_iff.1 h
      exact absurd he (Diagnostic.recordNotWritten_ne path _ _)
    · rintro ⟨path, h⟩
      cases h
  | error e =>
    cases e with
    | notAbsolute path => exact iff_of_true ⟨path, rfl⟩ ⟨path, rfl⟩
    | notText =>
      constructor
      · rintro ⟨path, h⟩
        exact absurd (Option.some.inj h) (Diagnostic.recordNotSerialized_ne path _)
      · rintro ⟨path, h⟩
        cases h

/-- The end of a run reports a path that is not absolute exactly if the run has no absolute directory and a
relative path was handed to it. Where the directory comes from settings that pass their check, all paths of the
record are absolute. -/
theorem finalize_reports_relative {σ : Type} [Storage σ] {storage : σ}
    (hdefault : ∀ path : Path, Storage.isRooted storage path = path.isAbsolute) {setup : Setup}
    {given : Occurrences} {run : Run} (hstart : start Path.isAbsolute setup given = .ok run) {ledger : Ledger}
    (hopen : ledger.isClosed = false) (now : Instant) (jobs : List Job)
    (skipped : Option (OrderedSet TypedPath)) :
    (∃ closed saved, run.finalize ledger storage now jobs skipped = .ok (closed, saved) ∧
      ((∃ path, saved.diagnostic? = some (.recordPathNotAbsolute path)) ↔
        (∀ dir, run.workingDirectory = some dir → dir.isAbsolute = false) ∧
          ∃ file, Handed setup jobs skipped file ∧ file.path.isAbsolute = false)) ∧
    ∀ settings : Settings, settings.check = .ok settings →
      ∀ dir, settings.workingDirectory = some dir → setup.workingDirectory = some dir →
        ∀ results path, (run.record (Storage.isRooted storage) results jobs skipped).Mentions path →
          path.isAbsolute = true := by
  have hrooted : Storage.isRooted storage = Path.isAbsolute := funext hdefault
  rw [hrooted]
  refine ⟨?_, ?_⟩
  · have hfinal : run.finalize ledger storage now jobs skipped = .ok ({ ledger with isClosed := true },
        run.save storage now (run.record Path.isAbsolute ledger.results jobs skipped)) := by
      rw [finalize, Ledger.close, hopen, hrooted]
      rfl
    exact ⟨_, _, hfinal, exists_warning_iff.trans (exists_relative_record_iff hstart ledger.results)⟩
  · intro settings hsettings dir hdir hsetup results path hpath
    obtain ⟨-, -, -, -, -, hrun, -⟩ := spec_of_start hstart
    rw [hsetup, Option.some_or] at hrun
    have habsolute := Settings.isAbsolute_of_check hsettings hdir
    by_contra hrelative
    obtain ⟨hnone, -⟩ := (exists_relative_record_iff hstart results).1
      ⟨path, hpath, Bool.eq_false_iff.2 hrelative⟩
    rw [hnone dir hrun] at habsolute
    cases habsolute

/-- A build in a directory that an option gives as a relative one is told so when it ends. In the directory of
some settings all paths are absolute. -/
theorem finalize_reports_relative_oneFile :
    (∃ run, start Path.isAbsolute directionless (optionsIn "sub") = .ok run ∧ ∃ closed saved,
      run.finalize {} ({} : MemoryStorage) .epoch [oneFileJob] none = .ok (closed, saved) ∧
        ∃ path, saved.diagnostic? = some (.recordPathNotAbsolute path)) ∧
    ∀ path, libraryRecord.Mentions path → path.isAbsolute = true := by
  have hdefault : (Storage.isRooted ({} : MemoryStorage) : Path → Bool) = Path.isAbsolute :=
    isRooted_eq_isAbsolute rfl
  have hopen : ({} : Ledger).isClosed = false := rfl
  constructor
  · obtain ⟨run, hstart, hdir, -⟩ := start_optionsIn "sub"
    obtain ⟨closed, saved, hfinal, hwarned⟩ := (finalize_reports_relative (congrFun hdefault) hstart
      hopen .epoch [oneFileJob] none).1
    refine ⟨run, hstart, closed, saved, hfinal, hwarned.2 ⟨?_, ?_⟩⟩
    · intro dir h
      rw [hdir] at h
      cases h
      decide +kernel
    · exact ⟨.ofInput (.ofString "main.swift"), .jobInput (List.mem_singleton_self _)
        (List.mem_singleton_self _), by decide +kernel⟩
  · have hstart : start Path.isAbsolute oneFile libraryOptions = .ok (oneFileRun libraryOptions) :=
      hdefault ▸ start_oneFile rfl {} rfl
    have hsettings : ({ workingDirectory := some (.ofString "/work") } : Settings).check =
        .ok { workingDirectory := some (.ofString "/work") } := by
      decide +kernel
    exact fun path hpath => (finalize_reports_relative (congrFun hdefault) hstart hopen .epoch
      [oneFileJob] none).2 _ hsettings _ rfl rfl oneFileLedger.results path hpath

end Incremental.Run

end CompilerDriver
