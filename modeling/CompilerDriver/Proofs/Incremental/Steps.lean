import CompilerDriver.Incremental.Load
import CompilerDriver.Incremental.Save
import CompilerDriver.Proofs.BuildRecord.RoundTrip
import CompilerDriver.Proofs.Storage.Lawful

/-!
# The steps of a run

One statement for each step of a run, which says all that the step can have done: `spec_of_start` for the
beginning, `spec_of_finalize` and `spec_of_save` for the end, `readPrior_put` and `mismatch?_eq_none` for the
record of the last build. What is shown of whole runs rests on these.
-/

namespace CompilerDriver

theorem mapError_eq_ok {ε ε' α : Type} {f : ε → ε'} {x : Except ε α} {a : α} :
    x.mapError f = .ok a ↔ x = .ok a := by
  cases x with
  | error e => constructor <;> (intro h; cases h)
  | ok b =>
    show Except.ok b = Except.ok a ↔ Except.ok b = Except.ok a
    rw [Except.ok.injEq, Except.ok.injEq]

namespace Incremental.Run

/-! ## The beginning -/

/-- A run starts only if it is asked for and the output file map has a place for its record. -/
theorem spec_of_start {isRooted : Path → Bool} {setup : Setup} {given : Occurrences} {run : Run}
    (h : start isRooted setup given = .ok run) :
    given.contains .incremental = true ∧
    ∃ map declared, setup.outputFileMap = some map ∧
      map.moduleOutput? .swiftDependencies = some declared ∧
      run.workingDirectory = setup.workingDirectory.or
        ((given.lastArgument? .workingDirectory).map Path.ofString) ∧
      run.recordPath = (recordPathFor declared setup.compiled).resolveIn isRooted
        run.workingDirectory ∧
      run.swiftVersion = setup.swiftVersion ∧ run.argsHash = fingerprint given ∧
      run.timeBeforeFirstJob = setup.timeBeforeFirstJob ∧
      run.inputDates = (setup.inputDates.filterKeys fun input => input.type.isCompiled).mapKeys
        fun input => input.resolveIn isRooted run.workingDirectory := by
  rw [start] at h
  split at h
  next hasked =>
    refine ⟨hasked, ?_⟩
    split at h
    next => cases h
    next map hmap =>
      split at h
      next => cases h
      next declared hdeclared =>
        obtain rfl := Except.ok.inj h
        exact ⟨map, declared, hmap, hdeclared, rfl, rfl, rfl, rfl, rfl, rfl⟩
  next => cases h

/-- A run starts wherever its options ask for it and the output file map says where its record is kept. -/
theorem exists_start (isRooted : Path → Bool) {setup : Setup} {given : Occurrences} {declared : Path}
    (hasked : given.contains .incremental = true)
    (hdeclared : (setup.outputFileMap.bind fun map => map.moduleOutput? .swiftDependencies) = some declared) :
    ∃ run, start isRooted setup given = .ok run := by
  obtain ⟨map, hmap, hentry⟩ := Option.bind_eq_some_iff.1 hdeclared
  rw [start, if_pos hasked]
  simp only [hmap, hentry]
  exact ⟨_, rfl⟩

/-- A run that started has a place for its record. -/
theorem exists_entry_of_start {isRooted : Path → Bool} {setup : Setup} {given : Occurrences} {run : Run}
    (h : start isRooted setup given = .ok run) : ∃ declared,
    (setup.outputFileMap.bind fun map => map.moduleOutput? .swiftDependencies) = some declared := by
  obtain ⟨-, map, declared, hmap, hentry, -⟩ := spec_of_start h
  exact ⟨declared, Option.bind_eq_some_iff.2 ⟨map, hmap, hentry⟩⟩

theorem recordPath_of_start {isRooted : Path → Bool} {setup : Setup} {given : Occurrences} {run : Run}
    (h : start isRooted setup given = .ok run) {declared : Path}
    (hdeclared : (setup.outputFileMap.bind fun map => map.moduleOutput? .swiftDependencies) = some declared) :
    run.recordPath = (recordPathFor declared setup.compiled).resolveIn isRooted run.workingDirectory := by
  obtain ⟨-, map, entry, hmap, hentry, -, hrecord, -⟩ := spec_of_start h
  rw [hmap, Option.bind_some, hentry, Option.some.injEq] at hdeclared
  rw [hrecord, hdeclared]

theorem argsHash_of_start {isRooted : Path → Bool} {setup : Setup} {given : Occurrences} {run : Run}
    (h : start isRooted setup given = .ok run) : run.argsHash = fingerprint given := by
  obtain ⟨-, -, -, -, -, -, -, -, hhash, -, -⟩ := spec_of_start h
  exact hhash

theorem resolved_of_start {isRooted : Path → Bool} {setup : Setup} {given : Occurrences} {run : Run}
    (h : start isRooted setup given = .ok run) {input : TypedPath} (hin : input ∈ run.inputDates.keys) :
    ∃ file : TypedPath, file.resolveIn isRooted run.workingDirectory = input := by
  obtain ⟨-, -, -, -, -, -, -, -, -, -, hdates⟩ := spec_of_start h
  rw [hdates] at hin
  obtain ⟨file, -, hfile⟩ := OrderedMap.mem_keys_mapKeys hin
  exact ⟨file, hfile⟩

/-! ## The end -/

/-- A run ends once: its ledger is closed and the record is saved with all that was entered before. -/
theorem spec_of_finalize {σ : Type} [Storage σ] {run : Run} {ledger closed : Ledger} {storage : σ}
    {now : Instant} {jobs : List Job} {skipped : Option (OrderedSet TypedPath)} {saved : Saved σ}
    (h : run.finalize ledger storage now jobs skipped = .ok (closed, saved)) :
    ledger.isClosed = false ∧ closed = { ledger with isClosed := true } ∧
      saved = run.save storage now
        (run.record (Storage.isRooted storage) ledger.results jobs skipped) := by
  rw [finalize, Ledger.close] at h
  split at h
  next => cases h
  next hopen =>
    obtain ⟨rfl, rfl⟩ := Prod.mk.inj (Except.ok.inj h)
    exact ⟨Bool.eq_false_iff.2 hopen, rfl, rfl⟩

/-- A file in memory is written as a whole or not at all. -/
theorem spec_of_write (run : Run) (storage : MemoryStorage) (now : Instant) (contents : Bytes) :
    (storage.deniesWrites = true ∧ (run.write storage now contents).left = storage ∧
      (run.write storage now contents).failure ≠ none) ∨
    (storage.deniesWrites = false ∧
      run.write storage now contents = ⟨storage.put run.recordPath contents now, none⟩) := by
  have hmade : ∀ attempt : Attempt MemoryStorage,
      attempt = ⟨storage, none⟩ ∨ attempt = storage.createDirectories →
      (storage.deniesWrites = true ∧
        (attempt.andThen fun s => Storage.writeAtomic s now run.recordPath contents).left = storage ∧
        (attempt.andThen fun s => Storage.writeAtomic s now run.recordPath contents).failure ≠ none) ∨
      (storage.deniesWrites = false ∧
        (attempt.andThen fun s => Storage.writeAtomic s now run.recordPath contents) =
          ⟨storage.put run.recordPath contents now, none⟩) := by
    rintro attempt (rfl | rfl) <;> cases hdenies : storage.deniesWrites <;>
      simp [Attempt.andThen, Storage.writeAtomic, MemoryStorage.writeAtomic,
        MemoryStorage.createDirectories, hdenies]
  rw [write]
  apply hmade
  split
  next =>
    split
    · exact .inl rfl
    · exact .inr rfl
  next => exact .inl rfl

/-- A record that is saved without complaint is written, and its text is all that changes. -/
theorem spec_of_save {run : Run} {storage : MemoryStorage} {now : Instant} {record : BuildRecord}
    (h : (run.save storage now record).diagnostic? = none) :
    ∃ text, record.encode = .ok text ∧
      (run.save storage now record).storage =
        storage.put run.recordPath (Utf8.encode text.toList) now := by
  rw [save] at h ⊢
  split at h
  next => cases h
  next => cases h
  next text htext =>
    refine ⟨text, htext, ?_⟩
    rcases run.spec_of_write storage now (Utf8.encode text.toList) with ⟨-, -, hfailed⟩ | ⟨-, hwritten⟩
    · exact absurd (Option.map_eq_none_iff.1 h) hfailed
    · show (run.write storage now (Utf8.encode text.toList)).left = _
      rw [hwritten]

section Lawful

variable {σ : Type} [Storage σ]

/-- What is written without a failure is read as it was written. -/
theorem read_write [LawfulStorage σ] {run : Run} {storage : σ} {now : Instant} {contents : Bytes}
    (h : (run.write storage now contents).failure = none) :
    Storage.read (run.write storage now contents).left run.recordPath = .ok contents := by
  rw [write] at h ⊢
  have hlast := Attempt.andThen_of_failure h
  rw [hlast] at h ⊢
  exact LawfulStorage.read_written h

/-- A record that is saved without complaint is read as its text. -/
theorem read_save [LawfulStorage σ] {run : Run} {storage : σ} {now : Instant} {record : BuildRecord}
    (h : (run.save storage now record).diagnostic? = none) : ∃ text, record.encode = .ok text ∧
      Storage.read (run.save storage now record).storage run.recordPath = .ok (Utf8.encode text.toList) := by
  rw [save] at h ⊢
  split at h
  next => cases h
  next => cases h
  next text htext => exact ⟨text, htext, read_write (Option.map_eq_none_iff.1 h)⟩

theorem isRooted_write [LawfulPaths σ] (run : Run) (storage : σ) (now : Instant) (contents : Bytes) :
    Storage.isRooted (run.write storage now contents).left = Storage.isRooted storage := by
  have hwritten (attempt : Attempt σ) (h : Storage.isRooted attempt.left = Storage.isRooted storage) :
      Storage.isRooted (attempt.andThen fun s => Storage.writeAtomic s now run.recordPath contents).left =
        Storage.isRooted storage := by
    rw [Attempt.andThen]
    split
    next => exact (LawfulPaths.isRooted_writeAtomic ..).trans h
    next => exact h
  rw [write]
  apply hwritten
  split
  next =>
    split
    next => rfl
    next => exact LawfulPaths.isRooted_createDirectories ..
  next => rfl

/-- Which paths are rooted does not change when a record is saved. -/
theorem isRooted_save [LawfulPaths σ] (run : Run) (storage : σ) (now : Instant) (record : BuildRecord) :
    Storage.isRooted (run.save storage now record).storage = Storage.isRooted storage := by
  rw [save]
  split
  next => rfl
  next => rfl
  next => exact isRooted_write ..

end Lawful

/-! ## The record of the last build -/

/-- A text stands for itself in a file. -/
theorem recordOfBytes_encode (text : String) :
    recordOfBytes (Utf8.encode text.toList) = (BuildRecord.decode text).mapError .notDecoded := by
  rw [recordOfBytes, Utf8.decode_encode]
  simp only [String.ofList_toList]

/-- What was written to the place of the record is read from there, however the place is spelled. -/
theorem readPrior_put {run : Run} {path : Path} (h : compare run.recordPath path = .eq)
    (storage : MemoryStorage) (text : String) (time : Instant) :
    run.readPrior (storage.put path (Utf8.encode text.toList) time) =
      (BuildRecord.decode text).mapError .notDecoded := by
  rw [readPrior, MemoryStorage.read_put, if_pos h]
  exact recordOfBytes_encode text

/-- What is loaded is what the file at the place of the record holds. -/
theorem load_eq_ok {σ : Type} [Storage σ] {run : Run} {storage : σ} {record : BuildRecord} :
    run.load storage = .ok record ↔
      ∃ contents, Storage.read storage run.recordPath = .ok contents ∧
        recordOfBytes contents = .ok record := by
  rw [load, mapError_eq_ok, readPrior]
  cases Storage.read storage run.recordPath with
  | error e =>
    constructor
    · intro h
      cases h
    · rintro ⟨contents, h, -⟩
      cases h
  | ok contents =>
    constructor
    · intro h
      exact ⟨contents, rfl, h⟩
    · rintro ⟨_, h, hfound⟩
      cases h
      exact hfound

/-- What a run loads from the place at which another one saved its record is that record, however the place is
spelled. -/
theorem readBack_of_load {σ : Type} [Storage σ] [LawfulStorage σ] [LawfulPaths σ] {run next : Run} {storage : σ}
    {now : Instant} {record found : BuildRecord} (hquiet : (run.save storage now record).diagnostic? = none)
    (hpath : compare next.recordPath run.recordPath = .eq)
    (hload : next.load (run.save storage now record).storage = .ok found) : record.readBack = .ok found := by
  obtain ⟨text, hencode, hread⟩ := read_save hquiet
  obtain ⟨contents, hcontents, hfound⟩ := load_eq_ok.1 hload
  obtain rfl := LawfulPaths.read_congr _ hpath hcontents hread
  rw [recordOfBytes_encode, mapError_eq_ok, BuildRecord.decode_of_encode hencode] at hfound
  exact hfound

/-- A run starts from the record that it can load and has no objection to. -/
theorem loadUsable_eq_ok {σ : Type} [Storage σ] {run : Run} {storage : σ} {record : BuildRecord} :
    run.loadUsable storage = .ok record ↔
      run.load storage = .ok record ∧ run.mismatch? record = none := by
  rw [loadUsable]
  cases run.load storage with
  | error e =>
    constructor
    · intro h
      cases h
    · rintro ⟨h, -⟩
      cases h
  | ok found =>
    simp only [bind, Except.bind]
    split
    next hfits =>
      constructor
      · intro h
        cases h
        exact ⟨rfl, hfits⟩
      · intro h
        exact h.1
    next mismatch hmismatch =>
      constructor
      · intro h
        cases h
      · rintro ⟨h, hfits⟩
        cases h
        rw [hmismatch] at hfits
        cases hfits

/-- A record can be used exactly by builds with its compiler, its fingerprint, and all of its inputs. -/
theorem mismatch?_eq_none {record : BuildRecord} {swiftVersion argsHash : String}
    {current : List TypedPath} :
    record.mismatch? swiftVersion argsHash current = none ↔
      record.swiftVersion = swiftVersion ∧ record.argsHash = argsHash ∧
        ∀ input ∈ record.inputDates.keys, ∃ other ∈ current, compare input.path other.path = .eq := by
  rw [BuildRecord.mismatch?]
  split
  next h => simp [h]
  next hversion =>
    split
    next h => simp [h]
    next hhash =>
      have hmissing : record.missingPaths (current.map (·.path)) = [] ↔
          ∀ input ∈ record.inputDates.keys, ∃ other ∈ current,
            compare input.path other.path = .eq := by
        simp [BuildRecord.missingPaths]
      simp only [Decidable.not_not.1 hversion, Decidable.not_not.1 hhash, true_and, ← hmissing]
      cases record.missingPaths (current.map (·.path)) <;> simp

end Incremental.Run

end CompilerDriver
