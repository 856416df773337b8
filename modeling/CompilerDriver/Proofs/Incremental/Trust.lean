import CompilerDriver.Proofs.Incremental.Steps
import CompilerDriver.Proofs.Path.Components

/-!
# Which records are trusted

A run starts from the record of the last build only if the file is text, the text is a record, the record is one
of the same compiler and the same options, and every input that it speaks of is still there (`Trusts`). The user
is told of the first of these that fails (`Refuses`). Inputs are compared by the components of their paths,
whatever type they were given, and the ones that are gone are listed as the record has them (`Missing`).

New inputs do no harm: a run with more inputs trusts what it trusted before, and misses no more than before
(`loadUsable_spec`).
-/

namespace CompilerDriver

/-- One of the files is at the path, however the path is spelled and whatever the file's type. -/
def Path.IsAmong (path : Path) (files : List TypedPath) : Prop :=
  ∃ file ∈ files, path.components = file.path.components

namespace BuildRecord

/-- The paths are those of the recorded files that are not among the current ones, in the order of the record. -/
inductive Missing (current : List TypedPath) : List TypedPath → List Path → Prop
  | nil : Missing current [] []
  | present {file files paths} (h : file.path.IsAmong current) (hrest : Missing current files paths) :
    Missing current (file :: files) paths
  | missing {file files paths} (h : ¬file.path.IsAmong current) (hrest : Missing current files paths) :
    Missing current (file :: files) (file.path :: paths)

end BuildRecord

namespace Incremental.Run

/-- What a run has against a record. Of several things it is the first. -/
inductive Objects (run : Run) (record : BuildRecord) : Mismatch → Prop
  | compilerVersion (h : record.swiftVersion ≠ run.swiftVersion) :
    Objects run record (.compilerVersion record.swiftVersion run.swiftVersion)
  | arguments (hversion : record.swiftVersion = run.swiftVersion) (h : record.argsHash ≠ run.argsHash) :
    Objects run record .arguments
  | missingInputs {paths : List Path} (hversion : record.swiftVersion = run.swiftVersion)
    (hhash : record.argsHash = run.argsHash)
    (hmissing : BuildRecord.Missing run.inputDates.keys record.inputDates.keys paths) (h : paths ≠ []) :
    Objects run record (.missingInputs paths)

variable {σ : Type} [Storage σ]

/-- The file at the place of the record is the text of a record of the same compiler, the same options, and no
inputs but those of the run. -/
structure Trusts (run : Run) (storage : σ) (record : BuildRecord) : Prop where
  decodes : ∃ text : String, Storage.read storage run.recordPath = .ok (Utf8.encode text.toList) ∧
    BuildRecord.decode text = .ok record
  swiftVersion : record.swiftVersion = run.swiftVersion
  argsHash : record.argsHash = run.argsHash
  inputs : ∀ input ∈ record.inputDates.keys, input.path.IsAmong run.inputDates.keys

/-- What the user is told if the run cannot start from a record. -/
inductive Refuses (run : Run) (storage : σ) : Diagnostic → Prop
  | notRead {e : StorageError} (h : Storage.read storage run.recordPath = .error e) :
    Refuses run storage (.recordNotRead run.recordPath e.message)
  | notText {contents : Bytes} {fault : Utf8.Fault}
    (hread : Storage.read storage run.recordPath = .ok contents)
    (h : ∀ text : String, contents ≠ Utf8.encode text.toList)
    (hfault : Utf8.decode contents = .error fault) :
    Refuses run storage (.recordMalformed run.recordPath fault.message)
  | notDecoded {text : String} {e : BuildRecord.DecodeError}
    (hread : Storage.read storage run.recordPath = .ok (Utf8.encode text.toList))
    (h : BuildRecord.decode text = .error e) :
    Refuses run storage (.recordMalformed run.recordPath e.message)
  | mismatch {text : String} {record : BuildRecord} {reason : Mismatch}
    (hread : Storage.read storage run.recordPath = .ok (Utf8.encode text.toList))
    (hdecode : BuildRecord.decode text = .ok record) (h : run.Objects record reason) :
    Refuses run storage (.recordMismatch reason.message)

end Incremental.Run

/-! ## The inputs that are gone -/

namespace Path

variable {path : Path} {current more : List TypedPath}

theorem isAmong_iff :
    (current.map (·.path)).any (fun other => compare path other == .eq) = true ↔ path.IsAmong current := by
  simp [IsAmong, compare_eq_iff]

/-- Neither the spelling of a path nor the type of the file makes a difference. -/
example : (ofString "/work/./main.swift").IsAmong [⟨ofString "/work/main.swift", .object⟩] :=
  isAmong_iff.1 (by decide +kernel)

/-- A path that is among the files is among all files that take these in. -/
theorem IsAmong.mono (h : path.IsAmong current) (hmore : ∀ file ∈ current, file.path.IsAmong more) :
    path.IsAmong more := by
  obtain ⟨file, hfile, hpath⟩ := h
  obtain ⟨other, hother, hsame⟩ := hmore file hfile
  exact ⟨other, hother, hpath.trans hsame⟩

end Path

namespace BuildRecord

variable {current more files : List TypedPath} {paths fewer : List Path} {record : BuildRecord}

theorem missing_filter (current files : List TypedPath) :
    Missing current files ((files.map (·.path)).filter fun path =>
      !(current.map (·.path)).any fun other => compare path other == .eq) := by
  induction files with
  | nil => exact .nil
  | cons file files ih =>
    rw [List.map_cons]
    by_cases h : file.path.IsAmong current
    · rw [List.filter_cons_of_neg (by simpa using Path.isAmong_iff.2 h)]
      exact .present h ih
    · rw [List.filter_cons_of_pos (by simpa using fun hany => h (Path.isAmong_iff.1 hany))]
      exact .missing h ih

/-- With more current inputs, no more are missing. -/
theorem Missing.sublist (h : Missing current files paths) (hfewer : Missing more files fewer)
    (hmore : ∀ file ∈ current, file.path.IsAmong more) : fewer.Sublist paths := by
  induction h generalizing fewer with
  | nil => cases hfewer; exact .slnil
  | present hin _ ih =>
    cases hfewer with
    | present _ hfewer => exact ih hfewer
    | missing hout _ => exact absurd (hin.mono hmore) hout
  | missing _ _ ih =>
    cases hfewer with
    | present _ hfewer => exact (ih hfewer).cons _
    | missing _ hfewer => exact (ih hfewer).cons_cons _

theorem missing_iff :
    Missing current record.inputDates.keys paths ↔ record.missingPaths (current.map (·.path)) = paths := by
  have hmade : Missing current record.inputDates.keys (record.missingPaths (current.map (·.path))) :=
    missing_filter current record.inputDates.keys
  constructor
  · -- two lists of what is missing among the same inputs are no longer than each other
    intro h
    have hself (file : TypedPath) (hfile : file ∈ current) : file.path.IsAmong current := ⟨file, hfile, rfl⟩
    exact (h.sublist hmade hself).eq_of_length_le (hmade.sublist h hself).length_le
  · rintro rfl
    exact hmade

end BuildRecord

namespace Incremental.Run

variable {run : Run} {record : BuildRecord} {reason : Mismatch}

/-! ## What a run has against a record -/

theorem mismatch?_eq_some : run.mismatch? record = some reason ↔ run.Objects record reason := by
  rw [mismatch?, BuildRecord.mismatch?]
  constructor
  · intro h
    split at h
    next hversion => cases h; exact .compilerVersion hversion
    next hversion =>
      rw [Decidable.not_not] at hversion
      split at h
      next hhash => cases h; exact .arguments hversion hhash
      next hhash =>
        rw [Decidable.not_not] at hhash
        split at h
        next => cases h
        next paths hne =>
          cases h
          exact .missingInputs hversion hhash (BuildRecord.missing_iff.2 rfl) hne
  · intro h
    cases h with
    | compilerVersion h => rw [if_pos h]
    | arguments hversion h => rw [if_neg (not_not_intro hversion), if_pos h]
    | missingInputs hversion hhash hmissing h =>
      rw [if_neg (not_not_intro hversion), if_neg (not_not_intro hhash), BuildRecord.missing_iff.1 hmissing]
      split
      next => exact absurd rfl h
      next => rfl

/-- What a run with more inputs misses is missed by the run itself. -/
theorem objects_of_more {more : OrderedMap TypedPath Instant} {fewer : List Path}
    (hmore : ∀ input ∈ run.inputDates.keys, input.path.IsAmong more.keys)
    (h : Objects { run with inputDates := more } record (.missingInputs fewer)) :
    ∃ paths, run.Objects record (.missingInputs paths) ∧ fewer.Sublist paths := by
  cases h with
  | missingInputs hversion hhash hfewer hne =>
    have hmissing := BuildRecord.missing_filter run.inputDates.keys record.inputDates.keys
    have hsub := hmissing.sublist hfewer hmore
    refine ⟨_, .missingInputs hversion hhash hmissing ?_, hsub⟩
    intro hnil
    rw [hnil] at hsub
    exact hne (List.sublist_nil.1 hsub)

theorem mismatch?_eq_none_iff : run.mismatch? record = none ↔
    record.swiftVersion = run.swiftVersion ∧ record.argsHash = run.argsHash ∧
      ∀ input ∈ record.inputDates.keys, input.path.IsAmong run.inputDates.keys := by
  rw [mismatch?, mismatch?_eq_none]
  simp only [Path.compare_eq_iff, Path.IsAmong]

/-! ## What a run is told -/

variable {σ : Type} [Storage σ] {storage : σ}

/-- A file is text, or there is a fault in it. -/
theorem text_or_fault (contents : Bytes) : (∃ text : String, contents = Utf8.encode text.toList) ∨
    ∃ fault, Utf8.decode contents = .error fault ∧ ∀ text : String, contents ≠ Utf8.encode text.toList := by
  cases h : Utf8.decode contents with
  | ok cs =>
    refine .inl ⟨String.ofList cs, ?_⟩
    rw [String.toList_ofList, Utf8.encode_of_decode h]
  | error fault =>
    refine .inr ⟨fault, rfl, ?_⟩
    rintro text rfl
    rw [Utf8.decode_encode] at h
    cases h

theorem load_of_text {text : String}
    (h : Storage.read storage run.recordPath = .ok (Utf8.encode text.toList)) :
    run.load storage = ((BuildRecord.decode text).mapError PriorError.notDecoded).mapError
      fun e => e.diagnostic run.recordPath := by
  rw [load, readPrior, h]
  exact congrArg _ (recordOfBytes_encode text)

theorem load_of_decode {text : String}
    (hread : Storage.read storage run.recordPath = .ok (Utf8.encode text.toList))
    (hdecode : BuildRecord.decode text = .ok record) : run.load storage = .ok record := by
  rw [load_of_text hread, hdecode]
  rfl

theorem loadUsable_of_refuses {diagnostic : Diagnostic} (h : run.Refuses storage diagnostic) :
    run.loadUsable storage = .error diagnostic := by
  cases h with
  | notRead h => rw [loadUsable, load, readPrior, h]; rfl
  | notText hread _ hfault =>
    rw [loadUsable, load, readPrior, hread]
    show ((recordOfBytes _).mapError _ >>= _) = _
    rw [recordOfBytes, hfault]
    rfl
  | notDecoded hread h => rw [loadUsable, load_of_text hread, h]; rfl
  | mismatch hread hdecode h =>
    rw [loadUsable, load_of_decode hread hdecode]
    simp only [bind, Except.bind, mismatch?_eq_some.2 h]

theorem loadUsable_of_trusts (h : run.Trusts storage record) : run.loadUsable storage = .ok record := by
  obtain ⟨⟨text, hread, hdecode⟩, hversion, hhash, hinputs⟩ := h
  rw [loadUsable_eq_ok, mismatch?_eq_none_iff]
  exact ⟨load_of_decode hread hdecode, hversion, hhash, hinputs⟩

/-- There is a record that a run trusts, or a reason why there is none. -/
theorem trusts_or_refuses (run : Run) (storage : σ) :
    (∃ record, run.Trusts storage record) ∨ ∃ diagnostic, run.Refuses storage diagnostic := by
  cases hread : Storage.read storage run.recordPath with
  | error e => exact .inr ⟨_, .notRead hread⟩
  | ok contents =>
    rcases text_or_fault contents with ⟨text, rfl⟩ | ⟨fault, hfault, htext⟩
    · cases hdecode : BuildRecord.decode text with
      | error e => exact .inr ⟨_, .notDecoded hread hdecode⟩
      | ok record =>
        cases hreason : run.mismatch? record with
        | some reason => exact .inr ⟨_, .mismatch hread hdecode (mismatch?_eq_some.1 hreason)⟩
        | none =>
          obtain ⟨hversion, hhash, hinputs⟩ := mismatch?_eq_none_iff.1 hreason
          exact .inl ⟨record, ⟨text, hread, hdecode⟩, hversion, hhash, hinputs⟩
    · exact .inr ⟨_, .notText hread htext hfault⟩

theorem loadUsable_eq_ok_iff : run.loadUsable storage = .ok record ↔ run.Trusts storage record := by
  -- what does not follow from a record that is trusted follows from a refusal, and that gives something else
  refine ⟨fun h => ?_, loadUsable_of_trusts⟩
  rcases run.trusts_or_refuses storage with ⟨other, htrusts⟩ | ⟨diagnostic, hrefuses⟩
  · cases h.symm.trans (loadUsable_of_trusts htrusts)
    exact htrusts
  · cases h.symm.trans (loadUsable_of_refuses hrefuses)

theorem loadUsable_eq_error_iff {diagnostic : Diagnostic} :
    run.loadUsable storage = .error diagnostic ↔ run.Refuses storage diagnostic := by
  refine ⟨fun h => ?_, loadUsable_of_refuses⟩
  rcases run.trusts_or_refuses storage with ⟨record, htrusts⟩ | ⟨other, hrefuses⟩
  · cases h.symm.trans (loadUsable_of_trusts htrusts)
  · cases h.symm.trans (loadUsable_of_refuses hrefuses)
    exact hrefuses

/-- A run starts from the record at its place exactly if it trusts that record. Otherwise the user is told of the
first thing that is wrong, and of missing inputs all are listed. With more inputs, a run still starts from the
record it started from, and no more inputs are missing. -/
theorem loadUsable_spec (run : Run) (storage : σ) :
    (∀ record, run.loadUsable storage = .ok record ↔ run.Trusts storage record) ∧
    (∀ diagnostic, run.loadUsable storage = .error diagnostic ↔ run.Refuses storage diagnostic) ∧
    (∀ record reason, run.mismatch? record = some reason ↔ run.Objects record reason) ∧
    ∀ more : OrderedMap TypedPath Instant,
      (∀ input ∈ run.inputDates.keys, input.path.IsAmong more.keys) →
      (∀ record, run.loadUsable storage = .ok record →
        loadUsable { run with inputDates := more } storage = .ok record) ∧
      (∀ record, run.mismatch? record = none → mismatch? { run with inputDates := more } record = none) ∧
      ∀ record fewer, mismatch? { run with inputDates := more } record = some (.missingInputs fewer) →
        ∃ paths, run.mismatch? record = some (.missingInputs paths) ∧ fewer.Sublist paths := by
  refine ⟨fun _ => loadUsable_eq_ok_iff, fun _ => loadUsable_eq_error_iff, fun _ _ => mismatch?_eq_some, ?_⟩
  intro more hmore
  refine ⟨?_, ?_, ?_⟩
  · intro record h
    obtain ⟨hdecodes, hversion, hhash, hinputs⟩ := loadUsable_eq_ok_iff.1 h
    exact loadUsable_eq_ok_iff.2 ⟨hdecodes, hversion, hhash, fun input hin => (hinputs input hin).mono hmore⟩
  · intro record h
    obtain ⟨hversion, hhash, hinputs⟩ := mismatch?_eq_none_iff.1 h
    exact mismatch?_eq_none_iff.2 ⟨hversion, hhash, fun input hin => (hinputs input hin).mono hmore⟩
  · intro record fewer h
    simp only [mismatch?_eq_some] at h ⊢
    exact objects_of_more hmore h

end Incremental.Run

end CompilerDriver
