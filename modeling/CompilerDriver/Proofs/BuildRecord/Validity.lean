import CompilerDriver.Proofs.BuildRecord.RoundTrip
import CompilerDriver.Proofs.Fingerprint.Options
import CompilerDriver.Proofs.OrderedMap.Distinct
import CompilerDriver.Proofs.Path.Components

/-!
# Valid records

Which documents are records is said here without the reader (`Document.Valid`), and so is why one is none
(`Document.Refused`): of the five conditions that a document has to meet, the first one that it does not meet
is reported, and of the entries that repeat an earlier one, the first. The reader agrees with both, and
what it accepts it keeps as it is (`decode_spec`). Inputs are the same if their types and the components of their
paths agree, however the paths are written.
-/

namespace CompilerDriver

/-- The two files are of one type, and their paths have the same components. -/
def TypedPath.SameFile (a b : TypedPath) : Prop :=
  a.path.components = b.path.components ∧ a.type = b.type

theorem TypedPath.sameFile_iff {a b : TypedPath} : a.SameFile b ↔ compare a b = .eq := by
  rw [compare_eq_iff, Path.compare_eq_iff, SameFile]

namespace BuildRecord

namespace Document

/-- The document follows the schema that the driver reads. -/
def IsCurrent (doc : Document) : Prop :=
  doc.schemaId = "swift-driver/build_record@1" ∧ doc.schemaVersion ≤ 1

/-- The document has 64 hexadecimal digits in lower case for a fingerprint. -/
def HasFingerprint (doc : Document) : Prop :=
  doc.argsHash.length = 64 ∧ ∀ c ∈ doc.argsHash.toList, ('0' ≤ c ∧ c ≤ '9') ∨ ('a' ≤ c ∧ c ≤ 'f')

/-- Two entries are about the same input. -/
def SameInput (a b : TypedPath × Instant) : Prop := a.1.SameFile b.1

/-- Two entries are about the same job. -/
def SameJob (a b : JobId × JobResult) : Prop := a.1 = b.1

/-- What makes a document the document of a record. -/
structure Valid (doc : Document) : Prop where
  isCurrent : doc.IsCurrent
  swiftVersion : doc.swiftVersion ≠ ""
  hasFingerprint : doc.HasFingerprint
  inputs : doc.inputs.Pairwise fun a b => ¬SameInput a b
  results : doc.results.Pairwise fun a b => ¬SameJob a b

/-- The first thing that is wrong with a document. -/
inductive Refused (doc : Document) : DecodeError → Prop
  | schema (h : ¬doc.IsCurrent) : Refused doc (.unsupportedSchema doc.schemaId doc.schemaVersion)
  | swiftVersion (hcurrent : doc.IsCurrent) (h : doc.swiftVersion = "") : Refused doc .emptySwiftVersion
  | fingerprint (hcurrent : doc.IsCurrent) (hversion : doc.swiftVersion ≠ "")
      (h : ¬doc.HasFingerprint) : Refused doc (.invalidArgsHash doc.argsHash)
  | input {entry : TypedPath × Instant} (hcurrent : doc.IsCurrent) (hversion : doc.swiftVersion ≠ "")
      (hfingerprint : doc.HasFingerprint) (h : FirstRepeat SameInput doc.inputs entry) :
      Refused doc (.duplicateInput entry.1.path)
  | result {entry : JobId × JobResult} (hcurrent : doc.IsCurrent) (hversion : doc.swiftVersion ≠ "")
      (hfingerprint : doc.HasFingerprint) (hinputs : doc.inputs.Pairwise fun a b => ¬SameInput a b)
      (h : FirstRepeat SameJob doc.results entry) : Refused doc (.duplicateResult entry.1)

/-- A set of files holds the listed ones, each in one of the spellings that the list has for it. -/
structure IsSetOf (set : OrderedSet TypedPath) (files : List TypedPath) : Prop where
  listed : ∀ file ∈ set.toList, file ∈ files
  complete : ∀ file ∈ files, ∃ kept ∈ set.toList, file.SameFile kept
  distinct : set.toList.Pairwise fun a b => ¬a.SameFile b

/-- The document says what the record says. The inputs and the results of both have exactly the same entries. -/
structure Says (doc : Document) (record : BuildRecord) : Prop where
  swiftVersion : record.swiftVersion = doc.swiftVersion
  argsHash : record.argsHash = doc.argsHash
  timeBeforeFirstJob : record.timeBeforeFirstJob = doc.timeBeforeFirstJob
  inputs : record.inputDates.entries.Perm doc.inputs
  jobs : record.jobs = doc.jobs
  results : record.results.entries.Perm doc.results
  skippedInputs : (record.skippedInputs = none ∧ doc.skippedInputs = none) ∨
    ∃ set files, record.skippedInputs = some set ∧ doc.skippedInputs = some files ∧ IsSetOf set files

variable {doc : Document}

theorem isSupported_iff : doc.isSupported = true ↔ doc.IsCurrent := by
  rw [isSupported, Bool.and_eq_true, beq_iff_eq, decide_eq_true_iff]
  rfl

theorem hasFingerprint_iff : Fingerprint.isWellFormed doc.argsHash = true ↔ doc.HasFingerprint :=
  Fingerprint.isWellFormed_iff

theorem sameKey_input : OrderedMap.SameKey = SameInput := by
  funext a b
  exact propext TypedPath.sameFile_iff.symm

theorem sameKey_job : OrderedMap.SameKey = SameJob := by
  funext a b
  exact propext Std.LawfulEqCmp.compare_eq_iff_eq

theorem inputs_cases (doc : Document) :
    (∃ inputs, OrderedMap.ofDistinct doc.inputs = .ok inputs ∧
      doc.inputs.Pairwise (fun a b => ¬SameInput a b) ∧ inputs.entries.Perm doc.inputs) ∨
    ∃ entry, FirstRepeat SameInput doc.inputs entry := by
  rw [← sameKey_input]
  rcases OrderedMap.ofDistinct_cases doc.inputs with hcollected | ⟨entry, -, hrepeat⟩
  · exact .inl hcollected
  · exact .inr ⟨entry, hrepeat⟩

theorem results_cases (doc : Document) :
    (∃ results, OrderedMap.ofDistinct doc.results = .ok results ∧
      doc.results.Pairwise (fun a b => ¬SameJob a b) ∧ results.entries.Perm doc.results) ∨
    ∃ entry, FirstRepeat SameJob doc.results entry := by
  rw [← sameKey_job]
  rcases OrderedMap.ofDistinct_cases doc.results with hcollected | ⟨entry, -, hrepeat⟩
  · exact .inl hcollected
  · exact .inr ⟨entry, hrepeat⟩

/-- A document is valid, or something is wrong with it. -/
theorem valid_or_refused (doc : Document) : doc.Valid ∨ ∃ e, doc.Refused e := by
  by_cases hcurrent : doc.IsCurrent
  case neg => exact .inr ⟨_, .schema hcurrent⟩
  by_cases hversion : doc.swiftVersion = ""
  case pos => exact .inr ⟨_, .swiftVersion hcurrent hversion⟩
  by_cases hfingerprint : doc.HasFingerprint
  case neg => exact .inr ⟨_, .fingerprint hcurrent hversion hfingerprint⟩
  rcases doc.inputs_cases with ⟨-, -, hinputs, -⟩ | ⟨entry, hrepeat⟩
  case inr => exact .inr ⟨_, .input hcurrent hversion hfingerprint hrepeat⟩
  rcases doc.results_cases with ⟨-, -, hresults, -⟩ | ⟨entry, hrepeat⟩
  case inr => exact .inr ⟨_, .result hcurrent hversion hfingerprint hinputs hrepeat⟩
  exact .inl ⟨hcurrent, hversion, hfingerprint, hinputs, hresults⟩

theorem isEmpty_iff {s : String} : s.isEmpty = true ↔ s = "" := by simp

/-! ## What is refused -/

theorem ofDocument_of_refused {e : DecodeError} (h : doc.Refused e) : ofDocument doc = .error e := by
  cases h with
  | schema h =>
    rw [ofDocument, Bool.eq_false_iff.2 (mt isSupported_iff.1 h)]
    rfl
  | swiftVersion hcurrent h =>
    rw [ofDocument, isSupported_iff.2 hcurrent, isEmpty_iff.2 h]
    rfl
  | fingerprint hcurrent hversion h =>
    rw [ofDocument, isSupported_iff.2 hcurrent, Bool.eq_false_iff.2 (mt isEmpty_iff.1 hversion),
      Bool.eq_false_iff.2 (mt hasFingerprint_iff.1 h)]
    rfl
  | input hcurrent hversion hfingerprint h =>
    have hinputs := OrderedMap.ofDistinct_eq_error.2 ⟨_, sameKey_input ▸ h⟩
    rw [ofDocument, isSupported_iff.2 hcurrent, Bool.eq_false_iff.2 (mt isEmpty_iff.1 hversion),
      hasFingerprint_iff.2 hfingerprint, hinputs]
    rfl
  | result hcurrent hversion hfingerprint hinputs h =>
    rcases doc.inputs_cases with ⟨inputs, hcollected, -⟩ | ⟨entry, hrepeat⟩
    case inr => exact absurd hinputs hrepeat.not_pairwise
    have hresults := OrderedMap.ofDistinct_eq_error.2 ⟨_, sameKey_job ▸ h⟩
    rw [ofDocument, isSupported_iff.2 hcurrent, Bool.eq_false_iff.2 (mt isEmpty_iff.1 hversion),
      hasFingerprint_iff.2 hfingerprint, hcollected, hresults]
    rfl

/-! ## What is accepted -/

theorem isSetOf_ofList (files : List TypedPath) : IsSetOf (.ofList files) files := by
  refine ⟨?_, ?_, ?_⟩
  · intro file hfile
    rcases OrderedMap.mem_keys_foldl_replace _ _ hfile with hlisted | hnone
    · simpa using hlisted
    · cases hnone
  · intro file hfile
    have hkey : file ∈ (files.map fun k => (k, ())).map (·.1) := by simpa using hfile
    obtain ⟨kept, hkept, hsame⟩ := OrderedMap.exists_mem_keys_of_get?
      (OrderedMap.isSome_get?_foldl_replace _ .empty (.inl ⟨file, hkey, Std.ReflCmp.compare_self⟩))
    exact ⟨kept, hkept, TypedPath.sameFile_iff.2 hsame⟩
  · refine (OrderedSet.sorted_toList _).imp fun hlt hsame => ?_
    rw [TypedPath.sameFile_iff.1 hsame] at hlt
    cases hlt

theorem ofDocument_of_valid (h : doc.Valid) : ∃ record, ofDocument doc = .ok record ∧ doc.Says record := by
  rcases doc.inputs_cases with ⟨inputs, hinputs, -, hinputsPerm⟩ | ⟨entry, hrepeat⟩
  case inr => exact absurd h.inputs hrepeat.not_pairwise
  rcases doc.results_cases with ⟨results, hresults, -, hresultsPerm⟩ | ⟨entry, hrepeat⟩
  case inr => exact absurd h.results hrepeat.not_pairwise
  rw [ofDocument, isSupported_iff.2 h.isCurrent, Bool.eq_false_iff.2 (mt isEmpty_iff.1 h.swiftVersion),
    hasFingerprint_iff.2 h.hasFingerprint, hinputs, hresults]
  refine ⟨_, rfl, rfl, rfl, rfl, hinputsPerm, rfl, hresultsPerm, ?_⟩
  cases doc.skippedInputs with
  | none => exact .inl ⟨rfl, rfl⟩
  | some files => exact .inr ⟨_, files, rfl, rfl, isSetOf_ofList files⟩

end Document

/-- A document is read as a record if and only if it is valid. Otherwise the first thing that is wrong with it is
reported. Nothing that a valid document says is lost. -/
theorem decode_spec {text : String} {doc : Document} (h : Document.ofText? text = some doc) :
    ((∃ record, decode text = .ok record) ↔ doc.Valid) ∧
    (∀ e, decode text = .error e ↔ doc.Refused e) ∧
    ∀ record, decode text = .ok record → doc.Says record := by
  have hdecode : decode text = ofDocument doc := by rw [decode, h]
  rw [hdecode]
  rcases doc.valid_or_refused with hvalid | ⟨e, hrefused⟩
  · obtain ⟨record, hrecord, hsaid⟩ := Document.ofDocument_of_valid hvalid
    rw [hrecord]
    refine ⟨⟨fun _ => hvalid, fun _ => ⟨record, rfl⟩⟩, fun e => ⟨?_, ?_⟩, ?_⟩
    · intro herror
      cases herror
    · intro hrefused
      rw [Document.ofDocument_of_refused hrefused] at hrecord
      cases hrecord
    · rintro _ ⟨⟩
      exact hsaid
  · have herror := Document.ofDocument_of_refused hrefused
    rw [herror]
    refine ⟨⟨?_, ?_⟩, fun e' => ⟨?_, ?_⟩, ?_⟩
    · rintro ⟨record, hrecord⟩
      cases hrecord
    · intro hvalid
      obtain ⟨record, hrecord, -⟩ := Document.ofDocument_of_valid hvalid
      rw [herror] at hrecord
      cases hrecord
    · rintro ⟨⟩
      exact hrefused
    · intro hrefused'
      rw [Document.ofDocument_of_refused hrefused'] at herror
      exact herror.symm
    · intro record hrecord
      cases hrecord

/-- A document that lists one input in two spellings. -/
def spelledTwice : Document where
  schemaVersion := 1
  schemaId := "swift-driver/build_record@1"
  swiftVersion := "Swift version 6.0"
  argsHash := "e3b0c44298fc1c149afbf4c8996fb92427ae41e4649b934ca495991b7852b855"
  timeBeforeFirstJob := .epoch
  inputs := [(.ofInput (.ofString "/work/main.swift"), .epoch),
    (.ofInput (.ofString "/work//./main.swift"), .epoch)]
  jobs := []
  results := []
  skippedInputs := none

theorem decode_spec_spelledTwice : ∃ text, Document.ofText? text = some spelledTwice ∧
    ¬spelledTwice.Valid ∧
    decode text = .error (.duplicateInput (.ofString "/work//./main.swift")) := by
  obtain ⟨text, htext⟩ : ∃ text, spelledTwice.text? = some text :=
    Option.isSome_iff_exists.1 (by decide +kernel)
  have hread := Document.ofText?_text? (by decide : (1 : Nat) < UInt32.size) htext
  have hsame : Document.SameInput (.ofInput (.ofString "/work/main.swift"), .epoch)
      (.ofInput (.ofString "/work//./main.swift"), .epoch) := ⟨by decide +kernel, by decide +kernel⟩
  have hrefused : spelledTwice.Refused (.duplicateInput (.ofString "/work//./main.swift")) :=
    .input ⟨rfl, Nat.le_refl 1⟩ (by simp [spelledTwice])
      (Document.hasFingerprint_iff.1 (by decide +kernel))
      ⟨[_], [], rfl, List.pairwise_singleton .., _, List.mem_cons_self, hsame⟩
  obtain ⟨hok, herror, -⟩ := decode_spec hread
  refine ⟨text, hread, fun hvalid => ?_, (herror _).2 hrefused⟩
  obtain ⟨record, hrecord⟩ := hok.2 hvalid
  rw [(herror _).2 hrefused] at hrecord
  cases hrecord

end BuildRecord

end CompilerDriver
