import CompilerDriver.BuildRecord.Document
import CompilerDriver.Fingerprint

/-!
# Writing and reading build records

A record is written only if every path in it is absolute, because the next build may be started from
another directory. Reading checks that the document follows a known schema, that it says with which
compiler and arguments it was made, and that it says nothing twice. The first check that fails is
reported.
-/

namespace CompilerDriver.BuildRecord

/-- Why a record cannot be written. -/
inductive EncodeError where
  /-- A path would mean something else in another directory. -/
  | notAbsolute (path : Path)
  /-- Some path is no text. -/
  | notText
deriving DecidableEq, Repr

/-- The wording of an error. -/
def EncodeError.message : EncodeError → String
  | .notAbsolute path => s!"path is not absolute: {path.display}"
  | .notText => s!"serialization failed: {Path.notTextMessage}"

/-- Why a text is not the text of a record. -/
inductive DecodeError where
  /-- The text is no JSON document, or one that says something else. -/
  | malformed
  | unsupportedSchema (id : String) (version : Nat)
  | emptySwiftVersion
  | invalidArgsHash (hash : String)
  | duplicateInput (path : Path)
  | duplicateResult (job : JobId)
deriving DecidableEq, Repr

/-- The wording of an error. -/
def DecodeError.message : DecodeError → String
  | .malformed => "malformed build record: the text is not the document of a build record"
  | .unsupportedSchema id version =>
    s!"unsupported build record schema '{id}' (version {version})"
  | .emptySwiftVersion => "swift_version is empty"
  | .invalidArgsHash hash => s!"args_hash must be 64 lowercase hex digits, found '{hash}'"
  | .duplicateInput path => s!"duplicate input '{path.display}'"
  | .duplicateResult job => s!"duplicate result for job '{job}'"

/-! ## Writing -/

/-- The document of a record. -/
def document (record : BuildRecord) : Document where
  schemaVersion := schemaVersion
  schemaId := schemaId
  swiftVersion := record.swiftVersion
  argsHash := record.argsHash
  timeBeforeFirstJob := record.timeBeforeFirstJob
  inputs := record.inputDates.entries
  jobs := record.jobs
  results := record.results.entries
  skippedInputs := record.skippedInputs.map (·.keys)

/-- The text of a record. -/
def encode (record : BuildRecord) : Except EncodeError String :=
  match record.paths.find? fun path => !path.isAbsolute with
  | some path => .error (.notAbsolute path)
  | none =>
    match record.document.text? with
    | some text => .ok text
    | none => .error .notText

/-! ## Reading -/

/-- Whether a document follows a schema that can be read. -/
def Document.isSupported (doc : Document) : Bool :=
  doc.schemaId == BuildRecord.schemaId && doc.schemaVersion ≤ BuildRecord.schemaVersion

/-- The record that a document describes. -/
def ofDocument (doc : Document) : Except DecodeError BuildRecord :=
  if !doc.isSupported then .error (.unsupportedSchema doc.schemaId doc.schemaVersion)
  else if doc.swiftVersion.isEmpty then .error .emptySwiftVersion
  else if !Fingerprint.isWellFormed doc.argsHash then .error (.invalidArgsHash doc.argsHash)
  else
    match OrderedMap.ofDistinct doc.inputs with
    | .error input => .error (.duplicateInput input.path)
    | .ok inputDates =>
      match OrderedMap.ofDistinct doc.results with
      | .error job => .error (.duplicateResult job)
      | .ok results =>
        .ok {
          swiftVersion := doc.swiftVersion
          argsHash := doc.argsHash
          timeBeforeFirstJob := doc.timeBeforeFirstJob
          jobs := doc.jobs
          results := results
          skippedInputs := doc.skippedInputs.map OrderedSet.ofList
          inputDates := inputDates }

/-- The record that a text holds. -/
def decode (text : String) : Except DecodeError BuildRecord :=
  match Document.ofText? text with
  | some doc => ofDocument doc
  | none => .error .malformed

end CompilerDriver.BuildRecord
