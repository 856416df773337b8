import CompilerDriver.BuildRecord.Codec
import CompilerDriver.Proofs.Instant.RoundTrip
import CompilerDriver.Proofs.OrderedMap.Collecting
import CompilerDriver.Proofs.Wire.RoundTrip

/-!
# Build records read back

What `encode` writes, `decode` reads: the text is taken apart into the document it was made from
(`Document.ofText?_text?`), and the document of a record is turned into the record again
(`ofDocument_document`), unless the record lacks the version of its compiler or its fingerprint is none.
`decode_of_encode` states both together.
-/

namespace CompilerDriver.BuildRecord

open Json

namespace Document

/-! ## The parts of a document -/

theorem readsAs_instant (time : Instant) : ReadsAs instantOfJson? (.text time.text) time := by
  refine ⟨rfl, ?_⟩
  rw [instantOfJson?, (readsAs_text time.text).read_eq, Option.bind_some, Instant.ofText?_text]

theorem readsAs_input {entry : TypedPath × Instant} {value : Json}
    (h : inputToJson? entry = some value) : ReadsAs inputOfJson? value entry := by
  simp only [inputToJson?, Option.bind_eq_bind, Option.bind_eq_some_iff, Option.pure_def,
    Option.some.injEq] at h
  obtain ⟨path, hpath, rfl⟩ := h
  have hp := Path.readsAs hpath
  have ht := FileType.readsAs entry.1.type
  have hm := readsAs_instant entry.2
  refine ⟨?_, ?_⟩
  · rw [isWellFormed_record]
    simp [hp.wellFormed, ht.wellFormed, hm.wellFormed]
  · rw [inputOfJson?, slots_record _ rfl]
    simp [inputFieldNames, givenSlot, hp.required, ht.required, hm.required]

theorem readsAs_result (entry : JobId × JobResult) :
    ReadsAs resultOfJson? (resultToJson entry) entry := by
  obtain ⟨job, exit, graph⟩ := entry
  have hj := readsAs_text job
  have he := ProcessExit.readsAs exit
  have hg := readsAs_bool true
  refine ⟨?_, ?_⟩
  · rw [resultToJson, isWellFormed_record]
    cases graph <;> simp [hj.wellFormed, he.wellFormed, hg.wellFormed]
  · rw [resultOfJson?, resultToJson, slots_record _ (by cases graph <;> rfl)]
    cases graph <;>
      simp [resultFieldNames, givenSlot, hj.required, he.required, hg.defaulted, defaulted_omitted]

theorem readsAs_skipped {files : List TypedPath} {value : Json}
    (h : TypedPath.listToJson? files = some value) :
    ReadsAs (nullable TypedPath.listOfJson?) value (some files) := by
  have hf := TypedPath.readsAs_list h
  refine ⟨hf.wellFormed, ?_⟩
  rw [TypedPath.listToJson?, Option.map_eq_some_iff] at h
  obtain ⟨items, -, rfl⟩ := h
  show (TypedPath.listOfJson? (.array items)).map some = _
  rw [hf.read_eq, Option.map_some]

/-! ## The document -/

/-- The members of a document whose inputs and jobs were written; the skipped inputs come last. -/
def members (doc : Document) (inputs jobs : List Json) : List (String × Json) :=
  [("schema_version", .nat doc.schemaVersion), ("schema_id", .text doc.schemaId),
    ("swift_version", .text doc.swiftVersion), ("args_hash", .text doc.argsHash),
    ("time_before_first_job", .text doc.timeBeforeFirstJob.text), ("inputs", .array inputs),
    ("jobs", .array jobs), ("results", .array (doc.results.map resultToJson))]

/-- What a document is written as, if it is written. -/
theorem toJson?_parts {doc : Document} {value : Json} (h : doc.toJson? = some value) :
    ∃ inputs jobs skipped, doc.inputs.mapM inputToJson? = some inputs ∧
      doc.jobs.mapM Job.toJson? = some jobs ∧
      value = .record (doc.members inputs jobs ++ skipped) ∧
      ((doc.skippedInputs = none ∧ skipped = []) ∨
        ∃ files form, doc.skippedInputs = some files ∧ TypedPath.listToJson? files = some form ∧
          skipped = [("skipped_inputs", form)]) := by
  simp only [toJson?, Option.bind_eq_bind, Option.bind_eq_some_iff, Option.pure_def] at h
  obtain ⟨inputs, hinputs, jobs, hjobs, h⟩ := h
  cases hskipped : doc.skippedInputs with
  | none =>
    rw [hskipped] at h
    exact ⟨inputs, jobs, [], hinputs, hjobs, (Option.some.inj h).symm, .inl ⟨rfl, rfl⟩⟩
  | some files =>
    rw [hskipped] at h
    obtain ⟨skipped, hwritten, hvalue⟩ := Option.bind_eq_some_iff.1 h
    obtain ⟨form, hform, rfl⟩ := Option.map_eq_some_iff.1 hwritten
    exact ⟨inputs, jobs, _, hinputs, hjobs, (Option.some.inj hvalue).symm,
      .inr ⟨files, form, rfl, hform, rfl⟩⟩

/-- A written document has a slot for every field, of which only the last one may be left out. -/
theorem slots_members (doc : Document) (inputs jobs : List Json) {skipped : List (String × Json)}
    (h : skipped = [] ∨ ∃ form, skipped = [("skipped_inputs", form)]) :
    (record (doc.members inputs jobs ++ skipped)).slots fieldNames =
      some [.given (.nat doc.schemaVersion), .given (.text doc.schemaId),
        .given (.text doc.swiftVersion), .given (.text doc.argsHash),
        .given (.text doc.timeBeforeFirstJob.text), .given (.array inputs), .given (.array jobs),
        .given (.array (doc.results.map resultToJson)), givenSlot skipped "skipped_inputs"] := by
  obtain rfl | ⟨form, rfl⟩ := h
  · rw [slots_record fieldNames rfl]
    simp [members, fieldNames, givenSlot]
  · rw [slots_record fieldNames rfl]
    simp [members, fieldNames, givenSlot]

theorem ofJson?_of_slots {value : Json} {doc : Document}
    {version id swiftVersion argsHash time inputs jobs results skipped : Slot}
    (hslots : value.slots fieldNames =
      some [version, id, swiftVersion, argsHash, time, inputs, jobs, results, skipped])
    (hversion : version.defaulted (natBelow? UInt32.size) BuildRecord.schemaVersion =
      some doc.schemaVersion)
    (hid : id.defaulted Json.text? BuildRecord.schemaId = some doc.schemaId)
    (hswift : swiftVersion.required Json.text? = some doc.swiftVersion)
    (hargs : argsHash.required Json.text? = some doc.argsHash)
    (htime : time.defaulted instantOfJson? .epoch = some doc.timeBeforeFirstJob)
    (hinputs : inputs.defaulted (list? inputOfJson?) [] = some doc.inputs)
    (hjobs : jobs.defaulted (list? Job.ofJson?) [] = some doc.jobs)
    (hresults : results.defaulted (list? resultOfJson?) [] = some doc.results)
    (hskipped : skipped.defaulted (nullable TypedPath.listOfJson?) none = some doc.skippedInputs) :
    ofJson? value = some doc := by
  rw [ofJson?, hslots]
  simp only [Option.bind_eq_bind, Option.bind_some, hversion, hid, hswift, hargs, htime, hinputs,
    hjobs, hresults, hskipped, Option.pure_def]

theorem readsAs {doc : Document} (hversion : doc.schemaVersion < UInt32.size) {value : Json}
    (h : doc.toJson? = some value) : ReadsAs ofJson? value doc := by
  obtain ⟨inputs, jobs, skipped, hinputs, hjobs, rfl, hskipped⟩ := toJson?_parts h
  have hv := readsAs_nat hversion
  have ht (s : String) := readsAs_text s
  have hm := readsAs_instant doc.timeBeforeFirstJob
  have hi := readsAs_array (fun _ _ _ => readsAs_input) hinputs
  have hj := readsAs_array (fun _ _ _ => Job.readsAs) hjobs
  have hr := readsAs_array_map doc.results fun entry _ => readsAs_result entry
  -- a document without skipped inputs and one with an empty list of them are kept apart
  have hs : (skipped = [] ∨ ∃ form, skipped = [("skipped_inputs", form)]) ∧
      (∀ member ∈ skipped, member.2.isWellFormed = true) ∧
      (givenSlot skipped "skipped_inputs").defaulted (nullable TypedPath.listOfJson?) none =
        some doc.skippedInputs := by
    obtain ⟨hnone, rfl⟩ | ⟨files, form, hsome, hform, rfl⟩ := hskipped
    · exact ⟨.inl rfl, by simp, congrArg some hnone.symm⟩
    · have hread := readsAs_skipped hform
      refine ⟨.inr ⟨form, rfl⟩, by simpa using hread.wellFormed, ?_⟩
      rw [hsome]
      exact hread.defaulted none
  refine ⟨?_, ?_⟩
  · rw [isWellFormed_record, List.all_append, Bool.and_eq_true]
    refine ⟨?_, List.all_eq_true.2 hs.2.1⟩
    simp [members, hv.wellFormed, (ht _).wellFormed, hi.wellFormed, hj.wellFormed, hr.wellFormed]
  · exact ofJson?_of_slots (slots_members doc inputs jobs hs.1) (hv.defaulted _) ((ht _).defaulted _)
      (ht _).required (ht _).required (hm.defaulted _) (hi.defaulted _) (hj.defaulted _)
      (hr.defaulted _) hs.2.2

theorem ofText?_text? {doc : Document} (hversion : doc.schemaVersion < UInt32.size) {text : String}
    (h : doc.text? = some text) : ofText? text = some doc := by
  obtain ⟨value, hvalue, rfl⟩ := Option.map_eq_some_iff.1 h
  have hread := readsAs hversion hvalue
  rw [ofText?, Json.ofText?_pretty hread.wellFormed, Option.bind_some, hread.read_eq]

end Document

/-! ## The record -/

/-- What is written has only absolute paths, and is the text of a document. -/
theorem spec_of_encode {record : BuildRecord} {text : String} (h : record.encode = .ok text) :
    (∀ path ∈ record.paths, path.isAbsolute = true) ∧ record.document.text? = some text := by
  rw [encode] at h
  split at h
  next => cases h
  next hpaths =>
    split at h
    next s hs =>
      refine ⟨fun path hpath => ?_, Except.ok.inj h ▸ hs⟩
      have hfine := List.find?_eq_none.1 hpaths path hpath
      simpa using hfine
    next => cases h

/-- What is read from the text of a record: the record, unless it lacks the version of its compiler or its
fingerprint is none. -/
def readBack (record : BuildRecord) : Except DecodeError BuildRecord :=
  if record.swiftVersion.isEmpty then .error .emptySwiftVersion
  else if !Fingerprint.isWellFormed record.argsHash then .error (.invalidArgsHash record.argsHash)
  else .ok record

theorem readBack_eq_ok {record found : BuildRecord} :
    record.readBack = .ok found ↔
      record.swiftVersion ≠ "" ∧ Fingerprint.isWellFormed record.argsHash = true ∧ found = record := by
  have hempty : record.swiftVersion.isEmpty = true ↔ record.swiftVersion = "" := by simp
  rw [readBack]
  split
  next h => simp [hempty.1 h]
  next h =>
    rw [hempty] at h
    cases Fingerprint.isWellFormed record.argsHash with
    | false => simp
    | true => simp [h, eq_comm]

/-- The document of a record describes this record, if it can describe any. -/
theorem ofDocument_document (record : BuildRecord) :
    ofDocument record.document = record.readBack := by
  have hsupported : record.document.isSupported = true := rfl
  have hskipped : (record.skippedInputs.map (·.keys)).map OrderedSet.ofList =
      record.skippedInputs := by
    cases record.skippedInputs with
    | none => rfl
    | some skipped => exact congrArg some (OrderedSet.ofList_toList skipped)
  rw [ofDocument, readBack, hsupported]
  simp only [document, OrderedMap.ofDistinct_entries, hskipped]
  rfl

/-- A written record reads back, up to the two checks that writing leaves out. -/
theorem decode_of_encode {record : BuildRecord} {text : String} (h : record.encode = .ok text) :
    decode text = record.readBack := by
  have hread := Document.ofText?_text? (by decide : schemaVersion < UInt32.size) (spec_of_encode h).2
  rw [decode, hread]
  exact ofDocument_document record

/-- Writing and reading lose nothing. A record with a compiler version and a fingerprint reads back as it
is, and is written the same way again; one without is refused for just that. No text of a record reads
as another one. -/
theorem encode_roundTrip {record : BuildRecord} {text : String} (h : record.encode = .ok text) :
    (record.swiftVersion ≠ "" → Fingerprint.isWellFormed record.argsHash = true →
      ∃ again, decode text = .ok again ∧ again = record ∧ again.encode = .ok text) ∧
    (record.swiftVersion = "" → decode text = .error .emptySwiftVersion) ∧
    (record.swiftVersion ≠ "" → Fingerprint.isWellFormed record.argsHash = false →
      decode text = .error (.invalidArgsHash record.argsHash)) ∧
    ∀ again, decode text = .ok again → again = record := by
  have hread := decode_of_encode h
  have hempty : record.swiftVersion.isEmpty = true ↔ record.swiftVersion = "" := by simp
  refine ⟨?_, ?_, ?_, ?_⟩
  · intro hversion hhash
    rw [readBack_eq_ok.2 ⟨hversion, hhash, rfl⟩] at hread
    exact ⟨record, hread, rfl, h⟩
  · intro hversion
    rw [hread, readBack, if_pos (hempty.2 hversion)]
  · intro hversion hhash
    rw [hread, readBack, if_neg (mt hempty.1 hversion), hhash]
    rfl
  · intro again hagain
    rw [hread] at hagain
    exact (readBack_eq_ok.1 hagain).2.2

/-- A record of a build that was stopped in a leap second: one job failed, one was killed, and an input
was skipped. -/
def stopped : BuildRecord :=
  let main : TypedPath := .ofInput (.ofString "/work/Ünïcødé/日本語.swift")
  let util : TypedPath := .ofInput (.ofString "/work//Util.swift")
  let object : TypedPath := ⟨.ofString "/work/.build/main.o", .object⟩
  let compile := Job.compile main [object]
  let link := Job.link [object] ⟨.ofString "/work/.build/App", .image⟩
  { swiftVersion := "Swift version 6.0 \"quoted\""
    argsHash := fingerprint []
    timeBeforeFirstJob := ⟨1483228799, 1500000000, by decide, by decide, by decide, by decide⟩
    jobs := [link, compile]
    results := .ofList [(compile.id, .failure (-1)), (link.id, .signalled 9)]
    skippedInputs := some (.ofList [util])
    inputDates := .ofList [(main, .epoch),
      (util, ⟨-62198755200, 5000, by decide, by decide, by decide, by decide⟩)] }

theorem encode_roundTrip_stopped : ∃ text, stopped.encode = .ok text ∧
    ∃ again, decode text = .ok again ∧ again = stopped ∧ again.encode = .ok text := by
  have hok : ∃ text, stopped.encode = .ok text := by
    cases h : stopped.encode with
    | ok text => exact ⟨text, rfl⟩
    | error e =>
      have hfine : (match stopped.encode with | .ok _ => true | .error _ => false) = true := by
        decide +kernel
      rw [h] at hfine
      cases hfine
  obtain ⟨text, h⟩ := hok
  exact ⟨text, h, (encode_roundTrip h).1 (by decide) (Fingerprint.isWellFormed_fingerprint [])⟩

end CompilerDriver.BuildRecord
