import CompilerDriver.Proofs.BuildRecord.RoundTrip

/-!
# Records that can be written

Whether a record can be written is decided by the paths that it mentions, and by nothing else in it: all of them
have to be absolute, and all of them have to be text (`encode_spec`). If some path is relative, the first one is
reported, whatever else is wrong: the inputs of the compilation come first, then the skipped inputs, then the
jobs as they were planned, and of each job its inputs, its primary inputs, and its outputs. What record mentions
which paths (`Mentions`), and which of them is the first (`FirstRelative`), is said here without the list that
the writer goes through.
-/

namespace CompilerDriver

/-- The path is written like a text. -/
def Path.IsText (path : Path) : Prop := ∃ s : String, Path.ofString s = path

/-- The paths of all files are absolute. -/
def TypedPath.AllAbsolute (files : List TypedPath) : Prop := ∀ file ∈ files, file.path.isAbsolute = true

/-- The path is that of the first file with a relative one. -/
def TypedPath.FirstRelative (files : List TypedPath) (path : Path) : Prop :=
  ∃ before file after, files = before ++ file :: after ∧ TypedPath.AllAbsolute before ∧
    file.path.isAbsolute = false ∧ file.path = path

namespace Job

open TypedPath (AllAbsolute)

/-- The paths of all files of the job are absolute. -/
structure IsRooted (job : Job) : Prop where
  inputs : AllAbsolute job.inputs
  primaryInputs : AllAbsolute job.primaryInputs
  outputs : AllAbsolute job.outputs

/-- The path is the first relative one of the job: inputs come first, then primary inputs, then outputs. -/
inductive FirstRelative (job : Job) (path : Path) : Prop
  | input (h : TypedPath.FirstRelative job.inputs path)
  | primaryInput (hinputs : AllAbsolute job.inputs) (h : TypedPath.FirstRelative job.primaryInputs path)
  | output (hinputs : AllAbsolute job.inputs) (hprimary : AllAbsolute job.primaryInputs)
    (h : TypedPath.FirstRelative job.outputs path)

end Job

namespace BuildRecord

open TypedPath (AllAbsolute)

/-- The skipped inputs in their order. A record that does not speak of skipped inputs has none. -/
def skippedFiles (record : BuildRecord) : List TypedPath :=
  match record.skippedInputs with
  | some skipped => skipped.toList
  | none => []

/-- The record mentions the path. -/
inductive Mentions (record : BuildRecord) : Path → Prop
  | input {file : TypedPath} (h : file ∈ record.inputDates.keys) : Mentions record file.path
  | skipped {file : TypedPath} (h : file ∈ record.skippedFiles) : Mentions record file.path
  | jobInput {job : Job} {file : TypedPath} (hjob : job ∈ record.jobs) (h : file ∈ job.inputs) :
    Mentions record file.path
  | jobPrimaryInput {job : Job} {file : TypedPath} (hjob : job ∈ record.jobs)
    (h : file ∈ job.primaryInputs) : Mentions record file.path
  | jobOutput {job : Job} {file : TypedPath} (hjob : job ∈ record.jobs) (h : file ∈ job.outputs) :
    Mentions record file.path

/-- The path is the first relative one of the record. -/
inductive FirstRelative (record : BuildRecord) (path : Path) : Prop
  | input (h : TypedPath.FirstRelative record.inputDates.keys path)
  | skipped (hinputs : AllAbsolute record.inputDates.keys)
    (h : TypedPath.FirstRelative record.skippedFiles path)
  | job (hinputs : AllAbsolute record.inputDates.keys) (hskipped : AllAbsolute record.skippedFiles)
    (before : List Job) (job : Job) (after : List Job) (hjobs : record.jobs = before ++ job :: after)
    (hbefore : ∀ earlier ∈ before, earlier.IsRooted) (h : job.FirstRelative path)

end BuildRecord

/-! ## The first relative path -/

namespace TypedPath

variable {files : List TypedPath} {path : Path}

theorem find?_paths :
    (files.map (·.path)).find? (fun path => !path.isAbsolute) = some path ↔ FirstRelative files path := by
  rw [List.find?_map, Option.map_eq_some_iff]
  simp only [List.find?_eq_some_iff_append, Function.comp_apply, Bool.not_eq_true', Bool.not_not]
  constructor
  · rintro ⟨file, ⟨hrelative, before, after, hfiles, hbefore⟩, hpath⟩
    exact ⟨before, file, after, hfiles, hbefore, hrelative, hpath⟩
  · rintro ⟨before, file, after, hfiles, hbefore, hrelative, hpath⟩
    exact ⟨file, ⟨hrelative, before, after, hfiles, hbefore⟩, hpath⟩

theorem find?_paths_eq_none :
    (files.map (·.path)).find? (fun path => !path.isAbsolute) = none ↔ AllAbsolute files := by
  simp [AllAbsolute]

end TypedPath

namespace Job

theorem find?_paths {job : Job} {path : Path} :
    job.paths.find? (fun path => !path.isAbsolute) = some path ↔ job.FirstRelative path := by
  rw [paths, files, List.map_append, List.map_append, List.find?_append, List.find?_append,
    Option.or_eq_some_iff, Option.or_eq_some_iff, Option.or_eq_none_iff]
  simp only [TypedPath.find?_paths, TypedPath.find?_paths_eq_none]
  constructor
  · rintro ((h | ⟨hinputs, h⟩) | ⟨⟨hinputs, hprimary⟩, h⟩)
    · exact .input h
    · exact .primaryInput hinputs h
    · exact .output hinputs hprimary h
  · intro h
    cases h with
    | input h => exact .inl (.inl h)
    | primaryInput hinputs h => exact .inl (.inr ⟨hinputs, h⟩)
    | output hinputs hprimary h => exact .inr ⟨⟨hinputs, hprimary⟩, h⟩

theorem find?_paths_eq_none {job : Job} :
    job.paths.find? (fun path => !path.isAbsolute) = none ↔ job.IsRooted := by
  rw [paths, files, List.map_append, List.map_append, List.find?_append, List.find?_append,
    Option.or_eq_none_iff, Option.or_eq_none_iff]
  simp only [TypedPath.find?_paths_eq_none]
  constructor
  · rintro ⟨⟨hinputs, hprimary⟩, houtputs⟩
    exact ⟨hinputs, hprimary, houtputs⟩
  · rintro ⟨hinputs, hprimary, houtputs⟩
    exact ⟨⟨hinputs, hprimary⟩, houtputs⟩

end Job

namespace BuildRecord

variable {record : BuildRecord} {path : Path}

theorem paths_eq (record : BuildRecord) : record.paths =
    record.inputDates.keys.map (·.path) ++ record.skippedFiles.map (·.path) ++
      record.jobs.flatMap Job.paths := by
  rw [paths, skippedFiles]
  cases record.skippedInputs <;> rfl

theorem mem_paths : path ∈ record.paths ↔ record.Mentions path := by
  simp only [paths_eq, Job.paths, Job.files, List.mem_append, List.mem_map, List.mem_flatMap]
  constructor
  · rintro ((⟨file, hfile, rfl⟩ | ⟨file, hfile, rfl⟩) |
      ⟨job, hjob, file, (hfile | hfile) | hfile, rfl⟩)
    · exact .input hfile
    · exact .skipped hfile
    · exact .jobInput hjob hfile
    · exact .jobPrimaryInput hjob hfile
    · exact .jobOutput hjob hfile
  · intro h
    cases h with
    | input hfile => exact .inl (.inl ⟨_, hfile, rfl⟩)
    | skipped hfile => exact .inl (.inr ⟨_, hfile, rfl⟩)
    | jobInput hjob hfile => exact .inr ⟨_, hjob, _, .inl (.inl hfile), rfl⟩
    | jobPrimaryInput hjob hfile => exact .inr ⟨_, hjob, _, .inl (.inr hfile), rfl⟩
    | jobOutput hjob hfile => exact .inr ⟨_, hjob, _, .inr hfile, rfl⟩

theorem find?_paths :
    record.paths.find? (fun path => !path.isAbsolute) = some path ↔ record.FirstRelative path := by
  rw [paths_eq, List.find?_append, List.find?_append, List.find?_flatMap, Option.or_eq_some_iff,
    Option.or_eq_some_iff, Option.or_eq_none_iff, List.findSome?_eq_some_iff]
  simp only [TypedPath.find?_paths, TypedPath.find?_paths_eq_none, Job.find?_paths, Job.find?_paths_eq_none]
  constructor
  · rintro ((h | ⟨hinputs, h⟩) | ⟨⟨hinputs, hskipped⟩, before, job, after, hjobs, h, hbefore⟩)
    · exact .input h
    · exact .skipped hinputs h
    · exact .job hinputs hskipped before job after hjobs hbefore h
  · intro h
    cases h with
    | input h => exact .inl (.inl h)
    | skipped hinputs h => exact .inl (.inr ⟨hinputs, h⟩)
    | job hinputs hskipped before job after hjobs hbefore h =>
      exact .inr ⟨⟨hinputs, hskipped⟩, before, job, after, hjobs, h, hbefore⟩

theorem find?_paths_eq_none : record.paths.find? (fun path => !path.isAbsolute) = none ↔
    ∀ path, record.Mentions path → path.isAbsolute = true := by
  simp [← mem_paths]

end BuildRecord

/-! ## Paths that are no text -/

open Json

theorem Path.isSome_text? {path : Path} : path.text?.isSome = true ↔ path.IsText := by
  rw [Option.isSome_iff_exists]
  constructor
  · rintro ⟨s, hs⟩
    exact ⟨s, ofString_of_text? hs⟩
  · rintro ⟨s, rfl⟩
    exact ⟨s, text?_ofString s⟩

/-- A list is written if each of its items is. -/
theorem Json.isSome_mapM {α β : Type} {write : α → Option β} {l : List α} :
    (l.mapM write).isSome = true ↔ ∀ a ∈ l, (write a).isSome = true := by
  induction l with
  | nil => simp
  | cons a l ih =>
    rw [List.mapM_cons, List.forall_mem_cons, ← ih]
    cases write a <;> cases l.mapM write <;> simp

theorem TypedPath.isSome_toJson? {file : TypedPath} : file.toJson?.isSome = true ↔ file.path.IsText := by
  rw [← Path.isSome_text?, toJson?, Path.toJson?]
  cases file.path.text? <;> simp

theorem TypedPath.isSome_listToJson? {files : List TypedPath} :
    (listToJson? files).isSome = true ↔ ∀ file ∈ files, file.path.IsText := by
  simp only [listToJson?, Option.isSome_map, isSome_mapM, isSome_toJson?]

theorem Job.isSome_toJson? {job : Job} : job.toJson?.isSome = true ↔ ∀ path ∈ job.paths, path.IsText := by
  have hpaths : (∀ path ∈ job.paths, path.IsText) ↔
      (TypedPath.listToJson? job.inputs).isSome = true ∧
      (TypedPath.listToJson? job.primaryInputs).isSome = true ∧
      (TypedPath.listToJson? job.outputs).isSome = true := by
    simp only [TypedPath.isSome_listToJson?, paths, files, List.forall_mem_map, List.forall_mem_append,
      and_assoc]
  rw [hpaths, toJson?]
  cases TypedPath.listToJson? job.inputs <;> cases TypedPath.listToJson? job.primaryInputs <;>
    cases TypedPath.listToJson? job.outputs <;> simp

namespace BuildRecord

variable {record : BuildRecord}

theorem Document.isSome_text? {doc : Document} : doc.text?.isSome = true ↔
    (∀ entry ∈ doc.inputs, entry.1.path.IsText) ∧
      (∀ files, doc.skippedInputs = some files → ∀ file ∈ files, file.path.IsText) ∧
      ∀ job ∈ doc.jobs, ∀ path ∈ job.paths, path.IsText := by
  have hinput (entry : TypedPath × Instant) :
      (inputToJson? entry).isSome = true ↔ entry.1.path.IsText := by
    rw [← Path.isSome_text?, inputToJson?, Path.toJson?]
    cases entry.1.path.text? <;> simp
  simp only [← hinput, ← Job.isSome_toJson?, ← isSome_mapM, ← TypedPath.isSome_listToJson?]
  rw [text?, Option.isSome_map, toJson?]
  cases doc.inputs.mapM inputToJson? with
  | none => simp
  | some inputs =>
    cases doc.jobs.mapM Job.toJson? with
    | none => simp
    | some jobs =>
      cases doc.skippedInputs with
      | none => simp
      | some files => cases hfiles : TypedPath.listToJson? files <;> simp [hfiles]

theorem isSome_document_text? :
    record.document.text?.isSome = true ↔ ∀ path, record.Mentions path → path.IsText := by
  have hinputs : (∀ entry ∈ record.document.inputs, entry.1.path.IsText) ↔
      ∀ path ∈ record.inputDates.keys.map (·.path), path.IsText := by
    simp only [document, OrderedMap.keys, List.forall_mem_map]
  have hskipped : (∀ files, record.document.skippedInputs = some files → ∀ file ∈ files, file.path.IsText) ↔
      ∀ path ∈ record.skippedFiles.map (·.path), path.IsText := by
    rw [document, skippedFiles]
    cases record.skippedInputs <;> simp [OrderedSet.toList]
  have hjobs : (∀ job ∈ record.document.jobs, ∀ path ∈ job.paths, path.IsText) ↔
      ∀ path ∈ record.jobs.flatMap Job.paths, path.IsText := by
    simp [document, forall_comm (α := Path)]
  rw [Document.isSome_text?, hinputs, hskipped, hjobs, ← and_assoc, ← List.forall_mem_append,
    ← List.forall_mem_append, ← paths_eq]
  simp only [mem_paths]

/-! ## What comes of writing a record -/

theorem exists_encode_iff : (∃ text, record.encode = .ok text) ↔
    (record.paths.find? fun path => !path.isAbsolute) = none ∧ record.document.text?.isSome = true := by
  rw [encode]
  cases record.paths.find? fun path => !path.isAbsolute with
  | some path => simp
  | none => cases record.document.text? <;> simp

theorem encode_eq_notAbsolute {path : Path} : record.encode = .error (.notAbsolute path) ↔
    (record.paths.find? fun path => !path.isAbsolute) = some path := by
  rw [encode]
  cases record.paths.find? fun path => !path.isAbsolute with
  | some first => simp
  | none => cases record.document.text? <;> simp

theorem encode_eq_notText : record.encode = .error .notText ↔
    (record.paths.find? fun path => !path.isAbsolute) = none ∧ ¬record.document.text?.isSome = true := by
  rw [encode]
  cases record.paths.find? fun path => !path.isAbsolute with
  | some path => simp
  | none => cases record.document.text? <;> simp

/-- A record is written if and only if all paths in it are absolute and text. If some path is relative, writing it
fails with the first one. If all are absolute, but some is no text, it fails for that. -/
theorem encode_spec (record : BuildRecord) :
    ((∃ text, record.encode = .ok text) ↔
      ∀ path, record.Mentions path → path.isAbsolute = true ∧ path.IsText) ∧
    (∀ path, record.encode = .error (.notAbsolute path) ↔ record.FirstRelative path) ∧
    ((∃ path, record.encode = .error (.notAbsolute path)) ↔
      ∃ path, record.Mentions path ∧ path.isAbsolute = false) ∧
    (record.encode = .error .notText ↔
      (∀ path, record.Mentions path → path.isAbsolute = true) ∧
        ∃ path, record.Mentions path ∧ ¬path.IsText) := by
  refine ⟨?_, fun path => encode_eq_notAbsolute.trans find?_paths, ?_, ?_⟩
  · rw [exists_encode_iff, find?_paths_eq_none, isSome_document_text?]
    exact ⟨fun h path hpath => ⟨h.1 path hpath, h.2 path hpath⟩,
      fun h => ⟨fun path hpath => (h path hpath).1, fun path hpath => (h path hpath).2⟩⟩
  · simp only [encode_eq_notAbsolute, ← Option.isSome_iff_exists, List.find?_isSome, mem_paths,
      Bool.not_eq_true']
  · rw [encode_eq_notText, find?_paths_eq_none, isSome_document_text?]
    simp only [Classical.not_forall, exists_prop]

/-- A record that is wrong in two ways: an input is no text, and an output is relative. -/
example : encode { stopped with
    inputDates := .ofList [(.ofInput ⟨[47, 255]⟩, .epoch)]
    jobs := [Job.link [] ⟨.ofString "App", .image⟩] } = .error (.notAbsolute (.ofString "App")) :=
  encode_eq_notAbsolute.2 (by decide +kernel)

end BuildRecord

end CompilerDriver
