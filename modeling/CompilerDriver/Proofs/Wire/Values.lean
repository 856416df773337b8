import CompilerDriver.Proofs.BuildRecord.Writable
import CompilerDriver.Proofs.Json.Strict
import CompilerDriver.Wire.Diagnostic
import CompilerDriver.Wire.Plan
import CompilerDriver.Wire.Settings

/-!
# What is written on the wire is read as itself

All values that the driver both writes and reads are read as what they were written for, in either layout
(`wire_roundTrip`). Nothing but a path that is no text keeps a value from being written.

A field that is left out, or written as `null`, has to be read as nothing. Fields that may be missing are taken apart
by `ReadsAs.nullable` where they are written as `null`, and by `numberSlot` where they are left out.
-/

namespace CompilerDriver

namespace Json

variable {α : Type} {read : Json → Option α} {write : α → Json} {value : Json} {a : α}

/-! ## Fields that may be missing -/

theorem readsAs_null (read : Json → Option α) : ReadsAs (nullable read) .null none := ⟨rfl, rfl⟩

theorem ReadsAs.nullable (h : ReadsAs read value a) (hnull : read .null = none) :
    ReadsAs (nullable read) value (some a) := by
  refine ⟨h.wellFormed, ?_⟩
  cases value with
  | null =>
    rw [h.read_eq] at hnull
    cases hnull
  | _ => exact congrArg (Option.map some) h.read_eq

theorem readsAs_ofOption (each : ∀ a, ReadsAs read (write a) a) (hnull : read .null = none) (x : Option α) :
    ReadsAs (nullable read) (ofOption (x.map write)) x := by
  cases x with
  | none => exact readsAs_null read
  | some a => exact (each a).nullable hnull

theorem ReadsAs.optional {x : Option α} (h : ReadsAs (Json.nullable read) value x) :
    (Slot.given value).optional read = some x := h.read_eq

/-! ## Written and read back -/

/-- The value is read as `a`, and so are the documents that hold it in the two layouts. -/
structure ReadsBack (read : Json → Option α) (value : Json) (a : α) : Prop where
  read_eq : read value = some a
  compact : (ofText? value.compact).bind read = some a
  pretty : (ofText? value.pretty).bind read = some a

theorem ReadsAs.readsBack (h : ReadsAs read value a) : ReadsBack read value a := by
  have hcompact : ofText? value.compact = some value := by
    rw [ofText?, compact, String.toList_ofList, ofChars?_write .compact 0 h.wellFormed]
  have hpretty : ofText? value.pretty = some value := ofText?_pretty h.wellFormed
  exact {
    read_eq := h.read_eq
    compact := by rw [hcompact, Option.bind_some, h.read_eq]
    pretty := by rw [hpretty, Option.bind_some, h.read_eq] }

/-- What is written is read back, and writing fails only for paths that are no text. -/
structure IsTwoWay (write : α → Option Json) (read : Json → Option α) (paths : α → List Path) : Prop where
  fails_iff (a : α) : write a = none ↔ ∃ path ∈ paths a, ¬path.IsText
  readsBack (a : α) : (∀ path ∈ paths a, path.IsText) →
    ∃ value, write a = some value ∧ ReadsBack read value a

theorem IsTwoWay.of_readsAs {write : α → Option Json} {paths : α → List Path}
    (hwritten : ∀ a, (write a).isSome = true ↔ ∀ path ∈ paths a, path.IsText)
    (hread : ∀ a value, write a = some value → ReadsAs read value a) : IsTwoWay write read paths where
  fails_iff a := by
    rw [← Option.not_isSome_iff_eq_none, hwritten]
    simp only [Classical.not_forall, exists_prop]
  readsBack a := by
    intro htext
    obtain ⟨value, hvalue⟩ := Option.isSome_iff_exists.1 ((hwritten a).2 htext)
    exact ⟨value, hvalue, (hread a value hvalue).readsBack⟩

end Json

open Json

/-! ## Names -/

theorem Severity.readsAs (severity : Severity) : ReadsAs Severity.ofJson? severity.toJson severity := by
  cases severity <;> exact ⟨rfl, rfl⟩

theorem Personality.readsAs (personality : Personality) :
    ReadsAs Personality.ofJson? personality.toJson personality := by
  cases personality <;> exact ⟨rfl, rfl⟩

theorem Linkage.readsAs (linkage : Linkage) : ReadsAs Linkage.ofJson? linkage.toJson linkage := by
  cases linkage <;> exact ⟨rfl, rfl⟩

/-! ## Records with all their fields -/

theorem Diagnostic.readsAs (d : Diagnostic) : ReadsAs Diagnostic.ofJson? d.toJson d := by
  have hseverity := Severity.readsAs d.severity
  have hmessage := readsAs_text d.message
  refine ⟨?_, ?_⟩
  · rw [toJson, isWellFormed_record]
    simp [hseverity.wellFormed, hmessage.wellFormed]
  · rw [toJson, ofJson?, slots_record _ rfl]
    simp [fieldNames, givenSlot, hseverity.required, hmessage.required]

theorem JobResult.readsAs (result : JobResult) : ReadsAs JobResult.ofJson? result.toJson result := by
  have hexit := ProcessExit.readsAs result.exit
  have hgraph := readsAs_bool result.leftDependencyGraph
  refine ⟨?_, ?_⟩
  · rw [toJson, isWellFormed_record]
    simp [hexit.wellFormed, hgraph.wellFormed]
  · rw [toJson, ofJson?, slots_record _ rfl]
    simp [fieldNames, givenSlot, hexit.required, hgraph.defaulted]

theorem Products.readsAs (products : Products) : ReadsAs Products.ofJson? products.toJson products := by
  have hcompiled := readsAs_ofOption FileType.readsAs rfl products.compiled
  have hlinked := readsAs_ofOption Linkage.readsAs rfl products.linked
  refine ⟨?_, ?_⟩
  · rw [toJson, isWellFormed_record]
    simp [hcompiled.wellFormed, hlinked.wellFormed]
  · rw [toJson, ofJson?, slots_record _ rfl]
    simp [fieldNames, givenSlot, hcompiled.optional, hlinked.optional]

namespace Settings

variable {settings : Settings} {value : Json}

/-- What settings are written as, once the working directory is. -/
def form (settings : Settings) (directory : Json) : Json :=
  .record [("swift_version", .ofOption (settings.swiftVersion.map .text)), ("working_directory", directory),
    ("driver_kind", .ofOption (settings.personality.map Personality.toJson)),
    ("log_filter", .ofOption (settings.logFilter.map .text))]

theorem toJson?_eq (settings : Settings) : settings.toJson? =
    (settings.workingDirectory.elim (some .null) Path.toJson?).map settings.form := by
  rw [toJson?]
  cases settings.workingDirectory with
  | none => rfl
  | some path =>
    show path.toJson?.bind _ = path.toJson?.map _
    cases path.toJson? <;> rfl

theorem isSome_toJson? : settings.toJson?.isSome = true ↔
    ∀ path ∈ settings.workingDirectory.toList, path.IsText := by
  rw [toJson?_eq, Option.isSome_map]
  cases settings.workingDirectory with
  | none => simp
  | some path => simp [Path.toJson?, ← Path.isSome_text?]

theorem readsAs (h : settings.toJson? = some value) : ReadsAs Settings.ofJson? value settings := by
  rw [toJson?_eq, Option.map_eq_some_iff] at h
  obtain ⟨directory, hwritten, rfl⟩ := h
  have hversion := readsAs_ofOption readsAs_text rfl settings.swiftVersion
  have hpersonality := readsAs_ofOption Personality.readsAs rfl settings.personality
  have hfilter := readsAs_ofOption readsAs_text rfl settings.logFilter
  have hdirectory : ReadsAs (nullable Path.ofJson?) directory settings.workingDirectory := by
    cases hsome : settings.workingDirectory with
    | none =>
      rw [hsome] at hwritten
      obtain rfl := Option.some.inj hwritten
      exact readsAs_null Path.ofJson?
    | some path =>
      rw [hsome] at hwritten
      exact (Path.readsAs hwritten).nullable rfl
  refine ⟨?_, ?_⟩
  · rw [form, isWellFormed_record]
    simp [hversion.wellFormed, hdirectory.wellFormed, hpersonality.wellFormed, hfilter.wellFormed]
  · rw [form, ofJson?, slots_record _ rfl]
    simp [fieldNames, givenSlot, hasOnlyFields, record, hversion.optional, hdirectory.optional,
      hpersonality.optional, hfilter.optional]

end Settings

/-! ## Modes and the parameters of batches -/

namespace BatchParameters

/-- The slot of a number that is left out where there is none. -/
def numberSlot : Option UInt64 → Slot
  | some n => .given (.nat n.toNat)
  | none => .omitted

theorem readsAs_uint64 (n : UInt64) : ReadsAs uint64? (.nat n.toNat) n := by
  have hnat := readsAs_nat n.toNat_lt_size
  refine ⟨hnat.wellFormed, ?_⟩
  rw [uint64?, hnat.read_eq, Option.map_some, UInt64.ofNat_toNat]

theorem optional_numberSlot (n : Option UInt64) : (numberSlot n).optional uint64? = some n := by
  cases n with
  | none => rfl
  | some n => exact ((readsAs_uint64 n).nullable rfl).optional

/-- What is written for parameters are numbers that a word can hold. -/
theorem exists_of_mem_members {parameters : BatchParameters} {member : String × Json}
    (h : member ∈ parameters.members) : ∃ n : UInt64, member.2 = .nat n.toNat := by
  simp only [members, List.mem_append, List.mem_map] at h
  rcases h with (⟨n, -, rfl⟩ | ⟨n, -, rfl⟩) | ⟨n, -, rfl⟩ <;> exact ⟨n, rfl⟩

/-- The name of a mode in front of the parameters does not matter. -/
theorem ofJson?_record (parameters : BatchParameters) {front : List (String × Json)}
    (h : front = [] ∨ ∃ tag, front = [("mode", tag)]) :
    ofJson? (.record (front ++ parameters.members)) = some parameters := by
  obtain ⟨seed, count, sizeLimit⟩ := parameters
  have hslots : (record (front ++ members ⟨seed, count, sizeLimit⟩)).slots fieldNames =
      some [numberSlot seed, numberSlot count, numberSlot sizeLimit] := by
    obtain rfl | ⟨tag, rfl⟩ := h <;> cases seed <;> cases count <;> cases sizeLimit <;>
      exact slots_record fieldNames rfl
  rw [ofJson?, hslots]
  simp [optional_numberSlot]

theorem readsAs (parameters : BatchParameters) :
    ReadsAs BatchParameters.ofJson? parameters.toJson parameters := by
  refine ⟨?_, ofJson?_record parameters (.inl rfl)⟩
  rw [toJson, isWellFormed_record, List.all_eq_true]
  intro member hmember
  obtain ⟨n, hn⟩ := exists_of_mem_members hmember
  rw [hn]
  exact (readsAs_uint64 n).wellFormed

end BatchParameters

namespace Mode

/-- The members that stand for the parameters of a mode. -/
def parameterMembers (mode : Mode) : List (String × Json) :=
  match mode.batchParameters? with
  | some parameters => parameters.members
  | none => []

theorem toJson_eq (mode : Mode) : mode.toJson = .record (("mode", .text mode.tag) :: mode.parameterMembers) := rfl

/-- A mode is written as texts and numbers. -/
theorem scalar_of_mem {mode : Mode} {member : String × Json}
    (h : member ∈ ("mode", .text mode.tag) :: mode.parameterMembers) :
    (∃ s, member.2 = .text s) ∨ ∃ n : UInt64, member.2 = .nat n.toNat := by
  rcases List.mem_cons.1 h with rfl | h
  · exact .inl ⟨mode.tag, rfl⟩
  · cases mode with
    | batchCompile parameters => exact .inr (BatchParameters.exists_of_mem_members h)
    | _ => cases h

theorem isStrict_toJson (mode : Mode) : mode.toJson.isStrict = true := by
  rw [toJson_eq]
  apply isStrict_record
  intro member hmember
  rcases scalar_of_mem hmember with ⟨s, hs⟩ | ⟨n, hn⟩
  · rw [hs]
    exact ⟨rfl, rfl⟩
  · rw [hn]
    exact ⟨rfl, JsonNumber.isFinite_integer false n.toNat_lt_size⟩

theorem slots_toJson (mode : Mode) : mode.toJson.slots ["mode"] = some [.given (.text mode.tag)] := by
  cases mode with
  | batchCompile parameters =>
    obtain ⟨seed, count, sizeLimit⟩ := parameters
    cases seed <;> cases count <;> cases sizeLimit <;> exact slots_record ["mode"] rfl
  | _ => exact slots_record ["mode"] rfl

theorem ofTag?_tag (mode : Mode) : ofTag? mode.tag mode.toJson = some mode := by
  cases mode with
  | batchCompile parameters =>
    have hread := BatchParameters.ofJson?_record parameters (.inr ⟨.text "batch-compile", rfl⟩)
    show (BatchParameters.ofJson? _).map Mode.batchCompile = _
    rw [toJson_eq]
    exact congrArg (Option.map Mode.batchCompile) hread
  | _ => rfl

theorem readsAs (mode : Mode) : ReadsAs Mode.ofJson? mode.toJson mode := by
  refine ⟨?_, ?_⟩
  · rw [toJson_eq, isWellFormed_record, List.all_eq_true]
    intro member hmember
    rcases scalar_of_mem hmember with ⟨s, hs⟩ | ⟨n, hn⟩
    · rw [hs]
      rfl
    · rw [hn]
      rfl
  · have hstrict := isStrict_toJson mode
    have hslots := slots_toJson mode
    have htag := ofTag?_tag mode
    obtain ⟨members, hobject⟩ : ∃ members, mode.toJson = .object members := ⟨_, rfl⟩
    rw [hobject] at hstrict hslots htag ⊢
    rw [ofJson?.eq_def, if_pos hstrict]
    simp only [hslots, Option.bind_eq_bind, Option.bind_some, (readsAs_text mode.tag).required, htag]

end Mode

/-! ## All of them -/

/-- All that is both written and read:

* modes, with the parameters of batches if they have any, diagnostics, results of jobs, and products are always
  written and read back;
* jobs, files and settings are written and read back if their paths are text, and not written otherwise. -/
theorem wire_roundTrip :
    (∀ mode : Mode, ReadsBack Mode.ofJson? mode.toJson mode) ∧
    (∀ parameters : BatchParameters, ReadsBack BatchParameters.ofJson? parameters.toJson parameters) ∧
    (∀ d : Diagnostic, ReadsBack Diagnostic.ofJson? d.toJson d) ∧
    (∀ result : JobResult, ReadsBack JobResult.ofJson? result.toJson result) ∧
    (∀ products : Products, ReadsBack Products.ofJson? products.toJson products) ∧
    IsTwoWay Job.toJson? Job.ofJson? Job.paths ∧
    IsTwoWay TypedPath.toJson? TypedPath.ofJson? (fun file => [file.path]) ∧
    IsTwoWay Settings.toJson? Settings.ofJson? (fun settings => settings.workingDirectory.toList) := by
  refine ⟨fun mode => mode.readsAs.readsBack, fun parameters => parameters.readsAs.readsBack,
    fun d => d.readsAs.readsBack, fun result => result.readsAs.readsBack,
    fun products => products.readsAs.readsBack, ?job, ?file, ?settings⟩
  case job =>
    apply IsTwoWay.of_readsAs
    · intro job
      exact Job.isSome_toJson?
    · intro job value h
      exact Job.readsAs h
  case file =>
    apply IsTwoWay.of_readsAs
    · intro file
      simp [TypedPath.isSome_toJson?]
    · intro file value h
      exact TypedPath.readsAs h
  case settings =>
    apply IsTwoWay.of_readsAs
    · intro settings
      exact Settings.isSome_toJson?
    · intro settings value h
      exact Settings.readsAs h

/-- The count and the size limit are left out. -/
example : (Mode.batchCompile { seed := some 7 }).toJson.compact =
    "\x7b\"mode\":\"batch-compile\",\"seed\":7\x7d" := by decide +kernel

end CompilerDriver
