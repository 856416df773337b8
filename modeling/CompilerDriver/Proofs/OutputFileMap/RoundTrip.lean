import CompilerDriver.Proofs.BuildRecord.Writable
import CompilerDriver.Proofs.Path.Components
import CompilerDriver.Wire.OutputFileMap

/-!
# What output file maps answer, and that they are read back

A lookup in an output file map answers with the last declaration for that input and that type
(`output?_declareAll`). A map can be written if and only if all its paths are text (`isSome_text?`), and then the
document is read as the same map (`ofText?_text?`): both its levels list their keys in order, so no key gives way to
another one when they are inserted again.
-/

namespace CompilerDriver

/-! ## Declarations -/

/-- What an output file map is told: where to write one output of one input. -/
structure Declaration where
  input : Path
  type : FileType
  output : Path

/-- The declaration speaks of the input, however that is written, and of the type. -/
def Declaration.IsFor (declaration : Declaration) (input : Path) (type : FileType) : Prop :=
  declaration.input.components = input.components ∧ declaration.type = type

instance (declaration : Declaration) (input : Path) (type : FileType) :
    Decidable (declaration.IsFor input type) := inferInstanceAs (Decidable (_ ∧ _))

namespace OutputFileMap

/-- Makes some declarations on top of a map, one after the other. -/
def declareAll (map : OutputFileMap) (declarations : List Declaration) : OutputFileMap :=
  declarations.foldl (fun map declaration =>
    map.declare declaration.input declaration.type declaration.output) map

/-- The output that the last declaration for an input and a type says. -/
def lastDeclared? (declarations : List Declaration) (input : Path) (type : FileType) : Option Path :=
  (declarations.filter fun declaration => declaration.IsFor input type).getLast?.map (·.output)

variable {map : OutputFileMap} {declarations : List Declaration} {input : Path} {type : FileType}

theorem output?_declare_eq (map : OutputFileMap) (declaration : Declaration) (input : Path)
    (type : FileType) :
    (map.declare declaration.input declaration.type declaration.output).output? input type =
      if declaration.IsFor input type then some declaration.output else map.output? input type := by
  have hfor : compare input declaration.input = .eq ∧ compare type declaration.type = .eq ↔
      declaration.IsFor input type := by
    rw [Path.compare_eq_iff, FileType.compare_eq_iff, eq_comm, eq_comm (a := type)]
    rfl
  rw [output?_declare]
  by_cases h : declaration.IsFor input type
  · rw [if_pos (hfor.2 h), if_pos h]
  · rw [if_neg fun hsame => h (hfor.1 hsame), if_neg h]

theorem lastDeclared?_cons (declaration : Declaration) :
    lastDeclared? (declaration :: declarations) input type = (lastDeclared? declarations input type).or
      (if declaration.IsFor input type then some declaration.output else none) := by
  rw [lastDeclared?, lastDeclared?, List.filter_cons]
  split
  next hfor =>
    rw [if_pos (of_decide_eq_true hfor), List.getLast?_cons]
    cases (declarations.filter fun declaration => declaration.IsFor input type).getLast? <;> rfl
  next hother => rw [if_neg fun hfor => hother (decide_eq_true hfor), Option.or_none]

theorem output?_declareAll (map : OutputFileMap) (declarations : List Declaration) (input : Path)
    (type : FileType) : (map.declareAll declarations).output? input type =
      (lastDeclared? declarations input type).or (map.output? input type) := by
  induction declarations generalizing map with
  | nil => rfl
  | cons declaration rest ih =>
    have hrest : map.declareAll (declaration :: rest) =
        (map.declare declaration.input declaration.type declaration.output).declareAll rest := rfl
    rw [hrest, ih, output?_declare_eq, lastDeclared?_cons, Option.or_assoc]
    split <;> rfl

/-! ## Maps that can be written -/

/-- All paths of a map are text. -/
structure IsText (map : OutputFileMap) : Prop where
  inputs : ∀ entry ∈ map.entries, entry.1.IsText
  outputs : ∀ entry ∈ map.entries, ∀ output ∈ entry.2.entries, output.2.IsText

/-- The member that is written for an output. -/
def outputMember? (output : FileType × Path) : Option (String × Json) :=
  output.2.toJson?.map fun value => (output.1.name, value)

/-- The member that is written for an input. -/
def inputMember? (entry : Path × OrderedMap FileType Path) : Option (String × Json) :=
  entry.1.text?.bind fun name => (outputsToJson? entry.2).map fun value => (name, value)

theorem outputsToJson?_eq (outputs : OrderedMap FileType Path) :
    outputsToJson? outputs = (outputs.entries.mapM outputMember?).map Json.record := by
  have hmember : (fun output : FileType × Path => do return (output.1.name, ← output.2.toJson?)) =
      outputMember? := funext fun output => by
    rw [outputMember?]
    cases output.2.toJson? <;> rfl
  rw [outputsToJson?, ← hmember]
  exact Option.map_eq_bind.symm

theorem toJson?_eq (map : OutputFileMap) :
    map.toJson? = (map.entries.mapM inputMember?).map Json.record := by
  have hmember : (fun entry : Path × OrderedMap FileType Path => do
      return (← entry.1.text?, ← outputsToJson? entry.2)) = inputMember? := funext fun entry => by
    rw [inputMember?]
    cases entry.1.text? <;> cases outputsToJson? entry.2 <;> rfl
  rw [toJson?, ← hmember]
  exact Option.map_eq_bind.symm

theorem isSome_outputsToJson? {outputs : OrderedMap FileType Path} :
    (outputsToJson? outputs).isSome = true ↔ ∀ output ∈ outputs.entries, output.2.IsText := by
  have houtput (output : FileType × Path) : (outputMember? output).isSome = true ↔ output.2.IsText := by
    rw [outputMember?, Path.toJson?, Option.isSome_map, Option.isSome_map, Path.isSome_text?]
  simp only [outputsToJson?_eq, Option.isSome_map, Json.isSome_mapM, houtput]

theorem isSome_text? : map.text?.isSome = true ↔ map.IsText := by
  have hentry (entry : Path × OrderedMap FileType Path) : (inputMember? entry).isSome = true ↔
      entry.1.IsText ∧ ∀ output ∈ entry.2.entries, output.2.IsText := by
    rw [← Path.isSome_text?, ← isSome_outputsToJson?, inputMember?]
    cases entry.1.text? <;> simp
  simp only [text?, toJson?_eq, Option.isSome_map, Json.isSome_mapM, hentry]
  exact ⟨fun h => ⟨fun e he => (h e he).1, fun e he => (h e he).2⟩,
    fun h e he => ⟨h.inputs e he, h.outputs e he⟩⟩

/-! ## Maps read back -/

open Json

/-- The output that is read from a member. -/
def outputOf? (member : JsonText × Json) : Option (FileType × Path) := do
  return (← FileType.ofName? (← member.1), ← Path.ofJson? member.2)

/-- The input that is read from a member, with its outputs. -/
def inputOf? (member : JsonText × Json) : Option (Path × OrderedMap FileType Path) := do
  return (Path.ofString (← member.1), ← outputsOfJson? member.2)

theorem outputsOfJson?_object (members : List (JsonText × Json)) :
    outputsOfJson? (.object members) = (members.mapM outputOf?).map OrderedMap.empty.insertAll :=
  Option.map_eq_bind.symm

theorem ofJson?_object (members : List (JsonText × Json)) :
    ofJson? (.object members) = (members.mapM inputOf?).map OrderedMap.empty.insertAll :=
  Option.map_eq_bind.symm

theorem readsAs_outputs {outputs : OrderedMap FileType Path} {value : Json}
    (h : outputsToJson? outputs = some value) : ReadsAs outputsOfJson? value outputs := by
  rw [outputsToJson?_eq, Option.map_eq_some_iff] at h
  obtain ⟨members, hmembers, rfl⟩ := h
  have each : ∀ output ∈ outputs.entries, ∀ member, outputMember? output = some member →
      member.2.isWellFormed = true ∧ outputOf? (some member.1, member.2) = some output := by
    intro output _ member hmember
    obtain ⟨value, hvalue, rfl⟩ := Option.map_eq_some_iff.1 hmember
    have hpath := Path.readsAs hvalue
    refine ⟨hpath.wellFormed, ?_⟩
    simp [outputOf?, FileType.ofName?_name, hpath.read_eq]
  obtain ⟨hwell, hread⟩ := mapM_members each hmembers
  refine ⟨hwell, ?_⟩
  rw [record, outputsOfJson?_object, hread, Option.map_some, OrderedMap.insertAll_entries]

theorem readsAs {value : Json} (h : map.toJson? = some value) : ReadsAs ofJson? value map := by
  rw [toJson?_eq, Option.map_eq_some_iff] at h
  obtain ⟨members, hmembers, rfl⟩ := h
  have each : ∀ entry ∈ map.entries, ∀ member, inputMember? entry = some member →
      member.2.isWellFormed = true ∧ inputOf? (some member.1, member.2) = some entry := by
    intro entry _ member hmember
    obtain ⟨name, hname, hmember⟩ := Option.bind_eq_some_iff.1 hmember
    obtain ⟨value, hvalue, rfl⟩ := Option.map_eq_some_iff.1 hmember
    have houtputs := readsAs_outputs hvalue
    refine ⟨houtputs.wellFormed, ?_⟩
    simp [inputOf?, Path.ofString_of_text? hname, houtputs.read_eq]
  obtain ⟨hwell, hread⟩ := mapM_members each hmembers
  refine ⟨hwell, ?_⟩
  rw [record, ofJson?_object, hread, Option.map_some, OrderedMap.insertAll_entries]

theorem ofText?_text? {document : String} (h : map.text? = some document) : ofText? document = some map := by
  obtain ⟨value, hvalue, rfl⟩ := Option.map_eq_some_iff.1 h
  have hread := readsAs hvalue
  rw [ofText?, Json.ofText?_pretty hread.wellFormed, Option.bind_some, hread.read_eq]

/-! ## The laws of output file maps -/

/-- A lookup answers with the last declaration for the input and the type, or else as the map did before; the module
as a whole is the input without components, which `.` is not. A map is written if and only if all its paths are
text, and read back as itself, so it answers as before and is written as before. -/
theorem declared_roundTrip (map : OutputFileMap) :
    (∀ declarations input type, (map.declareAll declarations).output? input type =
      (lastDeclared? declarations input type).or (map.output? input type)) ∧
    (∀ declarations type, (map.declareAll declarations).moduleOutput? type =
      (lastDeclared? declarations .empty type).or (map.moduleOutput? type)) ∧
    Path.empty.components ≠ (Path.ofString ".").components ∧
    ((∃ document, map.text? = some document) ↔ map.IsText) ∧
    ∀ document, map.text? = some document → ∃ found, ofText? document = some found ∧ found = map ∧
      (∀ input type, found.output? input type = map.output? input type) ∧
      (∀ type, found.moduleOutput? type = map.moduleOutput? type) ∧ found.text? = some document := by
  refine ⟨?declared, ?module, by decide, ?writable, ?readBack⟩
  case declared => exact fun declarations input type => output?_declareAll map declarations input type
  case module => exact fun declarations type => output?_declareAll map declarations .empty type
  case writable => rw [← Option.isSome_iff_exists, isSome_text?]
  case readBack =>
    exact fun document h => ⟨map, ofText?_text? h, rfl, fun _ _ => rfl, fun _ => rfl, h⟩

end OutputFileMap

end CompilerDriver
