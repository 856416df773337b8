import Mathlib.Data.List.Nodup
import CompilerDriver.Proofs.BuildRecord.RoundTrip
import CompilerDriver.Proofs.Json.Documents
import CompilerDriver.Proofs.Json.Members

/-!
# Records written by other versions

The next version of the driver may write the members of an object in another order, add members that this one
does not know, leave out members that have their default value, or write out those that have it. Which fields
an object has, and what their defaults are, is laid down here for each kind of object (`Entity.fields`). `Drift`
relates two values of which one was made from the other by such changes, and `Revises` the texts of such values,
however they are set out. `decode_revised`: all of these texts read as the same record.

What counts is what a field holds. So two slots of a field are `Alike` if they say the same. A change leaves the
slots of an object alike, and every reader makes the same of slots that are alike (`Entity.read_of_allAlike`), so
what is read stays through all the changes (`Drift.read`).
-/

namespace CompilerDriver.BuildRecord

open Json

/-! ## The objects of a document -/

/-- The kinds of objects in the document of a record. -/
inductive Entity where
  | record
  | input
  | job
  | result
  | file

/-- What may stand in a field. -/
inductive Form where
  /-- A value that has to be there. -/
  | required
  /-- A value that may be left out if it is one of the given ones. -/
  | defaulted (isDefault : Json → Prop)
  /-- A list of objects, which may be left out if it is empty. -/
  | list (part : Entity)
  /-- A list of objects or `null`, which may be left out. -/
  | nullableList (part : Entity)

/-- Whether a value says the same as its absence. -/
def Form.IsDefault : Form → Json → Prop
  | .required, _ => False
  | .defaulted isDefault, value => isDefault value
  | .list _, value => value = .array []
  | .nullableList _, value => value = .null

/-- The kind of the objects that stand in a field, if it is a list of objects. -/
def Form.part? : Form → Option Entity
  | .list part | .nullableList part => some part
  | _ => none

/-- A text that names the moment zero. -/
def IsEpoch (value : Json) : Prop := ∃ s, value = .text s ∧ Instant.ofText? s = some .epoch

/-- The fields of an object, in their order. -/
def Entity.fields : Entity → List (String × Form)
  | .record => [
    ("schema_version", .defaulted (· = .nat 1)),
    ("schema_id", .defaulted (· = .text "swift-driver/build_record@1")),
    ("swift_version", .required),
    ("args_hash", .required),
    ("time_before_first_job", .defaulted IsEpoch),
    ("inputs", .list .input),
    ("jobs", .list .job),
    ("results", .list .result),
    ("skipped_inputs", .nullableList .file)]
  | .input => [("path", .required), ("type", .required), ("modified", .required)]
  | .job => [("id", .required), ("kind", .required), ("inputs", .list .file),
    ("primary_inputs", .list .file), ("outputs", .list .file)]
  | .result => [("job", .required), ("exit", .required),
    ("produced_dependency_graph", .defaulted (· = .bool false))]
  | .file => [("path", .required), ("type", .required)]

/-- The names of the fields. -/
def Entity.names (entity : Entity) : List String := entity.fields.map Prod.fst

/-- The second value was made from the first by changes that mean nothing, as a whole or inside the objects
in its fields. Since members may change places, a member is put in and taken away at the front. -/
inductive Drift : Entity → Json → Json → Prop
  | refl (entity : Entity) (value : Json) : Drift entity value value
  | trans {entity : Entity} {a b c : Json} (first : Drift entity a b) (second : Drift entity b c) :
      Drift entity a c
  | reorder {entity : Entity} {members members' : List (JsonText × Json)}
      (h : members.Perm members') : Drift entity (.object members) (.object members')
  /-- A member of an unknown name, with any value. -/
  | insert {entity : Entity} {name : String} {value : Json} {members : List (JsonText × Json)}
      (hname : name ∉ entity.names) :
      Drift entity (.object members) (.object ((some name, value) :: members))
  | drop {entity : Entity} {name : String} {form : Form} {value : Json}
      {members : List (JsonText × Json)} (hfield : (name, form) ∈ entity.fields)
      (hdefault : form.IsDefault value) :
      Drift entity (.object ((some name, value) :: members)) (.object members)
  | add {entity : Entity} {name : String} {form : Form} {value : Json}
      {members : List (JsonText × Json)} (hfield : (name, form) ∈ entity.fields)
      (hdefault : form.IsDefault value) (habsent : isNamed members name = false) :
      Drift entity (.object members) (.object ((some name, value) :: members))
  /-- An object in a field of an object. -/
  | inMember {entity part : Entity} {name : String} {form : Form} {item item' : Json}
      {before after : List Json} {members : List (JsonText × Json)}
      (hfield : (name, form) ∈ entity.fields) (hpart : form.part? = some part)
      (h : Drift part item item') :
      Drift entity (.object ((some name, .array (before ++ item :: after)) :: members))
        (.object ((some name, .array (before ++ item' :: after)) :: members))
  /-- An object in a field of a record that is written as an array of its fields. -/
  | inPlace {entity part : Entity} {name : String} {form : Form} {item item' : Json}
      {before after values later : List Json}
      (hfield : entity.fields[values.length]? = some (name, form)) (hpart : form.part? = some part)
      (h : Drift part item item') :
      Drift entity (.array (values ++ .array (before ++ item :: after) :: later))
        (.array (values ++ .array (before ++ item' :: after) :: later))

/-- The second text sets out a record that was made from the one in the first text by changes that mean
nothing. -/
def Revises (text text' : String) : Prop :=
  ∃ value value', value.IsWrittenAs text ∧ Drift .record value value' ∧ value'.IsWrittenAs text'

/-! ## What the objects mean -/

/-- What an object is read as. -/
def Entity.Meaning : Entity → Type
  | .record => Document
  | .input => TypedPath × Instant
  | .job => Job
  | .result => JobId × JobResult
  | .file => TypedPath

/-- The reader of an object. -/
def Entity.read : (entity : Entity) → Json → Option entity.Meaning
  | .record => Document.ofJson?
  | .input => Document.inputOfJson?
  | .job => Job.ofJson?
  | .result => Document.resultOfJson?
  | .file => TypedPath.ofJson?

/-- Two slots of a field that say the same. -/
inductive Alike (form : Form) : Slot → Slot → Prop
  | same (slot : Slot) : Alike form slot slot
  | given {value : Json} (h : form.IsDefault value) : Alike form .omitted (.given value)
  | omitted {value : Json} (h : form.IsDefault value) : Alike form (.given value) .omitted
  | items {part : Entity} {items items' : List Json} (hpart : form.part? = some part)
      (h : ∀ meanings, items.mapM part.read = some meanings → items'.mapM part.read = some meanings) :
      Alike form (.given (.array items)) (.given (.array items'))

/-- Slots that say the same, for every field. -/
inductive AllAlike : List (String × Form) → List Slot → List Slot → Prop
  | nil : AllAlike [] [] []
  | cons {name : String} {form : Form} {fields : List (String × Form)} {slot slot' : Slot}
      {slots slots' : List Slot} (h : Alike form slot slot') (hs : AllAlike fields slots slots') :
      AllAlike ((name, form) :: fields) (slot :: slots) (slot' :: slots')

theorem Alike.required {slot slot' : Slot} (h : Alike .required slot slot') : slot' = slot := by
  cases h with
  | same => rfl
  | given h => exact h.elim
  | omitted h => exact h.elim
  | items hpart => cases hpart

theorem Alike.defaulted {α : Type} {read : Json → Option α} {default a : α} {isDefault : Json → Prop}
    {slot slot' : Slot} (h : Alike (.defaulted isDefault) slot slot')
    (hdefault : ∀ value, isDefault value → read value = some default)
    (ha : slot.defaulted read default = some a) : slot'.defaulted read default = some a := by
  cases h with
  | same => exact ha
  | given h => exact (hdefault _ h).trans ha
  | omitted h => exact (hdefault _ h).symm.trans ha
  | items hpart => cases hpart

theorem Alike.list {part : Entity} {slot slot' : Slot} (h : Alike (.list part) slot slot')
    {meanings : List part.Meaning} (ha : slot.defaulted (list? part.read) [] = some meanings) :
    slot'.defaulted (list? part.read) [] = some meanings := by
  cases h with
  | same => exact ha
  | given h => cases h; exact ha
  | omitted h => cases h; exact ha
  | items hpart hitems =>
    cases hpart
    exact hitems meanings ha

theorem Alike.nullableList {part : Entity} {slot slot' : Slot}
    (h : Alike (.nullableList part) slot slot') {meanings : Option (List part.Meaning)}
    (ha : slot.defaulted (nullable (list? part.read)) none = some meanings) :
    slot'.defaulted (nullable (list? part.read)) none = some meanings := by
  cases h with
  | same => exact ha
  | given h => cases h; exact ha
  | omitted h => cases h; exact ha
  | items hpart hitems =>
    cases hpart
    obtain ⟨found, hfound, rfl⟩ := Option.map_eq_some_iff.1 ha
    exact Option.map_eq_some_iff.2 ⟨found, hitems found hfound, rfl⟩

theorem allAlike_refl {fields : List (String × Form)} {ss : List Slot} (h : ss.length = fields.length) :
    AllAlike fields ss ss := by
  induction fields generalizing ss with
  | nil =>
    rw [List.length_eq_zero_iff.1 h]
    exact .nil
  | cons field fields ih =>
    cases ss with
    | nil => cases h
    | cons slot ss => exact .cons (.same slot) (ih (Nat.succ.inj h))

theorem AllAlike.cons_cases {name : String} {form : Form} {fields : List (String × Form)} {slot : Slot}
    {ss ss' : List Slot} (h : AllAlike ((name, form) :: fields) (slot :: ss) ss') :
    ∃ slot' later, ss' = slot' :: later ∧ Alike form slot slot' ∧ AllAlike fields ss later := by
  cases h with
  | cons h hs => exact ⟨_, _, rfl, h, hs⟩

theorem AllAlike.eq_of_required {fields : List (String × Form)} {ss ss' : List Slot}
    (h : AllAlike fields ss ss') (hfields : ∀ field ∈ fields, field.2 = .required) : ss' = ss := by
  induction h with
  | nil => rfl
  | cons h _ ih =>
    obtain rfl := hfields _ List.mem_cons_self
    rw [h.required, ih fun field hfield => hfields field (List.mem_cons_of_mem _ hfield)]

/-! ## Changes keep the slots alike -/

theorem Entity.nodup_names (entity : Entity) : entity.names.Nodup := by
  cases entity <;> decide

theorem allAlike_slotOf {fields : List (String × Form)} {members members' : List (JsonText × Json)}
    (h : ∀ name form, (name, form) ∈ fields → Alike form (slotOf members name) (slotOf members' name)) :
    AllAlike fields ((fields.map Prod.fst).map (slotOf members))
      ((fields.map Prod.fst).map (slotOf members')) := by
  induction fields with
  | nil => exact .nil
  | cons field fields ih =>
    exact .cons (h field.1 field.2 List.mem_cons_self)
      (ih fun name form hfield => h name form (List.mem_cons_of_mem field hfield))

/-- A change to one field of an object. -/
theorem Entity.allAlike_of_field {entity : Entity} {name : String} {form : Form}
    {members members' : List (JsonText × Json)} (hfield : (name, form) ∈ entity.fields)
    (hself : Alike form (slotOf members name) (slotOf members' name))
    (hother : ∀ other, name ≠ other → slotOf members' other = slotOf members other) :
    AllAlike entity.fields (entity.names.map (slotOf members)) (entity.names.map (slotOf members')) := by
  apply allAlike_slotOf
  intro other form' hform'
  by_cases hname : name = other
  · subst hname
    -- a name has one form
    obtain ⟨-, rfl⟩ := Prod.mk.inj (List.inj_on_of_nodup_map entity.nodup_names hfield hform' rfl)
    exact hself
  · rw [hother other hname]
    exact .same _

theorem Entity.mem_names {entity : Entity} {name : String} {form : Form}
    (h : (name, form) ∈ entity.fields) : name ∈ entity.names :=
  List.mem_map_of_mem h

/-- A change to one place of an array. -/
theorem allAlike_of_place {fields : List (String × Form)} {name : String} {form : Form}
    {before after : List Slot} {slot slot' : Slot} (hfield : fields[before.length]? = some (name, form))
    (hlength : (before ++ slot :: after).length = fields.length) (h : Alike form slot slot') :
    AllAlike fields (before ++ slot :: after) (before ++ slot' :: after) := by
  induction before generalizing fields with
  | nil =>
    cases fields with
    | nil => cases hfield
    | cons field fields =>
      cases hfield
      exact .cons h (allAlike_refl (Nat.succ.inj hlength))
  | cons first before ih =>
    cases fields with
    | nil => cases hfield
    | cons field fields => exact .cons (.same first) (ih hfield (Nat.succ.inj hlength))

theorem Entity.length_of_slots (entity : Entity) {value : Json} {ss : List Slot}
    (h : value.slots entity.names = some ss) : ss.length = entity.fields.length := by
  rw [length_slots h, Entity.names, List.length_map]

theorem mapM_replace {α : Type} {read : Json → Option α} {item item' : Json} {before after : List Json}
    (h : ∀ a, read item = some a → read item' = some a) {found : List α}
    (hfound : (before ++ item :: after).mapM read = some found) :
    (before ++ item' :: after).mapM read = some found := by
  rw [List.mapM_append, List.mapM_cons] at hfound ⊢
  obtain ⟨front, hfront, hfound⟩ := Option.bind_eq_some_iff.1 hfound
  obtain ⟨later, hlater, hfound⟩ := Option.bind_eq_some_iff.1 hfound
  obtain ⟨a, ha, hafter⟩ := Option.bind_eq_some_iff.1 hlater
  refine Option.bind_eq_some_iff.2 ⟨front, hfront, Option.bind_eq_some_iff.2 ⟨later, ?_, hfound⟩⟩
  exact Option.bind_eq_some_iff.2 ⟨a, h a ha, hafter⟩

/-! ## Readers make the same of slots that are alike -/

/-- What a document was read from. -/
theorem Document.slots_of_ofJson? {value : Json} {doc : Document} (h : ofJson? value = some doc) :
    ∃ version id swiftVersion argsHash time inputs jobs results skipped,
      value.slots fieldNames =
        some [version, id, swiftVersion, argsHash, time, inputs, jobs, results, skipped] ∧
      version.defaulted (natBelow? UInt32.size) BuildRecord.schemaVersion = some doc.schemaVersion ∧
      id.defaulted Json.text? BuildRecord.schemaId = some doc.schemaId ∧
      swiftVersion.required Json.text? = some doc.swiftVersion ∧
      argsHash.required Json.text? = some doc.argsHash ∧
      time.defaulted instantOfJson? .epoch = some doc.timeBeforeFirstJob ∧
      inputs.defaulted (list? inputOfJson?) [] = some doc.inputs ∧
      jobs.defaulted (list? Job.ofJson?) [] = some doc.jobs ∧
      results.defaulted (list? resultOfJson?) [] = some doc.results ∧
      skipped.defaulted (nullable TypedPath.listOfJson?) none = some doc.skippedInputs := by
  simp only [ofJson?, Option.bind_eq_bind, Option.bind_eq_some_iff, Option.pure_def] at h
  obtain ⟨ss, hslots, h⟩ := h
  split at h
  next version id swiftVersion argsHash time inputs jobs results skipped =>
    simp only [Option.bind_eq_some_iff, Option.some.injEq] at h
    obtain ⟨_, hversion, _, hid, _, hswift, _, hargs, _, htime, _, hinputs, _, hjobs, _, hresults, _,
      hskipped, rfl⟩ := h
    exact ⟨version, id, swiftVersion, argsHash, time, inputs, jobs, results, skipped, hslots, hversion,
      hid, hswift, hargs, htime, hinputs, hjobs, hresults, hskipped⟩
  next => cases h

theorem Job.slots_of_ofJson? {value : Json} {job : Job} (h : Job.ofJson? value = some job) :
    ∃ id kind inputs primaryInputs outputs,
      value.slots Job.fieldNames = some [id, kind, inputs, primaryInputs, outputs] ∧
      id.required Json.text? = some job.id ∧ kind.required JobKind.ofJson? = some job.kind ∧
      inputs.defaulted TypedPath.listOfJson? [] = some job.inputs ∧
      primaryInputs.defaulted TypedPath.listOfJson? [] = some job.primaryInputs ∧
      outputs.defaulted TypedPath.listOfJson? [] = some job.outputs := by
  simp only [Job.ofJson?, Option.bind_eq_bind, Option.bind_eq_some_iff, Option.pure_def] at h
  obtain ⟨ss, hslots, h⟩ := h
  split at h
  next id kind inputs primaryInputs outputs =>
    simp only [Option.bind_eq_some_iff, Option.some.injEq] at h
    obtain ⟨_, hid, _, hkind, _, hinputs, _, hprimary, _, houtputs, rfl⟩ := h
    exact ⟨id, kind, inputs, primaryInputs, outputs, hslots, hid, hkind, hinputs, hprimary, houtputs⟩
  next => cases h

theorem Job.ofJson?_of_slots {value : Json} {job : Job} {id kind inputs primaryInputs outputs : Slot}
    (hslots : value.slots Job.fieldNames = some [id, kind, inputs, primaryInputs, outputs])
    (hid : id.required Json.text? = some job.id)
    (hkind : kind.required JobKind.ofJson? = some job.kind)
    (hinputs : inputs.defaulted TypedPath.listOfJson? [] = some job.inputs)
    (hprimary : primaryInputs.defaulted TypedPath.listOfJson? [] = some job.primaryInputs)
    (houtputs : outputs.defaulted TypedPath.listOfJson? [] = some job.outputs) :
    Job.ofJson? value = some job := by
  rw [Job.ofJson?, hslots]
  simp only [Option.bind_eq_bind, Option.bind_some, hid, hkind, hinputs, hprimary, houtputs,
    Option.pure_def]

theorem Document.slots_of_resultOfJson? {value : Json} {entry : JobId × JobResult}
    (h : resultOfJson? value = some entry) :
    ∃ job exit graph, value.slots resultFieldNames = some [job, exit, graph] ∧
      job.required Json.text? = some entry.1 ∧ exit.required ProcessExit.ofJson? = some entry.2.exit ∧
      graph.defaulted Json.bool? false = some entry.2.leftDependencyGraph := by
  simp only [resultOfJson?, Option.bind_eq_bind, Option.bind_eq_some_iff, Option.pure_def] at h
  obtain ⟨ss, hslots, h⟩ := h
  split at h
  next job exit graph =>
    simp only [Option.bind_eq_some_iff, Option.some.injEq] at h
    obtain ⟨_, hjob, _, hexit, _, hgraph, rfl⟩ := h
    exact ⟨job, exit, graph, hslots, hjob, hexit, hgraph⟩
  next => cases h

theorem Document.resultOfJson?_of_slots {value : Json} {entry : JobId × JobResult}
    {job exit graph : Slot} (hslots : value.slots resultFieldNames = some [job, exit, graph])
    (hjob : job.required Json.text? = some entry.1)
    (hexit : exit.required ProcessExit.ofJson? = some entry.2.exit)
    (hgraph : graph.defaulted Json.bool? false = some entry.2.leftDependencyGraph) :
    resultOfJson? value = some entry := by
  rw [resultOfJson?, hslots]
  simp only [Option.bind_eq_bind, Option.bind_some, hjob, hexit, hgraph, Option.pure_def]

/-- Objects are read by their slots alone. -/
theorem Entity.read_congr {entity : Entity} {value value' : Json}
    (h : value.slots entity.names = value'.slots entity.names) :
    entity.read value = entity.read value' := by
  cases entity with
  | record =>
    change value.slots Document.fieldNames = value'.slots Document.fieldNames at h
    rw [Entity.read, Document.ofJson?, Document.ofJson?, h]
  | input =>
    change value.slots Document.inputFieldNames = value'.slots Document.inputFieldNames at h
    rw [Entity.read, Document.inputOfJson?, Document.inputOfJson?, h]
  | job =>
    change value.slots Job.fieldNames = value'.slots Job.fieldNames at h
    rw [Entity.read, Job.ofJson?, Job.ofJson?, h]
  | result =>
    change value.slots Document.resultFieldNames = value'.slots Document.resultFieldNames at h
    rw [Entity.read, Document.resultOfJson?, Document.resultOfJson?, h]
  | file =>
    change value.slots TypedPath.fieldNames = value'.slots TypedPath.fieldNames at h
    rw [Entity.read, TypedPath.ofJson?, TypedPath.ofJson?, h]

/-- What is read has slots: anything else is read as `null` is, which means nothing. -/
theorem Entity.exists_slots {entity : Entity} {value : Json} {meaning : entity.Meaning}
    (h : entity.read value = some meaning) : ∃ ss, value.slots entity.names = some ss := by
  cases hslots : value.slots entity.names with
  | some ss => exact ⟨ss, rfl⟩
  | none =>
    have hnull : entity.read value = entity.read .null := Entity.read_congr hslots
    have hnothing : entity.read .null = none := by cases entity <;> rfl
    rw [h, hnothing] at hnull
    cases hnull

theorem Document.ofJson?_of_allAlike {value value' : Json} {ss ss' : List Slot} {doc : Document}
    (h : AllAlike (Entity.fields .record) ss ss') (hs : value.slots fieldNames = some ss)
    (hs' : value'.slots fieldNames = some ss') (hread : ofJson? value = some doc) :
    ofJson? value' = some doc := by
  obtain ⟨version, id, swiftVersion, argsHash, time, inputs, jobs, results, skipped, hslots, hversion,
    hid, hswift, hargs, htime, hinputs, hjobs, hresults, hskipped⟩ := slots_of_ofJson? hread
  obtain rfl := Option.some.inj (hs.symm.trans hslots)
  obtain ⟨_, _, rfl, sversion, h⟩ := h.cons_cases
  obtain ⟨_, _, rfl, sid, h⟩ := h.cons_cases
  obtain ⟨_, _, rfl, sswift, h⟩ := h.cons_cases
  obtain ⟨_, _, rfl, sargs, h⟩ := h.cons_cases
  obtain ⟨_, _, rfl, stime, h⟩ := h.cons_cases
  obtain ⟨_, _, rfl, sinputs, h⟩ := h.cons_cases
  obtain ⟨_, _, rfl, sjobs, h⟩ := h.cons_cases
  obtain ⟨_, _, rfl, sresults, h⟩ := h.cons_cases
  obtain ⟨_, _, rfl, sskipped, ⟨⟩⟩ := h.cons_cases
  obtain rfl := sswift.required
  obtain rfl := sargs.required
  refine ofJson?_of_slots hs' (sversion.defaulted ?_ hversion) (sid.defaulted ?_ hid)
    hswift hargs (stime.defaulted ?_ htime) (sinputs.list hinputs) (sjobs.list hjobs)
    (sresults.list hresults) (sskipped.nullableList hskipped)
  · rintro value rfl
    rfl
  · rintro value rfl
    rfl
  · rintro value ⟨s, rfl, htext⟩
    exact htext

theorem Job.ofJson?_of_allAlike {value value' : Json} {ss ss' : List Slot} {job : Job}
    (h : AllAlike (Entity.fields .job) ss ss') (hs : value.slots Job.fieldNames = some ss)
    (hs' : value'.slots Job.fieldNames = some ss') (hread : Job.ofJson? value = some job) :
    Job.ofJson? value' = some job := by
  obtain ⟨id, kind, inputs, primaryInputs, outputs, hslots, hid, hkind, hinputs, hprimary, houtputs⟩ :=
    Job.slots_of_ofJson? hread
  obtain rfl := Option.some.inj (hs.symm.trans hslots)
  obtain ⟨_, _, rfl, sid, h⟩ := h.cons_cases
  obtain ⟨_, _, rfl, skind, h⟩ := h.cons_cases
  obtain ⟨_, _, rfl, sinputs, h⟩ := h.cons_cases
  obtain ⟨_, _, rfl, sprimary, h⟩ := h.cons_cases
  obtain ⟨_, _, rfl, soutputs, ⟨⟩⟩ := h.cons_cases
  obtain rfl := sid.required
  obtain rfl := skind.required
  exact Job.ofJson?_of_slots hs' hid hkind (sinputs.list hinputs) (sprimary.list hprimary)
    (soutputs.list houtputs)

theorem Document.resultOfJson?_of_allAlike {value value' : Json} {ss ss' : List Slot}
    {entry : JobId × JobResult} (h : AllAlike (Entity.fields .result) ss ss')
    (hs : value.slots resultFieldNames = some ss) (hs' : value'.slots resultFieldNames = some ss')
    (hread : resultOfJson? value = some entry) : resultOfJson? value' = some entry := by
  obtain ⟨job, exit, graph, hslots, hjob, hexit, hgraph⟩ := slots_of_resultOfJson? hread
  obtain rfl := Option.some.inj (hs.symm.trans hslots)
  obtain ⟨_, _, rfl, sjob, h⟩ := h.cons_cases
  obtain ⟨_, _, rfl, sexit, h⟩ := h.cons_cases
  obtain ⟨_, _, rfl, sgraph, ⟨⟩⟩ := h.cons_cases
  obtain rfl := sjob.required
  obtain rfl := sexit.required
  refine resultOfJson?_of_slots hs' hjob hexit (sgraph.defaulted ?_ hgraph)
  rintro value rfl
  rfl

/-- An object is read alike if its slots are alike. -/
theorem Entity.read_of_allAlike {entity : Entity} {value value' : Json} {ss ss' : List Slot}
    (h : AllAlike entity.fields ss ss') (hs : value.slots entity.names = some ss)
    (hs' : value'.slots entity.names = some ss') {meaning : entity.Meaning}
    (hread : entity.read value = some meaning) : entity.read value' = some meaning := by
  cases entity with
  | record => exact Document.ofJson?_of_allAlike h hs hs' hread
  | job => exact Job.ofJson?_of_allAlike h hs hs' hread
  | result => exact Document.resultOfJson?_of_allAlike h hs hs' hread
  | input | file =>
    obtain rfl := h.eq_of_required (by simp [Entity.fields])
    rw [← hread]
    exact Entity.read_congr (hs'.trans hs.symm)

/-! ## Every change keeps what is read -/

/-- A change to one field of an object, which leaves the field alike. -/
theorem Entity.read_of_field {entity : Entity} {name : String} {form : Form}
    {members members' : List (JsonText × Json)} (hfield : (name, form) ∈ entity.fields)
    (hself : wellNamed entity.names members = true →
      wellNamed entity.names members' = true ∧ Alike form (slotOf members name) (slotOf members' name))
    (hother : ∀ other, name ≠ other → slotOf members' other = slotOf members other)
    {meaning : entity.Meaning} (hread : entity.read (.object members) = some meaning) :
    entity.read (.object members') = some meaning := by
  obtain ⟨ss, hs⟩ := Entity.exists_slots hread
  obtain ⟨hnamed, rfl⟩ := slots_object.1 hs
  obtain ⟨hnamed', halike⟩ := hself hnamed
  have hs' := slots_object.2 ⟨hnamed', rfl⟩
  exact Entity.read_of_allAlike (Entity.allAlike_of_field hfield halike hother) hs hs' hread

/-- What is read of an object stays, whatever changes of this kind are made to it. -/
theorem Drift.read {entity : Entity} {value value' : Json} (h : Drift entity value value') :
    ∀ meaning, entity.read value = some meaning → entity.read value' = some meaning := by
  induction h with
  | refl => exact fun _ hread => hread
  | trans _ _ first second => exact fun meaning hread => second meaning (first meaning hread)
  | reorder h =>
    intro meaning hread
    obtain ⟨ss, hs⟩ := Entity.exists_slots hread
    rw [← hread]
    exact Entity.read_congr ((slots_perm h hs).trans hs.symm)
  | insert hname =>
    intro meaning hread
    obtain ⟨ss, hs⟩ := Entity.exists_slots hread
    rw [← hread]
    exact Entity.read_congr ((slots_cons_other hname hs).trans hs.symm)
  | @drop entity name form value members hfield hdefault =>
    intro meaning hread
    have hself : wellNamed entity.names ((some name, value) :: members) = true →
        wellNamed entity.names members = true ∧
          Alike form (slotOf ((some name, value) :: members) name) (slotOf members name) := by
      intro hnamed
      obtain ⟨hnamed', habsent⟩ := wellNamed_cons.1 hnamed
      rw [slotOf_cons_self, slotOf_of_not_isNamed (habsent (Entity.mem_names hfield))]
      exact ⟨hnamed', .omitted hdefault⟩
    exact Entity.read_of_field hfield hself (fun _ h => (slotOf_cons_ne members value h).symm) hread
  | @add entity name form value members hfield hdefault habsent =>
    intro meaning hread
    have hself : wellNamed entity.names members = true →
        wellNamed entity.names ((some name, value) :: members) = true ∧
          Alike form (slotOf members name) (slotOf ((some name, value) :: members) name) := by
      intro hnamed
      rw [slotOf_cons_self, slotOf_of_not_isNamed habsent]
      exact ⟨wellNamed_cons.2 ⟨hnamed, fun _ => habsent⟩, .given hdefault⟩
    exact Entity.read_of_field hfield hself (fun _ h => slotOf_cons_ne members value h) hread
  | @inMember entity part name form item item' before after members hfield hpart _ ih =>
    intro meaning hread
    have hself : wellNamed entity.names ((some name, .array (before ++ item :: after)) :: members) = true →
        wellNamed entity.names ((some name, .array (before ++ item' :: after)) :: members) = true ∧
          Alike form (slotOf ((some name, .array (before ++ item :: after)) :: members) name)
            (slotOf ((some name, .array (before ++ item' :: after)) :: members) name) := by
      intro hnamed
      rw [slotOf_cons_self, slotOf_cons_self]
      exact ⟨wellNamed_cons.2 (wellNamed_cons.1 hnamed), .items hpart fun _ => mapM_replace ih⟩
    refine Entity.read_of_field hfield hself (fun other h => ?_) hread
    rw [slotOf_cons_ne _ _ h, slotOf_cons_ne _ _ h]
  | @inPlace entity part name form item item' before after values later hfield hpart _ ih =>
    intro meaning hread
    obtain ⟨ss, hs⟩ := Entity.exists_slots hread
    have hlength := entity.length_of_slots hs
    obtain ⟨hle, rfl⟩ := slots_array.1 hs
    rw [List.map_append, List.map_cons, List.append_assoc, List.cons_append] at hs hlength
    have hplace : entity.fields[(values.map Slot.given).length]? = some (name, form) := by
      rw [List.length_map]
      exact hfield
    have halike : Alike form (.given (.array (before ++ item :: after)))
        (.given (.array (before ++ item' :: after))) := .items hpart fun _ => mapM_replace ih
    refine Entity.read_of_allAlike (allAlike_of_place hplace hlength halike) hs
      (slots_array.2 ⟨?_, ?_⟩) hread
    · simpa using hle
    · simp

/-- Reading tolerates what means nothing. A text that holds a record sets out some value, and every text that
sets out a revision of this value holds the same record. -/
theorem decode_revised {text : String} {record : BuildRecord} (h : decode text = .ok record) :
    Revises text text ∧ ∀ text', Revises text text' → decode text' = .ok record := by
  rw [decode, Document.ofText?] at h
  split at h
  next doc hdoc =>
    obtain ⟨value, hvalue, hread⟩ := Option.bind_eq_some_iff.1 hdoc
    have hwritten := ofText?_eq_some_iff.1 hvalue
    refine ⟨⟨value, value, hwritten, .refl .record value, hwritten⟩, ?_⟩
    rintro text' ⟨first, second, hfirst, hdrift, hsecond⟩
    -- a text sets out only one value
    obtain rfl := Option.some.inj (hvalue.symm.trans (ofText?_eq_some_iff.2 hfirst))
    have hread' : Document.ofJson? second = some doc := hdrift.read doc hread
    rw [decode, Document.ofText?, ofText?_eq_some_iff.2 hsecond, Option.bind_some, hread']
    exact h
  next => cases h

/-- The record of a build with one input. -/
def oneInput : Json :=
  .record [("schema_version", .nat 1), ("swift_version", .text "Swift version 6.0"),
    ("args_hash", .text "e3b0c44298fc1c149afbf4c8996fb92427ae41e4649b934ca495991b7852b855"),
    ("inputs", .array [.record [("path", .text "/work/main.swift"), ("type", .text "swift"),
      ("modified", .text "2026-02-01T10:00:00Z")]])]

/-- The same record from another version, with an input that says more, an unknown member that is no
text inside, an empty list of jobs and no version of the schema. -/
def oneInputRevised : Json :=
  .record [("jobs", .array []),
    ("inputs", .array [.record [("digests", .object [(none, .array [.array [], .null])]),
      ("modified", .text "2026-02-01T10:00:00Z"), ("type", .text "swift"),
      ("path", .text "/work/main.swift")]]),
    ("args_hash", .text "e3b0c44298fc1c149afbf4c8996fb92427ae41e4649b934ca495991b7852b855"),
    ("swift_version", .text "Swift version 6.0")]

theorem decode_revised_oneInput : ∃ record, decode oneInput.pretty = .ok record ∧
    Revises oneInput.pretty oneInputRevised.compact ∧ decode oneInputRevised.compact = .ok record := by
  have hread : ∃ record, decode oneInput.pretty = .ok record := by
    have hok : ((Document.ofJson? oneInput).bind fun doc => (ofDocument doc).toOption).isSome = true := by
      decide +kernel
    obtain ⟨record, hfound⟩ := Option.isSome_iff_exists.1 hok
    obtain ⟨doc, hdoc, hrecord⟩ := Option.bind_eq_some_iff.1 hfound
    refine ⟨record, ?_⟩
    rw [decode, Document.ofText?, ofText?_pretty (by decide), Option.bind_some, hdoc]
    show ofDocument doc = .ok record
    cases hdocument : ofDocument doc with
    | ok found =>
      rw [hdocument] at hrecord
      exact congrArg Except.ok (Option.some.inj hrecord)
    | error e =>
      rw [hdocument] at hrecord
      cases hrecord
  obtain ⟨record, hrecord⟩ := hread
  have hinput : Drift .input
      (.record [("path", .text "/work/main.swift"), ("type", .text "swift"),
        ("modified", .text "2026-02-01T10:00:00Z")])
      (.record [("digests", .object [(none, .array [.array [], .null])]),
        ("modified", .text "2026-02-01T10:00:00Z"), ("type", .text "swift"),
        ("path", .text "/work/main.swift")]) :=
    .trans (.reorder (List.reverse_perm _).symm) (.insert (by decide))
  have hinputs : ("inputs", Form.list .input) ∈ Entity.fields .record := by simp [Entity.fields]
  have hjobs : ("jobs", Form.list .job) ∈ Entity.fields .record := by simp [Entity.fields]
  have hdrift : Drift .record oneInput oneInputRevised :=
    .trans (.drop List.mem_cons_self rfl) <|
    .trans (.reorder (List.reverse_perm _).symm) <|
    .trans (@Drift.inMember _ _ _ _ _ _ [] [] _ hinputs rfl hinput) <|
    .add hjobs rfl rfl
  have hrevises : Revises oneInput.pretty oneInputRevised.compact :=
    ⟨oneInput, oneInputRevised, isWrittenAs_write .indented (by decide), hdrift,
      isWrittenAs_write .compact (by decide)⟩
  exact ⟨record, hrecord, hrevises, (decode_revised hrecord).2 _ hrevises⟩

end CompilerDriver.BuildRecord
