import CompilerDriver.Proofs.Json.RoundTrip
import CompilerDriver.Wire.Job

/-!
# Wire forms read back

`ReadsAs read value a` says that the wire form `value` stands for `a`: it can stand in a document, and
`read` finds `a` in it. Every writer of `Wire.Path` and `Wire.Job` makes such forms, for whatever it
writes at all. A record is taken apart by `slots_record`, so what is to be shown for each type is only
that its fields are read in the order in which they are written.
-/

namespace CompilerDriver

namespace Json

variable {α : Type}

/-- A value can stand in a document, where it is read as `a`. -/
structure ReadsAs (read : Json → Option α) (value : Json) (a : α) : Prop where
  wellFormed : value.isWellFormed = true
  read_eq : read value = some a

section ReadsAs

variable {read : Json → Option α} {value : Json} {a : α}

theorem ReadsAs.required (h : ReadsAs read value a) : (Slot.given value).required read = some a :=
  h.read_eq

theorem ReadsAs.defaulted (h : ReadsAs read value a) (default : α) :
    (Slot.given value).defaulted read default = some a := h.read_eq

/-- Where a field is left out, its default is read. -/
theorem defaulted_omitted (read : Json → Option α) (default : α) :
    Slot.omitted.defaulted read default = some default := rfl

end ReadsAs

/-! ## Well-formed values -/

theorem isWellFormed_record (members : List (String × Json)) :
    (record members).isWellFormed = members.all fun member => member.2.isWellFormed := by
  rw [record, isWellFormed]
  induction members with
  | nil => rfl
  | cons member rest ih => rw [List.map_cons, haveWellFormed, ih, List.all_cons]

/-! ## Scalars -/

theorem readsAs_text (s : String) : ReadsAs text? (text s) s := ⟨rfl, rfl⟩

theorem readsAs_bool (b : Bool) : ReadsAs bool? (.bool b) b := ⟨rfl, rfl⟩

theorem int?_int (n : Int) : (int n).int? = some n := by
  by_cases h : n < 0
  · have hne : n.natAbs ≠ 0 := by omega
    have habs : -(n.natAbs : Int) = n := by omega
    simp only [int, h, decide_true, int?, if_neg hne, habs]
  · have habs : (n.natAbs : Int) = n := by omega
    simp only [int, h, decide_false, int?, habs]

theorem readsAs_int32 (n : Int32) : ReadsAs int32? (.int n.toInt) n := by
  refine ⟨rfl, ?_⟩
  have hle := n.le_toInt
  have hlt := n.toInt_lt
  have hbounds : -2147483648 ≤ n.toInt ∧ n.toInt ≤ 2147483647 := by omega
  simp only [int32?, int?_int, Option.bind_eq_bind, Option.bind_some, if_pos hbounds,
    Int32.ofInt_toInt]

theorem readsAs_nat {bound n : Nat} (h : n < bound) : ReadsAs (natBelow? bound) (.nat n) n := by
  refine ⟨rfl, ?_⟩
  have hbounds : (0 : Int) ≤ n ∧ (n : Int) < bound := by omega
  simp only [natBelow?, nat, int?, Option.bind_eq_bind, Option.bind_some, if_pos hbounds,
    Int.toNat_natCast]

/-- A name is read as what it names, if no two share it. -/
theorem readsAs_choice {name : α → String} {all : List α} {a : α} (hmem : a ∈ all)
    (hinj : ∀ b ∈ all, name b = name a → b = a) : ReadsAs (choice? name all) (text (name a)) a := by
  refine ⟨rfl, ?_⟩
  show all.find? (fun b => name b == name a) = some a
  cases hfound : all.find? (fun b => name b == name a) with
  | none =>
    have hnone := List.find?_eq_none.1 hfound a hmem
    exact absurd (beq_self_eq_true (name a)) hnone
  | some b =>
    have hname := List.find?_some hfound
    rw [hinj b (List.mem_of_find?_eq_some hfound) (beq_iff_eq.1 hname)]

/-! ## Lists -/

/-- What is read one by one as what it was written for is read so together. -/
theorem mapM_eq_some {β : Type} {P : β → Prop} {write : α → Option β} {read : β → Option α} {l : List α}
    {items : List β} (each : ∀ a ∈ l, ∀ item, write a = some item → P item ∧ read item = some a)
    (h : l.mapM write = some items) : (∀ item ∈ items, P item) ∧ items.mapM read = some l := by
  induction l generalizing items with
  | nil =>
    obtain rfl : [] = items := by simpa using h
    exact ⟨by simp, rfl⟩
  | cons a l ih =>
    simp only [List.mapM_cons, Option.bind_eq_bind, Option.pure_def, Option.bind_eq_some_iff,
      Option.some.injEq] at h
    obtain ⟨item, hitem, rest, hrest, rfl⟩ := h
    obtain ⟨hfirst, hread⟩ := each a List.mem_cons_self item hitem
    obtain ⟨hall, hmap⟩ := ih (fun b hb => each b (List.mem_cons_of_mem _ hb)) hrest
    refine ⟨List.forall_mem_cons.2 ⟨hfirst, hall⟩, ?_⟩
    rw [List.mapM_cons, hread, hmap]
    rfl

theorem areWellFormed_iff {items : List Json} :
    areWellFormed items = true ↔ ∀ item ∈ items, item.isWellFormed = true := by
  induction items with
  | nil => simp [areWellFormed]
  | cons item rest ih => rw [areWellFormed, Bool.and_eq_true, ih, List.forall_mem_cons]

theorem readsAs_array {write : α → Option Json} {read : Json → Option α} {l : List α}
    {items : List Json} (each : ∀ a ∈ l, ∀ value, write a = some value → ReadsAs read value a)
    (h : l.mapM write = some items) : ReadsAs (list? read) (.array items) l := by
  obtain ⟨hwell, hmap⟩ := mapM_eq_some
    (fun a ha value hvalue => ⟨(each a ha value hvalue).wellFormed, (each a ha value hvalue).read_eq⟩) h
  exact ⟨areWellFormed_iff.2 hwell, hmap⟩

theorem readsAs_array_map {write : α → Json} {read : Json → Option α} (l : List α)
    (each : ∀ a ∈ l, ReadsAs read (write a) a) : ReadsAs (list? read) (.array (l.map write)) l := by
  have hall : l.mapM (fun a => some (write a)) = some (l.map write) := List.mapM_pure
  refine readsAs_array (fun a ha value hvalue => ?_) hall
  obtain rfl := Option.some.inj hvalue
  exact each a ha

/-! ## Records -/

/-- The members of a record are read one by one as what they were written for. -/
theorem mapM_members {write : α → Option (String × Json)} {read : JsonText × Json → Option α} {l : List α}
    {members : List (String × Json)}
    (each : ∀ a ∈ l, ∀ member, write a = some member →
      member.2.isWellFormed = true ∧ read (some member.1, member.2) = some a)
    (h : l.mapM write = some members) :
    (record members).isWellFormed = true ∧
      (members.map fun member => (some member.1, member.2)).mapM read = some l := by
  rw [isWellFormed_record, List.all_eq_true, List.mapM_map]
  exact mapM_eq_some each h

/-- Whether no name stands twice among some members. -/
def distinctlyNamed : List (String × Json) → Bool
  | [] => true
  | member :: rest => rest.all (fun other => other.1 != member.1) && distinctlyNamed rest

theorem length_filter_name {members : List (String × Json)} (h : distinctlyNamed members = true)
    (name : String) : (members.filter fun member => member.1 == name).length ≤ 1 := by
  induction members with
  | nil => simp
  | cons member rest ih =>
    rw [distinctlyNamed, Bool.and_eq_true, List.all_eq_true] at h
    rw [List.filter_cons]
    split
    next hname =>
      have hnone : rest.filter (fun other => other.1 == name) = [] := by
        rw [List.filter_eq_nil_iff]
        intro other hother
        have hne := h.1 other hother
        rw [← beq_iff_eq.1 hname]
        simpa using hne
      rw [hnone]
      simp
    next => exact ih h.2

/-- The slot that a record with the given members has for a field. -/
def givenSlot (members : List (String × Json)) (name : String) : Slot :=
  match members.find? fun member => member.1 == name with
  | some member => .given member.2
  | none => .omitted

/-- A record whose names are distinct is taken apart into what it was made of. -/
theorem slots_record (names : List String) {members : List (String × Json)}
    (h : distinctlyNamed members = true) :
    (record members).slots names = some (names.map (givenSlot members)) := by
  have hsome : ∀ (member : String × Json) (name : String),
      ((some member.1 : JsonText) == some name) = (member.1 == name) := fun _ _ => rfl
  have hwell : wellNamed names (members.map fun member => (some member.1, member.2)) = true := by
    rw [wellNamed, Bool.and_eq_true, List.all_eq_true, List.all_eq_true]
    refine ⟨?_, ?_⟩
    · intro member hmember
      obtain ⟨-, -, rfl⟩ := List.mem_map.1 hmember
      rfl
    · intro name _
      rw [List.filter_map, List.length_map]
      exact decide_eq_true (length_filter_name h name)
  have hslot : ∀ name, slotOf (members.map fun member => (some member.1, member.2)) name =
      givenSlot members name := by
    intro name
    rw [slotOf, List.find?_map, givenSlot,
      show ((fun member : JsonText × Json => member.1 == some name) ∘
        fun member : String × Json => (some member.1, member.2)) =
          fun member => member.1 == name from rfl]
    cases members.find? fun member => member.1 == name <;> rfl
  rw [record, slots, if_pos hwell]
  exact congrArg some (List.map_congr_left fun name _ => hslot name)

end Json

/-! ## Paths and files -/

open Json

theorem Path.readsAs {path : Path} {value : Json} (h : path.toJson? = some value) :
    ReadsAs Path.ofJson? value path := by
  rw [Path.toJson?, Option.map_eq_some_iff] at h
  obtain ⟨s, hs, rfl⟩ := h
  refine ⟨rfl, ?_⟩
  show some (Path.ofString s) = some path
  rw [Path.ofString_of_text? hs]

theorem FileType.readsAs (t : FileType) : ReadsAs FileType.ofJson? t.toJson t :=
  ⟨rfl, FileType.ofName?_name t⟩

theorem TypedPath.readsAs {file : TypedPath} {value : Json} (h : file.toJson? = some value) :
    ReadsAs TypedPath.ofJson? value file := by
  rw [TypedPath.toJson?, Option.bind_eq_bind, Option.bind_eq_some_iff] at h
  obtain ⟨path, hpath, hvalue⟩ := h
  obtain rfl := Option.some.inj hvalue
  have hp := Path.readsAs hpath
  have ht := FileType.readsAs file.type
  refine ⟨?_, ?_⟩
  · rw [isWellFormed_record]
    simp [hp.wellFormed, ht.wellFormed]
  · rw [TypedPath.ofJson?, slots_record _ rfl]
    simp [TypedPath.fieldNames, givenSlot, hp.required, ht.required]

theorem TypedPath.readsAs_list {files : List TypedPath} {value : Json}
    (h : TypedPath.listToJson? files = some value) : ReadsAs TypedPath.listOfJson? value files := by
  rw [TypedPath.listToJson?, Option.map_eq_some_iff] at h
  obtain ⟨items, hitems, rfl⟩ := h
  exact readsAs_array (fun _ _ _ => TypedPath.readsAs) hitems

/-! ## Jobs -/

theorem JobKind.readsAs (kind : JobKind) : ReadsAs JobKind.ofJson? kind.toJson kind := by
  have hinj : ∀ b ∈ JobKind.all, ∀ a ∈ JobKind.all, b.name = a.name → b = a := by decide +kernel
  exact readsAs_choice (JobKind.mem_all kind) fun b hb => hinj b hb kind (JobKind.mem_all kind)

theorem Job.readsAs {job : Job} {value : Json} (h : job.toJson? = some value) :
    ReadsAs Job.ofJson? value job := by
  simp only [Job.toJson?, Option.bind_eq_bind, Option.bind_eq_some_iff, Option.pure_def,
    Option.some.injEq] at h
  obtain ⟨inputs, hinputs, primary, hprimary, outputs, houtputs, rfl⟩ := h
  have hi := TypedPath.readsAs_list hinputs
  have hp := TypedPath.readsAs_list hprimary
  have ho := TypedPath.readsAs_list houtputs
  have hk := JobKind.readsAs job.kind
  refine ⟨?_, ?_⟩
  · rw [isWellFormed_record]
    split <;> simp [hi.wellFormed, hp.wellFormed, ho.wellFormed, hk.wellFormed, (readsAs_text _).wellFormed]
  · rw [Job.ofJson?, slots_record _ (by split <;> rfl)]
    by_cases hempty : job.primaryInputs.isEmpty = true
    · rw [if_pos hempty]
      have hnil := List.isEmpty_iff.1 hempty
      simp [Job.fieldNames, givenSlot, (readsAs_text _).required, hk.required, hi.defaulted,
        ho.defaulted, defaulted_omitted, ← hnil]
    · rw [if_neg hempty]
      simp [Job.fieldNames, givenSlot, (readsAs_text _).required, hk.required, hi.defaulted,
        hp.defaulted, ho.defaulted]

theorem ProcessExit.readsAs (exit : ProcessExit) :
    ReadsAs ProcessExit.ofJson? exit.toJson exit := by
  cases exit with
  | terminated code =>
    refine ⟨rfl, ?_⟩
    show (Json.int code.toInt).int32?.map ProcessExit.terminated = _
    rw [(readsAs_int32 code).read_eq, Option.map_some]
  | signalled signal =>
    refine ⟨rfl, ?_⟩
    show (Json.int signal.toInt).int32?.map ProcessExit.signalled = _
    rw [(readsAs_int32 signal).read_eq, Option.map_some]

end CompilerDriver
