import CompilerDriver.Json.Reader

/-!
# The members of an object

A record is taken apart by the names of its fields, so neither the order of its members nor a member of another
name matters (`slots_perm`, `slots_cons_other`). A further member of a field's name fills the slot of this field
and no other slot (`slotOf_cons_self`, `slotOf_cons_ne`), and the object stays a record only if the slot was empty
before (`wellNamed_cons`).
-/

namespace CompilerDriver.Json

variable {names : List String} {members members' : List (JsonText × Json)}

/-- The members of a name. -/
def named (members : List (JsonText × Json)) (name : String) : List (JsonText × Json) :=
  members.filter fun member => member.1 == some name

theorem slotOf_eq (members : List (JsonText × Json)) (name : String) :
    slotOf members name =
      match (named members name).head? with
      | some member => .given member.2
      | none => .omitted := by
  rw [named, List.head?_filter]
  rfl

theorem wellNamed_iff : wellNamed names members = true ↔
    (∀ member ∈ members, member.1.isSome = true) ∧
      ∀ name ∈ names, (named members name).length ≤ 1 := by
  simp [wellNamed, named]

theorem slots_object {ss : List Slot} :
    (object members).slots names = some ss ↔
      wellNamed names members = true ∧ ss = names.map (slotOf members) := by
  rw [slots]
  split
  next h => simp [h, eq_comm]
  next h => simp [h]

theorem slots_array {items : List Json} {ss : List Slot} :
    (array items).slots names = some ss ↔ items.length ≤ names.length ∧
      ss = items.map .given ++ List.replicate (names.length - items.length) .beyond := by
  rw [slots]
  split
  next h => simp [h, eq_comm]
  next h => simp [h]

theorem length_slots {value : Json} {ss : List Slot} (h : value.slots names = some ss) :
    ss.length = names.length := by
  cases value with
  | object members =>
    obtain ⟨-, rfl⟩ := slots_object.1 h
    rw [List.length_map]
  | array items =>
    obtain ⟨hle, rfl⟩ := slots_array.1 h
    rw [List.length_append, List.length_map, List.length_replicate]
    omega
  | _ => cases h

/-! ## Another order -/

/-- A list of at most one item has only one order. -/
theorem eq_of_perm_of_length_le_one {α : Type} {l l' : List α} (h : l.Perm l') (hl : l.length ≤ 1) :
    l = l' := by
  cases l with
  | nil => exact h.nil_eq
  | cons a rest =>
    cases rest with
    | nil => exact (List.singleton_perm.1 h)
    | cons b rest =>
      simp only [List.length_cons] at hl
      omega

/-- Members in another order fill the same slots. -/
theorem slots_perm (h : members.Perm members') {ss : List Slot}
    (hs : (object members).slots names = some ss) : (object members').slots names = some ss := by
  obtain ⟨hnamed, rfl⟩ := slots_object.1 hs
  obtain ⟨htexts, honce⟩ := wellNamed_iff.1 hnamed
  have hsame (name : String) (hname : name ∈ names) : named members name = named members' name :=
    eq_of_perm_of_length_le_one (h.filter _) (honce name hname)
  refine slots_object.2 ⟨wellNamed_iff.2 ⟨?_, ?_⟩, ?_⟩
  · intro member hmember
    exact htexts member (h.mem_iff.2 hmember)
  · intro name hname
    rw [← hsame name hname]
    exact honce name hname
  · apply List.map_congr_left
    intro name hname
    rw [slotOf_eq, slotOf_eq, hsame name hname]

/-! ## One more member -/

variable {name : String} {value : Json}

theorem named_cons (members : List (JsonText × Json)) (name other : String) (value : Json) :
    named ((some name, value) :: members) other =
      if name = other then (some name, value) :: named members other else named members other := by
  rw [named, List.filter_cons]
  by_cases h : name = other <;> simp [h, named]

theorem slotOf_cons_self (members : List (JsonText × Json)) (name : String) (value : Json) :
    slotOf ((some name, value) :: members) name = .given value := by
  rw [slotOf_eq, named_cons, if_pos rfl]
  rfl

theorem slotOf_cons_ne (members : List (JsonText × Json)) {name other : String} (value : Json)
    (h : name ≠ other) : slotOf ((some name, value) :: members) other = slotOf members other := by
  rw [slotOf_eq, slotOf_eq, named_cons, if_neg h]

/-- Whether a member has a certain name. -/
def isNamed (members : List (JsonText × Json)) (name : String) : Bool :=
  members.any fun member => member.1 == some name

theorem named_eq_nil : named members name = [] ↔ isNamed members name = false := by
  simp [named, isNamed]

theorem slotOf_of_not_isNamed (h : isNamed members name = false) : slotOf members name = .omitted := by
  rw [slotOf_eq, named_eq_nil.2 h]
  rfl

/-- One more member leaves an object a record unless there is one for its field already. -/
theorem wellNamed_cons : wellNamed names ((some name, value) :: members) = true ↔
    wellNamed names members = true ∧ (name ∈ names → isNamed members name = false) := by
  rw [wellNamed_iff, wellNamed_iff, List.forall_mem_cons, ← named_eq_nil]
  constructor
  · rintro ⟨⟨-, htexts⟩, honce⟩
    refine ⟨⟨htexts, fun other hother => ?_⟩, fun hname => ?_⟩
    · have hlength := honce other hother
      rw [named_cons] at hlength
      split at hlength
      next => exact Nat.le_of_succ_le hlength
      next => exact hlength
    · have hlength := honce name hname
      rw [named_cons, if_pos rfl, List.length_cons] at hlength
      exact List.length_eq_zero_iff.1 (by omega)
  · rintro ⟨⟨htexts, honce⟩, hnone⟩
    refine ⟨⟨rfl, htexts⟩, fun other hother => ?_⟩
    rw [named_cons]
    split
    next h =>
      rw [← h, hnone (h ▸ hother)]
      exact Nat.le_refl 1
    next => exact honce other hother

/-- A member that is no field is skipped. -/
theorem slots_cons_other (h : name ∉ names) {ss : List Slot}
    (hs : (object members).slots names = some ss) :
    (object ((some name, value) :: members)).slots names = some ss := by
  obtain ⟨hnamed, rfl⟩ := slots_object.1 hs
  refine slots_object.2 ⟨wellNamed_cons.2 ⟨hnamed, fun hname => absurd hname h⟩, ?_⟩
  apply List.map_congr_left
  intro other hother
  rw [slotOf_cons_ne members value]
  rintro rfl
  exact h hother

end CompilerDriver.Json
