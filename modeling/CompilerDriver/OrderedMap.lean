/-!
# Ordered maps

Finite maps listed by strictly increasing key. Records, output file maps and the ledger of finished
jobs are all printed in key order, so the order is part of the type and a map has exactly one listing.

Keys are told apart by `compare` alone. Two keys may compare equal and still be written differently
(the paths `/a/b` and `/a//b`), so an entry also remembers a spelling of its key. Which spelling
survives a second insertion is a choice of the caller:

* `insert` keeps the spelling that came first and replaces the value;
* `replace` keeps the spelling that came last, and `ofList` collects a list that way.
-/

namespace CompilerDriver

universe u v

/-- Which of two spellings of one key an insertion leaves in the map. -/
inductive Spelling where
  | first
  | last
deriving DecidableEq, Repr

/-- The spelling that stays when `old` is in the map and `new` arrives. -/
def Spelling.pick {κ : Type u} : Spelling → (old new : κ) → κ
  | .first, old, _ => old
  | .last, _, new => new

/-- A finite map from `κ` to `ν`, listed by strictly increasing key. -/
structure OrderedMap (κ : Type u) (ν : Type v) [Ord κ] where
  /-- The entries, least key first. -/
  entries : List (κ × ν)
  /-- Keys increase strictly, so no two entries have equal keys. -/
  sorted : entries.Pairwise fun a b => compare a.1 b.1 = .lt

/-- A finite set, listed in increasing order. -/
abbrev OrderedSet (κ : Type u) [Ord κ] := OrderedMap κ Unit

namespace OrderedMap

variable {κ : Type u} {ν : Type v} [Ord κ]

theorem ext_entries {m n : OrderedMap κ ν} (h : m.entries = n.entries) : m = n := by
  cases m; cases n; cases h; rfl

instance [DecidableEq κ] [DecidableEq ν] : DecidableEq (OrderedMap κ ν) := fun m n =>
  if h : m.entries = n.entries then isTrue (ext_entries h)
  else isFalse fun e => h (e ▸ rfl)

/-- The map without entries. -/
def empty : OrderedMap κ ν := ⟨[], .nil⟩

instance : Inhabited (OrderedMap κ ν) := ⟨empty⟩

/-- The value stored under `k`, whatever spelling it is stored under. -/
def get? (m : OrderedMap κ ν) (k : κ) : Option ν :=
  (m.entries.find? fun e => compare k e.1 == .eq).map (·.2)

/-- Whether some entry has a key equal to `k`. -/
def contains (m : OrderedMap κ ν) (k : κ) : Bool :=
  m.entries.any fun e => compare k e.1 == .eq

/-- The keys, least first, in their stored spelling. -/
def keys (m : OrderedMap κ ν) : List κ := m.entries.map (·.1)

/-- The number of entries. -/
def size (m : OrderedMap κ ν) : Nat := m.entries.length

/-! ## Insertion -/

/-- Puts `(k, v)` at its place in a sorted list; an entry with an equal key gives up its value, and
its spelling too if `keep` says so. -/
def place (keep : Spelling) (k : κ) (v : ν) : List (κ × ν) → List (κ × ν)
  | [] => [(k, v)]
  | (k', v') :: rest =>
    match compare k k' with
    | .lt => (k, v) :: (k', v') :: rest
    | .eq => (keep.pick k' k, v) :: rest
    | .gt => (k', v') :: place keep k v rest

/-- Every key of `place keep k v l` is a key of `l`, or is `k` itself. -/
theorem mem_place {keep : Spelling} {k : κ} {v : ν} {l : List (κ × ν)} {e : κ × ν}
    (h : e ∈ place keep k v l) : e.1 = k ∨ ∃ e' ∈ l, e.1 = e'.1 := by
  induction l with
  | nil => simp only [place, List.mem_singleton] at h; exact .inl (h ▸ rfl)
  | cons hd rest ih =>
    obtain ⟨k', v'⟩ := hd
    rw [place] at h
    split at h
    · rcases List.mem_cons.1 h with rfl | h
      · exact .inl rfl
      · exact .inr ⟨e, h, rfl⟩
    · rcases List.mem_cons.1 h with rfl | h
      · cases keep
        · exact .inr ⟨(k', v'), by simp, rfl⟩
        · exact .inl rfl
      · exact .inr ⟨e, by simp [h], rfl⟩
    · rcases List.mem_cons.1 h with rfl | h
      · exact .inr ⟨_, by simp, rfl⟩
      · rcases ih h with h | ⟨e', he', h⟩
        · exact .inl h
        · exact .inr ⟨e', by simp [he'], h⟩

/-- Placing an entry keeps the keys strictly increasing. -/
theorem pairwise_place [Std.TransOrd κ] {keep : Spelling} {k : κ} {v : ν} {l : List (κ × ν)}
    (h : l.Pairwise fun a b => compare a.1 b.1 = .lt) :
    (place keep k v l).Pairwise fun a b => compare a.1 b.1 = .lt := by
  induction l with
  | nil => simp [place]
  | cons hd rest ih =>
    obtain ⟨k', v'⟩ := hd
    obtain ⟨hlt, hrest⟩ := List.pairwise_cons.1 h
    rw [place]
    split
    next hk =>
      refine List.pairwise_cons.2 ⟨fun e he => ?_, h⟩
      rcases List.mem_cons.1 he with rfl | he
      · exact hk
      · exact Std.TransCmp.lt_trans hk (hlt e he)
    next hk =>
      refine List.pairwise_cons.2 ⟨fun e he => ?_, hrest⟩
      cases keep
      · exact hlt e he
      · exact Std.TransCmp.lt_of_eq_of_lt hk (hlt e he)
    next hk =>
      refine List.pairwise_cons.2 ⟨fun e he => ?_, ih hrest⟩
      rcases mem_place he with he | ⟨e', he', he⟩
      · rw [he]; exact Std.OrientedCmp.lt_of_gt hk
      · rw [he]; exact hlt e' he'

variable [Std.TransOrd κ]

/-- Sets the value of `k`; a key that is already there keeps its spelling. -/
def insert (m : OrderedMap κ ν) (k : κ) (v : ν) : OrderedMap κ ν :=
  ⟨place .first k v m.entries, pairwise_place m.sorted⟩

/-- Sets the value of `k` and the spelling of the key. -/
def replace (m : OrderedMap κ ν) (k : κ) (v : ν) : OrderedMap κ ν :=
  ⟨place .last k v m.entries, pairwise_place m.sorted⟩

/-- Collects a list of entries; of entries with equal keys the last one stays. -/
def ofList (l : List (κ × ν)) : OrderedMap κ ν :=
  l.foldl (fun m e => m.replace e.1 e.2) empty

/-- Inserts the entries of a list one after the other, on top of `m`. -/
def insertAll (m : OrderedMap κ ν) (l : List (κ × ν)) : OrderedMap κ ν :=
  l.foldl (fun m e => m.insert e.1 e.2) m

/-- Adds the entries of a list to `m`, unless a key is there already: then gives the first such key. -/
def addDistinct (m : OrderedMap κ ν) : List (κ × ν) → Except κ (OrderedMap κ ν)
  | [] => .ok m
  | (k, v) :: rest => if m.contains k then .error k else (m.insert k v).addDistinct rest

/-- Collects a list of entries with different keys, or gives the first key that repeats an earlier one. -/
def ofDistinct (l : List (κ × ν)) : Except κ (OrderedMap κ ν) := empty.addDistinct l

/-- Applies a function to every key. Keys that become equal collapse, and the last of them stays. -/
def mapKeys (f : κ → κ) (m : OrderedMap κ ν) : OrderedMap κ ν :=
  ofList (m.entries.map fun e => (f e.1, e.2))

omit [Std.TransOrd κ] in
/-- A filtered list of entries is still sorted. -/
def filterKeys (p : κ → Bool) (m : OrderedMap κ ν) : OrderedMap κ ν :=
  ⟨m.entries.filter fun e => p e.1, m.sorted.filter _⟩

/-- Applies a function to every value and keeps every key. -/
def mapValues {ω : Type v} (f : κ → ν → ω) (m : OrderedMap κ ν) : OrderedMap κ ω :=
  ⟨m.entries.map fun e => (e.1, f e.1 e.2), List.pairwise_map.2 m.sorted⟩

/-! ## Looking up after an insertion -/

omit [Std.TransOrd κ] in
@[simp] theorem get?_empty (k : κ) : (empty : OrderedMap κ ν).get? k = none := rfl

theorem find?_place (keep : Spelling) (k : κ) (v : ν) (l : List (κ × ν)) (q : κ)
    (h : l.Pairwise fun a b => compare a.1 b.1 = .lt) :
    ((place keep k v l).find? fun e => compare q e.1 == .eq).map (·.2) =
      if compare q k = .eq then some v
      else (l.find? fun e => compare q e.1 == .eq).map (·.2) := by
  induction l with
  | nil =>
    by_cases hq : compare q k = .eq <;> simp [place, hq]
  | cons hd rest ih =>
    obtain ⟨k', v'⟩ := hd
    obtain ⟨hlt, hrest⟩ := List.pairwise_cons.1 h
    rw [place]
    split
    next hk =>
      by_cases hq : compare q k = .eq <;> simp [hq]
    next hk =>
      have hq : compare q (keep.pick k' k) = compare q k := by
        cases keep
        · exact (Std.TransCmp.congr_right hk).symm
        · rfl
      have hq' : compare q k' = compare q k := (Std.TransCmp.congr_right hk).symm
      by_cases hqk : compare q k = .eq
      · simp [hq, hqk]
      · simp [hq, hq', hqk]
    next hk =>
      by_cases hq : compare q k' = .eq
      · have hqk : compare q k ≠ .eq := by
          intro hqk
          have : compare k k' = .eq :=
            Std.TransCmp.eq_trans (Std.OrientedCmp.eq_comm.1 hqk) hq
          rw [this] at hk; cases hk
        simp [hq, hqk]
      · have hf : (compare q k' == .eq) = false := by simp [hq]
        rw [List.find?_cons, hf, List.find?_cons, hf]
        exact ih hrest

/-- After an insertion the key has the new value and every other key the value it had. -/
theorem get?_insert (m : OrderedMap κ ν) (k : κ) (v : ν) (q : κ) :
    (m.insert k v).get? q = if compare q k = .eq then some v else m.get? q :=
  find?_place .first k v m.entries q m.sorted

/-- Keys that compare equal lead to the same value. -/
theorem get?_congr {m : OrderedMap κ ν} {k q : κ} (h : compare k q = .eq) : m.get? k = m.get? q := by
  unfold get?
  congr 1
  congr 1
  funext e
  rw [Std.TransCmp.congr_left h]

theorem get?_replace (m : OrderedMap κ ν) (k : κ) (v : ν) (q : κ) :
    (m.replace k v).get? q = if compare q k = .eq then some v else m.get? q :=
  find?_place .last k v m.entries q m.sorted

end OrderedMap

namespace OrderedSet

variable {κ : Type u} [Ord κ]

/-- Collects a list; of equal elements the last one's spelling stays. -/
def ofList [Std.TransOrd κ] (l : List κ) : OrderedSet κ :=
  OrderedMap.ofList (l.map fun k => (k, ()))

/-- The elements, least first. -/
def toList (s : OrderedSet κ) : List κ := s.keys

end OrderedSet

end CompilerDriver
