import CompilerDriver.OrderedMap

/-!
# Collecting what a map lists

A map has one listing, and the listing gives the map back: whether its entries are collected by `ofList`,
where a repeated key would give up its spelling, by `insertAll`, where it would keep it, or by `ofDistinct`,
where it would be an error. All put each entry behind all entries that are there already, because the keys of
a listing increase.

Where equal keys are always written alike, a set is told by its elements alone (`OrderedSet.ext_mem`), so
the order and the repetitions of a list do not matter to the set collected from it.
-/

namespace CompilerDriver

universe u v

namespace OrderedMap

variable {κ : Type u} {ν : Type v} [Ord κ]

/-! ## Keys that come last -/

/-- A key that is greater than all keys of a list is placed at its end. -/
theorem place_last [Std.OrientedOrd κ] (keep : Spelling) {k : κ} (v : ν) {l : List (κ × ν)}
    (h : ∀ e ∈ l, compare e.1 k = .lt) : place keep k v l = l ++ [(k, v)] := by
  induction l with
  | nil => rfl
  | cons e l ih =>
    obtain ⟨k', v'⟩ := e
    have hgt : compare k k' = .gt := Std.OrientedCmp.gt_of_lt (h (k', v') (by simp))
    rw [place, hgt, List.cons_append, ← ih fun e he => h e (by simp [he])]

theorem contains_eq_false [Std.OrientedOrd κ] {m : OrderedMap κ ν} {k : κ}
    (h : ∀ e ∈ m.entries, compare e.1 k = .lt) : m.contains k = false := by
  rw [contains, List.any_eq_false]
  intro e he
  rw [Std.OrientedCmp.gt_of_lt (h e he)]
  decide

variable [Std.TransOrd κ]

/-- Entries that continue a map in order are put behind it, whichever spelling stays where keys are equal. -/
theorem entries_foldl_place {keep : Spelling} {add : OrderedMap κ ν → κ → ν → OrderedMap κ ν}
    (hadd : ∀ m k v, (add m k v).entries = place keep k v m.entries) (m : OrderedMap κ ν) (l : List (κ × ν))
    (h : (m.entries ++ l).Pairwise fun a b => compare a.1 b.1 = .lt) :
    (l.foldl (fun m e => add m e.1 e.2) m).entries = m.entries ++ l := by
  induction l generalizing m with
  | nil => simp
  | cons e l ih =>
    have hlast : (add m e.1 e.2).entries = m.entries ++ [e] :=
      (hadd m e.1 e.2).trans
        (place_last keep e.2 fun a ha => (List.pairwise_append.1 h).2.2 a ha e (by simp))
    rw [List.foldl_cons, ih, hlast, List.append_assoc, List.singleton_append]
    rw [hlast, List.append_assoc, List.singleton_append]
    exact h

theorem entries_foldl_replace (m : OrderedMap κ ν) (l : List (κ × ν))
    (h : (m.entries ++ l).Pairwise fun a b => compare a.1 b.1 = .lt) :
    (l.foldl (fun m e => m.replace e.1 e.2) m).entries = m.entries ++ l :=
  entries_foldl_place (fun _ _ _ => rfl) m l h

theorem ofList_entries (m : OrderedMap κ ν) : ofList m.entries = m :=
  ext_entries (entries_foldl_replace empty m.entries m.sorted)

theorem insertAll_entries (m : OrderedMap κ ν) : empty.insertAll m.entries = m :=
  ext_entries (entries_foldl_place (fun _ _ _ => rfl) empty m.entries m.sorted)

/-- Entries that continue a map in order have new keys. -/
theorem addDistinct_of_sorted (m : OrderedMap κ ν) (l : List (κ × ν))
    (h : (m.entries ++ l).Pairwise fun a b => compare a.1 b.1 = .lt) :
    m.addDistinct l = .ok ⟨m.entries ++ l, h⟩ := by
  induction l generalizing m with
  | nil =>
    rw [addDistinct]
    congr 1
    exact ext_entries (by simp)
  | cons e l ih =>
    have hbelow : ∀ a ∈ m.entries, compare a.1 e.1 = .lt := fun a ha =>
      (List.pairwise_append.1 h).2.2 a ha e (by simp)
    have hlast : (m.insert e.1 e.2).entries = m.entries ++ [e] := place_last .first e.2 hbelow
    have hnext : (m.insert e.1 e.2).entries ++ l = m.entries ++ e :: l := by
      rw [hlast, List.append_assoc, List.singleton_append]
    rw [addDistinct, contains_eq_false hbelow, ih _ (hnext ▸ h)]
    simp only [hnext, Bool.false_eq_true, if_false]

theorem ofDistinct_entries (m : OrderedMap κ ν) : ofDistinct m.entries = .ok m :=
  addDistinct_of_sorted empty m.entries m.sorted

/-! ## Keys of a collected map -/

omit [Std.TransOrd κ] in
theorem isSome_get? (m : OrderedMap κ ν) (q : κ) : (m.get? q).isSome = m.contains q := by
  rw [get?, Option.isSome_map, contains, List.isSome_find?]

omit [Std.TransOrd κ] in
theorem exists_mem_keys_of_get? {m : OrderedMap κ ν} {q : κ} (h : (m.get? q).isSome) :
    ∃ k ∈ m.keys, compare q k = .eq := by
  rw [get?, Option.isSome_map] at h
  obtain ⟨found, hfound⟩ := Option.isSome_iff_exists.1 h
  have heq := List.find?_some hfound
  exact ⟨found.1, List.mem_map_of_mem (List.mem_of_find?_eq_some hfound), beq_iff_eq.1 heq⟩

omit [Std.TransOrd κ] in
theorem mem_keys_filterKeys {p : κ → Bool} {m : OrderedMap κ ν} {k : κ} :
    k ∈ (m.filterKeys p).keys ↔ k ∈ m.keys ∧ p k = true := by
  simp only [keys, filterKeys, List.mem_map, List.mem_filter]
  constructor
  · rintro ⟨e, ⟨he, hp⟩, rfl⟩
    exact ⟨⟨e, he, rfl⟩, hp⟩
  · rintro ⟨⟨e, he, rfl⟩, hp⟩
    exact ⟨e, ⟨he, hp⟩, rfl⟩

omit [Std.TransOrd κ] in
theorem get?_filterKeys [Std.LawfulEqOrd κ] (p : κ → Bool) (m : OrderedMap κ ν) (q : κ) :
    (m.filterKeys p).get? q = if p q then m.get? q else none := by
  rw [get?, filterKeys, List.find?_filter, get?]
  by_cases hq : p q = true
  · rw [if_pos hq]
    congr 2
    funext e
    by_cases he : compare q e.1 = .eq
    · rw [← Std.LawfulEqCmp.eq_of_compare he, hq]
      simp
    · simp [he]
  · rw [if_neg hq, Option.map_eq_none_iff, List.find?_eq_none]
    intro e _ h
    rw [decide_eq_true_iff, beq_iff_eq] at h
    exact hq (Std.LawfulEqCmp.eq_of_compare h.2 ▸ h.1)

/-- A collected map has the spellings of the list. -/
theorem mem_keys_foldl_replace (l : List (κ × ν)) (m : OrderedMap κ ν) {k : κ}
    (h : k ∈ (l.foldl (fun m e => m.replace e.1 e.2) m).keys) : k ∈ l.map (·.1) ∨ k ∈ m.keys := by
  induction l generalizing m with
  | nil => exact .inr h
  | cons e l ih =>
    rcases ih (m.replace e.1 e.2) h with hk | hk
    · exact .inl (List.mem_cons_of_mem _ hk)
    · obtain ⟨a, ha, rfl⟩ := List.mem_map.1 hk
      rcases mem_place ha with heq | ⟨b, hb, heq⟩
      · exact .inl (heq ▸ List.mem_cons_self)
      · exact .inr (List.mem_map.2 ⟨b, hb, heq.symm⟩)

theorem isSome_get?_foldl_replace (l : List (κ × ν)) (m : OrderedMap κ ν) {q : κ}
    (h : (∃ k ∈ l.map (·.1), compare q k = .eq) ∨ (m.get? q).isSome) :
    ((l.foldl (fun m e => m.replace e.1 e.2) m).get? q).isSome := by
  induction l generalizing m with
  | nil =>
    rcases h with ⟨k, hk, -⟩ | h
    · cases hk
    · exact h
  | cons e l ih =>
    apply ih (m.replace e.1 e.2)
    rw [get?_replace]
    rcases h with ⟨k, hk, hqk⟩ | h
    · rcases List.mem_cons.1 hk with rfl | hk
      · exact .inr (by rw [if_pos hqk]; rfl)
      · exact .inl ⟨k, hk, hqk⟩
    · right
      split
      · rfl
      · exact h

theorem mem_keys_mapKeys {f : κ → κ} {m : OrderedMap κ ν} {k : κ} (h : k ∈ (m.mapKeys f).keys) :
    ∃ k' ∈ m.keys, f k' = k := by
  rcases mem_keys_foldl_replace _ empty h with hk | hk
  · rw [List.map_map] at hk
    obtain ⟨e, he, rfl⟩ := List.mem_map.1 hk
    exact ⟨e.1, List.mem_map_of_mem he, rfl⟩
  · cases hk

/-- The image of a key is a key of the mapped map, in some spelling. -/
theorem exists_mem_keys_mapKeys (f : κ → κ) {m : OrderedMap κ ν} {k : κ} (h : k ∈ m.keys) :
    ∃ k' ∈ (m.mapKeys f).keys, compare (f k) k' = .eq := by
  obtain ⟨e, he, rfl⟩ := List.mem_map.1 h
  have hmem : f e.1 ∈ (m.entries.map fun e => (f e.1, e.2)).map (·.1) := by
    rw [List.map_map]
    exact List.mem_map.2 ⟨e, he, rfl⟩
  exact exists_mem_keys_of_get?
    (isSome_get?_foldl_replace _ empty (.inl ⟨f e.1, hmem, Std.ReflCmp.compare_self⟩))

theorem mapKeys_eq_self {f : κ → κ} {m : OrderedMap κ ν} (h : ∀ k ∈ m.keys, f k = k) :
    m.mapKeys f = m := by
  have hsame : (m.entries.map fun e => (f e.1, e.2)) = m.entries := by
    rw [List.map_congr_left (g := id), List.map_id]
    intro e he
    rw [h e.1 (List.mem_map_of_mem he)]
    rfl
  rw [mapKeys, hsame, ofList_entries]

end OrderedMap

namespace OrderedSet

variable {κ : Type u} [Ord κ] [Std.TransOrd κ]

theorem ofList_toList (s : OrderedSet κ) : ofList s.toList = s := by
  have hkeys : (s.toList.map fun k => (k, ())) = s.entries := by
    rw [toList, OrderedMap.keys, List.map_map]
    exact List.map_id' _
  rw [ofList, hkeys, OrderedMap.ofList_entries]

/-! ## Elements of sets -/

omit [Std.TransOrd κ] in
theorem sorted_toList (s : OrderedSet κ) : s.toList.Pairwise fun a b => compare a b = .lt :=
  List.pairwise_map.2 s.sorted

theorem nodup_toList (s : OrderedSet κ) : s.toList.Nodup :=
  (sorted_toList s).imp fun {a b} hlt heq => by
    have hself : compare a a = .eq := Std.ReflCmp.compare_self
    rw [← heq, hself] at hlt
    cases hlt

/-- Sets with the same elements are the same. -/
theorem ext_mem {s t : OrderedSet κ} (h : ∀ q, q ∈ s.toList ↔ q ∈ t.toList) : s = t := by
  have hperm : s.toList.Perm t.toList :=
    (List.perm_ext_iff_of_nodup (nodup_toList s) (nodup_toList t)).2 h
  -- two orders of the same elements that both increase are one
  have hanti : ∀ a b : κ, a ∈ s.toList → b ∈ t.toList → compare a b = .lt → compare b a = .lt →
      a = b := by
    intro a b _ _ hab hba
    rw [Std.OrientedCmp.gt_of_lt hab] at hba
    cases hba
  have hlist : s.toList = t.toList :=
    hperm.eq_of_pairwise hanti (sorted_toList s) (sorted_toList t)
  rw [← ofList_toList s, hlist, ofList_toList]

section Lawful

variable [Std.LawfulEqOrd κ]

omit [Std.TransOrd κ] in
theorem mem_place {k q : κ} {l : List (κ × Unit)} :
    q ∈ (OrderedMap.place .last k () l).map (·.1) ↔ q = k ∨ q ∈ l.map (·.1) := by
  induction l with
  | nil => simp [OrderedMap.place]
  | cons e l ih =>
    obtain ⟨k', v⟩ := e
    rw [OrderedMap.place]
    split
    next => simp
    next h =>
      obtain rfl := Std.LawfulEqCmp.eq_of_compare h
      simp [Spelling.pick]
    next =>
      rw [List.map_cons, List.mem_cons, ih, List.map_cons, List.mem_cons]
      exact or_left_comm

theorem mem_foldl_replace {q : κ} (l : List κ) (s : OrderedSet κ) :
    q ∈ ((l.map fun k => (k, ())).foldl (fun m e => m.replace e.1 e.2) s).toList ↔
      q ∈ l ∨ q ∈ s.toList := by
  induction l generalizing s with
  | nil => simp
  | cons k l ih =>
    rw [List.map_cons, List.foldl_cons, ih, toList, OrderedMap.keys, OrderedMap.replace, mem_place,
      List.mem_cons, or_assoc, or_left_comm]
    rfl

theorem mem_ofList {q : κ} {l : List κ} : q ∈ (ofList l).toList ↔ q ∈ l := by
  rw [ofList, OrderedMap.ofList, mem_foldl_replace]
  simp [toList, OrderedMap.keys, OrderedMap.empty]

end Lawful

end OrderedSet

end CompilerDriver
