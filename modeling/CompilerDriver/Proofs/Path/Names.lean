import CompilerDriver.Proofs.Path.Components

/-!
# Names at the end of paths

A path is a root, a leading `.` or nothing, and then its *entries* (`components_eq`). Resolving a relative path
puts the entries of the directory before its own (`entries_join`), so it keeps the name that a path ends in
(`fileName?_join`); and a path that is given a name ends in it (`fileName?_withFileName`).
-/

namespace CompilerDriver.Path

/-! ## Entries -/

/-- What stands before the entries of a path. -/
def lead (p : Path) : List Component :=
  if p.isAbsolute then [.root] else if (pieces p.bytes).head? = some [dot] then [.current] else []

/-- The components that the stretches between separators name. -/
def entries (bs : Bytes) : List Component := (pieces bs).filterMap ofPiece

theorem components_eq (p : Path) : p.components = p.lead ++ entries p.bytes := by
  rw [components, lead, entries]
  split
  next => rfl
  next =>
    cases hpieces : pieces p.bytes with
    | nil => exact absurd hpieces (pieces_ne_nil _)
    | cons piece rest =>
      show (if piece = [dot] then _ else _) = (if some piece = some [dot] then _ else _) ++ _
      split
      next h =>
        rw [if_pos (congrArg some h), List.filterMap_cons, ofPiece, if_pos (.inr h)]
        rfl
      next h =>
        rw [if_neg fun h' => h (Option.some.inj h')]
        rfl

theorem pieces_append_slash (as bs : Bytes) : pieces (as ++ slash :: bs) = pieces as ++ pieces bs := by
  induction as with
  | nil => simp [pieces]
  | cons a as ih =>
    rw [List.cons_append, pieces, pieces, ih]
    split
    next => rfl
    next =>
      cases hpieces : pieces as with
      | nil => exact absurd hpieces (pieces_ne_nil as)
      | cons piece rest => rfl

theorem pieces_of_not_mem {bs : Bytes} (h : slash ∉ bs) : pieces bs = [bs] := by
  induction bs with
  | nil => rfl
  | cons b bs ih =>
    rw [List.mem_cons, not_or] at h
    rw [pieces, if_neg fun hb => h.1 hb.symm, ih h.2]

theorem slash_not_mem_of_mem_pieces {bs piece : Bytes} (h : piece ∈ pieces bs) : slash ∉ piece := by
  induction bs generalizing piece with
  | nil =>
    rw [List.mem_singleton.1 h]
    exact List.not_mem_nil
  | cons b bs ih =>
    rw [pieces] at h
    split at h
    next =>
      rcases List.mem_cons.1 h with rfl | h
      · exact List.not_mem_nil
      · exact ih h
    next hb =>
      cases hpieces : pieces bs with
      | nil => exact absurd hpieces (pieces_ne_nil bs)
      | cons first rest =>
        rw [hpieces] at h ih
        rcases List.mem_cons.1 h with rfl | h
        · rw [List.mem_cons, not_or]
          exact ⟨fun h => hb h.symm, ih List.mem_cons_self⟩
        · exact ih (List.mem_cons_of_mem _ h)

theorem entries_append_slash (as bs : Bytes) : entries (as ++ slash :: bs) = entries as ++ entries bs := by
  rw [entries, pieces_append_slash, List.filterMap_append]
  rfl

/-- A relative path is resolved by putting the entries of the directory before its own. -/
theorem entries_join (dir : Path) {p : Path} (hp : p.isAbsolute = false) :
    entries (dir.join p).bytes = entries dir.bytes ++ entries p.bytes := by
  rw [join, hp, if_neg Bool.false_ne_true]
  split
  next h =>
    rcases h with h | h
    · rw [h]
      rfl
    -- a directory that ends in a separator has an empty stretch there, which names nothing
    · obtain ⟨ds, hds⟩ := List.getLast?_eq_some_iff.1 h
      have hdir : entries dir.bytes = entries ds := by
        rw [hds, entries_append_slash, show entries [] = [] from rfl, List.append_nil]
      rw [hdir, hds, List.append_assoc]
      exact entries_append_slash ds p.bytes
  next => exact entries_append_slash _ _

/-- Whether a component is neither the root nor the leading `.`. -/
def Component.isEntry : Component → Bool
  | .root => false
  | .current => false
  | .parent => true
  | .name _ => true

theorem isEntry_of_ofPiece {piece : Bytes} {c : Component} (h : ofPiece piece = some c) :
    c.isEntry = true := by
  rw [ofPiece] at h
  split at h
  next => cases h
  next =>
    split at h
    · cases h
      rfl
    · cases h
      rfl

theorem filter_isEntry_components (p : Path) : p.components.filter Component.isEntry = entries p.bytes := by
  have hlead : p.lead.filter Component.isEntry = [] := by
    rw [lead]
    split
    next => rfl
    next => split <;> rfl
  have hentries : ∀ c ∈ entries p.bytes, c.isEntry = true := by
    intro c hc
    obtain ⟨piece, -, hpiece⟩ := List.mem_filterMap.1 hc
    exact isEntry_of_ofPiece hpiece
  rw [components_eq, List.filter_append, hlead, List.nil_append, List.filter_eq_self.2 hentries]

theorem entries_congr {p q : Path} (h : compare p q = .eq) : entries p.bytes = entries q.bytes := by
  rw [← filter_isEntry_components p, ← filter_isEntry_components q, compare_eq_iff.1 h]

/-! ## Names -/

/-- The names that a directory can hold an entry under. -/
structure IsName (name : Bytes) : Prop where
  ne_nil : name ≠ []
  ne_dot : name ≠ [dot]
  ne_dots : name ≠ [dot, dot]
  slash_not_mem : slash ∉ name

/-- Only names of one or two bytes stand for something else. -/
theorem isName_of_length {name : Bytes} (h : 2 < name.length) (hslash : slash ∉ name) : IsName name := by
  have hne {bs : Bytes} (hbs : bs.length ≤ 2) : name ≠ bs := by
    rintro rfl
    exact absurd h (Nat.not_lt.2 hbs)
  exact ⟨hne (Nat.zero_le 2), hne (Nat.le_succ 1), hne (Nat.le_refl 2), hslash⟩

theorem ofPiece_eq_name {piece name : Bytes} (h : ofPiece piece = some (.name name)) :
    piece = name ∧ name ≠ [] ∧ name ≠ [dot] ∧ name ≠ [dot, dot] := by
  rw [ofPiece] at h
  split at h
  next => cases h
  next hnoise =>
    split at h
    next => cases h
    next hdots =>
      cases h
      exact ⟨rfl, fun h => hnoise (.inl h), fun h => hnoise (.inr h), hdots⟩

theorem entries_of_isName {name : Bytes} (h : IsName name) : entries name = [.name name] := by
  have hpiece : ofPiece name = some (.name name) := by
    rw [ofPiece, if_neg (not_or.2 ⟨h.ne_nil, h.ne_dot⟩), if_neg h.ne_dots]
  rw [entries, pieces_of_not_mem h.slash_not_mem, List.filterMap_cons, hpiece]
  rfl

theorem isAbsolute_of_isName {name : Bytes} (h : IsName name) : (⟨name⟩ : Path).isAbsolute = false := by
  rw [isAbsolute, beq_eq_false_iff_ne]
  intro hhead
  exact h.slash_not_mem (List.mem_of_head? hhead)

/-- A path ends in the name that its last entry is. -/
theorem fileName?_eq_some {p : Path} {name : Bytes} :
    p.fileName? = some name ↔ (entries p.bytes).getLast? = some (.name name) := by
  have hname : p.fileName? = some name ↔ p.components.getLast? = some (.name name) := by
    rw [fileName?]
    split
    next bytes hlast => simp [hlast]
    next hlast => exact ⟨fun h => (nomatch h), fun h => absurd h (hlast name)⟩
  rw [hname, components_eq, List.getLast?_append]
  cases hlast : (entries p.bytes).getLast? with
  | some c => rfl
  | none =>
    rw [Option.none_or, lead]
    split
    next => simp
    next => split <;> simp

theorem isName_of_fileName? {p : Path} {name : Bytes} (h : p.fileName? = some name) : IsName name := by
  have hmem := List.mem_of_getLast? (fileName?_eq_some.1 h)
  obtain ⟨piece, hpiece, hname⟩ := List.mem_filterMap.1 hmem
  obtain ⟨rfl, hnil, hdot, hdots⟩ := ofPiece_eq_name hname
  exact ⟨hnil, hdot, hdots, slash_not_mem_of_mem_pieces hpiece⟩

theorem fileName?_congr {p q : Path} (h : compare p q = .eq) : p.fileName? = q.fileName? := by
  rw [fileName?, fileName?, compare_eq_iff.1 h]

/-- A path that is resolved against a directory ends as it did before, unless nothing stands in it. -/
theorem fileName?_join_of_entries (dir : Path) {p : Path}
    (h : p.isAbsolute = true ∨ entries p.bytes ≠ []) : (dir.join p).fileName? = p.fileName? := by
  cases hp : p.isAbsolute with
  | true => rw [join, if_pos hp]
  | false =>
    have hentries : entries p.bytes ≠ [] := h.resolve_left (by simp [hp])
    apply Option.ext
    intro name
    rw [fileName?_eq_some, fileName?_eq_some, entries_join dir hp, List.getLast?_append,
      List.getLast?_eq_some_getLast hentries]
    rfl

theorem fileName?_join (dir : Path) {p : Path} {name : Bytes} (h : p.fileName? = some name) :
    (dir.join p).fileName? = some name := by
  have hentries : entries p.bytes ≠ [] := by
    intro hnil
    rw [fileName?_eq_some, hnil] at h
    cases h
  rw [fileName?_join_of_entries dir (.inr hentries), h]

/-- A path in which nothing stands is resolved to the directory. -/
theorem fileName?_join_of_no_entries (dir : Path) {p : Path} (hp : p.isAbsolute = false)
    (h : entries p.bytes = []) : (dir.join p).fileName? = dir.fileName? := by
  apply Option.ext
  intro name
  rw [fileName?_eq_some, fileName?_eq_some, entries_join dir hp, h, List.append_nil]

theorem fileName?_withFileName (p : Path) {name : Bytes} (h : IsName name) :
    (p.withFileName name).fileName? = some name := by
  have hname : (⟨name⟩ : Path).fileName? = some name := by
    rw [fileName?_eq_some, entries_of_isName h]
    rfl
  exact fileName?_join _ hname

/-- A name is its stem, or the stem, a dot and the extension. -/
theorem eq_of_stemAndExtension {name stem : Bytes} {extension? : Option Bytes}
    (h : stemAndExtension name = (stem, extension?)) :
    (extension? = none ∧ name = stem) ∨
      ∃ extension, extension? = some extension ∧ name = stem ++ dot :: extension := by
  rw [stemAndExtension] at h
  split at h
  next b before after hcut =>
    cases h
    exact .inr ⟨after, rfl, eq_of_splitAtLast hcut⟩
  next =>
    cases h
    exact .inl ⟨rfl, rfl⟩

theorem isAbsolute_join_iff (dir : Path) {p : Path} (hp : p.isAbsolute = false) :
    (dir.join p).isAbsolute = true ↔ dir.isAbsolute = true :=
  ⟨fun h => isAbsolute_of_join h hp, fun h => isAbsolute_join h p⟩

/-! ## Resolving spellings of one path -/

theorem join_of_empty {dir : Path} (h : dir.bytes = []) (p : Path) : dir.join p = p := by
  rw [join]
  split
  next => rfl
  next => rw [if_pos (.inl h), h, List.nil_append]

theorem head?_pieces_append_slash (as bs : Bytes) :
    (pieces (as ++ slash :: bs)).head? = (pieces as).head? := by
  rw [pieces_append_slash]
  cases hpieces : pieces as with
  | nil => exact absurd hpieces (pieces_ne_nil as)
  | cons piece rest => rfl

theorem lead_join {dir : Path} (hdir : dir.bytes ≠ []) {p : Path} (hp : p.isAbsolute = false) :
    (dir.join p).lead = dir.lead := by
  have habsolute : (dir.join p).isAbsolute = dir.isAbsolute :=
    Bool.eq_iff_iff.2 (isAbsolute_join_iff dir hp)
  have hhead : (pieces (dir.join p).bytes).head? = (pieces dir.bytes).head? := by
    rw [join, hp, if_neg Bool.false_ne_true]
    split
    next h =>
      obtain ⟨ds, hds⟩ := List.getLast?_eq_some_iff.1 (h.resolve_left hdir)
      rw [hds, head?_pieces_append_slash, List.append_assoc]
      exact head?_pieces_append_slash ds p.bytes
    next => exact head?_pieces_append_slash dir.bytes p.bytes
  rw [lead, lead, habsolute, hhead]

theorem components_join {dir : Path} (hdir : dir.bytes ≠ []) {p : Path} (hp : p.isAbsolute = false) :
    (dir.join p).components = dir.components ++ entries p.bytes := by
  rw [components_eq, components_eq dir, lead_join hdir hp, entries_join dir hp, List.append_assoc]

/-- Spellings of one path are resolved to spellings of one path. -/
theorem join_congr (dir : Path) {p q : Path} (h : compare p q = .eq) :
    compare (dir.join p) (dir.join q) = .eq := by
  have hsame := isAbsolute_congr h
  cases hq : q.isAbsolute with
  | true =>
    rw [hq] at hsame
    rwa [join, join, if_pos hsame, if_pos hq]
  | false =>
    rw [hq] at hsame
    by_cases hdir : dir.bytes = []
    · rwa [join_of_empty hdir, join_of_empty hdir]
    · rw [compare_eq_iff, components_join hdir hsame, components_join hdir hq, entries_congr h]

end CompilerDriver.Path
