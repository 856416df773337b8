import CompilerDriver.FileType

/-!
# Paths that compare equal

Paths compare equal exactly if their components agree (`compare_eq_iff`), so all that can be told from
components is shared by all spellings of a path. Whether a path is absolute is of this kind. Typed paths
compare equal if their types agree, too.
-/

namespace CompilerDriver

namespace Path

theorem Component.eq_of_rank_label {a b : Component} (hr : a.rank = b.rank) (hl : a.label = b.label) :
    a = b := by
  cases a <;> cases b <;> simp_all [Component.rank, Component.label]

/-- Components that compare equal are the same. -/
instance : Std.LawfulEqOrd Component where
  compare_self := Std.ReflCmp.compare_self
  eq_of_compare {a b} h := by
    have h' : (compareOn Component.rank a b).then (compareOn Component.label a b) = .eq := h
    rw [Ordering.then_eq_eq] at h'
    exact Component.eq_of_rank_label (Std.LawfulEqCmp.eq_of_compare h'.1)
      (Std.LawfulEqCmp.eq_of_compare h'.2)

theorem compare_eq_iff {p q : Path} : compare p q = .eq ↔ p.components = q.components := by
  show compare p.components q.components = .eq ↔ _
  constructor
  · intro h
    exact Std.LawfulEqCmp.eq_of_compare h
  · intro h
    rw [h]
    exact Std.ReflCmp.compare_self

theorem ofPiece_ne_root (piece : Bytes) : ofPiece piece ≠ some .root := by
  unfold ofPiece
  split
  · simp
  · split <;> simp

/-- A path is absolute if its components begin with the root. -/
theorem isAbsolute_iff {p : Path} : p.isAbsolute = true ↔ .root ∈ p.components := by
  have hnames (ps : List Bytes) : .root ∉ ps.filterMap ofPiece := by
    intro h
    obtain ⟨piece, -, hpiece⟩ := List.mem_filterMap.1 h
    exact ofPiece_ne_root piece hpiece
  unfold components
  split
  next h => simp [h]
  next h =>
    refine ⟨fun habs => absurd habs h, fun hroot => ?_⟩
    split at hroot
    next => simp at hroot
    next =>
      split at hroot
      · rcases List.mem_cons.1 hroot with hroot | hroot
        · cases hroot
        · exact absurd hroot (hnames _)
      · exact absurd hroot (hnames _)

theorem isAbsolute_congr {p q : Path} (h : compare p q = .eq) : p.isAbsolute = q.isAbsolute := by
  rw [Bool.eq_iff_iff, isAbsolute_iff, isAbsolute_iff, compare_eq_iff.1 h]

/-- What resolves a relative path to an absolute one is itself absolute. -/
theorem isAbsolute_of_join {dir p : Path} (h : (dir.join p).isAbsolute = true)
    (hp : p.isAbsolute = false) : dir.isAbsolute = true := by
  obtain ⟨ds⟩ := dir
  rw [join, hp] at h
  cases ds with
  | nil =>
    rw [if_neg (by simp), if_pos (.inl rfl)] at h
    exact absurd (hp.symm.trans h) (by simp)
  | cons d ds =>
    rw [if_neg (by simp)] at h
    split at h <;> exact h

end Path

theorem FileType.compare_eq_iff {s t : FileType} : compare s t = .eq ↔ s = t := by
  show compare s.rank t.rank = .eq ↔ _
  rw [Std.LawfulEqCmp.compare_eq_iff_eq]
  exact ⟨rank_inj, congrArg rank⟩

theorem TypedPath.compare_eq_iff {a b : TypedPath} :
    compare a b = .eq ↔ compare a.path b.path = .eq ∧ a.type = b.type := by
  show (compare a.path b.path).then (compare a.type b.type) = .eq ↔ _
  rw [Ordering.then_eq_eq, FileType.compare_eq_iff]

end CompilerDriver
