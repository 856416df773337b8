import CompilerDriver.Proofs.Incremental.Rerun
import CompilerDriver.Proofs.Path.Siblings
import CompilerDriver.Proofs.Text.Lossy

/-!
# Where records are kept

A run that only makes a module keeps its record apart from all other runs of the same output file map and
working directory (`makesModule_of_recordPath`). The name of its file is longer than the one that the map
declares (`length_lt_markedName`); where the map declares no name, its file has one more entry.
-/

namespace CompilerDriver.Incremental.Run

/-! ## Marked names -/

theorem markedName_of_none {p : Path} (h : p.fileName? = none) (mark : String) :
    markedName p mark = Utf8.encode mark.toList := by
  rw [markedName, Path.stem?, Path.extension?, h]
  show Utf8.encode ("" ++ mark).toList = _
  rw [String.empty_append]

/-- The mark is put into the name after the stem, and what stands on both sides is read as text. -/
theorem markedName_of_some {p : Path} {name : Bytes} (h : p.fileName? = some name) (mark : String) :
    ∃ before after : Bytes, name = before ++ after ∧
      markedName p mark = Utf8.encode (Utf8.decodeLossy before) ++
        (Utf8.encode mark.toList ++ Utf8.encode (Utf8.decodeLossy after)) := by
  rw [markedName, Path.stem?, Path.extension?, h, Option.map_some, Option.bind_some]
  cases hcut : Path.stemAndExtension name
  rcases Path.eq_of_stemAndExtension hcut with ⟨rfl, rfl⟩ | ⟨extension, rfl, rfl⟩
  · refine ⟨_, [], (List.append_nil _).symm, ?_⟩
    show Utf8.encode (Path.lossyText _ ++ mark).toList = _
    rw [String.toList_append, Utf8.encode_append, Path.lossyText, String.toList_ofList, Utf8.decodeLossy]
    simp [Utf8.encode]
  · refine ⟨_, Path.dot :: extension, rfl, ?_⟩
    have hdot : Utf8.decodeLossy (Path.dot :: extension) = '.' :: Utf8.decodeLossy extension :=
      Utf8.decodeLossy_encodeChar '.' extension
    show Utf8.encode (Path.lossyText _ ++ mark ++ "." ++ Path.lossyText extension).toList = _
    rw [hdot, Path.lossyText, Path.lossyText]
    simp only [String.toList_append, String.toList_ofList, Utf8.encode_append, List.append_assoc]
    rfl

theorem length_lt_markedName {p : Path} {name : Bytes} (h : p.fileName? = some name) {mark : String}
    (hmark : Utf8.encode mark.toList ≠ []) : name.length < (markedName p mark).length := by
  obtain ⟨before, after, rfl, hmarked⟩ := markedName_of_some h mark
  have hbefore := Utf8.length_le_encode_decodeLossy before
  have hafter := Utf8.length_le_encode_decodeLossy after
  have hpositive := List.length_pos_iff.2 hmark
  rw [hmarked, List.length_append, List.length_append, List.length_append]
  omega

/-- What is put into a name makes no path of it. -/
theorem slash_not_mem_markedName (p : Path) {mark : String}
    (hmark : Path.slash ∉ Utf8.encode mark.toList) : Path.slash ∉ markedName p mark := by
  have hlossy {bs : Bytes} (hbs : Path.slash ∉ bs) : Path.slash ∉ Utf8.encode (Utf8.decodeLossy bs) :=
    fun h => hbs (Utf8.mem_of_mem_encode_decodeLossy (by decide) h)
  cases hname : p.fileName? with
  | none => rwa [markedName_of_none hname]
  | some name =>
    have hslash := (Path.isName_of_fileName? hname).slash_not_mem
    obtain ⟨before, after, rfl, hmarked⟩ := markedName_of_some hname mark
    rw [List.mem_append, not_or] at hslash
    rw [hmarked, List.mem_append, List.mem_append, not_or, not_or]
    exact ⟨hlossy hslash.1, hmark, hlossy hslash.2⟩

/-- A name with a mark of three bytes or more is one that a file can have. -/
theorem isName_markedName (p : Path) {mark : String} (hmark : Path.slash ∉ Utf8.encode mark.toList)
    (hlength : 2 < (Utf8.encode mark.toList).length) : Path.IsName (markedName p mark) := by
  have hlong : 2 < (markedName p mark).length := by
    cases hname : p.fileName? with
    | none => rwa [markedName_of_none hname]
    | some name =>
      obtain ⟨before, after, -, hmarked⟩ := markedName_of_some hname mark
      rw [hmarked, List.length_append, List.length_append]
      omega
  exact Path.isName_of_length hlong (slash_not_mem_markedName p hmark)

/-! ## Resolved paths -/

theorem fileName?_resolveIn (isRooted : Path → Bool) (dir : Option Path) {p : Path} {name : Bytes}
    (h : p.fileName? = some name) : (p.resolveIn isRooted dir).fileName? = some name := by
  cases dir with
  | none => exact h
  | some dir =>
    rw [Path.resolveIn]
    split
    next => exact h
    next => exact Path.fileName?_join dir h

/-- A name that is put behind a path is one component more, in whichever directory both are resolved. -/
theorem components_resolveIn_join {isRooted : Path → Bool} (dir : Option Path) {p : Path} {name : Bytes}
    (hname : Path.IsName name) (hrooted : isRooted (p.join ⟨name⟩) = isRooted p) :
    ((p.join ⟨name⟩).resolveIn isRooted dir).components =
      (p.resolveIn isRooted dir).components ++ [.name name] := by
  have hjoin := Path.components_join_name p hname
  cases dir with
  | none => exact hjoin
  | some dir =>
    rw [Path.resolveIn, Path.resolveIn, hrooted]
    split
    next => exact hjoin
    next =>
      have habsolute := Path.isAbsolute_join_name p hname
      have hstays {q : Path} (hq : q.isAbsolute = true) : dir.join q = q := by rw [Path.join, if_pos hq]
      cases hp : p.isAbsolute with
      | true => rw [hstays (habsolute.trans hp), hstays hp, hjoin]
      | false =>
        by_cases hdir : dir.bytes = []
        · rw [Path.join_of_empty hdir, Path.join_of_empty hdir, hjoin]
        · rw [Path.components_join hdir (habsolute.trans hp), Path.components_join hdir hp,
            Path.entries_join p (Path.isAbsolute_of_isName hname), Path.entries_of_isName hname,
            List.append_assoc]

/-! ## The record of a module -/

/-- Whether a path is rooted shows in front: a name that is put behind a path without one changes nothing. -/
def RootedInFront (isRooted : Path → Bool) : Prop :=
  ∀ p : Path, p.fileName? = none → ∀ name : Bytes, Path.IsName name → isRooted (p.join ⟨name⟩) = isRooted p

theorem rootedInFront_of_same_kind {isRooted : Path → Bool}
    (h : ∀ p q : Path, p.isAbsolute = q.isAbsolute → isRooted p = isRooted q) : RootedInFront isRooted :=
  fun p _ _ hname => h _ _ (Path.isAbsolute_join_name p hname)

/-- The path of the record of a run that only makes a module names another file than the declared one does,
in whichever directory they are resolved. -/
theorem moduleRecord_ne {isRooted : Path → Bool} (hrooted : RootedInFront isRooted) (declared : Path)
    (dir : Option Path) :
    compare ((recordPathFor declared (some .swiftModule)).resolveIn isRooted dir)
      (declared.resolveIn isRooted dir) ≠ .eq := by
  intro hsame
  rw [recordPathFor, if_pos rfl] at hsame
  have hname : Path.IsName (markedName declared "-async") :=
    isName_markedName declared (by decide) (by decide)
  cases hdeclared : declared.fileName? with
  | some name =>
    -- both paths end in a name, wherever they are resolved, and the marked one is longer
    have hmarked := fileName?_resolveIn isRooted dir (Path.fileName?_withFileName declared hname)
    rw [Path.fileName?_congr hsame, fileName?_resolveIn isRooted dir hdeclared] at hmarked
    have hlonger : name.length < (markedName declared "-async").length :=
      length_lt_markedName hdeclared (by decide)
    rw [← Option.some.inj hmarked] at hlonger
    exact Nat.lt_irrefl _ hlonger
  | none =>
    -- the marked name comes after all that the declared path has
    rw [Path.withFileName_of_none hdeclared, Path.compare_eq_iff,
      components_resolveIn_join dir hname (hrooted declared hdeclared _ hname)] at hsame
    have hlength := congrArg List.length hsame
    rw [List.length_append, List.length_singleton] at hlength
    omega

/-- Runs with one output file map and one working directory that keep their records in one place either all
make only a module, or none does. -/
theorem makesModule_of_recordPath {isRooted : Path → Bool}
    (hrooted : ∀ p q : Path, p.isAbsolute = q.isAbsolute → isRooted p = isRooted q)
    {setup setup' : Setup} {given given' : Occurrences} {run next : Run}
    (hstart : start isRooted setup given = .ok run) (hstart' : start isRooted setup' given' = .ok next)
    (hmap : setup'.outputFileMap = setup.outputFileMap)
    (hdir : next.workingDirectory = run.workingDirectory)
    (hpath : compare next.recordPath run.recordPath = .eq) :
    setup.compiled = some .swiftModule ↔ setup'.compiled = some .swiftModule := by
  obtain ⟨declared, hdeclared⟩ := exists_entry_of_start hstart
  rw [recordPath_of_start hstart hdeclared, recordPath_of_start hstart' (hmap ▸ hdeclared), hdir] at hpath
  -- a record that is kept for more than a module lies where the map says
  have hapart {compiled : Option FileType} (hother : compiled ≠ some .swiftModule) :
      compare ((recordPathFor declared (some .swiftModule)).resolveIn isRooted run.workingDirectory)
        ((recordPathFor declared compiled).resolveIn isRooted run.workingDirectory) ≠ .eq := by
    have hplain : recordPathFor declared compiled = declared := if_neg hother
    rw [hplain]
    exact moduleRecord_ne (rootedInFront_of_same_kind hrooted) declared run.workingDirectory
  constructor
  · intro hmodule
    rw [hmodule] at hpath
    exact Decidable.byContradiction fun hother => hapart hother (Std.OrientedCmp.eq_symm hpath)
  · intro hmodule
    rw [hmodule] at hpath
    exact Decidable.byContradiction fun hother => hapart hother hpath

end CompilerDriver.Incremental.Run
