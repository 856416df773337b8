import CompilerDriver.Proofs.Incremental.Places

/-!
# Where dependency graphs are kept

The graph of a run lies next to its record, under a name that is made of the stem of the record's name
(`dependencyGraphPath_eq`). A run that only makes a module marks the name of its record behind the stem, which keeps
its record and its graph apart from those of every other run (`moduleFiles_apart`). Nothing keeps the graph of a run
apart from its own record but the extension that the output file map declares
(`compare_dependencyGraphPath_eq_iff`).
-/

namespace CompilerDriver.Incremental.Run

/-! ## Stems and extensions as text -/

/-- The stem of the name that a path ends in, as text. -/
def stemText (p : Path) : Bytes := Utf8.encode ((p.stem?.map Path.lossyText).getD "").toList

/-- The extension of the name that a path ends in, as text, with its dot. -/
def extensionText (p : Path) : Bytes :=
  match p.extension? with
  | some extension => Path.dot :: Utf8.encode (Utf8.decodeLossy extension)
  | none => []

theorem stemText_congr {p q : Path} (h : p.fileName? = q.fileName?) : stemText p = stemText q := by
  rw [stemText, stemText, Path.stem?, Path.stem?, h]

theorem stemText_of_none {p : Path} (h : p.fileName? = none) : stemText p = [] := by
  rw [stemText, Path.stem?, h]
  rfl

theorem stemText_of_some {p : Path} {name : Bytes} (h : p.fileName? = some name) :
    stemText p = Utf8.encode (Utf8.decodeLossy (Path.stemAndExtension name).1) := by
  rw [stemText, Path.stem?, h]
  show Utf8.encode (Path.lossyText _).toList = _
  rw [Path.lossyText, String.toList_ofList]

theorem extension?_of_some {p : Path} {name : Bytes} (h : p.fileName? = some name) :
    p.extension? = (Path.stemAndExtension name).2 := by
  rw [Path.extension?, h]
  rfl

theorem dot_not_mem_lossy {bs : Bytes} (h : Path.dot ∉ bs) :
    Path.dot ∉ Utf8.encode (Utf8.decodeLossy bs) :=
  fun hmem => h (Utf8.mem_of_mem_encode_decodeLossy (by decide) hmem)

theorem dot_not_mem_extension {p : Path} {extension : Bytes} (h : p.extension? = some extension) :
    Path.dot ∉ extension := by
  obtain ⟨name, -, hcut⟩ := Option.bind_eq_some_iff.1 h
  rcases Path.stemAndExtension_cases name with ⟨hall, -⟩ | ⟨stem, last, hlast, -, hfree, -⟩
  · rw [hall] at hcut
    cases hcut
  · rw [hlast, Option.some.injEq] at hcut
    rwa [← hcut]

/-- Without an extension there is no dot but in front. -/
theorem dot_not_mem_tail_stemText {p : Path} (h : p.extension? = none) :
    Path.dot ∉ (stemText p).tail := by
  cases hname : p.fileName? with
  | none =>
    rw [stemText_of_none hname]
    exact List.not_mem_nil
  | some name =>
    rw [extension?_of_some hname] at h
    rw [stemText_of_some hname]
    rcases Path.stemAndExtension_cases name with ⟨hall, htail⟩ | ⟨stem, extension, hcut, -⟩
    · rw [hall]
      cases name with
      | nil =>
        rw [Utf8.decodeLossy]
        exact List.not_mem_nil
      | cons b rest =>
        by_cases hb : b = Path.dot
        · have hdot : Utf8.decodeLossy (Path.dot :: rest) = '.' :: Utf8.decodeLossy rest :=
            Utf8.decodeLossy_encodeChar '.' rest
          rw [hb, hdot]
          exact dot_not_mem_lossy htail
        · have hnone : Path.dot ∉ b :: rest :=
            fun hmem => (List.mem_cons.1 hmem).elim (fun hdot => hb hdot.symm) htail
          exact fun hmem => dot_not_mem_lossy hnone (List.mem_of_mem_tail hmem)
    · rw [hcut] at h
      cases h

/-! ## Marked names taken apart -/

section Marked

variable {mark : String}

/-- The mark stands between stem and extension. -/
theorem markedName_eq (p : Path) (mark : String) :
    markedName p mark = stemText p ++ Utf8.encode mark.toList ++ extensionText p := by
  rw [markedName, extensionText, stemText]
  cases p.extension? with
  | none =>
    show Utf8.encode (((p.stem?.map Path.lossyText).getD "") ++ mark).toList = _
    rw [String.toList_append, Utf8.encode_append, List.append_nil]
  | some extension =>
    show Utf8.encode (((p.stem?.map Path.lossyText).getD "") ++ mark ++ "." ++
      Path.lossyText extension).toList = _
    rw [Path.lossyText]
    simp only [String.toList_append, String.toList_ofList, Utf8.encode_append, List.append_assoc]
    rfl

/-- A mark without a dot goes with the stem. -/
theorem stemAndExtension_markedName (p : Path) (hne : Utf8.encode mark.toList ≠ [])
    (hdot : Path.dot ∉ Utf8.encode mark.toList) :
    Path.stemAndExtension (markedName p mark) = (stemText p ++ Utf8.encode mark.toList,
      p.extension?.map fun extension => Utf8.encode (Utf8.decodeLossy extension)) := by
  rw [markedName_eq, extensionText]
  cases hextension : p.extension? with
  | some extension =>
    exact Path.stemAndExtension_append (List.append_ne_nil_of_right_ne_nil _ hne)
      (dot_not_mem_lossy (dot_not_mem_extension hextension))
  | none =>
    rw [List.append_nil]
    apply Path.stemAndExtension_of_not_mem_tail
    have htail := dot_not_mem_tail_stemText hextension
    cases hstem : stemText p with
    | nil => exact fun hmem => hdot (List.mem_of_mem_tail hmem)
    | cons b rest =>
      rw [hstem] at htail
      exact fun hmem => (List.mem_append.1 hmem).elim htail hdot

theorem stemText_of_markedName {p q : Path} (h : q.fileName? = some (markedName p mark))
    (hne : Utf8.encode mark.toList ≠ []) (hdot : Path.dot ∉ Utf8.encode mark.toList) :
    stemText q = stemText p ++ Utf8.encode mark.toList := by
  rw [stemText_of_some h, stemAndExtension_markedName p hne hdot, stemText, ← Utf8.encode_append,
    Utf8.decodeLossy_encode]

end Marked

/-! ## Names of graphs -/

/-- The extension that the names of graphs have. -/
def graphExtension : Bytes := Utf8.encode "priors".toList

/-- The name of the graph that is kept next to a record. -/
def graphName (record : Path) : Bytes := stemText record ++ Path.dot :: graphExtension

/-- The graph that is kept next to a record. -/
def graphOf (record : Path) : Path := record.withFileName (graphName record)

theorem dependencyGraphPath_eq (run : Run) : run.dependencyGraphPath = graphOf run.recordPath := by
  have hname : graphName run.recordPath =
      Utf8.encode (((run.recordPath.stem?.map Path.lossyText).getD "") ++ ".priors").toList := by
    rw [String.toList_append, Utf8.encode_append]
    rfl
  rw [graphOf, hname]
  rfl

theorem slash_not_mem_stemText (p : Path) : Path.slash ∉ stemText p := by
  intro hmem
  have hmarked : Path.slash ∈ markedName p "" := by
    rw [markedName_eq]
    exact List.mem_append_left _ (List.mem_append_left _ hmem)
  exact slash_not_mem_markedName p (by decide) hmarked

theorem isName_graphName (record : Path) : Path.IsName (graphName record) := by
  have hlong : 2 < (graphName record).length := by
    have hextension : graphExtension.length = 6 := by decide
    rw [graphName, List.length_append, List.length_cons, hextension]
    omega
  refine Path.isName_of_length hlong fun hmem => ?_
  rcases List.mem_append.1 hmem with hmem | hmem
  · exact slash_not_mem_stemText record hmem
  · exact absurd hmem (by decide)

theorem fileName?_graphOf (record : Path) : (graphOf record).fileName? = some (graphName record) :=
  Path.fileName?_withFileName record (isName_graphName record)

theorem stemAndExtension_graph {stem : Bytes} (h : stem ≠ []) :
    Path.stemAndExtension (stem ++ Path.dot :: graphExtension) = (stem, some graphExtension) :=
  Path.stemAndExtension_append h (by decide)

/-- Text that is read from a stem is no shorter than the stem. -/
theorem length_stem_le_stemText {p : Path} {name : Bytes} (h : p.fileName? = some name) :
    (Path.stemAndExtension name).1.length ≤ (stemText p).length := by
  rw [stemText_of_some h]
  exact Utf8.length_le_encode_decodeLossy _

/-! ## A graph in the place of its record -/

/-- A file has the name that its graph is given exactly if it has the extension of graphs and a stem that is
text. -/
theorem fileName?_eq_graphName_iff {p : Path} : p.fileName? = some (graphName p) ↔
    p.extension? = some graphExtension ∧ ∃ stem : String, p.stem? = some (Path.ofString stem).bytes := by
  constructor
  · intro h
    have hstem : stemText p ≠ [] := by
      intro hnil
      -- a name that begins with its only dot is all stem
      have hall : Path.stemAndExtension (graphName p) = (graphName p, none) := by
        rw [graphName, hnil]
        exact Path.stemAndExtension_of_not_mem_tail (by decide)
      have hlength := length_stem_le_stemText h
      rw [hall, graphName, hnil] at hlength
      exact absurd hlength (by decide)
    have hcut : Path.stemAndExtension (graphName p) = (stemText p, some graphExtension) :=
      stemAndExtension_graph hstem
    have hextension : p.extension? = some graphExtension := by rw [extension?_of_some h, hcut]
    have htext : p.stem? = some (stemText p) := by rw [Path.stem?, h, Option.map_some, hcut]
    exact ⟨hextension, _, htext⟩
  · rintro ⟨hextension, stem, hstem⟩
    obtain ⟨name, hname, hcut⟩ := Option.bind_eq_some_iff.1 hextension
    rw [Path.stem?, hname, Option.map_some, Option.some.injEq] at hstem
    have htext : stemText p = (Path.ofString stem).bytes := by
      rw [stemText_of_some hname, hstem]
      exact congrArg Utf8.encode (Utf8.decodeLossy_encode stem.toList)
    rw [hname, graphName, htext]
    rcases Path.stemAndExtension_cases name with ⟨hall, -⟩ | ⟨first, last, hparts, -, -, rfl⟩
    · rw [hall] at hcut
      cases hcut
    · rw [hparts] at hstem hcut
      rw [← hstem, Option.some.inj hcut]

/-- The graph takes the place of its record exactly if the record has the extension of graphs and a stem that is
text. -/
theorem compare_graphOf_eq_iff {record : Path} : compare (graphOf record) record = .eq ↔
    record.extension? = some graphExtension ∧
      ∃ stem : String, record.stem? = some (Path.ofString stem).bytes :=
  (Path.compare_withFileName_eq_iff (isName_graphName record)).trans fileName?_eq_graphName_iff

/-! ## Files of modules -/

/-- Where a run that only makes a module keeps its record. -/
def moduleRecord (isRooted : Path → Bool) (dir : Option Path) (declared : Path) : Path :=
  (recordPathFor declared (some .swiftModule)).resolveIn isRooted dir

/-- What is put behind the stem of that record. -/
def moduleMark : Bytes := Utf8.encode "-async".toList

section Module

variable {isRooted : Path → Bool} {declared : Path} {dir : Option Path}

theorem fileName?_moduleRecord :
    (moduleRecord isRooted dir declared).fileName? = some (markedName declared "-async") := by
  have hname : Path.IsName (markedName declared "-async") :=
    isName_markedName declared (by decide) (by decide)
  rw [moduleRecord, recordPathFor, if_pos rfl]
  exact fileName?_resolveIn isRooted dir (Path.fileName?_withFileName declared hname)

theorem stemAndExtension_moduleRecord :
    Path.stemAndExtension (markedName declared "-async") = (stemText declared ++ moduleMark,
      declared.extension?.map fun extension => Utf8.encode (Utf8.decodeLossy extension)) :=
  stemAndExtension_markedName declared (by decide) (by decide)

theorem graphName_moduleRecord : graphName (moduleRecord isRooted dir declared) =
    stemText declared ++ moduleMark ++ Path.dot :: graphExtension := by
  rw [graphName, stemText_of_markedName fileName?_moduleRecord (by decide) (by decide)]
  rfl

theorem marked_ne_graphName (stem rest : Bytes) :
    stem ++ moduleMark ++ rest ≠ stem ++ Path.dot :: graphExtension := by
  intro hsame
  have hmark : moduleMark = [45, 97, 115, 121, 110, 99] := by decide
  rw [List.append_assoc, hmark] at hsame
  have hfirst := (List.cons.inj (List.append_cancel_left hsame)).1
  exact absurd hfirst (by decide)

/-- The graph of a run with the declared record is no other file with a marked name, be it next to the record or,
where the declared path has no name of its own, in the place that it stands for. -/
theorem graph_ne_marked {p : Path} {rest : Bytes}
    (hname : p.fileName? = some (stemText declared ++ moduleMark ++ rest))
    (hbehind : declared.fileName? = none → p.components =
      (declared.resolveIn isRooted dir).components ++ [.name (stemText declared ++ moduleMark ++ rest)]) :
    compare (graphOf (declared.resolveIn isRooted dir)) p ≠ .eq := by
  intro hsame
  have hgraph : stemText declared ++ moduleMark ++ rest = graphName (declared.resolveIn isRooted dir) := by
    rw [← Path.fileName?_congr hsame, fileName?_graphOf] at hname
    exact (Option.some.inj hname).symm
  have hapart (hnames : (declared.resolveIn isRooted dir).fileName? = declared.fileName?) : False := by
    rw [graphName, stemText_congr hnames] at hgraph
    exact marked_ne_graphName _ _ hgraph
  cases hdeclared : declared.fileName? with
  | some old => exact hapart ((fileName?_resolveIn isRooted dir hdeclared).trans hdeclared.symm)
  | none =>
    cases hresolved : (declared.resolveIn isRooted dir).fileName? with
    | none => exact hapart (hresolved.trans hdeclared.symm)
    | some old =>
      -- the graph lies next to the working directory, and the other file in it
      obtain ⟨before, hrecord, hcomponents⟩ :=
        Path.components_withFileName hresolved (isName_graphName (declared.resolveIn isRooted dir))
      rw [Path.compare_eq_iff, hbehind hdeclared, graphOf, hcomponents, hrecord] at hsame
      have hlength := congrArg List.length hsame
      simp only [List.length_append, List.length_singleton] at hlength
      omega

/-- Where the declared path has no name, both files of a module come behind all that it has. -/
theorem components_behind (hrooted : RootedInFront isRooted) (hdeclared : declared.fileName? = none) :
    (moduleRecord isRooted dir declared).components =
      (declared.resolveIn isRooted dir).components ++ [.name (markedName declared "-async")] ∧
    (graphOf (moduleRecord isRooted dir declared)).components =
      (declared.resolveIn isRooted dir).components ++
        [.name (graphName (moduleRecord isRooted dir declared))] := by
  have hname : Path.IsName (markedName declared "-async") :=
    isName_markedName declared (by decide) (by decide)
  have hrecord : (moduleRecord isRooted dir declared).components =
      (declared.resolveIn isRooted dir).components ++ [.name (markedName declared "-async")] := by
    rw [moduleRecord, recordPathFor, if_pos rfl, Path.withFileName_of_none hdeclared]
    exact components_resolveIn_join dir hname (hrooted declared hdeclared _ hname)
  have hmarked : (moduleRecord isRooted dir declared).fileName? = some (markedName declared "-async") :=
    fileName?_moduleRecord
  obtain ⟨before, hbefore, hgraph⟩ := Path.components_withFileName hmarked (isName_graphName _)
  obtain ⟨rfl, -⟩ := List.append_inj' (hbefore.symm.trans hrecord) rfl
  exact ⟨hrecord, hgraph⟩

theorem graph_ne_moduleRecord (hrooted : RootedInFront isRooted) :
    compare (graphOf (declared.resolveIn isRooted dir)) (moduleRecord isRooted dir declared) ≠ .eq := by
  have hmarked : markedName declared "-async" =
      stemText declared ++ moduleMark ++ extensionText declared := markedName_eq declared "-async"
  apply graph_ne_marked
  · rw [fileName?_moduleRecord, hmarked]
  · intro hdeclared
    rw [(components_behind hrooted hdeclared).1, hmarked]

theorem graph_ne_moduleGraph (hrooted : RootedInFront isRooted) :
    compare (graphOf (declared.resolveIn isRooted dir)) (graphOf (moduleRecord isRooted dir declared)) ≠
      .eq := by
  apply graph_ne_marked
  · rw [fileName?_graphOf, graphName_moduleRecord]
  · intro hdeclared
    rw [(components_behind hrooted hdeclared).2, graphName_moduleRecord]

theorem record_ne_moduleGraph (hrooted : RootedInFront isRooted) :
    compare (declared.resolveIn isRooted dir) (graphOf (moduleRecord isRooted dir declared)) ≠ .eq := by
  intro hsame
  cases hdeclared : declared.fileName? with
  | some name =>
    -- the graph has a longer stem than the declared name
    have hgraph := Path.fileName?_congr hsame
    rw [fileName?_resolveIn isRooted dir hdeclared, fileName?_graphOf, graphName_moduleRecord] at hgraph
    have hlength := length_stem_le_stemText hdeclared
    have hstem : stemText declared ++ moduleMark ≠ [] := List.append_ne_nil_of_right_ne_nil _ (by decide)
    have hmark : moduleMark.length = 6 := by decide
    rw [Option.some.inj hgraph, stemAndExtension_graph hstem, List.length_append, hmark] at hlength
    omega
  | none =>
    rw [Path.compare_eq_iff, (components_behind hrooted hdeclared).2] at hsame
    have hlength := congrArg List.length hsame
    rw [List.length_append, List.length_singleton] at hlength
    omega

/-- The extension of a module's record is that of the declared path, and its stem is always text. -/
theorem compare_moduleGraph_eq_iff :
    compare (graphOf (moduleRecord isRooted dir declared)) (moduleRecord isRooted dir declared) = .eq ↔
      declared.extension? = some graphExtension := by
  have hmark : '\uFFFD' ∉ "priors".toList := by decide
  have htext : ∃ stem : String,
      (moduleRecord isRooted dir declared).stem? = some (Path.ofString stem).bytes := by
    refine ⟨(declared.stem?.map Path.lossyText).getD "" ++ "-async", ?_⟩
    rw [Path.stem?, fileName?_moduleRecord, Option.map_some, stemAndExtension_moduleRecord, Path.ofString,
      String.toList_append, Utf8.encode_append]
    rfl
  rw [compare_graphOf_eq_iff, extension?_of_some fileName?_moduleRecord, stemAndExtension_moduleRecord,
    and_iff_left htext]
  cases declared.extension? with
  | none => simp
  | some extension =>
    rw [Option.map_some, Option.some.injEq, Option.some.injEq]
    exact Utf8.encode_decodeLossy_eq_iff hmark

end Module

/-! ## Files of runs -/

/-- The build of one file, with an output file map that says where its record is kept and what the file is compiled
to. -/
def recordAt (declared : Path) (compiled : FileType) : Setup :=
  { oneFile with
    outputFileMap := some (OutputFileMap.declare .empty .empty .swiftDependencies declared)
    compiled := some compiled }

theorem entry_recordAt (declared : Path) (compiled : FileType) :
    ((recordAt declared compiled).outputFileMap.bind fun map => map.moduleOutput? .swiftDependencies) =
      some declared := by
  rw [recordAt, Option.bind_some, OutputFileMap.moduleOutput?, OutputFileMap.output?_declare,
    if_pos ⟨Std.ReflCmp.compare_self, Std.ReflCmp.compare_self⟩]

theorem start_recordAt (declared : Path) (compiled : FileType) : ∃ run,
    start Path.isAbsolute (recordAt declared compiled) libraryOptions = .ok run ∧
    run.workingDirectory = some (.ofString "/work") ∧
    run.recordPath = (recordPathFor declared (some compiled)).resolveIn Path.isAbsolute
      (some (.ofString "/work")) := by
  have hentry := entry_recordAt declared compiled
  have hasked : libraryOptions.contains .incremental = true := rfl
  obtain ⟨run, hrun⟩ := exists_start Path.isAbsolute hasked hentry
  have hdir : run.workingDirectory = some (.ofString "/work") := by
    obtain ⟨-, -, -, -, -, hdir, -⟩ := spec_of_start hrun
    exact hdir
  refine ⟨run, hrun, hdir, ?_⟩
  rw [recordPath_of_start hrun hentry, hdir]
  rfl

/-- A run that only makes a module shares neither its record nor its graph with any other run of the same entry of
the output file map and the same working directory: the files of the one are no files of the other. -/
theorem moduleFiles_apart {isRooted : Path → Bool} (hrooted : RootedInFront isRooted)
    {setup setup' : Setup} {given given' : Occurrences} {run moduleRun : Run}
    (hstart : start isRooted setup given = .ok run)
    (hstart' : start isRooted setup' given' = .ok moduleRun)
    (hother : setup.compiled ≠ some .swiftModule) (hmodule : setup'.compiled = some .swiftModule)
    (hentry : (setup'.outputFileMap.bind fun map => map.moduleOutput? .swiftDependencies) =
      setup.outputFileMap.bind fun map => map.moduleOutput? .swiftDependencies)
    (hdir : moduleRun.workingDirectory = run.workingDirectory) :
    ∀ p ∈ [run.recordPath, run.dependencyGraphPath],
      ∀ q ∈ [moduleRun.recordPath, moduleRun.dependencyGraphPath], compare p q ≠ .eq := by
  obtain ⟨declared, hdeclared⟩ := exists_entry_of_start hstart
  have hrecord : run.recordPath = declared.resolveIn isRooted run.workingDirectory := by
    rw [recordPath_of_start hstart hdeclared, recordPathFor, if_neg hother]
  have hrecord' : moduleRun.recordPath = moduleRecord isRooted run.workingDirectory declared := by
    rw [recordPath_of_start hstart' (hentry.trans hdeclared), hmodule, hdir]
    rfl
  simp only [List.mem_cons, List.not_mem_nil, or_false, forall_eq_or_imp, forall_eq, dependencyGraphPath_eq,
    hrecord, hrecord']
  refine ⟨⟨?records, ?recordAndGraph⟩, ?graphAndRecord, ?graphs⟩
  case records => exact fun hsame => moduleRecord_ne hrooted declared _ (Std.OrientedCmp.eq_symm hsame)
  case recordAndGraph => exact record_ne_moduleGraph hrooted
  case graphAndRecord => exact graph_ne_moduleRecord hrooted
  case graphs => exact graph_ne_moduleGraph hrooted

/-- Where the map declares the empty path, the record stands for the working directory, the graph lies next to that, and
the files of a module lie in it. -/
theorem moduleFiles_apart_unnamed : ∃ run moduleRun,
    start Path.isAbsolute (recordAt .empty .object) libraryOptions = .ok run ∧
    start Path.isAbsolute (recordAt .empty .swiftModule) libraryOptions = .ok moduleRun ∧
    [run.recordPath, run.dependencyGraphPath].map Path.display = ["/work/", "/work.priors"] ∧
    [moduleRun.recordPath, moduleRun.dependencyGraphPath].map Path.display =
      ["/work/-async", "/work/-async.priors"] ∧
    ∀ p ∈ [run.recordPath, run.dependencyGraphPath],
      ∀ q ∈ [moduleRun.recordPath, moduleRun.dependencyGraphPath], compare p q ≠ .eq := by
  obtain ⟨run, hrun, hdir, hrecord⟩ := start_recordAt .empty .object
  obtain ⟨moduleRun, hmodule, hdir', hrecord'⟩ := start_recordAt .empty .swiftModule
  have hrooted : RootedInFront Path.isAbsolute := rootedInFront_of_same_kind fun _ _ h => h
  refine ⟨run, moduleRun, hrun, hmodule, ?_, ?_, ?_⟩
  · rw [dependencyGraphPath_eq, hrecord]
    decide +kernel
  · rw [dependencyGraphPath_eq, hrecord']
    decide +kernel
  · exact moduleFiles_apart hrooted hrun hmodule (by decide) rfl
      ((entry_recordAt _ _).trans (entry_recordAt _ _).symm) (hdir'.trans hdir.symm)

/-- The graph of a run takes the place of its record exactly if the record has the extension of graphs, and a stem
that is text. The record of a run that only makes a module has such a stem, and the extension that the map
declares. Where the map declares a name, the record has its extension in any case. -/
theorem compare_dependencyGraphPath_eq_iff {isRooted : Path → Bool} {setup : Setup} {given : Occurrences}
    {run : Run} (hstart : start isRooted setup given = .ok run) {declared : Path}
    (hdeclared : (setup.outputFileMap.bind fun map => map.moduleOutput? .swiftDependencies) = some declared) :
    (compare run.dependencyGraphPath run.recordPath = .eq ↔
      if setup.compiled = some .swiftModule then declared.extension? = some graphExtension
      else (declared.resolveIn isRooted run.workingDirectory).extension? = some graphExtension ∧
        ∃ stem : String, (declared.resolveIn isRooted run.workingDirectory).stem? =
          some (Path.ofString stem).bytes) ∧
    (declared.fileName? ≠ none → declared.extension? ≠ some graphExtension →
      compare run.dependencyGraphPath run.recordPath ≠ .eq) := by
  rw [dependencyGraphPath_eq, recordPath_of_start hstart hdeclared]
  by_cases hmodule : setup.compiled = some .swiftModule
  · rw [if_pos hmodule, hmodule]
    exact ⟨compare_moduleGraph_eq_iff, fun _ hextension hsame => hextension (compare_moduleGraph_eq_iff.1 hsame)⟩
  · rw [if_neg hmodule, recordPathFor, if_neg hmodule]
    refine ⟨compare_graphOf_eq_iff, fun hnamed hextension hsame => hextension ?_⟩
    obtain ⟨name, hname⟩ := Option.ne_none_iff_exists'.1 hnamed
    rw [extension?_of_some hname, ← extension?_of_some (fileName?_resolveIn isRooted run.workingDirectory hname)]
    exact (compare_graphOf_eq_iff.1 hsame).1

theorem compare_dependencyGraphPath_swiftdeps : ∃ run,
    start Path.isAbsolute (recordAt (.ofString "App.swiftdeps") .object) libraryOptions = .ok run ∧
    run.recordPath.display = "/work/App.swiftdeps" ∧ run.dependencyGraphPath.display = "/work/App.priors" ∧
    compare run.dependencyGraphPath run.recordPath ≠ .eq := by
  obtain ⟨run, hrun, -, hrecord⟩ := start_recordAt (.ofString "App.swiftdeps") .object
  refine ⟨run, hrun, ?_, ?_, ?_⟩
  · rw [hrecord]
    decide +kernel
  · rw [dependencyGraphPath_eq, hrecord]
    decide +kernel
  · exact (compare_dependencyGraphPath_eq_iff hrun (entry_recordAt _ _)).2 (by decide +kernel)
      (by decide +kernel)

/-- Where the map declares a name with the extension of graphs, the graph is written over the record. -/
theorem dependencyGraphPath_overwrites : ∃ run,
    start Path.isAbsolute (recordAt (.ofString "App.priors") .object) libraryOptions = .ok run ∧
    run.recordPath.display = "/work/App.priors" ∧ run.dependencyGraphPath.display = "/work/App.priors" ∧
    compare run.dependencyGraphPath run.recordPath = .eq := by
  obtain ⟨run, hrun, -, hrecord⟩ := start_recordAt (.ofString "App.priors") .object
  refine ⟨run, hrun, ?_⟩
  rw [dependencyGraphPath_eq, hrecord]
  decide +kernel

end CompilerDriver.Incremental.Run
