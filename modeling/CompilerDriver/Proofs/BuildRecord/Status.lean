import CompilerDriver.BuildRecord.Status
import CompilerDriver.Proofs.BuildRecord.Validity
import CompilerDriver.Proofs.BuildRecord.Writable
import Mathlib.Data.List.Forall2

/-!
# Where inputs get their status from

The status of an input follows from one job and from the skipped inputs: the job is the last one in the list
that makes code from the input and has ended (`CompiledWith`). A job makes code from its primary inputs, and if
it has none, from all inputs that can be compiled; only compile jobs make code at all. So neither jobs of
other kinds nor results that belong to no job change any status (`inputInfos_spec`).

The builder of the statuses goes through the jobs from front to back and overwrites what it has found before. Looked
up at one input, what it has found in the end is what the first job from the back has to say
(`get?_resultsByInput`).
-/

namespace CompilerDriver

/-- The job makes code from the input. -/
def Job.Compiles (job : Job) (input : TypedPath) : Prop :=
  job.kind = .compile ∧
    ((∃ file ∈ job.primaryInputs, input.SameFile file) ∨
      (job.primaryInputs = [] ∧ ∃ file ∈ job.inputs, file.type.isCompiled = true ∧ input.SameFile file))

namespace BuildRecord

/-- The job has ended with the result. -/
def EndedWith (record : BuildRecord) (job : Job) (result : JobResult) : Prop :=
  (job.id, result) ∈ record.results.entries

/-- The result is that of the last job that makes code from the input and has ended. -/
def CompiledWith (record : BuildRecord) (input : TypedPath) (result : JobResult) : Prop :=
  ∃ before job after, record.jobs = before ++ job :: after ∧
    job.Compiles input ∧ record.EndedWith job result ∧
    ∀ later ∈ after, later.Compiles input → ∀ other, ¬record.EndedWith later other

/-- Nothing is to be done for the input: it was compiled, or it was skipped. -/
def IsUpToDate (record : BuildRecord) (input : TypedPath) : Prop :=
  (∃ result, record.CompiledWith input result ∧ result.exit = .terminated 0) ∨
    ∃ file ∈ record.skippedFiles, input.SameFile file

/-- The last job that makes code from the input and has ended left a dependency graph. -/
def LeftDependencyGraph (record : BuildRecord) (input : TypedPath) : Prop :=
  ∃ result, record.CompiledWith input result ∧ result.leftDependencyGraph = true

end BuildRecord

/-! ## Maps -/

namespace OrderedMap

universe u v

variable {κ : Type u} {ν : Type v} [Ord κ]

/-- If each step of a fold overwrites what was found before with what it has to say, the last one that has something
to say is believed. -/
theorem get?_foldl {α : Type} {verdict : α → Option ν} {step : OrderedMap κ ν → α → OrderedMap κ ν}
    {q : κ}
    (hstep : ∀ m a, (step m a).get? q = (verdict a).or (m.get? q)) (l : List α) (m : OrderedMap κ ν) :
    (l.foldl step m).get? q = (l.reverse.findSome? verdict).or (m.get? q) := by
  induction l generalizing m with
  | nil => rfl
  | cons a l ih =>
    rw [List.foldl_cons, ih, hstep, List.reverse_cons, List.findSome?_append, List.findSome?_singleton,
      Option.or_assoc]

variable [Std.TransOrd κ]

/-- A value that is inserted under some keys is found under these. -/
theorem get?_foldl_insert (keys : List κ) (v : ν) (m : OrderedMap κ ν) (q : κ) :
    (keys.foldl (fun m k => m.insert k v) m).get? q =
      if (keys.any fun k => compare q k == .eq) = true then some v else m.get? q := by
  induction keys generalizing m with
  | nil => rfl
  | cons k keys ih =>
    rw [List.foldl_cons, ih, get?_insert, List.any_cons]
    by_cases hq : compare q k = .eq
    · simp [hq]
    · simp [hq]

/-- Where equal keys are written alike, what is found under a key is an entry of the map. -/
theorem get?_eq_some_iff [Std.LawfulEqOrd κ] {m : OrderedMap κ ν} {k : κ} {v : ν} :
    m.get? k = some v ↔ (k, v) ∈ m.entries := by
  rw [get?, Option.map_eq_some_iff]
  constructor
  · rintro ⟨e, he, rfl⟩
    have heq := List.find?_some he
    obtain rfl : k = e.1 := Std.LawfulEqCmp.eq_of_compare (beq_iff_eq.1 heq)
    exact List.mem_of_find?_eq_some he
  · intro hmem
    obtain ⟨before, after, hentries⟩ := List.append_of_mem hmem
    -- the keys are in order, so a search goes past all that stands before the entry
    have hsorted := m.sorted
    rw [hentries] at hsorted
    have hbefore : ∀ e ∈ before, (compare k e.1 == .eq) = false := by
      intro e he
      rw [Std.OrientedCmp.gt_of_lt ((List.pairwise_append.1 hsorted).2.2 e he (k, v) List.mem_cons_self)]
      rfl
    refine ⟨(k, v), ?_, rfl⟩
    rw [hentries, List.find?_append, List.find?_eq_none.2 fun e he => by simp [hbefore e he],
      Option.none_or, List.find?_cons_of_pos]
    exact beq_iff_eq.2 Std.ReflCmp.compare_self

end OrderedMap

namespace BuildRecord

variable {record : BuildRecord} {input : TypedPath} {job : Job} {result : JobResult}

/-! ## One job -/

theorem mem_compiledInputs : (∃ file ∈ job.compiledInputs, input.SameFile file) ↔ job.Compiles input := by
  rw [Job.compiledInputs, Job.Compiles]
  split
  next hkind =>
    cases hprimary : job.primaryInputs with
    | nil => simp [hkind, and_assoc]
    | cons file files => simp [hkind]
  next hkind => simp [hkind]

/-- What a job says of an input: how it ended, if it makes code from the input and has ended. -/
def resultFrom? (record : BuildRecord) (input : TypedPath) (job : Job) : Option JobResult :=
  if (job.compiledInputs.any fun file => compare input file == .eq) = true then record.results.get? job.id
  else none

theorem compiles_iff :
    (job.compiledInputs.any fun file => compare input file == .eq) = true ↔ job.Compiles input := by
  simp only [List.any_eq_true, beq_iff_eq, ← TypedPath.sameFile_iff, mem_compiledInputs]

theorem resultFrom?_eq_some :
    record.resultFrom? input job = some result ↔ job.Compiles input ∧ record.EndedWith job result := by
  rw [resultFrom?, EndedWith, ← compiles_iff, ← OrderedMap.get?_eq_some_iff]
  split
  next h => simp [h]
  next h => simp [h]

theorem resultFrom?_eq_none : record.resultFrom? input job = none ↔
    (job.Compiles input → ∀ other, ¬record.EndedWith job other) := by
  rw [Option.eq_none_iff_forall_ne_some]
  simp only [ne_eq, resultFrom?_eq_some, not_and, forall_comm (α := JobResult)]

/-! ## All jobs -/

/-- The last job that has something to say of an input is believed. -/
theorem get?_resultsByInput (record : BuildRecord) (input : TypedPath) :
    record.resultsByInput.get? input = record.jobs.reverse.findSome? (record.resultFrom? input) := by
  rw [resultsByInput, OrderedMap.get?_foldl, OrderedMap.get?_empty, Option.or_none]
  intro found job
  rw [resultFrom?]
  cases record.results.get? job.id with
  | none => simp
  | some result =>
    simp only [OrderedMap.get?_foldl_insert]
    split <;> rfl

theorem get?_resultsByInput_eq_some :
    record.resultsByInput.get? input = some result ↔ record.CompiledWith input result := by
  rw [get?_resultsByInput, List.findSome?_eq_some_iff, CompiledWith]
  simp only [resultFrom?_eq_some, resultFrom?_eq_none]
  -- the search starts from the back, so what comes before the job is what comes after it in the list
  constructor
  · rintro ⟨after, job, before, hjobs, ⟨hcompiles, hended⟩, hlater⟩
    refine ⟨before.reverse, job, after.reverse, ?_, hcompiles, hended, ?_⟩
    · rw [← List.reverse_reverse record.jobs, hjobs]
      simp
    · intro later hin
      exact hlater later (List.mem_reverse.1 hin)
  · rintro ⟨before, job, after, hjobs, hcompiles, hended, hlater⟩
    refine ⟨after.reverse, job, before.reverse, ?_, ⟨hcompiles, hended⟩, ?_⟩
    · rw [hjobs]
      simp
    · intro later hin
      exact hlater later (List.mem_reverse.1 hin)

theorem wasSkipped_iff : record.wasSkipped input = true ↔ ∃ file ∈ record.skippedFiles, input.SameFile file := by
  rw [wasSkipped, skippedFiles]
  cases record.skippedInputs with
  | none => simp
  | some skipped => simp [OrderedMap.contains_iff, TypedPath.sameFile_iff, OrderedSet.toList, OrderedMap.keys]

/-! ## The status of an input -/

/-- What a record says of an input with the time of its last modification. -/
structure Reports (record : BuildRecord) (dated : TypedPath × Instant) (reported : TypedPath × InputInfo) :
    Prop where
  input : reported.1 = dated.1
  previousModified : reported.2.previousModified = dated.2
  upToDate : reported.2.status = .upToDate ↔ record.IsUpToDate dated.1
  needsNonCascadingBuild : reported.2.status = .needsNonCascadingBuild ↔
    ¬record.IsUpToDate dated.1 ∧ record.LeftDependencyGraph dated.1
  needsCascadingBuild : reported.2.status = .needsCascadingBuild ↔
    ¬record.IsUpToDate dated.1 ∧ ¬record.LeftDependencyGraph dated.1

theorem statusOf_eq (found : Option JobResult) (wasSkipped : Bool) : statusOf found wasSkipped =
    if (found.any (·.succeeded) || wasSkipped) = true then .upToDate
    else if found.any (·.leftDependencyGraph) = true then .needsNonCascadingBuild
    else .needsCascadingBuild := by
  cases found with
  | none => simp [statusOf]
  | some result => simp [statusOf]

theorem reports_statusOf (record : BuildRecord) (dated : TypedPath × Instant) :
    record.Reports dated (dated.1, ⟨statusOf (record.resultsByInput.get? dated.1)
      (record.wasSkipped dated.1), dated.2⟩) := by
  have hup : ((record.resultsByInput.get? dated.1).any (·.succeeded) || record.wasSkipped dated.1) = true ↔
      record.IsUpToDate dated.1 := by
    simp only [Bool.or_eq_true, Option.any_eq_true, get?_resultsByInput_eq_some, wasSkipped_iff, IsUpToDate,
      JobResult.succeeded, beq_iff_eq]
  have hgraph : (record.resultsByInput.get? dated.1).any (·.leftDependencyGraph) = true ↔
      record.LeftDependencyGraph dated.1 := by
    simp only [Option.any_eq_true, get?_resultsByInput_eq_some, LeftDependencyGraph]
  rw [statusOf_eq]
  refine ⟨rfl, rfl, ?_, ?_, ?_⟩
  · rw [← hup]
    grind
  · rw [← hup, ← hgraph]
    grind
  · rw [← hup, ← hgraph]
    grind

/-! ## What makes no difference -/

/-- A search goes the same way without those who have nothing to say. -/
theorem findSome?_eq_filter {α β : Type} {f g : α → Option β} {p : α → Bool} {l : List α}
    (hsame : ∀ a ∈ l, p a = true → f a = g a) (hsilent : ∀ a, p a = false → f a = none) :
    l.findSome? f = (l.filter p).findSome? g := by
  induction l with
  | nil => rfl
  | cons a l ih =>
    obtain ⟨ha, hl⟩ := List.forall_mem_cons.1 hsame
    cases hp : p a with
    | true => rw [List.filter_cons_of_pos hp, List.findSome?_cons, List.findSome?_cons, ha hp, ih hl]
    | false => rw [List.filter_cons_of_neg (by simp [hp]), List.findSome?_cons, hsilent a hp, ih hl]

/-- Only the compile jobs of a record and their results count. -/
theorem inputInfos_congr {other : BuildRecord} (hdates : other.inputDates = record.inputDates)
    (hskipped : other.skippedInputs = record.skippedInputs)
    (hjobs : (other.jobs.filter fun job => job.kind = .compile) =
      record.jobs.filter fun job => job.kind = .compile)
    (hresults : ∀ job ∈ record.jobs, job.kind = .compile → ∀ result,
      other.EndedWith job result ↔ record.EndedWith job result) :
    other.inputInfos = record.inputInfos := by
  have hsilent (record : BuildRecord) (input : TypedPath) (job : Job)
      (hkind : decide (job.kind = .compile) = false) : record.resultFrom? input job = none :=
    resultFrom?_eq_none.2 fun hcompiles => absurd hcompiles.1 (of_decide_eq_false hkind)
  have hsame (input : TypedPath) (job : Job) (hjob : job ∈ record.jobs.reverse)
      (hkind : decide (job.kind = .compile) = true) :
      record.resultFrom? input job = other.resultFrom? input job := by
    ext result
    rw [resultFrom?_eq_some, resultFrom?_eq_some,
      hresults job (List.mem_reverse.1 hjob) (of_decide_eq_true hkind)]
  have hfound (input : TypedPath) :
      other.resultsByInput.get? input = record.resultsByInput.get? input := by
    rw [get?_resultsByInput, get?_resultsByInput,
      findSome?_eq_filter (fun _ _ _ => rfl) (hsilent other input),
      findSome?_eq_filter (hsame input) (hsilent record input), List.filter_reverse, List.filter_reverse,
      hjobs]
  rw [inputInfos, inputInfos, hdates]
  simp only [hfound, wasSkipped, hskipped]

/-- Every input is reported with its time and with the status that its jobs and the skipped inputs give it. All else
that a record holds makes no difference. -/
theorem inputInfos_spec (record : BuildRecord) :
    List.Forall₂ record.Reports record.inputDates.entries record.inputInfos.entries ∧
    (∀ input result other, record.CompiledWith input result → record.CompiledWith input other →
      result = other) ∧
    ∀ other : BuildRecord, other.inputDates = record.inputDates →
      other.skippedInputs = record.skippedInputs →
      (other.jobs.filter fun job => job.kind = .compile) =
        (record.jobs.filter fun job => job.kind = .compile) →
      (∀ job ∈ record.jobs, job.kind = .compile → ∀ result,
        other.EndedWith job result ↔ record.EndedWith job result) →
      other.inputInfos = record.inputInfos := by
  refine ⟨?_, ?_, fun other => inputInfos_congr⟩
  · show List.Forall₂ record.Reports record.inputDates.entries (record.inputDates.entries.map _)
    rw [List.forall₂_map_right_iff, List.forall₂_same]
    exact fun dated _ => record.reports_statusOf dated
  · intro input result other hresult hother
    rw [← get?_resultsByInput_eq_some] at hresult hother
    exact Option.some.inj (hresult.symm.trans hother)

end BuildRecord

end CompilerDriver
