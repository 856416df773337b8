import CompilerDriver.Proofs.Incremental.Rerun
import CompilerDriver.Proofs.Incremental.Session
import CompilerDriver.Proofs.Incremental.Threads
import CompilerDriver.Proofs.OrderedMap.Distinct
import CompilerDriver.Proofs.Storage.Lawful
import Mathlib.Algebra.BigOperators.Group.Finset.Basic
import Mathlib.Data.Fintype.Basic

/-!
# Jobs that end in any order

Jobs are reported by any number of threads, each of which has a share of the reports. As long as no job is
reported twice, what the ledger holds and what is left of the shares are together all reports, whatever turns
the threads take (`Reporting.advance`). So in the end the ledger holds all reports, in the order of their jobs,
and nothing is left of the order in which they came. What a run writes then is the same, byte for byte
(`finalize_any_order`).
-/

namespace CompilerDriver.Incremental

/-- The news that a job has ended. -/
abbrev Report := JobId × JobResult

/-- The call that passes it on. -/
def Call.report (report : Report) : Call := .finish report.1 report.2

namespace System

variable {ι ι' σ : Type} [DecidableEq ι] [DecidableEq ι'] [Storage σ]

omit [DecidableEq ι] [Storage σ] in
/-- Threads that only report jobs. Each of them reports those of its share, in their order. -/
def reporting (storage : σ) (shares : ι → List Report) : System ι σ :=
  initial storage fun i => (shares i).map Call.report

omit [DecidableEq ι] [Storage σ] in
/-- No thread has anything left to call. -/
def IsDone (s : System ι σ) : Prop := ∀ i, (s.threads i).calls = []

/-! ## Reporting -/

variable [Fintype ι] [Fintype ι'] {run : Run} {storage : σ} {reports : Multiset Report}
  {left : ι → List Report} {s : System ι σ}

omit [DecidableEq ι] in
/-- What holds of a system in which jobs are reported, when `left` is left of the shares. -/
structure Reporting (storage : σ) (reports : Multiset Report) (left : ι → List Report) (s : System ι σ) :
    Prop where
  threads : ∀ i, s.threads i = ⟨(left i).map Call.report, none⟩
  isOpen : s.ledger.isClosed = false
  /-- A report is in the ledger or still to be made. -/
  entries : (s.ledger.results.entries : Multiset Report) + ∑ i, (left i : Multiset Report) = reports
  /-- Nobody was refused. -/
  accepted : ∀ e ∈ s.history, ∃ report, e.2 = .locked (.report report) none
  storage : s.storage = storage
  quiet : s.diagnostics = []

theorem sum_update {i : ι} {report : Report} {rest : List Report} (h : left i = report :: rest) :
    ∑ j, (left j : Multiset Report) =
      report ::ₘ ∑ j, (Function.update left i rest j : Multiset Report) := by
  rw [← Finset.add_sum_erase _ _ (Finset.mem_univ i), ← Finset.add_sum_erase (Finset.univ : Finset ι)
    (fun j => (Function.update left i rest j : Multiset Report)) (Finset.mem_univ i)]
  have hothers : ∑ j ∈ Finset.univ.erase i, (Function.update left i rest j : Multiset Report) =
      ∑ j ∈ Finset.univ.erase i, (left j : Multiset Report) :=
    Finset.sum_congr rfl fun j hj => by rw [Function.update_of_ne (Finset.ne_of_mem_erase hj)]
  rw [hothers, h, Function.update_self, ← Multiset.cons_coe, Multiset.cons_add]

omit [Storage σ] in
/-- A job that is reported once is not in the ledger before. -/
theorem Reporting.not_contains (h : Reporting storage reports left s)
    (hdistinct : (reports.map Prod.fst).Nodup) {i : ι} {report : Report} {rest : List Report}
    (hleft : left i = report :: rest) : s.ledger.results.contains report.1 = false := by
  rw [← h.entries, sum_update hleft, Multiset.map_add, Multiset.map_cons, Multiset.add_cons,
    Multiset.nodup_cons, Multiset.mem_add, not_or] at hdistinct
  obtain ⟨⟨hnew, -⟩, -⟩ := hdistinct
  rw [Bool.eq_false_iff]
  intro hcontains
  obtain ⟨e, he, hsame⟩ := OrderedMap.contains_iff.1 hcontains
  rw [Std.LawfulEqCmp.eq_of_compare hsame] at hnew
  exact hnew (Multiset.mem_map_of_mem Prod.fst (Multiset.mem_coe.2 he))

omit [Storage σ] in
/-- A report is accepted, and it goes over from the share to the ledger. -/
theorem Reporting.enter (h : Reporting storage reports left s) (hdistinct : (reports.map Prod.fst).Nodup)
    {i : ι} {report : Report} {rest : List Report} (hleft : left i = report :: rest) :
    (Call.report report).enter run s.ledger =
      .ok { s.ledger with results := s.ledger.results.insert report.1 report.2 } := by
  rw [Call.report, Call.enter, Ledger.finish, if_neg (Bool.eq_false_iff.1 h.isOpen),
    if_neg (Bool.eq_false_iff.1 (h.not_contains hdistinct hleft))]

theorem Reporting.advance (h : Reporting storage reports left s) (hdistinct : (reports.map Prod.fst).Nodup)
    (turn : ι × Instant) : ∃ left', Reporting storage reports left' (s.advance run turn) := by
  obtain ⟨i, now⟩ := turn
  have hthread := h.threads i
  cases hleft : left i with
  | nil =>
    -- a thread that has reported its share makes no step
    rw [hleft] at hthread
    refine ⟨left, ?_⟩
    rw [System.advance, hthread]
    exact h
  | cons report rest =>
    rw [hleft] at hthread
    refine ⟨Function.update left i rest, ?_⟩
    rw [System.advance, hthread]
    simp only [List.map_cons, h.enter hdistinct hleft]
    exact {
      threads := fun j => by
        show (if j = i then _ else s.threads j) = _
        by_cases hj : j = i
        · subst hj
          rw [if_pos rfl, Function.update_self]
          rfl
        · rw [if_neg hj, Function.update_of_ne hj, h.threads j]
      isOpen := h.isOpen
      entries := by
        -- the report moves from the share to the ledger
        have hinsert := OrderedMap.perm_insert report.2 (h.not_contains hdistinct hleft)
        rw [Multiset.coe_eq_coe.2 hinsert, ← Multiset.cons_coe, Multiset.cons_add, ← Multiset.add_cons,
          ← sum_update hleft, h.entries]
      accepted := fun e he => by
        rcases List.mem_append.1 he with he | he
        · exact h.accepted e he
        · rw [List.mem_singleton.1 he]
          exact ⟨report, rfl⟩
      storage := h.storage
      quiet := h.quiet }

theorem reporting_run (h : Reporting storage reports left s) (hdistinct : (reports.map Prod.fst).Nodup)
    (turns : List (ι × Instant)) : ∃ left', Reporting storage reports left' (s.run run turns) := by
  induction turns generalizing s left with
  | nil => exact ⟨left, h⟩
  | cons turn turns ih =>
    obtain ⟨left', h'⟩ := h.advance hdistinct turn
    exact ih h'

omit [DecidableEq ι] [Storage σ] in
theorem reporting_initial {shares : ι → List Report} (h : ∑ i, (shares i : Multiset Report) = reports) :
    Reporting storage reports shares (reporting storage shares) where
  threads _ := rfl
  isOpen := rfl
  entries := by
    show (([] : List Report) : Multiset Report) + _ = reports
    rw [Multiset.coe_nil, zero_add, h]
  accepted := fun e he => nomatch he
  storage := rfl
  quiet := rfl

omit [DecidableEq ι] [Storage σ] in
/-- In the end all reports are in the ledger. -/
theorem Reporting.entries_of_isDone (h : Reporting storage reports left s) (hdone : s.IsDone) :
    (s.ledger.results.entries : Multiset Report) = reports := by
  have hleft (i : ι) : left i = [] := by
    have hcalls := hdone i
    rw [h.threads i] at hcalls
    exact List.map_eq_nil_iff.1 hcalls
  have hentries := h.entries
  simp only [hleft, Multiset.coe_nil, Finset.sum_const_zero, add_zero] at hentries
  exact hentries

/-- What is left when all threads are done: nobody was refused, and the ledger, which is still open, has just the
reports. -/
theorem reported_of_isDone {shares : ι → List Report} (hdistinct : (reports.map Prod.fst).Nodup)
    (hshares : ∑ i, (shares i : Multiset Report) = reports) {turns : List (ι × Instant)}
    (hdone : ((reporting storage shares).run run turns).IsDone) :
    let s := (reporting storage shares).run run turns
    (∀ e ∈ s.history, ∃ report, e.2 = .locked (.report report) none) ∧ s.ledger.isClosed = false ∧
      (s.ledger.results.entries : Multiset Report) = reports ∧ s.storage = storage ∧ s.diagnostics = [] := by
  obtain ⟨left, h⟩ : ∃ left, Reporting storage reports left ((reporting storage shares).run run turns) :=
    reporting_run (reporting_initial hshares) hdistinct turns
  exact ⟨h.accepted, h.isOpen, h.entries_of_isDone hdone, h.storage, h.quiet⟩

end System

/-! ## Saving at some time or other -/

namespace Run

variable {σ : Type} [Storage σ] [LawfulStorage σ] {run : Run}

open LawfulStorage (Alike)

theorem write_related (run : Run) {s t : σ} (h : Alike s t) (now now' : Instant) (contents : Bytes) :
    Attempt.Related Alike (run.write s now contents) (run.write t now' contents) := by
  rw [write, write]
  refine Attempt.Related.andThen ?_ fun s t h => LawfulStorage.writeAtomic_related h now now' _ _
  split
  next dir _ =>
    split
    next => exact ⟨h, rfl⟩
    next => exact LawfulStorage.createDirectories_related h now now' dir
  next => exact ⟨h, rfl⟩

/-- At any time a record is saved with the same outcome, on storages with the same files. -/
theorem save_related (run : Run) {s t : σ} (h : Alike s t) (now now' : Instant) (record : BuildRecord) :
    (run.save s now record).diagnostic? = (run.save t now' record).diagnostic? ∧
      Alike (run.save s now record).storage (run.save t now' record).storage := by
  rw [save, save]
  split
  next => exact ⟨rfl, h⟩
  next => exact ⟨rfl, h⟩
  next text _ =>
    obtain ⟨hleft, hfailure⟩ := write_related run h now now' (Utf8.encode text.toList)
    exact ⟨congrArg (Option.map _) hfailure, hleft⟩

end Run

/-! ## The end of a run -/

namespace Session

variable {ι σ : Type} [DecidableEq ι] [Storage σ] {session : Session ι σ} {name : ι} {run : Run}
  {ledger : Ledger} {jobs : List Job} {skipped : Option (OrderedSet TypedPath)} {record : BuildRecord}

omit [DecidableEq ι] [Storage σ] in
/-- The record of a run is put together some times, and then the run is ended. -/
def assembleAndFinalize (times : Nat) (name : ι) (now : Instant) (jobs : List Job)
    (skipped : Option (OrderedSet TypedPath)) : List (Operation ι σ) :=
  List.replicate times (.assemble name jobs skipped) ++ [.finalize name now jobs skipped]

theorem step_assemble (hrun : session.runs name = some (run, ledger))
    (hrecord : run.record (Storage.isRooted session.storage) ledger.results jobs skipped = record) :
    session.step (.assemble name jobs skipped) = (session, .assembled record) := by
  rw [step, withRun, hrun, ← hrecord]

theorem step_finalize (hrun : session.runs name = some (run, ledger)) (hopen : ledger.isClosed = false)
    (hrecord : run.record (Storage.isRooted session.storage) ledger.results jobs skipped = record)
    (now : Instant) :
    (session.step (.finalize name now jobs skipped)).1.storage = (run.save session.storage now record).storage ∧
    (session.step (.finalize name now jobs skipped)).1.told =
      session.told ++ (run.save session.storage now record).diagnostic?.toList ∧
    (session.step (.finalize name now jobs skipped)).2 =
      .finalized (run.save session.storage now record).diagnostic?.isNone := by
  have hfinal : run.finalize ledger session.storage now jobs skipped =
      .ok ({ ledger with isClosed := true }, run.save session.storage now record) := by
    rw [Run.finalize, Ledger.close, hopen, ← hrecord]
    rfl
  rw [step, withRun, hrun]
  dsimp only
  rw [hfinal]
  exact ⟨rfl, rfl, rfl⟩

/-- Putting the record together leaves no trace, however often it is done. -/
theorem run_assemble (hrun : session.runs name = some (run, ledger))
    (hrecord : run.record (Storage.isRooted session.storage) ledger.results jobs skipped = record)
    (times : Nat) (ops : List (Operation ι σ)) :
    session.run (List.replicate times (.assemble name jobs skipped) ++ ops) = session.run ops ∧
    session.answers (List.replicate times (.assemble name jobs skipped) ++ ops) =
      List.replicate times (.assembled record) ++ session.answers ops := by
  induction times with
  | zero => exact ⟨rfl, rfl⟩
  | succ times ih =>
    obtain ⟨hleft, hanswers⟩ := ih
    rw [List.replicate_succ, List.cons_append, Session.run, answers, step_assemble hrun hrecord,
      List.replicate_succ, List.cons_append]
    exact ⟨hleft, congrArg _ hanswers⟩

theorem run_assembleAndFinalize (hrun : session.runs name = some (run, ledger))
    (hopen : ledger.isClosed = false)
    (hrecord : run.record (Storage.isRooted session.storage) ledger.results jobs skipped = record)
    (times : Nat) (now : Instant) :
    (session.run (assembleAndFinalize times name now jobs skipped)).storage =
      (run.save session.storage now record).storage ∧
    (session.run (assembleAndFinalize times name now jobs skipped)).told =
      session.told ++ (run.save session.storage now record).diagnostic?.toList ∧
    session.answers (assembleAndFinalize times name now jobs skipped) =
      List.replicate times (.assembled record) ++
        [.finalized (run.save session.storage now record).diagnostic?.isNone] := by
  obtain ⟨hleft, hanswers⟩ := run_assemble hrun hrecord times [.finalize name now jobs skipped]
  obtain ⟨hstorage, htold, hanswer⟩ := step_finalize hrun hopen hrecord now
  rw [assembleAndFinalize, hleft, hanswers]
  refine ⟨hstorage, htold, ?_⟩
  rw [answers, answers, hanswer]

end Session

namespace System

variable {ι ι' σ : Type} [DecidableEq ι] [DecidableEq ι'] [Fintype ι] [Fintype ι'] [Storage σ]

omit [DecidableEq ι] [Fintype ι] [Storage σ] in
/-- The session in which a run goes on when the threads are done with reporting. -/
def session (s : System ι σ) (run : Run) : Session Unit σ :=
  ⟨s.storage, fun _ => some (run, s.ledger), s.diagnostics⟩

/-- How a run ends whose threads are done: the record of what they reported is put together and saved. -/
theorem session_of_isDone {run : Run} {storage : σ} {reports : Multiset Report}
    (hdistinct : (reports.map Prod.fst).Nodup) {shares : ι → List Report}
    (hshares : ∑ i, (shares i : Multiset Report) = reports) {turns : List (ι × Instant)}
    (hdone : ((reporting storage shares).run run turns).IsDone) (times : Nat) (now : Instant)
    (jobs : List Job) (skipped : Option (OrderedSet TypedPath)) :
    let s := (reporting storage shares).run run turns
    let ops := Session.assembleAndFinalize times () now jobs skipped
    let record := run.record (Storage.isRooted storage) s.ledger.results jobs skipped
    ((s.session run).run ops).storage = (run.save storage now record).storage ∧
    ((s.session run).run ops).told = (run.save storage now record).diagnostic?.toList ∧
    (s.session run).answers ops = List.replicate times (.assembled record) ++
      [.finalized ((s.session run).run ops).told.isEmpty] := by
  intro s ops record
  obtain ⟨-, hopen, -, hstorage, hquiet⟩ := reported_of_isDone hdistinct hshares hdone
  have hbefore : (s.session run).storage = storage := hstorage
  have hrecord : run.record (Storage.isRooted (s.session run).storage) s.ledger.results jobs skipped =
      record :=
    congrArg (fun t => run.record (Storage.isRooted t) s.ledger.results jobs skipped) hstorage
  obtain ⟨hleft, htold, hanswers⟩ := Session.run_assembleAndFinalize rfl hopen hrecord times now
  have hquiet : (s.session run).told = [] := hquiet
  rw [hbefore] at hleft htold hanswers
  rw [hquiet, List.nil_append] at htold
  have hwritten (diagnostic? : Option Diagnostic) : diagnostic?.isNone = diagnostic?.toList.isEmpty := by
    cases diagnostic? <;> rfl
  refine ⟨hleft, htold, ?_⟩
  rw [hanswers, htold, hwritten]

/-- The order in which jobs end leaves no trace. Two runs are told of the same jobs, no job twice, by any threads
in any order, and then put their records together any number of times and end. Then nobody was refused before
the end, all records were the same, the user was told the same, and what is at the place of the record is the
same, byte for byte. If the record was written, it is the text of the one that was put together. -/
theorem finalize_any_order [LawfulStorage σ] {run : Run} {storage : σ} {reports : List Report}
    (hdistinct : (reports.map (·.1)).Nodup) {shares : ι → List Report} {shares' : ι' → List Report}
    (hshares : ∑ i, (shares i : Multiset Report) = reports)
    (hshares' : ∑ i, (shares' i : Multiset Report) = reports) {turns : List (ι × Instant)}
    {turns' : List (ι' × Instant)} (hdone : ((reporting storage shares).run run turns).IsDone)
    (hdone' : ((reporting storage shares').run run turns').IsDone) (times times' : Nat) (now now' : Instant)
    (jobs : List Job) (skipped : Option (OrderedSet TypedPath)) :
    let s := (reporting storage shares).run run turns
    let s' := (reporting storage shares').run run turns'
    let ops := Session.assembleAndFinalize times () now jobs skipped
    let ops' := Session.assembleAndFinalize times' () now' jobs skipped
    (∀ e ∈ s.history, ∃ report, e.2 = .locked (.report report) none) ∧
    (∀ e ∈ s'.history, ∃ report, e.2 = .locked (.report report) none) ∧
    Storage.read ((s.session run).run ops).storage run.recordPath =
      Storage.read ((s'.session run).run ops').storage run.recordPath ∧
    ((s.session run).run ops).told = ((s'.session run).run ops').told ∧
    ∃ record,
      (s.session run).answers ops = List.replicate times (.assembled record) ++
        [.finalized ((s.session run).run ops).told.isEmpty] ∧
      (s'.session run).answers ops' = List.replicate times' (.assembled record) ++
        [.finalized ((s'.session run).run ops').told.isEmpty] ∧
      (((s.session run).run ops).told = [] → ∃ text, record.encode = .ok text ∧
        Storage.read ((s.session run).run ops).storage run.recordPath = .ok (Utf8.encode text.toList)) := by
  intro s s' ops ops'
  have hdistinct : ((reports : Multiset Report).map Prod.fst).Nodup := hdistinct
  obtain ⟨haccepted, -, hentries, -⟩ := reported_of_isDone hdistinct hshares hdone
  obtain ⟨haccepted', -, hentries', -⟩ := reported_of_isDone hdistinct hshares' hdone'
  -- a ledger is in the order of its jobs, so what is in it settles it
  have hresults : s'.ledger.results = s.ledger.results :=
    OrderedMap.eq_of_perm (Multiset.coe_eq_coe.1 (hentries'.trans hentries.symm))
  obtain ⟨hleft, htold, hanswers⟩ := session_of_isDone hdistinct hshares hdone times now jobs skipped
  obtain ⟨hleft', htold', hanswers'⟩ :=
    session_of_isDone hdistinct hshares' hdone' times' now' jobs skipped
  rw [hresults] at hleft' htold' hanswers'
  obtain ⟨hsame, halike⟩ := Run.save_related run (LawfulStorage.refl storage) now now'
    (run.record (Storage.isRooted storage) s.ledger.results jobs skipped)
  refine ⟨haccepted, haccepted', ?_, ?_, _, hanswers, hanswers', ?_⟩
  · rw [hleft, hleft', LawfulStorage.read_eq halike]
  · rw [htold, htold', hsame]
  · intro hnothing
    rw [htold, Option.toList_eq_nil_iff] at hnothing
    rw [hleft]
    exact Run.read_save hnothing

/-! ## Two jobs -/

/-- Two jobs that end in two threads. -/
def apart : Bool → List Report
  | true => [("a", .success)]
  | false => [("b", .failure 1)]

/-- The same jobs, the other way round and in one thread. -/
def together : Unit → List Report := fun _ => [("b", .failure 1), ("a", .success)]

/-- The build of the library with these jobs. -/
def twoJobs {ι : Type} [DecidableEq ι] (shares : ι → List Report) (turns : List ι) : Session Unit MemoryStorage :=
  ((reporting {} shares).run (Run.oneFileRun Run.libraryOptions) (turns.map (·, .epoch))).session
    (Run.oneFileRun Run.libraryOptions)

/-- A day after the epoch. -/
def nextDay : Instant := (Instant.ofUnix? 86400 0).getD .epoch

theorem finalize_any_order_two_jobs : ∃ text : String,
    Storage.read ((twoJobs apart [true, false]).run
      (Session.assembleAndFinalize 2 () .epoch [Run.oneFileJob] none)).storage
      (.ofString "/work/main.swiftdeps") = .ok (Utf8.encode text.toList) ∧
    Storage.read ((twoJobs together [(), ()]).run
      (Session.assembleAndFinalize 0 () nextDay [Run.oneFileJob] none)).storage
      (.ofString "/work/main.swiftdeps") = .ok (Utf8.encode text.toList) := by
  have hdistinct : ((together ()).map (·.1)).Nodup := by decide
  have hapart : ∑ i, (apart i : Multiset Report) = together () := by decide
  have htogether : ∑ i, (together i : Multiset Report) = together () := rfl
  have hdone : ((reporting ({} : MemoryStorage) apart).run (Run.oneFileRun Run.libraryOptions)
      ([true, false].map (·, .epoch))).IsDone := by
    intro i
    cases i <;> rfl
  have hdone' : ((reporting ({} : MemoryStorage) together).run (Run.oneFileRun Run.libraryOptions)
      ([(), ()].map (·, .epoch))).IsDone := fun _ => rfl
  have hquiet : ((twoJobs apart [true, false]).run
      (Session.assembleAndFinalize 2 () .epoch [Run.oneFileJob] none)).told = [] := by
    decide +kernel
  obtain ⟨-, -, hsame, -, record, -, -, hwritten⟩ := finalize_any_order hdistinct hapart htogether hdone hdone'
    2 0 .epoch nextDay [Run.oneFileJob] none
  obtain ⟨text, -, hread⟩ := hwritten hquiet
  exact ⟨text, hread, hsame.symm.trans hread⟩

end System

end CompilerDriver.Incremental
