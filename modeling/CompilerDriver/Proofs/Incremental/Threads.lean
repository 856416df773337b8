import CompilerDriver.Proofs.Incremental.Steps

/-!
# Threads that share a run

Any number of threads report jobs and finalize the record of one run. Each call has a section in which it
holds the lock of the ledger (`Call.enter`), and such a section is one step. Nothing is left of a call
after it, but of a call to finalize that was not refused: it has copied the results, and in a later step
it puts the record together, encodes it and writes it. In between, the other threads go on.

A thread is what it calls, in its order. It goes on after a refused call, and a thread that ends with one is
a thread that calls nothing more. `System.run` lets the threads take turns in any order, and keeps a
history of what happened.
-/

namespace CompilerDriver.Incremental

/-- What a thread asks for. -/
inductive Call where
  | finish (job : JobId) (result : JobResult)
  | finalize (jobs : List Job) (skipped : Option (OrderedSet TypedPath))

/-- What a call to finalize takes along from its section. -/
structure Snapshot where
  jobs : List Job
  skipped : Option (OrderedSet TypedPath)
  results : OrderedMap JobId JobResult

namespace Call

/-- What a call does to the ledger while it holds the lock. -/
def enter (run : Run) (ledger : Ledger) : Call → Except LedgerFault Ledger
  | .finish job result => ledger.finish job result
  | .finalize _ _ => ledger.close run.recordPath

/-- What is left to do of a call that left the ledger behind. -/
def snapshot? (ledger : Ledger) : Call → Option Snapshot
  | .finish _ _ => none
  | .finalize jobs skipped => some ⟨jobs, skipped, ledger.results⟩

end Call

/-- What happened in one step. -/
inductive Event where
  /-- A call held the lock, and was refused if there is a fault. -/
  | locked (call : Call) (fault? : Option LedgerFault)
  /-- A call to finalize saved its record. -/
  | saved (record : BuildRecord)

/-- What a thread is still to do. -/
structure Thread where
  calls : List Call
  snapshot? : Option Snapshot := none

/-- Threads named by `ι` that share a run on a storage. -/
structure System (ι σ : Type) where
  ledger : Ledger
  storage : σ
  /-- What the user was told. -/
  diagnostics : List Diagnostic
  threads : ι → Thread
  /-- What happened and in which thread, the first step first. -/
  history : List (ι × Event)

namespace System

variable {ι σ : Type} [DecidableEq ι] [Storage σ]

omit [DecidableEq ι] [Storage σ] in
/-- Threads that have not begun. -/
def initial (storage : σ) (scripts : ι → List Call) : System ι σ where
  ledger := {}
  storage := storage
  diagnostics := []
  threads i := ⟨scripts i, none⟩
  history := []

omit [Storage σ] in
/-- The system after thread `i` made a step. -/
def after (s : System ι σ) (i : ι) (thread : Thread) (event : Event) : System ι σ :=
  { s with
    threads := fun j => if j = i then thread else s.threads j
    history := s.history ++ [(i, event)] }

/-- The record that a call to finalize puts together. -/
def recordOf (s : System ι σ) (run : Run) (snapshot : Snapshot) : BuildRecord :=
  run.record (Storage.isRooted s.storage) snapshot.results snapshot.jobs snapshot.skipped

/-- One step of the thread whose turn it is; a thread that has nothing to do changes nothing. -/
def advance (run : Run) (s : System ι σ) (turn : ι × Instant) : System ι σ :=
  match s.threads turn.1 with
  | ⟨calls, some snapshot⟩ =>
    let saved := run.save s.storage turn.2 (s.recordOf run snapshot)
    { s.after turn.1 ⟨calls, none⟩ (.saved (s.recordOf run snapshot)) with
      storage := saved.storage
      diagnostics := s.diagnostics ++ saved.diagnostic?.toList }
  | ⟨call :: calls, none⟩ =>
    match call.enter run s.ledger with
    | .ok ledger =>
      { s.after turn.1 ⟨calls, call.snapshot? ledger⟩ (.locked call none) with ledger := ledger }
    | .error fault => s.after turn.1 ⟨calls, none⟩ (.locked call (some fault))
  | ⟨[], none⟩ => s

/-- Lets the threads take turns. -/
def run (run : Run) (s : System ι σ) (turns : List (ι × Instant)) : System ι σ :=
  turns.foldl (advance run) s

/-- All that one turn can do. -/
theorem advance_cases (run : Run) (s : System ι σ) (i : ι) (now : Instant) :
    (∃ calls snapshot, s.threads i = ⟨calls, some snapshot⟩ ∧
      s.advance run (i, now) = { s.after i ⟨calls, none⟩ (.saved (s.recordOf run snapshot)) with
        storage := (run.save s.storage now (s.recordOf run snapshot)).storage
        diagnostics := s.diagnostics ++
          (run.save s.storage now (s.recordOf run snapshot)).diagnostic?.toList }) ∨
    (∃ call calls ledger, s.threads i = ⟨call :: calls, none⟩ ∧
      call.enter run s.ledger = .ok ledger ∧
      s.advance run (i, now) = { s.after i ⟨calls, call.snapshot? ledger⟩ (.locked call none) with
        ledger := ledger }) ∨
    (∃ call calls fault, s.threads i = ⟨call :: calls, none⟩ ∧
      call.enter run s.ledger = .error fault ∧
      s.advance run (i, now) = s.after i ⟨calls, none⟩ (.locked call (some fault))) ∨
    (s.threads i = ⟨[], none⟩ ∧ s.advance run (i, now) = s) := by
  unfold advance
  cases hthread : s.threads i with
  | mk calls snapshot? =>
    cases snapshot? with
    | some snapshot => exact .inl ⟨calls, snapshot, rfl, rfl⟩
    | none =>
      cases calls with
      | nil => exact .inr (.inr (.inr ⟨rfl, rfl⟩))
      | cons call calls =>
        cases hcall : call.enter run s.ledger with
        | ok ledger => exact .inr (.inl ⟨call, calls, ledger, rfl, hcall, by simp only [hcall]⟩)
        | error fault => exact .inr (.inr (.inl ⟨call, calls, fault, rfl, hcall, by simp only [hcall]⟩))

/-- A call to finalize whose two steps follow one another does what `Run.finalize` does. -/
theorem advance_finalize {run : Run} {s : System ι σ} {i : ι} {jobs : List Job}
    {skipped : Option (OrderedSet TypedPath)} {calls : List Call} {closed : Ledger} {saved : Saved σ}
    {now : Instant} (hthread : s.threads i = ⟨.finalize jobs skipped :: calls, none⟩)
    (h : run.finalize s.ledger s.storage now jobs skipped = .ok (closed, saved)) :
    let t := s.run run [(i, now), (i, now)]
    t.ledger = closed ∧ t.storage = saved.storage ∧
      t.diagnostics = s.diagnostics ++ saved.diagnostic?.toList := by
  obtain ⟨hopen, rfl, rfl⟩ := Run.spec_of_finalize h
  have hclose : s.ledger.close run.recordPath = .ok { s.ledger with isClosed := true } := by
    rw [Ledger.close, hopen]
    rfl
  have hfirst : s.advance run (i, now) =
      { s.after i ⟨calls, some ⟨jobs, skipped, s.ledger.results⟩⟩
          (.locked (.finalize jobs skipped) none) with
        ledger := { s.ledger with isClosed := true } } := by
    simp only [advance, hthread, Call.enter, hclose]
    rfl
  rw [System.run, List.foldl_cons, List.foldl_cons, List.foldl_nil, hfirst, advance]
  simp only [after, if_true]
  exact ⟨trivial, rfl, rfl⟩

end System

end CompilerDriver.Incremental
