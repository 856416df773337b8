import CompilerDriver.Proofs.Incremental.Steps

/-!
# Sessions

Some runs that share a storage and a place where the user is told things: the operations on them in any
order, one after the other. What the user is told is settled by the answers (`Answer.due`): a failure makes
one thing due, and all else nothing. `accounting` says that in a whole session just what is due is told, which
is never an error. An operation that fails leaves every file as it was, and as long as nobody else changes the
storage, a file is as it was at the beginning or holds the whole text of a record.
-/

namespace CompilerDriver.Incremental

variable {ι σ : Type}

/-! ## Operations -/

/-- What can be asked for in a session. Each run goes by a name. -/
inductive Operation (ι σ : Type) where
  | build (name : ι) (setup : Setup) (given : Occurrences)
  | finish (name : ι) (job : JobId) (result : JobResult)
  | assemble (name : ι) (jobs : List Job) (skipped : Option (OrderedSet TypedPath))
  | readPrior (name : ι)
  | load (name : ι)
  | loadUsable (name : ι)
  | finalize (name : ι) (now : Instant) (jobs : List Job) (skipped : Option (OrderedSet TypedPath))
  /-- Someone else changes the storage. -/
  | disturb (storage : σ)

/-- Whether an operation is one of the session's own. -/
def Operation.isOwn : Operation ι σ → Bool
  | .disturb _ => false
  | _ => true

inductive Answer where
  | started (run : Run)
  | unavailable (reason : Unavailable)
  | assembled (record : BuildRecord)
  | prior (found : Except PriorError BuildRecord)
  | loaded (record? : Option BuildRecord)
  | finalized (written : Bool)
  | done
  /-- The caller has made a mistake, and nothing was done. -/
  | refused (fault : LedgerFault)
  | noSuchRun

/-- The severities of what the user is to be told with an answer. -/
def Answer.due : Answer → List Severity
  | .unavailable .notRequested => []
  | .unavailable _ => [.warning]
  | .loaded none => [.remark]
  | .finalized false => [.warning]
  | _ => []

/-- The runs of a session with their ledgers, the storage that they share, and what the user was told. -/
structure Session (ι σ : Type) where
  storage : σ
  runs : ι → Option (Run × Ledger)
  told : List Diagnostic

namespace Session

def tell (session : Session ι σ) (diagnostic? : Option Diagnostic) : Session ι σ :=
  { session with told := session.told ++ diagnostic?.toList }

/-- What the user gets of a record that was looked for. -/
def receive (session : Session ι σ) : Except Diagnostic BuildRecord → Session ι σ × Answer
  | .ok record => (session, .loaded (some record))
  | .error diagnostic => (session.tell (some diagnostic), .loaded none)

/-- An operation on the run that goes by a name, if there is one. -/
def withRun (session : Session ι σ) (name : ι) (act : Run → Ledger → Session ι σ × Answer) :
    Session ι σ × Answer :=
  match session.runs name with
  | some (run, ledger) => act run ledger
  | none => (session, .noSuchRun)

variable [DecidableEq ι]

def setRun (session : Session ι σ) (name : ι) (run : Run) (ledger : Ledger) : Session ι σ :=
  { session with runs := fun other => if other = name then some (run, ledger) else session.runs other }

variable [Storage σ]

/-- One operation. -/
def step (session : Session ι σ) : Operation ι σ → Session ι σ × Answer
  | .build name setup given =>
    match Run.start (Storage.isRooted session.storage) setup given with
    | .ok run => (session.setRun name run {}, .started run)
    | .error reason => (session.tell reason.diagnostic?, .unavailable reason)
  | .finish name job result => session.withRun name fun run ledger =>
    match ledger.finish job result with
    | .ok ledger => (session.setRun name run ledger, .done)
    | .error fault => (session, .refused fault)
  | .assemble name jobs skipped => session.withRun name fun run ledger =>
    (session, .assembled (run.record (Storage.isRooted session.storage) ledger.results jobs skipped))
  | .readPrior name => session.withRun name fun run _ =>
    (session, .prior (run.readPrior session.storage))
  | .load name => session.withRun name fun run _ => session.receive (run.load session.storage)
  | .loadUsable name => session.withRun name fun run _ =>
    session.receive (run.loadUsable session.storage)
  | .finalize name now jobs skipped => session.withRun name fun run ledger =>
    match run.finalize ledger session.storage now jobs skipped with
    | .ok (ledger, saved) =>
      (({ session with storage := saved.storage }.setRun name run ledger).tell saved.diagnostic?,
        .finalized saved.diagnostic?.isNone)
    | .error fault => (session, .refused fault)
  | .disturb storage => ({ session with storage := storage }, .done)

/-- Some operations, one after the other. -/
def run (session : Session ι σ) : List (Operation ι σ) → Session ι σ
  | [] => session
  | op :: ops => (session.step op).1.run ops

/-- What they were answered with. -/
def answers (session : Session ι σ) : List (Operation ι σ) → List Answer
  | [] => []
  | op :: ops => (session.step op).2 :: (session.step op).1.answers ops

end Session

/-! ## Failures -/

theorem Answer.error_not_mem_due (answer : Answer) : Severity.error ∉ answer.due := by
  cases answer with
  | unavailable reason => cases reason <;> decide
  | loaded record? => cases record? <;> simp [due]
  | finalized written => cases written <;> decide
  | _ => exact List.not_mem_nil

namespace Run

/-- Only a run that nobody asked for is not requested. -/
theorem notRequested_iff_of_start {isRooted : Path → Bool} {setup : Setup} {given : Occurrences}
    {reason : Unavailable} (h : start isRooted setup given = .error reason) :
    reason = .notRequested ↔ given.contains .incremental = false := by
  rw [start] at h
  split at h
  next hasked =>
    rw [hasked]
    split at h
    next =>
      cases h
      decide
    next map _ =>
      split at h
      next =>
        cases h
        decide
      next => cases h
  next hasked =>
    cases h
    exact iff_of_true rfl (Bool.eq_false_iff.2 hasked)

section Loading

variable [Storage σ] {run : Run} {storage : σ} {diagnostic : Diagnostic}

theorem severity_of_load (h : run.load storage = .error diagnostic) : diagnostic.severity = .remark := by
  rw [load] at h
  cases hprior : run.readPrior storage with
  | ok record =>
    rw [hprior] at h
    cases h
  | error e =>
    rw [hprior] at h
    cases h
    cases e <;> rfl

theorem severity_of_loadUsable (h : run.loadUsable storage = .error diagnostic) :
    diagnostic.severity = .remark := by
  rw [loadUsable] at h
  cases hload : run.load storage with
  | error e =>
    rw [hload] at h
    cases h
    exact severity_of_load hload
  | ok record =>
    simp only [hload, bind, Except.bind] at h
    split at h
    next => cases h
    next =>
      cases h
      rfl

end Loading

/-- Only the second attempt to end a run is refused. -/
theorem finalize_eq_error [Storage σ] {run : Run} {ledger : Ledger} {storage : σ} {now : Instant}
    {jobs : List Job} {skipped : Option (OrderedSet TypedPath)} {fault : LedgerFault}
    (h : run.finalize ledger storage now jobs skipped = .error fault) :
    ledger.isClosed = true ∧ fault = .closedTwice run.recordPath := by
  rw [finalize, Ledger.close] at h
  split at h
  next hclosed =>
    cases h
    exact ⟨hclosed, rfl⟩
  next => cases h

/-- A record is written as a whole, or the user is warned and nothing is written. -/
theorem save_cases (run : Run) (storage : MemoryStorage) (now : Instant) (record : BuildRecord) :
    (∃ text, record.encode = .ok text ∧
      run.save storage now record =
        ⟨storage.put run.recordPath (Utf8.encode text.toList) now, none⟩) ∨
    ∃ diagnostic, diagnostic.severity = .warning ∧
      run.save storage now record = ⟨storage, some diagnostic⟩ := by
  rw [save]
  split
  next path _ => exact .inr ⟨_, rfl, rfl⟩
  next e _ => exact .inr ⟨_, rfl, rfl⟩
  next text htext =>
    rcases run.spec_of_write storage now (Utf8.encode text.toList) with
      ⟨-, hleft, hfailed⟩ | ⟨-, hwritten⟩
    · obtain ⟨e, he⟩ := Option.ne_none_iff_exists'.1 hfailed
      right
      simp only [hleft, he]
      exact ⟨_, rfl, rfl⟩
    · left
      refine ⟨text, htext, ?_⟩
      rw [hwritten]
      rfl

end Run

/-! ## What the user is told -/

namespace Session

/-- The user is told things of these severities. -/
def Tells (session next : Session ι σ) (severities : List Severity) : Prop :=
  ∃ told, next.told = session.told ++ told ∧ told.map (·.severity) = severities

/-- The user is told just what is due. -/
def Paid (session : Session ι σ) (result : Session ι σ × Answer) : Prop :=
  Tells session result.1 result.2.due

theorem tells_nil {session next : Session ι σ} (h : next.told = session.told) : Tells session next [] :=
  ⟨[], by rw [h, List.append_nil], rfl⟩

theorem tells_tell (session : Session ι σ) (diagnostic : Diagnostic) :
    Tells session (session.tell (some diagnostic)) [diagnostic.severity] := ⟨[diagnostic], rfl, rfl⟩

theorem Tells.trans {session middle next : Session ι σ} {first later : List Severity}
    (hfirst : Tells session middle first) (hlater : Tells middle next later) :
    Tells session next (first ++ later) := by
  obtain ⟨told, htold, rfl⟩ := hfirst
  obtain ⟨more, hmore, rfl⟩ := hlater
  exact ⟨told ++ more, by rw [hmore, htold, List.append_assoc], List.map_append⟩

/-- What holds if there is no such run, and of every run, holds of an operation on a run. -/
theorem withRun_induction {P : Session ι σ × Answer → Prop} (session : Session ι σ) (name : ι)
    {act : Run → Ledger → Session ι σ × Answer} (hnone : P (session, .noSuchRun))
    (hsome : ∀ run ledger, P (act run ledger)) : P (session.withRun name act) := by
  rw [withRun]
  split
  next run ledger _ => exact hsome run ledger
  next => exact hnone

theorem paid_receive (session : Session ι σ) {found : Except Diagnostic BuildRecord}
    (h : ∀ diagnostic, found = .error diagnostic → diagnostic.severity = .remark) :
    Paid session (session.receive found) := by
  cases found with
  | ok record => exact tells_nil rfl
  | error diagnostic =>
    have htold := tells_tell session diagnostic
    rwa [h diagnostic rfl] at htold

/-! ## What an operation may do -/

/-- The user has got a record or none. -/
def Received (session : Session ι σ) (result : Session ι σ × Answer) : Prop :=
  result.1.storage = session.storage ∧ ∃ record?, result.2 = .loaded record?

/-- A record was written as a whole and nothing else was, or nothing was written at all. -/
def Settled (session : Session ι MemoryStorage) (run : Run) (record : BuildRecord) (now : Instant)
    (result : Session ι MemoryStorage × Answer) : Prop :=
  (∃ text, record.encode = .ok text ∧ result.2 = .finalized true ∧
    ∀ path, result.1.storage.file path =
      if compare path run.recordPath = .eq then .ok ⟨Utf8.encode text.toList, now⟩
      else session.storage.file path) ∨
  result.2 = .finalized false ∧ result.1.storage = session.storage

/-- A run is ended once. The second attempt is refused and does nothing. -/
def Finalized (session : Session ι MemoryStorage) (now : Instant) (jobs : List Job)
    (skipped : Option (OrderedSet TypedPath)) (run : Run) (ledger : Ledger)
    (result : Session ι MemoryStorage × Answer) : Prop :=
  (ledger.isClosed = true ∧ result = (session, .refused (.closedTwice run.recordPath))) ∨
  (ledger.isClosed = false ∧
    Settled session run (run.record (Storage.isRooted session.storage) ledger.results jobs skipped) now
      result)

/-- What an operation on the run that goes by a name comes to. Without such a run nothing happens. -/
def ForRun (session : Session ι σ) (name : ι) (P : Run → Ledger → Session ι σ × Answer → Prop)
    (result : Session ι σ × Answer) : Prop :=
  match session.runs name with
  | some (run, ledger) => P run ledger result
  | none => result = (session, .noSuchRun)

/-- What an operation does, and how it is answered. Only one that ends a run writes anything. -/
def Effect (session : Session ι MemoryStorage) (op : Operation ι MemoryStorage)
    (result : Session ι MemoryStorage × Answer) : Prop :=
  match op with
  | .build _ setup given =>
    result.1.storage = session.storage ∧
      ((∃ run, Run.start (Storage.isRooted session.storage) setup given = .ok run ∧
          result.2 = .started run) ∨
        ∃ reason, Run.start (Storage.isRooted session.storage) setup given = .error reason ∧
          result.2 = .unavailable reason ∧
          (reason = .notRequested ↔ given.contains .incremental = false))
  | .load name | .loadUsable name => ForRun session name (fun _ _ => Received session) result
  | .finalize name now jobs skipped => ForRun session name (Finalized session now jobs skipped) result
  | .finish .. | .assemble .. | .readPrior _ =>
    result.1.storage = session.storage ∧ result.2.due = []
  | .disturb storage => result = ({ session with storage := storage }, .done)

theorem forRun_withRun (session : Session ι σ) (name : ι)
    {P : Run → Ledger → Session ι σ × Answer → Prop} {act : Run → Ledger → Session ι σ × Answer}
    (h : ∀ run ledger, P run ledger (act run ledger)) :
    ForRun session name P (session.withRun name act) := by
  rw [ForRun, withRun]
  cases session.runs name with
  | some found => exact h found.1 found.2
  | none => rfl

theorem ForRun.elim {session : Session ι σ} {name : ι} {P : Run → Ledger → Session ι σ × Answer → Prop}
    {result : Session ι σ × Answer} (h : ForRun session name P result) {Q : Prop}
    (hnone : result = (session, .noSuchRun) → Q) (hsome : ∀ run ledger, P run ledger result → Q) : Q := by
  rw [ForRun] at h
  split at h
  next run ledger _ => exact hsome run ledger h
  next => exact hnone h

theorem received_receive (session : Session ι σ) (found : Except Diagnostic BuildRecord) :
    Received session (session.receive found) := by
  cases found with
  | ok record => exact ⟨rfl, some record, rfl⟩
  | error diagnostic => exact ⟨rfl, none, rfl⟩

/-! ## What operations tell -/

variable [DecidableEq ι]

theorem paid_step (session : Session ι MemoryStorage) (op : Operation ι MemoryStorage) :
    Paid session (session.step op) := by
  -- nothing is due where no run goes by the name
  have hnone : Paid session (session, .noSuchRun) := tells_nil rfl
  cases op with
  | build name setup given =>
    rw [step]
    split
    next run _ => exact tells_nil rfl
    next reason _ =>
      cases reason with
      | notRequested => exact tells_nil (List.append_nil session.told)
      | noOutputFileMap => exact tells_tell session .requiresOutputFileMap
      | noRecordEntry => exact tells_tell session .requiresRecordEntry
  | finish name job result =>
    refine withRun_induction (P := Paid session) session name hnone fun run ledger => ?_
    split <;> exact tells_nil rfl
  | assemble name jobs skipped =>
    exact withRun_induction (P := Paid session) session name hnone fun _ _ => tells_nil rfl
  | readPrior name =>
    exact withRun_induction (P := Paid session) session name hnone fun _ _ => tells_nil rfl
  | load name =>
    exact withRun_induction (P := Paid session) session name hnone fun _ _ =>
      session.paid_receive fun _ => Run.severity_of_load
  | loadUsable name =>
    exact withRun_induction (P := Paid session) session name hnone fun _ _ =>
      session.paid_receive fun _ => Run.severity_of_loadUsable
  | finalize name now jobs skipped =>
    refine withRun_induction (P := Paid session) session name hnone fun run ledger => ?_
    split
    next closed saved hfinal =>
      obtain ⟨-, -, rfl⟩ := Run.spec_of_finalize hfinal
      rcases run.save_cases session.storage now _ with ⟨text, -, hsaved⟩ | ⟨diagnostic, hwarning, hsaved⟩
      · rw [hsaved]
        exact tells_nil (List.append_nil session.told)
      · rw [hsaved]
        exact ⟨[diagnostic], rfl, congrArg (fun severity => [severity]) hwarning⟩
    next => exact tells_nil rfl
  | disturb storage => exact tells_nil rfl

theorem tells_run (session : Session ι MemoryStorage) (ops : List (Operation ι MemoryStorage)) :
    Tells session (session.run ops) ((session.answers ops).flatMap Answer.due) := by
  induction ops generalizing session with
  | nil => exact tells_nil rfl
  | cons op ops ih =>
    rw [run, answers, List.flatMap_cons]
    exact Tells.trans (session.paid_step op) (ih (session.step op).1)

/-! ## What operations do -/

theorem settled_save (session : Session ι MemoryStorage) (name : ι) (run : Run) (closed : Ledger)
    (now : Instant) (record : BuildRecord) :
    let saved := run.save session.storage now record
    Settled session run record now
      (({ session with storage := saved.storage }.setRun name run closed).tell saved.diagnostic?,
        .finalized saved.diagnostic?.isNone) := by
  rcases run.save_cases session.storage now record with ⟨text, htext, hsaved⟩ | ⟨diagnostic, -, hsaved⟩
  · rw [hsaved]
    refine .inl ⟨text, htext, rfl, fun path => ?_⟩
    exact session.storage.file_put ..
  · rw [hsaved]
    exact .inr ⟨rfl, rfl⟩

theorem effect_step (session : Session ι MemoryStorage) (op : Operation ι MemoryStorage) :
    Effect session op (session.step op) := by
  cases op with
  | build name setup given =>
    rw [step]
    split
    next run hstart => exact ⟨rfl, .inl ⟨run, hstart, rfl⟩⟩
    next reason hstart =>
      exact ⟨rfl, .inr ⟨reason, hstart, rfl, Run.notRequested_iff_of_start hstart⟩⟩
  | finish name job result =>
    refine withRun_induction (P := Effect session (.finish name job result)) session name ⟨rfl, rfl⟩
      fun run ledger => ?_
    split <;> exact ⟨rfl, rfl⟩
  | assemble name jobs skipped =>
    exact withRun_induction (P := Effect session (.assemble name jobs skipped)) session name ⟨rfl, rfl⟩
      fun _ _ => ⟨rfl, rfl⟩
  | readPrior name =>
    exact withRun_induction (P := Effect session (.readPrior name)) session name ⟨rfl, rfl⟩
      fun _ _ => ⟨rfl, rfl⟩
  | load name => exact forRun_withRun session name fun _ _ => session.received_receive _
  | loadUsable name => exact forRun_withRun session name fun _ _ => session.received_receive _
  | finalize name now jobs skipped =>
    apply forRun_withRun session name
    intro run ledger
    split
    next closed saved hfinal =>
      obtain ⟨hopen, rfl, rfl⟩ := Run.spec_of_finalize hfinal
      exact .inr ⟨hopen, session.settled_save name run _ now _⟩
    next fault hfinal =>
      obtain ⟨hclosed, rfl⟩ := Run.finalize_eq_error hfinal
      exact .inl ⟨hclosed, rfl⟩
  | disturb storage => rfl

/-- What was found at a path is the whole text of a record. -/
def HoldsRecord (found : Except StorageError MemoryFile) : Prop :=
  ∃ record text modified, BuildRecord.encode record = .ok text ∧
    found = .ok ⟨Utf8.encode text.toList, modified⟩

/-- A file is written as the whole text of a record or not at all, if nobody else writes it. -/
theorem file_step (session : Session ι MemoryStorage) {op : Operation ι MemoryStorage}
    (hown : op.isOwn = true) (path : Path) :
    (session.step op).1.storage.file path = session.storage.file path ∨
      HoldsRecord ((session.step op).1.storage.file path) := by
  -- all but the end of a run leave the storage as it was
  have heffect := session.effect_step op
  have hsame (h : (session.step op).1.storage = session.storage) :
      (session.step op).1.storage.file path = session.storage.file path ∨
        HoldsRecord ((session.step op).1.storage.file path) := .inl (by rw [h])
  have hnone (h : session.step op = (session, .noSuchRun)) := hsame (by rw [h])
  cases op with
  | build name setup given => exact hsame heffect.1
  | finish name job result => exact hsame heffect.1
  | assemble name jobs skipped => exact hsame heffect.1
  | readPrior name => exact hsame heffect.1
  | load name => exact heffect.elim hnone fun _ _ h => hsame h.1
  | loadUsable name => exact heffect.elim hnone fun _ _ h => hsame h.1
  | finalize name now jobs skipped =>
    apply heffect.elim hnone
    rintro run ledger (⟨-, hrefused⟩ | ⟨-, ⟨text, htext, -, hfiles⟩ | ⟨-, hstorage⟩⟩)
    · exact hsame (by rw [hrefused])
    · rw [hfiles path]
      split
      next => exact .inr ⟨_, text, now, htext, rfl⟩
      next => exact .inl rfl
    · exact hsame hstorage
  | disturb storage => cases hown

theorem file_run (session : Session ι MemoryStorage) {ops : List (Operation ι MemoryStorage)}
    (hown : ∀ op ∈ ops, op.isOwn = true) (path : Path) :
    (session.run ops).storage.file path = session.storage.file path ∨
      HoldsRecord ((session.run ops).storage.file path) := by
  induction ops generalizing session with
  | nil => exact .inl rfl
  | cons op ops ih =>
    obtain ⟨hop, hops⟩ := List.forall_mem_cons.1 hown
    rw [run]
    rcases ih (session.step op).1 hops with hsame | hrecord
    · rw [hsame]
      exact session.file_step hop path
    · exact .inr hrecord

/-! ## The account of a session -/

/-- Wherever an operation stands in a session, it has its effect and tells what is due for its answer. In the
whole session just what was due is told, and never an error. As long as nobody else changes the storage, no
file is left half written. -/
theorem accounting (session : Session ι MemoryStorage) (ops : List (Operation ι MemoryStorage)) :
    (∀ before op after, ops = before ++ op :: after →
      Effect (session.run before) op ((session.run before).step op) ∧
      Paid (session.run before) ((session.run before).step op)) ∧
    Tells session (session.run ops) ((session.answers ops).flatMap Answer.due) ∧
    Severity.error ∉ (session.answers ops).flatMap Answer.due ∧
    ((∀ op ∈ ops, op.isOwn = true) → ∀ path,
      (session.run ops).storage.file path = session.storage.file path ∨
        HoldsRecord ((session.run ops).storage.file path)) := by
  refine ⟨?_, session.tells_run ops, ?_, fun hown path => session.file_run hown path⟩
  · intro before op after _
    exact ⟨(session.run before).effect_step op, (session.run before).paid_step op⟩
  · intro herror
    obtain ⟨answer, -, hdue⟩ := List.mem_flatMap.1 herror
    exact answer.error_not_mem_due hdue

end Session

end CompilerDriver.Incremental
