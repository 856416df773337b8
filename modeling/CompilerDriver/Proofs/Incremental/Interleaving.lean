import CompilerDriver.Proofs.Incremental.Threads

/-!
# The ledger under any interleaving

What the history of a system says about its ledger, whatever turns the threads take. The ledger agrees with
the history after every step (`Agrees.entered`, `Agrees.refused`), so each call is refused exactly if the
history gives a reason (`Lawful`), and the run passes through three phases in order (`Phase`): it goes on,
one thread has its record to save, it has ended. One turn keeps all of this (`Sound.advance`), and
`ledger_interleaved` says what follows for any number of turns.

The point on which it all rests is that a call to finalize copies the results in the same step in which it
closes the ledger. A job is entered before that step, and is in the copy, or is refused after it.
-/

namespace CompilerDriver.Incremental

variable {ι σ : Type}

/-! ## What a history says -/

namespace Event

/-- The job that an event entered into the ledger. -/
def accepted? : Event → Option (JobId × JobResult)
  | .locked (.finish job result) none => some (job, result)
  | _ => none

/-- Whether an event closed the ledger. -/
def closes : Event → Bool
  | .locked (.finalize _ _) none => true
  | _ => false

/-- The call that an event was a step of, if it was the first one. -/
def call? : Event → Option Call
  | .locked call _ => some call
  | .saved _ => none

/-- The record that an event saved. -/
def record? : Event → Option BuildRecord
  | .locked _ _ => none
  | .saved record => some record

end Event

/-- The jobs that were entered, in the order in which they were. -/
def accepted (history : List (ι × Event)) : List (JobId × JobResult) :=
  history.filterMap fun e => e.2.accepted?

/-- Whether a call to finalize has held the lock and was not refused. -/
def isClosedBy (history : List (ι × Event)) : Bool := history.any fun e => e.2.closes

/-- The result with which a job was first entered. -/
def firstResult? (history : List (ι × Event)) (job : JobId) : Option JobResult :=
  ((accepted history).find? fun entry => entry.1 == job).map (·.2)

/-- The calls that a thread has made. -/
def callsOf [DecidableEq ι] (i : ι) (history : List (ι × Event)) : List Call :=
  history.filterMap fun e => if e.1 = i then e.2.call? else none

/-- The records that were saved. -/
def savedRecords (history : List (ι × Event)) : List BuildRecord :=
  history.filterMap fun e => e.2.record?

/-- Why a call is refused after some history. That the record was finalized counts more than that a job was
reported before. -/
def Call.fault? (run : Run) (history : List (ι × Event)) : Call → Option LedgerFault
  | .finish job _ =>
    if isClosedBy history then some (.finishedTooLate job)
    else if (firstResult? history job).isSome then some (.finishedTwice job)
    else none
  | .finalize _ _ => if isClosedBy history then some (.closedTwice run.recordPath) else none

section Appending

variable (history : List (ι × Event)) (i : ι) (event : Event)

theorem accepted_concat :
    accepted (history ++ [(i, event)]) = accepted history ++ event.accepted?.toList := by
  rw [accepted, List.filterMap_append]
  cases h : event.accepted? <;> simp [accepted, h]

theorem isClosedBy_concat :
    isClosedBy (history ++ [(i, event)]) = (isClosedBy history || event.closes) := by
  simp [isClosedBy]

theorem callsOf_concat [DecidableEq ι] (j : ι) :
    callsOf j (history ++ [(i, event)]) =
      callsOf j history ++ if i = j then event.call?.toList else [] := by
  rw [callsOf, List.filterMap_append]
  by_cases hi : i = j
  · cases h : event.call? <;> simp [callsOf, hi, h]
  · simp [callsOf, hi]

theorem savedRecords_concat :
    savedRecords (history ++ [(i, event)]) = savedRecords history ++ event.record?.toList := by
  rw [savedRecords, List.filterMap_append]
  cases h : event.record? <;> simp [savedRecords, h]

theorem firstResult?_concat (job : JobId) :
    firstResult? (history ++ [(i, event)]) job =
      (firstResult? history job).or
        ((event.accepted?.toList.find? fun entry => entry.1 == job).map (·.2)) := by
  rw [firstResult?, accepted_concat, List.find?_append, firstResult?]
  cases (accepted history).find? fun entry => entry.1 == job <;> rfl

end Appending

/-! ## The ledger keeps up with the history -/

/-- The ledger holds what was entered, and is closed if it was closed. -/
structure Agrees (ledger : Ledger) (history : List (ι × Event)) : Prop where
  results : ∀ job, ledger.results.get? job = firstResult? history job
  closed : ledger.isClosed = isClosedBy history

theorem agrees_nil : Agrees {} ([] : List (ι × Event)) := ⟨fun _ => rfl, rfl⟩

section Agrees

variable {run : Run} {ledger ledger' : Ledger} {history : List (ι × Event)} {i : ι} {call : Call}

/-- What neither enters a job nor closes the ledger leaves it in agreement. -/
theorem Agrees.concat (h : Agrees ledger history) {event : Event} (haccepted : event.accepted? = none)
    (hcloses : event.closes = false) : Agrees ledger (history ++ [(i, event)]) := by
  refine ⟨fun job => ?_, ?_⟩
  · rw [h.results, firstResult?_concat, haccepted]
    simp
  · rw [h.closed, isClosedBy_concat, hcloses, Bool.or_false]

/-- A call is refused for the fault that the history tells. -/
theorem Agrees.refused (h : Agrees ledger history) {fault : LedgerFault}
    (hcall : call.enter run ledger = .error fault) : call.fault? run history = some fault := by
  cases call with
  | finish job result =>
    rw [Call.enter, Ledger.finish, ← OrderedMap.isSome_get?, h.closed, h.results] at hcall
    rw [Call.fault?]
    split at hcall
    next hclosed => rw [if_pos hclosed, Except.error.inj hcall]
    next hopen =>
      split at hcall
      next hfound => rw [if_neg hopen, if_pos hfound, Except.error.inj hcall]
      next => cases hcall
  | finalize jobs skipped =>
    rw [Call.enter, Ledger.close, h.closed] at hcall
    rw [Call.fault?]
    split at hcall
    next hclosed => rw [if_pos hclosed, Except.error.inj hcall]
    next => cases hcall

/-- A call that is not refused is due no fault, and the ledger goes along with the history. -/
theorem Agrees.entered (h : Agrees ledger history) (hcall : call.enter run ledger = .ok ledger') :
    call.fault? run history = none ∧ isClosedBy history = false ∧
      Agrees ledger' (history ++ [(i, .locked call none)]) := by
  cases call with
  | finish job result =>
    rw [Call.enter, Ledger.finish, ← OrderedMap.isSome_get?, h.closed, h.results] at hcall
    split at hcall
    next => cases hcall
    next hopen =>
      split at hcall
      next => cases hcall
      next hnew =>
        obtain rfl := Except.ok.inj hcall
        refine ⟨by rw [Call.fault?, if_neg hopen, if_neg hnew], Bool.eq_false_iff.2 hopen, ?_, ?_⟩
        · intro other
          rw [OrderedMap.get?_insert, h.results, firstResult?_concat]
          show _ = (firstResult? history other).or
            (([(job, result)].find? fun entry => entry.1 == other).map (·.2))
          by_cases hother : other = job
          · subst hother
            rw [if_pos Std.ReflCmp.compare_self, Option.not_isSome_iff_eq_none.1 hnew]
            simp
          · rw [if_neg fun heq => hother (Std.LawfulEqCmp.eq_of_compare heq)]
            simp [Ne.symm hother]
        · rw [isClosedBy_concat, ← h.closed]
          exact (Bool.or_false _).symm
  | finalize jobs skipped =>
    rw [Call.enter, Ledger.close, h.closed] at hcall
    split at hcall
    next => cases hcall
    next hopen =>
      obtain rfl := Except.ok.inj hcall
      refine ⟨by rw [Call.fault?, if_neg hopen], Bool.eq_false_iff.2 hopen, ?_, ?_⟩
      · intro job
        rw [h.results, firstResult?_concat]
        exact (Option.or_none).symm
      · rw [isClosedBy_concat]
        exact (Bool.or_true _).symm

end Agrees

/-! ## Lawful histories -/

/-- Every call is refused for the fault that it is due, if it is due one. -/
def Lawful (run : Run) (history : List (ι × Event)) : Prop :=
  ∀ before i call fault? after, history = before ++ (i, .locked call fault?) :: after →
    fault? = call.fault? run before

/-- Whether an event is a step of a call to finalize in which it held the lock. -/
def Event.isFinalize : Event → Bool
  | .locked (.finalize _ _) _ => true
  | _ => false

theorem lawful_nil (run : Run) : Lawful run ([] : List (ι × Event)) := by
  intro before i call fault? after h
  simp at h

section Lawful

variable {run : Run} {history : List (ι × Event)} {i : ι}

theorem Lawful.concat (h : Lawful run history) {event : Event}
    (hevent : ∀ call fault?, event = .locked call fault? → fault? = call.fault? run history) :
    Lawful run (history ++ [(i, event)]) := by
  intro before j call fault? after heq
  -- the event in question is the new one, or one of those before it
  rcases List.eq_nil_or_concat after with rfl | ⟨after, last, rfl⟩
  · obtain ⟨rfl, hlast⟩ := List.append_inj' heq rfl
    exact hevent call fault? (Prod.mk.inj (List.cons.inj hlast).1).2
  · rw [List.concat_eq_append, ← List.cons_append, ← List.append_assoc] at heq
    exact h before j call fault? after (List.append_inj' heq rfl).1

/-- In a lawful history the ledger is closed as soon as any call to finalize has held the lock. -/
theorem Lawful.isClosedBy_append {before rest : List (ι × Event)} (h : Lawful run (before ++ rest))
    (hbefore : isClosedBy before = before.any fun e => e.2.isFinalize) :
    isClosedBy (before ++ rest) = (before ++ rest).any fun e => e.2.isFinalize := by
  induction rest generalizing before with
  | nil => rwa [List.append_nil]
  | cons e rest ih =>
    obtain ⟨i, event⟩ := e
    have hsplit : before ++ (i, event) :: rest = before ++ [(i, event)] ++ rest := by simp
    have hevent : (isClosedBy before || event.closes) = (isClosedBy before || event.isFinalize) := by
      cases hclosed : isClosedBy before with
      | true => rfl
      | false =>
        cases event with
        | saved record => rfl
        | locked call fault? =>
          cases call with
          | finish job result => rfl
          | finalize jobs skipped =>
            -- nothing closed the ledger before, so this call does
            have hfault := h before i _ fault? rest rfl
            rw [Call.fault?, hclosed] at hfault
            rw [hfault]
            rfl
    rw [hsplit] at h ⊢
    apply ih h
    rw [isClosedBy_concat, hevent, hbefore]
    simp

theorem Lawful.isClosedBy_eq {before rest : List (ι × Event)} (h : Lawful run (before ++ rest)) :
    isClosedBy before = before.any fun e => e.2.isFinalize := by
  have hprefix : Lawful run ([] ++ before) := by
    intro first j call fault? after heq
    refine h first j call fault? (after ++ rest) ?_
    rw [← List.nil_append before, heq, List.append_assoc, List.cons_append]
  exact hprefix.isClosedBy_append rfl

theorem Lawful.isClosedBy_iff (h : Lawful run history) :
    isClosedBy history = true ↔ ∃ e ∈ history, e.2.isFinalize = true := by
  have hlawful : Lawful run (history ++ []) := by rwa [List.append_nil]
  rw [hlawful.isClosedBy_eq, List.any_eq_true]

/-- The first call to finalize is let through, and no other one. -/
theorem Lawful.finalize_iff (h : Lawful run history) {before after : List (ι × Event)}
    {jobs : List Job} {skipped : Option (OrderedSet TypedPath)} {fault? : Option LedgerFault}
    (heq : history = before ++ (i, .locked (.finalize jobs skipped) fault?) :: after) :
    fault? = none ↔ ∀ e ∈ before, e.2.isFinalize = false := by
  have hfault := h before i _ fault? after heq
  rw [heq] at h
  rw [hfault, Call.fault?, h.isClosedBy_eq]
  cases hany : before.any fun e => e.2.isFinalize with
  | true =>
    obtain ⟨e, he, hfinalize⟩ := List.any_eq_true.1 hany
    refine ⟨fun hnone => (nomatch hnone), fun hall => ?_⟩
    rw [hall e he] at hfinalize
    cases hfinalize
  | false =>
    refine ⟨fun _ e he => ?_, fun _ => rfl⟩
    exact Bool.eq_false_iff.2 (List.any_eq_false.1 hany e he)

/-- A job that was let through is in the ledger with its result from then on. -/
theorem Lawful.firstResult?_eq (h : Lawful run history) {job : JobId} {result : JobResult}
    (hin : (i, .locked (.finish job result) none) ∈ history) :
    firstResult? history job = some result := by
  obtain ⟨before, after, rfl⟩ := List.append_of_mem hin
  have hfault := h before i _ none after rfl
  rw [Call.fault?] at hfault
  split at hfault
  next => cases hfault
  next =>
    split at hfault
    next => cases hfault
    next hnew =>
      have hnone : (accepted before).find? (fun entry => entry.1 == job) = none := by
        rw [firstResult?, Option.isSome_map] at hnew
        exact Option.not_isSome_iff_eq_none.1 hnew
      have haccepted : accepted (before ++ (i, .locked (.finish job result) none) :: after) =
          accepted before ++ (job, result) :: accepted after := by
        rw [accepted, List.filterMap_append]
        rfl
      rw [firstResult?, haccepted, List.find?_append, hnone]
      simp

end Lawful

namespace System

variable [DecidableEq ι] [Storage σ]

/-! ## How far the run has come -/

omit [DecidableEq ι] [Storage σ] in
/-- Nothing was saved, and nobody was told anything. -/
structure Untouched (storage : σ) (s : System ι σ) : Prop where
  saved : savedRecords s.history = []
  storage : s.storage = storage
  diagnostics : s.diagnostics = []

omit [DecidableEq ι] [Storage σ] in
/-- One thread, and no other, has a record to save, with the results that are in the ledger. -/
structure Pending (storage : σ) (i : ι) (jobs : List Job) (skipped : Option (OrderedSet TypedPath))
    (s : System ι σ) : Prop where
  snapshot : (s.threads i).snapshot? = some ⟨jobs, skipped, s.ledger.results⟩
  idle : ∀ j, j ≠ i → (s.threads j).snapshot? = none
  untouched : Untouched storage s

omit [DecidableEq ι] in
/-- One thread saved the record of the results that are in the ledger. No other record was saved, and none is
to be saved. -/
structure Recorded (run : Run) (storage : σ) (i : ι) (jobs : List Job)
    (skipped : Option (OrderedSet TypedPath)) (s : System ι σ) : Prop where
  idle : ∀ j, (s.threads j).snapshot? = none
  saved : ∃ record now, record = run.record (Storage.isRooted storage) s.ledger.results jobs skipped ∧
    (i, .saved record) ∈ s.history ∧ savedRecords s.history = [record] ∧
    s.storage = (run.save storage now record).storage ∧
    s.diagnostics = (run.save storage now record).diagnostic?.toList

omit [DecidableEq ι] in
/-- A run goes on until a call to finalize closes its ledger. From then on the thread that made the call has the
record to save, with the results as they were and will be; and after that nothing is left to do. -/
inductive Phase (run : Run) (storage : σ) (s : System ι σ) : Prop where
  | running (hopen : isClosedBy s.history = false) (hidle : ∀ i, (s.threads i).snapshot? = none)
      (huntouched : Untouched storage s)
  | closing (i : ι) (jobs : List Job) (skipped : Option (OrderedSet TypedPath))
      (hclosed : isClosedBy s.history = true)
      (hcall : (i, .locked (.finalize jobs skipped) none) ∈ s.history)
      (hpending : Pending storage i jobs skipped s)
  | ended (i : ι) (jobs : List Job) (skipped : Option (OrderedSet TypedPath))
      (hclosed : isClosedBy s.history = true)
      (hcall : (i, .locked (.finalize jobs skipped) none) ∈ s.history)
      (hrecorded : Recorded run storage i jobs skipped s)

/-- What holds after any turns. -/
structure Sound (run : Run) (storage : σ) (scripts : ι → List Call) (s : System ι σ) : Prop where
  /-- Every thread has made its calls in their order. -/
  program : ∀ i, scripts i = callsOf i s.history ++ (s.threads i).calls
  agrees : Agrees s.ledger s.history
  lawful : Lawful run s.history
  phase : Phase run storage s

omit [DecidableEq ι] in
theorem phase_initial (run : Run) (storage : σ) (scripts : ι → List Call) :
    Phase run storage (initial storage scripts) :=
  .running rfl (fun _ => rfl) ⟨rfl, rfl, rfl⟩

theorem sound_initial (run : Run) (storage : σ) (scripts : ι → List Call) :
    Sound run storage scripts (initial storage scripts) where
  program _ := rfl
  agrees := agrees_nil
  lawful := lawful_nil run
  phase := phase_initial run storage scripts

section Steps

variable {run : Run} {storage : σ} {s : System ι σ} {i : ι}

omit [Storage σ] in
theorem snapshot?_after_self (thread : Thread) (event : Event) :
    ((s.after i thread event).threads i).snapshot? = thread.snapshot? := by
  simp [after]

omit [Storage σ] in
theorem snapshot?_after_ne {j : ι} (h : j ≠ i) (thread : Thread) (event : Event) :
    ((s.after i thread event).threads j).snapshot? = (s.threads j).snapshot? := by
  simp [after, h]

omit [Storage σ] in
theorem Untouched.after (h : Untouched storage s) {thread : Thread} {event : Event}
    (hrecord : event.record? = none) {ledger : Ledger} :
    Untouched storage { s.after i thread event with ledger := ledger } where
  saved := by
    show savedRecords (s.history ++ [(i, event)]) = []
    rw [savedRecords_concat, h.saved, hrecord]
    rfl
  storage := h.storage
  diagnostics := h.diagnostics

/-- A step of a thread without a snapshot that neither closes the ledger nor saves anything, and leaves no
snapshot, changes nothing about how far the run has come. -/
theorem Phase.after (h : Phase run storage s) (hthread : (s.threads i).snapshot? = none)
    {calls : List Call} {event : Event} (hcloses : event.closes = false)
    (hrecord : event.record? = none) {ledger : Ledger}
    (hresults : isClosedBy s.history = true → ledger.results = s.ledger.results) :
    Phase run storage { s.after i ⟨calls, none⟩ event with ledger := ledger } := by
  have hclosed : isClosedBy (s.history ++ [(i, event)]) = isClosedBy s.history := by
    rw [isClosedBy_concat, hcloses, Bool.or_false]
  have hsnapshot : ∀ j, ((s.after i ⟨calls, none⟩ event).threads j).snapshot? =
      (s.threads j).snapshot? := by
    intro j
    by_cases hj : j = i
    · subst hj
      rw [snapshot?_after_self, hthread]
    · rw [snapshot?_after_ne hj]
  cases h with
  | running hopen hidle huntouched =>
    exact .running (hclosed.trans hopen) (fun j => (hsnapshot j).trans (hidle j)) (huntouched.after hrecord)
  | closing k jobs skipped hc hcall hpending =>
    refine .closing k jobs skipped (hclosed.trans hc) (List.mem_append_left _ hcall) ?_
    exact {
      snapshot := by
        show ((s.after i ⟨calls, none⟩ event).threads k).snapshot? = some ⟨jobs, skipped, ledger.results⟩
        rw [hsnapshot, hpending.snapshot, hresults hc]
      idle := fun j hj => (hsnapshot j).trans (hpending.idle j hj)
      untouched := hpending.untouched.after hrecord }
  | ended k jobs skipped hc hcall hrecorded =>
    obtain ⟨record, now, hr, hin, hrecords, hstorage, hquiet⟩ := hrecorded.saved
    have hsaved : savedRecords (s.history ++ [(i, event)]) = savedRecords s.history := by
      rw [savedRecords_concat, hrecord]
      simp
    refine .ended k jobs skipped (hclosed.trans hc) (List.mem_append_left _ hcall)
      ⟨fun j => (hsnapshot j).trans (hrecorded.idle j), record, now, ?_, List.mem_append_left _ hin,
        hsaved.trans hrecords, hstorage, hquiet⟩
    show record = run.record (Storage.isRooted storage) ledger.results jobs skipped
    rw [hresults hc]
    exact hr

/-- A thread that has a snapshot is the one that closed the ledger. -/
theorem Phase.of_snapshot (h : Phase run storage s) {snapshot : Snapshot}
    (hthread : (s.threads i).snapshot? = some snapshot) :
    isClosedBy s.history = true ∧
      (i, .locked (.finalize snapshot.jobs snapshot.skipped) none) ∈ s.history ∧
      Pending storage i snapshot.jobs snapshot.skipped s := by
  cases h with
  | running _ hidle => exact absurd ((hidle i).symm.trans hthread) (by simp)
  | ended _ _ _ _ _ hrecorded => exact absurd ((hrecorded.idle i).symm.trans hthread) (by simp)
  | closing k jobs skipped hclosed hcall hpending =>
    have hi : i = k := Decidable.byContradiction fun hne =>
      absurd ((hpending.idle i hne).symm.trans hthread) (by simp)
    subst hi
    obtain rfl := Option.some.inj (hpending.snapshot.symm.trans hthread)
    exact ⟨hclosed, hcall, hpending⟩

/-- A call to finalize that closes the ledger leaves a record to save. -/
theorem Phase.close (h : Phase run storage s) (hopen : isClosedBy s.history = false)
    {calls : List Call} {jobs : List Job} {skipped : Option (OrderedSet TypedPath)} {ledger : Ledger} :
    Phase run storage { s.after i ⟨calls, some ⟨jobs, skipped, ledger.results⟩⟩
      (.locked (.finalize jobs skipped) none) with ledger := ledger } := by
  cases h with
  | running _ hidle huntouched =>
    let event : Event := .locked (.finalize jobs skipped) none
    refine .closing i jobs skipped ?_ (List.mem_append_right _ (List.mem_singleton.2 rfl)) {
      snapshot := snapshot?_after_self _ event
      idle := fun j hj => (snapshot?_after_ne hj _ event).trans (hidle j)
      untouched := huntouched.after rfl }
    show isClosedBy (s.history ++ [(i, _)]) = true
    rw [isClosedBy_concat]
    exact Bool.or_true _
  | closing _ _ _ hclosed => exact absurd (hopen.symm.trans hclosed) Bool.false_ne_true
  | ended _ _ _ hclosed => exact absurd (hopen.symm.trans hclosed) Bool.false_ne_true

/-- The thread that has the record to save saves it as soon as it is its turn. -/
theorem Pending.advance {jobs : List Job} {skipped : Option (OrderedSet TypedPath)}
    (h : Pending storage i jobs skipped s) (now : Instant) :
    Recorded run storage i jobs skipped (s.advance run (i, now)) := by
  obtain ⟨hsaved, hstorage, hquiet⟩ := h.untouched
  let record := s.recordOf run ⟨jobs, skipped, s.ledger.results⟩
  have hthread : s.threads i = ⟨(s.threads i).calls, some ⟨jobs, skipped, s.ledger.results⟩⟩ := by
    rw [← h.snapshot]
  have hstep : s.advance run (i, now) = { s.after i ⟨(s.threads i).calls, none⟩ (.saved record) with
      storage := (run.save s.storage now record).storage
      diagnostics := s.diagnostics ++ (run.save s.storage now record).diagnostic?.toList } := by
    rw [System.advance, hthread]
  rw [hstep]
  refine ⟨fun j => ?_, record, now, ?_, List.mem_append_right _ (List.mem_singleton.2 rfl), ?_, ?_, ?_⟩
  · by_cases hj : j = i
    · subst hj
      exact snapshot?_after_self _ (.saved record)
    · exact (snapshot?_after_ne hj _ (.saved record)).trans (h.idle j hj)
  · show s.recordOf run _ = _
    rw [recordOf, hstorage]
    rfl
  · show savedRecords (s.history ++ [(i, .saved record)]) = [record]
    rw [savedRecords_concat, hsaved]
    rfl
  · rw [← hstorage]
  · show s.diagnostics ++ _ = _
    rw [hquiet, hstorage, List.nil_append]

omit [Storage σ] in
/-- Every thread has made its calls in their order, whichever of them makes a step. -/
theorem program_after {scripts : ι → List Call}
    (h : ∀ j, scripts j = callsOf j s.history ++ (s.threads j).calls) {thread : Thread} {event : Event}
    (hthread : (s.threads i).calls = event.call?.toList ++ thread.calls) (j : ι) :
    scripts j = callsOf j (s.after i thread event).history ++
      ((s.after i thread event).threads j).calls := by
  show scripts j = callsOf j (s.history ++ [(i, event)]) ++ (if j = i then thread else s.threads j).calls
  rw [callsOf_concat, h j]
  by_cases hj : j = i
  · subst hj
    rw [if_pos rfl, if_pos rfl, hthread, List.append_assoc]
  · rw [if_neg (Ne.symm hj), if_neg hj, List.append_nil]

theorem Sound.advance {scripts : ι → List Call} (h : Sound run storage scripts s)
    (turn : ι × Instant) : Sound run storage scripts (s.advance run turn) := by
  obtain ⟨i, now⟩ := turn
  rcases advance_cases run s i now with ⟨calls, snapshot, hthread, heq⟩ |
    ⟨call, calls, ledger, hthread, hcall, heq⟩ | ⟨call, calls, fault, hthread, hcall, heq⟩ | ⟨-, heq⟩
  · have hsnapshot : (s.threads i).snapshot? = some snapshot := by rw [hthread]
    have hcalls : (s.threads i).calls = calls := by rw [hthread]
    obtain ⟨hclosed, hcall, hpending⟩ := h.phase.of_snapshot hsnapshot
    have hrecorded : Recorded run storage i snapshot.jobs snapshot.skipped (s.advance run (i, now)) :=
      hpending.advance now
    rw [heq] at hrecorded ⊢
    refine {
      program := program_after h.program hcalls
      agrees := h.agrees.concat rfl rfl
      lawful := h.lawful.concat fun call fault? hevent => nomatch hevent
      phase := .ended i _ _ ?_ (List.mem_append_left _ hcall) hrecorded }
    show isClosedBy (s.history ++ [(i, _)]) = true
    rw [isClosedBy_concat, hclosed]
    rfl
  · have hsnapshot : (s.threads i).snapshot? = none := by rw [hthread]
    have hcalls : (s.threads i).calls = call :: calls := by rw [hthread]
    obtain ⟨hfault, hopen, hagrees⟩ := h.agrees.entered hcall
    rw [heq]
    refine {
      program := program_after h.program hcalls
      agrees := hagrees
      lawful := h.lawful.concat fun c fault? hevent => ?_
      phase := ?_ }
    · obtain ⟨rfl, rfl⟩ := Event.locked.inj hevent
      exact hfault.symm
    · cases call with
      | finish job result =>
        exact h.phase.after hsnapshot rfl rfl fun hclosed =>
          absurd (hopen.symm.trans hclosed) Bool.false_ne_true
      | finalize jobs skipped => exact h.phase.close hopen
  · have hsnapshot : (s.threads i).snapshot? = none := by rw [hthread]
    have hcalls : (s.threads i).calls = call :: calls := by rw [hthread]
    have hcloses : (Event.locked call (some fault)).closes = false := by cases call <;> rfl
    have haccepted : (Event.locked call (some fault)).accepted? = none := by cases call <;> rfl
    rw [heq]
    refine {
      program := program_after h.program hcalls
      agrees := h.agrees.concat haccepted hcloses
      lawful := h.lawful.concat fun c fault? hevent => ?_
      phase := h.phase.after hsnapshot hcloses rfl fun _ => rfl }
    obtain ⟨rfl, rfl⟩ := Event.locked.inj hevent
    exact (h.agrees.refused hcall).symm
  · rw [heq]
    exact h

theorem sound_run {scripts : ι → List Call} (h : Sound run storage scripts s)
    (turns : List (ι × Instant)) : Sound run storage scripts (s.run run turns) := by
  induction turns generalizing s with
  | nil => exact h
  | cons turn turns ih => exact ih (h.advance turn)

end Steps

/-! ## What has become of the record -/

section Sound

variable {run : Run} {storage : σ} {scripts : ι → List Call} {s : System ι σ}

theorem Sound.untouched (h : Sound run storage scripts s) (hnone : ∀ e ∈ s.history, e.2.isFinalize = false) :
    (∀ i, (s.threads i).snapshot? = none) ∧ Untouched storage s := by
  have hopen : isClosedBy s.history ≠ true := by
    intro hclosed
    obtain ⟨e, he, hfinalize⟩ := h.lawful.isClosedBy_iff.1 hclosed
    rw [hnone e he] at hfinalize
    cases hfinalize
  cases h.phase with
  | running _ hidle huntouched => exact ⟨hidle, huntouched⟩
  | closing _ _ _ hclosed => exact absurd hclosed hopen
  | ended _ _ _ hclosed => exact absurd hclosed hopen

theorem Sound.exists_finalized (h : Sound run storage scripts s) (hsome : ∃ e ∈ s.history, e.2.isFinalize = true) :
    ∃ i jobs skipped, (i, .locked (.finalize jobs skipped) none) ∈ s.history ∧
      (Pending storage i jobs skipped s ∨ Recorded run storage i jobs skipped s) := by
  cases h.phase with
  | running hopen => exact absurd (hopen.symm.trans (h.lawful.isClosedBy_iff.2 hsome)) Bool.false_ne_true
  | closing i jobs skipped _ hcall hpending => exact ⟨i, jobs, skipped, hcall, .inl hpending⟩
  | ended i jobs skipped _ hcall hrecorded => exact ⟨i, jobs, skipped, hcall, .inr hrecorded⟩

/-- A saved record has the results of the ledger. -/
theorem Sound.results_of_saved (h : Sound run storage scripts s) {record : BuildRecord}
    (hrecord : record ∈ savedRecords s.history) : record.results = s.ledger.results := by
  cases h.phase with
  | running _ _ huntouched => exact nomatch huntouched.saved ▸ hrecord
  | closing _ _ _ _ _ hpending => exact nomatch hpending.untouched.saved ▸ hrecord
  | ended _ _ _ _ _ hrecorded =>
    obtain ⟨saved, now, hsaved, -, hrecords, -⟩ := hrecorded.saved
    rw [hrecords, List.mem_singleton] at hrecord
    rw [hrecord, hsaved]
    rfl

/-- A thread that is done has made all its calls. -/
theorem Sound.exists_event (h : Sound run storage scripts s) {i : ι} (hdone : (s.threads i).calls = [])
    {call : Call} (hcall : call ∈ scripts i) : ∃ fault?, (i, .locked call fault?) ∈ s.history := by
  rw [h.program i, hdone, List.append_nil] at hcall
  obtain ⟨⟨j, event⟩, hin, hmade⟩ := List.mem_filterMap.1 hcall
  dsimp only at hmade
  split at hmade
  next hj =>
    subst hj
    cases event with
    | locked made fault? =>
      obtain rfl : made = call := Option.some.inj hmade
      exact ⟨fault?, hin⟩
    | saved record => cases hmade
  next => cases hmade

theorem Sound.recorded_of_done (h : Sound run storage scripts s) (hdone : ∀ i, s.threads i = ⟨[], none⟩)
    (hcall : ∃ i jobs skipped, .finalize jobs skipped ∈ scripts i) :
    ∃ i jobs skipped, (i, .locked (.finalize jobs skipped) none) ∈ s.history ∧
      Recorded run storage i jobs skipped s := by
  obtain ⟨k, planned, left, hplanned⟩ := hcall
  obtain ⟨fault?, hin⟩ := h.exists_event (by rw [hdone k]) hplanned
  obtain ⟨i, jobs, skipped, hclosing, hpending | hrecorded⟩ := h.exists_finalized ⟨_, hin, rfl⟩
  · have hsnapshot := hpending.snapshot
    rw [hdone i] at hsnapshot
    cases hsnapshot
  · exact ⟨i, jobs, skipped, hclosing, hrecorded⟩

end Sound

/-! ## Any interleaving -/

/-- A refused call changes neither the ledger nor the storage, and nobody is told. -/
theorem advance_refused {run : Run} {s : System ι σ} {i : ι} {now : Instant} {call : Call}
    {fault : LedgerFault}
    (h : (s.advance run (i, now)).history = s.history ++ [(i, .locked call (some fault))]) :
    (s.advance run (i, now)).ledger = s.ledger ∧ (s.advance run (i, now)).storage = s.storage ∧
      (s.advance run (i, now)).diagnostics = s.diagnostics := by
  have hevent {event : Event} (heq : s.history ++ [(i, event)] =
      s.history ++ [(i, .locked call (some fault))]) : event = .locked call (some fault) :=
    (Prod.mk.inj (List.cons.inj (List.append_cancel_left heq)).1).2
  rcases advance_cases run s i now with ⟨calls, snapshot, -, heq⟩ | ⟨made, calls, ledger, -, -, heq⟩ |
    ⟨made, calls, fault, -, -, heq⟩ | ⟨-, heq⟩
  · rw [heq] at h
    exact nomatch hevent h
  · rw [heq] at h
    exact nomatch (Event.locked.inj (hevent h)).2
  · rw [heq]
    exact ⟨rfl, rfl, rfl⟩
  · rw [heq]
    exact ⟨rfl, rfl, rfl⟩

/-- A thread that has something to call and nothing to save makes its next call when it is its turn. -/
theorem advance_call {run : Run} {s : System ι σ} {i : ι} {call : Call} {calls : List Call}
    (h : s.threads i = ⟨call :: calls, none⟩) (now : Instant) :
    ∃ fault?, (s.advance run (i, now)).history = s.history ++ [(i, .locked call fault?)] := by
  rw [advance, h]
  cases hcall : call.enter run s.ledger with
  | ok ledger => exact ⟨none, by simp only [hcall]; rfl⟩
  | error fault => exact ⟨some fault, by simp only [hcall]; rfl⟩

/-- Whatever turns any number of threads take:

* each thread makes its calls in their order, the next one when it is its turn and it has nothing to save;
* the ledger holds the first result that was entered for each job, and nothing else;
* a job is entered exactly if no call to finalize has held the lock and it is new, and otherwise refused, for
  being too late rather than for being there already;
* of the calls to finalize exactly the first one is let through;
* a refused call changes nothing;
* as long as no call to finalize has held the lock, nothing is to be saved and nothing was;
* from then on, the thread whose call was let through has the record of what is in the ledger to save, and nothing
  is written or told, or it has saved this record, and that is all that was written and told;
* a record that is to be saved is saved when it is the turn of its thread, and a call to finalize that is not
  interrupted does what it does in a run without threads;
* when all threads are done, and one of them was to finalize the run, one record was saved;
* every job that was reported has its result in the ledger and in the record, or its call was refused. -/
theorem ledger_interleaved (run : Run) (storage : σ) (scripts : ι → List Call)
    (turns : List (ι × Instant)) :
    let s := (initial storage scripts).run run turns
    (∀ i, scripts i = callsOf i s.history ++ (s.threads i).calls) ∧
    (∀ i call calls, s.threads i = ⟨call :: calls, none⟩ → ∀ now,
      ∃ fault?, (s.advance run (i, now)).history = s.history ++ [(i, .locked call fault?)]) ∧
    (∀ job, s.ledger.results.get? job = firstResult? s.history job) ∧
    (∀ before i job result fault? after,
      s.history = before ++ (i, .locked (.finish job result) fault?) :: after →
        fault? = if before.any (fun e => e.2.isFinalize) then some (.finishedTooLate job)
          else if (firstResult? before job).isSome then some (.finishedTwice job) else none) ∧
    (∀ before i jobs skipped fault? after,
      s.history = before ++ (i, .locked (.finalize jobs skipped) fault?) :: after →
        (fault? = none ↔ ∀ e ∈ before, e.2.isFinalize = false) ∧
        (fault? ≠ none → fault? = some (.closedTwice run.recordPath))) ∧
    (∀ i now call fault,
      (s.advance run (i, now)).history = s.history ++ [(i, .locked call (some fault))] →
        (s.advance run (i, now)).ledger = s.ledger ∧ (s.advance run (i, now)).storage = s.storage ∧
          (s.advance run (i, now)).diagnostics = s.diagnostics) ∧
    ((∀ e ∈ s.history, e.2.isFinalize = false) →
      (∀ i, (s.threads i).snapshot? = none) ∧ Untouched storage s) ∧
    ((∃ e ∈ s.history, e.2.isFinalize = true) →
      ∃ i jobs skipped, (i, .locked (.finalize jobs skipped) none) ∈ s.history ∧
        (Pending storage i jobs skipped s ∨ Recorded run storage i jobs skipped s)) ∧
    (∀ i jobs skipped, Pending storage i jobs skipped s →
      ∀ now, Recorded run storage i jobs skipped (s.advance run (i, now))) ∧
    (∀ i jobs skipped calls now closed saved, s.threads i = ⟨.finalize jobs skipped :: calls, none⟩ →
      run.finalize s.ledger s.storage now jobs skipped = .ok (closed, saved) →
        let t := s.run run [(i, now), (i, now)]
        t.ledger = closed ∧ t.storage = saved.storage ∧
          t.diagnostics = s.diagnostics ++ saved.diagnostic?.toList) ∧
    ((∀ i, s.threads i = ⟨[], none⟩) → (∃ i jobs skipped, .finalize jobs skipped ∈ scripts i) →
      ∃ i jobs skipped, (i, .locked (.finalize jobs skipped) none) ∈ s.history ∧
        Recorded run storage i jobs skipped s) ∧
    (∀ i job result fault?, (i, .locked (.finish job result) fault?) ∈ s.history →
      (fault? = none ∧ s.ledger.results.get? job = some result ∧
        ∀ record ∈ savedRecords s.history, record.results.get? job = some result) ∨
      ∃ fault, fault? = some fault) := by
  intro s
  have hsound : Sound run storage scripts s := sound_run (sound_initial run storage scripts) turns
  refine ⟨hsound.program, fun i call calls => advance_call, hsound.agrees.results, ?finish, ?finalize,
    fun i now call fault => advance_refused, hsound.untouched, hsound.exists_finalized,
    fun i jobs skipped h now => h.advance now, fun i jobs skipped calls now closed saved => advance_finalize,
    hsound.recorded_of_done, ?kept⟩
  case finish =>
    intro before i job result fault? after heq
    have hfault := hsound.lawful before i _ fault? after heq
    have hlawful := hsound.lawful
    rw [heq] at hlawful
    rwa [Call.fault?, hlawful.isClosedBy_eq] at hfault
  case finalize =>
    intro before i jobs skipped fault? after heq
    refine ⟨hsound.lawful.finalize_iff heq, fun hne => ?_⟩
    have hfault := hsound.lawful before i _ fault? after heq
    rw [Call.fault?] at hfault
    split at hfault
    · exact hfault
    · exact absurd hfault hne
  case kept =>
    intro i job result fault? hin
    cases fault? with
    | some fault => exact .inr ⟨fault, rfl⟩
    | none =>
      have hfirst := hsound.lawful.firstResult?_eq hin
      rw [← hsound.agrees.results] at hfirst
      refine .inl ⟨rfl, hfirst, fun record hrecord => ?_⟩
      rw [hsound.results_of_saved hrecord, hfirst]

end System

end CompilerDriver.Incremental
