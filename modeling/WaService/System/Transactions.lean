import WaService.Core.Processes
import WaService.System.World

/-!
# Tasks, transaction by transaction

Executions of the inbox task and of the DI poll advance by one transaction at a time, among each
other and among the other steps of the service. The session task is a single transaction. An
execution starts from a stored job, and the queue may deliver the job again.
-/

namespace WaService

open Python Relational Transition

/-- An execution of several transactions, with what it meets outside the program. -/
inductive TaskRun where
  | inbox (inboxId : Nat) (inp : InboxInput)
  | poll (job : PollJob) (calls : PollCalls)

/-- The execution as a whole. -/
def TaskRun.execution : TaskRun → Execution
  | .inbox inboxId inp => .processInboxRow inboxId inp
  | .poll job calls => .pollDiDocument job calls

/-- The transaction that is next. -/
inductive RunPhase where
  | waiting
  /-- The row is read; identity, session and messages are next. -/
  | opened (row : Inbox) (payload : Json)
  /-- `_mark_inbox` is next. -/
  | marking (state : InboxState)
  /-- The answer is persisted on the file; the `SELECT` of the session's deal is next. -/
  | typed (result : DiPollResult)
  /-- `mark_satisfied` is next. -/
  | satisfying (result : DiPollResult) (dealId : UUID)
  /-- The count of files without a type is next. -/
  | counting (result : DiPollResult)
  /-- The update of the flush timer is next. -/
  | nudging (result : DiPollResult)
  /-- The execution is over, with the terminal answer that a poll has worked off. -/
  | ended (result : Option DiPollResult)

/-- What a transaction leaves behind: the database, the jobs deferred, the next transaction. -/
structure TxStep where
  db : Db
  jobs : List Job
  phase : RunPhase

/-- The row of the inbox task is read. -/
def readInbox (env : Env) (db : Db) (inboxId : Nat) : TxStep :=
  match inboxRow db inboxId with
  | none => ⟨db, [], .ended none⟩
  | some row =>
    if row.signatureOk then
      match decodePayload env row.payload with
      | .error _ => ⟨db, [], .ended none⟩
      | .ok payload => ⟨db, [], .opened row payload⟩
    else ⟨db, [], .marking .ignored⟩

/-- Identity, session and messages; an exception rolls the transaction back. -/
def commitMessages (env : Env) (db : Db) (inp : InboxInput) (row : Inbox) (payload : Json) :
    TxStep :=
  match inboxTransaction env db inp row payload with
  | ⟨jobs, .ok db'⟩ => ⟨db', jobs, .marking .done⟩
  | ⟨jobs, .error (.routing _ _)⟩ => ⟨db, jobs, .marking .ignored⟩
  | ⟨jobs, .error (.python _)⟩ => ⟨db, jobs, .marking .failed⟩

theorem readInbox_db (env : Env) (db : Db) (inboxId : Nat) :
    (readInbox env db inboxId).db = db := by
  unfold readInbox
  split
  · rfl
  · split
    · split
      · rfl
      · rfl
    · rfl

theorem readInbox_jobs (env : Env) (db : Db) (inboxId : Nat) :
    (readInbox env db inboxId).jobs = [] := by
  unfold readInbox
  split
  · rfl
  · split
    · split
      · rfl
      · rfl
    · rfl

theorem commitMessages_jobs (env : Env) (db : Db) (inp : InboxInput) (row : Inbox)
    (payload : Json) :
    (commitMessages env db inp row payload).jobs =
      (inboxTransaction env db inp row payload).jobs := by
  unfold commitMessages
  rcases inboxTransaction env db inp row payload with ⟨jobs, (⟨reason, ignore⟩ | e) | db'⟩
  · rfl
  · rfl
  · rfl

/-- A terminal answer that a poll persists, with the columns that it writes. -/
def recordedAnswer (env : Env) (calls : PollCalls) (job : PollJob) :
    Option (DiPollResult × Option String × Json) :=
  match job.scheduleIn, calls.pollEvidenceStatus with
  | none, .ok result =>
    if result.isTerminal then
      match terminalFacts calls result with
      | none => none
      | some facts =>
        match sqlText env result.documentTypeKey, facts.storable with
        | .ok typeKey, true => some (result, typeKey, facts)
        | _, _ => none
    else none
  | _, _ => none

/-- The note under which a poll without such an answer parks its session. -/
def parkingNote (calls : PollCalls) (job : PollJob) : Option String :=
  let exhausted := decide (maxDiPollAttempts - 1 ≤ job.attempt)
  match job.scheduleIn, calls.pollEvidenceStatus with
  | none, .failed code retryable =>
    if !retryable || exhausted then some ("DI poll error: " ++ code) else none
  | none, .ok result =>
    if !result.isTerminal && exhausted then some "AWAITING_DI SLA exceeded" else none
  | _, _ => none

/-- A poll that persists an answer also satisfies the checklist and advances the flush timer. -/
theorem pollDiDocument_recorded {env : Env} (db : Db) {calls : PollCalls} {job : PollJob}
    {result : DiPollResult} {typeKey : Option String} {facts : Json}
    (h : recordedAnswer env calls job = some (result, typeKey, facts)) :
    pollDiDocument env db calls job =
      match satisfyLinkedDeal (recordType db job.fileId typeKey facts) calls.now job result with
      | .error _ => ⟨recordType db job.fileId typeKey facts, [], true⟩
      | .ok satisfied => ⟨nudgeFlush satisfied calls.now job.sessionId, [], false⟩ := by
  unfold recordedAnswer at h
  split at h
  · rename_i polled hfresh hpoll
    split at h
    · rename_i hterminal
      split at h
      · cases h
      · rename_i recorded hfacts
        split at h
        · rename_i key hkey hstorable
          cases h
          unfold pollDiDocument concludePoll
          cases hsatisfied : satisfyLinkedDeal (recordType db job.fileId typeKey facts)
              calls.now job result with
          | error e =>
            simp only [hfresh, hpoll, hterminal, if_true, hfacts, hkey, hstorable, hsatisfied]
          | ok satisfied =>
            simp only [hfresh, hpoll, hterminal, if_true, hfacts, hkey, hstorable, hsatisfied]
        · cases h
    · cases h
  · cases h

/-- A poll that persists no answer parks its session, or changes nothing. -/
theorem pollDiDocument_unrecorded {env : Env} (db : Db) {calls : PollCalls} {job : PollJob}
    (h : recordedAnswer env calls job = none) :
    (pollDiDocument env db calls job).db =
      match parkingNote calls job with
      | some note => parkOnDiSla db job.sessionId note
      | none => db := by
  unfold recordedAnswer at h
  unfold pollDiDocument parkingNote
  cases hfresh : job.scheduleIn with
  | some delay => rfl
  | none =>
    cases hpoll : calls.pollEvidenceStatus with
    | raised => rfl
    | failed code retryable =>
      simp only
      split
      · rfl
      · exact reschedulePoll_db db calls job
    | ok result =>
      simp only [hfresh, hpoll] at h
      simp only
      by_cases hterminal : result.isTerminal = true
      · simp only [hterminal, if_true, Bool.not_true, Bool.false_and, Bool.false_eq_true, if_false]
        rw [if_pos hterminal] at h
        unfold concludePoll
        split
        · rfl
        · rename_i facts hfacts
          simp only [hfacts] at h
          split
          · rename_i typeKey hkey hstorable
            simp only [hkey, hstorable] at h
            cases h
          · rfl
      · have hpending : result.isTerminal = false := by simpa using hterminal
        simp only [hpending, Bool.false_eq_true, if_false, Bool.not_false, Bool.true_and]
        split
        · rfl
        · exact reschedulePoll_db db calls job

/-- The answer names a type and confirms the document. -/
def DiPollResult.satisfies (result : DiPollResult) : Bool :=
  result.documentTypeKey.truthy && isConfirmed result.processingStatus

/-- The status request and the first transaction after it. -/
def persistAnswer (env : Env) (db : Db) (calls : PollCalls) (job : PollJob) : TxStep :=
  match recordedAnswer env calls job with
  | some (result, typeKey, facts) =>
    ⟨recordType db job.fileId typeKey facts, [],
      if result.satisfies then .typed result else .counting result⟩
  | none =>
    let r := pollDiDocument env db calls job
    ⟨r.db, r.jobs, .ended none⟩

/-- The deal of a session. -/
def dealOfSessionId (db : Db) (sessionId : UUID) : Option UUID :=
  (db.sessions.rows.find? fun s => s.id == sessionId).bind (·.dealId)

/-- One transaction of an execution. -/
def txStep (env : Env) (db : Db) : TaskRun → RunPhase → Option TxStep
  | .inbox inboxId _, .waiting => some (readInbox env db inboxId)
  | .inbox _ inp, .opened row payload => some (commitMessages env db inp row payload)
  | .inbox inboxId _, .marking state => some ⟨markInbox db inboxId state, [], .ended none⟩
  | .poll job calls, .waiting => some (persistAnswer env db calls job)
  | .poll job _, .typed result =>
    some ⟨db, [], match dealOfSessionId db job.sessionId with
      | some dealId => .satisfying result dealId
      | none => .counting result⟩
  | .poll job calls, .satisfying result dealId =>
    match selectText result.documentTypeKey with
    | .ok typeKey =>
      some ⟨markSatisfied db calls.now dealId typeKey job.evidenceId, [], .counting result⟩
    | .error _ => some ⟨db, [], .ended none⟩
  | .poll job _, .counting result =>
    some ⟨db, [],
      if (untypedFiles db job.sessionId).isEmpty then .nudging result else .ended (some result)⟩
  | .poll job calls, .nudging result =>
    some ⟨advanceFlush db calls.now job.sessionId, [], .ended (some result)⟩
  | _, _ => none

/-- The executions over one service. -/
abbrev TaskRuns (ι : Type) := Processes ι World RunPhase

/-- A transaction of an execution, or another step of the service. -/
inductive TxAction (ι : Type) where
  | transaction (i : ι) (redelivered : Bool)
  | other (a : Action)

/-- The step is not an execution of several transactions. -/
def Action.isSingle : Action → Bool
  | .execute (.processInboxRow _ _) _ | .execute (.pollDiDocument _ _) _ => false
  | _ => true

variable {ι : Type} [DecidableEq ι]

/-- The queue when a transaction begins: the first one takes its job. -/
def takeJob (jobs : List Job) (run : TaskRun) (redelivered : Bool) : RunPhase → Option (List Job)
  | .waiting =>
    if run.execution.job ∈ jobs then
      some (if redelivered then jobs else jobs.erase run.execution.job)
    else none
  | _ => some jobs

/-- The steps of the system. -/
def txSystemStep (env : Env) (runs : ι → TaskRun) (c : TaskRuns ι) :
    TxAction ι → Option (TaskRuns ι)
  | .transaction i redelivered => do
    let jobs ← takeJob c.shared.jobs (runs i) redelivered (c.phase i)
    let t ← txStep env c.shared.db (runs i) (c.phase i)
    return c.advance i ⟨t.db, jobs ++ t.jobs⟩ t.phase
  | .other a =>
    if a.isSingle then (worldStep env c.shared a).map fun w => ⟨w, c.phase⟩ else none

/-- The executions are about to start. -/
def taskRunsStart (w : World) : TaskRuns ι := ⟨w, fun _ => .waiting⟩

variable {env : Env} {runs : ι → TaskRun} {c : TaskRuns ι} {i : ι}

/-- A transaction that is not the first one of its execution is always possible. -/
theorem txSystemStep_later {t : TxStep} (hphase : c.phase i ≠ .waiting)
    (ht : txStep env c.shared.db (runs i) (c.phase i) = some t) :
    txSystemStep env runs c (.transaction i false) =
      some (c.advance i ⟨t.db, c.shared.jobs ++ t.jobs⟩ t.phase) := by
  have hjobs : takeJob c.shared.jobs (runs i) false (c.phase i) = some c.shared.jobs := by
    unfold takeJob
    split
    · exact absurd ‹_› hphase
    · rfl
  simp only [txSystemStep, hjobs, ht]
  rfl

end WaService
