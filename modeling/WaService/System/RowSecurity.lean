import WaService.Core.Policy
import WaService.System.World

/-!
# The background tasks under row-level security

Sessions, files, outbox rows and deals are visible and writable only in a transaction that has set
`app.tenant_id` to their tenant, unless the role of the worker bypasses the policies. Every
transaction of the tasks is run with the setting that the task has made: none, but for the deal
that a poll satisfies and for the statements of `process_session` after its first `SELECT`.
-/

namespace WaService

open Python Relational

/-- The database role of the worker. -/
inductive Role where
  | bypassing
  | restricted
  deriving DecidableEq, Repr

/-- The policy: `tenant_id = current_setting('app.tenant_id', true)`. -/
def Role.sees (role : Role) (setting : Option UUID) (tenantId : UUID) : Bool :=
  match role with
  | .bypassing => true
  | .restricted => setting == some tenantId

/-- The database as the statements of a transaction see it. -/
def Db.visible (role : Role) (setting : Option UUID) (db : Db) : Db :=
  { db with
    deals := db.deals.visible fun d => role.sees setting d.tenantId
    sessions := db.sessions.visible fun s => role.sees setting s.tenantId
    files := db.files.visible fun f => role.sees setting f.tenantId
    outbox := db.outbox.visible fun o => role.sees setting o.tenantId }

/-- The database after a transaction that has left its view as `new`; an exception when a row is
written that the policy or a unique index refuses. -/
def Db.restore? (role : Role) (setting : Option UUID) (old new : Db) : Option Db := do
  let deals ← old.deals.restore? (fun d => role.sees setting d.tenantId) new.deals
  let sessions ← old.sessions.restore? (fun s => role.sees setting s.tenantId) new.sessions
  let files ← old.files.restore? (fun f => role.sees setting f.tenantId) new.files
  let outbox ← old.outbox.restore? (fun o => role.sees setting o.tenantId) new.outbox
  return { new with deals := deals, sessions := sessions, files := files, outbox := outbox }

/-- A transaction of updates, which keep tenants and unique keys and so are never refused. -/
def Db.under (role : Role) (setting : Option UUID) (f : Db → Db) (db : Db) : Db :=
  (db.restore? role setting (f (db.visible role setting))).getD db

/-! ## The download -/

/-- The store call and what follows it. -/
def storeFetchedAs (role : Role) (db : Db) (calls : FileCalls) (job : FetchJob) (journeyId : UUID)
    (row : File) (result : FetchResult) : TaskResult :=
  let storing := db.under role none (setFileState · job.fileId .storing)
  match calls.storeViaAuditCore ⟨job.tenantId, journeyId, row.wamid, job.sessionId, result.content,
      row.declaredName, result.mime⟩ with
  | .raised => ⟨storing, [], true⟩
  | .failed code _ => ⟨storing.under role none (failFile · job.fileId .failed code), [], false⟩
  | .ok evidenceId =>
    let stored := storing.under role none (recordStored · calls.now job.fileId result evidenceId)
    if calls.deferOk then
      ⟨stored, [.pollDiDocument ⟨job.fileId, job.sessionId, job.tenantId, journeyId, evidenceId, 0,
        none⟩], false⟩
    else ⟨stored, [], true⟩

/-- `fetch_and_store_file`. -/
def fetchAndStoreFileAs (role : Role) (db : Db) (calls : FileCalls) (job : FetchJob) : TaskResult :=
  match job.intakeJourneyId.or (sessionJourney (db.visible role none) job.sessionId) with
  | none => ⟨db.under role none (failWithoutJourney · job.fileId), [], false⟩
  | some journeyId =>
    match fileById (db.visible role none) job.fileId with
    | none => ⟨db, [], false⟩
    | some row =>
      let downloading := db.under role none (setFileState · job.fileId .downloading)
      match calls.fetchMedia ⟨row.mediaId, row.metaSha256, row.attempts⟩ with
      | .raised => ⟨downloading, [], true⟩
      | .failed code retryable quarantine =>
        let state := if quarantine then FileState.quarantined else .failed
        ⟨downloading.under role none (failFile · job.fileId state code), [], !retryable⟩
      | .ok result => storeFetchedAs role downloading calls job journeyId row result

/-! ## The poll -/

/-- Satisfy the checklist of the session's deal, in a transaction of the session's tenant. -/
def satisfyLinkedDealAs (role : Role) (db : Db) (now : Timestamp) (job : PollJob)
    (result : DiPollResult) : Except Error Db :=
  if result.documentTypeKey.truthy && isConfirmed result.processingStatus then
    match sessionById (db.visible role none) job.sessionId with
    | none => .ok db
    | some s =>
      match s.dealId with
      | none => .ok db
      | some dealId => do
        let typeKey ← selectText result.documentTypeKey
        return db.under role (some s.tenantId)
          (markSatisfied · now dealId typeKey job.evidenceId)
  else .ok db

/-- The count of untyped files, and the update of the flush timer. -/
def nudgeFlushAs (role : Role) (db : Db) (now : Timestamp) (sessionId : UUID) : Db :=
  if (untypedFiles (db.visible role none) sessionId).isEmpty then
    db.under role none (advanceFlush · now sessionId)
  else db

/-- What follows a terminal answer. -/
def concludePollAs (role : Role) (env : Env) (db : Db) (calls : PollCalls) (job : PollJob)
    (result : DiPollResult) : TaskResult :=
  match terminalFacts calls result with
  | none => ⟨db, [], true⟩
  | some facts =>
    match sqlText env result.documentTypeKey, facts.storable with
    | .ok typeKey, true =>
      let typed := db.under role none (recordType · job.fileId typeKey facts)
      match satisfyLinkedDealAs role typed calls.now job result with
      | .error _ => ⟨typed, [], true⟩
      | .ok satisfied => ⟨nudgeFlushAs role satisfied calls.now job.sessionId, [], false⟩
    | _, _ => ⟨db, [], true⟩

/-- `poll_di_document`. -/
def pollDiDocumentAs (role : Role) (env : Env) (db : Db) (calls : PollCalls) (job : PollJob) :
    TaskResult :=
  match job.scheduleIn with
  | some _ => ⟨db, [], true⟩
  | none =>
    let exhausted := decide (maxDiPollAttempts - 1 ≤ job.attempt)
    match calls.pollEvidenceStatus with
    | .raised => ⟨db, [], true⟩
    | .failed code retryable =>
      if !retryable || exhausted then
        ⟨db.under role none (parkOnDiSla · job.sessionId ("DI poll error: " ++ code)), [], false⟩
      else reschedulePoll db calls job
    | .ok result =>
      if result.isTerminal then concludePollAs role env db calls job result
      else if exhausted then
        ⟨db.under role none (parkOnDiSla · job.sessionId "AWAITING_DI SLA exceeded"), [], false⟩
      else reschedulePoll db calls job

/-! ## Sessions -/

/-- `flush_ready_sessions`. -/
def flushReadySessionsAs (role : Role) (db : Db) (now : Timestamp) (deferOk : Nat → Bool) :
    TaskResult :=
  let ids := (claimSessionsForFlush (db.visible role none) now 50).1
  let accepted := (ids.zipIdx.takeWhile fun p => deferOk p.2).map fun p => Job.processSession p.1
  ⟨db.under role none fun d => (claimSessionsForFlush d now 50).2, accepted,
    decide (accepted.length < ids.length)⟩

/-- `process_session`: the first `SELECT` finds the tenant that the rest of the transaction sets. -/
def processSessionAs (role : Role) (env : Env) (db : Db) (inp : SessionInput) (sessionId : UUID) :
    TaskResult :=
  match sessionById (db.visible role none) sessionId with
  | none => ⟨db, [], false⟩
  | some s =>
    let setting := some s.tenantId
    match sessionTransaction env (db.visible role setting) inp s with
    | .error _ => ⟨db, [], true⟩
    | .ok new =>
      match db.restore? role setting new with
      | some db' => ⟨db', [], false⟩
      | none => ⟨db, [], true⟩

/-! ## The outbox -/

/-- `mark_sent` or `mark_failed` after the answer of Meta. -/
def markOutcomeAs (role : Role) (env : Env) (db : Db) (now : Timestamp) (outboxId : Nat) :
    SendOutcome → Except Error Db
  | .ok wamid => do
    let text ← sqlText env wamid
    return db.under role none (markSent · now outboxId text)
  | .failed code _ retryable => do
    let text ← sqlText env (.str code)
    return db.under role none (markFailed · now outboxId text (!retryable))
  | .raised => .error .valueError

/-- Go through the claimed rows. -/
def drainRowsAs (role : Role) (env : Env) (calls : DrainCalls) : Db → List Outbox → Db × Bool
  | db, [] => (db, false)
  | db, row :: rest =>
    match planRow env db row with
    | .skip => drainRowsAs role env calls db rest
    | .refuse error =>
      drainRowsAs role env calls
        (db.under role none (markFailed · calls.now row.id (some error) true)) rest
    | .raise => (db, true)
    | .send call =>
      match markOutcomeAs role env db calls.now row.id (calls.client call) with
      | .ok db' => drainRowsAs role env calls db' rest
      | .error _ => (db, true)

/-- `send_outbox`. -/
def sendOutboxAs (role : Role) (env : Env) (db : Db) (calls : DrainCalls) : Db × Bool :=
  let rows := (claimPending (db.visible role none) calls.now calls.locked 20).1
  drainRowsAs role env calls
    (db.under role none fun d => (claimPending d calls.now calls.locked 20).2) rows

/-! ## The tasks -/

/-- An execution of a background task. -/
inductive BackgroundTask where
  | fetchAndStoreFile (args : FetchJob) (calls : FileCalls)
  | pollDiDocument (args : PollJob) (calls : PollCalls)
  | flushReadySessions (now : Timestamp) (deferOk : Nat → Bool)
  | processSession (sessionId : UUID) (inp : SessionInput)
  | sendOutbox (calls : DrainCalls)

/-- What the execution leaves behind when the worker connects with the role. -/
def BackgroundTask.result (role : Role) (env : Env) (db : Db) : BackgroundTask → TaskResult
  | .fetchAndStoreFile args calls => fetchAndStoreFileAs role db calls args
  | .pollDiDocument args calls => pollDiDocumentAs role env db calls args
  | .flushReadySessions now deferOk => flushReadySessionsAs role db now deferOk
  | .processSession sessionId inp => processSessionAs role env db inp sessionId
  | .sendOutbox calls =>
    let r := sendOutboxAs role env db calls
    ⟨r.1, [], r.2⟩

end WaService
