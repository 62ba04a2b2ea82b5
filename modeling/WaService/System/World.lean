import WaService.Api.Routes
import WaService.Worker.Outbox
import WaService.Worker.Poll
import WaService.Worker.Session

/-!
# The service as a whole

The database and the task queue, under webhook requests, calls of the API, task
executions and the two periodic tasks. A task runs only from a stored job, and the
queue may deliver a job again after the task has run. Every step names what it meets
outside the program: generated ids, the clock, the answers of other services.
-/

namespace WaService

/-- The database, and the jobs in the queue. -/
structure World where
  db : Db
  jobs : List Job

/-- One execution of a task, with the arguments of its job. -/
inductive Execution where
  | processInboxRow (inboxId : Nat) (inp : InboxInput)
  | fetchAndStoreFile (args : FetchJob) (calls : FileCalls)
  | pollDiDocument (args : PollJob) (calls : PollCalls)
  | processSession (sessionId : UUID) (inp : SessionInput)

/-- The job that an execution takes from the queue. -/
def Execution.job : Execution → Job
  | .processInboxRow inboxId _ => .processInboxRow inboxId
  | .fetchAndStoreFile args _ => .fetchAndStoreFile args
  | .pollDiDocument args _ => .pollDiDocument args
  | .processSession sessionId _ => .processSession sessionId

/-- What the execution leaves behind. -/
def Execution.result (env : Env) (db : Db) : Execution → TaskResult
  | .processInboxRow inboxId inp => WaService.processInboxRow env db inp inboxId
  | .fetchAndStoreFile args calls => WaService.fetchAndStoreFile db calls args
  | .pollDiDocument args calls => WaService.pollDiDocument env db calls args
  | .processSession sessionId inp => WaService.processSession env db inp sessionId

/-- One step of the service. -/
inductive Action where
  | webhook (newId : Nat) (rawBody : List UInt8) (hubSignature : Option String) (dispatched : Bool)
  | api (inp : ApiInput) (tenantId : UUID) (op : Operation)
  | execute (e : Execution) (redelivered : Bool)
  | flush (now : Timestamp) (deferOk : Nat → Bool)
  | drain (calls : DrainCalls)

/-- The world after a task. -/
def World.afterTask (jobs : List Job) (r : TaskResult) : World := ⟨r.db, jobs ++ r.jobs⟩

/-- The steps of the service; an execution needs its job in the queue. -/
def worldStep (env : Env) (w : World) : Action → Option World
  | .webhook newId rawBody hubSignature dispatched =>
    let r := receiveWebhook env w.db newId rawBody hubSignature dispatched
    some ⟨r.db, w.jobs ++ r.jobs⟩
  | .api inp tenantId op => some ⟨(handle env w.db inp tenantId op).db, w.jobs⟩
  | .execute e redelivered =>
    if e.job ∈ w.jobs then
      some (.afterTask (if redelivered then w.jobs else w.jobs.erase e.job) (e.result env w.db))
    else none
  | .flush now deferOk => some (.afterTask w.jobs (flushReadySessions w.db now deferOk))
  | .drain calls => some ⟨(sendOutbox env w.db calls).1, w.jobs⟩

/-! ## What a step does -/

/-- The tables that only tasks and the flush write are as before. -/
structure LeavesWork (db db' : Db) : Prop where
  sessions : db'.sessions = db.sessions
  files : db'.files = db.files
  deals : db'.deals = db.deals
  reviewTasks : db'.reviewTasks = db.reviewTasks
  checklistItems : db'.checklistItems = db.checklistItems

/-- A step executes a task, claims sessions, or leaves the tables of the tasks alone. -/
theorem worldStep_cases {env : Env} {w w' : World} {a : Action} (h : worldStep env w a = some w') :
    LeavesWork w.db w'.db ∨
      (∃ now deferOk, a = .flush now deferOk ∧ w'.db = (claimSessionsForFlush w.db now 50).2) ∨
      ∃ e redelivered, a = .execute e redelivered ∧ w'.db = (e.result env w.db).db := by
  cases a with
  | webhook newId rawBody hubSignature dispatched =>
    cases h
    obtain ⟨inbox, hdb⟩ := receiveWebhook_frame env w.db newId rawBody hubSignature dispatched
    left
    simp only [hdb]
    exact ⟨rfl, rfl, rfl, rfl, rfl⟩
  | api inp tenantId op =>
    cases h
    left
    simp only
    rw [handle_tables env w.db inp tenantId op]
    exact ⟨rfl, rfl, rfl, rfl, rfl⟩
  | execute e redelivered =>
    simp only [worldStep] at h
    split at h
    · cases h
      exact Or.inr (Or.inr ⟨e, redelivered, rfl, rfl⟩)
    · contradiction
  | flush now deferOk =>
    cases h
    exact Or.inr (Or.inl ⟨now, deferOk, rfl, rfl⟩)
  | drain calls =>
    cases h
    obtain ⟨outbox, hdb⟩ := sendOutbox_frame env w.db calls
    left
    simp only [hdb]
    exact ⟨rfl, rfl, rfl, rfl, rfl⟩

end WaService
