import WaService.System.InboxTasks
import WaService.Worker.File

/-!
# Jobs of uncommitted files

The inbox tasks, statement by statement, and the worker that executes the downloads which
they defer. A job can be executed as soon as it is deferred. An execution acts on the row
of its file when that is committed, and ends without an exception when it is not. An
exception of a statement or of the commit rolls the transaction back.
-/

namespace WaService

open Python Relational Transition

/-- A deferred download, with the task that deferred it. -/
abbrev OwnedJob := Nat × FetchJob

/-- The tasks, and the downloads that they defer. -/
structure FileJobs where
  tasks : InboxTasks
  /-- Every job deferred so far. -/
  deferred : List OwnedJob
  /-- The jobs in the queue. -/
  queue : List OwnedJob
  /-- The files whose row an execution of their job has seen. -/
  seen : List UUID
  /-- The tasks whose transaction has been rolled back. -/
  rolledBack : List Nat

/-- A statement of a task, an exception in its transaction, or an execution of a job. -/
inductive FileJobAction where
  | statement (a : TaskAction)
  | fail (i : Nat)
  | execute (e : OwnedJob) (redelivered : Bool)

/-- The transaction of the task is open. -/
def TaskPhase.inTransaction : TaskPhase → Bool
  | .searching _ | .creating _ | .counting _ _ | .joining _ _ _ _ | .looping _ _ _ => true
  | _ => false

/-- The phase after a rollback. -/
def TaskPhase.rolledBack : TaskPhase → Bool
  | .marking .failed | .marking .ignored => true
  | _ => false

/-- The arguments of a download. -/
def Job.fetchArgs : Job → Option FetchJob
  | .fetchAndStoreFile args => some args
  | _ => none

/-- The downloads that a statement has deferred. -/
def newDownloads (before after : List Job) : List FetchJob :=
  (after.drop before.length).filterMap Job.fetchArgs

/-- The tasks have gone on by a statement of the task `i`. -/
def FileJobs.next (c : FileJobs) (i : Nat) (tasks : InboxTasks) : FileJobs :=
  let jobs := (newDownloads c.tasks.shared.jobs tasks.shared.jobs).map fun job => (i, job)
  { tasks := tasks
    deferred := c.deferred ++ jobs
    queue := c.queue ++ jobs
    seen := c.seen
    rolledBack := if (tasks.phase i).rolledBack then i :: c.rolledBack else c.rolledBack }

/-- The lookup of an execution. -/
def FileJobs.lookup (c : FileJobs) (job : FetchJob) : List UUID :=
  match fileById c.tasks.shared.committed job.fileId with
  | some _ => job.fileId :: c.seen
  | none => c.seen

/-- The steps; an execution takes its job from the queue, unless the queue delivers it again. -/
def fileJobStep (env : Env) (c : FileJobs) : FileJobAction → Option FileJobs
  | .statement a => (taskStep env c.tasks a).map (c.next a.task)
  | .fail i =>
    if (c.tasks.phase i).inTransaction then some (c.next i (c.tasks.abort i)) else none
  | .execute e redelivered =>
    if e ∈ c.queue then
      some { c with
        queue := if redelivered then c.queue else c.queue.erase e
        seen := c.lookup e.2 }
    else none

/-- Tasks about to start, with no job deferred. -/
def fileJobStart (db : Db) : FileJobs := ⟨taskStart db, [], [], [], []⟩

/-- An execution that does not see its file changes nothing, defers nothing and does not
raise, so that it is not repeated. -/
theorem fetchAndStoreFile_unseen {db : Db} {job : FetchJob} (h : fileById db job.fileId = none)
    (calls : FileCalls) : fetchAndStoreFile db calls job = ⟨db, [], false⟩ := by
  have hnone : ∀ f ∈ db.files.rows, (f.id == job.fileId) = false := by
    intro f hf
    simpa using List.find?_eq_none.mp h f hf
  unfold fetchAndStoreFile
  split
  · unfold failWithoutJourney Db.updateFiles
    rw [Table.update_of_none hnone]
  · rw [h]

end WaService
