import WaService.Core.Causes
import WaService.Correctness.IntakeJourney
import WaService.Correctness.PollMarks

/-!
# What puts a job into the queue

The queue of the service as a queue of jobs: a webhook request defers an inbox task, an
inbox task downloads, a download its poll, a poll the next one, and a flush session tasks.
-/

namespace WaService

open Python Relational Transition

/-- The jobs that a step defers. -/
def deferred (env : Env) (e : World × Action) : List Job :=
  match e.2 with
  | .webhook newId rawBody hubSignature dispatched =>
    (receiveWebhook env e.1.db newId rawBody hubSignature dispatched).jobs
  | .execute task _ => (task.result env e.1.db).jobs
  | .flush now deferOk => (flushReadySessions e.1.db now deferOk).jobs
  | .api _ _ _ => []
  | .drain _ => []

/-- The job that a step takes. -/
def Action.taken : Action → Option Job
  | .execute task _ => some task.job
  | _ => none

variable {env : Env} {w w' : World} {a : Action}

end WaService
