import WaService.System.FileRuns
import WaService.System.Transactions

/-!
# A log of the terminal answers

Beside the service with its overlapping downloads, the log keeps the files whose poll has
received a terminal status, with or without a document type, and whether or not the rest
of the execution went through.
-/

namespace WaService

open Python Transition

/-- The terminal answer that an execution of the poll receives. -/
def terminalAnswer (calls : PollCalls) (job : PollJob) : Option DiPollResult :=
  match job.scheduleIn, calls.pollEvidenceStatus with
  | none, .ok result => if result.isTerminal then some result else none
  | _, _ => none

/-- A persisted answer is a terminal one. -/
theorem terminalAnswer_of_recorded {env : Env} {calls : PollCalls} {job : PollJob}
    {result : DiPollResult} {typeKey : Option String} {facts : Json}
    (h : recordedAnswer env calls job = some (result, typeKey, facts)) :
    terminalAnswer calls job = some result := by
  unfold recordedAnswer at h
  split at h
  · rename_i polled hfresh hpoll
    split at h
    · rename_i hterminal
      split at h
      · cases h
      · split at h
        · cases h
          simp only [terminalAnswer, hfresh, hpoll, hterminal, if_true]
        · cases h
    · cases h
  · cases h

/-- The service, and the files that have received a terminal answer. -/
structure PollLog where
  runs : FileRuns
  answered : List UUID

/-- The database of the service. -/
def PollLog.db (s : PollLog) : Db := s.runs.shared.world.db

/-- The file whose poll receives a terminal answer. -/
def answeredBy : FileRunAction → List UUID
  | .other (.execute (.pollDiDocument job calls) _) =>
    if (terminalAnswer calls job).isSome then [job.fileId] else []
  | _ => []

/-- The steps of the service with the log. -/
def pollLogStep (env : Env) (H : Hasher) (s : PollLog) (a : FileRunAction) : Option PollLog :=
  (fileRunStep env H s.runs a).map fun c => ⟨c, answeredBy a ++ s.answered⟩

/-- The service without files, and an empty log. -/
def pollLogStart (w : World) : PollLog :=
  ⟨fileRunStart ⟨{ w.db with files := .empty }, w.jobs⟩, []⟩

end WaService
