import WaService.Deal.Checklist
import WaService.Media.DiPoll
import WaService.Worker.File

/-!
# The DI poll

One execution of `poll_di_document` asks audit-core once. A terminal answer is
persisted on the file, satisfies the checklist of an already linked deal and, when
no stored file of the session waits for its type, advances the flush timer. Any
other answer defers the task again or parks the session.
-/

namespace WaService

open Python Relational

/-- `_MAX_DI_POLL_ATTEMPTS`. -/
def maxDiPollAttempts : Nat := 7

/-- `_DI_POLL_DELAYS`, in seconds. -/
def diPollDelays : List Nat := [3, 5, 8, 13, 21, 34, 55]

/-- The calls that one run of the poll task makes. -/
structure PollCalls where
  now : Timestamp
  pollEvidenceStatus : PollOutcome
  fetchBookingFields : FactsOutcome
  /-- The queue accepts the next poll. -/
  deferOk : Bool

/-- `status in ("CONFIRMED", "VERIFIED")`. -/
def isConfirmed (status : Json) : Bool := status.eqStr "CONFIRMED" || status.eqStr "VERIFIED"

/-- Defer the task again; the delay travels as a keyword argument of the task. -/
def reschedulePoll (db : Db) (calls : PollCalls) (job : PollJob) : TaskResult :=
  let delay := (diPollDelays[min job.attempt (diPollDelays.length - 1)]?).getD 0
  if calls.deferOk then
    ⟨db, [.pollDiDocument { job with attempt := job.attempt + 1, scheduleIn := some delay }], false⟩
  else ⟨db, [], true⟩

theorem reschedulePoll_db (db : Db) (calls : PollCalls) (job : PollJob) :
    (reschedulePoll db calls job).db = db := by
  unfold reschedulePoll
  simp only
  split
  · rfl
  · rfl

/-- The facts persisted with a terminal answer. -/
def terminalFacts (calls : PollCalls) (result : DiPollResult) : Option Json :=
  if result.documentTypeKey.eqStr "BOOKING_FORM" && isConfirmed result.processingStatus then
    match calls.fetchBookingFields with
    | .ok fields => some fields.rawFacts
    | .failed _ _ => some (.obj [])
    | .raised => none
  else some (.obj [])

/-- Persist document type and facts on the file. -/
def recordType (db : Db) (fileId : UUID) (typeKey : Option String) (facts : Json) : Db :=
  db.updateFiles (fun f => f.id == fileId)
    (fun f => { f with documentTypeKey := typeKey, diFacts := some facts })
    fun _ => ⟨rfl, rfl⟩

/-- Satisfy the checklist of the deal that the session is already linked to. -/
def satisfyLinkedDeal (db : Db) (now : Timestamp) (job : PollJob) (result : DiPollResult) :
    Except Error Db :=
  if result.documentTypeKey.truthy && isConfirmed result.processingStatus then
    match (db.sessions.rows.find? fun s => s.id == job.sessionId).bind (·.dealId) with
    | none => .ok db
    | some dealId => do
      let typeKey ← selectText result.documentTypeKey
      return markSatisfied db now dealId typeKey job.evidenceId
  else .ok db

theorem satisfyLinkedDeal_frame {db db' : Db} {now : Timestamp} {job : PollJob}
    {result : DiPollResult} (h : satisfyLinkedDeal db now job result = .ok db') :
    ∃ items, db' = { db with checklistItems := items } := by
  unfold satisfyLinkedDeal at h
  split at h
  · split at h
    · cases h
      exact ⟨_, rfl⟩
    · obtain ⟨typeKey, -, h⟩ := bind_eq_ok.mp h
      cases h
      exact ⟨_, rfl⟩
  · cases h
    exact ⟨_, rfl⟩

/-- Stored files of the session that have no document type. -/
def untypedFiles (db : Db) (sessionId : UUID) : List File :=
  db.files.rows.filter fun f => f.sessionId == sessionId && f.state == .stored &&
    f.documentTypeKey.isNone

/-- Advance the flush timer when every stored file of the session has its type. -/
def nudgeFlush (db : Db) (now : Timestamp) (sessionId : UUID) : Db :=
  if (untypedFiles db sessionId).isEmpty then advanceFlush db now sessionId else db

theorem nudgeFlush_frame (db : Db) (now : Timestamp) (sessionId : UUID) :
    ∃ sessions, nudgeFlush db now sessionId = { db with sessions := sessions } := by
  unfold nudgeFlush
  split
  · exact ⟨_, rfl⟩
  · exact ⟨_, rfl⟩

@[simp] theorem nudgeFlush_files (db : Db) (now : Timestamp) (sessionId : UUID) :
    (nudgeFlush db now sessionId).files = db.files := by
  obtain ⟨sessions, h⟩ := nudgeFlush_frame db now sessionId
  rw [h]

@[simp] theorem nudgeFlush_deals (db : Db) (now : Timestamp) (sessionId : UUID) :
    (nudgeFlush db now sessionId).deals = db.deals := by
  obtain ⟨sessions, h⟩ := nudgeFlush_frame db now sessionId
  rw [h]

@[simp] theorem nudgeFlush_items (db : Db) (now : Timestamp) (sessionId : UUID) :
    (nudgeFlush db now sessionId).checklistItems = db.checklistItems := by
  obtain ⟨sessions, h⟩ := nudgeFlush_frame db now sessionId
  rw [h]

/-- What follows a terminal answer: persist, satisfy, nudge, each in its own transaction. -/
def concludePoll (env : Env) (db : Db) (calls : PollCalls) (job : PollJob) (result : DiPollResult) :
    TaskResult :=
  match terminalFacts calls result with
  | none => ⟨db, [], true⟩
  | some facts =>
    match sqlText env result.documentTypeKey, facts.storable with
    | .ok typeKey, true =>
      let typed := recordType db job.fileId typeKey facts
      match satisfyLinkedDeal typed calls.now job result with
      | .error _ => ⟨typed, [], true⟩
      | .ok satisfied => ⟨nudgeFlush satisfied calls.now job.sessionId, [], false⟩
    | _, _ => ⟨db, [], true⟩

theorem concludePoll_jobs (env : Env) (db : Db) (calls : PollCalls) (job : PollJob)
    (result : DiPollResult) : (concludePoll env db calls job result).jobs = [] := by
  unfold concludePoll
  split
  · rfl
  · split
    · simp only
      split
      · rfl
      · rfl
    · rfl

/-- The database after a terminal answer: unchanged, with the type recorded, or also with the
checklist of the linked deal and the flush timer updated. -/
theorem concludePoll_cases (env : Env) (db : Db) (calls : PollCalls) (job : PollJob)
    (result : DiPollResult) :
    (concludePoll env db calls job result).db = db ∨
      ∃ typeKey facts,
        (concludePoll env db calls job result).db = recordType db job.fileId typeKey facts ∨
        ∃ satisfied, satisfyLinkedDeal (recordType db job.fileId typeKey facts) calls.now job
            result = .ok satisfied ∧
          (concludePoll env db calls job result).db =
            nudgeFlush satisfied calls.now job.sessionId := by
  unfold concludePoll
  split
  · exact Or.inl rfl
  · rename_i facts _
    split
    · rename_i typeKey _ _
      refine Or.inr ⟨typeKey, facts, ?_⟩
      simp only
      split
      · exact Or.inl rfl
      · rename_i satisfied hsatisfied
        exact Or.inr ⟨satisfied, hsatisfied, rfl⟩
    · exact Or.inl rfl

/-- `poll_di_document`. The task function has no parameter `schedule_in`, so a job
that carries one raises a `TypeError` when it is called. -/
def pollDiDocument (env : Env) (db : Db) (calls : PollCalls) (job : PollJob) : TaskResult :=
  match job.scheduleIn with
  | some _ => ⟨db, [], true⟩
  | none =>
    let exhausted := decide (maxDiPollAttempts - 1 ≤ job.attempt)
    match calls.pollEvidenceStatus with
    | .raised => ⟨db, [], true⟩
    | .failed code retryable =>
      if !retryable || exhausted then
        ⟨parkOnDiSla db job.sessionId ("DI poll error: " ++ code), [], false⟩
      else reschedulePoll db calls job
    | .ok result =>
      if result.isTerminal then concludePoll env db calls job result
      else if exhausted then
        ⟨parkOnDiSla db job.sessionId "AWAITING_DI SLA exceeded", [], false⟩
      else reschedulePoll db calls job

end WaService
