import WaService.System.Transactions

/-!
# An execution that runs alone

The transactions of an inbox task or of a poll, run without others between them, leave the
database and the queue that the execution leaves as a whole.
-/

namespace WaService

open Python Relational Transition

variable {env : Env} {db : Db} {run : TaskRun} {phase : RunPhase} {t : TxStep}

/-! ## What is left to do -/

/-- The terminal answer, once it is persisted. -/
def workedOff (db : Db) (calls : PollCalls) (job : PollJob) (result : DiPollResult) : Db :=
  match satisfyLinkedDeal db calls.now job result with
  | .error _ => db
  | .ok satisfied => nudgeFlush satisfied calls.now job.sessionId

/-- The transaction of `mark_satisfied` and what follows it. -/
def markedOff (db : Db) (calls : PollCalls) (job : PollJob) (result : DiPollResult)
    (dealId : UUID) : Db :=
  match selectText result.documentTypeKey with
  | .error _ => db
  | .ok typeKey =>
    nudgeFlush (markSatisfied db calls.now dealId typeKey job.evidenceId) calls.now job.sessionId

/-- What the transactions that are left do, without others between them. -/
def leftover (env : Env) (db : Db) : TaskRun → RunPhase → Db × List Job
  | run, .waiting => ((run.execution.result env db).db, (run.execution.result env db).jobs)
  | .inbox inboxId inp, .opened row payload =>
    match inboxTransaction env db inp row payload with
    | ⟨jobs, .ok db'⟩ => (markInbox db' inboxId .done, jobs)
    | ⟨jobs, .error (.routing _ _)⟩ => (markInbox db inboxId .ignored, jobs)
    | ⟨jobs, .error (.python _)⟩ => (markInbox db inboxId .failed, jobs)
  | .inbox inboxId _, .marking state => (markInbox db inboxId state, [])
  | .poll job calls, .typed result =>
    match dealOfSessionId db job.sessionId with
    | none => (nudgeFlush db calls.now job.sessionId, [])
    | some dealId => (markedOff db calls job result dealId, [])
  | .poll job calls, .satisfying result dealId => (markedOff db calls job result dealId, [])
  | .poll job calls, .counting _ => (nudgeFlush db calls.now job.sessionId, [])
  | .poll job calls, .nudging _ => (advanceFlush db calls.now job.sessionId, [])
  | _, _ => (db, [])

/-- The transaction does its part. -/
def DoesItsPart (env : Env) (db : Db) (run : TaskRun) (phase : RunPhase) (t : TxStep) : Prop :=
  leftover env db run phase =
    ((leftover env t.db run t.phase).1, t.jobs ++ (leftover env t.db run t.phase).2)

theorem readInbox_part (inboxId : Nat) (inp : InboxInput) :
    DoesItsPart env db (.inbox inboxId inp) .waiting (readInbox env db inboxId) := by
  unfold DoesItsPart
  simp only [leftover, TaskRun.execution, Execution.result, processInboxRow, readInbox]
  cases hrow : inboxRow db inboxId with
  | none => rfl
  | some row =>
    have hid : row.id = inboxId := by simpa using List.find?_some hrow
    simp only [processRow]
    by_cases hsigned : row.signatureOk = true
    · simp only [if_pos hsigned]
      cases hpayload : decodePayload env row.payload with
      | error e => rfl
      | ok payload =>
        simp only [hid, List.nil_append]
        rcases inboxTransaction env db inp row payload with ⟨jobs, (⟨reason, ignore⟩ | e) | db'⟩
        · rfl
        · rfl
        · rfl
    · simp only [if_neg hsigned, hid, List.nil_append]

theorem commitMessages_part (inboxId : Nat) (inp : InboxInput) (row : Inbox) (payload : Json) :
    DoesItsPart env db (.inbox inboxId inp) (.opened row payload)
      (commitMessages env db inp row payload) := by
  unfold DoesItsPart commitMessages
  simp only [leftover]
  rcases inboxTransaction env db inp row payload with ⟨jobs, (⟨reason, ignore⟩ | e) | db'⟩
  · simp
  · simp
  · simp

/-- A poll that persists its answer works it off. -/
theorem pollDiDocument_workedOff (db : Db) {calls : PollCalls} {job : PollJob}
    {result : DiPollResult} {typeKey : Option String} {facts : Json}
    (h : recordedAnswer env calls job = some (result, typeKey, facts)) :
    (pollDiDocument env db calls job).db =
        workedOff (recordType db job.fileId typeKey facts) calls job result ∧
      (pollDiDocument env db calls job).jobs = [] := by
  rw [pollDiDocument_recorded db h]
  unfold workedOff
  cases satisfyLinkedDeal (recordType db job.fileId typeKey facts) calls.now job result with
  | error e => exact ⟨rfl, rfl⟩
  | ok satisfied => exact ⟨rfl, rfl⟩

theorem workedOff_counting {calls : PollCalls} {job : PollJob} {result : DiPollResult}
    (h : result.satisfies = false) :
    workedOff db calls job result = nudgeFlush db calls.now job.sessionId := by
  unfold DiPollResult.satisfies at h
  unfold workedOff satisfyLinkedDeal
  simp only [h, Bool.false_eq_true, if_false]

theorem workedOff_typed (env : Env) {calls : PollCalls} {job : PollJob} {result : DiPollResult}
    (h : result.satisfies = true) :
    (workedOff db calls job result, []) = leftover env db (.poll job calls) (.typed result) := by
  unfold DiPollResult.satisfies at h
  unfold workedOff satisfyLinkedDeal
  simp only [h, if_true, leftover, dealOfSessionId]
  cases (db.sessions.rows.find? fun s => s.id == job.sessionId).bind (·.dealId) with
  | none => rfl
  | some dealId =>
    unfold markedOff
    cases selectText result.documentTypeKey with
    | error e => rfl
    | ok typeKey => rfl

theorem persistAnswer_part (job : PollJob) (calls : PollCalls) :
    DoesItsPart env db (.poll job calls) .waiting (persistAnswer env db calls job) := by
  unfold DoesItsPart
  cases hrecorded : recordedAnswer env calls job with
  | none =>
    have hstep : persistAnswer env db calls job = ⟨(pollDiDocument env db calls job).db,
        (pollDiDocument env db calls job).jobs, .ended none⟩ := by
      simp only [persistAnswer, hrecorded]
    rw [hstep]
    simp [leftover, TaskRun.execution, Execution.result]
  | some recorded =>
    obtain ⟨result, typeKey, facts⟩ := recorded
    obtain ⟨hdb, hjobs⟩ := pollDiDocument_workedOff db hrecorded
    have hstep : persistAnswer env db calls job = ⟨recordType db job.fileId typeKey facts, [],
        if result.satisfies then .typed result else .counting result⟩ := by
      simp only [persistAnswer, hrecorded]
    have hwhole : leftover env db (.poll job calls) .waiting =
        (workedOff (recordType db job.fileId typeKey facts) calls job result, []) := by
      simp only [leftover, TaskRun.execution, Execution.result, hdb, hjobs]
    rw [hstep, hwhole]
    cases hsatisfies : result.satisfies with
    | true => exact workedOff_typed env hsatisfies
    | false =>
      rw [workedOff_counting hsatisfies]
      rfl

/-- Every transaction of an execution does its part. -/
theorem txStep_part (h : txStep env db run phase = some t) : DoesItsPart env db run phase t := by
  cases run with
  | inbox inboxId inp =>
    cases phase with
    | waiting =>
      cases h
      exact readInbox_part inboxId inp
    | opened row payload =>
      cases h
      exact commitMessages_part inboxId inp row payload
    | marking state =>
      cases h
      rfl
    | typed | satisfying | counting | nudging | ended => cases h
  | poll job calls =>
    cases phase with
    | waiting =>
      cases h
      exact persistAnswer_part job calls
    | typed result =>
      cases h
      simp only [DoesItsPart, leftover]
      cases dealOfSessionId db job.sessionId with
      | none => rfl
      | some dealId => rfl
    | satisfying result dealId =>
      simp only [DoesItsPart, leftover, markedOff]
      simp only [txStep] at h
      cases hkey : selectText result.documentTypeKey with
      | error e =>
        rw [hkey] at h
        cases h
        rfl
      | ok typeKey =>
        rw [hkey] at h
        cases h
        rfl
    | counting result =>
      cases h
      simp only [DoesItsPart, leftover, nudgeFlush]
      by_cases hpolled : (untypedFiles db job.sessionId).isEmpty
      · simp only [if_pos hpolled]
        rfl
      · simp only [if_neg hpolled]
        rfl
    | nudging result =>
      cases h
      rfl
    | opened | marking | ended => cases h

/-! ## Alone to the end -/

/-- The transactions that may still come. -/
def RunPhase.toGo : RunPhase → Nat
  | .waiting => 5
  | .opened _ _ | .typed _ => 4
  | .satisfying _ _ => 3
  | .counting _ => 2
  | .marking _ | .nudging _ => 1
  | .ended _ => 0

/-- The phase is one of the task's. -/
def RunPhase.fits : TaskRun → RunPhase → Bool
  | .inbox _ _, .typed _ | .inbox _ _, .satisfying _ _ | .inbox _ _, .counting _
  | .inbox _ _, .nudging _ | .poll _ _, .opened _ _ | .poll _ _, .marking _ => false
  | _, _ => true

/-- A phase that is closer to the end is not the first one. -/
theorem RunPhase.begun_of_lt {later : RunPhase} (h : later.toGo < phase.toGo) :
    later ≠ .waiting := by
  rintro rfl
  have hle : phase.toGo ≤ 5 := by
    cases phase with
    | _ => simp [RunPhase.toGo]
  exact absurd (Nat.lt_of_lt_of_le h hle) (Nat.lt_irrefl 5)

/-- The first transaction of an inbox task. -/
theorem readInbox_leads (env : Env) (db : Db) (inboxId : Nat) (inp : InboxInput) :
    (readInbox env db inboxId).phase.fits (.inbox inboxId inp) = true ∧
      (readInbox env db inboxId).phase.toGo < 5 := by
  unfold readInbox
  split
  · exact ⟨rfl, by simp [RunPhase.toGo]⟩
  · split
    · split
      · exact ⟨rfl, by simp [RunPhase.toGo]⟩
      · exact ⟨rfl, by simp [RunPhase.toGo]⟩
    · exact ⟨rfl, by simp [RunPhase.toGo]⟩

theorem commitMessages_phase (env : Env) (db : Db) (inp : InboxInput) (row : Inbox)
    (payload : Json) : ∃ state, (commitMessages env db inp row payload).phase = .marking state := by
  unfold commitMessages
  split
  · exact ⟨_, rfl⟩
  · exact ⟨_, rfl⟩
  · exact ⟨_, rfl⟩

/-- The first transaction of a poll. -/
theorem persistAnswer_leads (env : Env) (db : Db) (calls : PollCalls) (job : PollJob) :
    (persistAnswer env db calls job).phase.fits (.poll job calls) = true ∧
      (persistAnswer env db calls job).phase.toGo < 5 := by
  unfold persistAnswer
  split
  · split
    · exact ⟨rfl, by simp [RunPhase.toGo]⟩
    · exact ⟨rfl, by simp [RunPhase.toGo]⟩
  · exact ⟨rfl, by simp [RunPhase.toGo]⟩

/-- An execution that is not over has a next transaction, which brings it closer to its end. -/
theorem txStep_progress (env : Env) (db : Db) (hfits : phase.fits run = true)
    (h : phase.toGo ≠ 0) :
    ∃ t, txStep env db run phase = some t ∧ t.phase.fits run = true ∧
      t.phase.toGo < phase.toGo := by
  cases run with
  | inbox inboxId inp =>
    cases phase with
    | waiting => exact ⟨_, rfl, readInbox_leads env db inboxId inp⟩
    | opened row payload =>
      obtain ⟨state, hstate⟩ := commitMessages_phase env db inp row payload
      refine ⟨_, rfl, ?_⟩
      rw [hstate]
      exact ⟨rfl, by simp [RunPhase.toGo]⟩
    | marking state => exact ⟨_, rfl, rfl, by simp [RunPhase.toGo]⟩
    | ended result => exact absurd rfl h
    | typed | satisfying | counting | nudging => cases hfits
  | poll job calls =>
    cases phase with
    | waiting => exact ⟨_, rfl, persistAnswer_leads env db calls job⟩
    | typed result =>
      refine ⟨_, rfl, ?_⟩
      cases dealOfSessionId db job.sessionId with
      | none => exact ⟨rfl, by simp [RunPhase.toGo]⟩
      | some dealId => exact ⟨rfl, by simp [RunPhase.toGo]⟩
    | satisfying result dealId =>
      simp only [txStep]
      cases selectText result.documentTypeKey with
      | error e => exact ⟨_, rfl, rfl, by simp [RunPhase.toGo]⟩
      | ok typeKey => exact ⟨_, rfl, rfl, by simp [RunPhase.toGo]⟩
    | counting result =>
      refine ⟨_, rfl, ?_⟩
      cases (untypedFiles db job.sessionId).isEmpty with
      | true => exact ⟨rfl, by simp [RunPhase.toGo]⟩
      | false => exact ⟨rfl, by simp [RunPhase.toGo]⟩
    | nudging result => exact ⟨_, rfl, rfl, by simp [RunPhase.toGo]⟩
    | ended result => exact absurd rfl h
    | opened | marking => cases hfits

variable {ι : Type} [DecidableEq ι] {runs : ι → TaskRun} {c : TaskRuns ι} {i : ι}

/-- The execution is over, and has left the database and the queue. -/
def EndsIn (i : ι) (w : World) (c : TaskRuns ι) : Prop := c.shared = w ∧ (c.phase i).toGo = 0

/-- The world when the transactions that are left have run. -/
def leftoverWorld (env : Env) (w : World) (run : TaskRun) (phase : RunPhase) : World :=
  ⟨(leftover env w.db run phase).1, w.jobs ++ (leftover env w.db run phase).2⟩

theorem leftover_ended (h : phase.toGo = 0) : leftover env db run phase = (db, []) := by
  cases phase with
  | ended result => rfl
  | _ => cases h

theorem DoesItsPart.world {w : World} (h : DoesItsPart env w.db run phase t) :
    leftoverWorld env ⟨t.db, w.jobs ++ t.jobs⟩ run t.phase = leftoverWorld env w run phase := by
  unfold leftoverWorld
  rw [h]
  simp

/-- An execution that has begun ends with what its transactions leave over. -/
theorem begun_alone (env : Env) (hfits : (c.phase i).fits (runs i) = true)
    (hbegun : (c.phase i) ≠ .waiting) :
    Reaches (txSystemStep env runs) c
      (EndsIn i (leftoverWorld env c.shared (runs i) (c.phase i))) := by
  -- Induction on the transactions that may still come.
  induction hn : (c.phase i).toGo using Nat.strong_induction_on generalizing c with
  | _ n ih =>
    by_cases hended : (c.phase i).toGo = 0
    · refine .here ⟨?_, hended⟩
      simp [leftoverWorld, leftover_ended hended]
    · obtain ⟨t, ht, hfit, hlt⟩ := txStep_progress env c.shared.db hfits hended
      let c' := c.advance i ⟨t.db, c.shared.jobs ++ t.jobs⟩ t.phase
      have hnext : c'.phase i = t.phase := Processes.advance_phase_self
      have hlater : t.phase ≠ .waiting := RunPhase.begun_of_lt hlt
      rw [← (txStep_part ht).world]
      refine .after (txSystemStep_later hbegun ht) ?_
      have hrest := ih t.phase.toGo (hn ▸ hlt) (c := c') (by rwa [hnext]) (by rwa [hnext])
        (by rw [hnext])
      rwa [hnext] at hrest

/-- An execution that runs alone leaves what it leaves as a whole. -/
theorem run_alone (env : Env) (hwaiting : c.phase i = .waiting)
    (hjob : (runs i).execution.job ∈ c.shared.jobs) :
    Reaches (txSystemStep env runs) c
      (EndsIn i (.afterTask (c.shared.jobs.erase (runs i).execution.job)
        ((runs i).execution.result env c.shared.db))) := by
  have hfits : (c.phase i).fits (runs i) = true := by
    rw [hwaiting]
    cases runs i with
    | _ => rfl
  obtain ⟨t, ht, hfit, hlt⟩ :=
    txStep_progress env c.shared.db hfits (by simp [hwaiting, RunPhase.toGo])
  have hstep : txSystemStep env runs c (.transaction i false) = some (c.advance i
      ⟨t.db, c.shared.jobs.erase (runs i).execution.job ++ t.jobs⟩ t.phase) := by
    simp only [txSystemStep, takeJob, hwaiting, if_pos hjob] at ht ⊢
    simp only [ht]
    rfl
  let c' := c.advance i ⟨t.db, c.shared.jobs.erase (runs i).execution.job ++ t.jobs⟩ t.phase
  have hnext : c'.phase i = t.phase := Processes.advance_phase_self
  have hrest := begun_alone env (c := c') (by rwa [hnext])
    (by rw [hnext]; exact RunPhase.begun_of_lt hlt)
  have hwhole : leftoverWorld env c'.shared (runs i) (c'.phase i) =
      .afterTask (c.shared.jobs.erase (runs i).execution.job)
        ((runs i).execution.result env c.shared.db) := by
    rw [hnext]
    have hpart := (txStep_part ht).world
      (w := ⟨c.shared.db, c.shared.jobs.erase (runs i).execution.job⟩)
    rw [hwaiting] at hpart
    exact hpart
  rw [hwhole] at hrest
  exact .after hstep hrest

end WaService
