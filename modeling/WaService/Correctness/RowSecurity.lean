import WaService.Correctness.SettledTasks
import WaService.System.RowSecurity

/-!
# Tasks that see no row

None of the background tasks sets `app.tenant_id` before its first statement on a protected table,
and the value that it would set comes from such a table. Under the policies a task therefore finds
no session, no file and no outbox row. It has the effect that it has without them exactly when
everything it would write there is already as it would write it.
-/

namespace WaService

open Python Relational

variable {env : Env} {db db' : Db} {setting : Option UUID}

/-! ## A role that bypasses the policies -/

theorem bypassing_sees (setting : Option UUID) (tenantId : UUID) :
    Role.bypassing.sees setting tenantId = true := rfl

theorem visible_bypassing (setting : Option UUID) (db : Db) :
    db.visible .bypassing setting = db := by
  have hsees := bypassing_sees setting
  simp only [Db.visible, Table.visible_all fun d : Deal => hsees d.tenantId,
    Table.visible_all fun s : Session => hsees s.tenantId,
    Table.visible_all fun f : File => hsees f.tenantId,
    Table.visible_all fun o : Outbox => hsees o.tenantId]

theorem restore?_bypassing (setting : Option UUID) (old new : Db) :
    old.restore? .bypassing setting new = some new := by
  have hsees := bypassing_sees setting
  simp only [Db.restore?, Table.restore?_all fun d : Deal => hsees d.tenantId,
    Table.restore?_all fun s : Session => hsees s.tenantId,
    Table.restore?_all fun f : File => hsees f.tenantId,
    Table.restore?_all fun o : Outbox => hsees o.tenantId]
  rfl

theorem under_bypassing (setting : Option UUID) (f : Db → Db) (db : Db) :
    db.under .bypassing setting f = f db := by
  unfold Db.under
  rw [visible_bypassing, restore?_bypassing, Option.getD_some]

theorem storeFetchedAs_bypassing (calls : FileCalls) (job : FetchJob) (journeyId : UUID)
    (row : File) (result : FetchResult) :
    storeFetchedAs .bypassing db calls job journeyId row result =
      storeFetched db calls job journeyId row result := by
  simp only [storeFetchedAs, under_bypassing]
  rfl

theorem fetchAndStoreFileAs_bypassing (calls : FileCalls) (job : FetchJob) :
    fetchAndStoreFileAs .bypassing db calls job = fetchAndStoreFile db calls job := by
  simp only [fetchAndStoreFileAs, visible_bypassing, under_bypassing, storeFetchedAs_bypassing]
  rfl

theorem satisfyLinkedDealAs_bypassing (now : Timestamp) (job : PollJob) (result : DiPollResult) :
    satisfyLinkedDealAs .bypassing db now job result = satisfyLinkedDeal db now job result := by
  simp only [satisfyLinkedDealAs, satisfyLinkedDeal, visible_bypassing, under_bypassing,
    sessionById]
  cases db.sessions.rows.find? fun s => s.id == job.sessionId with
  | none => rfl
  | some s => rfl

theorem pollDiDocumentAs_bypassing (calls : PollCalls) (job : PollJob) :
    pollDiDocumentAs .bypassing env db calls job = pollDiDocument env db calls job := by
  simp only [pollDiDocumentAs, concludePollAs, nudgeFlushAs, visible_bypassing, under_bypassing,
    satisfyLinkedDealAs_bypassing]
  rfl

theorem flushReadySessionsAs_bypassing (now : Timestamp) (deferOk : Nat → Bool) :
    flushReadySessionsAs .bypassing db now deferOk = flushReadySessions db now deferOk := by
  simp only [flushReadySessionsAs, flushReadySessions, visible_bypassing, under_bypassing]

theorem processSessionAs_bypassing (inp : SessionInput) (sessionId : UUID) :
    processSessionAs .bypassing env db inp sessionId = processSession env db inp sessionId := by
  simp only [processSessionAs, processSession, visible_bypassing, restore?_bypassing]
  cases sessionById db sessionId with
  | none => rfl
  | some s =>
    simp only
    cases sessionTransaction env db inp s with
    | error e => rfl
    | ok new => rfl

theorem markOutcomeAs_bypassing (now : Timestamp) (outboxId : Nat) (outcome : SendOutcome) :
    markOutcomeAs .bypassing env db now outboxId outcome =
      markOutcome env db now outboxId outcome := by
  cases outcome with
  | _ => simp only [markOutcomeAs, markOutcome, under_bypassing]

theorem drainRowsAs_bypassing (calls : DrainCalls) (rows : List Outbox) :
    drainRowsAs .bypassing env calls db rows = drainRows env calls db rows := by
  induction rows generalizing db with
  | nil => rfl
  | cons row rest ih =>
    simp only [drainRowsAs, under_bypassing, markOutcomeAs_bypassing, ih]
    rfl

theorem sendOutboxAs_bypassing (calls : DrainCalls) :
    sendOutboxAs .bypassing env db calls = sendOutbox env db calls := by
  simp only [sendOutboxAs, sendOutbox, visible_bypassing, under_bypassing, drainRowsAs_bypassing]

/-! ## Updates under the policies -/

theorem restore?_visible (role : Role) (setting : Option UUID) (db : Db) :
    db.restore? role setting (db.visible role setting) = some db := by
  simp only [Db.restore?, Db.visible, Table.restore?_visible]
  rfl

/-- An update of sessions, which is never refused, has the policy in its predicate. -/
theorem under_updateSessions (role : Role) {p : Session → Bool} {f : Session → Session}
    (h : ∀ s, p s = true → (f s).id = s.id ∧ (f s).contactId = s.contactId ∧
      ((f s).state.isOpen = true → s.state.isOpen = true))
    (htenant : ∀ s, (f s).tenantId = s.tenantId) :
    db.under role setting (·.updateSessions p f h) =
      db.updateSessions (fun s => role.sees setting s.tenantId && p s) f
        fun s hs => h s (Bool.and_eq_true_iff.mp hs).2 := by
  simp only [Db.under, Db.restore?, Db.visible, Db.updateSessions, Table.restore?_visible]
  rw [Table.restore?_update _ fun s _ => by rw [htenant]]
  rfl

theorem under_updateFiles (role : Role) {p : File → Bool} {f : File → File}
    (h : ∀ r, (f r).id = r.id ∧ (f r).wamid = r.wamid)
    (htenant : ∀ r, (f r).tenantId = r.tenantId) :
    db.under role setting (·.updateFiles p f h) =
      db.updateFiles (fun r => role.sees setting r.tenantId && p r) f h := by
  simp only [Db.under, Db.restore?, Db.visible, Db.updateFiles, Table.restore?_visible]
  rw [Table.restore?_update _ fun r _ => by rw [htenant]]
  rfl

theorem under_updateOutbox (role : Role) {p : Outbox → Bool} {f : Outbox → Outbox}
    (h : ∀ o, (f o).id = o.id) (htenant : ∀ o, (f o).tenantId = o.tenantId) :
    db.under role setting (·.updateOutbox p f h) =
      db.updateOutbox (fun o => role.sees setting o.tenantId && p o) f h := by
  simp only [Db.under, Db.restore?, Db.visible, Db.updateOutbox, Table.restore?_visible]
  rw [Table.restore?_update _ fun o _ => by rw [htenant]]
  rfl

/-! ## A restricted role without a setting -/

/-- The database without its protected rows. -/
def Db.unprotected (db : Db) : Db :=
  { db with deals := .empty, sessions := .empty, files := .empty, outbox := .empty }

theorem visible_restricted (db : Db) : db.visible .restricted none = db.unprotected := by
  have hhides : ∀ tenantId, Role.restricted.sees none tenantId = false := fun _ => rfl
  simp only [Db.visible, Db.unprotected, Table.visible_none fun d : Deal => hhides d.tenantId,
    Table.visible_none fun s : Session => hhides s.tenantId,
    Table.visible_none fun f : File => hhides f.tenantId,
    Table.visible_none fun o : Outbox => hhides o.tenantId]

/-- Updates that find no visible row to change. -/
theorem under_restricted {f : Db → Db} (h : f db.unprotected = db.unprotected) :
    db.under .restricted none f = db := by
  unfold Db.under
  rw [visible_restricted, h, ← visible_restricted, restore?_visible, Option.getD_some]

theorem updateFiles_unprotected (p : File → Bool) (f : File → File)
    (h : ∀ r, (f r).id = r.id ∧ (f r).wamid = r.wamid) :
    db.unprotected.updateFiles p f h = db.unprotected := by
  unfold Db.updateFiles Db.unprotected
  rw [Table.update_of_none fun _ hr => absurd hr List.not_mem_nil]

theorem updateSessions_unprotected (p : Session → Bool) (f : Session → Session)
    (h : ∀ s, p s = true → (f s).id = s.id ∧ (f s).contactId = s.contactId ∧
      ((f s).state.isOpen = true → s.state.isOpen = true)) :
    db.unprotected.updateSessions p f h = db.unprotected := by
  unfold Db.updateSessions Db.unprotected
  rw [Table.update_of_none fun _ hs => absurd hs List.not_mem_nil]

theorem updateOutbox_unprotected (p : Outbox → Bool) (f : Outbox → Outbox)
    (h : ∀ o, (f o).id = o.id) : db.unprotected.updateOutbox p f h = db.unprotected := by
  unfold Db.updateOutbox Db.unprotected
  rw [Table.update_of_none fun _ ho => absurd ho List.not_mem_nil]

theorem fileById_unprotected (fileId : UUID) : fileById db.unprotected fileId = none := rfl

theorem sessionById_unprotected (sessionId : UUID) : sessionById db.unprotected sessionId = none :=
  rfl

theorem fetchAndStoreFileAs_restricted (calls : FileCalls) (job : FetchJob) :
    fetchAndStoreFileAs .restricted db calls job = ⟨db, [], false⟩ := by
  unfold fetchAndStoreFileAs
  rw [visible_restricted, fileById_unprotected]
  split
  · rw [under_restricted (updateFiles_unprotected _ _ _)]
  · rfl

theorem flushReadySessionsAs_restricted (now : Timestamp) (deferOk : Nat → Bool) :
    flushReadySessionsAs .restricted db now deferOk = ⟨db, [], false⟩ := by
  have hclaim : (claimSessionsForFlush db.unprotected now 50).2 = db.unprotected := by
    simp only [claimSessionsForFlush]
    exact updateSessions_unprotected _ _ _
  unfold flushReadySessionsAs
  rw [visible_restricted, under_restricted hclaim]
  rfl

theorem processSessionAs_restricted (inp : SessionInput) (sessionId : UUID) :
    processSessionAs .restricted env db inp sessionId = ⟨db, [], false⟩ := by
  unfold processSessionAs
  rw [visible_restricted, sessionById_unprotected]

theorem sendOutboxAs_restricted (calls : DrainCalls) :
    sendOutboxAs .restricted env db calls = (db, false) := by
  have hexpire : expireOutbox db.unprotected calls.now = db.unprotected :=
    updateOutbox_unprotected _ _ _
  have hclaim : (claimPending db.unprotected calls.now calls.locked 20).2 = db.unprotected := by
    simp only [claimPending, hexpire]
    exact updateOutbox_unprotected _ _ _
  have hnone : (claimPending db.unprotected calls.now calls.locked 20).1 = [] := by
    simp only [claimPending, hexpire]
    rfl
  unfold sendOutboxAs
  rw [visible_restricted, under_restricted hclaim, hnone]
  rfl

theorem satisfyLinkedDealAs_restricted (now : Timestamp) (job : PollJob) (result : DiPollResult) :
    satisfyLinkedDealAs .restricted db now job result = .ok db := by
  unfold satisfyLinkedDealAs
  rw [visible_restricted, sessionById_unprotected]
  split
  · rfl
  · rfl

theorem nudgeFlushAs_restricted (now : Timestamp) (sessionId : UUID) :
    nudgeFlushAs .restricted db now sessionId = db := by
  unfold nudgeFlushAs
  split
  · exact under_restricted (updateSessions_unprotected _ _ _)
  · rfl

theorem parkOnDiSla_restricted (sessionId : UUID) (note : String) :
    db.under .restricted none (parkOnDiSla · sessionId note) = db :=
  under_restricted (updateSessions_unprotected _ _ _)

theorem recordType_restricted (fileId : UUID) (typeKey : Option String) (facts : Json) :
    db.under .restricted none (recordType · fileId typeKey facts) = db :=
  under_restricted (updateFiles_unprotected _ _ _)

theorem reschedulePoll_eq (calls : PollCalls) (job : PollJob) :
    reschedulePoll db calls job =
      ⟨db, (reschedulePoll db calls job).jobs, (reschedulePoll db calls job).raised⟩ := by
  unfold reschedulePoll
  simp only
  split
  · rfl
  · rfl

/-- A poll still makes its request, and defers itself again. -/
theorem pollDiDocumentAs_restricted (calls : PollCalls) (job : PollJob) :
    pollDiDocumentAs .restricted env db calls job =
      ⟨db, (pollDiDocument env db calls job).jobs,
        (recordedAnswer env calls job).isNone && (pollDiDocument env db calls job).raised⟩ := by
  unfold pollDiDocumentAs pollDiDocument recordedAnswer
  cases hfresh : job.scheduleIn with
  | some delay => rfl
  | none =>
    cases hpoll : calls.pollEvidenceStatus with
    | raised => rfl
    | failed code retryable =>
      simp only [parkOnDiSla_restricted]
      split
      · rfl
      · exact reschedulePoll_eq calls job
    | ok result =>
      simp only [parkOnDiSla_restricted]
      by_cases hterminal : result.isTerminal = true
      · simp only [if_pos hterminal]
        unfold concludePollAs concludePoll
        cases hfacts : terminalFacts calls result with
        | none => rfl
        | some facts =>
          simp only [recordType_restricted, satisfyLinkedDealAs_restricted, nudgeFlushAs_restricted]
          cases sqlText env result.documentTypeKey with
          | error e => rfl
          | ok typeKey =>
            cases facts.storable with
            | false => rfl
            | true =>
              simp only [Option.isNone_some, Bool.false_and]
              cases satisfyLinkedDeal (recordType db job.fileId typeKey facts) calls.now job
                result with
              | error e => rfl
              | ok satisfied => rfl
      · simp only [if_neg hterminal]
        split
        · rfl
        · exact reschedulePoll_eq calls job

/-! ## The tasks -/

/-- Everything that the execution would write is there already. -/
def BackgroundTask.Settled (env : Env) (db : Db) : BackgroundTask → Prop
  | .fetchAndStoreFile args _ => DownloadSettled db args
  | .pollDiDocument args calls => PollSettled env db calls args
  | .flushReadySessions now _ => NoneDue db now
  | .processSession sessionId inp =>
    ∀ s, sessionById db sessionId = some s → ProcessingSettled env db inp s
  | .sendOutbox calls => OutboxSettled db calls.now calls.locked

/-- The policies make no difference to a task exactly when it has nothing to write. -/
theorem policies_transparent_iff (env : Env) (db : Db) (task : BackgroundTask) :
    task.result .restricted env db = task.result .bypassing env db ↔ task.Settled env db := by
  cases task with
  | fetchAndStoreFile args calls =>
    simp only [BackgroundTask.result, fetchAndStoreFileAs_restricted, fetchAndStoreFileAs_bypassing]
    exact eq_comm.trans (fetchAndStoreFile_settled_iff calls args)
  | pollDiDocument args calls =>
    simp only [BackgroundTask.result, pollDiDocumentAs_restricted, pollDiDocumentAs_bypassing]
    exact eq_comm.trans (pollDiDocument_settled_iff calls args)
  | flushReadySessions now deferOk =>
    simp only [BackgroundTask.result, flushReadySessionsAs_restricted,
      flushReadySessionsAs_bypassing]
    exact eq_comm.trans (flushReadySessions_settled_iff now deferOk)
  | processSession sessionId inp =>
    simp only [BackgroundTask.result, processSessionAs_restricted, processSessionAs_bypassing]
    exact eq_comm.trans (processSession_settled_iff sessionId)
  | sendOutbox calls =>
    simp only [BackgroundTask.result, sendOutboxAs_restricted, sendOutboxAs_bypassing]
    refine Iff.trans ?_ (eq_comm.trans (sendOutbox_settled_iff env calls))
    rw [TaskResult.mk.injEq, Prod.ext_iff]
    simp

/-- A session whose flush timer has run out. -/
def dueSession : Session := { idleSession with state := .collecting, flushAt := some 0 }

def dueDb : Db := { boundDb with sessions := .singleton dueSession }

/-- The minute's task, with a queue that accepts its jobs. -/
def minuteFlush : BackgroundTask := .flushReadySessions 1 fun _ => true

/-- The session is flushed without the policies and stays where it is with them. -/
theorem due_session_hidden :
    (minuteFlush.result .bypassing (.ofRecording "s" []) dueDb).jobs = [.processSession 7] ∧
      minuteFlush.result .restricted (.ofRecording "s" []) dueDb = ⟨dueDb, [], false⟩ ∧
      minuteFlush.result .restricted (.ofRecording "s" []) dueDb ≠
        minuteFlush.result .bypassing (.ofRecording "s" []) dueDb := by
  have hclaimed : (minuteFlush.result .bypassing (.ofRecording "s" []) dueDb).jobs =
      [.processSession 7] := by decide
  have hhidden : minuteFlush.result .restricted (.ofRecording "s" []) dueDb = ⟨dueDb, [], false⟩ :=
    flushReadySessionsAs_restricted 1 fun _ => true
  refine ⟨hclaimed, hhidden, fun hsame => ?_⟩
  rw [← hsame, hhidden] at hclaimed
  cases hclaimed

end WaService
