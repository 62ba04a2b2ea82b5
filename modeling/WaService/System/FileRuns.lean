import WaService.Core.Processes
import WaService.System.FileRetries

/-!
# Overlapping downloads

The executions of the download task, statement by statement, between the other steps of the
service. Each statement on a file commits on its own, and none of them looks at the state that the
file is in. Beside the world stand the contents that were posted to audit-core and which execution
recorded a file as stored.
-/

namespace WaService

open Python Relational Transition

/-- What an execution has posted to audit-core for a file. -/
structure FilePost where
  run : Nat
  fileId : UUID
  request : StoreRequest

/-- What the executions share. -/
structure FileShared where
  world : World
  posts : List FilePost
  /-- The executions that recorded a file as stored, the last one first. -/
  recorders : List (UUID × Nat)

/-- The execution that last recorded the file as stored. -/
def FileShared.recorder (s : FileShared) (fileId : UUID) : Option Nat := s.recorders.lookup fileId

/-- A statement that leaves another database. -/
def FileShared.withDb (s : FileShared) (db : Db) : FileShared :=
  { s with world := ⟨db, s.world.jobs⟩ }

/-- Where an execution stands. -/
inductive FilePhase where
  | idle
  /-- The job is taken; the journey of its session is next. -/
  | resolving (job : FetchJob)
  /-- There is no journey. -/
  | journeyless (job : FetchJob)
  /-- The `SELECT` of the row is next. -/
  | reading (job : FetchJob) (journeyId : UUID)
  /-- The update to `downloading` is next. -/
  | marking (job : FetchJob) (journeyId : UUID) (row : File)
  /-- `fetch_media` is next. -/
  | fetching (job : FetchJob) (journeyId : UUID) (row : File)
  /-- The update after a failure is next. -/
  | failing (job : FetchJob) (quarantine : Bool) (code : String) (raises : Bool)
  /-- The update to `storing` is next. -/
  | fetched (job : FetchJob) (journeyId : UUID) (row : File) (result : FetchResult)
  /-- `store_via_audit_core` is next. -/
  | posting (job : FetchJob) (journeyId : UUID) (row : File) (result : FetchResult)
  /-- The update to `stored` is next. -/
  | recording (job : FetchJob) (journeyId : UUID) (result : FetchResult) (evidenceId : UUID)
  /-- The job of the poll is next. -/
  | deferring (job : FetchJob) (journeyId evidenceId : UUID)
  | ended (raised : Bool)

/-- The executions over one world. -/
abbrev FileRuns := Processes Nat FileShared FilePhase

/-- The phase after `fetch_media`. -/
def phaseOfFetch (job : FetchJob) (journeyId : UUID) (row : File) : FetchOutcome → FilePhase
  | .raised => .ended true
  | .failed code retryable quarantine => .failing job quarantine code (!retryable)
  | .ok result => .fetched job journeyId row result

/-- The phase after `store_via_audit_core`. -/
def phaseOfStore (job : FetchJob) (journeyId : UUID) (result : FetchResult) :
    StoreOutcome → FilePhase
  | .raised => .ended true
  | .failed code _ => .failing job false code false
  | .ok evidenceId => .recording job journeyId result evidenceId

/-- The phase after the lookup of the journey. -/
def phaseOfJourney (job : FetchJob) : Option UUID → FilePhase
  | none => .journeyless job
  | some journeyId => .reading job journeyId

/-- The phase after the `SELECT`. -/
def phaseOfFile (job : FetchJob) (journeyId : UUID) : Option File → FilePhase
  | none => .ended false
  | some row => .marking job journeyId row

/-- The arguments of `store_via_audit_core`. -/
def storeRequest (job : FetchJob) (journeyId : UUID) (row : File) (result : FetchResult) :
    StoreRequest :=
  ⟨job.tenantId, journeyId, row.wamid, job.sessionId, result.content, row.declaredName,
    result.mime⟩

/-- One statement or call of the execution `i`. -/
def fileStatement (H : Hasher) (s : FileShared) (i : Nat) (answers : FileAnswers) :
    FilePhase → Option (FileShared × FilePhase)
  | .idle | .ended _ => none
  | .resolving job =>
    some (s, phaseOfJourney job (job.intakeJourneyId.or (sessionJourney s.world.db job.sessionId)))
  | .journeyless job => some (s.withDb (failWithoutJourney s.world.db job.fileId), .ended false)
  | .reading job journeyId => some (s, phaseOfFile job journeyId (fileById s.world.db job.fileId))
  | .marking job journeyId row =>
    some (s.withDb (setFileState s.world.db job.fileId .downloading), .fetching job journeyId row)
  | .fetching job journeyId row =>
    some (s, phaseOfFetch job journeyId row (fetchMedia H answers.media row.fetchRequest).outcome)
  | .failing job quarantine code raises =>
    some (s.withDb (failFile s.world.db job.fileId (if quarantine then .quarantined else .failed)
      code), .ended raises)
  | .fetched job journeyId row result =>
    some (s.withDb (setFileState s.world.db job.fileId .storing), .posting job journeyId row result)
  | .posting job journeyId row result =>
    some ({ s with posts := ⟨i, job.fileId, storeRequest job journeyId row result⟩ :: s.posts },
      phaseOfStore job journeyId result (storeViaAuditCore answers.auditCore))
  | .recording job journeyId result evidenceId =>
    some ({ s.withDb (recordStored s.world.db answers.now job.fileId result evidenceId) with
      recorders := (job.fileId, i) :: s.recorders }, .deferring job journeyId evidenceId)
  | .deferring job journeyId evidenceId =>
    if answers.deferOk then
      some ({ s with world := ⟨s.world.db, s.world.jobs ++ [.pollDiDocument
        ⟨job.fileId, job.sessionId, job.tenantId, journeyId, evidenceId, 0, none⟩]⟩ }, .ended false)
    else some (s, .ended true)

/-- An execution starts or goes on, or another step of the service is taken. -/
inductive FileRunAction where
  | start (i : Nat) (job : FetchJob) (redelivered : Bool)
  | statement (i : Nat) (answers : FileAnswers)
  | other (a : Action)

/-- The execution has not started. -/
def FilePhase.isIdle : FilePhase → Bool
  | .idle => true
  | _ => false

/-- The steps; an execution takes its job from the queue, unless the queue delivers it again. -/
def fileRunStep (env : Env) (H : Hasher) (c : FileRuns) : FileRunAction → Option FileRuns
  | .start i job redelivered =>
    if (c.phase i).isIdle ∧ .fetchAndStoreFile job ∈ c.shared.world.jobs then
      let jobs := if redelivered then c.shared.world.jobs
        else c.shared.world.jobs.erase (.fetchAndStoreFile job)
      some (c.advance i { c.shared with world := ⟨c.shared.world.db, jobs⟩ } (.resolving job))
    else none
  | .statement i answers =>
    (fileStatement H c.shared i answers (c.phase i)).map fun r => c.advance i r.1 r.2
  | .other a =>
    if a.isDownload then none
    else (worldStep env c.shared.world a).map fun w => ⟨{ c.shared with world := w }, c.phase⟩

/-- A world before the first execution. -/
def fileRunStart (w : World) : FileRuns := ⟨⟨w, [], []⟩, fun _ => .idle⟩

/-! ## What a statement writes -/

/-- The file whose state the next statement writes, and the state. -/
def FilePhase.writes : FilePhase → Option (UUID × FileState)
  | .journeyless job => some (job.fileId, .failed)
  | .marking job _ _ => some (job.fileId, .downloading)
  | .failing job quarantine _ _ => some (job.fileId, if quarantine then .quarantined else .failed)
  | .fetched job _ _ _ => some (job.fileId, .storing)
  | .recording job _ _ _ => some (job.fileId, .stored)
  | _ => none

/-- One file is brought to a state, and keeps its declared hash. -/
structure WritesState (db db' : Db) (fileId : UUID) (state : FileState) : Prop where
  target : ∀ row, fileById db fileId = some row → ∃ row', fileById db' fileId = some row' ∧
    row'.state = state ∧ row'.metaSha256 = row.metaSha256
  absent : fileById db fileId = none → fileById db' fileId = none
  others : ∀ other, other ≠ fileId → fileById db' other = fileById db other

theorem writesState_of_update (db : Db) (fileId : UUID) (state : FileState) {f : File → File}
    (hf : ∀ r, (f r).id = r.id ∧ (f r).wamid = r.wamid)
    (h : ∀ r, (f r).state = state ∧ (f r).metaSha256 = r.metaSha256) :
    WritesState db (db.updateFiles (fun r => r.id == fileId) f hf) fileId state where
  target row hrow := ⟨f row, fileById_update_self f hf hrow, h row⟩
  absent hnone := by rw [fileById_updateFiles, hnone, Option.map_none]
  others other hne := fileById_update_other db f hf hne

theorem setFileState_writes (db : Db) (fileId : UUID) (state : FileState) :
    WritesState db (setFileState db fileId state) fileId state := by
  apply writesState_of_update db fileId state _
  intro r
  exact ⟨rfl, rfl⟩

theorem failFile_writes (db : Db) (fileId : UUID) (state : FileState) (code : String) :
    WritesState db (failFile db fileId state code) fileId state := by
  apply writesState_of_update db fileId state _
  intro r
  exact ⟨rfl, rfl⟩

theorem failWithoutJourney_writes (db : Db) (fileId : UUID) :
    WritesState db (failWithoutJourney db fileId) fileId .failed := by
  apply writesState_of_update db fileId .failed _
  intro r
  exact ⟨rfl, rfl⟩

theorem recordStored_writes (db : Db) (now : Timestamp) (fileId : UUID) (result : FetchResult)
    (evidenceId : UUID) :
    WritesState db (recordStored db now fileId result evidenceId) fileId .stored := by
  apply writesState_of_update db fileId .stored _
  intro r
  exact ⟨rfl, rfl⟩

section Statements

variable {H : Hasher} {s s' : FileShared} {i : Nat} {answers : FileAnswers} {l l' : FilePhase}

/-- A statement leaves the database alone, or writes the state of one file. -/
theorem fileStatement_writes (h : fileStatement H s i answers l = some (s', l')) :
    (l.writes = none ∧ s'.world.db = s.world.db) ∨
      ∃ fileId state, l.writes = some (fileId, state) ∧
        WritesState s.world.db s'.world.db fileId state := by
  cases l with
  | idle => cases h
  | ended raised => cases h
  | resolving job =>
    cases h
    exact Or.inl ⟨rfl, rfl⟩
  | journeyless job =>
    cases h
    exact Or.inr ⟨_, _, rfl, failWithoutJourney_writes _ _⟩
  | reading job journeyId =>
    cases h
    exact Or.inl ⟨rfl, rfl⟩
  | marking job journeyId row =>
    cases h
    exact Or.inr ⟨_, _, rfl, setFileState_writes _ _ _⟩
  | fetching job journeyId row =>
    cases h
    exact Or.inl ⟨rfl, rfl⟩
  | failing job quarantine code raises =>
    cases h
    exact Or.inr ⟨_, _, rfl, failFile_writes _ _ _ _⟩
  | fetched job journeyId row result =>
    cases h
    exact Or.inr ⟨_, _, rfl, setFileState_writes _ _ _⟩
  | posting job journeyId row result =>
    cases h
    exact Or.inl ⟨rfl, rfl⟩
  | recording job journeyId result evidenceId =>
    cases h
    exact Or.inr ⟨_, _, rfl, recordStored_writes _ _ _ _ _⟩
  | deferring job journeyId evidenceId =>
    simp only [fileStatement] at h
    split at h
    · cases h
      exact Or.inl ⟨rfl, rfl⟩
    · cases h
      exact Or.inl ⟨rfl, rfl⟩

/-- A phase that writes a state has a statement. -/
theorem fileStatement_of_writes (H : Hasher) (s : FileShared) (i : Nat) (answers : FileAnswers)
    {l : FilePhase} {target : UUID × FileState} (h : l.writes = some target) :
    ∃ s' l', fileStatement H s i answers l = some (s', l') := by
  cases l with
  | journeyless job => exact ⟨_, _, rfl⟩
  | marking job journeyId row => exact ⟨_, _, rfl⟩
  | failing job quarantine code raises => exact ⟨_, _, rfl⟩
  | fetched job journeyId row result => exact ⟨_, _, rfl⟩
  | recording job journeyId result evidenceId => exact ⟨_, _, rfl⟩
  | _ => cases h

end Statements

/-! ## One step -/

section Steps

variable {env : Env} {H : Hasher} {c c' : FileRuns} {i : Nat} {answers : FileAnswers}

theorem fileRunStep_start {job : FetchJob} {redelivered : Bool}
    (h : fileRunStep env H c (.start i job redelivered) = some c') :
    c'.shared.world.db = c.shared.world.db ∧ (∀ j, j ≠ i → c'.phase j = c.phase j) ∧
      c'.phase i = .resolving job ∧ c'.shared.posts = c.shared.posts ∧
      c'.shared.recorders = c.shared.recorders ∧ (c.phase i).isIdle = true := by
  simp only [fileRunStep] at h
  split at h
  · rename_i hidle
    cases h
    exact ⟨rfl, fun j hj => Processes.advance_phase_of_ne hj, Processes.advance_phase_self, rfl,
      rfl, hidle.1⟩
  · cases h

theorem fileRunStep_statement
    (h : fileRunStep env H c (.statement i answers) = some c') :
    fileStatement H c.shared i answers (c.phase i) = some (c'.shared, c'.phase i) ∧
      ∀ j, j ≠ i → c'.phase j = c.phase j := by
  obtain ⟨⟨s, l⟩, hstatement, rfl⟩ := Option.map_eq_some_iff.mp h
  rw [Processes.advance_shared, Processes.advance_phase_self]
  exact ⟨hstatement, fun j hj => Processes.advance_phase_of_ne hj⟩

end Steps

/-! ## An execution that runs alone -/

section Alone

variable {env : Env} {H : Hasher} {c : FileRuns} {i : Nat} {answers : FileAnswers}

/-- The execution goes on by a statement. -/
theorem statement_step {s : FileShared} {l : FilePhase}
    (h : fileStatement H c.shared i answers (c.phase i) = some (s, l)) :
    fileRunStep env H c (.statement i answers) = some (c.advance i s l) := by
  simp only [fileRunStep, h, Option.map_some]

/-- The execution has ended with a result, from the jobs that were in the queue. -/
def EndsWith (i : Nat) (jobs : List Job) (r : TaskResult) (c : FileRuns) : Prop :=
  c.phase i = .ended r.raised ∧ c.shared.world = ⟨r.db, jobs ++ r.jobs⟩

/-- One statement first. -/
theorem after_statement {P : FileRuns → Prop} {s : FileShared} {l : FilePhase}
    (h : fileStatement H c.shared i answers (c.phase i) = some (s, l))
    (hrest : ∀ c', c'.shared = s → c'.phase i = l → Reaches (fileRunStep env H) c' P) :
    Reaches (fileRunStep env H) c P :=
  .after (statement_step h) (hrest _ Processes.advance_shared Processes.advance_phase_self)

theorem failing_alone {job : FetchJob} {quarantine raises : Bool} {code : String} {db : Db}
    {jobs : List Job} (h : c.phase i = .failing job quarantine code raises)
    (hworld : c.shared.world = ⟨db, jobs⟩) :
    Reaches (fileRunStep env H) c (EndsWith i jobs
      ⟨failFile db job.fileId (if quarantine then .quarantined else .failed) code, [],
        raises⟩) := by
  have hstatement : fileStatement H c.shared i (answersOf .networkError .networkError) (c.phase i) =
      some (c.shared.withDb (failFile c.shared.world.db job.fileId
        (if quarantine then .quarantined else .failed) code), .ended raises) := by
    rw [h]
    rfl
  refine after_statement hstatement fun c' hs hp => .here ⟨hp, ?_⟩
  simp only [hs, FileShared.withDb, hworld, List.append_nil]

/-- After the fetch, the execution does what `storeFetched` does. -/
theorem fetched_alone {job : FetchJob} {journeyId : UUID} {row : File} {result : FetchResult}
    {db : Db} {jobs : List Job} (h : c.phase i = .fetched job journeyId row result)
    (hworld : c.shared.world = ⟨db, jobs⟩) (answers : FileAnswers) :
    Reaches (fileRunStep env H) c (EndsWith i jobs
      (storeFetched db (answers.calls H) job journeyId row result)) := by
  have hfetched : fileStatement H c.shared i answers (c.phase i) =
      some (c.shared.withDb (setFileState c.shared.world.db job.fileId .storing),
        .posting job journeyId row result) := by
    rw [h]
    rfl
  apply after_statement hfetched
  intro c₁ hs₁ hp₁
  have hposting : fileStatement H c₁.shared i answers (c₁.phase i) =
      some ({ c₁.shared with
          posts := ⟨i, job.fileId, storeRequest job journeyId row result⟩ :: c₁.shared.posts },
        phaseOfStore job journeyId result (storeViaAuditCore answers.auditCore)) := by
    rw [hp₁]
    rfl
  apply after_statement hposting
  intro c₂ hs₂ hp₂
  have hworld₂ : c₂.shared.world = ⟨setFileState db job.fileId .storing, jobs⟩ := by
    simp only [hs₂, hs₁, FileShared.withDb, hworld]
  cases hstore : storeViaAuditCore answers.auditCore with
  | raised =>
    rw [hstore] at hp₂
    have hresult : storeFetched db (answers.calls H) job journeyId row result =
        ⟨setFileState db job.fileId .storing, [], true⟩ := by
      simp only [storeFetched, FileAnswers.calls, hstore]
    rw [hresult]
    exact .here ⟨hp₂, by simp only [hworld₂, List.append_nil]⟩
  | failed code retryable =>
    rw [hstore] at hp₂
    have hresult : storeFetched db (answers.calls H) job journeyId row result =
        ⟨failFile (setFileState db job.fileId .storing) job.fileId .failed code, [], false⟩ := by
      simp only [storeFetched, FileAnswers.calls, hstore]
    rw [hresult]
    exact failing_alone hp₂ hworld₂
  | ok evidenceId =>
    rw [hstore] at hp₂
    have hrecording : fileStatement H c₂.shared i answers (c₂.phase i) =
        some ({ c₂.shared.withDb (recordStored c₂.shared.world.db answers.now job.fileId result
            evidenceId) with
          recorders := (job.fileId, i) :: c₂.shared.recorders },
          .deferring job journeyId evidenceId) := by
      rw [hp₂]
      rfl
    apply after_statement hrecording
    intro c₃ hs₃ hp₃
    have hworld₃ : c₃.shared.world = ⟨recordStored (setFileState db job.fileId .storing)
        answers.now job.fileId result evidenceId, jobs⟩ := by
      simp only [hs₃, FileShared.withDb, hworld₂]
    cases hdefer : answers.deferOk with
    | true =>
      have hdeferring : fileStatement H c₃.shared i answers (c₃.phase i) =
          some ({ c₃.shared with world := ⟨c₃.shared.world.db, c₃.shared.world.jobs ++
            [.pollDiDocument ⟨job.fileId, job.sessionId, job.tenantId, journeyId, evidenceId, 0,
              none⟩]⟩ }, .ended false) := by
        simp only [hp₃, fileStatement, hdefer, if_true]
      refine after_statement hdeferring fun c₄ hs₄ hp₄ => .here ?_
      simp only [EndsWith, storeFetched, FileAnswers.calls, hstore, hdefer, if_true]
      exact ⟨hp₄, by simp only [hs₄, hworld₃]⟩
    | false =>
      have hdeferring : fileStatement H c₃.shared i answers (c₃.phase i) =
          some (c₃.shared, .ended true) := by
        simp only [hp₃, fileStatement, hdefer]
        rfl
      refine after_statement hdeferring fun c₄ hs₄ hp₄ => .here ?_
      simp only [EndsWith, storeFetched, FileAnswers.calls, hstore, hdefer]
      exact ⟨hp₄, by simp [hs₄, hworld₃]⟩

/-- With a row, the execution does what `afterFetch` does. -/
theorem marking_alone {job : FetchJob} {journeyId : UUID} {row : File} {db : Db} {jobs : List Job}
    (h : c.phase i = .marking job journeyId row) (hworld : c.shared.world = ⟨db, jobs⟩)
    (answers : FileAnswers) :
    Reaches (fileRunStep env H) c (EndsWith i jobs
      (afterFetch (setFileState db job.fileId .downloading) (answers.calls H) job journeyId row
        (fetchMedia H answers.media row.fetchRequest).outcome)) := by
  have hmarking : fileStatement H c.shared i answers (c.phase i) =
      some (c.shared.withDb (setFileState c.shared.world.db job.fileId .downloading),
        .fetching job journeyId row) := by
    rw [h]
    rfl
  apply after_statement hmarking
  intro c₁ hs₁ hp₁
  have hfetching : fileStatement H c₁.shared i answers (c₁.phase i) = some (c₁.shared,
      phaseOfFetch job journeyId row (fetchMedia H answers.media row.fetchRequest).outcome) := by
    rw [hp₁]
    rfl
  apply after_statement hfetching
  intro c₂ hs₂ hp₂
  have hworld₂ : c₂.shared.world = ⟨setFileState db job.fileId .downloading, jobs⟩ := by
    simp only [hs₂, hs₁, FileShared.withDb, hworld]
  cases hfetch : (fetchMedia H answers.media row.fetchRequest).outcome with
  | raised =>
    rw [hfetch] at hp₂
    exact .here ⟨hp₂, by simp only [hworld₂, afterFetch, List.append_nil]⟩
  | failed code retryable quarantine =>
    rw [hfetch] at hp₂
    exact failing_alone hp₂ hworld₂
  | ok result =>
    rw [hfetch] at hp₂
    exact fetched_alone hp₂ hworld₂ answers

/-- An execution whose statements no other step separates leaves what `fetch_and_store_file` leaves
as a whole. -/
theorem fetchAndStoreFile_alone {job : FetchJob} (h : c.phase i = .resolving job)
    (answers : FileAnswers) :
    Reaches (fileRunStep env H) c (EndsWith i c.shared.world.jobs
      (fetchAndStoreFile c.shared.world.db (answers.calls H) job)) := by
  have hresolving : fileStatement H c.shared i answers (c.phase i) = some (c.shared,
      phaseOfJourney job (job.intakeJourneyId.or
        (sessionJourney c.shared.world.db job.sessionId))) := by
    rw [h]
    rfl
  apply after_statement hresolving
  intro c₁ hs₁ hp₁
  cases hjourney : job.intakeJourneyId.or (sessionJourney c.shared.world.db job.sessionId) with
  | none =>
    rw [hjourney] at hp₁
    have hstatement : fileStatement H c₁.shared i answers (c₁.phase i) = some (c₁.shared.withDb
        (failWithoutJourney c₁.shared.world.db job.fileId), .ended false) := by
      rw [hp₁]
      rfl
    refine after_statement hstatement fun c₂ hs₂ hp₂ => .here ?_
    simp only [EndsWith, fetchAndStoreFile, hjourney]
    exact ⟨hp₂, by simp only [hs₂, hs₁, FileShared.withDb, List.append_nil]⟩
  | some journeyId =>
    rw [hjourney] at hp₁
    have hreading : fileStatement H c₁.shared i answers (c₁.phase i) = some (c₁.shared,
        phaseOfFile job journeyId (fileById c₁.shared.world.db job.fileId)) := by
      rw [hp₁]
      rfl
    apply after_statement hreading
    intro c₂ hs₂ hp₂
    rw [hs₁] at hp₂
    cases hrow : fileById c.shared.world.db job.fileId with
    | none =>
      rw [hrow] at hp₂
      refine .here ?_
      simp only [EndsWith, fetchAndStoreFile, hjourney, hrow]
      exact ⟨hp₂, by simp only [hs₂, hs₁, List.append_nil]⟩
    | some row =>
      rw [hrow] at hp₂
      rw [fetchAndStoreFile_of_journey hjourney hrow]
      exact marking_alone hp₂ (by rw [hs₂, hs₁]) answers

end Alone

end WaService
