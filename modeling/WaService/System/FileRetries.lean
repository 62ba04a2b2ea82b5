import WaService.Media.Fetch
import WaService.Media.Store
import WaService.System.World

/-!
# Downloads that are retried

The service with a queue that runs a download again exactly when it raised. An execution meets the
answers of Meta and of audit-core; the log holds the files of the media requests that failed.
-/

namespace WaService

open Python Relational

/-- What an execution of the download task meets outside the program. -/
structure FileAnswers where
  now : Timestamp
  media : MetaAnswers
  auditCore : HttpAnswer
  /-- The queue accepts the poll job. -/
  deferOk : Bool

/-- The calls of an execution, as the answers make them end. -/
def FileAnswers.calls (H : Hasher) (a : FileAnswers) : FileCalls where
  now := a.now
  fetchMedia req := (WaService.fetchMedia H a.media req).outcome
  storeViaAuditCore _ := WaService.storeViaAuditCore a.auditCore
  deferOk := a.deferOk

/-- The row of the download's file, if there is a journey to store it under. -/
def downloadRow (db : Db) (job : FetchJob) : Option File :=
  (job.intakeJourneyId.or (sessionJourney db job.sessionId)).bind fun _ => fileById db job.fileId

/-- The arguments with which `fetch_media` is called for a row. -/
def File.fetchRequest (f : File) : FetchRequest := ⟨f.mediaId, f.metaSha256, f.attempts⟩

/-- The media requests that an execution makes. -/
def madeRequests (H : Hasher) (db : Db) (job : FetchJob) (answers : FileAnswers) :
    List MediaRequest :=
  match downloadRow db job with
  | none => []
  | some row => (fetchMedia H answers.media row.fetchRequest).requests

/-- The service, and the files of the media requests that failed. -/
structure Downloads where
  world : World
  failed : List UUID

/-- An execution of a download, or another step of the service. -/
inductive DownloadAction where
  | execute (job : FetchJob) (answers : FileAnswers)
  | other (a : Action)

/-- The step executes a download. -/
def Action.isDownload : Action → Bool
  | .execute (.fetchAndStoreFile _ _) _ => true
  | _ => false

/-- The queue after an execution: a job whose execution raised stays. -/
def retriedJobs (jobs : List Job) (job : FetchJob) (r : TaskResult) : List Job :=
  (if r.raised then jobs else jobs.erase (.fetchAndStoreFile job)) ++ r.jobs

/-- The steps of the service with such a queue. -/
def downloadStep (env : Env) (H : Hasher) (c : Downloads) : DownloadAction → Option Downloads
  | .execute job answers =>
    if .fetchAndStoreFile job ∈ c.world.jobs then
      let r := fetchAndStoreFile c.world.db (answers.calls H) job
      some ⟨⟨r.db, retriedJobs c.world.jobs job r⟩,
        ((madeRequests H c.world.db job answers).filter MediaRequest.failed).map
          (fun _ => job.fileId)
          ++ c.failed⟩
    else none
  | .other a => if a.isDownload then none else (worldStep env c.world a).map fun w => ⟨w, c.failed⟩

/-! ## How an execution ends -/

section Endings

variable {db : Db} {calls : FileCalls} {job : FetchJob}

/-- Without a row or a journey no call is made, and the execution does not raise. -/
theorem fetchAndStoreFile_idle (h : downloadRow db job = none) (calls : FileCalls) :
    (fetchAndStoreFile db calls job).raised = false ∧
      (fetchAndStoreFile db calls job).jobs = [] := by
  unfold fetchAndStoreFile
  unfold downloadRow at h
  cases hjourney : job.intakeJourneyId.or (sessionJourney db job.sessionId) with
  | none => simp
  | some journeyId =>
    rw [hjourney] at h
    have hrow : fileById db job.fileId = none := h
    simp [hrow]

/-- What an execution does once `fetch_media` has ended. -/
def afterFetch (db : Db) (calls : FileCalls) (job : FetchJob) (journeyId : UUID) (row : File) :
    FetchOutcome → TaskResult
  | .raised => ⟨db, [], true⟩
  | .failed code retryable quarantine =>
    ⟨failFile db job.fileId (if quarantine then .quarantined else .failed) code, [], !retryable⟩
  | .ok result => storeFetched db calls job journeyId row result

/-- With a journey and a row, the execution is what follows the call of `fetch_media`. -/
theorem fetchAndStoreFile_of_journey {journeyId : UUID} {row : File}
    (hjourney : job.intakeJourneyId.or (sessionJourney db job.sessionId) = some journeyId)
    (hrow : fileById db job.fileId = some row) (calls : FileCalls) :
    fetchAndStoreFile db calls job =
      afterFetch (setFileState db job.fileId .downloading) calls job journeyId row
        (calls.fetchMedia row.fetchRequest) := by
  have hrequest : row.fetchRequest = ⟨row.mediaId, row.metaSha256, row.attempts⟩ := rfl
  cases hfetch : calls.fetchMedia row.fetchRequest with
  | raised => simp only [fetchAndStoreFile, hjourney, hrow, ← hrequest, hfetch, afterFetch]
  | failed code retryable quarantine =>
    simp only [fetchAndStoreFile, hjourney, hrow, ← hrequest, hfetch, afterFetch]
  | ok result => simp only [fetchAndStoreFile, hjourney, hrow, ← hrequest, hfetch, afterFetch]

theorem fetchAndStoreFile_of_row {row : File} (h : downloadRow db job = some row)
    (calls : FileCalls) : ∃ journeyId, fetchAndStoreFile db calls job =
      afterFetch (setFileState db job.fileId .downloading) calls job journeyId row
        (calls.fetchMedia row.fetchRequest) := by
  obtain ⟨journeyId, hjourney, hrow⟩ := Option.bind_eq_some_iff.mp h
  exact ⟨journeyId, fetchAndStoreFile_of_journey hjourney hrow calls⟩

/-- An execution defers polls only. -/
theorem fetchAndStoreFile_polls (db : Db) (calls : FileCalls) (job : FetchJob) :
    (fetchAndStoreFile db calls job).jobs = [] ∨
      ∃ poll, (fetchAndStoreFile db calls job).jobs = [.pollDiDocument poll] := by
  cases hrow : downloadRow db job with
  | none => exact Or.inl (fetchAndStoreFile_idle hrow calls).2
  | some row =>
    obtain ⟨journeyId, heq⟩ := fetchAndStoreFile_of_row hrow calls
    rw [heq]
    cases calls.fetchMedia row.fetchRequest with
    | raised => exact Or.inl rfl
    | failed code retryable quarantine => exact Or.inl rfl
    | ok result =>
      unfold afterFetch storeFetched
      simp only
      split
      · exact Or.inl rfl
      · exact Or.inl rfl
      · split
        · exact Or.inr ⟨_, rfl⟩
        · exact Or.inl rfl

end Endings

/-! ## A file that has arrived -/

/-- A hash function that is the identity. -/
def plainHasher : Hasher where
  State := List UInt8
  init := []
  update := fun state chunk => state ++ chunk
  digest := id
  sha256 := id
  digest_foldl chunks := by
    have happend := @List.foldl_append_eq_append _ _ chunks id []
    simpa using happend

/-- A photo that declares the hash of its one byte. -/
def arrivedFile : File where
  id := 7
  tenantId := 2
  sessionId := 8
  wamid := "w1"
  mediaId := "m1"
  receivedSeq := 1
  waTimestamp := 0
  kind := .image
  fidelity := .recompressed
  declaredMime := none
  declaredName := none
  caption := none
  metaSha256 := some "0A"
  localSha256 := none
  byteSize := none
  state := .pending
  attempts := 0
  errorCode := none
  storageUri := none
  mediaExpiresAt := none
  storedAt := none
  diDocumentId := none
  documentTypeKey := none
  diFacts := none

/-- Its download. -/
def arrivedJob : FetchJob := ⟨7, 8, 2, 6, 3, .en, some 9⟩

/-- The file is registered, and its download is in the queue. -/
def arrivedWorld : World :=
  ⟨{ Db.empty with files := .singleton arrivedFile }, [.fetchAndStoreFile arrivedJob]⟩

/-- Meta gives a URL. -/
def givenUrl : HttpAnswer := .response 200 (some (.obj [("url", .str "u")]))

/-- Meta serves a content in one chunk. -/
def served (content : List UInt8) : DownloadAnswer := .response 200 none [content] false

/-- audit-core stores the evidence. -/
def storedEvidence : HttpAnswer :=
  .response 201 (some (.obj [("evidenceId", .str "00000000000000000000000000000011"),
    ("journeyId", .str "00000000000000000000000000000009")]))

/-- Meta answers once, and audit-core stores what is fetched. -/
def answersOf (resolution : HttpAnswer) (download : DownloadAnswer) : FileAnswers :=
  ⟨0, ⟨resolution, download, resolution, download⟩, storedEvidence, true⟩

end WaService
