import WaService.Worker.Inbox

/-!
# The download task and the DI poll

`fetch_and_store_file` moves a file through its states around two calls, to Meta
and to audit-core. `poll_di_document` asks audit-core once and then persists a
terminal answer, defers itself again, or parks the session.
-/

namespace WaService

open Python Relational

/-- An update of files that keeps identity and wamid. -/
theorem File.keeps {p : File → Bool} {f : File → File}
    (h : ∀ r, (f r).id = r.id ∧ (f r).wamid = r.wamid) : Table.Keeps p f :=
  Table.keeps_of fun r _ => ⟨Or.inl (by rw [(h r).1]), Or.inl (by rw [(h r).2])⟩

/-- `UPDATE wa.file`: apply `f` to the files that `p` selects. -/
def Db.updateFiles (db : Db) (p : File → Bool) (f : File → File)
    (h : ∀ r, (f r).id = r.id ∧ (f r).wamid = r.wamid) : Db :=
  { db with files := db.files.update p f (File.keeps h) }

/-- Set the state of a file. -/
def setFileState (db : Db) (fileId : UUID) (state : FileState) : Db :=
  db.updateFiles (fun f => f.id == fileId) (fun f => { f with state := state })
    fun _ => ⟨rfl, rfl⟩

/-- Record a failed attempt. -/
def failFile (db : Db) (fileId : UUID) (state : FileState) (code : String) : Db :=
  db.updateFiles (fun f => f.id == fileId)
    (fun f => { f with state := state, errorCode := some code, attempts := f.attempts + 1 })
    fun _ => ⟨rfl, rfl⟩

/-- The tenant's route has no intake journey. -/
def failWithoutJourney (db : Db) (fileId : UUID) : Db :=
  db.updateFiles (fun f => f.id == fileId)
    (fun f => { f with state := .failed, errorCode := some "NO_INTAKE_JOURNEY" })
    fun _ => ⟨rfl, rfl⟩

/-! ## Downloading and storing -/

/-- Arguments of `fetch_media`. -/
structure FetchRequest where
  mediaId : String
  declaredSha256 : Option String
  attempt : Nat
  deriving DecidableEq, Repr

/-- A downloaded media object. -/
structure FetchResult where
  content : List UInt8
  sha256 : String
  byteSize : Nat
  mime : String
  deriving DecidableEq, Repr

/-- How a call of `fetch_media` ends: a result, a `MediaFetchError`, another exception. -/
inductive FetchOutcome where
  | ok (result : FetchResult)
  | failed (code : String) (retryable quarantine : Bool)
  | raised
  deriving DecidableEq, Repr

/-- Arguments of `store_via_audit_core`. -/
structure StoreRequest where
  tenantId : UUID
  journeyId : UUID
  wamid : String
  sessionCorrelationId : UUID
  content : List UInt8
  declaredName : Option String
  mime : String
  deriving DecidableEq, Repr

/-- How a call of `store_via_audit_core` ends: the evidence id, a `StoreError`, another
exception. -/
inductive StoreOutcome where
  | ok (evidenceId : UUID)
  | failed (code : String) (retryable : Bool)
  | raised
  deriving DecidableEq, Repr

/-- The calls that one run of the download task makes. -/
structure FileCalls where
  now : Timestamp
  fetchMedia : FetchRequest → FetchOutcome
  storeViaAuditCore : StoreRequest → StoreOutcome
  /-- The queue accepts the poll job. -/
  deferOk : Bool

/-- The file with a given id. -/
def fileById (db : Db) (fileId : UUID) : Option File :=
  db.files.rows.find? fun f => f.id == fileId

theorem fileById_updateFiles (db : Db) (p : File → Bool) (f : File → File)
    (hf : ∀ r, (f r).id = r.id ∧ (f r).wamid = r.wamid) (fileId : UUID) :
    fileById (db.updateFiles p f hf) fileId = (fileById db fileId).map (patch p f) := by
  unfold fileById Db.updateFiles
  rw [Table.find?_update db.files fun r _ => by rw [(hf r).1]]

/-- An update of one file finds it updated. -/
theorem fileById_update_self {db : Db} {fileId : UUID} {row : File} (f : File → File)
    (hf : ∀ r, (f r).id = r.id ∧ (f r).wamid = r.wamid) (h : fileById db fileId = some row) :
    fileById (db.updateFiles (fun r => r.id == fileId) f hf) fileId = some (f row) := by
  rw [fileById_updateFiles, h, Option.map_some]
  exact congrArg some (if_pos (List.find?_some h))

/-- An update of one file leaves the others alone. -/
theorem fileById_update_other (db : Db) {fileId other : UUID} (f : File → File)
    (hf : ∀ r, (f r).id = r.id ∧ (f r).wamid = r.wamid) (hne : other ≠ fileId) :
    fileById (db.updateFiles (fun r => r.id == fileId) f hf) other = fileById db other := by
  rw [fileById_updateFiles]
  cases hrow : fileById db other with
  | none => rfl
  | some row =>
    have hid : row.id = other := by simpa using List.find?_some hrow
    rw [Option.map_some]
    exact congrArg some (if_neg (by simpa [hid] using hne))

theorem setFileState_self {db : Db} {fileId : UUID} {row : File} (state : FileState)
    (h : fileById db fileId = some row) :
    fileById (setFileState db fileId state) fileId = some { row with state := state } := by
  unfold setFileState
  exact fileById_update_self _ _ h

theorem failFile_self {db : Db} {fileId : UUID} {row : File} (state : FileState) (code : String)
    (h : fileById db fileId = some row) :
    fileById (failFile db fileId state code) fileId = some { row with
      state := state, errorCode := some code, attempts := row.attempts + 1 } := by
  unfold failFile
  exact fileById_update_self _ _ h

/-- Persist the evidence id and what was downloaded. -/
def recordStored (db : Db) (now : Timestamp) (fileId : UUID) (result : FetchResult)
    (evidenceId : UUID) : Db :=
  db.updateFiles (fun f => f.id == fileId)
    (fun f => { f with
      state := .stored
      localSha256 := some result.sha256
      byteSize := some result.byteSize
      storedAt := some now
      storageUri := some (uuidStr evidenceId)
      diDocumentId := some evidenceId })
    fun _ => ⟨rfl, rfl⟩

theorem recordStored_self {db : Db} {fileId : UUID} {row : File} (now : Timestamp)
    (result : FetchResult) (evidenceId : UUID) (h : fileById db fileId = some row) :
    fileById (recordStored db now fileId result evidenceId) fileId = some { row with
      state := .stored
      localSha256 := some result.sha256
      byteSize := some result.byteSize
      storedAt := some now
      storageUri := some (uuidStr evidenceId)
      diDocumentId := some evidenceId } := by
  unfold recordStored
  exact fileById_update_self _ _ h

/-- The store call and what follows it. -/
def storeFetched (db : Db) (calls : FileCalls) (job : FetchJob) (journeyId : UUID) (row : File)
    (result : FetchResult) : TaskResult :=
  let storing := setFileState db job.fileId .storing
  match calls.storeViaAuditCore ⟨job.tenantId, journeyId, row.wamid, job.sessionId, result.content,
      row.declaredName, result.mime⟩ with
  | .raised => ⟨storing, [], true⟩
  | .failed code _ => ⟨failFile storing job.fileId .failed code, [], false⟩
  | .ok evidenceId =>
    let stored := recordStored storing calls.now job.fileId result evidenceId
    if calls.deferOk then
      ⟨stored, [.pollDiDocument ⟨job.fileId, job.sessionId, job.tenantId, journeyId, evidenceId, 0,
        none⟩], false⟩
    else ⟨stored, [], true⟩

/-- `fetch_and_store_file`. A failure that may be retried returns; the others raise. -/
def fetchAndStoreFile (db : Db) (calls : FileCalls) (job : FetchJob) : TaskResult :=
  match job.intakeJourneyId.or (sessionJourney db job.sessionId) with
  | none => ⟨failWithoutJourney db job.fileId, [], false⟩
  | some journeyId =>
    match fileById db job.fileId with
    | none => ⟨db, [], false⟩
    | some row =>
      let downloading := setFileState db job.fileId .downloading
      match calls.fetchMedia ⟨row.mediaId, row.metaSha256, row.attempts⟩ with
      | .raised => ⟨downloading, [], true⟩
      | .failed code retryable quarantine =>
        let state := if quarantine then FileState.quarantined else .failed
        ⟨failFile downloading job.fileId state code, [], !retryable⟩
      | .ok result => storeFetched downloading calls job journeyId row result

/-- A download changes files only. -/
theorem fetchAndStoreFile_frame (db : Db) (calls : FileCalls) (job : FetchJob) :
    ∃ files, (fetchAndStoreFile db calls job).db = { db with files := files } := by
  unfold fetchAndStoreFile
  split
  · exact ⟨_, rfl⟩
  · split
    · exact ⟨_, rfl⟩
    · simp only
      split
      · exact ⟨_, rfl⟩
      · exact ⟨_, rfl⟩
      · unfold storeFetched
        simp only
        split
        · exact ⟨_, rfl⟩
        · exact ⟨_, rfl⟩
        · split
          · exact ⟨_, rfl⟩
          · exact ⟨_, rfl⟩

end WaService
