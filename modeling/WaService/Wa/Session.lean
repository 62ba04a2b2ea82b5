import Mathlib.Data.List.Sort
import WaService.Schema.Environment

/-!
# Sessions and their files

The statements of the session state machine, one definition per function. The
debounce timer lives on the session row. `get_session_files` returns mappings of
the columns it lists; reading any other column of such a mapping gives None.
-/

namespace WaService

open Python Relational

/-! ## Looking up and creating sessions -/

/-- The open session of a contact. -/
def openSession (db : Db) (contactId : UUID) : Option Session :=
  db.sessions.rows.find? fun s => s.contactId == contactId && s.state.isOpen

/-- Two sessions of the table with one id are one row. -/
theorem session_eq_of_id {db : Db} {s t : Session} (hs : s ∈ db.sessions.rows)
    (ht : t ∈ db.sessions.rows) (hid : s.id = t.id) : s = t := by
  apply Table.eq_of_clash hs ht
  simp [clash, sameKey, hid]

/-- The row a contact's first file inserts. -/
def newSession (newId : UUID) (now : Timestamp) (tenantId contactId orgUnitId : UUID) :
    Session where
  id := newId
  tenantId := tenantId
  contactId := contactId
  dealId := none
  orgUnitId := some orgUnitId
  state := .collecting
  note := none
  flushAt := some (now + seconds 90)
  expiresAt := some (now + seconds (7 * 86400))
  fileCount := 0
  bytesTotal := 0
  createdAt := now
  submittedAt := none
  completedAt := none

/-- Return the current open session or create a new one. -/
def getOrCreateSession (db : Db) (newId : UUID) (now : Timestamp)
    (tenantId contactId orgUnitId : UUID) : Except Error (Session × Db) :=
  match openSession db contactId with
  | some s => .ok (s, db)
  | none =>
    let s := newSession newId now tenantId contactId orgUnitId
    match db.sessions.insert? s with
    | some sessions => .ok (s, { db with sessions := sessions })
    | none => .error .integrityError

/-- The session of a contact is its open session, or a new row. -/
theorem getOrCreateSession_ok {db db' : Db} {newId tenantId contactId orgUnitId : UUID}
    {now : Timestamp} {s : Session}
    (h : getOrCreateSession db newId now tenantId contactId orgUnitId = .ok (s, db')) :
    s ∈ db'.sessions.rows ∧ s.contactId = contactId ∧
      ((openSession db contactId = some s ∧ db' = db) ∨
        (openSession db contactId = none ∧
          s = newSession newId now tenantId contactId orgUnitId ∧ ∃ sessions,
            db.sessions.insert? s = some sessions ∧ db' = { db with sessions := sessions })) := by
  unfold getOrCreateSession at h
  split at h
  · rename_i s' hopen
    cases h
    have hsel := List.find?_some hopen
    simp only [Bool.and_eq_true, beq_iff_eq] at hsel
    exact ⟨List.mem_of_find?_eq_some hopen, hsel.1, Or.inl ⟨hopen, rfl⟩⟩
  · rename_i hopen
    simp only at h
    split at h
    · rename_i sessions hins
      cases h
      exact ⟨(Table.mem_of_insert? hins).mpr (Or.inr rfl), rfl,
        Or.inr ⟨hopen, rfl, sessions, hins, rfl⟩⟩
    · contradiction

/-- An update of sessions that keeps identity and contact and opens no closed session. -/
theorem Session.keeps {p : Session → Bool} {f : Session → Session}
    (h : ∀ s, p s = true → (f s).id = s.id ∧ (f s).contactId = s.contactId ∧
      ((f s).state.isOpen = true → s.state.isOpen = true)) : Table.Keeps p f := by
  apply Table.keeps_of
  intro s hs
  obtain ⟨hid, hcontact, hopen⟩ := h s hs
  refine ⟨Or.inl (by rw [hid]), ?_⟩
  unfold Session.openContact
  by_cases ho : (f s).state.isOpen = true
  · exact Or.inl (by rw [if_pos ho, if_pos (hopen ho), hcontact])
  · exact Or.inr (if_neg ho)

/-- `UPDATE wa.session`: apply `f` to the sessions that `p` selects. -/
def Db.updateSessions (db : Db) (p : Session → Bool) (f : Session → Session)
    (h : ∀ s, p s = true → (f s).id = s.id ∧ (f s).contactId = s.contactId ∧
      ((f s).state.isOpen = true → s.state.isOpen = true)) : Db :=
  { db with sessions := db.sessions.update p f (Session.keeps h) }

/-- The session that an arrival updates. -/
def collects (sessionId : UUID) (s : Session) : Bool := s.id == sessionId && s.state == .collecting

/-- The session after the arrival of a file. -/
def Session.arrive (now : Timestamp) (byteSize : Int) (s : Session) : Session :=
  { s with
    flushAt := some (now + seconds 90)
    fileCount := s.fileCount + 1
    bytesTotal := s.bytesTotal + byteSize }

/-- Push the debounce timer forward and increment the file counter. -/
def recordFileArrival (db : Db) (now : Timestamp) (sessionId : UUID) (byteSize : Int) : Db :=
  db.updateSessions (collects sessionId) (Session.arrive now byteSize) fun _ _ => ⟨rfl, rfl, id⟩

/-! ## State changes -/

/-- A collecting session whose debounce has expired. -/
def flushable (now : Timestamp) (s : Session) : Bool :=
  s.state == .collecting &&
    match s.flushAt with
    | some t => t < now
    | none => false

/-- The sessions that one flush claims, oldest timer first. -/
def flushBatch (db : Db) (now : Timestamp) (limit : Nat) : List UUID :=
  (((db.sessions.rows.filter (flushable now)).insertionSort
    fun a b => a.flushAt.getD 0 ≤ b.flushAt.getD 0).take limit).map (·.id)

/-- Atomically claim collecting sessions whose debounce has expired. -/
def claimSessionsForFlush (db : Db) (now : Timestamp) (limit : Nat) : List UUID × Db :=
  let ids := flushBatch db now limit
  let p := fun s : Session => flushable now s && ids.contains s.id
  (((db.sessions.rows.filter p).map (·.id)),
    db.updateSessions p (fun s => { s with state := .processing, submittedAt := some now })
      fun s hs => ⟨rfl, rfl, fun _ => by
        have hstate : s.state = .collecting := by
          simp only [p, flushable, Bool.and_eq_true, beq_iff_eq] at hs
          exact hs.1.1
        rw [hstate]
        rfl⟩)

/-- Link the deal and wait for the consultant's confirmation. -/
def transitionToConfirming (db : Db) (now : Timestamp) (sessionId dealId : UUID) : Db :=
  db.updateSessions (fun s => s.id == sessionId && s.state == .processing)
    (fun s => { s with
      state := .confirmingDeal
      dealId := some dealId
      flushAt := some (now + seconds 86400) })
    fun s hs => ⟨rfl, rfl, fun _ => by
      have hstate : s.state = .processing := by simpa using (Bool.and_eq_true_iff.mp hs).2
      rw [hstate]
      rfl⟩

/-- Mark the session complete, whatever its state. -/
def markComplete (db : Db) (now : Timestamp) (sessionId : UUID) : Db :=
  db.updateSessions (fun s => s.id == sessionId)
    (fun s => { s with state := .complete, completedAt := some now })
    fun _ _ => ⟨rfl, rfl, nofun⟩

/-- Park the session unless it is complete or cancelled. -/
def parkSession (db : Db) (sessionId : UUID) (note : String) : Db :=
  db.updateSessions
    (fun s => s.id == sessionId && !(s.state == .complete || s.state == .cancelled))
    (fun s => { s with state := .parked, note := some note })
    fun _ _ => ⟨rfl, rfl, nofun⟩

/-- `session.confirm_deal`: the consultant has confirmed the deal. -/
def confirmSessionDeal (db : Db) (now : Timestamp) (sessionId : UUID) : Db :=
  db.updateSessions (fun s => s.id == sessionId && s.state == .confirmingDeal)
    (fun s => { s with state := .gapsPending, flushAt := some (now + seconds 86400) })
    fun _ _ => ⟨rfl, rfl, nofun⟩

/-- Escalate the session unless it is complete, cancelled or escalated. -/
def escalateSession (db : Db) (sessionId : UUID) (note : String) : Db :=
  db.updateSessions
    (fun s => s.id == sessionId &&
      !(s.state == .complete || s.state == .cancelled || s.state == .escalated))
    (fun s => { s with state := .escalated, note := some note })
    fun _ _ => ⟨rfl, rfl, nofun⟩

/-- Park the session, whatever its state, when the DI deadline has passed. -/
def parkOnDiSla (db : Db) (sessionId : UUID) (note : String) : Db :=
  db.updateSessions (fun s => s.id == sessionId)
    (fun s => { s with state := .parked, note := some note })
    fun _ _ => ⟨rfl, rfl, nofun⟩

/-- Advance the flush timer of an open session to now. -/
def advanceFlush (db : Db) (now : Timestamp) (sessionId : UUID) : Db :=
  db.updateSessions (fun s => s.id == sessionId && s.state.isOpen)
    (fun s => { s with flushAt := some now }) fun _ _ => ⟨rfl, rfl, id⟩

/-! ## Registering files -/

/-- The values that one media message contributes to its row. -/
structure MediaMessage where
  wamid : Json
  mediaId : Json
  waTimestamp : Timestamp
  kind : FileKind
  fidelity : Fidelity
  declaredMime : Json
  declaredName : Json
  caption : Json
  metaSha256 : Json
  deriving Repr

/-- A parameter written to a `NOT NULL` text column. -/
def sqlTextNotNull (env : Env) (j : Json) : Except Error String := do
  match ← sqlText env j with
  | some s => return s
  | none => throw .integrityError

/-- The row that `register_file` inserts. -/
def newFile (env : Env) (newId tenantId sessionId : UUID) (receivedSeq : Int) (m : MediaMessage) :
    Except Error File := do
  let wamid ← sqlTextNotNull env m.wamid
  let mediaId ← sqlTextNotNull env m.mediaId
  let declaredMime ← sqlText env m.declaredMime
  let declaredName ← sqlText env m.declaredName
  let caption ← sqlText env m.caption
  let metaSha256 ← sqlText env m.metaSha256
  return {
    id := newId
    tenantId := tenantId
    sessionId := sessionId
    wamid := wamid
    mediaId := mediaId
    receivedSeq := receivedSeq
    waTimestamp := m.waTimestamp
    kind := m.kind
    fidelity := m.fidelity
    declaredMime := declaredMime
    declaredName := declaredName
    caption := caption
    metaSha256 := metaSha256
    localSha256 := none
    byteSize := none
    state := .pending
    attempts := 0
    errorCode := none
    storageUri := none
    mediaExpiresAt := none
    storedAt := none
    diDocumentId := none
    documentTypeKey := none
    diFacts := none }

/-- The stored file with a given wamid. -/
def fileOfWamid (db : Db) (wamid : String) : Option File :=
  db.files.rows.find? fun f => f.wamid == wamid

/-- Insert the file, or return the id of the row that already has its wamid. -/
def registerFile (env : Env) (db : Db) (newId tenantId sessionId : UUID) (receivedSeq : Int)
    (m : MediaMessage) : Except Error (UUID × Db) := do
  let file ← newFile env newId tenantId sessionId receivedSeq m
  match fileOfWamid db file.wamid with
  | some old =>
    let _ ← selectText m.wamid
    return (old.id, db)
  | none =>
    match db.files.insert? file with
    | some files => return (newId, { db with files := files })
    | none => throw .integrityError

/-- The columns that the download writes, as they are in a new row. -/
structure File.IsNew (f : File) : Prop where
  state : f.state = .pending
  attempts : f.attempts = 0
  localSha256 : f.localSha256 = none
  byteSize : f.byteSize = none

/-- A row as the inbox task inserts it: new, and without anything that the poll writes. -/
structure File.IsInserted (f : File) : Prop extends File.IsNew f where
  documentTypeKey : f.documentTypeKey = none

/-- The inserted row of a message is new and carries its tenant, its session and its position. -/
theorem newFile_ok {env : Env} {newId tenantId sessionId : UUID} {seq : Int} {m : MediaMessage}
    {f : File} (h : newFile env newId tenantId sessionId seq m = .ok f) :
    f.id = newId ∧ f.tenantId = tenantId ∧ f.sessionId = sessionId ∧ f.receivedSeq = seq ∧
      sqlTextNotNull env m.wamid = .ok f.wamid ∧ f.IsInserted := by
  unfold newFile at h
  obtain ⟨wamid, hwamid, h⟩ := bind_eq_ok.mp h
  obtain ⟨_, -, h⟩ := bind_eq_ok.mp h
  obtain ⟨_, -, h⟩ := bind_eq_ok.mp h
  obtain ⟨_, -, h⟩ := bind_eq_ok.mp h
  obtain ⟨_, -, h⟩ := bind_eq_ok.mp h
  obtain ⟨_, -, h⟩ := bind_eq_ok.mp h
  cases h
  exact ⟨rfl, rfl, rfl, rfl, hwamid, ⟨rfl, rfl, rfl, rfl⟩, rfl⟩

theorem newFile_isInserted {env : Env} {newId tenantId sessionId : UUID} {seq : Int}
    {m : MediaMessage}
    {f : File} (h : newFile env newId tenantId sessionId seq m = .ok f) : f.IsInserted := by
  obtain ⟨-, -, -, -, -, hnew⟩ := newFile_ok h
  exact hnew

/-- A wamid that is text is stored unchanged. -/
theorem newFile_wamid {env : Env} {newId tenantId sessionId : UUID} {seq : Int} {m : MediaMessage}
    {f : File} {wamid : String} (hm : m.wamid = .str wamid)
    (h : newFile env newId tenantId sessionId seq m = .ok f) : f.wamid = wamid := by
  obtain ⟨-, -, -, -, htext, -⟩ := newFile_ok h
  rw [hm] at htext
  obtain ⟨text, hsql, htext⟩ := bind_eq_ok.mp htext
  simp only [sqlText] at hsql
  split at hsql
  · contradiction
  · cases hsql
    cases htext
    rfl

/-- A registered message has the row of its wamid, found or inserted. -/
theorem registerFile_ok {env : Env} {db db' : Db} {newId tenantId sessionId fileId : UUID}
    {seq : Int} {m : MediaMessage}
    (h : registerFile env db newId tenantId sessionId seq m = .ok (fileId, db')) :
    ∃ f, newFile env newId tenantId sessionId seq m = .ok f ∧
      ((∃ old, fileOfWamid db f.wamid = some old ∧ fileId = old.id ∧ db' = db) ∨
        (fileOfWamid db f.wamid = none ∧ ∃ files, db.files.insert? f = some files ∧
          fileId = newId ∧ db' = { db with files := files })) := by
  obtain ⟨f, hf, h⟩ := bind_eq_ok.mp h
  refine ⟨f, hf, ?_⟩
  split at h
  · rename_i old hold
    obtain ⟨_, -, h⟩ := bind_eq_ok.mp h
    cases h
    exact Or.inl ⟨old, hold, rfl, rfl⟩
  · rename_i hnone
    split at h
    · rename_i files hins
      cases h
      exact Or.inr ⟨hnone, files, hins, rfl, rfl⟩
    · contradiction

/-! ## Row mappings -/

/-- The columns of `wa.file`. -/
inductive FileColumn where
  | id | tenantId | sessionId | wamid | mediaId | receivedSeq | waTimestamp | kind | fidelity
  | declaredMime | declaredName | caption | metaSha256 | localSha256 | byteSize | state | attempts
  | errorCode | storageUri | mediaExpiresAt | storedAt | diDocumentId | documentTypeKey | diFacts
  deriving DecidableEq, Repr

/-- One value of a row mapping. -/
inductive Cell where
  | null
  | uuid (u : UUID)
  | text (s : String)
  | int (n : Int)
  | json (j : Json)
  deriving Repr, Inhabited

/-- A nullable column. -/
def Cell.ofOption {α : Type} (f : α → Cell) : Option α → Cell
  | some a => f a
  | none => .null

/-- The text stored for a file kind. -/
def FileKind.text : FileKind → String
  | document => "document"
  | image => "image"

/-- The text stored for a fidelity. -/
def Fidelity.text : Fidelity → String
  | original => "original"
  | recompressed => "recompressed"

/-- The text stored for a file state. -/
def FileState.text : FileState → String
  | pending => "pending"
  | downloading => "downloading"
  | redacting => "redacting"
  | storing => "storing"
  | stored => "stored"
  | failed => "failed"
  | skipped => "skipped"
  | quarantined => "quarantined"

/-- The value of a column of a file row. -/
def File.cell (f : File) : FileColumn → Cell
  | .id => .uuid f.id
  | .tenantId => .uuid f.tenantId
  | .sessionId => .uuid f.sessionId
  | .wamid => .text f.wamid
  | .mediaId => .text f.mediaId
  | .receivedSeq => .int f.receivedSeq
  | .waTimestamp => .int f.waTimestamp
  | .kind => .text f.kind.text
  | .fidelity => .text f.fidelity.text
  | .declaredMime => .ofOption .text f.declaredMime
  | .declaredName => .ofOption .text f.declaredName
  | .caption => .ofOption .text f.caption
  | .metaSha256 => .ofOption .text f.metaSha256
  | .localSha256 => .ofOption .text f.localSha256
  | .byteSize => .ofOption .int f.byteSize
  | .state => .text f.state.text
  | .attempts => .int f.attempts
  | .errorCode => .ofOption .text f.errorCode
  | .storageUri => .ofOption .text f.storageUri
  | .mediaExpiresAt => .ofOption .int f.mediaExpiresAt
  | .storedAt => .ofOption .int f.storedAt
  | .diDocumentId => .ofOption .uuid f.diDocumentId
  | .documentTypeKey => .ofOption .text f.documentTypeKey
  | .diFacts => .ofOption .json f.diFacts

/-- A fetched row as a dictionary of the selected columns. -/
abbrev RowMapping := List (FileColumn × Cell)

/-- The dictionary of the listed columns of a row. -/
def File.select (columns : List FileColumn) (f : File) : RowMapping :=
  columns.map fun c => (c, f.cell c)

/-- `row.get(column)`: None when the column was not selected. -/
def RowMapping.get (row : RowMapping) (c : FileColumn) : Cell := (row.lookup c).getD .null

/-- The columns that `get_session_files` selects. -/
def sessionFileColumns : List FileColumn :=
  [.id, .wamid, .mediaId, .kind, .fidelity, .state, .declaredMime, .declaredName, .metaSha256,
    .localSha256, .byteSize, .storageUri, .errorCode]

/-- The files of a session in order of arrival, as mappings of the selected columns. -/
def getSessionFiles (db : Db) (sessionId : UUID) : List RowMapping :=
  ((db.files.rows.filter fun f => f.sessionId == sessionId).insertionSort
    fun a b => a.receivedSeq ≤ b.receivedSeq).map (File.select sessionFileColumns)

end WaService
