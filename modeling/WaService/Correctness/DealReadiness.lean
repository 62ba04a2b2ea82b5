import WaService.Worker.Session

/-!
# The readiness checks of the session task

A mapping fetched by `get_session_files` answers None for every column outside
its select list. The document type and the facts are outside it, so the check
that all files are typed fails for every session that has a file.
-/

namespace WaService

open Python Relational

/-- Reading a selected column gives the value of the row. -/
theorem File.select_get_of_mem {columns : List FileColumn} {c : FileColumn} (f : File)
    (h : c ∈ columns) : (f.select columns).get c = f.cell c := by
  unfold File.select RowMapping.get
  induction columns with
  | nil => simp at h
  | cons d ds ih =>
    by_cases hd : c = d
    · simp [hd]
    · have hb : (c == d) = false := by simpa using hd
      have hm : c ∈ ds := (List.mem_cons.mp h).resolve_left hd
      simpa [List.lookup_cons, hb] using ih hm

/-- Reading any other column gives None. -/
theorem File.select_get_of_notMem {columns : List FileColumn} {c : FileColumn} (f : File)
    (h : c ∉ columns) : (f.select columns).get c = .null := by
  unfold File.select RowMapping.get
  induction columns with
  | nil => rfl
  | cons d ds ih =>
    have hd : (c == d) = false := by
      simpa using fun he => h (by simp [he])
    have hm : c ∉ ds := fun hc => h (List.mem_cons_of_mem d hc)
    simpa [List.lookup_cons, hd] using ih hm

/-- The stored rows of a session. -/
def sessionFileRows (db : Db) (sessionId : UUID) : List File :=
  db.files.rows.filter fun f => f.sessionId == sessionId

/-- A fetched mapping is a selected row of the session. -/
theorem mem_getSessionFiles {db : Db} {sessionId : UUID} {row : RowMapping} :
    row ∈ getSessionFiles db sessionId ↔
      ∃ f ∈ sessionFileRows db sessionId, f.select sessionFileColumns = row := by
  unfold getSessionFiles sessionFileRows
  simp only [List.mem_map, List.mem_insertionSort]

/-- The fetched mappings carry the state of their file. -/
theorem getSessionFiles_state {db : Db} {sessionId : UUID} {row : RowMapping}
    (h : row ∈ getSessionFiles db sessionId) :
    ∃ f ∈ sessionFileRows db sessionId, row.get .state = .text f.state.text := by
  obtain ⟨f, hf, rfl⟩ := mem_getSessionFiles.mp h
  exact ⟨f, hf, File.select_get_of_mem f (by decide)⟩

/-- The fetched mappings have no document type. -/
theorem getSessionFiles_documentTypeKey {db : Db} {sessionId : UUID} {row : RowMapping}
    (h : row ∈ getSessionFiles db sessionId) : row.get .documentTypeKey = .null := by
  obtain ⟨f, -, rfl⟩ := mem_getSessionFiles.mp h
  exact File.select_get_of_notMem f (by decide)

/-- A session with files, all of them stored, is parked as waiting for DI. -/
theorem sessionGate_awaitingDi (env : Env) {db : Db} {sessionId : UUID}
    (hne : sessionFileRows db sessionId ≠ [])
    (hstored : ∀ f ∈ sessionFileRows db sessionId, f.state = .stored) :
    sessionGate env (getSessionFiles db sessionId) = .ok (.parked "awaiting_di") := by
  have hall : (getSessionFiles db sessionId).all
      (fun f => (f.get .state).eqText "stored") = true := by
    apply List.all_eq_true.mpr
    intro row hrow
    obtain ⟨f, hf, hs⟩ := getSessionFiles_state hrow
    rw [hs, hstored f hf]
    rfl
  obtain ⟨f, hf⟩ := List.exists_mem_of_ne_nil _ hne
  have hrow : f.select sessionFileColumns ∈ getSessionFiles db sessionId :=
    mem_getSessionFiles.mpr ⟨f, hf, rfl⟩
  have hnone : (getSessionFiles db sessionId).all
      (fun f => (f.get .documentTypeKey).isPresent) = false := by
    refine List.all_eq_false.mpr ⟨_, hrow, ?_⟩
    rw [getSessionFiles_documentTypeKey hrow]
    exact Bool.false_ne_true
  unfold sessionGate
  rw [if_pos hall, if_neg (by simp [hnone])]

/-- A session with files, every one of them stored and typed. -/
structure TypedSession (db : Db) (s : Session) : Prop where
  /-- The session is a stored row. -/
  found : sessionById db s.id = some s
  /-- It has files. -/
  nonempty : sessionFileRows db s.id ≠ []
  /-- Every file is stored. -/
  stored : ∀ f ∈ sessionFileRows db s.id, f.state = .stored
  /-- Every file has its document type. -/
  typed : ∀ f ∈ sessionFileRows db s.id, f.documentTypeKey ≠ none

/-- The booking fields with which `process_session` calls `find_existing_deal`, if it
gets that far. -/
def dealDecision (env : Env) (db : Db) (sessionId : UUID) : Option BookingFields :=
  match sessionById db sessionId with
  | none => none
  | some s =>
    match s.orgUnitId, sessionGate env (getSessionFiles db s.id) with
    | some _, .ok (.ready fields) => some fields
    | _, _ => none

/-- The session task reaches the deal decision, with the facts of one of the session's
booking forms whenever it has one. -/
def DecidesFromFacts (env : Env) (db : Db) (sessionId : UUID) : Prop :=
  ∃ fields, dealDecision env db sessionId = some fields ∧
    ((∃ f ∈ sessionFileRows db sessionId, f.documentTypeKey = some "BOOKING_FORM") →
      ∃ f ∈ sessionFileRows db sessionId, f.documentTypeKey = some "BOOKING_FORM" ∧
        bookingFieldsOfFacts (rawFactsOf env (f.select [.diFacts])) = .ok fields)

private theorem dealDecision_eq_none (env : Env) {db : Db} {s : Session}
    (h : TypedSession db s) : dealDecision env db s.id = none := by
  simp only [dealDecision, h.found, sessionGate_awaitingDi env h.nonempty h.stored]
  split <;> simp_all

/-- No session with stored and typed files gets to the deal decision; the task parks it
as waiting for DI. -/
theorem typed_session_never_decides (env : Env) (db : Db) (inp : SessionInput) (s : Session)
    (h : TypedSession db s) :
    ¬ DecidesFromFacts env db s.id ∧
      ∀ org, s.orgUnitId = some org →
        processSession env db inp s.id = ⟨parkSession db s.id "awaiting_di", [], false⟩ := by
  constructor
  · rintro ⟨fields, hd, -⟩
    rw [dealDecision_eq_none env h] at hd
    contradiction
  · intro org horg
    simp only [processSession, h.found, sessionTransaction, horg,
      sessionGate_awaitingDi env h.nonempty h.stored]
    rfl

/-- A claimed session of tenant 1 and contact 2. -/
def claimedSession : Session where
  id := 7
  tenantId := 1
  contactId := 2
  dealId := none
  orgUnitId := some 3
  state := .processing
  note := none
  flushAt := some 0
  expiresAt := none
  fileCount := 1
  bytesTotal := 0
  createdAt := 0
  submittedAt := some 1
  completedAt := none

/-- Its booking form, stored and polled. -/
def polledBookingForm : File where
  id := 8
  tenantId := 1
  sessionId := 7
  wamid := "wamid_001"
  mediaId := "MID1"
  receivedSeq := 1
  waTimestamp := 0
  kind := .document
  fidelity := .original
  declaredMime := some "application/pdf"
  declaredName := some "booking_form.pdf"
  caption := none
  metaSha256 := none
  localSha256 := some "00"
  byteSize := some 1
  state := .stored
  attempts := 0
  errorCode := none
  storageUri := none
  mediaExpiresAt := none
  storedAt := some 1
  diDocumentId := some 9
  documentTypeKey := some "BOOKING_FORM"
  diFacts := some (.obj [("BOOKING_NUMBER", .str "BK-1"), ("MODEL", .str "Nexon")])

/-- The database of a session whose booking form has been extracted. -/
def extractedDb : Db :=
  { Db.empty with sessions := .singleton claimedSession, files := .singleton polledBookingForm }

theorem extractedDb_typed : TypedSession extractedDb claimedSession where
  found := by decide
  nonempty := by decide
  stored := by decide
  typed := by decide

/-- The extracted booking form does not get its session to the deal decision. -/
theorem typed_session_never_decides_extractedDb :
    ¬ DecidesFromFacts (.ofRecording "s" []) extractedDb 7 ∧
      ∀ org, claimedSession.orgUnitId = some org →
        processSession (.ofRecording "s" []) extractedDb ⟨0, 0, fun _ => 0, 0, 0⟩ 7 =
          ⟨parkSession extractedDb 7 "awaiting_di", [], false⟩ :=
  typed_session_never_decides (.ofRecording "s" []) extractedDb ⟨0, 0, fun _ => 0, 0, 0⟩
    claimedSession extractedDb_typed

/-- A typed session whose booking form carries number BK-1 is parked all the same. -/
theorem typed_session_parked :
    TypedSession extractedDb claimedSession ∧
      ¬ DecidesFromFacts (.ofRecording "s" []) extractedDb 7 := by
  refine ⟨extractedDb_typed, ?_⟩
  rintro ⟨fields, hd, -⟩
  have hnone := dealDecision_eq_none (.ofRecording "s" []) extractedDb_typed
  rw [show claimedSession.id = 7 from rfl, hd] at hnone
  contradiction

end WaService
