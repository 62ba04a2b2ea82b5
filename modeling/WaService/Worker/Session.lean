import WaService.Deal.Builder
import WaService.Deal.Checklist
import WaService.Wa.Outbox
import WaService.Worker.Inbox

/-!
# Flushing and processing sessions

`flush_ready_sessions` claims the sessions whose debounce has expired and defers
one `process_session` for each. `process_session` checks that every file is stored
and typed, then discovers or creates the deal and answers the consultant.
-/

namespace WaService

open Python Relational

/-- `flush_ready_sessions`; the queue accepts the jobs that `deferOk` allows, and the
first refusal ends the task. -/
def flushReadySessions (db : Db) (now : Timestamp) (deferOk : Nat → Bool) : TaskResult :=
  let (ids, db') := claimSessionsForFlush db now 50
  let accepted := (ids.zipIdx.takeWhile fun p => deferOk p.2).map fun p => Job.processSession p.1
  ⟨db', accepted, decide (accepted.length < ids.length)⟩

/-! ## Reading the files -/

/-- `cell == text`. -/
def Cell.eqText (c : Cell) (s : String) : Bool :=
  match c with
  | .text t => t == s
  | _ => false

/-- `cell is not None`. -/
def Cell.isPresent : Cell → Bool
  | .null => false
  | _ => true

/-- `str(v).lower() in ("true", "yes", "1", "y")`. -/
def truthyFlag : Json → Bool
  | .str s =>
    let lower := s.toList.map Char.toLower
    lower == "true".toList || lower == "yes".toList || lower == "1".toList || lower == "y".toList
  | .bool b => b
  | .int n => n == 1
  | _ => false

/-- The facts of a row: `row.get("di_facts") or {}`, with text decoded once more. -/
def rawFactsOf (env : Env) (row : RowMapping) : Json :=
  match row.get .diFacts with
  | .json (.str s) =>
    if s == "" then .obj [] else (env.jsonLoads s.toUTF8.toList).getD (.obj [])
  | .json j => if j.truthy then j else .obj []
  | _ => .obj []

/-- The fields of a booking form's facts. -/
def bookingFieldsOfFacts (raw : Json) : Except Error BookingFields := do
  let bookingNumber ← raw.get "BOOKING_NUMBER" .null
  let customerName ← raw.get "CUSTOMER_NAME" .null
  let model ← raw.get "MODEL" .null
  let variant ← raw.get "VARIANT" .null
  let bookingDate ← raw.get "BOOKING_DATE" .null
  let financed ← raw.get "FINANCE_FLAG" (.str "")
  let exchange ← raw.get "EXCHANGE_FLAG" (.str "")
  let corporate ← raw.get "CORPORATE_FLAG" (.str "")
  return ⟨bookingNumber, customerName, model, variant, bookingDate, truthyFlag financed,
    truthyFlag exchange, truthyFlag corporate, raw⟩

/-- Find the booking form among the files and return its extracted fields. -/
def extractBookingFields (env : Env) (files : List RowMapping) : Except Error BookingFields :=
  match files.find? fun f => (f.get .documentTypeKey).eqText "BOOKING_FORM" with
  | none => .ok .empty
  | some row => bookingFieldsOfFacts (rawFactsOf env row)

/-- Deal type from the booking form's flags. -/
def inferDealType (b : BookingFields) : DealType :=
  if b.isCorporate then .corporate
  else if b.isFinanced then .retailFinanced
  else if b.hasExchange then .retailExchange
  else .retail

/-- Outcome of the readiness checks. -/
inductive SessionGate where
  | parked (note : String)
  | ready (fields : BookingFields)
  deriving Repr

/-- Every file stored, every file typed, then the booking fields. -/
def sessionGate (env : Env) (files : List RowMapping) : Except Error SessionGate :=
  if files.all fun f => (f.get .state).eqText "stored" then
    if files.all fun f => (f.get .documentTypeKey).isPresent then do
      let fields ← extractBookingFields env files
      return .ready fields
    else .ok (.parked "awaiting_di")
  else .ok (.parked "files_not_ready")

/-! ## Deciding the deal -/

/-- Satisfy the checklist for every file that carries a type and a document id. -/
def satisfyConfirmedFiles (db : Db) (now : Timestamp) (dealId : UUID) (files : List RowMapping) :
    Db :=
  files.foldl (fun db f =>
    match f.get .documentTypeKey, f.get .diDocumentId with
    | .text typeKey, .uuid documentId =>
      if typeKey == "" then db else markSatisfied db now dealId typeKey documentId
    | _, _ => db) db

/-- Generated ids for one run of the session task. -/
structure SessionInput where
  now : Timestamp
  dealId : UUID
  itemIds : Nat → UUID
  reviewId : UUID
  outboxId : Nat

/-- `f"WA-{str(session_id)[:8].upper()}"`. -/
def fallbackNumber (sessionId : UUID) : String :=
  String.ofList ("WA-".toList ++ ((uuidHex sessionId).take 8).map Char.toUpper)

/-- `value or default`. -/
def orElse (value : Json) (default : String) : Json :=
  if value.truthy then value else .str default

/-- The locale of the session's contact; a missing contact is `NoResultFound`. -/
def contactLocale (db : Db) (contactId : UUID) : Except Error Locale :=
  match db.contacts.rows.find? fun c => c.id == contactId with
  | some c => .ok c.locale
  | none => .error .noResultFound

/-- The confirmation message of a provisional deal. -/
def confirmPayload (copy : List (String × String)) (sessionId : UUID) (deal : DealCreated) :
    Except Error (List (String × Json)) := do
  let body ← format (copyText copy "deal_confirm_body" "")
    [("booking_number", deal.bookingNumber),
      ("model", match deal.model with
        | some m => if m == "" then "(pending)" else m
        | none => "(pending)"),
      ("customer_name", deal.customerName.getD "None")]
  return [("type", .str "buttons"),
    ("header", .str (copyText copy "deal_confirm_header" "Confirm Deal")),
    ("body", .str body),
    ("buttons", .arr [
      .obj [("id", .str ("confirm_" ++ uuidStr sessionId)),
        ("title", .str (copyText copy "deal_confirm_yes" "Confirm"))],
      .obj [("id", .str ("resubmit_" ++ uuidStr sessionId)),
        ("title", .str (copyText copy "deal_confirm_no" "Re-submit"))]])]

/-- No match: create the deal and its checklist, link it, ask for confirmation. -/
def createBranch (env : Env) (db : Db) (inp : SessionInput) (s : Session) (orgUnitId : UUID)
    (files : List RowMapping) (fields : BookingFields) : Except Error Db := do
  let number := orElse fields.bookingNumber (fallbackNumber s.id)
  let dealType := inferDealType fields
  let (deal, created) ← createProvisionalDeal env db inp.dealId inp.now s.tenantId orgUnitId number
    (orElse fields.customerName "(pending)") fields dealType s.contactId
  let listed ← initialiseChecklist created inp.itemIds inp.now deal.dealId dealType
  let linked := transitionToConfirming listed inp.now s.id deal.dealId
  let satisfied := satisfyConfirmedFiles linked inp.now deal.dealId files
  let locale ← contactLocale satisfied s.contactId
  let payload ← confirmPayload (env.copy locale) s.id deal
  let (_, queued) ← enqueueReply satisfied inp.outboxId inp.now s.tenantId s.contactId (some s.id)
    .interactive payload (some ("deal_confirm_" ++ uuidStr s.id)) none
  return queued

/-- A deal that was created has its checklist, is linked, and its confirmation is asked for. -/
theorem createBranch_inv {env : Env} {db db' : Db} {inp : SessionInput} {s : Session}
    {orgUnitId : UUID} {files : List RowMapping} {fields : BookingFields}
    (h : createBranch env db inp s orgUnitId files fields = .ok db') :
    ∃ deal created listed id payload,
      createProvisionalDeal env db inp.dealId inp.now s.tenantId orgUnitId
        (orElse fields.bookingNumber (fallbackNumber s.id))
        (orElse fields.customerName "(pending)") fields (inferDealType fields) s.contactId =
          .ok (deal, created) ∧
      initialiseChecklist created inp.itemIds inp.now deal.dealId (inferDealType fields) =
        .ok listed ∧
      enqueueReply (satisfyConfirmedFiles
          (transitionToConfirming listed inp.now s.id deal.dealId) inp.now deal.dealId files)
        inp.outboxId inp.now s.tenantId s.contactId (some s.id) .interactive payload
        (some ("deal_confirm_" ++ uuidStr s.id)) none = .ok (id, db') := by
  obtain ⟨⟨deal, created⟩, hcreate, h⟩ := bind_eq_ok.mp h
  obtain ⟨listed, hlist, h⟩ := bind_eq_ok.mp h
  obtain ⟨locale, -, h⟩ := bind_eq_ok.mp h
  obtain ⟨payload, -, h⟩ := bind_eq_ok.mp h
  obtain ⟨⟨id, queued⟩, hqueued, h⟩ := bind_eq_ok.mp h
  cases h
  exact ⟨deal, created, listed, id, payload, hcreate, hlist, hqueued⟩

/-- `_send_gap_message`. -/
def sendGapMessage (env : Env) (db : Db) (inp : SessionInput) (s : Session) (dealId : UUID) :
    Except Error Db := do
  let locale ← contactLocale db s.contactId
  let checklist ← buildChecklist db s.tenantId dealId
  let (_, body) ← formatGapMessage checklist (env.copy locale)
  let (_, queued) ← enqueueReply db inp.outboxId inp.now s.tenantId s.contactId (some s.id) .text
    [("body", .str body)] (some ("gap_" ++ uuidStr s.id)) none
  return if checklist.isComplete then markComplete queued inp.now s.id else queued

/-- The gap message is queued, and the session is complete when the checklist is. -/
theorem sendGapMessage_inv {env : Env} {db db' : Db} {inp : SessionInput} {s : Session}
    {dealId : UUID} (h : sendGapMessage env db inp s dealId = .ok db') :
    ∃ checklist body id queued, buildChecklist db s.tenantId dealId = .ok checklist ∧
      enqueueReply db inp.outboxId inp.now s.tenantId s.contactId (some s.id) .text
        [("body", .str body)] (some ("gap_" ++ uuidStr s.id)) none = .ok (id, queued) ∧
      db' = if checklist.isComplete then markComplete queued inp.now s.id else queued := by
  obtain ⟨locale, -, h⟩ := bind_eq_ok.mp h
  obtain ⟨checklist, hchecklist, h⟩ := bind_eq_ok.mp h
  obtain ⟨⟨header, body⟩, -, h⟩ := bind_eq_ok.mp h
  obtain ⟨⟨id, queued⟩, hqueued, h⟩ := bind_eq_ok.mp h
  exact ⟨checklist, body, id, queued, hchecklist, hqueued, (Except.ok.inj h).symm⟩

/-- A fuzzy match: raise a review task and park. -/
def ambiguousBranch (db : Db) (inp : SessionInput) (s : Session) (found : DealMatch) : Db :=
  parkSession (raiseAmbiguousReview db inp.reviewId s.tenantId found ("session:" ++ uuidStr s.id))
    s.id "deal_ambiguous"

/-- An exact match: confirm the deal, satisfy its checklist, send the gap message. -/
def exactBranch (env : Env) (db : Db) (inp : SessionInput) (s : Session) (files : List RowMapping)
    (found : DealMatch) : Except Error Db :=
  let confirmed := confirmDeal db inp.now s.tenantId found.dealId s.contactId
  sendGapMessage env (satisfyConfirmedFiles confirmed inp.now found.dealId files) inp s found.dealId

/-- The deal decision: `find_existing_deal` and its three branches. -/
def decideDeal (env : Env) (db : Db) (inp : SessionInput) (s : Session) (orgUnitId : UUID)
    (files : List RowMapping) (fields : BookingFields) : Except Error Db := do
  let found ← findExistingDeal env db s.tenantId
    (orElse fields.bookingNumber (fallbackNumber s.id)) fields.customerName fields.model
    fields.bookingDate
  match found with
  | none => createBranch env db inp s orgUnitId files fields
  | some m =>
    if m.isExact then exactBranch env db inp s files m
    else .ok (ambiguousBranch db inp s m)

/-- The session with a given id. -/
def sessionById (db : Db) (sessionId : UUID) : Option Session :=
  db.sessions.rows.find? fun s => s.id == sessionId

/-- A lookup after an update finds the row as the update leaves it. -/
theorem sessionById_updateSessions (db : Db) (p : Session → Bool) (f : Session → Session)
    (hf : ∀ s, p s = true → (f s).id = s.id ∧ (f s).contactId = s.contactId ∧
      ((f s).state.isOpen = true → s.state.isOpen = true)) (sessionId : UUID) :
    sessionById (db.updateSessions p f hf) sessionId =
      (sessionById db sessionId).map (patch p f) := by
  unfold sessionById Db.updateSessions
  rw [Table.find?_update db.sessions fun s hs => by rw [(hf s hs).1]]

theorem sessionById_congr {db db' : Db} {sessionId : UUID} (h : db'.sessions = db.sessions) :
    sessionById db' sessionId = sessionById db sessionId := by
  unfold sessionById
  rw [h]

/-- The transaction of `process_session`. -/
def sessionTransaction (env : Env) (db : Db) (inp : SessionInput) (s : Session) :
    Except Error Db :=
  match s.orgUnitId with
  | none => .error .valueError
  | some orgUnitId => do
    let files := getSessionFiles db s.id
    match ← sessionGate env files with
    | .parked note => return parkSession db s.id note
    | .ready fields => decideDeal env db inp s orgUnitId files fields

/-- A session that is not parked goes to the deal decision. -/
theorem sessionTransaction_inv {env : Env} {db db' : Db} {inp : SessionInput} {s : Session}
    (h : sessionTransaction env db inp s = .ok db') :
    (∃ note, sessionGate env (getSessionFiles db s.id) = .ok (.parked note) ∧
      db' = parkSession db s.id note) ∨
    ∃ orgUnitId fields, sessionGate env (getSessionFiles db s.id) = .ok (.ready fields) ∧
      decideDeal env db inp s orgUnitId (getSessionFiles db s.id) fields = .ok db' := by
  unfold sessionTransaction at h
  split at h
  · contradiction
  · rename_i orgUnitId _
    obtain ⟨gate, hgate, h⟩ := bind_eq_ok.mp h
    cases gate with
    | parked note =>
      cases h
      exact Or.inl ⟨note, hgate, rfl⟩
    | ready fields => exact Or.inr ⟨orgUnitId, fields, hgate, h⟩

/-- `process_session`; an exception rolls the transaction back. -/
def processSession (env : Env) (db : Db) (inp : SessionInput) (sessionId : UUID) : TaskResult :=
  match sessionById db sessionId with
  | none => ⟨db, [], false⟩
  | some s =>
    match sessionTransaction env db inp s with
    | .ok db' => ⟨db', [], false⟩
    | .error _ => ⟨db, [], true⟩

/-- The database after a run: unchanged, or as the transaction of the session commits it. -/
theorem processSession_cases (env : Env) (db : Db) (inp : SessionInput) (sessionId : UUID) :
    (processSession env db inp sessionId).db = db ∨
      ∃ s db', sessionById db sessionId = some s ∧ sessionTransaction env db inp s = .ok db' ∧
        (processSession env db inp sessionId).db = db' := by
  unfold processSession
  split
  · exact Or.inl rfl
  · rename_i s hs
    split
    · rename_i db' htx
      exact Or.inr ⟨s, db', hs, htx, rfl⟩
    · exact Or.inl rfl

end WaService
