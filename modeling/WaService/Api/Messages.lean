import Mathlib.Data.List.Sort
import WaService.Api.Schemas
import WaService.Wa.Client

/-!
# Sending a message through the API

`send_message` is three transactions around one call of Meta: `_reserve` finds or
inserts the record of the request, `_ok` and `_fail` write the outcome to it. Each
transaction is a definition of its own, so that their interleavings can be studied.
-/

namespace WaService

open Python Relational

/-- One `POST /v1/tenants/{t}/messages`. -/
structure SendMessage where
  body : SendMessageRequest
  caller : String
  idempotencyKey : Option String
  deriving Repr

/-- An update of API messages that keeps identity, tenant and idempotency key. -/
theorem ApiMessage.keeps {p : ApiMessage → Bool} {f : ApiMessage → ApiMessage}
    (h : ∀ m, (f m).id = m.id ∧ (f m).tenantId = m.tenantId ∧
      (f m).idempotencyKey = m.idempotencyKey) : Table.Keeps p f :=
  Table.keeps_of fun m _ => by
    obtain ⟨hid, ht, hk⟩ := h m
    exact ⟨Or.inl (by rw [hid]), Or.inl (by simp only [idempotencyIndex, ht, hk])⟩

/-- `UPDATE wa.api_message`: apply `f` to the rows that `p` selects. -/
def Db.updateApiMessages (db : Db) (p : ApiMessage → Bool) (f : ApiMessage → ApiMessage)
    (h : ∀ m, (f m).id = m.id ∧ (f m).tenantId = m.tenantId ∧
      (f m).idempotencyKey = m.idempotencyKey) : Db :=
  { db with apiMessages := db.apiMessages.update p f (ApiMessage.keeps h) }

/-! ## Reserving -/

/-- The oldest active route of a tenant. -/
def firstActiveRoute (db : Db) (tenantId : UUID) : Option Route :=
  ((db.routes.rows.filter fun r => r.tenantId == tenantId && r.active).insertionSort
    fun a b => a.createdAt ≤ b.createdAt).head?

/-- The record of a tenant with an idempotency key. -/
def messageOfKey (db : Db) (tenantId : UUID) (key : String) : Option ApiMessage :=
  db.apiMessages.rows.find? fun m => m.tenantId == tenantId && m.idempotencyKey == some key

/-- The lookup under `if idempotency_key:`, which takes a lock on the record. -/
def existingRecord (db : Db) (tenantId : UUID) (key : Option String) : Option ApiMessage :=
  match key with
  | none => none
  | some k => if k == "" then none else messageOfKey db tenantId k

/-- An existing record has the tenant and the key that were asked for. -/
theorem existingRecord_eq_some {db : Db} {tenantId : UUID} {key : Option String} {m : ApiMessage}
    (h : existingRecord db tenantId key = some m) :
    m ∈ db.apiMessages.rows ∧ m.tenantId = tenantId ∧ m.idempotencyKey = key := by
  unfold existingRecord at h
  split at h
  · contradiction
  · split at h
    · contradiction
    · have hp := List.find?_some h
      simp only [Bool.and_eq_true, beq_iff_eq] at hp
      exact ⟨List.mem_of_find?_eq_some h, hp⟩

/-- The row that `_reserve` inserts. -/
def newMessage (newId : UUID) (now : Timestamp) (tenantId routeId : UUID) (rq : SendMessage)
    (kind : MessageKind) : ApiMessage where
  id := newId
  tenantId := tenantId
  routeId := routeId
  toE164 := rq.body.toE164
  kind := kind
  payload := rq.body.dump
  state := .pending
  wamid := none
  errorCode := none
  errorMessage := none
  retryable := none
  idempotencyKey := rq.idempotencyKey
  requestedBy := rq.caller
  createdAt := now
  sentAt := none

/-- The record that `_reserve` returns, found or new, with the number to send from. -/
inductive Reservation where
  | existing (record : ApiMessage) (phoneNumberId : String)
  | fresh (id : UUID) (phoneNumberId : String)
  deriving Repr

/-- The idempotency key contains no NUL. -/
def SendMessage.bindable (rq : SendMessage) : Bool := !(rq.idempotencyKey.any Json.hasNul)

/-- The insert of `_reserve`; a violated unique index is a 409. -/
def reserveInsert (db : Db) (newId : UUID) (now : Timestamp) (tenantId : UUID) (route : Route)
    (rq : SendMessage) (kind : MessageKind) : Except Response (Reservation × Db) :=
  if rq.body.dump.storable then
    match db.apiMessages.insert? (newMessage newId now tenantId route.id rq kind) with
    | some messages => .ok (.fresh newId route.phoneNumberId, { db with apiMessages := messages })
    | none => .error (.error 409 (.str "IDEMPOTENCY_KEY_IN_FLIGHT"))
  else .error .raised

/-- A reservation that was inserted. -/
theorem reserveInsert_eq_ok {db db' : Db} {newId : UUID} {now : Timestamp} {tenantId : UUID}
    {route : Route} {rq : SendMessage} {kind : MessageKind} {res : Reservation}
    (h : reserveInsert db newId now tenantId route rq kind = .ok (res, db')) :
    ∃ messages,
      db.apiMessages.insert? (newMessage newId now tenantId route.id rq kind) = some messages ∧
        res = .fresh newId route.phoneNumberId ∧ db' = { db with apiMessages := messages } := by
  unfold reserveInsert at h
  split at h
  · split at h
    · rename_i messages hins
      cases h
      exact ⟨messages, hins, rfl, rfl⟩
    · contradiction
  · contradiction

/-- The statements of `_reserve` before its insert: the route to send from, and the
record that an idempotency key already has. -/
def reserveSelect (db : Db) (tenantId : UUID) (rq : SendMessage) :
    Except Response (Route × Option ApiMessage) :=
  match firstActiveRoute db tenantId with
  | none => .error (.error 409 (.str "NO_ACTIVE_ROUTE"))
  | some route =>
    if rq.bindable then .ok (route, existingRecord db tenantId rq.idempotencyKey)
    else .error .raised

theorem reserveSelect_eq_ok {db : Db} {tenantId : UUID} {rq : SendMessage} {route : Route}
    {found : Option ApiMessage} (h : reserveSelect db tenantId rq = .ok (route, found)) :
    firstActiveRoute db tenantId = some route ∧
      existingRecord db tenantId rq.idempotencyKey = found := by
  unfold reserveSelect at h
  split at h
  · contradiction
  · rename_i hroute
    split at h
    · cases h
      exact ⟨hroute, rfl⟩
    · contradiction

/-- `_reserve`. -/
def reserve (db : Db) (newId : UUID) (now : Timestamp) (tenantId : UUID) (rq : SendMessage)
    (kind : MessageKind) : Except Response (Reservation × Db) :=
  match reserveSelect db tenantId rq with
  | .error response => .error response
  | .ok (route, some record) => .ok (.existing record route.phoneNumberId, db)
  | .ok (route, none) => reserveInsert db newId now tenantId route rq kind

/-! ## Deciding and sending -/

/-- What the handler does with its reservation. -/
inductive Decision where
  /-- Answer without a send. -/
  | answer (r : Response)
  /-- Send, and record the outcome on this row. -/
  | send (messageId : UUID) (phoneNumberId : String)
  deriving Repr

/-- The checks on an existing record: same body, not in flight, not sent already. -/
def decideSend (env : Env) (rq : SendMessage) : Reservation → Decision
  | .fresh id phoneNumberId => .send id phoneNumberId
  | .existing record phoneNumberId =>
    match decodePayload env record.payload with
    | .error _ => .answer .raised
    | .ok stored =>
      if stored.pyEq rq.body.dump then
        match record.state with
        | .sent => .answer (.message 200 record.out)
        | .pending => .answer (.error 409 (.str "IDEMPOTENCY_KEY_IN_FLIGHT"))
        -- Previously failed: retry on the same record.
        | .failed => .send record.id phoneNumberId
      else .answer (.error 422 (.str "IDEMPOTENCY_KEY_REUSED"))

/-- A send on an existing record is a retry of a failed one. -/
theorem decideSend_existing {env : Env} {rq : SendMessage} {m : ApiMessage}
    {number number' : String}
    {messageId : UUID} (h : decideSend env rq (.existing m number) = .send messageId number') :
    messageId = m.id ∧ m.state = .failed := by
  simp only [decideSend] at h
  split at h
  · contradiction
  · split at h
    · split at h <;> cases h
      rename_i hstate
      exact ⟨rfl, hstate⟩
    · contradiction

/-- An optional text argument. -/
def optionalText : Option String → Json
  | some s => .str s
  | none => .null

/-- The arguments of the send method for the body's kind. -/
def SendMessageRequest.content (b : SendMessageRequest) : SendContent :=
  match b.text, b.template, b.buttons with
  | _, some t, none => .template (.str t.name) (.str t.language) (componentsJson t.components)
  | _, none, some m =>
    .interactiveButtons (optionalText m.header) (.str m.body) (optionalText m.footer)
      (.arr (m.buttons.map Button.dump))
  | text, _, _ => .text (.str (text.getD ""))

/-! ## Recording the outcome -/

/-- The texts that `_fail` writes: the code, and the message cut to 500 characters. -/
def failTexts (env : Env) (code : String) (message : Json) :
    Except Error (Option String × Option String) := do
  let truncated ← slice500 message
  let errorCode ← sqlText env (.str code)
  let errorMessage ← sqlText env truncated
  return (errorCode, errorMessage)

/-- The row as `_fail` leaves it. -/
def ApiMessage.fail (texts : Option String × Option String) (retryable : Bool) (m : ApiMessage) :
    ApiMessage :=
  { m with
    state := .failed
    errorCode := texts.1
    errorMessage := texts.2
    retryable := some retryable }

/-- `_fail`. -/
def recordFail (env : Env) (db : Db) (messageId : UUID) (code : String) (message : Json)
    (retryable : Bool) : Except Error Db := do
  let texts ← failTexts env code message
  return db.updateApiMessages (fun m => m.id == messageId) (ApiMessage.fail texts retryable)
    fun _ => ⟨rfl, rfl, rfl⟩

/-- The row as `_ok` leaves it. -/
def ApiMessage.succeed (wamid : Option String) (now : Timestamp) (m : ApiMessage) : ApiMessage :=
  { m with
    state := .sent
    wamid := wamid
    sentAt := some now
    errorCode := none
    errorMessage := none
    retryable := none }

/-- `_ok`. -/
def recordOk (env : Env) (db : Db) (now : Timestamp) (messageId : UUID) (wamid : Json) :
    Except Error Db := do
  let wamidText ← sqlText env wamid
  return db.updateApiMessages (fun m => m.id == messageId) (ApiMessage.succeed wamidText now)
    fun _ => ⟨rfl, rfl, rfl⟩

/-- The record with a given id. -/
def messageById (db : Db) (messageId : UUID) : Option ApiMessage :=
  db.apiMessages.rows.find? fun m => m.id == messageId

/-- The message with a given id is the only row with that id. -/
theorem messageById_eq_some {db : Db} {id : UUID} {m : ApiMessage} :
    messageById db id = some m ↔ m ∈ db.apiMessages.rows ∧ m.id = id := by
  constructor
  · intro h
    exact ⟨List.mem_of_find?_eq_some h, by simpa using List.find?_some h⟩
  · rintro ⟨hm, rfl⟩
    refine Table.find?_eq_some_of_mem hm (by simp) fun b hb => ?_
    simp only [clash, sameKey, Bool.or_eq_true, beq_iff_eq] at hb ⊢
    exact Or.inl hb

/-- A lookup after an update of one message finds the updated row. -/
theorem messageById_update (db : Db) (messageId id : UUID) (f : ApiMessage → ApiMessage)
    (hf : ∀ m, (f m).id = m.id ∧ (f m).tenantId = m.tenantId ∧
      (f m).idempotencyKey = m.idempotencyKey) :
    messageById (db.updateApiMessages (fun m => m.id == messageId) f hf) id =
      (messageById db id).map (if id = messageId then f else fun m => m) := by
  unfold messageById Db.updateApiMessages
  rw [Table.find?_update db.apiMessages fun m _ => by rw [(hf m).1]]
  cases hm : db.apiMessages.rows.find? fun m => m.id == id with
  | none => rfl
  | some m =>
    have hid : m.id = id := by simpa using List.find?_some hm
    by_cases h : id = messageId
    · simp [h, patch, hid]
    · simp [h, patch, hid]

/-- What one request leaves behind. -/
structure ApiResult where
  db : Db
  response : Response
  /-- The calls made to Meta. -/
  calls : List SendRequest

/-- The detail of the 502 answer. -/
def rejectedDetail (code : String) (message : Json) (retryable : Bool) (messageId : UUID) : Json :=
  .obj [("code", .str code), ("message", message), ("retryable", .bool retryable),
    ("message_id", .str (uuidStr messageId))]

/-- Write the outcome of the send to the record and answer. -/
def concludeSend (env : Env) (db : Db) (now : Timestamp) (messageId : UUID) :
    SendOutcome → Db × Response
  | .raised => (db, .raised)
  | .failed code message retryable =>
    match recordFail env db messageId code message retryable with
    | .error _ => (db, .raised)
    | .ok db' => (db', .error 502 (rejectedDetail code message retryable messageId))
  | .ok wamid =>
    match recordOk env db now messageId wamid with
    | .error _ => (db, .raised)
    | .ok db' =>
      match messageById db' messageId with
      | some m => (db', .message 201 m.out)
      | none => (db', .raised)

/-- Generated values and calls outside the program, for one request. -/
structure ApiInput where
  now : Timestamp
  /-- The time of the transaction that follows the send. -/
  sentAt : Timestamp
  newId : UUID
  client : SendRequest → SendOutcome

/-- `send_message`. -/
def sendMessage (env : Env) (db : Db) (inp : ApiInput) (tenantId : UUID) (rq : SendMessage) :
    ApiResult :=
  match rq.body.kind with
  | none => ⟨db, .error 422 (.str "provide exactly one of: text, template, buttons"), []⟩
  | some kind =>
    match reserve db inp.newId inp.now tenantId rq kind with
    | .error response => ⟨db, response, []⟩
    | .ok (reservation, reserved) =>
      match decideSend env rq reservation with
      | .answer response => ⟨reserved, response, []⟩
      | .send messageId phoneNumberId =>
        let call : SendRequest := ⟨phoneNumberId, rq.body.toE164, rq.body.content⟩
        let (db', response) := concludeSend env reserved inp.sentAt messageId (inp.client call)
        ⟨db', response, [call]⟩

/-- `get_message`. -/
def getMessage (db : Db) (tenantId messageId : UUID) : Response :=
  match db.apiMessages.rows.find? fun m => m.id == messageId && m.tenantId == tenantId with
  | some m => .message 200 m.out
  | none => notFound "MESSAGE"

/-! ## The table that a send writes -/

/-- An outcome leaves the database as it is, or one of the two updates writes it to the record. -/
theorem concludeSend_db (env : Env) (db : Db) (now : Timestamp) (messageId : UUID)
    (outcome : SendOutcome) : (concludeSend env db now messageId outcome).1 = db ∨
      (∃ texts retryable, (concludeSend env db now messageId outcome).1 =
        db.updateApiMessages (fun m => m.id == messageId) (ApiMessage.fail texts retryable)
          fun _ => ⟨rfl, rfl, rfl⟩) ∨
      ∃ wamid text, outcome = .ok wamid ∧ sqlText env wamid = .ok text ∧
        (concludeSend env db now messageId outcome).1 =
          db.updateApiMessages (fun m => m.id == messageId) (ApiMessage.succeed text now)
            fun _ => ⟨rfl, rfl, rfl⟩ := by
  cases outcome with
  | raised => exact Or.inl rfl
  | failed code message retryable =>
    simp only [concludeSend, recordFail]
    cases failTexts env code message with
    | error e => exact Or.inl rfl
    | ok texts => exact Or.inr (Or.inl ⟨texts, retryable, rfl⟩)
  | ok wamid =>
    simp only [concludeSend, recordOk]
    cases htext : sqlText env wamid with
    | error e => exact Or.inl rfl
    | ok text =>
      refine Or.inr (Or.inr ⟨wamid, text, rfl, htext, ?_⟩)
      simp only [bind, Except.bind, pure, Except.pure]
      split
      · rfl
      · rfl

/-- Writing an outcome changes the API messages alone. -/
theorem concludeSend_tables (env : Env) (db : Db) (now : Timestamp) (messageId : UUID)
    (outcome : SendOutcome) : (concludeSend env db now messageId outcome).1 =
      { db with apiMessages := (concludeSend env db now messageId outcome).1.apiMessages } := by
  obtain hdb | ⟨texts, retryable, hdb⟩ | ⟨wamid, text, -, -, hdb⟩ :=
    concludeSend_db env db now messageId outcome
  · rw [hdb]
  · rw [hdb]
    rfl
  · rw [hdb]
    rfl

/-- A reservation changes the API messages alone. -/
theorem reserve_tables {db db' : Db} {newId : UUID} {now : Timestamp} {tenantId : UUID}
    {rq : SendMessage} {kind : MessageKind} {res : Reservation}
    (h : reserve db newId now tenantId rq kind = .ok (res, db')) :
    db' = { db with apiMessages := db'.apiMessages } := by
  unfold reserve at h
  split at h
  · contradiction
  · cases h
    rfl
  · obtain ⟨messages, -, -, rfl⟩ := reserveInsert_eq_ok h
    rfl

/-- Sending a message changes the API messages alone. -/
theorem sendMessage_tables (env : Env) (db : Db) (inp : ApiInput) (tenantId : UUID)
    (rq : SendMessage) : (sendMessage env db inp tenantId rq).db =
      { db with apiMessages := (sendMessage env db inp tenantId rq).db.apiMessages } := by
  unfold sendMessage
  split
  · rfl
  · split
    · rfl
    · rename_i reserved hres
      have hreserve := reserve_tables hres
      split
      · exact hreserve
      · rename_i messageId number _
        have hsend := concludeSend_tables env reserved inp.sentAt messageId
          (inp.client ⟨number, rq.body.toE164, rq.body.content⟩)
        apply hsend.trans
        rw [hreserve]

end WaService
