import WaService.Schema.Environment

/-!
# Signature verification and the inbox

`verify_signature`, the extractors that index into an arbitrary decoded body,
`insert_inbox` with its deduplication by the first message's wamid, and the
handler `receive_webhook`, which answers 200 or fails with an exception.
-/

namespace WaService

open Python

/-- `s.startswith(prefix)` on characters. -/
def startsWith (s : String) (start : List Char) : Bool := start.isPrefixOf s.toList

/-- Every character is ASCII, as `hmac.compare_digest` demands of strings. -/
def isAscii (s : String) : Bool := s.toList.all fun c => c.toNat < 128

/-- `X-Hub-Signature-256` matches the HMAC of the raw body. -/
def verifySignature (env : Env) (rawBody : List UInt8) (hubSignature : Option String) :
    Except Error Bool :=
  match hubSignature with
  | none => .ok false
  | some sig =>
    if startsWith sig "sha256=".toList then
      let received := String.ofList (sig.toList.drop 7)
      let expected := env.hmacSha256Hex env.waAppSecret rawBody
      if isAscii expected && isAscii received then .ok (expected == received)
      else .error .typeError
    else .ok false

/-- `payload["entry"][0]["changes"][0]["value"]`. -/
def firstValue (payload : Json) : Except Error Json := do
  let entries ← payload.getItem "entry"
  let entry ← entries.item0
  let changes ← entry.getItem "changes"
  let change ← changes.item0
  change.getItem "value"

/-- The id of the first message, or null. -/
def extractWamid (payload : Json) : Except Error Json :=
  onLookupError .null do
    let value ← firstValue payload
    let messages ← value.getItem "messages"
    if messages.truthy then
      let message ← messages.item0
      message.get "id" .null
    else return .null

/-- The business number the payload was sent to, or null. -/
def extractPhoneNumberId (payload : Json) : Except Error Json :=
  onLookupError .null do
    let value ← firstValue payload
    let metadata ← value.getItem "metadata"
    metadata.getItem "phone_number_id"

/-- A body that is a JSON text is never stored, so the payload of a row is the stored
value. -/
theorem decodePayload_of_number {env : Env} {row payload number : Json}
    (h : decodePayload env row = .ok payload) (hnumber : extractPhoneNumberId row = .ok number) :
    payload = row := by
  cases row with
  | obj fields =>
    cases h
    rfl
  | str s =>
    -- Subscripting a string with a key raises, so the row was never stored.
    cases hnumber
  | _ => cases h

/-- `SELECT 1 FROM wa.inbox WHERE wamid = :wamid`, asked only for a non-null wamid. -/
def inboxHolds (db : Db) (wamid : Json) : Except Error Bool :=
  match wamid with
  | .null => .ok false
  | w => do
    let text ← selectText w
    return db.inbox.rows.any fun r => r.wamid == some text

/-- The insert into `wa.inbox`. -/
def writeInbox (env : Env) (db : Db) (newId : Nat) (wamid phoneNumberId payload : Json)
    (signatureOk : Bool) : Except Error Db := do
  let wamidText ← sqlText env wamid
  let numberText ← sqlText env phoneNumberId
  if payload.storable then
    match db.inbox.insert? ⟨newId, wamidText, numberText, payload, signatureOk, .pending⟩ with
    | some inbox => return { db with inbox := inbox }
    | none => throw .integrityError
  else throw .dataError

/-- Write one row to `wa.inbox`; no id when the body is not JSON or its wamid is known. -/
def insertInbox (env : Env) (db : Db) (newId : Nat) (rawBody : List UInt8) (signatureOk : Bool) :
    Except Error (Option Nat × Db) :=
  match env.jsonLoads rawBody with
  | none => .ok (none, db)
  | some payload => do
    let wamid ← extractWamid payload
    let phoneNumberId ← extractPhoneNumberId payload
    let known ← inboxHolds db wamid
    if known then return (none, db)
    else
      let db' ← writeInbox env db newId wamid phoneNumberId payload signatureOk
      return (some newId, db')

/-- A write of the inbox inserts the row with the given values. -/
theorem writeInbox_ok {env : Env} {db db' : Db} {newId : Nat}
    {wamid phoneNumberId payload : Json} {signatureOk : Bool}
    (h : writeInbox env db newId wamid phoneNumberId payload signatureOk = .ok db') :
    ∃ w n inbox, sqlText env wamid = .ok w ∧ sqlText env phoneNumberId = .ok n ∧
      db.inbox.insert? ⟨newId, w, n, payload, signatureOk, .pending⟩ = some inbox ∧
      db' = { db with inbox := inbox } := by
  obtain ⟨w, hw, h⟩ := bind_eq_ok.mp h
  obtain ⟨n, hn, h⟩ := bind_eq_ok.mp h
  split at h
  · split at h
    · rename_i inbox hins
      cases h
      exact ⟨w, n, inbox, hw, hn, hins, rfl⟩
    · contradiction
  · contradiction

/-- A stored body is a JSON value whose wamid the inbox did not hold. -/
theorem insertInbox_ok {env : Env} {db db' : Db} {newId : Nat} {rawBody : List UInt8}
    {signatureOk : Bool} {id : Option Nat}
    (h : insertInbox env db newId rawBody signatureOk = .ok (id, db')) :
    (id = none ∧ db' = db) ∨ (id = some newId ∧ ∃ payload wamid number,
      env.jsonLoads rawBody = some payload ∧ extractWamid payload = .ok wamid ∧
      extractPhoneNumberId payload = .ok number ∧ inboxHolds db wamid = .ok false ∧
      writeInbox env db newId wamid number payload signatureOk = .ok db') := by
  unfold insertInbox at h
  split at h
  · cases h
    exact Or.inl ⟨rfl, rfl⟩
  · rename_i payload hload
    obtain ⟨wamid, hw, h⟩ := bind_eq_ok.mp h
    obtain ⟨number, hn, h⟩ := bind_eq_ok.mp h
    obtain ⟨known, hk, h⟩ := bind_eq_ok.mp h
    split at h
    · cases h
      exact Or.inl ⟨rfl, rfl⟩
    · rename_i hnot
      obtain ⟨db₁, hwrite, h⟩ := bind_eq_ok.mp h
      cases h
      rw [Bool.not_eq_true] at hnot
      exact Or.inr ⟨rfl, payload, wamid, number, hload, hw, hn, by rw [hk, hnot], hwrite⟩

/-- What one webhook request leaves behind. -/
structure WebhookResult where
  db : Db
  /-- Jobs that the dispatch put in the queue. -/
  jobs : List Job
  /-- The handler returned `{}`; otherwise it failed with an exception. -/
  answered : Bool

/-- `POST /wa/webhook`. A failing dispatch is logged and the answer is still 200. -/
def receiveWebhook (env : Env) (db : Db) (newId : Nat) (rawBody : List UInt8)
    (hubSignature : Option String) (dispatched : Bool) : WebhookResult :=
  match verifySignature env rawBody hubSignature with
  | .error _ => ⟨db, [], false⟩
  | .ok signatureOk =>
    match insertInbox env db newId rawBody signatureOk with
    | .error _ => ⟨db, [], false⟩
    | .ok (none, db') => ⟨db', [], true⟩
    | .ok (some inboxId, db') => ⟨db', if dispatched then [.processInboxRow inboxId] else [], true⟩

/-- A request writes the inbox, and no other table. -/
theorem receiveWebhook_frame (env : Env) (db : Db) (newId : Nat) (rawBody : List UInt8)
    (hubSignature : Option String) (dispatched : Bool) :
    ∃ inbox, (receiveWebhook env db newId rawBody hubSignature dispatched).db =
      { db with inbox := inbox } := by
  have hstored : ∀ signatureOk id db',
      insertInbox env db newId rawBody signatureOk = .ok (id, db') →
      ∃ inbox, db' = { db with inbox := inbox } := by
    intro signatureOk id db' h
    rcases insertInbox_ok h with ⟨-, rfl⟩ | ⟨-, payload, wamid, number, -, -, -, -, hwrite⟩
    · exact ⟨_, rfl⟩
    · obtain ⟨w, n, inbox, -, -, -, rfl⟩ := writeInbox_ok hwrite
      exact ⟨inbox, rfl⟩
  unfold receiveWebhook
  split
  · exact ⟨_, rfl⟩
  · split
    · exact ⟨_, rfl⟩
    · exact hstored _ _ _ ‹_›
    · exact hstored _ _ _ ‹_›

end WaService
