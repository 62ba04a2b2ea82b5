import WaService.Wa.Client
import WaService.Wa.Outbox

/-!
# Draining the outbox

`send_outbox` claims a batch in one transaction and then goes through its rows: it
looks up the contact and a route, sends, and records the outcome in a transaction
of its own. An exception other than a `WaApiError` ends the drain.
-/

namespace WaService

open Python Relational

/-- What is to be done with a claimed row. -/
inductive RowPlan where
  /-- The contact is gone; the row is passed over. -/
  | skip
  /-- Fail the row for good with this error. -/
  | refuse (error : String)
  | send (call : SendRequest)
  /-- An exception that nothing catches. -/
  | raise
  deriving Repr

/-- The content of a row by its kind; none for a kind that is never sent. -/
def outboxContent (kind : OutboxKind) (payload : Json) : Except Error (Option SendContent) :=
  match kind with
  | .text => do
    let body ← payload.get "body" (.str "")
    return some (.text body)
  | .interactive => do
    let type ← payload.get "type" .null
    if type.eqStr "buttons" then
      let header ← payload.get "header" .null
      let body ← payload.get "body" (.str "")
      let footer ← payload.get "footer" .null
      let buttons ← payload.get "buttons" (.arr [])
      return some (.interactiveButtons header body footer buttons)
    else return none
  | .template => do
    let name ← payload.getItem "name"
    let language ← payload.get "language" (.str "en")
    let components ← payload.get "components" .null
    return some (.template name language components)
  | .list | .audio => return none

/-- The number that a drain sends from for a tenant: the first active route. -/
def drainRoute (db : Db) (tenantId : UUID) : Option Route :=
  db.routes.rows.find? fun r => r.tenantId == tenantId && r.active

/-- The lookups for one row, up to the call of Meta. -/
def planRow (env : Env) (db : Db) (row : Outbox) : RowPlan :=
  match decodePayload env row.payload with
  | .error _ => .raise
  | .ok payload =>
    match db.contacts.rows.find? fun c => c.id == row.contactId with
    | none => .skip
    | some contact =>
      match drainRoute db contact.tenantId with
      | none => .refuse "NO_ROUTE"
      | some route =>
        match outboxContent row.kind payload with
        | .error _ => .raise
        | .ok none => .refuse "UNKNOWN_KIND"
        | .ok (some content) => .send ⟨route.phoneNumberId, contact.phoneE164, content⟩

/-- `mark_sent` or `mark_failed` after the answer of Meta. -/
def markOutcome (env : Env) (db : Db) (now : Timestamp) (outboxId : Nat) :
    SendOutcome → Except Error Db
  | .ok wamid => do
    let text ← sqlText env wamid
    return markSent db now outboxId text
  | .failed code _ retryable => do
    let text ← sqlText env (.str code)
    return markFailed db now outboxId text (!retryable)
  | .raised => .error .valueError

/-- The calls and the clock of one drain. -/
structure DrainCalls where
  now : Timestamp
  /-- Rows that other transactions have locked. -/
  locked : List Nat
  client : SendRequest → SendOutcome

/-- Go through the claimed rows; the flag says whether the drain raised. -/
def drainRows (env : Env) (calls : DrainCalls) : Db → List Outbox → Db × Bool
  | db, [] => (db, false)
  | db, row :: rest =>
    match planRow env db row with
    | .skip => drainRows env calls db rest
    | .refuse error => drainRows env calls (markFailed db calls.now row.id (some error) true) rest
    | .raise => (db, true)
    | .send call =>
      match markOutcome env db calls.now row.id (calls.client call) with
      | .ok db' => drainRows env calls db' rest
      | .error _ => (db, true)

/-- `send_outbox`. -/
def sendOutbox (env : Env) (db : Db) (calls : DrainCalls) : Db × Bool :=
  let (rows, claimed) := claimPending db calls.now calls.locked 20
  drainRows env calls claimed rows

/-! ## Tables -/

theorem markFailed_frame (db : Db) (now : Timestamp) (outboxId : Nat) (error : Option String)
    (permanent : Bool) :
    ∃ outbox, markFailed db now outboxId error permanent = { db with outbox := outbox } := by
  unfold markFailed
  split
  · exact ⟨_, rfl⟩
  · exact ⟨_, rfl⟩

theorem markOutcome_frame {env : Env} {db db' : Db} {now : Timestamp} {outboxId : Nat}
    {outcome : SendOutcome} (h : markOutcome env db now outboxId outcome = .ok db') :
    ∃ outbox, db' = { db with outbox := outbox } := by
  cases outcome with
  | ok wamid =>
    obtain ⟨text, -, h⟩ := bind_eq_ok.mp h
    cases h
    exact ⟨_, rfl⟩
  | failed code message retryable =>
    obtain ⟨text, -, h⟩ := bind_eq_ok.mp h
    cases h
    exact markFailed_frame db now outboxId text (!retryable)
  | raised => contradiction

/-- A drain writes the outbox, and no other table. -/
theorem drainRows_frame (env : Env) (db : Db) (calls : DrainCalls) (rows : List Outbox) :
    ∃ outbox, (drainRows env calls db rows).1 = { db with outbox := outbox } := by
  induction rows generalizing db with
  | nil => exact ⟨_, rfl⟩
  | cons row rest ih =>
    unfold drainRows
    split
    · exact ih db
    · rename_i error _
      obtain ⟨outbox, hmark⟩ := markFailed_frame db calls.now row.id (some error) true
      rw [hmark]
      obtain ⟨outbox', hrest⟩ := ih { db with outbox := outbox }
      exact ⟨outbox', hrest⟩
    · exact ⟨_, rfl⟩
    · split
      · rename_i db' hmark
        obtain ⟨outbox, rfl⟩ := markOutcome_frame hmark
        obtain ⟨outbox', hrest⟩ := ih { db with outbox := outbox }
        exact ⟨outbox', hrest⟩
      · exact ⟨_, rfl⟩

theorem sendOutbox_frame (env : Env) (db : Db) (calls : DrainCalls) :
    ∃ outbox, (sendOutbox env db calls).1 = { db with outbox := outbox } := by
  obtain ⟨outbox, h⟩ := drainRows_frame env (claimPending db calls.now calls.locked 20).2 calls
    (claimPending db calls.now calls.locked 20).1
  exact ⟨outbox, h⟩

end WaService
