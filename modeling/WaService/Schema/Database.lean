import WaService.Schema.Rows

/-!
# The database of the service

The unique indexes of the migrations, and the database as one table per relation.
Every state of the database satisfies its unique indexes by construction.
-/

namespace WaService

open Relational

/-- Primary key, and `phone_number_id`. -/
instance : UniqueKeys Route := .of (fun r => some r.id) (fun r => some r.phoneNumberId)

/-- Primary key, and `wamid` where it is not null. -/
instance : UniqueKeys Inbox := .of (fun r => some r.id) (fun r => r.wamid)

/-- Primary key, and `phone_e164`. -/
instance : UniqueKeys Contact := .of (fun c => some c.id) (fun c => some c.phoneE164)

/-- Primary key, and `(tenant_id, booking_number)`. -/
instance : UniqueKeys Deal := .of (fun d => some d.id) (fun d => some (d.tenantId, d.bookingNumber))

/-- Primary key, and `(deal_id, reason)` where the deal is not null. -/
instance : UniqueKeys ReviewTask :=
  .of (fun t => some t.id) (fun t => t.dealId.map fun d => (d, t.reason))

/-- Primary key, and `(deal_id, type_key)`. -/
instance : UniqueKeys ChecklistItem :=
  .of (fun i => some i.id) (fun i => some (i.dealId, i.typeKey))

/-- The key of a session in the index `wa_session_one_open_per_contact`. -/
def Session.openContact (s : Session) : Option UUID :=
  if s.state.isOpen = true then some s.contactId else none

/-- Primary key, and at most one open session for a contact. -/
instance : UniqueKeys Session := .of (fun s => some s.id) Session.openContact

/-- Primary key, and `wamid`. -/
instance : UniqueKeys File := .of (fun f => some f.id) (fun f => some f.wamid)

/-- Primary key alone. -/
instance : UniqueKeys Outbox := .of (fun o => some o.id) (fun _ => (none : Option Nat))

/-- The key of a message in the index `wa_api_message_idem`. -/
def ApiMessage.idempotencyIndex (m : ApiMessage) : Option (UUID × String) :=
  m.idempotencyKey.map fun k => (m.tenantId, k)

/-- Primary key, and the idempotency key within its tenant. -/
instance : UniqueKeys ApiMessage := .of (fun m => some m.id) ApiMessage.idempotencyIndex

/-- The tables the service reads and writes. -/
structure Db where
  routes : Table Route
  inbox : Table Inbox
  contacts : Table Contact
  deals : Table Deal
  reviewTasks : Table ReviewTask
  checklistItems : Table ChecklistItem
  sessions : Table Session
  files : Table File
  outbox : Table Outbox
  apiMessages : Table ApiMessage

/-- The database right after the migrations. -/
def Db.empty : Db :=
  ⟨.empty, .empty, .empty, .empty, .empty, .empty, .empty, .empty, .empty, .empty⟩

instance : Inhabited Db := ⟨.empty⟩

end WaService
