import WaService.Worker.Inbox

/-!
# Requests and inbox tasks

Two systems over the database. In the first, webhook bodies arrive one after the
other, each processed before the next one arrives: a delivery is a step when the body
is correctly signed, the request is answered and the stored row, if there is one, is
processed without failure. In the second, requests with any signature and inbox tasks
follow each other in any order.
-/

namespace WaService

open Python

/-! ## Deliveries -/

/-- A webhook request, and the generated ids of the task that processes its row. -/
structure Delivery where
  newId : Nat
  rawBody : List UInt8
  hubSignature : Option String
  inp : InboxInput

/-- The state of an inbox row. -/
def inboxState (db : Db) (inboxId : Nat) : Option InboxState := (inboxRow db inboxId).map (·.state)

/-- Deliver a signed body and process it. -/
def deliver (env : Env) (db : Db) (d : Delivery) : Option Db :=
  let r := receiveWebhook env db d.newId d.rawBody d.hubSignature true
  if verifySignature env d.rawBody d.hubSignature = .ok true ∧ r.answered = true then
    match r.jobs with
    | [] => some r.db
    | _ :: _ =>
      let t := processInboxRow env r.db d.inp d.newId
      if inboxState t.db d.newId = some .done then some t.db else none
  else none

/-! ## Requests and tasks in any order -/

/-- A webhook request, or an inbox task. -/
inductive IntakeAction where
  | request (newId : Nat) (rawBody : List UInt8) (hubSignature : Option String)
  | process (inboxId : Nat) (inp : InboxInput)

/-- The row that a request may store, or that a task reads. -/
def IntakeAction.inboxId : IntakeAction → Nat
  | .request newId _ _ => newId
  | .process inboxId _ => inboxId

/-- A request needs an unused id; a task may run at any time and any number of times. -/
def intakeStep (env : Env) (db : Db) : IntakeAction → Option Db
  | .request newId rawBody hubSignature =>
    if db.inbox.rows.any (·.id == newId) then none
    else some (receiveWebhook env db newId rawBody hubSignature true).db
  | .process inboxId inp => some (processInboxRow env db inp inboxId).db

end WaService
