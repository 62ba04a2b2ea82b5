import WaService.Api.Routes
import WaService.System.Sends

/-!
# Runs of the API

Concurrent sends, requests of every other kind between their steps, and the other
components beside them. `wa.api_message` is written by `send_message` alone, so a
transaction elsewhere may leave anything in the other tables.
-/

namespace WaService

open Transition

/-- One step of the API, or of a component beside it. -/
inductive ApiAction (ι : Type) where
  /-- A step of one of the concurrent sends. -/
  | send (a : SendAction ι)
  /-- A request that nothing interrupts. -/
  | request (inp : ApiInput) (tenantId : UUID) (op : Operation)
  /-- A transaction elsewhere, which leaves these tables except for the API messages. -/
  | elsewhere (db : Db)

/-- A change of the database between the steps of the sends. -/
def SendShared.withDb {ι : Type} (s : SendShared ι) (db : Db) : SendShared ι := { s with db := db }

/-- The steps of the API. -/
def apiStep {ι : Type} [DecidableEq ι] (env : Env) (posts : ι → Post) (c : Sends ι) :
    ApiAction ι → Option (Sends ι)
  | .send a => sendStep env posts c a
  | .request inp tenantId op =>
    some ⟨c.shared.withDb (handle env c.shared.db inp tenantId op).db, c.phase⟩
  | .elsewhere db =>
    some ⟨c.shared.withDb { db with apiMessages := c.shared.db.apiMessages }, c.phase⟩

/-- A database on which the API has not sent yet: after the migrations `wa.api_message` is
empty, and the other tables hold anything. -/
def apiStart {ι : Type} (db : Db) : Sends ι := sendStart { db with apiMessages := .empty }

end WaService
