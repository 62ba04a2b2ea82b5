import WaService.Core.JsonEq
import WaService.Correctness.IdempotencyTable

/-!
# Reused idempotency keys

The dump of a request is compared with the stored dump by Python's `==`, to which a boolean is a
number. Between bodies that differ in nothing else, as `{"flag": true}` and `{"flag": 1}` in a
template component, a reuse of the key goes unnoticed: the second body is taken for a retry of the
first. On all other pairs of bodies the comparison is exact.
-/

namespace WaService

open Python Relational Transition

/-- Two bodies are the same request: their dumps are the same JSON value. -/
def SendMessageRequest.same (a b : SendMessageRequest) : Bool := a.dump.same b.dump

/-- The checks before the lookup of the key are passed: the body has one kind, and the tenant an
active route. -/
def Admitted (db : Db) (tenantId : UUID) (rq : SendMessage) : Prop :=
  rq.body.kind.isSome = true ∧ (firstActiveRoute db tenantId).isSome = true

section Answers

variable {env : Env} {db : Db} {inp : ApiInput} {tenantId : UUID} {rq : SendMessage}
  {m : ApiMessage} {kind : MessageKind} {route : Route}

end Answers

end WaService
