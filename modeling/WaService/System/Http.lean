import WaService.Api.Auth
import WaService.Core.Refinement
import WaService.System.World

/-!
# The service behind its authentication

Every operation under `/v1` depends on `require_caller`. A request arrives with its header; the
operation runs only for a caller that is let in, whose name the send operation records. Webhook
requests, tasks and ticks arrive as before.
-/

namespace WaService

open Transition

/-- A request of the API as it arrives. -/
structure ApiRequest where
  authorization : Option String
  inp : ApiInput
  tenantId : UUID
  op : Operation

/-- The operation with the caller that `require_caller` returns: `send_message` records its name,
and the others only depend on it. -/
def Operation.calledBy (caller : Caller) : Operation → Operation
  | .sendMessage request => .sendMessage { request with caller := caller.name }
  | op => op

/-- The answer to a request. -/
def serve (env : Env) (waApiTokens : String) (db : Db) (q : ApiRequest) : ApiResult :=
  match requireCaller waApiTokens q.authorization with
  | .ok caller => handle env db q.inp q.tenantId (q.op.calledBy caller)
  | .refused status detail _ => ⟨db, .error status (.str detail), []⟩
  | .raised => ⟨db, .raised, []⟩

/-- What arrives at the service, or starts in it. -/
inductive Visit where
  | request (q : ApiRequest)
  | webhook (newId : Nat) (rawBody : List UInt8) (hubSignature : Option String) (dispatched : Bool)
  | execute (e : Execution) (redelivered : Bool)
  | flush (now : Timestamp) (deferOk : Nat → Bool)
  | drain (calls : DrainCalls)

/-- A step of the service with its authentication. -/
def visitStep (env : Env) (waApiTokens : String) (w : World) : Visit → Option World
  | .request q => some ⟨(serve env waApiTokens w.db q).db, w.jobs⟩
  | .webhook newId rawBody hubSignature dispatched =>
    worldStep env w (.webhook newId rawBody hubSignature dispatched)
  | .execute e redelivered => worldStep env w (.execute e redelivered)
  | .flush now deferOk => worldStep env w (.flush now deferOk)
  | .drain calls => worldStep env w (.drain calls)

/-- The step that a visit comes to: none for a request whose caller is not let in. -/
def Visit.admitted (waApiTokens : String) : Visit → Option Action
  | .request q =>
    match requireCaller waApiTokens q.authorization with
    | .ok caller => some (.api q.inp q.tenantId (q.op.calledBy caller))
    | .refused _ _ _ | .raised => none
  | .webhook newId rawBody hubSignature dispatched =>
    some (.webhook newId rawBody hubSignature dispatched)
  | .execute e redelivered => some (.execute e redelivered)
  | .flush now deferOk => some (.flush now deferOk)
  | .drain calls => some (.drain calls)

/-! ## Runs -/

variable {env : Env} {waApiTokens : String}

/-- A visit that is admitted takes its step, and another one leaves no trace. -/
theorem visitStep_eq (w : World) (v : Visit) : visitStep env waApiTokens w v =
    (v.admitted waApiTokens).elim (some w) (worldStep env w) := by
  cases v with
  | request q =>
    simp only [visitStep, serve, Visit.admitted]
    cases requireCaller waApiTokens q.authorization with
    | ok caller => rfl
    | refused status detail headers => rfl
    | raised => rfl
  | webhook newId rawBody hubSignature dispatched => rfl
  | execute e redelivered => rfl
  | flush now deferOk => rfl
  | drain calls => rfl

/-- The service behind its authentication runs as the service does on the admitted steps. -/
theorem run_visits (w : World) (vs : List Visit) : run (visitStep env waApiTokens) w vs =
    run (worldStep env) w (vs.filterMap (Visit.admitted waApiTokens)) :=
  run_filterMap visitStep_eq w vs

end WaService
