import WaService.System.World

/-!
# The service and the operations on sessions

The steps of the service, and the functions of the session state machine that no task calls or
that a task calls under its own conditions: parking, escalating, confirming the deal.
-/

namespace WaService

/-- A step of the service, or one operation on a session. -/
inductive SessionAction where
  | world (a : Action)
  | park (sessionId : UUID) (note : String)
  | escalate (sessionId : UUID) (note : String)
  | confirm (now : Timestamp) (sessionId : UUID)

/-- The steps; an operation runs in a transaction of its own. -/
def sessionStep (env : Env) (w : World) : SessionAction → Option World
  | .world a => worldStep env w a
  | .park sessionId note => some { w with db := parkSession w.db sessionId note }
  | .escalate sessionId note => some { w with db := escalateSession w.db sessionId note }
  | .confirm now sessionId => some { w with db := confirmSessionDeal w.db now sessionId }

end WaService
