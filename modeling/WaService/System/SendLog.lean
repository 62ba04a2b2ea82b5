import WaService.System.ApiRuns

/-!
# A log of the accepted sends

Beside the API, the log keeps each send that Meta answered with a wamid: the record it
was made for, the number it went out through, and the wamid.
-/

namespace WaService

open Python

/-- A send that Meta accepted. -/
structure AcceptedSend where
  messageId : UUID
  phoneNumberId : String
  wamid : Json
  deriving Repr

/-- The send that an answer of Meta accepts. -/
def acceptedBy (messageId : UUID) (phoneNumberId : String) : SendOutcome → List AcceptedSend
  | .ok wamid => [⟨messageId, phoneNumberId, wamid⟩]
  | .failed _ _ _ | .raised => []

/-- The send that a step of the concurrent sends sees accepted. -/
def acceptedInStep {ι : Type} (c : Sends ι) : SendAction ι → List AcceptedSend
  | .answer i outcome _ =>
    match c.phase i with
    | .sending messageId phoneNumberId => acceptedBy messageId phoneNumberId outcome
    | _ => []
  | .select _ | .insert _ _ _ | .record _ _ => []

/-- The send that a request sees accepted when nothing interrupts it. -/
def acceptedInRequest (env : Env) (db : Db) (inp : ApiInput) (tenantId : UUID) :
    Operation → List AcceptedSend
  | .sendMessage rq =>
    match rq.body.kind with
    | none => []
    | some kind =>
      match reserve db inp.newId inp.now tenantId rq kind with
      | .error _ => []
      | .ok (reservation, _) =>
        match decideSend env rq reservation with
        | .answer _ => []
        | .send messageId phoneNumberId =>
          acceptedBy messageId phoneNumberId
            (inp.client ⟨phoneNumberId, rq.body.toE164, rq.body.content⟩)
  | _ => []

/-- The API, and the log of its accepted sends. -/
structure SendLog (ι : Type) where
  sends : Sends ι
  accepted : List AcceptedSend

/-- The database of the API. -/
def SendLog.db {ι : Type} (s : SendLog ι) : Db := s.sends.shared.db

/-- One step of the API: of a send among the concurrent ones, or a request of any kind that
nothing interrupts. -/
inductive AuditAction (ι : Type) where
  | send (a : SendAction ι)
  | request (inp : ApiInput) (tenantId : UUID) (op : Operation)

/-- The steps of the API with their log. -/
def auditStep {ι : Type} [DecidableEq ι] (env : Env) (posts : ι → Post) (s : SendLog ι) :
    AuditAction ι → Option (SendLog ι)
  | .send a =>
    (apiStep env posts s.sends (.send a)).map fun c =>
      ⟨c, acceptedInStep s.sends a ++ s.accepted⟩
  | .request inp tenantId op =>
    (apiStep env posts s.sends (.request inp tenantId op)).map fun c =>
      ⟨c, acceptedInRequest env s.db inp tenantId op ++ s.accepted⟩

/-- The API before its first send, with an empty log. -/
def auditStart {ι : Type} (db : Db) : SendLog ι := ⟨apiStart db, []⟩

end WaService
