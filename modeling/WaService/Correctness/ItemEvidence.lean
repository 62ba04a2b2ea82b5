import WaService.Correctness.BlankDeals
import WaService.Correctness.JobCauses
import WaService.Correctness.RowStates

/-!
# The evidence behind a satisfied item

Over a run of the whole service a satisfied item goes back, through the poll that heard
of its document, the upload that created the document and the inbox task that deferred
the upload, to a payload that was received under a valid signature. The steps come in
this order, and the document was uploaded for the session that is linked to the deal.
-/

namespace WaService

open Python Relational Transition

/-- A poll of the past was told that the document is confirmed and of the type. -/
inductive Confirmed (past : Past) (sessionId : UUID) (typeKey : String) (documentId : UUID) : Prop
  | poll {w : World} {args : PollJob} {calls : PollCalls} {redelivered : Bool}
      {result : DiPollResult}
      (hpast : (w, .execute (.pollDiDocument args calls) redelivered) ∈ past)
      (hfresh : args.scheduleIn = none) (hsession : args.sessionId = sessionId)
      (hdocument : args.evidenceId = documentId) (hanswer : calls.pollEvidenceStatus = .ok result)
      (hconfirmed : isConfirmed result.processingStatus = true)
      (htype : result.documentTypeKey = .str typeKey) :
      Confirmed past sessionId typeKey documentId

variable {env : Env} {a : Action} {db db' : Db} {past : Past}

/-! ## Items and polls -/

theorem Confirmed.extend {sessionId documentId : UUID} {typeKey : String}
    (h : Confirmed past sessionId typeKey documentId) (e : World × Action) :
    Confirmed (past ++ [e]) sessionId typeKey documentId := by
  cases h with
  | poll hpast hfresh hsession hdocument hanswer hconfirmed htype =>
    exact .poll (List.mem_append_left _ hpast) hfresh hsession hdocument hanswer hconfirmed htype

/-- A session that is linked stays so: one in processing is linked, and that has no deal yet. -/
theorem SessionChange.linked {s s' : Session} (h : SessionChange db a s s') (hs : s.Consistent)
    {dealId : UUID} (hd : s.dealId = some dealId) : s'.dealId = some dealId := by
  cases h with
  | link hstate =>
    rw [hs.unlinked (Or.inr hstate)] at hd
    cases hd
  | _ => exact hd

end WaService
