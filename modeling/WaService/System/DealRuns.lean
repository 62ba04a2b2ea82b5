import WaService.System.World

/-!
# Deals and their creators

The service with a log of which session each deal was created for and of the button replies that
were processed. A run of `process_session` names the rows that `get_session_files` returns, so that
the booking form of the session can say anything.
-/

namespace WaService

open Python Relational

/-! ## A session with given files -/

/-- The transaction of `process_session` on the rows of the session's files. -/
def sessionTransactionOn (env : Env) (db : Db) (inp : SessionInput) (s : Session)
    (files : List RowMapping) : Except Error Db :=
  match s.orgUnitId with
  | none => .error .valueError
  | some orgUnitId => do
    match ← sessionGate env files with
    | .parked note => return parkSession db s.id note
    | .ready fields => decideDeal env db inp s orgUnitId files fields

/-- `process_session` on the rows of the session's files. -/
def processSessionOn (env : Env) (db : Db) (inp : SessionInput) (sessionId : UUID)
    (files : List RowMapping) : TaskResult :=
  match sessionById db sessionId with
  | none => ⟨db, [], false⟩
  | some s =>
    match sessionTransactionOn env db inp s files with
    | .ok db' => ⟨db', [], false⟩
    | .error _ => ⟨db, [], true⟩

/-- The task runs on the rows that its own query returns. -/
theorem processSession_eq_on (env : Env) (db : Db) (inp : SessionInput) (sessionId : UUID) :
    processSession env db inp sessionId =
      processSessionOn env db inp sessionId (getSessionFiles db sessionId) := by
  unfold processSession processSessionOn
  cases hs : sessionById db sessionId with
  | none => rfl
  | some s =>
    have hid : s.id = sessionId := by simpa using List.find?_some hs
    subst hid
    rfl

/-! ## Button replies -/

/-- The id of the button that a message replies to. -/
def buttonReply (msg : Json) : Option String :=
  match (do
    let interactive ← msg.get "interactive" .null
    let reply ← interactive.get "button_reply" .null
    reply.get "id" .null) with
  | .ok (.str id) => some id
  | _ => none

/-- The button replies of a payload. -/
def buttonReplies (payload : Json) : List String :=
  match payloadMessages payload with
  | .ok (some messages) =>
    match messages.iter with
    | .ok msgs => msgs.filterMap buttonReply
    | .error _ => []
  | _ => []

/-- The button replies of the inbox row that a step processes. -/
def processedReplies (env : Env) (db : Db) : Action → List String
  | .execute (.processInboxRow inboxId _) _ =>
    match inboxRow db inboxId with
    | some row =>
      if row.signatureOk then
        match decodePayload env row.payload with
        | .ok payload => buttonReplies payload
        | .error _ => []
      else []
    | none => []
  | _ => []

/-- The button with which the consultant confirms the deal of a session. -/
def confirmButton (sessionId : UUID) : String := "confirm_" ++ uuidStr sessionId

/-! ## The system -/

/-- The service, the deals created so far with their sessions, and the processed replies. -/
structure DealRuns where
  world : World
  created : List (UUID × UUID)
  replies : List String

/-- A run of `process_session`, or another step of the service. -/
inductive DealAction where
  | session (sessionId : UUID) (files : List RowMapping) (inp : SessionInput) (redelivered : Bool)
  | other (a : Action)

/-- The step runs `process_session`. -/
def Action.isSession : Action → Bool
  | .execute (.processSession _ _) _ => true
  | _ => false

/-- The deals that a run has inserted. -/
def insertedDeals (before after : Db) : List UUID :=
  (after.deals.rows.filter fun d => !before.deals.rows.any fun old => old.id == d.id).map Deal.id

/-- The steps of the service, with the log. -/
def dealStep (env : Env) (c : DealRuns) : DealAction → Option DealRuns
  | .session sessionId files inp redelivered =>
    if .processSession sessionId ∈ c.world.jobs then
      let jobs := if redelivered then c.world.jobs
        else c.world.jobs.erase (.processSession sessionId)
      let r := processSessionOn env c.world.db inp sessionId files
      some ⟨.afterTask jobs r,
        ((insertedDeals c.world.db r.db).map fun dealId => (dealId, sessionId)) ++ c.created,
        c.replies⟩
    else none
  | .other a =>
    if a.isSession then none
    else (worldStep env c.world a).map fun w =>
      ⟨w, c.created, processedReplies env c.world.db a ++ c.replies⟩

/-! ## The deals that a run leaves -/

theorem satisfyConfirmedFiles_frame (db : Db) (now : Timestamp) (dealId : UUID)
    (files : List RowMapping) :
    ∃ items, satisfyConfirmedFiles db now dealId files = { db with checklistItems := items } := by
  unfold satisfyConfirmedFiles
  induction files generalizing db with
  | nil => exact ⟨_, rfl⟩
  | cons f rest ih =>
    rw [List.foldl_cons]
    split
    · split
      · exact ih db
      · obtain ⟨items, hrest⟩ := ih (markSatisfied db now dealId _ _)
        exact ⟨items, hrest⟩
    · exact ih db

section Deals

variable {env : Env} {db db' : Db} {inp : SessionInput} {s : Session} {files : List RowMapping}

theorem enqueueReply_frame {newId id : Nat} {now : Timestamp} {tenantId contactId : UUID}
    {sessionId : Option UUID} {kind : OutboxKind} {payload : List (String × Json)}
    {dedupKey : Option String} {sendAfter : Option Timestamp}
    (h : enqueueReply db newId now tenantId contactId sessionId kind payload dedupKey sendAfter =
      .ok (id, db')) : ∃ outbox, db' = { db with outbox := outbox } := by
  rcases enqueueReply_rows h with rfl | ⟨-, outbox, -, rfl, -⟩
  · exact ⟨_, rfl⟩
  · exact ⟨outbox, rfl⟩

/-- Without a match the deals stay, or a provisional one is inserted. -/
theorem createBranch_deals {orgUnitId : UUID} {fields : BookingFields}
    (h : createBranch env db inp s orgUnitId files fields = .ok db') :
    db'.deals = db.deals ∨
      ∃ d, d.state = .provisional ∧ db.deals.insert? d = some db'.deals := by
  obtain ⟨deal, created, listed, id, payload, hcreate, hlist, hqueued⟩ := createBranch_inv h
  obtain ⟨items, rfl⟩ := initialiseRequirements_frame hlist
  obtain ⟨satisfied, hsatisfied⟩ := satisfyConfirmedFiles_frame
    (transitionToConfirming { created with checklistItems := items } inp.now s.id deal.dealId)
    inp.now deal.dealId files
  obtain ⟨outbox, rfl⟩ := enqueueReply_frame hqueued
  have hdeals : ({ satisfyConfirmedFiles
        (transitionToConfirming { created with checklistItems := items } inp.now s.id deal.dealId)
        inp.now deal.dealId files with
      outbox := outbox } : Db).deals = created.deals := by
    simp only [hsatisfied]
    rfl
  rw [hdeals]
  obtain ⟨d, hd, ⟨old, -, -, rfl⟩ | ⟨-, deals, hins, -, rfl⟩⟩ := createProvisionalDeal_ok hcreate
  · exact Or.inl rfl
  · obtain ⟨-, -, -, -, -, hstate⟩ := newDeal_ok hd
    exact Or.inr ⟨d, hstate, hins⟩

/-- With an exact match the deal is confirmed. -/
theorem exactBranch_deals {found : DealMatch}
    (h : exactBranch env db inp s files found = .ok db') :
    db'.deals = (confirmDeal db inp.now s.tenantId found.dealId s.contactId).deals := by
  obtain ⟨checklist, body, id, queued, -, hqueued, rfl⟩ := sendGapMessage_inv h
  obtain ⟨items, hsatisfied⟩ := satisfyConfirmedFiles_frame
    (confirmDeal db inp.now s.tenantId found.dealId s.contactId) inp.now found.dealId files
  obtain ⟨outbox, rfl⟩ := enqueueReply_frame hqueued
  rw [hsatisfied]
  split
  · rfl
  · rfl

theorem ambiguousBranch_deals (found : DealMatch) :
    (ambiguousBranch db inp s found).deals = db.deals := by
  unfold ambiguousBranch raiseAmbiguousReview
  split
  · rfl
  · rfl

/-- The deal that the session's booking number matches exactly once its files are ready. -/
def ExactMatch (env : Env) (db : Db) (s : Session) (files : List RowMapping) (d : Deal) : Prop :=
  ∃ fields number, sessionGate env files = .ok (.ready fields) ∧
    selectText (orElse fields.bookingNumber (fallbackNumber s.id)) = .ok number ∧
    dealOfBooking db s.tenantId number = some d

/-- What a run of `process_session` does to the deals: nothing, a new provisional deal, or the
confirmation of the exact match. -/
theorem processSessionOn_deals (env : Env) (db : Db) (inp : SessionInput) (sessionId : UUID)
    (files : List RowMapping) :
    let after := (processSessionOn env db inp sessionId files).db.deals
    after = db.deals ∨ (∃ d, d.state = .provisional ∧ db.deals.insert? d = some after) ∨
      ∃ s d, sessionById db sessionId = some s ∧ ExactMatch env db s files d ∧
        after = (confirmDeal db inp.now s.tenantId d.id s.contactId).deals := by
  unfold processSessionOn
  split
  · exact Or.inl rfl
  · rename_i s hs
    split
    · rename_i db' htx
      unfold sessionTransactionOn at htx
      split at htx
      · cases htx
      · obtain ⟨gate, hgate, htx⟩ := bind_eq_ok.mp htx
        cases gate with
        | parked note =>
          cases htx
          exact Or.inl rfl
        | ready fields =>
          obtain ⟨found, hfound, htx⟩ := bind_eq_ok.mp htx
          cases found with
          | none =>
            obtain hsame | hnew := createBranch_deals htx
            · exact Or.inl hsame
            · exact Or.inr (Or.inl hnew)
          | some m =>
            simp only at htx
            split at htx
            · rename_i hexact
              obtain ⟨number, d, hnumber, hd, hid⟩ := findExistingDeal_exact hfound hexact
              refine Or.inr (Or.inr ⟨s, d, hs, ⟨fields, number, hgate, hnumber, hd⟩, ?_⟩)
              rw [exactBranch_deals htx, hid]
            · cases htx
              exact Or.inl (ambiguousBranch_deals m)
    · exact Or.inl rfl

end Deals

end WaService
