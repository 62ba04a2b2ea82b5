import WaService.Correctness.Effects
import WaService.System.World

/-!
# What a step does to the tables

New inbox rows come from webhook requests, new sessions from inbox tasks that handle
an accepted payload of a known contact, and every other new row belongs to a session.
Each function of the service is shown to have this effect, and the effect of a step is
composed from them.
-/

namespace WaService

open Python Relational

variable {A : Arrival → Prop} {O : UUID → UUID → Prop} {env : Env} {db db' : Db}

/-! ## Webhook requests -/

/-- The payload that a webhook request stores. -/
structure Arrival.By (env : Env) (newId : Nat) (rawBody : List UInt8) (hubSignature : Option String)
    (r : Arrival) : Prop where
  id : r.id = newId
  body : env.jsonLoads rawBody = some r.payload
  signature : verifySignature env rawBody hubSignature = .ok r.signatureOk
  number : ∃ n, extractPhoneNumberId r.payload = .ok n ∧ sqlText env n = .ok r.phoneNumberId

theorem receiveWebhook_evolves (newId : Nat) (rawBody : List UInt8) (hubSignature : Option String)
    (dispatched : Bool) : db.Evolves (Arrival.By env newId rawBody hubSignature) O
      (receiveWebhook env db newId rawBody hubSignature dispatched).db := by
  unfold receiveWebhook
  split
  · exact .refl db
  · rename_i signatureOk hsig
    have hstored : ∀ id db', insertInbox env db newId rawBody signatureOk = .ok (id, db') →
        db.Evolves (Arrival.By env newId rawBody hubSignature) O db' := by
      intro id db' h
      rcases insertInbox_ok h with ⟨-, rfl⟩ | ⟨-, payload, wamid, number, hload, -, hn, -, hwrite⟩
      · exact .refl _
      · obtain ⟨w, n, inbox, -, hsql, hins, rfl⟩ := writeInbox_ok hwrite
        exact .onInbox (.insert (fun _ => rfl) hins ⟨rfl, hload, hsig, number, hn, hsql⟩)
    split
    · exact .refl db
    · exact hstored _ _ ‹_›
    · exact hstored _ _ ‹_›

/-! ## The inbox task -/

theorem registerFile_evolves {newId tenantId sessionId fileId : UUID} {seq : Int}
    {m : MediaMessage} (h : registerFile env db newId tenantId sessionId seq m = .ok (fileId, db'))
    (hs : ∃ s ∈ db.sessions.rows, s.id = sessionId) : db.Evolves A O db' := by
  obtain ⟨f, hf, ⟨_, -, -, rfl⟩ | ⟨-, files, hins, -, rfl⟩⟩ := registerFile_ok h
  · exact .refl _
  · obtain ⟨-, -, hsid, -, -⟩ := newFile_ok hf
    exact .onFiles (.insert (fun _ => rfl) hins (by rwa [hsid]))

theorem recordFileArrival_evolves (now : Timestamp) (sessionId : UUID) (byteSize : Int) :
    db.Evolves A O (recordFileArrival db now sessionId byteSize) :=
  updateSessions_evolves _ fun _ _ => ⟨rfl, rfl, rfl, fun h => h⟩

/-- The loop over the messages only adds files of its session. -/
theorem processEach_evolves {i : LoopInput} {st st' : LoopState} {e : Option Error}
    {msgs : List Json} (h : processEach env i st msgs = (st', e))
    (hs : ∃ s ∈ st.db.sessions.rows, s.id = i.sessionId) : st.db.Evolves A O st'.db := by
  induction msgs generalizing st with
  | nil =>
    cases h
    exact .refl _
  | cons msg rest ih =>
    have hmsg : st.db.Evolves A O (processMessage env i st msg).1.db := by
      unfold processMessage
      split
      · exact .refl _
      · exact .refl _
      · split
        · exact .refl _
        · rename_i fileId db' hreg
          have hfile : st.db.Evolves A O (recordFileArrival db' i.now i.sessionId 0) :=
            (registerFile_evolves hreg hs).trans (recordFileArrival_evolves i.now i.sessionId 0)
          split
          · exact hfile
          · exact hfile
    unfold processEach at h
    split at h
    · rename_i st₁ hone
      rw [hone] at hmsg
      obtain ⟨s, hmem, hid⟩ := hs
      obtain ⟨s', hs', hf⟩ := hmsg.sessions.kept s hmem
      exact hmsg.trans (ih h ⟨s', hs', hf.id.trans hid⟩)
    · rename_i st₁ e₁ hone
      cases h
      rw [hone] at hmsg
      exact hmsg

theorem getOrCreateSession_evolves {newId tenantId contactId orgUnitId : UUID} {now : Timestamp}
    {s : Session} (h : getOrCreateSession db newId now tenantId contactId orgUnitId = .ok (s, db'))
    (ho : O tenantId contactId) : db.Evolves A O db' := by
  obtain ⟨-, -, ⟨-, rfl⟩ | ⟨-, rfl, sessions, hins, rfl⟩⟩ := getOrCreateSession_ok h
  · exact .refl _
  · exact .onSessions (.insert Session.Follows.refl hins ho)

theorem processMessages_evolves {inp : InboxInput} {payload : Json} {ctx : ResolvedContext}
    {sessionId : UUID} {jobs : List Job}
    (h : processMessages env db inp payload ctx sessionId = ⟨jobs, .ok db'⟩)
    (hs : ∃ s ∈ db.sessions.rows, s.id = sessionId) : db.Evolves A O db' := by
  obtain ⟨-, rfl⟩ | ⟨messages, msgs, st, -, -, hloop, rfl⟩ := processMessages_inv h
  · exact .refl _
  · exact processEach_evolves hloop hs

theorem markInbox_evolves (inboxId : Nat) (state : InboxState) :
    db.Evolves A O (markInbox db inboxId state) := by
  apply updateInbox_evolves _
  intro r
  rfl

/-- The step handles an accepted payload of a known contact: a signed inbox row that
identifies the tenant and the contact in the database as it is. -/
def Handles (env : Env) (db : Db) (inboxId : Nat) (tenantId contactId : UUID) : Prop :=
  ∃ row payload, inboxRow db inboxId = some row ∧ row.signatureOk = true ∧
    decodePayload env row.payload = .ok payload ∧
    Identifies db row.phoneNumberId payload tenantId contactId

theorem inboxTransaction_evolves {inp : InboxInput} {row : Inbox} {payload : Json}
    {jobs : List Job} (h : inboxTransaction env db inp row payload = ⟨jobs, .ok db'⟩) :
    db.Evolves A (Identifies db row.phoneNumberId payload) db' := by
  obtain ⟨ctx, s, opened, hctx, hget, hmessages⟩ := inboxTransaction_inv h
  obtain ⟨hmem, -⟩ := getOrCreateSession_ok hget
  have hopen : db.Evolves A (Identifies db row.phoneNumberId payload) opened :=
    getOrCreateSession_evolves hget (resolveFullContext_identifies hctx)
  exact hopen.trans (processMessages_evolves hmessages ⟨s, hmem, rfl⟩)

theorem Db.Evolves.enlarge {O' : UUID → UUID → Prop} (h : db.Evolves A O db')
    (ho : ∀ t c, O t c → O' t c) : db.Evolves A O' db' :=
  { h with sessions := ⟨h.sessions.kept, fun s hs =>
      (h.sessions.source s hs).imp_right (ho s.tenantId s.contactId)⟩ }

theorem processInboxRow_evolves (inp : InboxInput) (inboxId : Nat) :
    db.Evolves A (Handles env db inboxId) (processInboxRow env db inp inboxId).db := by
  obtain hsame | ⟨row, hrow, ⟨state, hmarked⟩ |
      ⟨payload, jobs, db', hsigned, hpayload, htx, hdone⟩⟩ :=
    processInboxRow_cases env db inp inboxId
  · rw [hsame]
    exact .refl db
  · rw [hmarked]
    exact markInbox_evolves row.id state
  · have hcommitted : db.Evolves A (Handles env db inboxId) db' :=
      (inboxTransaction_evolves htx).enlarge
        fun _ _ ht => ⟨row, payload, hrow, hsigned, hpayload, ht⟩
    rw [hdone]
    exact hcommitted.trans (markInbox_evolves row.id .done)

/-! ## The download and the poll -/

theorem setFileState_evolves (fileId : UUID) (state : FileState) :
    db.Evolves A O (setFileState db fileId state) := by
  apply updateFiles_evolves _
  intro f
  rfl

theorem failFile_evolves (fileId : UUID) (state : FileState) (code : String) :
    db.Evolves A O (failFile db fileId state code) := by
  apply updateFiles_evolves _
  intro f
  rfl

theorem failWithoutJourney_evolves (fileId : UUID) :
    db.Evolves A O (failWithoutJourney db fileId) := by
  apply updateFiles_evolves _
  intro f
  rfl

theorem recordStored_evolves (now : Timestamp) (fileId : UUID) (result : FetchResult)
    (evidenceId : UUID) : db.Evolves A O (recordStored db now fileId result evidenceId) := by
  apply updateFiles_evolves _
  intro f
  rfl

theorem recordType_evolves (fileId : UUID) (typeKey : Option String) (facts : Json) :
    db.Evolves A O (recordType db fileId typeKey facts) := by
  apply updateFiles_evolves _
  intro f
  rfl

theorem storeFetched_evolves (calls : FileCalls) (job : FetchJob) (journeyId : UUID) (row : File)
    (result : FetchResult) :
    db.Evolves A O (storeFetched db calls job journeyId row result).db := by
  have hstoring : db.Evolves A O (setFileState db job.fileId .storing) :=
    setFileState_evolves job.fileId .storing
  unfold storeFetched
  simp only
  split
  · exact hstoring
  · exact hstoring.trans (failFile_evolves _ _ _)
  · have hstored := fun evidenceId => hstoring.trans
      (recordStored_evolves calls.now job.fileId result evidenceId)
    split
    · exact hstored _
    · exact hstored _

theorem fetchAndStoreFile_evolves (calls : FileCalls) (job : FetchJob) :
    db.Evolves A O (fetchAndStoreFile db calls job).db := by
  unfold fetchAndStoreFile
  split
  · exact failWithoutJourney_evolves job.fileId
  · split
    · exact .refl db
    · have hdownloading : db.Evolves A O (setFileState db job.fileId .downloading) :=
        setFileState_evolves job.fileId .downloading
      simp only
      split
      · exact hdownloading
      · exact hdownloading.trans (failFile_evolves _ _ _)
      · exact hdownloading.trans (storeFetched_evolves _ _ _ _ _)

theorem parkOnDiSla_evolves (sessionId : UUID) (note : String) :
    db.Evolves A O (parkOnDiSla db sessionId note) :=
  updateSessions_evolves _ fun _ _ => ⟨rfl, rfl, rfl, nofun⟩

theorem nudgeFlush_evolves (now : Timestamp) (sessionId : UUID) :
    db.Evolves A O (nudgeFlush db now sessionId) := by
  unfold nudgeFlush
  split
  · exact updateSessions_evolves _ fun _ _ => ⟨rfl, rfl, rfl, fun h => h⟩
  · exact .refl db

theorem markSatisfied_evolves (now : Timestamp) (dealId : UUID) (typeKey : String)
    (documentId : UUID) : db.Evolves A O (markSatisfied db now dealId typeKey documentId) := by
  apply updateItems_evolves _
  intro i
  rfl

theorem reschedulePoll_evolves (calls : PollCalls) (job : PollJob) :
    db.Evolves A O (reschedulePoll db calls job).db := by
  rw [reschedulePoll_db]
  exact .refl db

theorem satisfyLinkedDeal_evolves {now : Timestamp} {job : PollJob} {result : DiPollResult}
    (h : satisfyLinkedDeal db now job result = .ok db') : db.Evolves A O db' := by
  unfold satisfyLinkedDeal at h
  split at h
  · split at h
    · cases h
      exact .refl _
    · obtain ⟨typeKey, -, h⟩ := bind_eq_ok.mp h
      cases h
      exact markSatisfied_evolves _ _ _ _
  · cases h
    exact .refl _

theorem concludePoll_evolves (calls : PollCalls) (job : PollJob) (result : DiPollResult) :
    db.Evolves A O (concludePoll env db calls job result).db := by
  obtain hsame | ⟨typeKey, facts, htyped | ⟨satisfied, hsat, hnudged⟩⟩ :=
    concludePoll_cases env db calls job result
  · rw [hsame]
    exact .refl db
  · rw [htyped]
    exact recordType_evolves job.fileId typeKey facts
  · have hrecorded : db.Evolves A O (recordType db job.fileId typeKey facts) :=
      recordType_evolves job.fileId typeKey facts
    rw [hnudged]
    exact (hrecorded.trans (satisfyLinkedDeal_evolves hsat)).trans (nudgeFlush_evolves _ _)

theorem pollDiDocument_evolves (calls : PollCalls) (job : PollJob) :
    db.Evolves A O (pollDiDocument env db calls job).db := by
  unfold pollDiDocument
  split
  · exact .refl db
  · simp only
    split
    · exact .refl db
    · split
      · exact parkOnDiSla_evolves _ _
      · exact reschedulePoll_evolves calls job
    · split
      · exact concludePoll_evolves calls job _
      · split
        · exact parkOnDiSla_evolves _ _
        · exact reschedulePoll_evolves calls job

/-! ## The session task -/

/-- The session is in the table, in a possibly later state. -/
def Session.InDb (db : Db) (s : Session) : Prop := ∃ s' ∈ db.sessions.rows, s.Follows s'

theorem Session.InDb.follow {s : Session} (hs : s.InDb db) (h : db.Evolves A O db') :
    s.InDb db' := by
  obtain ⟨s', hmem, hf⟩ := hs
  obtain ⟨s'', hmem', hf'⟩ := h.sessions.kept s' hmem
  exact ⟨s'', hmem', hf.trans hf'⟩

theorem parkSession_evolves (sessionId : UUID) (note : String) :
    db.Evolves A O (parkSession db sessionId note) :=
  updateSessions_evolves _ fun _ _ => ⟨rfl, rfl, rfl, nofun⟩

theorem markComplete_evolves (now : Timestamp) (sessionId : UUID) :
    db.Evolves A O (markComplete db now sessionId) :=
  updateSessions_evolves _ fun _ _ => ⟨rfl, rfl, rfl, nofun⟩

theorem transitionToConfirming_evolves (now : Timestamp) (sessionId dealId : UUID) :
    db.Evolves A O (transitionToConfirming db now sessionId dealId) :=
  updateSessions_evolves _ fun _ _ => ⟨rfl, rfl, rfl, nofun⟩

theorem enqueueReply_evolves {newId id : Nat} {now : Timestamp} {s : Session} {kind : OutboxKind}
    {payload : List (String × Json)} {dedupKey : Option String} {sendAfter : Option Timestamp}
    (hs : s.InDb db) (h : enqueueReply db newId now s.tenantId s.contactId (some s.id) kind payload
      dedupKey sendAfter = .ok (id, db')) : db.Evolves A O db' := by
  obtain ⟨s', hmem, hf⟩ := hs
  rcases enqueueReply_rows h with rfl | ⟨o, outbox, hins, rfl, ⟨ht, hc, hsid⟩, -⟩
  · exact .refl _
  · refine .onOutbox (.insert (fun _ => rfl) hins ⟨s', hmem, ?_⟩)
    exact ⟨by rw [ht, hf.tenantId], by rw [hc, hf.contactId], by rw [hsid, hf.id]⟩

theorem raiseAmbiguousReview_evolves {newId : UUID} {s : Session} {found : DealMatch}
    (hs : s.InDb db) : db.Evolves A O
      (raiseAmbiguousReview db newId s.tenantId found ("session:" ++ uuidStr s.id)) := by
  obtain ⟨s', hmem, hf⟩ := hs
  unfold raiseAmbiguousReview
  split
  · rename_i tasks hins
    exact .onReviews (.insert (fun _ => rfl) hins
      ⟨s', hmem, by rw [hf.tenantId], by rw [hf.id]⟩)
  · exact .refl db

theorem insertRequirement_evolves {newId dealId : UUID} {now : Timestamp} {typeKey : String}
    {requirement : Requirement} (hd : ∃ d ∈ db.deals.rows, d.id = dealId)
    (h : insertRequirement db newId now dealId typeKey requirement = .ok db') :
    db.Evolves A O db' := by
  unfold insertRequirement at h
  split at h
  · cases h
    exact .refl _
  · split at h
    · rename_i items hins
      cases h
      exact .onItems (.insert (fun _ => rfl) hins hd)
    · contradiction

theorem initialiseRequirements_evolves {now : Timestamp} {dealId : UUID} {newIds : Nat → UUID}
    {reqs : List (String × Requirement)} {n : Nat} (hd : ∃ d ∈ db.deals.rows, d.id = dealId)
    (h : initialiseRequirements now dealId newIds reqs n db = .ok db') : db.Evolves A O db' := by
  induction reqs generalizing n db with
  | nil =>
    cases h
    exact .refl _
  | cons req rest ih =>
    obtain ⟨db₁, hone, h⟩ := bind_eq_ok.mp h
    have hins : db.Evolves A O db₁ := insertRequirement_evolves hd hone
    obtain ⟨d, hmem, hid⟩ := hd
    obtain ⟨d', hmem', hk⟩ := hins.deals.kept d hmem
    have hid' : d'.id = d.id := congrArg (fun k => k.1) hk
    exact hins.trans (ih ⟨d', hmem', hid'.trans hid⟩ h)

theorem createProvisionalDeal_evolves {newId orgUnitId : UUID} {now : Timestamp} {s : Session}
    {bookingNumber customerName : Json} {fields : BookingFields} {dealType : DealType}
    {deal : DealCreated} (hs : s.InDb db)
    (h : createProvisionalDeal env db newId now s.tenantId orgUnitId bookingNumber customerName
      fields dealType s.contactId = .ok (deal, db')) :
    db.Evolves A O db' ∧ ∃ d ∈ db'.deals.rows, d.id = deal.dealId := by
  obtain ⟨s', hmem, hf⟩ := hs
  obtain ⟨d, hd, ⟨old, hold, rfl, rfl⟩ | ⟨-, deals, hins, rfl, rfl⟩⟩ := createProvisionalDeal_ok h
  · exact ⟨.refl _, old, (dealOfBooking_some hold).1, rfl⟩
  · obtain ⟨-, htenant, hcreator, -⟩ := newDeal_ok hd
    refine ⟨.onDeals (.insert (fun _ => rfl) hins ⟨s', hmem, ?_⟩), d, ?_, rfl⟩
    · exact ⟨by rw [htenant, hf.tenantId], by rw [hcreator, hf.contactId]⟩
    · exact (Table.mem_of_insert? hins).mpr (Or.inr rfl)

theorem confirmDeal_evolves (now : Timestamp) (tenantId dealId confirmedBy : UUID) :
    db.Evolves A O (confirmDeal db now tenantId dealId confirmedBy) := by
  apply updateDeals_evolves _
  intro d
  rfl

theorem satisfyConfirmedFiles_evolves (now : Timestamp) (dealId : UUID) (files : List RowMapping) :
    db.Evolves A O (satisfyConfirmedFiles db now dealId files) := by
  unfold satisfyConfirmedFiles
  induction files generalizing db with
  | nil => exact .refl db
  | cons f rest ih =>
    rw [List.foldl_cons]
    refine Db.Evolves.trans ?_ ih
    split
    · split
      · exact .refl db
      · exact markSatisfied_evolves _ _ _ _
    · exact .refl db

theorem createBranch_evolves {inp : SessionInput} {s : Session} {orgUnitId : UUID}
    {files : List RowMapping} {fields : BookingFields} (hs : s.InDb db)
    (h : createBranch env db inp s orgUnitId files fields = .ok db') : db.Evolves A O db' := by
  obtain ⟨deal, created, listed, id, payload, hdeal, hlist, hqueue⟩ := createBranch_inv h
  obtain ⟨hcreated, hd⟩ : db.Evolves A O created ∧ ∃ d ∈ created.deals.rows, d.id = deal.dealId :=
    createProvisionalDeal_evolves hs hdeal
  have hlisted := hcreated.trans (initialiseRequirements_evolves hd hlist)
  have hsatisfied := (hlisted.trans (transitionToConfirming_evolves inp.now s.id deal.dealId)).trans
    (satisfyConfirmedFiles_evolves inp.now deal.dealId files)
  exact hsatisfied.trans (enqueueReply_evolves (hs.follow hsatisfied) hqueue)

theorem sendGapMessage_evolves {inp : SessionInput} {s : Session} {dealId : UUID} (hs : s.InDb db)
    (h : sendGapMessage env db inp s dealId = .ok db') : db.Evolves A O db' := by
  obtain ⟨checklist, body, id, queued, -, hqueue, rfl⟩ := sendGapMessage_inv h
  have hqueued : db.Evolves A O queued := enqueueReply_evolves hs hqueue
  split
  · exact hqueued.trans (markComplete_evolves inp.now s.id)
  · exact hqueued

theorem decideDeal_evolves {inp : SessionInput} {s : Session} {orgUnitId : UUID}
    {files : List RowMapping} {fields : BookingFields} (hs : s.InDb db)
    (h : decideDeal env db inp s orgUnitId files fields = .ok db') : db.Evolves A O db' := by
  obtain ⟨found, -, h⟩ := bind_eq_ok.mp h
  split at h
  · exact createBranch_evolves hs h
  · rename_i m
    split at h
    · have hconfirmed : db.Evolves A O
          (satisfyConfirmedFiles (confirmDeal db inp.now s.tenantId m.dealId s.contactId) inp.now
            m.dealId files) :=
        (confirmDeal_evolves _ _ _ _).trans (satisfyConfirmedFiles_evolves _ _ _)
      exact hconfirmed.trans (sendGapMessage_evolves (hs.follow hconfirmed) h)
    · cases h
      exact (raiseAmbiguousReview_evolves hs).trans (parkSession_evolves _ _)

theorem processSession_evolves (inp : SessionInput) (sessionId : UUID) :
    db.Evolves A O (processSession env db inp sessionId).db := by
  obtain hsame | ⟨s, db', hs, htx, hdb⟩ := processSession_cases env db inp sessionId
  · rw [hsame]
    exact .refl db
  · rw [hdb]
    have hmem : s.InDb db := ⟨s, List.mem_of_find?_eq_some hs, .refl s⟩
    obtain ⟨note, -, rfl⟩ | ⟨orgUnitId, fields, -, hdecide⟩ := sessionTransaction_inv htx
    · exact parkSession_evolves _ _
    · exact decideDeal_evolves hmem hdecide

/-! ## The periodic tasks and the API -/

theorem claimSessionsForFlush_evolves (now : Timestamp) (limit : Nat) :
    db.Evolves A O (claimSessionsForFlush db now limit).2 := by
  simp only [claimSessionsForFlush]
  exact updateSessions_evolves _ fun _ _ => ⟨rfl, rfl, rfl, nofun⟩

theorem flushReadySessions_evolves (now : Timestamp) (deferOk : Nat → Bool) :
    db.Evolves A O (flushReadySessions db now deferOk).db :=
  claimSessionsForFlush_evolves now 50

theorem markSent_evolves (now : Timestamp) (outboxId : Nat) (wamid : Option String) :
    db.Evolves A O (markSent db now outboxId wamid) := by
  apply updateOutbox_evolves _
  intro o
  rfl

theorem markFailed_evolves (now : Timestamp) (outboxId : Nat) (error : Option String)
    (permanent : Bool) : db.Evolves A O (markFailed db now outboxId error permanent) := by
  unfold markFailed
  split
  · apply updateOutbox_evolves _
    intro o
    rfl
  · apply updateOutbox_evolves _
    intro o
    rfl

theorem markOutcome_evolves {now : Timestamp} {outboxId : Nat} {outcome : SendOutcome}
    (h : markOutcome env db now outboxId outcome = .ok db') : db.Evolves A O db' := by
  cases outcome with
  | ok wamid =>
    obtain ⟨text, -, h⟩ := bind_eq_ok.mp h
    cases h
    exact markSent_evolves _ _ _
  | failed code message retryable =>
    obtain ⟨text, -, h⟩ := bind_eq_ok.mp h
    cases h
    exact markFailed_evolves _ _ _ _
  | raised => contradiction

theorem drainRows_evolves (calls : DrainCalls) (rows : List Outbox) :
    db.Evolves A O (drainRows env calls db rows).1 := by
  induction rows generalizing db with
  | nil => exact .refl db
  | cons row rest ih =>
    unfold drainRows
    split
    · exact ih
    · exact (markFailed_evolves _ _ _ _).trans ih
    · exact .refl db
    · split
      · rename_i db' hmark
        exact (markOutcome_evolves hmark).trans ih
      · exact .refl db

theorem expireOutbox_evolves (now : Timestamp) : db.Evolves A O (expireOutbox db now) := by
  apply updateOutbox_evolves _
  intro o
  rfl

theorem claimPending_evolves (now : Timestamp) (locked : List Nat) (limit : Nat) :
    db.Evolves A O (claimPending db now locked limit).2 := by
  apply (expireOutbox_evolves now).trans
  simp only [claimPending]
  apply updateOutbox_evolves _
  intro o
  rfl

theorem sendOutbox_evolves (calls : DrainCalls) : db.Evolves A O (sendOutbox env db calls).1 :=
  (claimPending_evolves calls.now calls.locked 20).trans (drainRows_evolves calls _)

theorem handle_evolves (inp : ApiInput) (tenantId : UUID) (op : Operation) :
    db.Evolves A O (handle env db inp tenantId op).db := by
  rw [handle_tables]
  have hsame : db.Evolves A O db := .refl db
  exact { hsame with }

/-! ## Steps -/

/-- The payloads that a step stores. -/
def Action.Receives (env : Env) : Action → Arrival → Prop
  | .webhook newId rawBody hubSignature _ => Arrival.By env newId rawBody hubSignature
  | _ => fun _ => False

/-- The tenant and the contact that a step admits a session for. -/
def Action.Admits (env : Env) (db : Db) : Action → UUID → UUID → Prop
  | .execute (.processInboxRow inboxId _) _ => Handles env db inboxId
  | _ => fun _ _ => False

/-- The effect of a step. -/
theorem worldStep_evolves {w w' : World} {a : Action} (h : worldStep env w a = some w') :
    w.db.Evolves (a.Receives env) (a.Admits env w.db) w'.db := by
  cases a with
  | webhook newId rawBody hubSignature dispatched =>
    cases h
    exact receiveWebhook_evolves newId rawBody hubSignature dispatched
  | api inp tenantId op =>
    cases h
    exact handle_evolves inp tenantId op
  | execute e redelivered =>
    simp only [worldStep] at h
    split at h
    · cases h
      cases e with
      | processInboxRow inboxId inp => exact processInboxRow_evolves inp inboxId
      | fetchAndStoreFile args calls => exact fetchAndStoreFile_evolves calls args
      | pollDiDocument args calls => exact pollDiDocument_evolves calls args
      | processSession sessionId inp => exact processSession_evolves inp sessionId
    · contradiction
  | flush now deferOk =>
    cases h
    exact flushReadySessions_evolves now deferOk
  | drain calls =>
    cases h
    exact sendOutbox_evolves calls

end WaService
