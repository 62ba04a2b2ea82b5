import WaService.Correctness.Provenance

/-!
# Tenant coherence

The columns by which rows refer to each other, apart from the rest of the database. Most
functions leave them alone. The others add a row that refers to rows of its own tenant,
or link a session to a deal of its tenant.
-/

namespace WaService

open Python Relational Transition

/-! ## References -/

/-- What other rows refer to in a session, and what the session refers to. -/
structure SessionRef where
  id : UUID
  tenantId : UUID
  contactId : UUID
  dealId : Option UUID
  deriving DecidableEq

/-- The references of a session. -/
def Session.ref (s : Session) : SessionRef := ⟨s.id, s.tenantId, s.contactId, s.dealId⟩

/-- The same session, linked as before or to a deal of its tenant. -/
structure SessionRef.Relinked (deals : List (UUID × UUID)) (s s' : SessionRef) : Prop where
  id : s'.id = s.id
  tenantId : s'.tenantId = s.tenantId
  contactId : s'.contactId = s.contactId
  dealId : s'.dealId = s.dealId ∨ ∃ d, s'.dealId = some d ∧ (d, s.tenantId) ∈ deals

theorem SessionRef.Relinked.refl (deals : List (UUID × UUID)) (s : SessionRef) :
    s.Relinked deals s := ⟨rfl, rfl, rfl, Or.inl rfl⟩

/-- Identity and tenant of a contact. -/
def Contact.tenancy (c : Contact) : UUID × UUID := (c.id, c.tenantId)

/-- Identity and tenant of a deal. -/
def Deal.tenancy (d : Deal) : UUID × UUID := (d.id, d.tenantId)

/-- Session and tenant of a file. -/
def File.owner (f : File) : UUID × UUID := (f.sessionId, f.tenantId)

/-- Deal and tenant of a review task. -/
def ReviewTask.subject (t : ReviewTask) : Option UUID × UUID := (t.dealId, t.tenantId)

/-- The references between the rows of a database. -/
structure References where
  contacts : List (UUID × UUID)
  sessions : List SessionRef
  files : List (UUID × UUID)
  deals : List (UUID × UUID)
  reviews : List (Option UUID × UUID)

/-- The references of a database. -/
def Db.references (db : Db) : References where
  contacts := db.contacts.rows.map Contact.tenancy
  sessions := db.sessions.rows.map Session.ref
  files := db.files.rows.map File.owner
  deals := db.deals.rows.map Deal.tenancy
  reviews := db.reviewTasks.rows.map ReviewTask.subject

namespace References

/-- Every reference stays within a tenant. -/
structure Coherent (r : References) : Prop where
  session : ∀ s ∈ r.sessions, (s.contactId, s.tenantId) ∈ r.contacts
  file : ∀ f ∈ r.files, ∃ s ∈ r.sessions, (s.id, s.tenantId) = f
  link : ∀ s ∈ r.sessions, ∀ dealId, s.dealId = some dealId → (dealId, s.tenantId) ∈ r.deals
  review : ∀ t ∈ r.reviews, ∀ dealId, t.1 = some dealId → (dealId, t.2) ∈ r.deals

variable {r : References}

theorem Coherent.addContacts (h : r.Coherent) (more : List (UUID × UUID)) :
    { r with contacts := r.contacts ++ more }.Coherent :=
  { h with session := fun s hs => List.mem_append_left more (h.session s hs) }

theorem Coherent.addSession (h : r.Coherent) {s : SessionRef}
    (hc : (s.contactId, s.tenantId) ∈ r.contacts) (hd : s.dealId = none) :
    { r with sessions := r.sessions ++ [s] }.Coherent where
  session := List.forall_mem_append.mpr ⟨h.session, by simpa using hc⟩
  file f hf := by
    obtain ⟨t, ht, hft⟩ := h.file f hf
    exact ⟨t, List.mem_append_left _ ht, hft⟩
  link := List.forall_mem_append.mpr ⟨h.link, by simp [hd]⟩
  review := h.review

theorem Coherent.addFile (h : r.Coherent) {f : UUID × UUID}
    (hs : ∃ s ∈ r.sessions, (s.id, s.tenantId) = f) :
    { r with files := r.files ++ [f] }.Coherent :=
  { h with file := List.forall_mem_append.mpr ⟨h.file, by simpa using hs⟩ }

theorem Coherent.addDeals (h : r.Coherent) (more : List (UUID × UUID)) :
    { r with deals := r.deals ++ more }.Coherent :=
  { h with
    link := fun s hs d hd => List.mem_append_left more (h.link s hs d hd)
    review := fun t ht d hd => List.mem_append_left more (h.review t ht d hd) }

theorem Coherent.addReview (h : r.Coherent) {dealId tenantId : UUID}
    (hd : (dealId, tenantId) ∈ r.deals) :
    { r with reviews := r.reviews ++ [(some dealId, tenantId)] }.Coherent :=
  { h with review := List.forall_mem_append.mpr ⟨h.review, by simpa using hd⟩ }

theorem Coherent.relink (h : r.Coherent) {sessions : List SessionRef}
    (hkept : ∀ s ∈ r.sessions, ∃ s' ∈ sessions, s.Relinked r.deals s')
    (hsource : ∀ s' ∈ sessions, ∃ s ∈ r.sessions, s.Relinked r.deals s') :
    { r with sessions := sessions }.Coherent where
  session s' hs' := by
    obtain ⟨s, hs, hlink⟩ := hsource s' hs'
    rw [hlink.contactId, hlink.tenantId]
    exact h.session s hs
  file f hf := by
    obtain ⟨s, hs, hsf⟩ := h.file f hf
    obtain ⟨s', hs', hlink⟩ := hkept s hs
    exact ⟨s', hs', by rw [hlink.id, hlink.tenantId, hsf]⟩
  link s' hs' dealId hd := by
    obtain ⟨s, hs, hlink⟩ := hsource s' hs'
    rw [hlink.tenantId]
    rcases hlink.dealId with hold | ⟨d, hnew, hdeal⟩
    · exact h.link s hs dealId (hold.symm.trans hd)
    · obtain rfl : d = dealId := Option.some.inj (hnew.symm.trans hd)
      exact hdeal
  review := h.review

end References

variable {env : Env} {db db' : Db}

/-! ## Functions that leave the references alone -/

theorem updateSessions_references {p : Session → Bool} {f : Session → Session}
    (hf : ∀ s, p s = true → (f s).id = s.id ∧ (f s).contactId = s.contactId ∧
      ((f s).state.isOpen = true → s.state.isOpen = true))
    (h : ∀ s, (f s).ref = s.ref) : (db.updateSessions p f hf).references = db.references := by
  unfold Db.references Db.updateSessions
  simp only [Table.map_update db.sessions fun s _ => h s]

theorem updateFiles_references {p : File → Bool} {f : File → File}
    (hf : ∀ r, (f r).id = r.id ∧ (f r).wamid = r.wamid) (h : ∀ r, (f r).owner = r.owner) :
    (db.updateFiles p f hf).references = db.references := by
  unfold Db.references Db.updateFiles
  simp only [Table.map_update db.files fun r _ => h r]

theorem updateDeals_references {p : Deal → Bool} {f : Deal → Deal}
    (hf : ∀ d, (f d).id = d.id ∧ (f d).tenantId = d.tenantId ∧
      (f d).bookingNumber = d.bookingNumber) :
    (db.updateDeals p f hf).references = db.references := by
  have htenancy : ∀ d, p d = true → (f d).tenancy = d.tenancy := by
    intro d _
    unfold Deal.tenancy
    rw [(hf d).1, (hf d).2.1]
  unfold Db.references Db.updateDeals
  simp only [Table.map_update db.deals htenancy]

theorem setFileState_references (fileId : UUID) (state : FileState) :
    (setFileState db fileId state).references = db.references :=
  updateFiles_references _ fun _ => rfl

theorem failFile_references (fileId : UUID) (state : FileState) (code : String) :
    (failFile db fileId state code).references = db.references :=
  updateFiles_references _ fun _ => rfl

theorem failWithoutJourney_references (fileId : UUID) :
    (failWithoutJourney db fileId).references = db.references :=
  updateFiles_references _ fun _ => rfl

theorem recordStored_references (now : Timestamp) (fileId : UUID) (result : FetchResult)
    (evidenceId : UUID) :
    (recordStored db now fileId result evidenceId).references = db.references :=
  updateFiles_references _ fun _ => rfl

theorem storeFetched_references (calls : FileCalls) (job : FetchJob) (journeyId : UUID) (row : File)
    (result : FetchResult) :
    (storeFetched db calls job journeyId row result).db.references = db.references := by
  unfold storeFetched
  simp only
  split
  · exact setFileState_references _ _
  · rw [failFile_references, setFileState_references]
  · split
    · rw [recordStored_references, setFileState_references]
    · rw [recordStored_references, setFileState_references]

theorem fetchAndStoreFile_references (calls : FileCalls) (job : FetchJob) :
    (fetchAndStoreFile db calls job).db.references = db.references := by
  unfold fetchAndStoreFile
  split
  · exact failWithoutJourney_references job.fileId
  · split
    · rfl
    · simp only
      split
      · exact setFileState_references _ _
      · rw [failFile_references, setFileState_references]
      · rw [storeFetched_references, setFileState_references]

theorem recordType_references (fileId : UUID) (typeKey : Option String) (facts : Json) :
    (recordType db fileId typeKey facts).references = db.references :=
  updateFiles_references _ fun _ => rfl

theorem parkOnDiSla_references (sessionId : UUID) (note : String) :
    (parkOnDiSla db sessionId note).references = db.references :=
  updateSessions_references _ fun _ => rfl

theorem markSatisfied_references (now : Timestamp) (dealId : UUID) (typeKey : String)
    (documentId : UUID) : (markSatisfied db now dealId typeKey documentId).references =
      db.references := rfl

theorem satisfyLinkedDeal_references {now : Timestamp} {job : PollJob} {result : DiPollResult}
    (h : satisfyLinkedDeal db now job result = .ok db') : db'.references = db.references := by
  unfold satisfyLinkedDeal at h
  split at h
  · split at h
    · cases h
      rfl
    · obtain ⟨typeKey, -, h⟩ := bind_eq_ok.mp h
      cases h
      rfl
  · cases h
    rfl

theorem nudgeFlush_references (now : Timestamp) (sessionId : UUID) :
    (nudgeFlush db now sessionId).references = db.references := by
  unfold nudgeFlush
  split
  · exact updateSessions_references _ fun _ => rfl
  · rfl

theorem concludePoll_references (calls : PollCalls) (job : PollJob) (result : DiPollResult) :
    (concludePoll env db calls job result).db.references = db.references := by
  obtain hsame | ⟨typeKey, facts, htyped | ⟨satisfied, hsat, hnudged⟩⟩ :=
    concludePoll_cases env db calls job result
  · rw [hsame]
  · rw [htyped, recordType_references]
  · rw [hnudged, nudgeFlush_references, satisfyLinkedDeal_references hsat, recordType_references]

theorem pollDiDocument_references (calls : PollCalls) (job : PollJob) :
    (pollDiDocument env db calls job).db.references = db.references := by
  unfold pollDiDocument
  split
  · rfl
  · simp only
    split
    · rfl
    · split
      · exact parkOnDiSla_references _ _
      · rw [reschedulePoll_db]
    · split
      · exact concludePoll_references calls job _
      · split
        · exact parkOnDiSla_references _ _
        · rw [reschedulePoll_db]

/-! ## The inbox task -/

theorem markInbox_references (inboxId : Nat) (state : InboxState) :
    (markInbox db inboxId state).references = db.references := rfl

theorem recordFileArrival_references (now : Timestamp) (sessionId : UUID) (byteSize : Int) :
    (recordFileArrival db now sessionId byteSize).references = db.references :=
  updateSessions_references _ fun _ => rfl

/-- The session is in the table, with the tenant. -/
def Db.HasSession (db : Db) (sessionId tenantId : UUID) : Prop :=
  ∃ s ∈ db.references.sessions, (s.id, s.tenantId) = (sessionId, tenantId)

theorem Db.HasSession.congr {sessionId tenantId : UUID} (h : db.HasSession sessionId tenantId)
    (hsame : db'.references.sessions = db.references.sessions) :
    db'.HasSession sessionId tenantId := by
  unfold Db.HasSession
  rwa [hsame]

theorem registerFile_coherent {newId tenantId sessionId fileId : UUID} {seq : Int}
    {m : MediaMessage} (hc : db.references.Coherent) (hs : db.HasSession sessionId tenantId)
    (h : registerFile env db newId tenantId sessionId seq m = .ok (fileId, db')) :
    db'.references.Coherent ∧ db'.references.sessions = db.references.sessions := by
  obtain ⟨f, hf, ⟨_, -, -, rfl⟩ | ⟨-, files, hins, -, rfl⟩⟩ := registerFile_ok h
  · exact ⟨hc, rfl⟩
  · obtain ⟨-, htenant, hsession, -, -⟩ := newFile_ok hf
    have howner : f.owner = (sessionId, tenantId) := by rw [File.owner, htenant, hsession]
    have hfiles : files.rows.map File.owner = db.references.files ++ [(sessionId, tenantId)] := by
      rw [Table.rows_of_insert? hins, List.map_append, List.map_singleton, howner]
      rfl
    refine ⟨?_, rfl⟩
    unfold Db.references
    rw [hfiles]
    exact hc.addFile hs

theorem processMessage_coherent (env : Env) (i : LoopInput) (st : LoopState) (msg : Json)
    (hc : st.db.references.Coherent) (hs : st.db.HasSession i.sessionId i.ctx.tenantId) :
    (processMessage env i st msg).1.db.references.Coherent ∧
      (processMessage env i st msg).1.db.references.sessions = st.db.references.sessions := by
  unfold processMessage
  split
  · exact ⟨hc, rfl⟩
  · exact ⟨hc, rfl⟩
  · split
    · exact ⟨hc, rfl⟩
    · rename_i fileId db' hreg
      have hfile := registerFile_coherent hc hs hreg
      rw [← recordFileArrival_references i.now i.sessionId 0] at hfile
      split
      · exact hfile
      · exact hfile

theorem processEach_coherent {i : LoopInput} {st st' : LoopState} {e : Option Error}
    {msgs : List Json} (h : processEach env i st msgs = (st', e))
    (hc : st.db.references.Coherent) (hs : st.db.HasSession i.sessionId i.ctx.tenantId) :
    st'.db.references.Coherent := by
  induction msgs generalizing st with
  | nil =>
    cases h
    exact hc
  | cons msg rest ih =>
    obtain ⟨hnext, hsame⟩ := processMessage_coherent env i st msg hc hs
    unfold processEach at h
    split at h
    · rename_i st₁ hone
      rw [hone] at hnext hsame
      exact ih h hnext (hs.congr hsame)
    · rename_i st₁ e₁ hone
      cases h
      rw [hone] at hnext
      exact hnext

theorem processMessages_coherent {inp : InboxInput} {payload : Json} {ctx : ResolvedContext}
    {sessionId : UUID} {jobs : List Job}
    (h : processMessages env db inp payload ctx sessionId = ⟨jobs, .ok db'⟩)
    (hc : db.references.Coherent) (hs : db.HasSession sessionId ctx.tenantId) :
    db'.references.Coherent := by
  obtain ⟨-, rfl⟩ | ⟨messages, msgs, st, -, -, hloop, rfl⟩ := processMessages_inv h
  · exact hc
  · exact processEach_coherent hloop hc hs

/-- The session found or created for a contact has the tenant of the contact. -/
theorem getOrCreateSession_coherent {newId tenantId contactId orgUnitId : UUID} {now : Timestamp}
    {s : Session} (hc : db.references.Coherent)
    (hcontact : ∃ c ∈ db.contacts.rows, c.id = contactId ∧ c.tenantId = tenantId)
    (h : getOrCreateSession db newId now tenantId contactId orgUnitId = .ok (s, db')) :
    db'.references.Coherent ∧ db'.HasSession s.id tenantId := by
  obtain ⟨c, hcmem, hcid, hctenant⟩ := hcontact
  obtain ⟨hmem, hsc, ⟨-, rfl⟩ | ⟨-, rfl, sessions, hins, rfl⟩⟩ := getOrCreateSession_ok h
  · -- The open session was found by its contact alone.
    have hs : s.ref ∈ db'.references.sessions := List.mem_map_of_mem hmem
    obtain ⟨c', hc', htenancy⟩ := List.mem_map.mp (hc.session s.ref hs)
    have hid : c'.id = s.contactId := congrArg Prod.fst htenancy
    have htenant : c'.tenantId = s.tenantId := congrArg Prod.snd htenancy
    obtain rfl : c' = c := contact_eq_of_id hc' hcmem (hid.trans (hsc.trans hcid.symm))
    exact ⟨hc, s.ref, hs, by rw [← hctenant, htenant]; rfl⟩
  · have hsessions : sessions.rows.map Session.ref = db.references.sessions ++
        [(newSession newId now tenantId contactId orgUnitId).ref] := by
      rw [Table.rows_of_insert? hins, List.map_append, List.map_singleton]
      rfl
    have hrow : (contactId, tenantId) ∈ db.references.contacts :=
      List.mem_map.mpr ⟨c, hcmem, by rw [Contact.tenancy, hcid, hctenant]⟩
    constructor
    · unfold Db.references
      rw [hsessions]
      exact hc.addSession hrow rfl
    · exact ⟨_, List.mem_map_of_mem hmem, rfl⟩

theorem inboxTransaction_coherent {inp : InboxInput} {row : Inbox} {payload : Json}
    {jobs : List Job} (hc : db.references.Coherent)
    (h : inboxTransaction env db inp row payload = ⟨jobs, .ok db'⟩) : db'.references.Coherent := by
  obtain ⟨ctx, s, opened, hctx, hget, hmessages⟩ := inboxTransaction_inv h
  obtain ⟨c, hmem, hid, htenant, -⟩ := (resolveFullContext_identifies hctx).contact
  obtain ⟨hopen, hs⟩ := getOrCreateSession_coherent hc ⟨c, hmem, hid, htenant⟩ hget
  exact processMessages_coherent hmessages hopen hs

theorem processInboxRow_coherent (inp : InboxInput) (inboxId : Nat)
    (hc : db.references.Coherent) :
    (processInboxRow env db inp inboxId).db.references.Coherent := by
  obtain hsame | ⟨row, -, ⟨state, hmarked⟩ | ⟨payload, jobs, db', -, -, htx, hdone⟩⟩ :=
    processInboxRow_cases env db inp inboxId
  · rwa [hsame]
  · rwa [hmarked, markInbox_references]
  · rw [hdone, markInbox_references]
    exact inboxTransaction_coherent hc htx

/-! ## The session task -/

theorem parkSession_references (sessionId : UUID) (note : String) :
    (parkSession db sessionId note).references = db.references :=
  updateSessions_references _ fun _ => rfl

theorem markComplete_references (now : Timestamp) (sessionId : UUID) :
    (markComplete db now sessionId).references = db.references :=
  updateSessions_references _ fun _ => rfl

theorem confirmDeal_references (now : Timestamp) (tenantId dealId confirmedBy : UUID) :
    (confirmDeal db now tenantId dealId confirmedBy).references = db.references :=
  updateDeals_references _

theorem enqueueReply_references {newId id : Nat} {now : Timestamp} {tenantId contactId : UUID}
    {sessionId : Option UUID} {kind : OutboxKind} {payload : List (String × Json)}
    {dedupKey : Option String} {sendAfter : Option Timestamp}
    (h : enqueueReply db newId now tenantId contactId sessionId kind payload dedupKey sendAfter =
      .ok (id, db')) : db'.references = db.references := by
  rcases enqueueReply_rows h with rfl | ⟨o, outbox, -, rfl, -⟩
  · rfl
  · rfl

theorem satisfyConfirmedFiles_references (now : Timestamp) (dealId : UUID)
    (files : List RowMapping) :
    (satisfyConfirmedFiles db now dealId files).references = db.references := by
  unfold satisfyConfirmedFiles
  induction files generalizing db with
  | nil => rfl
  | cons f rest ih =>
    rw [List.foldl_cons, ih]
    split
    · split
      · rfl
      · exact markSatisfied_references _ _ _ _
    · rfl

/-- An update of sessions may link them to deals of their tenant. -/
theorem updateSessions_coherent {p : Session → Bool} {f : Session → Session}
    (hf : ∀ s, p s = true → (f s).id = s.id ∧ (f s).contactId = s.contactId ∧
      ((f s).state.isOpen = true → s.state.isOpen = true))
    (hc : db.references.Coherent)
    (h : ∀ s ∈ db.sessions.rows, p s = true → s.ref.Relinked db.references.deals (f s).ref) :
    (db.updateSessions p f hf).references.Coherent := by
  have hpatch : ∀ s ∈ db.sessions.rows, s.ref.Relinked db.references.deals (patch p f s).ref := by
    intro s hs
    unfold patch
    split
    · exact h s hs ‹_›
    · exact .refl _ _
  have hrows : ∀ s', s' ∈ (db.updateSessions p f hf).references.sessions ↔
      ∃ s ∈ db.sessions.rows, (patch p f s).ref = s' := by
    intro s'
    simp only [Db.references, Db.updateSessions, Table.rows_update, List.map_map, List.mem_map,
      Function.comp_apply]
  refine hc.relink ?_ ?_
  · intro _ href
    obtain ⟨s, hs, rfl⟩ := List.mem_map.mp href
    exact ⟨_, (hrows _).mpr ⟨s, hs, rfl⟩, hpatch s hs⟩
  · intro s' hs'
    obtain ⟨s, hs, rfl⟩ := (hrows s').mp hs'
    exact ⟨s.ref, List.mem_map_of_mem hs, hpatch s hs⟩

theorem transitionToConfirming_coherent {now : Timestamp} {s : Session} {dealId : UUID}
    (hc : db.references.Coherent) (hs : s ∈ db.sessions.rows)
    (hd : (dealId, s.tenantId) ∈ db.references.deals) :
    (transitionToConfirming db now s.id dealId).references.Coherent := by
  apply updateSessions_coherent _ hc
  intro t ht hsel
  have hid : t.id = s.id := by simpa using (Bool.and_eq_true_iff.mp hsel).1
  obtain rfl : t = s := session_eq_of_id ht hs hid
  exact ⟨rfl, rfl, rfl, Or.inr ⟨dealId, rfl, hd⟩⟩

theorem mem_deals {d : Deal} {tenantId : UUID} (hd : d ∈ db.deals.rows)
    (htenant : d.tenantId = tenantId) : (d.id, tenantId) ∈ db.references.deals :=
  List.mem_map.mpr ⟨d, hd, by rw [Deal.tenancy, htenant]⟩

theorem createBranch_coherent {inp : SessionInput} {s : Session} {orgUnitId : UUID}
    {files : List RowMapping} {fields : BookingFields} (hc : db.references.Coherent)
    (hs : s ∈ db.sessions.rows)
    (h : createBranch env db inp s orgUnitId files fields = .ok db') :
    db'.references.Coherent := by
  obtain ⟨deal, created, listed, id, payload, hdeal, hlist, hqueue⟩ := createBranch_inv h
  obtain ⟨items, rfl⟩ := initialiseRequirements_frame hlist
  rw [enqueueReply_references hqueue, satisfyConfirmedFiles_references]
  obtain ⟨d, hd, ⟨old, hold, rfl, rfl⟩ | ⟨-, deals, hins, rfl, rfl⟩⟩ :=
    createProvisionalDeal_ok hdeal
  · obtain ⟨hmem, htenant, -⟩ := dealOfBooking_some hold
    have hc' : { created with checklistItems := items }.references.Coherent := hc
    exact transitionToConfirming_coherent hc' hs (mem_deals hmem htenant)
  · obtain ⟨-, htenant, -⟩ := newDeal_ok hd
    have hdeals : deals.rows.map Deal.tenancy = db.references.deals ++ [d.tenancy] := by
      rw [Table.rows_of_insert? hins, List.map_append, List.map_singleton]
      rfl
    have hc' : { db with deals := deals, checklistItems := items }.references.Coherent := by
      unfold Db.references
      rw [hdeals]
      exact hc.addDeals [d.tenancy]
    exact transitionToConfirming_coherent hc' hs
      (mem_deals ((Table.mem_of_insert? hins).mpr (Or.inr rfl)) htenant)

theorem sendGapMessage_references {inp : SessionInput} {s : Session} {dealId : UUID}
    (h : sendGapMessage env db inp s dealId = .ok db') : db'.references = db.references := by
  obtain ⟨checklist, body, id, queued, -, hqueue, rfl⟩ := sendGapMessage_inv h
  split
  · rw [markComplete_references, enqueueReply_references hqueue]
  · exact enqueueReply_references hqueue

theorem raiseAmbiguousReview_coherent {newId tenantId : UUID} {found : DealMatch} {detail : String}
    (hc : db.references.Coherent) (hd : (found.dealId, tenantId) ∈ db.references.deals) :
    (raiseAmbiguousReview db newId tenantId found detail).references.Coherent := by
  unfold raiseAmbiguousReview
  split
  · rename_i tasks hins
    have hreviews : tasks.rows.map ReviewTask.subject =
        db.references.reviews ++ [(some found.dealId, tenantId)] := by
      rw [Table.rows_of_insert? hins, List.map_append, List.map_singleton]
      rfl
    unfold Db.references
    rw [hreviews]
    exact hc.addReview hd
  · exact hc

theorem decideDeal_coherent {inp : SessionInput} {s : Session} {orgUnitId : UUID}
    {files : List RowMapping} {fields : BookingFields} (hc : db.references.Coherent)
    (hs : s ∈ db.sessions.rows)
    (h : decideDeal env db inp s orgUnitId files fields = .ok db') : db'.references.Coherent := by
  obtain ⟨found, hfound, h⟩ := bind_eq_ok.mp h
  split at h
  · exact createBranch_coherent hc hs h
  · rename_i m
    split at h
    · rw [sendGapMessage_references h, satisfyConfirmedFiles_references, confirmDeal_references]
      exact hc
    · cases h
      unfold ambiguousBranch
      rw [parkSession_references]
      obtain ⟨d, hd, hid, htenant⟩ := findExistingDeal_some hfound
      exact raiseAmbiguousReview_coherent hc (hid ▸ mem_deals hd htenant)

theorem processSession_coherent (inp : SessionInput) (sessionId : UUID)
    (hc : db.references.Coherent) :
    (processSession env db inp sessionId).db.references.Coherent := by
  obtain hsame | ⟨s, db', hs, htx, hdb⟩ := processSession_cases env db inp sessionId
  · rwa [hsame]
  · rw [hdb]
    obtain ⟨note, -, rfl⟩ | ⟨orgUnitId, fields, -, hdecide⟩ := sessionTransaction_inv htx
    · rwa [parkSession_references]
    · exact decideDeal_coherent hc (List.mem_of_find?_eq_some hs) hdecide

/-! ## The API -/

theorem updateContacts_tenancy {p : Contact → Bool} {f : Contact → Contact}
    (hf : ∀ c, (f c).id = c.id ∧ (f c).phoneE164 = c.phoneE164)
    (h : ∀ c, (f c).tenancy = c.tenancy) :
    ∃ more, (db.updateContacts p f hf).contacts.rows.map Contact.tenancy =
      db.contacts.rows.map Contact.tenancy ++ more := by
  refine ⟨[], ?_⟩
  rw [List.append_nil]
  unfold Db.updateContacts
  simp only [Table.map_update db.contacts fun c _ => h c]

/-- A binding adds a contact, or leaves the tenant of the bound one. -/
theorem putContact_tenancy (db : Db) (inp : ApiInput) (tenantId : UUID) (body : ContactIn) :
    ∃ more, (putContact db inp tenantId body).1.contacts.rows.map Contact.tenancy =
      db.contacts.rows.map Contact.tenancy ++ more := by
  have hsame : ∃ more, db.contacts.rows.map Contact.tenancy =
      db.contacts.rows.map Contact.tenancy ++ more := ⟨[], by rw [List.append_nil]⟩
  unfold putContact
  split
  · exact hsame
  · split
    · simp only
      split
      · rename_i contacts hins
        refine ⟨[(newContact inp.newId inp.now tenantId body).tenancy], ?_⟩
        rw [Table.rows_of_insert? hins, List.map_append, List.map_singleton]
      · exact hsame
    · split
      · apply updateContacts_tenancy (f := Contact.rebind body) (fun _ => ⟨rfl, rfl⟩)
        intro c
        rfl
      · exact hsame

/-- No operation of the API moves a contact to another tenant. -/
theorem handle_tenancy (env : Env) (db : Db) (inp : ApiInput) (tenantId : UUID) (op : Operation) :
    ∃ more, (handle env db inp tenantId op).db.contacts.rows.map Contact.tenancy =
      db.contacts.rows.map Contact.tenancy ++ more := by
  have hsame : ∃ more, db.contacts.rows.map Contact.tenancy =
      db.contacts.rows.map Contact.tenancy ++ more := ⟨[], by rw [List.append_nil]⟩
  cases op with
  | putContact body => exact putContact_tenancy db inp tenantId body
  | patchContact contactId body =>
    simp only [handle, ApiResult.of, patchContact]
    split
    · exact hsame
    · split
      · exact hsame
      · apply updateContacts_tenancy (f := Contact.patched body) (fun _ => ⟨rfl, rfl⟩)
        intro c
        rfl
  | revokeContact contactId =>
    simp only [handle, ApiResult.of, revokeContact]
    split
    · exact hsame
    · refine updateContacts_tenancy (f := fun c => { c with status := .revoked })
        (fun _ => ⟨rfl, rfl⟩) ?_
      intro c
      rfl
  | createRoute body =>
    simp only [handle, ApiResult.of, createRoute]
    split
    · split
      · exact hsame
      · exact hsame
    · exact hsame
  | patchRoute routeId body =>
    simp only [handle, ApiResult.of, patchRoute]
    split
    · exact hsame
    · split
      · exact hsame
      · split
        · exact hsame
        · exact hsame
  | sendMessage request =>
    simp only [handle]
    rw [sendMessage_tables]
    exact hsame
  | listContacts | getContact | listRoutes | getMessage | listSessions | getSession => exact hsame

theorem handle_coherent (inp : ApiInput) (tenantId : UUID) (op : Operation)
    (hc : db.references.Coherent) : (handle env db inp tenantId op).db.references.Coherent := by
  obtain ⟨more, hmore⟩ := handle_tenancy env db inp tenantId op
  rw [handle_tables]
  unfold Db.references
  simp only [hmore]
  exact hc.addContacts more

/-! ## Steps and runs -/

theorem claimSessionsForFlush_references (db : Db) (now : Timestamp) (limit : Nat) :
    (claimSessionsForFlush db now limit).2.references = db.references := by
  simp only [claimSessionsForFlush]
  exact updateSessions_references _ fun _ => rfl

/-- A step keeps the references within their tenants. -/
theorem worldStep_coherent {w w' : World} {a : Action} (h : worldStep env w a = some w')
    (hc : w.db.references.Coherent) : w'.db.references.Coherent := by
  cases a with
  | webhook newId rawBody hubSignature dispatched =>
    cases h
    obtain ⟨inbox, hdb⟩ := receiveWebhook_frame env w.db newId rawBody hubSignature dispatched
    simp only [hdb]
    exact hc
  | api inp tenantId op =>
    cases h
    exact handle_coherent inp tenantId op hc
  | execute e redelivered =>
    simp only [worldStep] at h
    split at h
    · cases h
      cases e with
      | processInboxRow inboxId inp => exact processInboxRow_coherent inp inboxId hc
      | fetchAndStoreFile args calls =>
        exact (fetchAndStoreFile_references calls args).symm ▸ hc
      | pollDiDocument args calls => exact (pollDiDocument_references calls args).symm ▸ hc
      | processSession sessionId inp => exact processSession_coherent inp sessionId hc
    · contradiction
  | flush now deferOk =>
    cases h
    have hsame := claimSessionsForFlush_references w.db now 50
    exact hsame.symm ▸ hc
  | drain calls =>
    cases h
    obtain ⟨outbox, hdb⟩ := sendOutbox_frame env w.db calls
    simp only [hdb]
    exact hc

/-- Sessions have the tenant of their contact, files that of their session, deals that of the
sessions and review tasks which refer to them, and messages are addressed to the contact of
their session. -/
structure TenantCoherent (db : Db) : Prop where
  sessions : ∀ s ∈ db.sessions.rows, ∃ c ∈ db.contacts.rows,
    c.id = s.contactId ∧ c.tenantId = s.tenantId
  files : ∀ f ∈ db.files.rows, ∃ s ∈ db.sessions.rows, s.id = f.sessionId ∧ s.tenantId = f.tenantId
  linkedDeals : ∀ s ∈ db.sessions.rows, ∀ dealId, s.dealId = some dealId →
    ∃ d ∈ db.deals.rows, d.id = dealId ∧ d.tenantId = s.tenantId
  reviewedDeals : ∀ t ∈ db.reviewTasks.rows, ∀ dealId, t.dealId = some dealId →
    ∃ d ∈ db.deals.rows, d.id = dealId ∧ d.tenantId = t.tenantId
  outbox : ∀ o ∈ db.outbox.rows, ∃ s ∈ db.sessions.rows,
    o.sessionId = some s.id ∧ o.tenantId = s.tenantId ∧ o.contactId = s.contactId

theorem coherent_empty : Db.empty.references.Coherent where
  session := nofun
  file := nofun
  link := nofun
  review := nofun

/-- Tenants are coherent in every state reached from the empty database. -/
theorem tenant_coherence (env : Env) {jobs : List Job} {as : List Action} {w : World}
    (h : run (worldStep env) ⟨.empty, jobs⟩ as = some w) : TenantCoherent w.db := by
  have hc : w.db.references.Coherent :=
    run_preserves (fun w : World => w.db.references.Coherent)
      (fun _ _ _ hc hs => worldStep_coherent hs hc) h coherent_empty
  have hdeal : ∀ dealId tenantId, (dealId, tenantId) ∈ w.db.references.deals →
      ∃ d ∈ w.db.deals.rows, d.id = dealId ∧ d.tenantId = tenantId := by
    intro dealId tenantId hmem
    obtain ⟨d, hd, htenancy⟩ := List.mem_map.mp hmem
    exact ⟨d, hd, congrArg Prod.fst htenancy, congrArg Prod.snd htenancy⟩
  constructor
  · intro s hs
    obtain ⟨c, hmem, htenancy⟩ := List.mem_map.mp (hc.session s.ref (List.mem_map_of_mem hs))
    exact ⟨c, hmem, congrArg Prod.fst htenancy, congrArg Prod.snd htenancy⟩
  · intro f hf
    obtain ⟨_, href, howner⟩ := hc.file f.owner (List.mem_map_of_mem hf)
    obtain ⟨s, hs, rfl⟩ := List.mem_map.mp href
    exact ⟨s, hs, congrArg Prod.fst howner, congrArg Prod.snd howner⟩
  · intro s hs dealId hlink
    exact hdeal _ _ (hc.link s.ref (List.mem_map_of_mem hs) dealId hlink)
  · intro t ht dealId hlink
    exact hdeal _ _ (hc.review t.subject (List.mem_map_of_mem ht) dealId hlink)
  · intro o ho
    obtain ⟨s, hs, htenant, hcontact, hsession⟩ := (provenance_of_run h).outbox o ho
    exact ⟨s, hs, hsession, htenant, hcontact⟩

/-- The photo is received, and its contact is bound again, to another user. -/
def photoRebound : List Action :=
  firstPhoto ++ [.api ⟨0, 0, 6, fun _ => .raised⟩ 2
    (.putContact ⟨"+919876543210", 8, 3, .en, .active⟩)]

/-- The photo and its session stay with the tenant of the contact. -/
theorem tenant_coherence_photoRebound :
    ∃ w, run (worldStep photoEnv) ⟨.empty, []⟩ photoRebound = some w ∧
      w.db.contacts.rows.map (fun c => (c.userId, c.tenancy)) = [(8, 5, 2)] ∧
      w.db.references.sessions = [⟨7, 2, 5, none⟩] ∧ w.db.references.files = [(7, 2)] ∧
      TenantCoherent w.db := by
  have hrun : ((run (worldStep photoEnv) ⟨.empty, []⟩ photoRebound).map fun w =>
      (w.db.contacts.rows.map fun c => (c.userId, c.tenancy), w.db.references.sessions,
        w.db.references.files)) =
      some ([(8, 5, 2)], [⟨7, 2, 5, none⟩], [(7, 2)]) := by decide
  obtain ⟨w, hw, hrows⟩ := Option.map_eq_some_iff.mp hrun
  refine ⟨w, hw, congrArg Prod.fst hrows, congrArg (fun r => r.2.1) hrows,
    congrArg (fun r => r.2.2) hrows, ?_⟩
  exact tenant_coherence photoEnv hw

end WaService
