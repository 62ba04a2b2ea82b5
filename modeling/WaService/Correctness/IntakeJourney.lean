import WaService.Correctness.SenderIdentity
import WaService.System.FileRuns

/-!
# The intake journey of an upload

The route that a message arrived on gives the tenant, and is then forgotten: the journey is looked
up again, by the inbox task and once more by the download, as that of the first active route of the
session's tenant. A tenant may have several.
-/

namespace WaService

open Python Relational

/-- The active routes of a tenant, in heap order. -/
def tenantRoutes (db : Db) (tenantId : UUID) : List Route :=
  db.routes.rows.filter fun r => r.active && r.tenantId == tenantId

/-- The journey of the tenant's first active route. -/
def firstJourney (db : Db) (tenantId : UUID) : Option UUID :=
  (tenantRoutes db tenantId).head?.bind (·.intakeJourneyId)

/-! ## The uploads of a download -/

/-- The requests to audit-core that an execution of the download makes. -/
def uploads (db : Db) (calls : FileCalls) (job : FetchJob) : List StoreRequest :=
  match job.intakeJourneyId.or (sessionJourney db job.sessionId) with
  | none => []
  | some journeyId =>
    match fileById db job.fileId with
    | none => []
    | some row =>
      match calls.fetchMedia row.fetchRequest with
      | .ok result => [storeRequest job journeyId row result]
      | _ => []

/-- An execution asks audit-core for its uploads alone. -/
theorem fetchAndStoreFile_congr {db : Db} {calls : FileCalls} {job : FetchJob}
    {store : StoreRequest → StoreOutcome}
    (h : ∀ request ∈ uploads db calls job, store request = calls.storeViaAuditCore request) :
    fetchAndStoreFile db { calls with storeViaAuditCore := store } job =
      fetchAndStoreFile db calls job := by
  unfold fetchAndStoreFile
  unfold uploads at h
  cases hjourney : job.intakeJourneyId.or (sessionJourney db job.sessionId) with
  | none => rfl
  | some journeyId =>
    cases hrow : fileById db job.fileId with
    | none => rfl
    | some row =>
      cases hfetch : calls.fetchMedia row.fetchRequest with
      | ok result =>
        simp only [hjourney, hrow, hfetch, List.mem_singleton, forall_eq] at h
        simp only [File.fetchRequest] at hfetch
        simp only [hfetch, storeFetched]
        simp only [storeRequest] at h
        rw [h]
      | failed code retryable quarantine =>
        simp only [File.fetchRequest] at hfetch
        simp only [hfetch]
      | raised =>
        simp only [File.fetchRequest] at hfetch
        simp only [hfetch]

/-- An upload goes to the journey of the job, or else to that of the session. -/
theorem uploads_journey {db : Db} {calls : FileCalls} {job : FetchJob} {request : StoreRequest}
    (h : request ∈ uploads db calls job) :
    job.intakeJourneyId.or (sessionJourney db job.sessionId) = some request.journeyId := by
  unfold uploads at h
  split at h
  · cases h
  · rename_i journeyId hjourney
    split at h
    · cases h
    · split at h
      · rw [List.mem_singleton.mp h, hjourney]
        rfl
      · cases h

/-! ## The lookup of the journey -/

section Journey

variable {db : Db} {sessionId : UUID} {c : Contact}

/-- A session belongs to a contact, whichever database it is read from. -/
def SessionOf (db : Db) (sessionId contactId : UUID) : Prop :=
  ∀ s ∈ db.sessions.rows, s.id = sessionId → s.contactId = contactId

/-- For a stored session of the contact the lookup ranges over the routes of its tenant. -/
theorem sessionRoutes_eq (hc : c ∈ db.contacts.rows) (hof : SessionOf db sessionId c.id)
    (hs : ∃ s ∈ db.sessions.rows, s.id = sessionId) :
    sessionRoutes db sessionId = tenantRoutes db c.tenantId := by
  unfold sessionRoutes tenantRoutes
  refine List.filter_congr fun r _ => ?_
  congr 1
  rw [Bool.eq_iff_iff]
  simp only [List.any_eq_true, Bool.and_eq_true, beq_iff_eq]
  constructor
  · rintro ⟨c', hc', htenant, s, hs, hcontact, hid⟩
    rw [hof s hs hid] at hcontact
    rw [← htenant, contact_eq_of_id hc' hc hcontact.symm]
  · rintro htenant
    obtain ⟨s, hs, hid⟩ := hs
    exact ⟨c, hc, htenant.symm, s, hs, hof s hs hid, hid⟩

/-- Without the session it finds no route. -/
theorem sessionJourney_of_missing (h : ∀ s ∈ db.sessions.rows, s.id ≠ sessionId) :
    sessionJourney db sessionId = none := by
  have hroutes : sessionRoutes db sessionId = [] := by
    unfold sessionRoutes
    rw [List.filter_eq_nil_iff]
    intro r _ hr
    simp only [Bool.and_eq_true, List.any_eq_true, beq_iff_eq] at hr
    obtain ⟨-, c, -, -, s, hs, -, hid⟩ := hr
    exact h s hs hid
  unfold sessionJourney
  rw [hroutes]
  rfl

/-- The lookup finds the journey of the tenant's first active route. -/
theorem sessionJourney_eq (hc : c ∈ db.contacts.rows) (hof : SessionOf db sessionId c.id)
    (hs : ∃ s ∈ db.sessions.rows, s.id = sessionId) :
    sessionJourney db sessionId = firstJourney db c.tenantId := by
  unfold sessionJourney firstJourney
  rw [sessionRoutes_eq hc hof hs]

/-- With or without the session, it finds that journey or none. -/
theorem sessionJourney_cases (hc : c ∈ db.contacts.rows) (hof : SessionOf db sessionId c.id) :
    sessionJourney db sessionId = firstJourney db c.tenantId ∨
      sessionJourney db sessionId = none := by
  by_cases hs : ∃ s ∈ db.sessions.rows, s.id = sessionId
  · exact Or.inl (sessionJourney_eq hc hof hs)
  · refine Or.inr (sessionJourney_of_missing fun s hmem hid => hs ⟨s, hmem, hid⟩)

end Journey

/-! ## The jobs of the inbox task -/

/-- What a loop defers are the downloads of the loop's session with the loop's journey. -/
theorem mem_processEach_jobs {env : Env} {i : LoopInput} {st : LoopState} {msgs : List Json}
    {job : Job} (h : job ∈ (processEach env i st msgs).1.jobs) :
    job ∈ st.jobs ∨ ∃ fileId, job = .fetchAndStoreFile (fetchJob i fileId) := by
  have hone : ∀ (st : LoopState) msg, job ∈ (processMessage env i st msg).1.jobs →
      job ∈ st.jobs ∨ ∃ fileId, job = .fetchAndStoreFile (fetchJob i fileId) := by
    intro st msg hmem
    unfold processMessage at hmem
    split at hmem
    · exact Or.inl hmem
    · exact Or.inl hmem
    · split at hmem
      · exact Or.inl hmem
      · rename_i fileId _ _
        simp only at hmem
        split at hmem
        · rcases List.mem_append.mp hmem with hold | hnew
          · exact Or.inl hold
          · exact Or.inr ⟨fileId, List.mem_singleton.mp hnew⟩
        · exact Or.inl hmem
  induction msgs generalizing st with
  | nil => exact Or.inl h
  | cons msg rest ih =>
    unfold processEach at h
    split at h
    · rename_i st₁ hmsg
      rcases ih h with hmem | hnew
      · exact hone st msg (by rw [hmsg]; exact hmem)
      · exact Or.inr hnew
    · rename_i st₁ e hmsg
      exact hone st msg (by rw [hmsg]; exact h)

/-- The routes and the contacts are those of another database, and the session belongs to the
contact. -/
structure JourneyKept (old : Db) (sessionId contactId : UUID) (db : Db) : Prop where
  routes : db.routes = old.routes
  contacts : db.contacts = old.contacts
  session : SessionOf db sessionId contactId

section Kept

variable {old db db' : Db} {sessionId contactId : UUID}

/-- An update of sessions keeps their ids and contacts. -/
theorem JourneyKept.updateSessions (h : JourneyKept old sessionId contactId db)
    {p : Session → Bool} {f : Session → Session}
    (hf : ∀ s, p s = true → (f s).id = s.id ∧ (f s).contactId = s.contactId ∧
      ((f s).state.isOpen = true → s.state.isOpen = true)) :
    JourneyKept old sessionId contactId (db.updateSessions p f hf) where
  routes := h.routes
  contacts := h.contacts
  session s' hs' hid := by
    obtain ⟨s, hs, rfl⟩ := List.mem_map.mp hs'
    by_cases hp : p s = true
    · rw [patch_of_pos hp] at hid ⊢
      rw [(hf s hp).1] at hid
      rw [(hf s hp).2.1]
      exact h.session s hs hid
    · rw [patch_of_neg (by simpa using hp)] at hid ⊢
      exact h.session s hs hid

/-- Every lookup of the journey finds the first one of the contact's tenant, or none. -/
theorem JourneyKept.journey_cases {c : Contact} (h : JourneyKept old sessionId c.id db)
    (hc : c ∈ old.contacts.rows) :
    sessionJourney db sessionId = firstJourney old c.tenantId ∨
      sessionJourney db sessionId = none := by
  have hfirst : firstJourney db c.tenantId = firstJourney old c.tenantId := by
    unfold firstJourney tenantRoutes
    rw [h.routes]
  rw [← hfirst]
  exact sessionJourney_cases (by rwa [h.contacts]) h.session

/-- The session that the task finds or opens belongs to the contact, before and afterwards. -/
theorem getOrCreateSession_kept {newId tenantId orgUnitId : UUID} {now : Timestamp} {s : Session}
    (h : getOrCreateSession db newId now tenantId contactId orgUnitId = .ok (s, db')) :
    JourneyKept db s.id contactId db ∧ JourneyKept db s.id contactId db' := by
  obtain ⟨hs, hcontact, hcases⟩ := getOrCreateSession_ok h
  have hof : SessionOf db' s.id contactId := by
    intro r hr hid
    have hsame : r = s := Table.eq_of_clash hr hs (by simp [clash, sameKey, hid])
    rw [hsame, hcontact]
  obtain ⟨-, rfl⟩ | ⟨-, -, sessions, hins, rfl⟩ := hcases
  · exact ⟨⟨rfl, rfl, hof⟩, ⟨rfl, rfl, hof⟩⟩
  · refine ⟨⟨rfl, rfl, ?_⟩, ⟨rfl, rfl, hof⟩⟩
    intro r hr hid
    have hfree := (Table.insert?_eq_some.mp hins).1 r hr
    simp [clash, sameKey, hid] at hfree

end Kept

/-- Jobs come out of the transaction of the row, whether it is committed or rolled back. -/
theorem processInboxRow_jobs {env : Env} {db : Db} {inp : InboxInput} {inboxId : Nat} {row : Inbox}
    {job : Job} (hrow : inboxRow db inboxId = some row)
    (h : job ∈ (processInboxRow env db inp inboxId).jobs) :
    ∃ payload, job ∈ (inboxTransaction env db inp row payload).jobs ∧
      ((∃ state, (processInboxRow env db inp inboxId).db = markInbox db row.id state) ∨
        ∃ db' state, (inboxTransaction env db inp row payload).outcome = .ok db' ∧
          (processInboxRow env db inp inboxId).db = markInbox db' row.id state) := by
  have hrun : processInboxRow env db inp inboxId = processRow env db inp row := by
    unfold processInboxRow
    rw [hrow]
  rw [hrun] at h ⊢
  unfold processRow at h ⊢
  split at h
  · rename_i hsigned
    rw [if_pos hsigned]
    cases hpayload : decodePayload env row.payload with
    | error e => simp [hpayload] at h
    | ok payload =>
      refine ⟨payload, ?_⟩
      simp only [hpayload] at h ⊢
      cases htx : inboxTransaction env db inp row payload with
      | mk jobs outcome =>
        rw [htx] at h
        cases outcome with
        | ok db' => exact ⟨h, Or.inr ⟨db', .done, rfl, rfl⟩⟩
        | error failure =>
          cases failure with
          | routing reason ignore => exact ⟨h, Or.inl ⟨.ignored, rfl⟩⟩
          | python e => exact ⟨h, Or.inl ⟨.failed, rfl⟩⟩
  · cases h

/-- A transaction that has deferred a job has come to its loop. -/
theorem inboxTransaction_loop {env : Env} {db : Db} {inp : InboxInput} {row : Inbox}
    {payload : Json} {jobs : List Job} {outcome : Except Failure Db} {job : Job}
    (hrun : inboxTransaction env db inp row payload = ⟨jobs, outcome⟩) (hjob : job ∈ jobs) :
    ∃ ctx s opened msgs st e, resolveFullContext db row.phoneNumberId payload = .ok ctx ∧
      getOrCreateSession db inp.sessionId inp.now ctx.tenantId ctx.contactId ctx.orgUnitId =
        .ok (s, opened) ∧
      processEach env
        ⟨inp.now, ctx, s.id, sessionJourney opened s.id, inp.fileIds, inp.deferOk⟩
        ⟨opened, maxReceivedSeq opened s.id, [], 0⟩ msgs = (st, e) ∧
      jobs = st.jobs ∧ ∀ db', outcome = .ok db' → db' = st.db := by
  unfold inboxTransaction at hrun
  split at hrun
  · cases hrun
    cases hjob
  · rename_i ctx hctx
    split at hrun
    · cases hrun
      cases hjob
    · rename_i s opened hget
      unfold processMessages at hrun
      split at hrun
      · cases hrun
        cases hjob
      · cases hrun
        cases hjob
      · split at hrun
        · cases hrun
          cases hjob
        · rename_i msgs _
          simp only at hrun
          split at hrun
          · rename_i st hloop
            cases hrun
            exact ⟨ctx, s, opened, msgs, st, none, hctx, hget, hloop, rfl,
              fun db' hdb => (Except.ok.inj hdb).symm⟩
          · rename_i st e hloop
            cases hrun
            exact ⟨ctx, s, opened, msgs, st, some e, hctx, hget, hloop, rfl,
              fun db' hdb => by cases hdb⟩

/-- A download that the transaction defers belongs to the contact that was identified, and has the
journey that the lookup found. -/
theorem inboxTransaction_download {env : Env} {db : Db} {inp : InboxInput} {row : Inbox}
    {payload : Json} {jobs : List Job} {outcome : Except Failure Db} {args : FetchJob}
    (hrun : inboxTransaction env db inp row payload = ⟨jobs, outcome⟩)
    (hjob : .fetchAndStoreFile args ∈ jobs) :
    ∃ c ∈ db.contacts.rows, (∃ r ∈ db.routes.rows, row.phoneNumberId = some r.phoneNumberId ∧
        r.active = true ∧ r.tenantId = c.tenantId) ∧
      args.intakeJourneyId = firstJourney db c.tenantId ∧
      JourneyKept db args.sessionId c.id db ∧
      ∀ db', outcome = .ok db' → JourneyKept db args.sessionId c.id db' := by
  obtain ⟨ctx, s, opened, msgs, st, e, hctx, hget, hloop, rfl, hcommit⟩ :=
    inboxTransaction_loop hrun hjob
  obtain ⟨⟨route, hroute, hnumber, hactive, hrouteTenant⟩, c, hc, hcid, hctenant, -, -⟩ :=
    resolveFullContext_identifies hctx
  rw [← hcid] at hget
  obtain ⟨hbefore, hopened⟩ := getOrCreateSession_kept hget
  obtain ⟨hs, -, -⟩ := getOrCreateSession_ok hget
  have hjourney : sessionJourney opened s.id = firstJourney db c.tenantId := by
    rw [sessionJourney_eq (by rw [hopened.contacts]; exact hc) hopened.session ⟨s, hs, rfl⟩]
    unfold firstJourney tenantRoutes
    rw [hopened.routes]
  have hdeferred := @mem_processEach_jobs env _ _ msgs (.fetchAndStoreFile args)
    (by rw [hloop]; exact hjob)
  obtain hnone | ⟨fileId, hargs⟩ := hdeferred
  · cases hnone
  · cases hargs
    refine ⟨c, hc, ⟨route, hroute, hnumber, hactive, hrouteTenant.trans hctenant.symm⟩, hjourney,
      hbefore, ?_⟩
    intro db' hdb'
    rw [hcommit db' hdb']
    refine processEach_preserves (P := JourneyKept db s.id c.id) ?_ ?_ hloop hopened
    · intro d f files hd _ _
      exact ⟨hd.routes, hd.contacts, hd.session⟩
    · intro d hd
      exact hd.updateSessions _

/-! ## Journeys -/

/-- The job and the uploads that it makes on a database use the route's journey. -/
def UsesJourney (db : Db) (route : Route) (args : FetchJob) : Prop :=
  args.intakeJourneyId = route.intakeJourneyId ∧
    ∀ calls, ∀ request ∈ uploads db calls args, route.intakeJourneyId = some request.journeyId

/-- A download that is deferred for a route uses its journey exactly when the first active route of
the tenant has the same one. -/
theorem evidence_journey_iff (env : Env) (db : Db) (inp : InboxInput) {inboxId : Nat} {row : Inbox}
    {route : Route} {args : FetchJob} (hrow : inboxRow db inboxId = some row)
    (hroute : route ∈ db.routes.rows) (hnumber : row.phoneNumberId = some route.phoneNumberId)
    (hjob : .fetchAndStoreFile args ∈ (processInboxRow env db inp inboxId).jobs) :
    UsesJourney (processInboxRow env db inp inboxId).db route args ↔
      firstJourney db route.tenantId = route.intakeJourneyId := by
  obtain ⟨payload, hjobs, hdb⟩ := processInboxRow_jobs hrow hjob
  obtain ⟨c, hc, ⟨r, hr, hrnumber, -, htenant⟩, hjourney, hbefore, hafter⟩ :=
    inboxTransaction_download rfl hjobs
  -- The number belongs to one route.
  have hsame : r = route := by
    rw [hnumber] at hrnumber
    exact Table.eq_of_clash hr hroute (by simp [clash, sameKey, Option.some.inj hrnumber])
  subst hsame
  rw [htenant]
  have hkept : JourneyKept db args.sessionId c.id (processInboxRow env db inp inboxId).db := by
    obtain ⟨state, hmarked⟩ | ⟨db', state, hok, hmarked⟩ := hdb
    · rw [hmarked]
      exact ⟨hbefore.routes, hbefore.contacts, hbefore.session⟩
    · rw [hmarked]
      have hdb' := hafter db' hok
      exact ⟨hdb'.routes, hdb'.contacts, hdb'.session⟩
  constructor
  · rintro ⟨huses, -⟩
    rw [← hjourney, huses]
  · intro hfirst
    refine ⟨hjourney.trans hfirst, fun calls request hrequest => ?_⟩
    rw [← uploads_journey hrequest, hjourney, hfirst]
    obtain hsession | hsession := hkept.journey_cases hc
    · rw [hsession, hfirst, Option.or_self]
    · rw [hsession, Option.or_none]

/-! ## A tenant with two outlets -/

/-- The number of an outlet of tenant 2, with the journey of the outlet. -/
def outletRoute (id : UUID) (number : String) (journeyId : UUID) : Route :=
  ⟨id, 2, number, number, true, some journeyId, 0⟩

/-- A signed row with a photo that arrived on a number. -/
def outletRow (number : String) : Inbox :=
  ⟨1, some "w1", some number,
    webhookBody [entryOf [changeValue number ["919876543210"] [consultantPhoto "w1"]]], true,
    .pending⟩

/-- The row has arrived on one of the two numbers of the tenant. -/
def outletDb (number : String) : Db :=
  { boundDb with
    routes := ⟨[outletRoute 1 "PN1" 9, outletRoute 4 "PN2" 10], by decide⟩
    inbox := .singleton (outletRow number) }

/-- What the task of the row leaves. -/
def outletRun (number : String) : TaskResult :=
  processInboxRow (.ofRecording "s" []) (outletDb number) batchInput 1

/-- The download of the photo, for the session opened for it. -/
def outletJob (journeyId : UUID) : FetchJob := ⟨100, 7, 2, 6, 3, .en, some journeyId⟩

/-- A photo that arrived on the first number goes to the journey of that number. -/
theorem first_outlet_journey :
    .fetchAndStoreFile (outletJob 9) ∈ (outletRun "PN1").jobs ∧
      UsesJourney (outletRun "PN1").db (outletRoute 1 "PN1" 9) (outletJob 9) := by
  have hjob : .fetchAndStoreFile (outletJob 9) ∈ (outletRun "PN1").jobs := by decide
  exact ⟨hjob, (evidence_journey_iff (.ofRecording "s" []) (outletDb "PN1") batchInput rfl
    (by decide) rfl hjob).mpr (by decide)⟩

/-- A photo that arrived on the second number goes to the journey of the first one. -/
theorem second_outlet_misfiled :
    (outletRun "PN2").jobs = [.fetchAndStoreFile (outletJob 9)] ∧
      outletRoute 4 "PN2" 10 ∈ (outletDb "PN2").routes.rows ∧
      ¬ UsesJourney (outletRun "PN2").db (outletRoute 4 "PN2" 10) (outletJob 9) := by
  refine ⟨by decide, by decide, ?_⟩
  rintro ⟨hsame, -⟩
  exact absurd hsame (by decide)

end WaService
