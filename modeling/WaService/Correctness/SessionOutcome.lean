import WaService.Correctness.DealReadiness
import WaService.Wa.Payload

/-!
# What the session task commits

The readiness checks let only a session without files through, because they read the document
type from a mapping that lacks it. The deal decision then finds a deal by the session's own
number, or creates one. A created deal is linked to the session. A deal that was found is not, and
its session stays in processing unless the checklist of the deal is complete.
-/

namespace WaService

open Python Relational

variable {env : Env} {db db' : Db} {inp : SessionInput} {s : Session}

/-! ## The readiness checks -/

/-- Only a session without files passes the readiness checks. -/
theorem sessionGate_ready {fields : BookingFields}
    (h : sessionGate env (getSessionFiles db s.id) = .ok (.ready fields)) :
    getSessionFiles db s.id = [] ∧ fields = .empty := by
  unfold sessionGate at h
  split at h
  · split at h
    · rename_i htyped
      have hnone : getSessionFiles db s.id = [] := by
        apply List.eq_nil_iff_forall_not_mem.mpr
        intro row hrow
        have hpresent := List.all_eq_true.mp htyped row hrow
        rw [getSessionFiles_documentTypeKey hrow] at hpresent
        cases hpresent
      obtain ⟨read, hread, hfields⟩ := bind_eq_ok.mp h
      rw [hnone] at hread
      cases hread
      cases hfields
      exact ⟨hnone, rfl⟩
    · cases h
  · cases h

/-- The only other outcome parks the session. -/
theorem sessionGate_parked {files : List RowMapping} {note : String}
    (h : sessionGate env files = .ok (.parked note)) : files ≠ [] := by
  rintro rfl
  cases h

/-! ## The deal decision -/

/-- The deal that the tenant has under the session's own number. -/
def dealOfSession (db : Db) (s : Session) : Option Deal :=
  dealOfBooking db s.tenantId (fallbackNumber s.id)

/-- An exact match: the deal is confirmed, a message is queued, and the session is completed if
the checklist of the deal is complete. -/
structure Matched (db db' : Db) (inp : SessionInput) (s : Session) (d : Deal) : Prop where
  found : dealOfSession db s = some d
  completed : ChecklistComplete db d.id → ∃ outbox, db' =
    { markComplete (confirmDeal db inp.now s.tenantId d.id s.contactId) inp.now s.id with
      outbox := outbox }
  left : ¬ ChecklistComplete db d.id → ∃ outbox, db' =
    { confirmDeal db inp.now s.tenantId d.id s.contactId with outbox := outbox }

/-- No match: the deal and its checklist are new, and the session is linked to it. -/
structure Created (env : Env) (db db' : Db) (inp : SessionInput) (s : Session) (d : Deal) :
    Prop where
  missing : dealOfSession db s = none
  id : d.id = inp.dealId
  tenantId : d.tenantId = s.tenantId
  written : ∃ deals items outbox, db.deals.insert? d = some deals ∧
    initialiseChecklist { db with deals := deals } inp.itemIds inp.now d.id .retail =
      .ok { db with deals := deals, checklistItems := items } ∧
    db' = { transitionToConfirming { db with deals := deals, checklistItems := items } inp.now s.id
      d.id with outbox := outbox }

theorem findExistingDeal_session {found : Option DealMatch}
    (h : findExistingDeal env db s.tenantId
      (orElse BookingFields.empty.bookingNumber (fallbackNumber s.id))
      BookingFields.empty.customerName BookingFields.empty.model
      BookingFields.empty.bookingDate = .ok found) :
    (∃ d, dealOfSession db s = some d ∧
        found = some ⟨d.id, d.bookingNumber, d.model, d.state, true, none⟩) ∨
      dealOfSession db s = none ∧ found = none := by
  obtain ⟨number, hnumber, h⟩ := bind_eq_ok.mp h
  obtain rfl : number = fallbackNumber s.id := selectText_str hnumber
  split at h
  · rename_i d hd
    cases h
    exact Or.inl ⟨d, hd, rfl⟩
  · rename_i hnone
    cases h
    exact Or.inr ⟨hnone, rfl⟩

/-- The gap message completes the session when the checklist is complete. -/
theorem sendGapMessage_ok {dealId : UUID} (h : sendGapMessage env db inp s dealId = .ok db') :
    (ChecklistComplete db dealId →
      ∃ outbox, db' = { markComplete db inp.now s.id with outbox := outbox }) ∧
    (¬ ChecklistComplete db dealId → ∃ outbox, db' = { db with outbox := outbox }) := by
  obtain ⟨checklist, body, id, queued, hchecklist, hqueued, rfl⟩ := sendGapMessage_inv h
  have houtbox : ∃ outbox, queued = { db with outbox := outbox } := by
    rcases enqueueReply_rows hqueued with rfl | ⟨-, outbox, -, rfl, -⟩
    · exact ⟨_, rfl⟩
    · exact ⟨outbox, rfl⟩
  obtain ⟨outbox, rfl⟩ := houtbox
  have hiff := buildChecklist_isComplete hchecklist
  constructor
  · intro hcomplete
    simp only [hiff.mpr hcomplete, if_true]
    exact ⟨outbox, rfl⟩
  · intro hincomplete
    rw [if_neg fun hcomplete => hincomplete (hiff.mp hcomplete)]
    exact ⟨outbox, rfl⟩

theorem exactBranch_ok {found : DealMatch} (h : exactBranch env db inp s [] found = .ok db')
    {d : Deal} (hd : dealOfSession db s = some d) (hid : d.id = found.dealId) :
    Matched db db' inp s d := by
  obtain ⟨hcomplete, hleft⟩ := sendGapMessage_ok h
  rw [← hid] at hcomplete hleft
  exact ⟨hd, hcomplete, hleft⟩

/-- The created deal has the session's own number, which no deal of the tenant has. -/
theorem createBranch_ok {orgUnitId : UUID} (hnone : dealOfSession db s = none)
    (h : createBranch env db inp s orgUnitId [] .empty = .ok db') :
    ∃ d, Created env db db' inp s d := by
  obtain ⟨deal, created, listed, id, payload, hcreate, hlist, hqueued⟩ := createBranch_inv h
  obtain ⟨d, hd, hcases⟩ := createProvisionalDeal_ok hcreate
  obtain ⟨hid, htenant, -, hnumber, -⟩ := newDeal_ok hd
  obtain hown : d.bookingNumber = fallbackNumber s.id := Option.some.inj (sqlText_str hnumber)
  rw [hown] at hcases
  obtain ⟨old, hold, -⟩ | ⟨-, deals, hins, rfl, rfl⟩ := hcases
  · cases hnone.symm.trans hold
  · obtain ⟨items, rfl⟩ := initialiseRequirements_frame hlist
    refine ⟨d, hnone, hid, htenant, deals, items, ?_⟩
    rcases enqueueReply_rows hqueued with rfl | ⟨-, outbox, -, rfl, -⟩
    · exact ⟨_, hins, hlist, rfl⟩
    · exact ⟨outbox, hins, hlist, rfl⟩

/-- What the transaction of `process_session` commits. -/
theorem sessionTransaction_cases (h : sessionTransaction env db inp s = .ok db') :
    (∃ note, getSessionFiles db s.id ≠ [] ∧ db' = parkSession db s.id note) ∨
      getSessionFiles db s.id = [] ∧
        ((∃ d, Matched db db' inp s d) ∨ ∃ d, Created env db db' inp s d) := by
  obtain ⟨note, hgate, rfl⟩ | ⟨orgUnitId, fields, hgate, h⟩ := sessionTransaction_inv h
  · exact Or.inl ⟨note, sessionGate_parked hgate, rfl⟩
  · obtain ⟨hfiles, rfl⟩ := sessionGate_ready hgate
    rw [hfiles] at h
    refine Or.inr ⟨hfiles, ?_⟩
    obtain ⟨found, hfound, h⟩ := bind_eq_ok.mp h
    obtain ⟨d, hd, rfl⟩ | ⟨hnone, rfl⟩ := findExistingDeal_session hfound
    · exact Or.inl ⟨d, exactBranch_ok h hd rfl⟩
    · exact Or.inr (createBranch_ok hnone h)

theorem TaskResult.eq_of_quiet {r : TaskResult} (hjobs : r.jobs = []) (hraised : r.raised = false) :
    r = ⟨r.db, [], false⟩ := by
  rw [← hjobs, ← hraised]

/-- A run without an exception commits its transaction. -/
theorem processSession_commits (hs : sessionById db s.id = some s)
    (h : processSession env db inp s.id = ⟨db', [], false⟩) :
    sessionTransaction env db inp s = .ok db' := by
  unfold processSession at h
  rw [hs] at h
  cases htx : sessionTransaction env db inp s with
  | error e =>
    simp only [htx] at h
    cases h
  | ok committed =>
    simp only [htx] at h
    cases h
    rfl

/-- A created deal has an id that no deal had. -/
theorem Created.fresh {d : Deal} (h : Created env db db' inp s d) :
    ∀ old ∈ db.deals.rows, old.id ≠ d.id := by
  obtain ⟨deals, items, outbox, hins, -⟩ := h.written
  intro old hold hid
  have hclash := (Table.insert?_eq_some.mp hins).1 old hold
  simp [clash, sameKey, hid] at hclash

/-! ## Linking the deal -/

/-- The session is linked to the deal and past its processing; it is complete only when the
checklist of the deal is. -/
def LinkedTo (db : Db) (sessionId dealId : UUID) : Prop :=
  ∃ s, sessionById db sessionId = some s ∧ s.dealId = some dealId ∧
    (s.state = .confirmingDeal ∨ s.state = .gapsPending ∨ s.state = .complete) ∧
    (s.state = .complete → ChecklistComplete db dealId)

/-- The deal that the session is resolved to: found with `is_exact`, or newly created. -/
inductive ResolvesTo (env : Env) (db : Db) (inp : SessionInput) (s : Session) : UUID → Prop where
  | found {fields : BookingFields} (m : DealMatch)
      (decided : dealDecision env db s.id = some fields)
      (lookup : findExistingDeal env db s.tenantId
        (orElse fields.bookingNumber (fallbackNumber s.id)) fields.customerName fields.model
        fields.bookingDate = .ok (some m))
      (exact : m.isExact = true) : ResolvesTo env db inp s m.dealId
  | created {fields : BookingFields} (orgUnitId : UUID) (deal : DealCreated)
      (decided : dealDecision env db s.id = some fields)
      (lookup : findExistingDeal env db s.tenantId
        (orElse fields.bookingNumber (fallbackNumber s.id)) fields.customerName fields.model
        fields.bookingDate = .ok none)
      (creation : (createProvisionalDeal env db inp.dealId inp.now s.tenantId orgUnitId
        (orElse fields.bookingNumber (fallbackNumber s.id)) (orElse fields.customerName "(pending)")
        fields (inferDealType fields) s.contactId).map Prod.fst = .ok deal) :
      ResolvesTo env db inp s deal.dealId

/-- A session that gets to the deal decision has no files and no booking fields. -/
theorem dealDecision_some (hs : sessionById db s.id = some s) {fields : BookingFields}
    (h : dealDecision env db s.id = some fields) :
    getSessionFiles db s.id = [] ∧ fields = .empty := by
  unfold dealDecision at h
  rw [hs] at h
  simp only at h
  split at h
  · rename_i hgate
    cases h
    exact sessionGate_ready hgate
  · contradiction

theorem ResolvesTo.cases {dealId : UUID} (h : ResolvesTo env db inp s dealId)
    (hs : sessionById db s.id = some s) :
    getSessionFiles db s.id = [] ∧
      ((∃ d, dealOfSession db s = some d ∧ dealId = d.id) ∨
        dealOfSession db s = none ∧ dealId = inp.dealId) := by
  cases h with
  | found m decided lookup exact =>
    obtain ⟨hfiles, rfl⟩ := dealDecision_some hs decided
    obtain ⟨d, hd, hm⟩ | ⟨-, hm⟩ := findExistingDeal_session lookup
    · cases hm
      exact ⟨hfiles, Or.inl ⟨d, hd, rfl⟩⟩
    · cases hm
  | created orgUnitId deal decided lookup creation =>
    obtain ⟨hfiles, rfl⟩ := dealDecision_some hs decided
    obtain ⟨d, -, hm⟩ | ⟨hnone, -⟩ := findExistingDeal_session lookup
    · cases hm
    · obtain ⟨⟨_, db₁⟩, hcreate, rfl⟩ := map_eq_ok.mp creation
      obtain ⟨d, hd, hcases⟩ := createProvisionalDeal_ok hcreate
      obtain ⟨hid, -, -, hnumber, -⟩ := newDeal_ok hd
      obtain hown : d.bookingNumber = fallbackNumber s.id := Option.some.inj (sqlText_str hnumber)
      rw [hown] at hcases
      obtain ⟨old, hold, -⟩ | ⟨-, deals, -, rfl, -⟩ := hcases
      · cases hnone.symm.trans hold
      · exact ⟨hfiles, Or.inr ⟨hnone, hid⟩⟩

theorem sessionById_transitionToConfirming {now : Timestamp} {dealId : UUID}
    (hs : sessionById db s.id = some s) (hstate : s.state = .processing) :
    sessionById (transitionToConfirming db now s.id dealId) s.id =
      some { s with
        state := .confirmingDeal
        dealId := some dealId
        flushAt := some (now + seconds 86400) } := by
  unfold transitionToConfirming
  rw [sessionById_updateSessions, hs]
  exact congrArg some (if_pos (by simp [hstate]))

theorem sessionById_markComplete (now : Timestamp) (hs : sessionById db s.id = some s) :
    sessionById (markComplete db now s.id) s.id =
      some { s with state := .complete, completedAt := some now } := by
  unfold markComplete
  rw [sessionById_updateSessions, hs]
  exact congrArg some (if_pos (by simp))

/-- A created deal is linked to its session. -/
theorem Created.linked {d : Deal} (h : Created env db db' inp s d)
    (hs : sessionById db s.id = some s) (hstate : s.state = .processing) :
    LinkedTo db' s.id d.id := by
  obtain ⟨deals, items, outbox, -, -, rfl⟩ := h.written
  have hlisted : sessionById { db with deals := deals, checklistItems := items } s.id = some s := hs
  exact ⟨_, sessionById_transitionToConfirming hlisted hstate, rfl, Or.inl rfl, nofun⟩

/-- A deal that was found is linked only if it was before, and the session goes on only if the
checklist of the deal is complete. -/
theorem Matched.linked_iff {d : Deal} (h : Matched db db' inp s d)
    (hs : sessionById db s.id = some s) (hstate : s.state = .processing) :
    LinkedTo db' s.id d.id ↔ s.dealId = some d.id ∧ ChecklistComplete db d.id := by
  have hconfirmed : sessionById (confirmDeal db inp.now s.tenantId d.id s.contactId) s.id =
      some s :=
    hs
  by_cases hcomplete : ChecklistComplete db d.id
  · obtain ⟨outbox, rfl⟩ := h.completed hcomplete
    have hfound := sessionById_markComplete inp.now hconfirmed
    constructor
    · rintro ⟨s', hs', hdeal, -⟩
      cases hfound.symm.trans hs'
      exact ⟨hdeal, hcomplete⟩
    · rintro ⟨hdeal, -⟩
      exact ⟨_, hfound, hdeal, Or.inr (Or.inr rfl), fun _ => hcomplete⟩
  · obtain ⟨outbox, rfl⟩ := h.left hcomplete
    constructor
    · rintro ⟨s', hs', -, hpast, -⟩
      cases hconfirmed.symm.trans hs'
      rw [hstate] at hpast
      rcases hpast with hpast | hpast | hpast
      all_goals cases hpast
    · exact fun hdeal => absurd hdeal.2 hcomplete

/-- A session resolved to a deal is linked to it exactly when the deal is new, or when it was
linked to it before and the checklist of the deal is complete. -/
theorem resolved_session_linked_iff (env : Env) {db db' : Db} {inp : SessionInput} {s : Session}
    {dealId : UUID} (hs : sessionById db s.id = some s) (hstate : s.state = .processing)
    (hr : ResolvesTo env db inp s dealId)
    (hcommit : processSession env db inp s.id = ⟨db', [], false⟩) :
    LinkedTo db' s.id dealId ↔
      (∀ d ∈ db.deals.rows, d.id ≠ dealId) ∨
        s.dealId = some dealId ∧ ChecklistComplete db dealId := by
  obtain ⟨hfiles, hresolved⟩ := hr.cases hs
  obtain ⟨note, hparked, -⟩ | ⟨-, ⟨d, hmatched⟩ | ⟨d, hcreated⟩⟩ :=
    sessionTransaction_cases (processSession_commits hs hcommit)
  · exact absurd hfiles hparked
  · obtain ⟨old, hold, rfl⟩ | ⟨hnone, -⟩ := hresolved
    · obtain rfl : d = old := Option.some.inj (hmatched.found.symm.trans hold)
      have hmem : d ∈ db.deals.rows := (dealOfBooking_some hold).1
      rw [hmatched.linked_iff hs hstate]
      exact ⟨Or.inr, fun h => h.resolve_left fun hnew => hnew d hmem rfl⟩
    · cases hnone.symm.trans hmatched.found
  · obtain ⟨old, hold, -⟩ | ⟨-, rfl⟩ := hresolved
    · cases hcreated.missing.symm.trans hold
    · rw [← hcreated.id]
      exact ⟨fun _ => Or.inl hcreated.fresh, fun _ => hcreated.linked hs hstate⟩

/-! ## A session without files -/

/-- A claimed session of the consultant, without files. -/
def idleSession : Session := { claimedSession with tenantId := 2, contactId := 5, fileCount := 0 }

/-- The database of the session. -/
def idleDb : Db := { boundDb with sessions := .singleton idleSession }

/-- A provisional deal that already has the session's number. -/
def numberedDeal : Deal where
  id := 10
  tenantId := 2
  orgUnitId := some 3
  bookingNumber := "WA-00000000"
  customerName := some "(pending)"
  customerMobile := none
  model := none
  variant := none
  bookingDate := none
  dealType := .retail
  isFinanced := false
  hasExchange := false
  isCorporate := false
  state := .provisional
  createdFrom := "whatsapp"
  createdBy := some 5
  confirmedBy := none
  confirmedAt := none
  updatedAt := 0

/-- The database in which the deal of the session exists. -/
def numberedDb : Db := { idleDb with deals := .singleton numberedDeal }

/-- Generated ids of the run. -/
def idleInput : SessionInput := ⟨0, 11, fun n => 20 + BitVec.ofNat 128 n, 12, 1⟩

/-- The run of the session task on the database. -/
def idleRun (db : Db) : TaskResult := processSession (.ofRecording "s" []) db idleInput 7

/-- Without a deal of its number, the session is linked to the deal that is created. -/
theorem resolved_session_linked_iff_created :
    ResolvesTo (.ofRecording "s" []) idleDb idleInput idleSession 11 ∧
      idleRun idleDb = ⟨(idleRun idleDb).db, [], false⟩ ∧ LinkedTo (idleRun idleDb).db 7 11 := by
  have hr : ResolvesTo (.ofRecording "s" []) idleDb idleInput idleSession 11 :=
    .created 3 ⟨11, "WA-00000000", none, some "(pending)", true⟩ rfl rfl rfl
  have hnew : ∀ d ∈ idleDb.deals.rows, d.id ≠ 11 := by decide
  have hcommit : idleRun idleDb = ⟨(idleRun idleDb).db, [], false⟩ :=
    TaskResult.eq_of_quiet (by decide +kernel) (by decide +kernel)
  exact ⟨hr, hcommit, (resolved_session_linked_iff _ rfl rfl hr hcommit).mpr (Or.inl hnew)⟩

/-- With a deal of its number, the session is resolved to it, and is left in processing without
it. -/
theorem matched_session_not_linked :
    ResolvesTo (.ofRecording "s" []) numberedDb idleInput idleSession 10 ∧
      idleRun numberedDb = ⟨(idleRun numberedDb).db, [], false⟩ ∧
      (sessionById (idleRun numberedDb).db 7).map (fun s => (s.state, s.dealId)) =
        some (.processing, none) ∧
      ¬ LinkedTo (idleRun numberedDb).db 7 10 := by
  have hview : (sessionById (idleRun numberedDb).db 7).map (fun s => (s.state, s.dealId)) =
      some (.processing, none) := by decide +kernel
  refine ⟨.found ⟨10, "WA-00000000", none, .provisional, true, none⟩ rfl rfl rfl,
    TaskResult.eq_of_quiet (by decide +kernel) (by decide +kernel), hview, ?_⟩
  rintro ⟨s, hs, hdeal, -⟩
  rw [hs] at hview
  have hnone : s.dealId = none := congrArg Prod.snd (Option.some.inj hview)
  rw [hnone] at hdeal
  cases hdeal

end WaService
