import WaService.Correctness.SessionOutcome
import WaService.System.Transactions

/-!
# Tasks that change nothing

A background task leaves the database as it is, defers nothing and raises nothing exactly when
everything that it would write is there already.
-/

namespace WaService

open Python Relational

variable {env : Env} {db db' : Db}

/-! ## Updates without an effect -/

theorem updateFiles_eq_self {p : File → Bool} {f : File → File}
    (h : ∀ r, (f r).id = r.id ∧ (f r).wamid = r.wamid) :
    db.updateFiles p f h = db ↔ ∀ r ∈ db.files.rows, p r = true → f r = r := by
  rw [← Table.update_eq_self (File.keeps h)]
  exact ⟨congrArg Db.files, fun hsame => by rw [Db.updateFiles, hsame]⟩

theorem updateSessions_eq_self {p : Session → Bool} {f : Session → Session}
    (h : ∀ s, p s = true → (f s).id = s.id ∧ (f s).contactId = s.contactId ∧
      ((f s).state.isOpen = true → s.state.isOpen = true)) :
    db.updateSessions p f h = db ↔ ∀ s ∈ db.sessions.rows, p s = true → f s = s := by
  rw [← Table.update_eq_self (Session.keeps h)]
  exact ⟨congrArg Db.sessions, fun hsame => by rw [Db.updateSessions, hsame]⟩

theorem updateOutbox_eq_self {p : Outbox → Bool} {f : Outbox → Outbox} (h : ∀ o, (f o).id = o.id) :
    db.updateOutbox p f h = db ↔ ∀ o ∈ db.outbox.rows, p o = true → f o = o := by
  rw [← Table.update_eq_self (Outbox.keeps h)]
  exact ⟨congrArg Db.outbox, fun hsame => by rw [Db.updateOutbox, hsame]⟩

theorem updateDeals_eq_self {p : Deal → Bool} {f : Deal → Deal}
    (h : ∀ d, (f d).id = d.id ∧ (f d).tenantId = d.tenantId ∧
      (f d).bookingNumber = d.bookingNumber) :
    db.updateDeals p f h = db ↔ ∀ d ∈ db.deals.rows, p d = true → f d = d := by
  rw [← Table.update_eq_self (Deal.keeps h)]
  exact ⟨congrArg Db.deals, fun hsame => by rw [Db.updateDeals, hsame]⟩

theorem updateItems_eq_self {p : ChecklistItem → Bool} {f : ChecklistItem → ChecklistItem}
    (h : ∀ i, (f i).id = i.id ∧ (f i).dealId = i.dealId ∧ (f i).typeKey = i.typeKey) :
    db.updateItems p f h = db ↔ ∀ i ∈ db.checklistItems.rows, p i = true → f i = i := by
  rw [← Table.update_eq_self (ChecklistItem.keeps h)]
  exact ⟨congrArg Db.checklistItems, fun hsame => by rw [Db.updateItems, hsame]⟩

/-! ## The download -/

/-- The file of the download is not there, or the tenant has no journey and the file has already
failed for it. -/
def DownloadSettled (db : Db) (job : FetchJob) : Prop :=
  ∀ f ∈ db.files.rows, f.id = job.fileId →
    job.intakeJourneyId.or (sessionJourney db job.sessionId) = none ∧
      f.state = .failed ∧ f.errorCode = some "NO_INTAKE_JOURNEY"

theorem fileById_setFileState {fileId : UUID} {row : File} (h : fileById db fileId = some row)
    (state : FileState) :
    fileById (setFileState db fileId state) fileId = some { row with state := state } := by
  have hid : (row.id == fileId) = true := by simpa using List.find?_some h
  unfold setFileState
  rw [fileById_updateFiles, h]
  exact congrArg some (patch_of_pos hid)

/-- A failed attempt is counted. -/
theorem failFile_ne {fileId : UUID} {row row' : File} (h : fileById db fileId = some row)
    (h' : fileById db' fileId = some row') (hattempts : row'.attempts = row.attempts)
    (state : FileState) (code : String) : failFile db' fileId state code ≠ db := by
  intro hsame
  have hid : (row'.id == fileId) = true := by simpa using List.find?_some h'
  have hfound := congrArg (fun d => (fileById d fileId).map (·.attempts)) hsame
  simp only [failFile, fileById_updateFiles, h, h', Option.map_some, patch, hid, if_true,
    hattempts, Option.some.injEq] at hfound
  omega

theorem fetchAndStoreFile_settled_iff (calls : FileCalls) (job : FetchJob) :
    fetchAndStoreFile db calls job = ⟨db, [], false⟩ ↔ DownloadSettled db job := by
  unfold fetchAndStoreFile DownloadSettled
  cases hjourney : job.intakeJourneyId.or (sessionJourney db job.sessionId) with
  | none =>
    simp only [TaskResult.mk.injEq, and_true, true_and, failWithoutJourney, updateFiles_eq_self,
      beq_iff_eq]
    refine forall₂_congr fun f hf => imp_congr_right fun hid => ?_
    constructor
    · intro hsame
      exact ⟨(congrArg File.state hsame).symm, (congrArg File.errorCode hsame).symm⟩
    · rintro ⟨hstate, hcode⟩
      cases f
      simp_all
  | some journeyId =>
    simp only [reduceCtorEq, false_and, imp_false]
    cases hrow : fileById db job.fileId with
    | none =>
      simp only [true_iff]
      intro f hf hid
      simpa [hid] using List.find?_eq_none.mp hrow f hf
    | some row =>
      have hmem : row ∈ db.files.rows := List.mem_of_find?_eq_some hrow
      have hid : row.id = job.fileId := by simpa using List.find?_some hrow
      refine iff_of_false (fun hquiet => ?_) fun hnone => hnone row hmem hid
      have hdownloading := fileById_setFileState hrow .downloading
      simp only at hquiet
      split at hquiet
      · cases congrArg TaskResult.raised hquiet
      · exact failFile_ne hrow hdownloading rfl _ _ (congrArg TaskResult.db hquiet)
      · unfold storeFetched at hquiet
        have hstoring := fileById_setFileState hdownloading .storing
        simp only at hquiet
        split at hquiet
        · cases congrArg TaskResult.raised hquiet
        · exact failFile_ne hrow hstoring rfl _ _ (congrArg TaskResult.db hquiet)
        · split at hquiet
          · cases congrArg TaskResult.jobs hquiet
          · cases congrArg TaskResult.raised hquiet

/-! ## The flush -/

/-- A batch of the rows that satisfy a predicate is empty only when there are none. -/
theorem exists_mem_batch {α : Type} {rows : List α} {sel : α → Bool} {r : α → α → Prop}
    [DecidableRel r] {a : α} (ha : a ∈ rows) (hsel : sel a = true) (limit : Nat) :
    ∃ b ∈ rows, sel b = true ∧ b ∈ ((rows.filter sel).insertionSort r).take (limit + 1) := by
  have hperm := List.perm_insertionSort r (rows.filter sel)
  cases hsorted : (rows.filter sel).insertionSort r with
  | nil =>
    rw [hsorted] at hperm
    have hmem : a ∈ rows.filter sel := List.mem_filter.mpr ⟨ha, hsel⟩
    rw [← hperm.nil_eq] at hmem
    cases hmem
  | cons b rest =>
    rw [hsorted] at hperm
    obtain ⟨hb, hbsel⟩ := List.mem_filter.mp (hperm.mem_iff.mp List.mem_cons_self)
    refine ⟨b, hb, hbsel, ?_⟩
    rw [List.take_succ_cons]
    exact List.mem_cons_self

/-- No session is due. -/
def NoneDue (db : Db) (now : Timestamp) : Prop := ∀ s ∈ db.sessions.rows, flushable now s = false

theorem flushReadySessions_settled_iff (now : Timestamp) (deferOk : Nat → Bool) :
    flushReadySessions db now deferOk = ⟨db, [], false⟩ ↔ NoneDue db now := by
  constructor
  · intro hquiet s hs
    have hdb : (claimSessionsForFlush db now 50).2 = db := congrArg TaskResult.db hquiet
    simp only [claimSessionsForFlush, updateSessions_eq_self] at hdb
    by_contra hdue
    obtain ⟨b, hb, hbdue, hbatch⟩ := exists_mem_batch
      (r := fun a b : Session => a.flushAt.getD 0 ≤ b.flushAt.getD 0) hs
      (Bool.eq_true_of_not_eq_false hdue) 49
    have hclaimed : (flushBatch db now 50).contains b.id = true := by
      rw [List.contains_iff_mem]
      exact List.mem_map_of_mem hbatch
    have hstate := congrArg Session.state (hdb b hb (by rw [hbdue, hclaimed]; rfl))
    simp only [flushable, Bool.and_eq_true, beq_iff_eq] at hbdue
    rw [hbdue.1] at hstate
    cases hstate
  · intro hnone
    have hunclaimed : ∀ s ∈ db.sessions.rows,
        (flushable now s && (flushBatch db now 50).contains s.id) = false := by
      intro s hs
      rw [hnone s hs]
      rfl
    have hdb : (claimSessionsForFlush db now 50).2 = db := by
      simp only [claimSessionsForFlush, updateSessions_eq_self]
      intro s hs hsel
      rw [hunclaimed s hs] at hsel
      cases hsel
    have hids : (claimSessionsForFlush db now 50).1 = [] := by
      simp only [claimSessionsForFlush, List.map_eq_nil_iff, List.filter_eq_nil_iff]
      intro s hs
      rw [hunclaimed s hs]
      exact Bool.false_ne_true
    unfold flushReadySessions
    simp only [hdb, hids]
    rfl

/-! ## The drain -/

/-- The attempts of the outbox rows. -/
def Db.attempts (db : Db) : List Nat := db.outbox.rows.map (·.attempts)

theorem updateOutbox_attempts {p : Outbox → Bool} {f : Outbox → Outbox} (h : ∀ o, (f o).id = o.id)
    (hf : ∀ o, (f o).attempts = o.attempts) : (db.updateOutbox p f h).attempts = db.attempts := by
  unfold Db.attempts Db.updateOutbox
  rw [Table.map_update db.outbox fun o _ => hf o]

theorem markFailed_attempts (now : Timestamp) (outboxId : Nat) (error : Option String)
    (permanent : Bool) : (markFailed db now outboxId error permanent).attempts = db.attempts := by
  unfold markFailed
  split
  · exact updateOutbox_attempts _ fun _ => rfl
  · exact updateOutbox_attempts _ fun _ => rfl

theorem markOutcome_attempts {now : Timestamp} {outboxId : Nat} {outcome : SendOutcome}
    (h : markOutcome env db now outboxId outcome = .ok db') : db'.attempts = db.attempts := by
  cases outcome with
  | ok wamid =>
    obtain ⟨text, -, h⟩ := bind_eq_ok.mp h
    cases h
    exact updateOutbox_attempts _ fun _ => rfl
  | failed code message retryable =>
    obtain ⟨text, -, h⟩ := bind_eq_ok.mp h
    cases h
    exact markFailed_attempts now outboxId text (!retryable)
  | raised => cases h

/-- What follows a claim counts no attempt. -/
theorem drainRows_attempts (calls : DrainCalls) (rows : List Outbox) :
    (drainRows env calls db rows).1.attempts = db.attempts := by
  induction rows generalizing db with
  | nil => rfl
  | cons row rest ih =>
    unfold drainRows
    split
    · exact ih
    · rw [ih]
      exact markFailed_attempts _ _ _ _
    · rfl
    · split
      · rename_i db' hmark
        rw [ih]
        exact markOutcome_attempts hmark
      · rfl

/-- No row has missed its window or is ready to be claimed. -/
def OutboxSettled (db : Db) (now : Timestamp) (locked : List Nat) : Prop :=
  ∀ o ∈ db.outbox.rows, windowMissed now o = false ∧ claimable now locked o = false

/-- A claim that counts no attempt takes no row. -/
theorem none_claimable {now : Timestamp} {locked : List Nat}
    (h : (claimPending db now locked 20).2.attempts = db.attempts) :
    ∀ o ∈ (expireOutbox db now).outbox.rows, claimable now locked o = false := by
  intro o ho
  by_contra hready
  obtain ⟨b, hb, hbready, hbatch⟩ := exists_mem_batch
    (r := fun a b : Outbox => a.sendAfter ≤ b.sendAfter) ho (Bool.eq_true_of_not_eq_false hready) 19
  have hclaimed : claimed (expireOutbox db now) now locked 20 b = true := by
    unfold claimed
    rw [hbready, Bool.true_and, List.contains_iff_mem]
    exact List.mem_map_of_mem hbatch
  have hexpire : (expireOutbox db now).attempts = db.attempts :=
    updateOutbox_attempts _ fun _ => rfl
  have hcount := h.trans hexpire.symm
  simp only [Db.attempts, claimPending, Db.updateOutbox, Table.rows_update, List.map_map] at hcount
  have hsame := List.map_inj_left.mp hcount b hb
  simp only [Function.comp_apply, patch_of_pos hclaimed, raiseAttempts] at hsame
  omega

theorem claimPending_of_none {now : Timestamp} {locked : List Nat}
    (h : ∀ o ∈ (expireOutbox db now).outbox.rows, claimable now locked o = false) :
    claimPending db now locked 20 = ([], expireOutbox db now) := by
  have hunclaimed : ∀ o ∈ (expireOutbox db now).outbox.rows,
      claimed (expireOutbox db now) now locked 20 o = false := by
    intro o ho
    unfold claimed
    rw [h o ho, Bool.false_and]
  refine Prod.ext ?_ ?_
  · simp only [claimPending, Table.returning, List.map_eq_nil_iff, List.filter_eq_nil_iff]
    intro o ho
    rw [hunclaimed o ho]
    exact Bool.false_ne_true
  · have hid : ∀ o, (raiseAttempts o).id = o.id := fun _ => rfl
    apply (updateOutbox_eq_self hid).mpr
    intro o ho hsel
    rw [hunclaimed o ho] at hsel
    cases hsel

theorem expireOutbox_eq_self {now : Timestamp} :
    expireOutbox db now = db ↔ ∀ o ∈ db.outbox.rows, windowMissed now o = false := by
  have hid : ∀ o, (skipWindow o).id = o.id := fun _ => rfl
  refine (updateOutbox_eq_self hid).trans (forall₂_congr fun o _ => ?_)
  constructor
  · intro h
    by_contra hmissed
    have hsel := Bool.eq_true_of_not_eq_false hmissed
    have hstate := congrArg Outbox.state (h hsel)
    simp only [windowMissed, Bool.and_eq_true, beq_iff_eq] at hsel
    rw [hsel.1] at hstate
    cases hstate
  · intro h hsel
    rw [h] at hsel
    cases hsel

theorem sendOutbox_settled_iff (env : Env) (calls : DrainCalls) :
    sendOutbox env db calls = (db, false) ↔ OutboxSettled db calls.now calls.locked := by
  constructor
  · intro hquiet
    have hattempts : (claimPending db calls.now calls.locked 20).2.attempts = db.attempts := by
      have hsame := congrArg (fun r => Db.attempts r.1) hquiet
      unfold sendOutbox at hsame
      rwa [drainRows_attempts] at hsame
    have hnone := none_claimable hattempts
    have hexpire : expireOutbox db calls.now = db := by
      have hsame := congrArg Prod.fst hquiet
      unfold sendOutbox at hsame
      rwa [claimPending_of_none hnone] at hsame
    rw [hexpire] at hnone
    exact fun o ho => ⟨expireOutbox_eq_self.mp hexpire o ho, hnone o ho⟩
  · intro hsettled
    have hexpire : expireOutbox db calls.now = db :=
      expireOutbox_eq_self.mpr fun o ho => (hsettled o ho).1
    have hnone : ∀ o ∈ (expireOutbox db calls.now).outbox.rows,
        claimable calls.now calls.locked o = false := by
      rw [hexpire]
      exact fun o ho => (hsettled o ho).2
    unfold sendOutbox
    rw [claimPending_of_none hnone, hexpire]
    rfl

/-! ## A session that is processed again -/

/-- The reason that the readiness checks give for a session with files. -/
def readinessNote (files : List RowMapping) : String :=
  if files.all fun f => (f.get .state).eqText "stored" then "awaiting_di" else "files_not_ready"

/-- The gap message of the deal can be written, and is queued already. -/
def GapQueued (env : Env) (db : Db) (s : Session) (d : Deal) : Prop :=
  ∃ locale message queued, contactLocale db s.contactId = .ok locale ∧
    formatGapMessage (checklistOfRows d.id d.bookingNumber (checklistRows db d.id))
      (env.copy locale) = .ok message ∧
    pendingDuplicates db s.id .text ("gap_" ++ uuidStr s.id) = [queued]

/-- The session has been set aside for the same reason, or has ended; or it has no files, its deal
is confirmed, the gap message is queued and the session is completed if it is to be. -/
def ProcessingSettled (env : Env) (db : Db) (inp : SessionInput) (s : Session) : Prop :=
  s.orgUnitId ≠ none ∧
    if getSessionFiles db s.id = [] then
      ∃ d, dealOfSession db s = some d ∧ d.state ≠ .provisional ∧ GapQueued env db s d ∧
        (ChecklistComplete db d.id → s.state = .complete ∧ s.completedAt = some inp.now)
    else s.state = .complete ∨ s.state = .cancelled ∨
      s.state = .parked ∧ s.note = some (readinessNote (getSessionFiles db s.id))

variable {inp : SessionInput} {s : Session}

theorem sessionGate_of_files (hne : getSessionFiles db s.id ≠ []) :
    sessionGate env (getSessionFiles db s.id) =
      .ok (.parked (readinessNote (getSessionFiles db s.id))) := by
  have huntyped : ¬ (getSessionFiles db s.id).all
      (fun f => (f.get .documentTypeKey).isPresent) = true := by
    intro hall
    obtain ⟨row, rest, hrows⟩ := List.exists_cons_of_ne_nil hne
    have hrow : row ∈ getSessionFiles db s.id := hrows ▸ List.mem_cons_self
    have hpresent := List.all_eq_true.mp hall row hrow
    rw [getSessionFiles_documentTypeKey hrow] at hpresent
    cases hpresent
  unfold sessionGate readinessNote
  rw [if_neg huntyped]
  split
  · rfl
  · rfl

theorem parkSession_eq_self (hs : s ∈ db.sessions.rows) (note : String) :
    parkSession db s.id note = db ↔
      s.state = .complete ∨ s.state = .cancelled ∨ s.state = .parked ∧ s.note = some note := by
  unfold parkSession
  rw [updateSessions_eq_self]
  constructor
  · intro h
    by_cases hended : s.state = .complete ∨ s.state = .cancelled
    · exact hended.imp_right Or.inl
    · obtain ⟨hcomplete, hcancelled⟩ := not_or.mp hended
      have hsame := h s hs (by simp [hcomplete, hcancelled])
      have hstate : s.state = .parked := (congrArg Session.state hsame).symm
      have hnote : s.note = some note := (congrArg Session.note hsame).symm
      exact Or.inr (Or.inr ⟨hstate, hnote⟩)
  · intro h t ht hsel
    obtain ⟨hid, hlive⟩ := Bool.and_eq_true_iff.mp hsel
    obtain rfl : t = s := session_eq_of_id ht hs (by simpa using hid)
    rcases h with hcomplete | hcancelled | ⟨hparked, hnote⟩
    · simp [hcomplete] at hlive
    · simp [hcancelled] at hlive
    · rw [← hparked, ← hnote]

theorem markComplete_eq_self (hs : s ∈ db.sessions.rows) (now : Timestamp) :
    markComplete db now s.id = db ↔ s.state = .complete ∧ s.completedAt = some now := by
  unfold markComplete
  rw [updateSessions_eq_self]
  constructor
  · intro h
    have hsame := h s hs (by simp)
    exact ⟨(congrArg Session.state hsame).symm, (congrArg Session.completedAt hsame).symm⟩
  · rintro ⟨hstate, hcompleted⟩ t ht hsel
    obtain rfl : t = s := session_eq_of_id ht hs (by simpa using hsel)
    rw [← hstate, ← hcompleted]

theorem confirmDeal_eq_self {d : Deal} (hd : d ∈ db.deals.rows) (now : Timestamp)
    (confirmedBy : UUID) :
    confirmDeal db now d.tenantId d.id confirmedBy = db ↔ d.state ≠ .provisional := by
  unfold confirmDeal
  rw [updateDeals_eq_self]
  constructor
  · intro h hprovisional
    have hsame := h d hd (by simp [hprovisional])
    have hstate : d.state = .confirmed := (congrArg Deal.state hsame).symm
    rw [hprovisional] at hstate
    cases hstate
  · intro h e he hsel
    simp only [Bool.and_eq_true, beq_iff_eq] at hsel
    have hclash : clash e d = true := by simp [clash, sameKey, hsel.1.2]
    obtain rfl : e = d := Table.eq_of_clash he hd hclash
    exact absurd hsel.2 h

/-- A reply under a key of the session is not queued twice. -/
theorem enqueueReply_again {tenantId contactId : UUID} {payload : List (String × Json)}
    {key : String} (hkey : (key == "") = false) {newId id : Nat} {now : Timestamp} :
    enqueueReply db newId now tenantId contactId (some s.id) .text payload (some key) none =
        .ok (id, db') ∧ db'.outbox = db.outbox ↔
      (∃ queued, pendingDuplicates db s.id .text key = [queued] ∧ id = queued.id) ∧ db' = db := by
  unfold enqueueReply
  simp only [hkey, Bool.false_eq_true, if_false]
  cases hduplicates : pendingDuplicates db s.id .text key with
  | nil =>
    simp only [List.nil_eq, reduceCtorEq, false_and, exists_false, iff_false, not_and]
    intro hinsert hsame
    obtain ⟨o, outbox, hins, rfl, -⟩ := insertOutbox_rows hinsert
    have hrows := congrArg (fun t => t.rows.length) hsame
    simp only [Table.rows_of_insert? hins, List.length_append, List.length_singleton] at hrows
    omega
  | cons queued rest =>
    cases rest with
    | nil =>
      simp only [Except.ok.injEq, Prod.mk.injEq, List.cons.injEq, and_true, exists_eq_left']
      constructor
      · rintro ⟨⟨hid, rfl⟩, -⟩
        exact ⟨hid.symm, rfl⟩
      · rintro ⟨rfl, rfl⟩
        exact ⟨⟨rfl, rfl⟩, rfl⟩
    | cons more rest => simp

theorem buildChecklist_of_mem {d : Deal} (hd : d ∈ db.deals.rows) :
    buildChecklist db d.tenantId d.id =
      .ok (checklistOfRows d.id d.bookingNumber (checklistRows db d.id)) := by
  have hfind : (db.deals.rows.find? fun e => e.id == d.id && e.tenantId == d.tenantId) =
      some d := by
    refine Table.find?_eq_some_of_mem hd (by simp) fun e he => ?_
    obtain ⟨hid, -⟩ := Bool.and_eq_true_iff.mp he
    simpa [clash, sameKey] using Or.inl (by simpa using hid)
  unfold buildChecklist
  rw [hfind]

theorem gapKey_ne_empty (sessionId : UUID) : ("gap_" ++ uuidStr sessionId == "") = false := by
  simp

/-- The gap message changes nothing. -/
theorem sendGapMessage_settled {d : Deal} (hd : d ∈ db.deals.rows)
    (htenant : d.tenantId = s.tenantId)
    (hs : s ∈ db.sessions.rows) :
    sendGapMessage env db inp s d.id = .ok db ↔ GapQueued env db s d ∧
      (ChecklistComplete db d.id → s.state = .complete ∧ s.completedAt = some inp.now) := by
  have hchecklist := buildChecklist_of_mem hd
  rw [htenant] at hchecklist
  have hcomplete := buildChecklist_isComplete hchecklist
  constructor
  · intro h
    obtain ⟨locale, hlocale, h⟩ := bind_eq_ok.mp h
    obtain ⟨checklist, hread, h⟩ := bind_eq_ok.mp h
    cases hchecklist.symm.trans hread
    obtain ⟨message, hmessage, h⟩ := bind_eq_ok.mp h
    obtain ⟨⟨id, new⟩, hreply, h⟩ := bind_eq_ok.mp h
    have hresult : (if (checklistOfRows d.id d.bookingNumber
        (checklistRows db d.id)).isComplete then markComplete new inp.now s.id else new) = db :=
      Except.ok.inj h
    have houtbox : new.outbox = db.outbox := by
      rw [← hresult]
      split
      · rfl
      · rfl
    obtain ⟨⟨queued, hqueued, -⟩, rfl⟩ :=
      (enqueueReply_again (gapKey_ne_empty s.id)).mp ⟨hreply, houtbox⟩
    refine ⟨⟨locale, message, queued, hlocale, hmessage, hqueued⟩, fun hdone => ?_⟩
    rw [if_pos (hcomplete.mpr hdone)] at hresult
    exact (markComplete_eq_self hs inp.now).mp hresult
  · rintro ⟨⟨locale, message, queued, hlocale, hmessage, hqueued⟩, hdone⟩
    have hreply : enqueueReply db inp.outboxId inp.now s.tenantId s.contactId (some s.id) .text
        [("body", .str message.2)] (some ("gap_" ++ uuidStr s.id)) none = .ok (queued.id, db) :=
      ((enqueueReply_again (gapKey_ne_empty s.id)).mpr ⟨⟨queued, hqueued, rfl⟩, rfl⟩).1
    unfold sendGapMessage
    refine bind_eq_ok.mpr ⟨locale, hlocale, bind_eq_ok.mpr ⟨_, hchecklist, bind_eq_ok.mpr
      ⟨message, hmessage, bind_eq_ok.mpr ⟨_, hreply, ?_⟩⟩⟩⟩
    apply congrArg Except.ok
    by_cases hall : ChecklistComplete db d.id
    · exact (if_pos (hcomplete.mpr hall)).trans ((markComplete_eq_self hs inp.now).mpr (hdone hall))
    · exact if_neg fun hc => hall (hcomplete.mp hc)

/-- The transaction confirms the deal first. -/
theorem exactBranch_settled {d : Deal} (hfound : dealOfSession db s = some d)
    (hs : s ∈ db.sessions.rows) {m : DealMatch} (hm : m.dealId = d.id) :
    exactBranch env db inp s [] m = .ok db ↔ d.state ≠ .provisional ∧ GapQueued env db s d ∧
      (ChecklistComplete db d.id → s.state = .complete ∧ s.completedAt = some inp.now) := by
  obtain ⟨hd, htenant, -⟩ := dealOfBooking_some hfound
  have hconfirm := confirmDeal_eq_self hd inp.now s.contactId
  rw [htenant] at hconfirm
  have hbranch : exactBranch env db inp s [] m =
      sendGapMessage env (confirmDeal db inp.now s.tenantId d.id s.contactId) inp s d.id := by
    unfold exactBranch
    rw [hm]
    rfl
  rw [hbranch]
  constructor
  · intro h
    obtain ⟨hcompleted, hleft⟩ := sendGapMessage_ok h
    have hdeals : (confirmDeal db inp.now s.tenantId d.id s.contactId).deals = db.deals := by
      by_cases hall : ChecklistComplete (confirmDeal db inp.now s.tenantId d.id s.contactId) d.id
      · obtain ⟨outbox, hdb⟩ := hcompleted hall
        exact (congrArg Db.deals hdb).symm
      · obtain ⟨outbox, hdb⟩ := hleft hall
        exact (congrArg Db.deals hdb).symm
    have hsame : confirmDeal db inp.now s.tenantId d.id s.contactId = db := by
      change { db with deals := (confirmDeal db inp.now s.tenantId d.id s.contactId).deals } = db
      rw [hdeals]
    rw [hsame] at h
    exact ⟨hconfirm.mp hsame, (sendGapMessage_settled hd htenant hs).mp h⟩
  · rintro ⟨hstate, hqueued⟩
    rw [hconfirm.mpr hstate]
    exact (sendGapMessage_settled hd htenant hs).mpr hqueued

theorem hexDigit_toUpper_ne_nul : ∀ n < 16, (hexDigit n).toUpper ≠ '\x00' := by decide

/-- The number of a session without a booking form can be looked up. -/
theorem selectText_fallbackNumber (sessionId : UUID) :
    selectText (.str (fallbackNumber sessionId)) = .ok (fallbackNumber sessionId) := by
  have hnul : Json.hasNul (fallbackNumber sessionId) = false := by
    unfold Json.hasNul fallbackNumber
    rw [String.toList_ofList, List.contains_eq_mem, decide_eq_false_iff_not, List.mem_append,
      not_or]
    refine ⟨by decide, fun hmem => ?_⟩
    obtain ⟨c, hc, hupper⟩ := List.mem_map.mp hmem
    obtain ⟨i, -, rfl⟩ := List.mem_map.mp (List.mem_of_mem_take hc)
    exact hexDigit_toUpper_ne_nul _ (Nat.mod_lt _ (by decide)) hupper
  simp only [selectText, hnul, Bool.false_eq_true, if_false]

theorem decideDeal_settled {orgUnitId : UUID} (hs : s ∈ db.sessions.rows) :
    decideDeal env db inp s orgUnitId [] .empty = .ok db ↔
      ∃ d, dealOfSession db s = some d ∧ d.state ≠ .provisional ∧ GapQueued env db s d ∧
        (ChecklistComplete db d.id → s.state = .complete ∧ s.completedAt = some inp.now) := by
  cases hfound : dealOfSession db s with
  | none =>
    refine iff_of_false (fun h => ?_) (by simp)
    obtain ⟨found, hlookup, h⟩ := bind_eq_ok.mp h
    obtain ⟨d, hd, -⟩ | ⟨-, rfl⟩ := findExistingDeal_session hlookup
    · cases hfound.symm.trans hd
    · obtain ⟨d, hcreated⟩ := createBranch_ok hfound h
      obtain ⟨deals, items, outbox, hins, -, hdb⟩ := hcreated.written
      have hdeals : db.deals = deals := congrArg Db.deals hdb
      have hmem : d ∈ db.deals.rows := by
        rw [hdeals, Table.rows_of_insert? hins]
        exact List.mem_append_right _ List.mem_cons_self
      exact hcreated.fresh d hmem rfl
  | some d =>
    have hlookup : findExistingDeal env db s.tenantId
        (orElse BookingFields.empty.bookingNumber (fallbackNumber s.id))
        BookingFields.empty.customerName BookingFields.empty.model BookingFields.empty.bookingDate =
        .ok (some ⟨d.id, d.bookingNumber, d.model, d.state, true, none⟩) := by
      refine bind_eq_ok.mpr ⟨_, selectText_fallbackNumber s.id, ?_⟩
      rw [show dealOfBooking db s.tenantId (fallbackNumber s.id) = some d from hfound]
      rfl
    unfold decideDeal
    rw [hlookup]
    exact (exactBranch_settled hfound hs rfl).trans (by simp)

/-- A session without files gets to the deal decision. -/
theorem sessionTransaction_of_no_files {orgUnitId : UUID} (horg : s.orgUnitId = some orgUnitId)
    (hfiles : getSessionFiles db s.id = []) :
    sessionTransaction env db inp s = decideDeal env db inp s orgUnitId [] .empty := by
  have hgate : sessionGate env [] = .ok (.ready .empty) := rfl
  unfold sessionTransaction
  simp only [horg, hfiles, hgate]
  exact pure_bind (SessionGate.ready BookingFields.empty) _

theorem sessionTransaction_of_files {orgUnitId : UUID} (horg : s.orgUnitId = some orgUnitId)
    (hfiles : getSessionFiles db s.id ≠ []) :
    sessionTransaction env db inp s =
      .ok (parkSession db s.id (readinessNote (getSessionFiles db s.id))) := by
  unfold sessionTransaction
  simp only [horg, sessionGate_of_files hfiles]
  rfl

theorem sessionTransaction_settled (hs : s ∈ db.sessions.rows) :
    sessionTransaction env db inp s = .ok db ↔ ProcessingSettled env db inp s := by
  unfold ProcessingSettled
  cases horg : s.orgUnitId with
  | none =>
    unfold sessionTransaction
    rw [horg]
    simp
  | some orgUnitId =>
    simp only [ne_eq, reduceCtorEq, not_false_eq_true, true_and]
    by_cases hfiles : getSessionFiles db s.id = []
    · rw [if_pos hfiles, sessionTransaction_of_no_files horg hfiles]
      exact decideDeal_settled hs
    · rw [if_neg hfiles, sessionTransaction_of_files horg hfiles, ← parkSession_eq_self hs,
        Except.ok.injEq]

theorem processSession_settled_iff (sessionId : UUID) :
    processSession env db inp sessionId = ⟨db, [], false⟩ ↔
      ∀ s, sessionById db sessionId = some s → ProcessingSettled env db inp s := by
  unfold processSession
  cases hs : sessionById db sessionId with
  | none => simp
  | some s =>
    have hmem : s ∈ db.sessions.rows := List.mem_of_find?_eq_some hs
    simp only [Option.some.injEq, forall_eq']
    rw [← sessionTransaction_settled hmem]
    cases sessionTransaction env db inp s with
    | error e => simp
    | ok committed => simp

/-! ## A poll that is answered again -/

/-- The answer is on the file, the checklist item of its type carries it with the time of the poll,
and so does the flush timer if no file waits for its type. -/
def AnswerSettled (db : Db) (calls : PollCalls) (job : PollJob) (result : DiPollResult)
    (typeKey : Option String) (facts : Json) : Prop :=
  (∀ f ∈ db.files.rows, f.id = job.fileId →
    f.documentTypeKey = typeKey ∧ f.diFacts = some facts) ∧
  (result.satisfies = true → ∀ dealId, dealOfSessionId db job.sessionId = some dealId →
    ∃ key, selectText result.documentTypeKey = .ok key ∧
      ∀ i ∈ db.checklistItems.rows, i.dealId = dealId → i.typeKey = key →
        i.satisfied = true ∧ i.documentId = some job.evidenceId ∧ i.updatedAt = calls.now) ∧
  (untypedFiles db job.sessionId = [] → ∀ s ∈ db.sessions.rows, s.id = job.sessionId →
    s.state.isOpen = true → s.flushAt = some calls.now)

/-- What the poll persists is there already; or the session that it parks is parked already. -/
def PollSettled (env : Env) (db : Db) (calls : PollCalls) (job : PollJob) : Prop :=
  (∀ result typeKey facts, recordedAnswer env calls job = some (result, typeKey, facts) →
    AnswerSettled db calls job result typeKey facts) ∧
  (recordedAnswer env calls job = none → ∀ note, parkingNote calls job = some note →
    ∀ s ∈ db.sessions.rows, s.id = job.sessionId → s.state = .parked ∧ s.note = some note)

theorem parkOnDiSla_eq_self (sessionId : UUID) (note : String) :
    parkOnDiSla db sessionId note = db ↔
      ∀ s ∈ db.sessions.rows, s.id = sessionId → s.state = .parked ∧ s.note = some note := by
  unfold parkOnDiSla
  rw [updateSessions_eq_self]
  refine forall₂_congr fun s _ => ?_
  rw [beq_iff_eq]
  refine imp_congr_right fun _ => ?_
  constructor
  · intro hsame
    exact ⟨(congrArg Session.state hsame).symm, (congrArg Session.note hsame).symm⟩
  · rintro ⟨hstate, hnote⟩
    rw [← hstate, ← hnote]

theorem recordType_eq_self (fileId : UUID) (typeKey : Option String) (facts : Json) :
    recordType db fileId typeKey facts = db ↔
      ∀ f ∈ db.files.rows, f.id = fileId →
        f.documentTypeKey = typeKey ∧ f.diFacts = some facts := by
  unfold recordType
  rw [updateFiles_eq_self]
  refine forall₂_congr fun f _ => ?_
  rw [beq_iff_eq]
  refine imp_congr_right fun _ => ?_
  constructor
  · intro hsame
    exact ⟨(congrArg File.documentTypeKey hsame).symm, (congrArg File.diFacts hsame).symm⟩
  · rintro ⟨hkey, hfacts⟩
    rw [← hkey, ← hfacts]

theorem markSatisfied_eq_self (now : Timestamp) (dealId : UUID) (typeKey : String)
    (documentId : UUID) :
    markSatisfied db now dealId typeKey documentId = db ↔
      ∀ i ∈ db.checklistItems.rows, i.dealId = dealId → i.typeKey = typeKey →
        i.satisfied = true ∧ i.documentId = some documentId ∧ i.updatedAt = now := by
  unfold markSatisfied
  rw [updateItems_eq_self]
  refine forall₂_congr fun i _ => ?_
  rw [Bool.and_eq_true, beq_iff_eq, beq_iff_eq, and_imp]
  refine imp_congr_right fun _ => imp_congr_right fun _ => ?_
  constructor
  · intro hsame
    exact ⟨(congrArg ChecklistItem.satisfied hsame).symm,
      (congrArg ChecklistItem.documentId hsame).symm,
      (congrArg ChecklistItem.updatedAt hsame).symm⟩
  · rintro ⟨hsatisfied, hdocument, hupdated⟩
    rw [← hsatisfied, ← hdocument, ← hupdated]

theorem advanceFlush_eq_self (now : Timestamp) (sessionId : UUID) :
    advanceFlush db now sessionId = db ↔ ∀ s ∈ db.sessions.rows, s.id = sessionId →
      s.state.isOpen = true → s.flushAt = some now := by
  unfold advanceFlush
  rw [updateSessions_eq_self]
  refine forall₂_congr fun s _ => ?_
  rw [Bool.and_eq_true, beq_iff_eq, and_imp]
  refine imp_congr_right fun _ => imp_congr_right fun _ => ?_
  constructor
  · exact fun hsame => (congrArg Session.flushAt hsame).symm
  · intro hflush
    rw [← hflush]

theorem satisfyLinkedDeal_eq_self (now : Timestamp) (job : PollJob) (result : DiPollResult) :
    satisfyLinkedDeal db now job result = .ok db ↔
      (result.satisfies = true → ∀ dealId, dealOfSessionId db job.sessionId = some dealId →
        ∃ key, selectText result.documentTypeKey = .ok key ∧
          ∀ i ∈ db.checklistItems.rows, i.dealId = dealId → i.typeKey = key →
            i.satisfied = true ∧ i.documentId = some job.evidenceId ∧ i.updatedAt = now) := by
  unfold satisfyLinkedDeal DiPollResult.satisfies dealOfSessionId
  by_cases hsatisfies : (result.documentTypeKey.truthy && isConfirmed result.processingStatus) =
      true
  · simp only [hsatisfies, if_true, forall_const]
    cases (db.sessions.rows.find? fun s => s.id == job.sessionId).bind (·.dealId) with
    | none => simp
    | some dealId =>
      simp only [Option.some.injEq, forall_eq']
      cases selectText result.documentTypeKey with
      | error e => exact iff_of_false nofun fun ⟨key, hkey, _⟩ => nomatch hkey
      | ok key =>
        simp only [Except.ok.injEq, exists_eq_left', ← markSatisfied_eq_self]
        exact ⟨Except.ok.inj, congrArg Except.ok⟩
  · simp [hsatisfies]

theorem nudgeFlush_eq_self (now : Timestamp) (sessionId : UUID) :
    nudgeFlush db now sessionId = db ↔ (untypedFiles db sessionId = [] → ∀ s ∈ db.sessions.rows,
      s.id = sessionId → s.state.isOpen = true → s.flushAt = some now) := by
  unfold nudgeFlush
  rw [← advanceFlush_eq_self]
  by_cases huntyped : untypedFiles db sessionId = []
  · simp [huntyped]
  · simp [huntyped]

theorem TaskResult.eq_iff_db {r : TaskResult} : r = ⟨db, r.jobs, r.raised⟩ ↔ r.db = db :=
  ⟨congrArg TaskResult.db, fun h => by rw [← h]⟩

/-- The three transactions write to different tables, so each of them changes nothing. -/
theorem pollDiDocument_recorded_settled {calls : PollCalls} {job : PollJob} {result : DiPollResult}
    {typeKey : Option String} {facts : Json}
    (h : recordedAnswer env calls job = some (result, typeKey, facts)) :
    pollDiDocument env db calls job = ⟨db, (pollDiDocument env db calls job).jobs, false⟩ ↔
      AnswerSettled db calls job result typeKey facts := by
  unfold AnswerSettled
  rw [← recordType_eq_self, ← nudgeFlush_eq_self, ← satisfyLinkedDeal_eq_self,
    pollDiDocument_recorded db h]
  constructor
  · intro hquiet
    cases hsatisfied : satisfyLinkedDeal (recordType db job.fileId typeKey facts) calls.now job
        result with
    | error e =>
      simp only [hsatisfied] at hquiet
      cases congrArg TaskResult.raised hquiet
    | ok satisfied =>
      simp only [hsatisfied] at hquiet
      have hdb : nudgeFlush satisfied calls.now job.sessionId = db := congrArg TaskResult.db hquiet
      have hfiles := nudgeFlush_files satisfied calls.now job.sessionId
      have hlist := nudgeFlush_items satisfied calls.now job.sessionId
      obtain ⟨items, hitems⟩ := satisfyLinkedDeal_frame hsatisfied
      rw [hdb] at hfiles hlist
      have htyped : recordType db job.fileId typeKey facts = db := by
        rw [hitems] at hfiles
        change { db with files := (recordType db job.fileId typeKey facts).files } = db
        rw [← show db.files = (recordType db job.fileId typeKey facts).files from hfiles]
      have hsame : satisfied = db := by
        rw [htyped] at hitems
        rw [hitems] at hlist ⊢
        rw [← show db.checklistItems = items from hlist]
      rw [htyped, hsame] at hsatisfied
      rw [hsame] at hdb
      exact ⟨htyped, hsatisfied, hdb⟩
  · rintro ⟨htyped, hsatisfied, hnudged⟩
    rw [htyped, hsatisfied]
    simp only [hnudged]

theorem pollDiDocument_settled_iff (calls : PollCalls) (job : PollJob) :
    pollDiDocument env db calls job =
        ⟨db, (pollDiDocument env db calls job).jobs,
          (recordedAnswer env calls job).isNone && (pollDiDocument env db calls job).raised⟩ ↔
      PollSettled env db calls job := by
  unfold PollSettled
  cases hrecorded : recordedAnswer env calls job with
  | none =>
    simp only [Option.isNone_none, Bool.true_and, TaskResult.eq_iff_db,
      pollDiDocument_unrecorded db hrecorded]
    cases parkingNote calls job with
    | none => simp
    | some note => simp [parkOnDiSla_eq_self]
  | some recorded =>
    obtain ⟨result, typeKey, facts⟩ := recorded
    rw [Option.isNone_some, Bool.false_and, pollDiDocument_recorded_settled hrecorded]
    simp only [Option.some.injEq, Prod.mk.injEq, reduceCtorEq, false_imp_iff, and_true]
    constructor
    · rintro hsettled _ _ _ ⟨rfl, rfl, rfl⟩
      exact hsettled
    · exact fun hsettled => hsettled _ _ _ ⟨rfl, rfl, rfl⟩

end WaService
