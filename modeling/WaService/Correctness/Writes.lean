import WaService.Correctness.DrainBatches
import WaService.Correctness.Evolution
import WaService.Correctness.SessionOutcome
import WaService.System.Changes

/-!
# A step is a sequence of its statements

Each function of the service is decomposed into the statements of `Write`, and so is
every step. What all statements keep then holds along every run.
-/

namespace WaService

open Python Relational Transition

variable {env : Env} {a : Action} {db db' : Db}

/-! ## Updates of one table -/

theorem Writes.updateSessions {p : Session → Bool} {f : Session → Session}
    (hf : ∀ s, p s = true → (f s).id = s.id ∧ (f s).contactId = s.contactId ∧
      ((f s).state.isOpen = true → s.state.isOpen = true))
    (h : ∀ s ∈ db.sessions.rows, p s = true → SessionChange db a s (f s)) :
    Writes env a db (db.updateSessions p f hf) :=
  .single (.sessions (.update _ h))

theorem Writes.updateFiles {p : File → Bool} {f : File → File}
    (hf : ∀ r, (f r).id = r.id ∧ (f r).wamid = r.wamid)
    (h : ∀ r ∈ db.files.rows, p r = true → FileChange env a r (f r)) :
    Writes env a db (db.updateFiles p f hf) :=
  .single (.files (.update _ h))

theorem Writes.updateDeals {p : Deal → Bool} {f : Deal → Deal}
    (hf : ∀ d, (f d).id = d.id ∧ (f d).tenantId = d.tenantId ∧
      (f d).bookingNumber = d.bookingNumber)
    (h : ∀ d ∈ db.deals.rows, p d = true → DealChange db a d (f d)) :
    Writes env a db (db.updateDeals p f hf) :=
  .single (.deals (.update _ h))

theorem Writes.updateOutbox {p : Outbox → Bool} {f : Outbox → Outbox} (hf : ∀ o, (f o).id = o.id)
    (h : ∀ o ∈ db.outbox.rows, p o = true → OutboxChange db a o (f o)) :
    Writes env a db (db.updateOutbox p f hf) :=
  .single (.outbox (.update _ h))

/-! ## Webhook requests -/

theorem receiveWebhook_writes (newId : Nat) (rawBody : List UInt8) (hubSignature : Option String)
    (dispatched : Bool) : Writes env (.webhook newId rawBody hubSignature dispatched) db
      (receiveWebhook env db newId rawBody hubSignature dispatched).db := by
  unfold receiveWebhook
  split
  · exact .refl
  · rename_i signatureOk hsig
    have hstored : ∀ id db', insertInbox env db newId rawBody signatureOk = .ok (id, db') →
        Writes env (.webhook newId rawBody hubSignature dispatched) db db' := by
      intro id db' h
      rcases insertInbox_ok h with ⟨-, rfl⟩ | ⟨-, payload, wamid, number, hload, -, -, -, hwrite⟩
      · exact .refl
      · obtain ⟨w, n, inbox, -, -, hins, rfl⟩ := writeInbox_ok hwrite
        exact .single (.inbox (.insert (.receive hload hsig) hins))
    split
    · exact .refl
    · exact hstored _ _ ‹_›
    · exact hstored _ _ ‹_›

/-! ## The inbox task -/

section Inbox

variable {inp : InboxInput} {inboxId : Nat} {redelivered : Bool}

theorem registerFile_writes {newId tenantId fileId : UUID} {s : Session} {seq : Int}
    {m : MediaMessage} (h : registerFile env db newId tenantId s.id seq m = .ok (fileId, db'))
    (hs : s ∈ db.sessions.rows) :
    Writes env (.execute (.processInboxRow inboxId inp) redelivered) db db' := by
  obtain ⟨f, hf, ⟨_, -, -, rfl⟩ | ⟨-, files, hins, -, rfl⟩⟩ := registerFile_ok h
  · exact .refl
  · exact .single (.files (.insert (.register hs hf) hins))

theorem recordFileArrival_writes (sessionId : UUID) :
    Writes env (.execute (.processInboxRow inboxId inp) redelivered) db
      (recordFileArrival db inp.now sessionId 0) := by
  refine .updateSessions _ fun s _ hsel => .arrive ?_
  simpa using (Bool.and_eq_true_iff.mp hsel).2

/-- The loop of the messages keeps the session that it files under. -/
theorem processEach_writes {i : LoopInput} {st st' : LoopState} {e : Option Error}
    {msgs : List Json} (hnow : i.now = inp.now)
    (h : processEach env i st msgs = (st', e))
    (hs : ∃ s ∈ st.db.sessions.rows, s.id = i.sessionId) :
    Writes env (.execute (.processInboxRow inboxId inp) redelivered) st.db st'.db := by
  induction msgs generalizing st with
  | nil =>
    cases h
    exact .refl
  | cons msg rest ih =>
    have hmsg : Writes env (.execute (.processInboxRow inboxId inp) redelivered) st.db
        (processMessage env i st msg).1.db ∧
          ∃ s ∈ (processMessage env i st msg).1.db.sessions.rows, s.id = i.sessionId := by
      unfold processMessage
      split
      · exact ⟨.refl, hs⟩
      · exact ⟨.refl, hs⟩
      · split
        · exact ⟨.refl, hs⟩
        · rename_i fileId db' hreg
          obtain ⟨s, hmem, hid⟩ := hs
          rw [← hid] at hreg
          have hfile : Writes env (.execute (.processInboxRow inboxId inp) redelivered) st.db db' :=
            registerFile_writes hreg hmem
          have harrive : Writes env (.execute (.processInboxRow inboxId inp) redelivered) st.db
              (recordFileArrival db' i.now i.sessionId 0) := by
            rw [hnow]
            exact hfile.trans (recordFileArrival_writes i.sessionId)
          have hevolves : st.db.Evolves (fun _ => False) (fun _ _ => False)
              (recordFileArrival db' i.now i.sessionId 0) :=
            (registerFile_evolves hreg ⟨s, hmem, rfl⟩).trans
              (recordFileArrival_evolves i.now i.sessionId 0)
          obtain ⟨s', hs', hfollows⟩ := hevolves.sessions.kept s hmem
          have hlater : ∃ s' ∈ (recordFileArrival db' i.now i.sessionId 0).sessions.rows,
              s'.id = i.sessionId := ⟨s', hs', hfollows.id.trans hid⟩
          simp only
          split
          · exact ⟨harrive, hlater⟩
          · exact ⟨harrive, hlater⟩
    unfold processEach at h
    split at h
    · rename_i st₁ hone
      rw [hone] at hmsg
      exact hmsg.1.trans (ih h hmsg.2)
    · rename_i st₁ e₁ hone
      cases h
      rw [hone] at hmsg
      exact hmsg.1

/-- A resolved context names an active contact with its organisation unit. -/
theorem resolveFullContext_contact {phoneNumberId : Option String} {payload : Json}
    {ctx : ResolvedContext} (h : resolveFullContext db phoneNumberId payload = .ok ctx) :
    ∃ c ∈ db.contacts.rows, c.id = ctx.contactId ∧ c.tenantId = ctx.tenantId ∧
      c.status = .active ∧ c.orgUnitId = some ctx.orgUnitId := by
  obtain ⟨⟨routeId, tenantId⟩, -, h⟩ := bind_eq_ok.mp h
  obtain ⟨sender, -, h⟩ := bind_eq_ok.mp h
  split at h
  · contradiction
  · split at h
    · contradiction
    · obtain ⟨contact, hcontact, h⟩ := bind_eq_ok.mp h
      obtain ⟨hmem, -, htenant, hactive⟩ := resolveContact_ok hcontact
      split at h
      · contradiction
      · rename_i orgUnitId horg
        cases h
        exact ⟨contact, hmem, rfl, htenant, hactive, horg⟩

theorem inboxTransaction_writes {row : Inbox} {payload : Json} {jobs : List Job}
    (h : inboxTransaction env db inp row payload = ⟨jobs, .ok db'⟩) :
    Writes env (.execute (.processInboxRow inboxId inp) redelivered) db db' := by
  obtain ⟨ctx, s, opened, hctx, hget, hmessages⟩ := inboxTransaction_inv h
  obtain ⟨c, hc, hcid, htenant, hactive, horg⟩ := resolveFullContext_contact hctx
  obtain ⟨hs, -, hopened⟩ := getOrCreateSession_ok hget
  have hopen : Writes env (.execute (.processInboxRow inboxId inp) redelivered) db opened := by
    obtain ⟨-, rfl⟩ | ⟨hnone, hnew, sessions, hins, rfl⟩ := hopened
    · exact .refl
    · rw [hnew, ← htenant, ← hcid] at hins
      rw [← hcid] at hnone
      exact .single (.sessions (.insert (.enter hc hactive horg hnone) hins))
  obtain ⟨-, rfl⟩ | ⟨messages, msgs, st, -, -, hloop, rfl⟩ := processMessages_inv hmessages
  · exact hopen
  · exact hopen.trans (processEach_writes (i := ⟨inp.now, ctx, s.id, sessionJourney opened s.id,
      inp.fileIds, inp.deferOk⟩) rfl hloop ⟨s, hs, rfl⟩)

theorem markInbox_writes {row : Inbox} {state : InboxState} (hid : row.id = inboxId)
    (hrow : ∀ r ∈ db.inbox.rows, r.id = row.id → r.signatureOk = row.signatureOk)
    (hstate : state = .done ∨ state = .ignored ∨ state = .failed)
    (hsigned : state = .done → row.signatureOk = true) :
    Writes env (.execute (.processInboxRow inboxId inp) redelivered) db
      (markInbox db row.id state) := by
  refine .single (.inbox (.update _ fun r hr hsel => ?_))
  have hrid : r.id = row.id := by simpa using hsel
  exact .mark (hrid.trans hid) hstate fun hdone => (hrow r hr hrid).trans (hsigned hdone)

theorem inboxRow_unique {row : Inbox} (h : inboxRow db inboxId = some row) {r : Inbox}
    (hr : r ∈ db.inbox.rows) (hid : r.id = row.id) : r = row :=
  Table.eq_of_clash hr (List.mem_of_find?_eq_some h) (by simp [clash, sameKey, hid])

theorem processInboxRow_writes (inp : InboxInput) (inboxId : Nat) (redelivered : Bool) :
    Writes env (.execute (.processInboxRow inboxId inp) redelivered) db
      (processInboxRow env db inp inboxId).db := by
  unfold processInboxRow
  split
  · exact .refl
  · rename_i row hrow
    have hid : row.id = inboxId := by simpa using List.find?_some hrow
    have hsame : ∀ r ∈ db.inbox.rows, r.id = row.id → r.signatureOk = row.signatureOk :=
      fun r hr hrid => congrArg Inbox.signatureOk (inboxRow_unique hrow hr hrid)
    unfold processRow
    split
    · rename_i hsigned
      split
      · exact .refl
      · rename_i payload _
        split
        · rename_i jobs db' htx
          have hwrites : Writes env (.execute (.processInboxRow inboxId inp) redelivered) db db' :=
            inboxTransaction_writes htx
          have hevolves : db.Evolves (fun _ => False) (Identifies db row.phoneNumberId payload)
              db' := inboxTransaction_evolves htx
          refine hwrites.trans (markInbox_writes hid ?_ (Or.inl rfl) fun _ => hsigned)
          intro r hr hrid
          obtain ⟨r₀, hr₀, hkept⟩ | hnew := hevolves.inbox.source r hr
          · have hid₀ : r₀.id = row.id := (congrArg Arrival.id hkept).symm.trans hrid
            exact (congrArg Arrival.signatureOk hkept).trans (hsame r₀ hr₀ hid₀)
          · exact hnew.elim
        · exact markInbox_writes hid hsame (Or.inr (Or.inl rfl)) nofun
        · exact markInbox_writes hid hsame (Or.inr (Or.inr rfl)) nofun
    · exact markInbox_writes hid hsame (Or.inr (Or.inl rfl)) nofun

end Inbox

/-! ## The download -/

section Download

variable {args : FetchJob} {calls : FileCalls} {redelivered : Bool}

theorem enteredFile_writes {state : FileState} (hstate : state = .downloading ∨ state = .storing) :
    Writes env (.execute (.fetchAndStoreFile args calls) redelivered) db
      (setFileState db args.fileId state) :=
  .updateFiles _ fun _ _ hsel => .enter (by simpa using hsel) hstate

theorem failedFile_writes {state : FileState} (code : String)
    (hstate : state = .failed ∨ state = .quarantined) :
    Writes env (.execute (.fetchAndStoreFile args calls) redelivered) db
      (failFile db args.fileId state code) :=
  .updateFiles _ fun _ _ hsel => .fail (by simpa using hsel) hstate

theorem unroutedFile_writes :
    Writes env (.execute (.fetchAndStoreFile args calls) redelivered) db
      (failWithoutJourney db args.fileId) :=
  .updateFiles _ fun _ _ hsel => .noJourney (by simpa using hsel)

theorem storeFetched_writes (journeyId : UUID) (row : File) (result : FetchResult) :
    Writes env (.execute (.fetchAndStoreFile args calls) redelivered) db
      (storeFetched db calls args journeyId row result).db := by
  have hstoring : Writes env (.execute (.fetchAndStoreFile args calls) redelivered) db
      (setFileState db args.fileId .storing) := enteredFile_writes (Or.inr rfl)
  unfold storeFetched
  simp only
  split
  · exact hstoring
  · rename_i code _ _
    exact hstoring.trans (failedFile_writes code (Or.inl rfl))
  · rename_i evidenceId hanswer
    have hstored : Writes env (.execute (.fetchAndStoreFile args calls) redelivered)
        (setFileState db args.fileId .storing)
        (recordStored (setFileState db args.fileId .storing) calls.now args.fileId result
          evidenceId) :=
      .updateFiles _ fun _ _ hsel => .store (by simpa using hsel) hanswer
    split
    · exact hstoring.trans hstored
    · exact hstoring.trans hstored

theorem fetchAndStoreFile_writes (calls : FileCalls) (args : FetchJob) (redelivered : Bool) :
    Writes env (.execute (.fetchAndStoreFile args calls) redelivered) db
      (fetchAndStoreFile db calls args).db := by
  unfold fetchAndStoreFile
  split
  · exact unroutedFile_writes
  · rename_i journeyId _
    split
    · exact .refl
    · rename_i row _
      have hentered : Writes env (.execute (.fetchAndStoreFile args calls) redelivered) db
          (setFileState db args.fileId .downloading) := enteredFile_writes (Or.inl rfl)
      simp only
      split
      · exact hentered
      · rename_i code retryable quarantine _
        refine hentered.trans (failedFile_writes code ?_)
        cases quarantine with
        | true => exact Or.inr rfl
        | false => exact Or.inl rfl
      · exact hentered.trans (storeFetched_writes journeyId row _)

end Download

/-! ## The poll -/

section Poll

variable {args : PollJob} {calls : PollCalls} {redelivered : Bool} {result : DiPollResult}

theorem parkOnDiSla_writes {note : String}
    (hnote : note = "AWAITING_DI SLA exceeded" ∨ ∃ code, note = "DI poll error: " ++ code) :
    Writes env (.execute (.pollDiDocument args calls) redelivered) db
      (parkOnDiSla db args.sessionId note) :=
  .updateSessions _ fun _ _ hsel => .parkOnDiSla (by simpa using hsel) hnote

theorem nudgeFlush_writes :
    Writes env (.execute (.pollDiDocument args calls) redelivered) db
      (nudgeFlush db calls.now args.sessionId) := by
  unfold nudgeFlush
  split
  · refine .updateSessions _ fun _ _ hsel => ?_
    obtain ⟨hid, hopen⟩ := Bool.and_eq_true_iff.mp hsel
    exact .nudge (by simpa using hid) hopen
  · exact .refl

theorem satisfyLinkedDeal_writes (hfresh : args.scheduleIn = none)
    (hanswer : calls.pollEvidenceStatus = .ok result) (hterminal : result.isTerminal = true)
    (h : satisfyLinkedDeal db calls.now args result = .ok db') :
    Writes env (.execute (.pollDiDocument args calls) redelivered) db db' := by
  unfold satisfyLinkedDeal at h
  split at h
  · rename_i hsat
    obtain ⟨-, hconfirmed⟩ := Bool.and_eq_true_iff.mp hsat
    split at h
    · cases h
      exact .refl
    · rename_i dealId hdeal
      obtain ⟨typeKey, htype, h⟩ := bind_eq_ok.mp h
      cases h
      obtain ⟨s, hs, hlinked⟩ := Option.bind_eq_some_iff.mp hdeal
      have hmem := List.mem_of_find?_eq_some hs
      have hid : s.id = args.sessionId := by simpa using List.find?_some hs
      refine .single (.items (.update _ fun i _ hsel => ?_))
      simp only [Bool.and_eq_true, beq_iff_eq] at hsel
      rw [← hsel.1] at hlinked
      refine .satisfy hfresh hanswer hterminal hconfirmed ?_ hmem hid hlinked
      rw [hsel.2]
      cases hkey : result.documentTypeKey with
      | str key =>
        rw [hkey] at htype
        rw [selectText_str htype]
      | _ =>
        rw [hkey] at htype
        cases htype
  · cases h
    exact .refl

theorem concludePoll_writes (hfresh : args.scheduleIn = none)
    (hanswer : calls.pollEvidenceStatus = .ok result) (hterminal : result.isTerminal = true) :
    Writes env (.execute (.pollDiDocument args calls) redelivered) db
      (concludePoll env db calls args result).db := by
  unfold concludePoll
  split
  · exact .refl
  · rename_i facts _
    split
    · rename_i typeKey htype _
      have htyped : Writes env (.execute (.pollDiDocument args calls) redelivered) db
          (recordType db args.fileId typeKey facts) :=
        .updateFiles _ fun _ _ hsel => .type (by simpa using hsel) hfresh hanswer hterminal htype
      simp only
      split
      · exact htyped
      · rename_i satisfied hsatisfied
        exact (htyped.trans (satisfyLinkedDeal_writes hfresh hanswer hterminal hsatisfied)).trans
          nudgeFlush_writes
    · exact .refl

theorem pollDiDocument_writes (calls : PollCalls) (args : PollJob) (redelivered : Bool) :
    Writes env (.execute (.pollDiDocument args calls) redelivered) db
      (pollDiDocument env db calls args).db := by
  unfold pollDiDocument
  split
  · exact .refl
  · rename_i hfresh
    simp only
    split
    · exact .refl
    · rename_i code _ _
      split
      · exact parkOnDiSla_writes (Or.inr ⟨code, rfl⟩)
      · rw [reschedulePoll_db]
    · rename_i result hanswer
      split
      · rename_i hterminal
        exact concludePoll_writes hfresh hanswer hterminal
      · split
        · exact parkOnDiSla_writes (Or.inl rfl)
        · rw [reschedulePoll_db]

end Poll

/-! ## The session task -/

section SessionTask

variable {inp : SessionInput} {redelivered : Bool} {s : Session}

/-- An accepted insert adds this row. -/
theorem insertOutbox_ok {newId id : Nat} {now : Timestamp} {tenantId contactId : UUID}
    {sessionId : Option UUID} {kind : OutboxKind} {payload : List (String × Json)}
    (h : insertOutbox db newId now tenantId contactId sessionId kind payload none =
      .ok (id, db')) :
    ∃ outbox, db.outbox.insert? ⟨newId, tenantId, contactId, sessionId, kind, .obj payload,
        .pending, 0, now, none, none, none⟩ = some outbox ∧ db' = { db with outbox := outbox } := by
  unfold insertOutbox at h
  split at h
  · split at h
    · rename_i outbox hins
      cases h
      exact ⟨outbox, hins, rfl⟩
    · contradiction
  · contradiction

/-- A reply under a key that is not empty is stamped with it, unless one is pending already. -/
theorem enqueueReply_ok {newId id : Nat} {now : Timestamp} {tenantId contactId sessionId : UUID}
    {kind : OutboxKind} {payload : List (String × Json)} {key : String} (hkey : (key == "") = false)
    (h : enqueueReply db newId now tenantId contactId (some sessionId) kind payload (some key)
      none = .ok (id, db')) :
    db' = db ∨ ∃ outbox, db.outbox.insert? ⟨newId, tenantId, contactId, some sessionId, kind,
        .obj (stampDedup payload key), .pending, 0, now, none, none, none⟩ = some outbox ∧
      db' = { db with outbox := outbox } := by
  simp only [enqueueReply, hkey, Bool.false_eq_true, if_false] at h
  split at h
  · exact Or.inr (insertOutbox_ok h)
  · cases h
    exact Or.inl rfl
  · contradiction

/-- The messages of a session are queued for the session, whatever has become of its row. -/
theorem enqueueReply_writes {id : Nat} {kind : OutboxKind} {payload : List (String × Json)}
    {key : String} (hkey : (key == "") = false) {t : Session} (ht : t ∈ db.sessions.rows)
    (hid : t.id = s.id)
    (htenant : t.tenantId = s.tenantId) (hcontact : t.contactId = s.contactId)
    (hreply : SessionReply env s.id kind (stampDedup payload key))
    (h : enqueueReply db inp.outboxId inp.now s.tenantId s.contactId (some s.id) kind payload
      (some key) none = .ok (id, db')) :
    Writes env (.execute (.processSession s.id inp) redelivered) db db' := by
  obtain rfl | ⟨outbox, hins, rfl⟩ := enqueueReply_ok hkey h
  · exact .refl
  · rw [← hid, ← htenant, ← hcontact] at *
    exact .single (.outbox (.insert (.reply ht hreply) hins))

/-- The notes that the readiness checks park a session with. -/
theorem sessionGate_note {files : List RowMapping} {note : String}
    (h : sessionGate env files = .ok (.parked note)) :
    note = "files_not_ready" ∨ note = "awaiting_di" := by
  unfold sessionGate at h
  split at h
  · split at h
    · obtain ⟨fields, -, h⟩ := bind_eq_ok.mp h
      cases h
    · cases h
      exact Or.inr rfl
  · cases h
    exact Or.inl rfl

theorem parkSession_writes (hs : s ∈ db.sessions.rows) (hfiles : getSessionFiles db s.id ≠ [])
    {note : String} (hnote : note = "files_not_ready" ∨ note = "awaiting_di") :
    Writes env (.execute (.processSession s.id inp) redelivered) db
      (parkSession db s.id note) := by
  refine .updateSessions _ fun t ht hsel => ?_
  simp only [Bool.and_eq_true, beq_iff_eq, Bool.not_eq_true', Bool.or_eq_false_iff,
    beq_eq_false_iff_ne] at hsel
  obtain rfl := session_eq_of_id ht hs hsel.1
  exact .park hfiles hsel.2.1 hnote

theorem insertRequirement_writes {sessionId newId : UUID} {d : Deal} {r : String × Requirement}
    (hd : d ∈ db.deals.rows) (hstate : d.state = .provisional)
    (hr : r ∈ defaultRequirements .retail)
    (h : insertRequirement db newId inp.now d.id r.1 r.2 = .ok db') :
    Writes env (.execute (.processSession sessionId inp) redelivered) db db' := by
  unfold insertRequirement at h
  split at h
  · cases h
    exact .refl
  · split at h
    · rename_i items hins
      cases h
      exact .single (.items (.insert (.require hd hstate hr) hins))
    · contradiction

theorem initialiseRequirements_writes {sessionId : UUID} {newIds : Nat → UUID} {d : Deal}
    {reqs : List (String × Requirement)} {n : Nat} (hd : d ∈ db.deals.rows)
    (hstate : d.state = .provisional) (hreqs : ∀ r ∈ reqs, r ∈ defaultRequirements .retail)
    (h : initialiseRequirements inp.now d.id newIds reqs n db = .ok db') :
    Writes env (.execute (.processSession sessionId inp) redelivered) db db' := by
  induction reqs generalizing n db with
  | nil =>
    cases h
    exact .refl
  | cons req rest ih =>
    obtain ⟨db₁, hone, h⟩ := bind_eq_ok.mp h
    have hfirst : Writes env (.execute (.processSession sessionId inp) redelivered) db db₁ :=
      insertRequirement_writes hd hstate (hreqs req List.mem_cons_self) hone
    obtain ⟨items, rfl⟩ := insertRequirement_frame hone
    exact hfirst.trans (ih hd (fun r hr => hreqs r (List.mem_cons_of_mem req hr)) h)

/-- The deal that a session without booking fields creates. -/
theorem newDeal_fallback {newId orgUnitId : UUID} {d : Deal}
    (h : newDeal env newId inp.now s.tenantId orgUnitId
      (orElse BookingFields.empty.bookingNumber (fallbackNumber s.id))
      (orElse BookingFields.empty.customerName "(pending)") .empty (inferDealType .empty)
      s.contactId = .ok d) :
    d = { id := newId
          tenantId := s.tenantId
          orgUnitId := some orgUnitId
          bookingNumber := fallbackNumber s.id
          customerName := some "(pending)"
          customerMobile := none
          model := none
          variant := none
          bookingDate := none
          dealType := .retail
          isFinanced := false
          hasExchange := false
          isCorporate := false
          state := .provisional
          createdFrom := "whatsapp"
          createdBy := some s.contactId
          confirmedBy := none
          confirmedAt := none
          updatedAt := inp.now } := by
  obtain ⟨number, hnumber, h⟩ := bind_eq_ok.mp h
  obtain ⟨customer, hcustomer, h⟩ := bind_eq_ok.mp h
  obtain ⟨model, hmodel, h⟩ := bind_eq_ok.mp h
  obtain ⟨variant, hvariant, h⟩ := bind_eq_ok.mp h
  obtain ⟨date, hdate, h⟩ := bind_eq_ok.mp h
  cases sqlText_str hnumber
  cases sqlText_str hcustomer
  cases hmodel
  cases hvariant
  cases hdate
  cases h
  rfl

/-- No match: the deal, its requirements, the link and the question. -/
theorem createBranch_writes {orgUnitId : UUID} (hs : s ∈ db.sessions.rows)
    (horg : s.orgUnitId = some orgUnitId) (hfiles : getSessionFiles db s.id = [])
    (hnone : dealOfSession db s = none)
    (h : createBranch env db inp s orgUnitId [] .empty = .ok db') :
    Writes env (.execute (.processSession s.id inp) redelivered) db db' := by
  obtain ⟨⟨deal, created⟩, hcreate, h⟩ := bind_eq_ok.mp h
  obtain ⟨listed, hlist, h⟩ := bind_eq_ok.mp h
  obtain ⟨locale, -, h⟩ := bind_eq_ok.mp h
  obtain ⟨payload, hpayload, h⟩ := bind_eq_ok.mp h
  obtain ⟨⟨id, queued⟩, hqueued, h⟩ := bind_eq_ok.mp h
  cases h
  obtain ⟨d, hd, hcases⟩ := createProvisionalDeal_ok hcreate
  have hrow := newDeal_fallback hd
  have hown : d.bookingNumber = fallbackNumber s.id := by rw [hrow]
  rw [hown] at hcases
  obtain ⟨old, hold, -⟩ | ⟨-, deals, hins, rfl, rfl⟩ := hcases
  · cases hnone.symm.trans hold
  have hmem : d ∈ deals.rows := (Table.mem_of_insert? hins).mpr (Or.inr rfl)
  have hdeal : Writes env (.execute (.processSession s.id inp) redelivered) db
      { db with deals := deals } := by
    refine .single (.deals (.insert ?_ hins))
    rw [hrow]
    exact .create hs horg hfiles hnone
  have hitems : Writes env (.execute (.processSession s.id inp) redelivered)
      { db with deals := deals } listed :=
    initialiseRequirements_writes hmem (by rw [hrow]) (fun _ hr => hr) hlist
  obtain ⟨items, rfl⟩ := initialiseRequirements_frame hlist
  have hfound : dealOfBooking { db with deals := deals, checklistItems := items } s.tenantId
      (fallbackNumber s.id) = some d := by
    unfold dealOfBooking
    rw [Table.rows_of_insert? hins, List.find?_append, show db.deals.rows.find? _ = none from hnone]
    simp [hrow]
  have hlink : Writes env (.execute (.processSession s.id inp) redelivered)
      { db with deals := deals, checklistItems := items }
      (transitionToConfirming { db with deals := deals, checklistItems := items } inp.now s.id
        d.id) := by
    refine .updateSessions _ fun t ht hsel => ?_
    simp only [Bool.and_eq_true, beq_iff_eq] at hsel
    obtain rfl := session_eq_of_id ht hs hsel.1
    exact .link hsel.2 hfound hfiles
  have hevolves : Db.Evolves (fun _ => False) (fun _ _ => False)
      { db with deals := deals, checklistItems := items }
      (transitionToConfirming { db with deals := deals, checklistItems := items } inp.now s.id
        d.id) := transitionToConfirming_evolves _ _ _
  obtain ⟨t, ht, hfollows⟩ := hevolves.sessions.kept s hs
  refine ((hdeal.trans hitems).trans hlink).trans ?_
  refine enqueueReply_writes (by simp) ht hfollows.id hfollows.tenantId
    hfollows.contactId ?_ hqueued
  exact .confirm (by rw [hrow]; rfl) (by rw [hrow]; rfl) (by rw [hrow]; rfl) hpayload

theorem dealOfBooking_updateDeals (p : Deal → Bool) (f : Deal → Deal)
    (hf : ∀ d, (f d).id = d.id ∧ (f d).tenantId = d.tenantId ∧
      (f d).bookingNumber = d.bookingNumber) (tenantId : UUID) (number : String) :
    dealOfBooking (db.updateDeals p f hf) tenantId number =
      (dealOfBooking db tenantId number).map (patch p f) := by
  unfold dealOfBooking Db.updateDeals
  rw [Table.find?_update db.deals fun d _ => by rw [(hf d).2.1, (hf d).2.2]]

/-- A deal looked up by tenant and number is found again as the confirmation leaves it. -/
theorem dealOfBooking_confirmDeal (now : Timestamp) (confirmedBy : UUID) {tenantId dealId : UUID}
    {number : String} {d : Deal} (h : dealOfBooking db tenantId number = some d)
    (hid : d.id = dealId) :
    ∃ d', dealOfBooking (confirmDeal db now tenantId dealId confirmedBy) tenantId number = some d' ∧
      d'.id = d.id ∧ d'.state ≠ .provisional := by
  obtain ⟨-, htenant, -⟩ := dealOfBooking_some h
  unfold confirmDeal
  rw [dealOfBooking_updateDeals, h, Option.map_some]
  refine ⟨_, rfl, ?_⟩
  unfold patch
  split
  · exact ⟨rfl, nofun⟩
  · rename_i hsel
    exact ⟨rfl, by simpa [htenant, hid] using hsel⟩

/-- An exact match: the confirmation, the gap message and, when nothing is missing, the end of
the session. -/
theorem exactBranch_writes {found : DealMatch} {d : Deal} (hs : s ∈ db.sessions.rows)
    (hd : dealOfSession db s = some d) (hid : d.id = found.dealId)
    (h : exactBranch env db inp s [] found = .ok db') :
    Writes env (.execute (.processSession s.id inp) redelivered) db db' := by
  have hconfirm : Writes env (.execute (.processSession s.id inp) redelivered) db
      (confirmDeal db inp.now s.tenantId found.dealId s.contactId) := by
    refine .updateDeals _ fun e he hsel => ?_
    simp only [Bool.and_eq_true, beq_iff_eq] at hsel
    have hsame : e = d := by
      obtain ⟨hmem, -⟩ := dealOfBooking_some hd
      exact Table.eq_of_clash he hmem (by simp [clash, sameKey, hsel.1.2, hid])
    exact .confirm hs (hsame ▸ hd) hsel.2
  obtain ⟨locale, -, h⟩ := bind_eq_ok.mp h
  obtain ⟨checklist, hchecklist, h⟩ := bind_eq_ok.mp h
  obtain ⟨⟨header, body⟩, hbody, h⟩ := bind_eq_ok.mp h
  obtain ⟨⟨id, queued⟩, hqueued, h⟩ := bind_eq_ok.mp h
  cases h
  have hreply : Writes env (.execute (.processSession s.id inp) redelivered)
      (confirmDeal db inp.now s.tenantId found.dealId s.contactId) queued :=
    enqueueReply_writes (by simp) hs rfl rfl rfl (.gap hbody) hqueued
  refine (hconfirm.trans hreply).trans ?_
  split
  · rename_i hcomplete
    obtain ⟨d', hd', hdid, hstate⟩ := dealOfBooking_confirmDeal inp.now s.contactId hd
      hid
    have hitems := (buildChecklist_isComplete hchecklist).mp hcomplete
    have hqueuedDb : ∃ outbox, queued =
        { confirmDeal db inp.now s.tenantId found.dealId s.contactId with outbox := outbox } := by
      rcases enqueueReply_rows hqueued with rfl | ⟨-, outbox, -, rfl, -⟩
      · exact ⟨_, rfl⟩
      · exact ⟨outbox, rfl⟩
    obtain ⟨outbox, rfl⟩ := hqueuedDb
    refine Writes.updateSessions _ fun t ht hsel => ?_
    obtain rfl := session_eq_of_id ht hs (by simpa using hsel)
    rw [← hid, ← hdid] at hitems
    exact .complete hd' hstate hitems
  · exact .refl

theorem processSession_writes (inp : SessionInput) (sessionId : UUID) (redelivered : Bool) :
    Writes env (.execute (.processSession sessionId inp) redelivered) db
      (processSession env db inp sessionId).db := by
  obtain hsame | ⟨s, db', hs, htx, hdb⟩ := processSession_cases env db inp sessionId
  · rw [hsame]
  · rw [hdb]
    have hmem := List.mem_of_find?_eq_some hs
    obtain rfl : s.id = sessionId := by simpa using List.find?_some hs
    unfold sessionTransaction at htx
    split at htx
    · contradiction
    · rename_i orgUnitId horg
      obtain ⟨gate, hgate, htx⟩ := bind_eq_ok.mp htx
      cases gate with
      | parked note =>
        cases htx
        exact parkSession_writes hmem (sessionGate_parked hgate) (sessionGate_note hgate)
      | ready fields =>
        obtain ⟨hfiles, rfl⟩ := sessionGate_ready hgate
        rw [hfiles] at htx
        obtain ⟨found, hfound, htx⟩ := bind_eq_ok.mp htx
        obtain ⟨d, hd, rfl⟩ | ⟨hnone, rfl⟩ := findExistingDeal_session hfound
        · exact exactBranch_writes hmem hd rfl htx
        · exact createBranch_writes hmem horg hfiles hnone htx

end SessionTask

/-! ## The ticks -/

theorem claimSessionsForFlush_writes (now : Timestamp) (deferOk : Nat → Bool) :
    Writes env (.flush now deferOk) db (claimSessionsForFlush db now 50).2 := by
  simp only [claimSessionsForFlush]
  refine Writes.updateSessions _ fun s _ hsel => ?_
  obtain ⟨hdue, hbatch⟩ := Bool.and_eq_true_iff.mp hsel
  exact .claim hdue (by simpa using hbatch)

section Drain

variable {calls : DrainCalls}

theorem claimPending_writes :
    Writes env (.drain calls) db (claimPending db calls.now calls.locked 20).2 := by
  have hexpire : Writes env (.drain calls) db (expireOutbox db calls.now) :=
    .updateOutbox _ fun _ _ hsel => .expire hsel
  refine hexpire.trans ?_
  simp only [claimPending]
  refine Writes.updateOutbox _ fun _ _ hsel => .claim ?_
  exact (Bool.and_eq_true_iff.mp hsel).1

/-- A row that the drain holds: stored as it was claimed. -/
structure HeldRow (db : Db) (row : Outbox) : Prop where
  stored : outboxById db row.id = some row
  pending : row.state = .pending
  claimed : 0 < row.attempts

theorem HeldRow.writes {row : Outbox} (h : HeldRow db row) {f : Outbox → Outbox}
    (hf : ∀ o, (f o).id = o.id) (hchange : OutboxChange db (.drain calls) row (f row)) :
    Writes env (.drain calls) db (db.updateOutbox (fun o => o.id == row.id) f hf) := by
  refine .updateOutbox _ fun o ho hsel => ?_
  have hfound : outboxById db row.id = some o :=
    outboxById_eq_some.mpr ⟨ho, by simpa using hsel⟩
  obtain rfl : row = o := Option.some.inj (h.stored.symm.trans hfound)
  exact hchange

theorem HeldRow.markFailed_writes {row : Outbox} (h : HeldRow db row) (error : String)
    (permanent : Bool) :
    Writes env (.drain calls) db (markFailed db calls.now row.id (some error) permanent) := by
  rw [markFailed_eq]
  apply h.writes
  cases permanent with
  | true => exact .fail h.claimed h.pending
  | false => exact .reschedule h.claimed h.pending

theorem HeldRow.markOutcome_writes {row : Outbox} (h : HeldRow db row) {outcome : SendOutcome}
    (hmark : markOutcome env db calls.now row.id outcome = .ok db') :
    Writes env (.drain calls) db db' := by
  cases outcome with
  | ok wamid =>
    obtain ⟨text, -, hmark⟩ := bind_eq_ok.mp hmark
    cases hmark
    exact h.writes _ (.sent h.claimed h.pending)
  | failed code message retryable =>
    obtain ⟨text, htext, hmark⟩ := bind_eq_ok.mp hmark
    cases hmark
    cases sqlText_str htext
    exact h.markFailed_writes code (!retryable)
  | raised => contradiction

/-- One pass of the loop writes its row, and the rows of the other passes stay as they are. -/
theorem drainRows_writes {rows : List Outbox} (hnodup : (rows.map (·.id)).Nodup)
    (hheld : ∀ row ∈ rows, HeldRow db row) :
    Writes env (.drain calls) db (drainRows env calls db rows).1 := by
  induction rows generalizing db with
  | nil => exact .refl
  | cons row rest ih =>
    rw [List.map_cons, List.nodup_cons] at hnodup
    obtain ⟨hnew, hnodup⟩ := hnodup
    obtain ⟨hrow, hrest⟩ := List.forall_mem_cons.mp hheld
    have hlater : ∀ (f : Outbox → Outbox) (hf : ∀ o, (f o).id = o.id), ∀ r ∈ rest,
        HeldRow (db.updateOutbox (fun o => o.id == row.id) f hf) r := by
      intro f hf r hr
      have hother : r.id ≠ row.id := fun he => hnew (he ▸ List.mem_map_of_mem hr)
      obtain ⟨hstored, hpending, hclaimed⟩ := hrest r hr
      exact ⟨(outboxById_updateOne hf hother).trans hstored, hpending, hclaimed⟩
    unfold drainRows
    split
    · exact ih hnodup hrest
    · rename_i error _
      refine (hrow.markFailed_writes error true).trans (ih hnodup ?_)
      rw [markFailed_eq]
      exact hlater _ _
    · exact .refl
    · rename_i call _
      split
      · rename_i db' hmark
        refine (hrow.markOutcome_writes hmark).trans (ih hnodup ?_)
        cases houtcome : calls.client call with
        | ok wamid =>
          rw [houtcome] at hmark
          obtain ⟨text, -, hmark⟩ := bind_eq_ok.mp hmark
          cases hmark
          exact hlater _ _
        | failed code message retryable =>
          rw [houtcome] at hmark
          obtain ⟨text, -, hmark⟩ := bind_eq_ok.mp hmark
          cases hmark
          rw [markFailed_eq]
          exact hlater _ _
        | raised =>
          rw [houtcome] at hmark
          contradiction
      · exact .refl

theorem sendOutbox_writes (calls : DrainCalls) :
    Writes env (.drain calls) db (sendOutbox env db calls).1 := by
  refine claimPending_writes.trans (drainRows_writes (claimPending_nodup db _ _ _) ?_)
  intro row hrow
  obtain ⟨hstored, hpending, -⟩ := claimPending_stored hrow
  obtain ⟨o, -, rfl, -⟩ := claimPending_source hrow
  exact ⟨hstored, hpending, Nat.succ_pos _⟩

end Drain

/-! ## The API -/

section Requests

variable {inp : ApiInput} {tenantId : UUID}

theorem putContact_writes (body : ContactIn) :
    Writes env (.api inp tenantId (.putContact body)) db (putContact db inp tenantId body).1 := by
  unfold putContact
  split
  · exact .refl
  · split
    · simp only
      split
      · rename_i contacts hins
        exact .single (.contacts (.insert .bind hins))
      · exact .refl
    · split
      · refine .single (.contacts (.update _ fun c _ hsel => ?_))
        obtain ⟨hphone, htenant⟩ := Bool.and_eq_true_iff.mp hsel
        exact .rebind (by simpa using htenant) (by simpa using hphone)
      · exact .refl

theorem patchContact_writes (contactId : UUID) (body : ContactPatch) :
    Writes env (.api inp tenantId (.patchContact contactId body)) db
      (patchContact db tenantId contactId body).1 := by
  unfold patchContact
  split
  · exact .refl
  · split
    · exact .refl
    · refine .single (.contacts (.update _ fun c _ hsel => ?_))
      simp only [ownContact, Bool.and_eq_true, beq_iff_eq] at hsel
      rw [← hsel.1]
      exact .patch hsel.2

theorem revokeContact_writes (contactId : UUID) :
    Writes env (.api inp tenantId (.revokeContact contactId)) db
      (revokeContact db tenantId contactId).1 := by
  unfold revokeContact
  split
  · exact .refl
  · refine .single (.contacts (.update _ fun c _ hsel => ?_))
    simp only [ownContact, Bool.and_eq_true, beq_iff_eq] at hsel
    rw [← hsel.1]
    exact .revoke hsel.2

theorem createRoute_writes (body : RouteIn) :
    Writes env (.api inp tenantId (.createRoute body)) db
      (createRoute db inp tenantId body).1 := by
  unfold createRoute
  split
  · simp only
    split
    · rename_i routes hins
      exact .single (.routes (.insert .register hins))
    · exact .refl
  · exact .refl

theorem patchRoute_writes (routeId : UUID) (body : RoutePatch) :
    Writes env (.api inp tenantId (.patchRoute routeId body)) db
      (patchRoute db tenantId routeId body).1 := by
  unfold patchRoute
  split
  · exact .refl
  · split
    · exact .refl
    · split
      · exact .refl
      · refine .single (.routes (.update _ fun r _ hsel => ?_))
        simp only [ownRoute, Bool.and_eq_true, beq_iff_eq] at hsel
        rw [← hsel.1]
        exact .patch hsel.2

/-- The outcome is written to a record of the tenant that has not been sent. -/
theorem concludeSend_writes {rq : SendMessage} {m : ApiMessage} {call : SendRequest}
    (hm : m ∈ db.apiMessages.rows) (htenant : m.tenantId = tenantId) (hstate : m.state ≠ .sent) :
    Writes env (.api inp tenantId (.sendMessage rq)) db
      (concludeSend env db inp.sentAt m.id (inp.client call)).1 := by
  have hone : ∀ r ∈ db.apiMessages.rows, (r.id == m.id) = true → r = m := fun r hr hid =>
    Table.eq_of_clash hr hm (by simpa [clash, sameKey] using Or.inl (beq_iff_eq.mp hid))
  cases houtcome : inp.client call with
  | raised => exact .refl
  | failed code message retryable =>
    simp only [concludeSend]
    split
    · exact .refl
    · rename_i db' hfail
      obtain ⟨texts, htexts, hfail⟩ := bind_eq_ok.mp hfail
      cases hfail
      obtain ⟨truncated, -, htexts⟩ := bind_eq_ok.mp htexts
      obtain ⟨errorCode, hcode, htexts⟩ := bind_eq_ok.mp htexts
      obtain ⟨errorMessage, -, htexts⟩ := bind_eq_ok.mp htexts
      cases htexts
      cases sqlText_str hcode
      refine .single (.apiMessages (.update _ fun r hr hsel => ?_))
      obtain rfl := hone r hr hsel
      exact .fail htenant hstate
  | ok wamid =>
    have hwrite : ∀ db', recordOk env db inp.sentAt m.id wamid = .ok db' →
        Writes env (.api inp tenantId (.sendMessage rq)) db db' := by
      intro db' hok
      obtain ⟨text, htext, hok⟩ := bind_eq_ok.mp hok
      cases hok
      refine .single (.apiMessages (.update _ fun r hr hsel => ?_))
      obtain rfl := hone r hr hsel
      exact .succeed htenant hstate houtcome htext
    simp only [concludeSend]
    split
    · exact .refl
    · rename_i db' hok
      split
      · exact hwrite db' hok
      · exact hwrite db' hok

theorem firstActiveRoute_some {r : Route} (h : firstActiveRoute db tenantId = some r) :
    r ∈ db.routes.rows ∧ r.tenantId = tenantId ∧ r.active = true := by
  have hmem := List.mem_of_mem_head? h
  rw [List.mem_insertionSort, List.mem_filter] at hmem
  simpa using hmem

theorem sendMessage_writes (rq : SendMessage) :
    Writes env (.api inp tenantId (.sendMessage rq)) db
      (sendMessage env db inp tenantId rq).db := by
  unfold sendMessage
  split
  · exact .refl
  · rename_i kind hkind
    split
    · exact .refl
    · rename_i reservation reserved hreserve
      unfold reserve at hreserve
      split at hreserve
      · contradiction
      · rename_i route record hselect
        cases hreserve
        obtain ⟨-, hrecord⟩ := reserveSelect_eq_ok hselect
        obtain ⟨hmem, htenant, -⟩ := existingRecord_eq_some hrecord
        split
        · exact .refl
        · rename_i messageId phoneNumberId hdecide
          obtain ⟨rfl, hfailed⟩ := decideSend_existing hdecide
          exact concludeSend_writes hmem htenant (by rw [hfailed]; nofun)
      · rename_i route hselect
        obtain ⟨hroute, -⟩ := reserveSelect_eq_ok hselect
        obtain ⟨hr, hrtenant, hactive⟩ := firstActiveRoute_some hroute
        obtain ⟨messages, hins, rfl, rfl⟩ := reserveInsert_eq_ok hreserve
        have hinsert : Writes env (.api inp tenantId (.sendMessage rq)) db
            { db with apiMessages := messages } :=
          .single (.apiMessages (.insert (.reserve hkind hr hrtenant hactive) hins))
        have hnew : newMessage inp.newId inp.now tenantId route.id rq kind ∈ messages.rows :=
          (Table.mem_of_insert? hins).mpr (Or.inr rfl)
        have hpending : (newMessage inp.newId inp.now tenantId route.id rq kind).state ≠ .sent :=
          nofun
        simp only [decideSend]
        exact hinsert.trans (concludeSend_writes hnew rfl hpending)

theorem handle_writes (inp : ApiInput) (tenantId : UUID) (op : Operation) :
    Writes env (.api inp tenantId op) db (handle env db inp tenantId op).db := by
  cases op with
  | putContact body => exact putContact_writes body
  | patchContact contactId body => exact patchContact_writes contactId body
  | revokeContact contactId => exact revokeContact_writes contactId
  | createRoute body => exact createRoute_writes body
  | patchRoute routeId body => exact patchRoute_writes routeId body
  | sendMessage rq => exact sendMessage_writes rq
  | listContacts _ _ _ => exact .refl
  | getContact _ => exact .refl
  | listRoutes => exact .refl
  | getMessage _ => exact .refl
  | listSessions _ _ _ _ => exact .refl
  | getSession _ => exact .refl

end Requests

/-! ## Steps and runs -/

/-- A step of the service is a sequence of its statements. -/
theorem worldStep_writes {w w' : World} (h : worldStep env w a = some w') :
    Writes env a w.db w'.db := by
  cases a with
  | webhook newId rawBody hubSignature dispatched =>
    cases h
    exact receiveWebhook_writes newId rawBody hubSignature dispatched
  | api inp tenantId op =>
    cases h
    exact handle_writes inp tenantId op
  | execute e redelivered =>
    simp only [worldStep] at h
    split at h
    · cases h
      cases e with
      | processInboxRow inboxId inp => exact processInboxRow_writes inp inboxId redelivered
      | fetchAndStoreFile args calls => exact fetchAndStoreFile_writes calls args redelivered
      | pollDiDocument args calls => exact pollDiDocument_writes calls args redelivered
      | processSession sessionId inp => exact processSession_writes inp sessionId redelivered
    · contradiction
  | flush now deferOk =>
    cases h
    exact claimSessionsForFlush_writes now deferOk
  | drain calls =>
    cases h
    exact sendOutbox_writes calls

/-- What every statement keeps holds along every run. -/
theorem run_of_writes (I : Db → Prop) (hwrite : ∀ a db db', I db → Write env a db db' → I db')
    {w w' : World} {as : List Action} (h : run (worldStep env) w as = some w') (hw : I w.db) :
    I w'.db :=
  run_preserves (fun w : World => I w.db)
    (fun _ a _ hi hstep => preserved_of_steps I (hwrite a) (worldStep_writes hstep) hi) h hw

/-- What every statement of the given actions keeps holds along their run. -/
theorem run_of_writes_of_mem (I : Db → Prop) {w w' : World} {as : List Action}
    (hwrite : ∀ a ∈ as, ∀ db db', I db → Write env a db db' → I db')
    (h : run (worldStep env) w as = some w') (hw : I w.db) : I w'.db :=
  run_preserves_of_mem (fun w : World => I w.db)
    (fun _ a ha _ hi hstep => preserved_of_steps I (hwrite a ha) (worldStep_writes hstep) hi) h hw

end WaService
