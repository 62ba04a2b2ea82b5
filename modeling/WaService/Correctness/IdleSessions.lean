import WaService.Correctness.Confirmations
import WaService.Correctness.Evolution
import WaService.Correctness.FileFrames
import WaService.System.FileJobs

/-!
# Conversations without documents

A text message opens a session too, and the readiness checks pass for a session without files. In a
run in which no payload carries a document there is never a file, and nothing is inserted exactly
where no session without files is processed.
-/

namespace WaService

open Python Relational Transition

variable {env : Env} {db db' db'' : Db}

/-! ## Payloads without documents -/

/-- The message is no image and no document. -/
def notMedia (msg : Json) : Bool :=
  match msg.get "type" (.str "") with
  | .ok type => (mediaKind type).isNone
  | .error _ => true

/-- No message of the payload is an image or a document. -/
def documentFree (payload : Json) : Bool :=
  match payloadMessages payload with
  | .ok (some messages) =>
    match messages.iter with
    | .ok msgs => msgs.all notMedia
    | .error _ => true
  | _ => true

/-- A stored payload carries no document once it is decoded. -/
def storedFree (env : Env) (payload : Json) : Bool :=
  match decodePayload env payload with
  | .ok decoded => documentFree decoded
  | .error _ => true

/-- The step receives no payload with a document. -/
def Action.receivesFree (env : Env) : Action → Bool
  | .webhook _ rawBody _ _ =>
    match env.jsonLoads rawBody with
    | some payload => storedFree env payload
    | none => true
  | _ => true

/-- The steps of the service while no document is sent. -/
def quietStep (env : Env) (w : World) (a : Action) : Option World :=
  if a.receivesFree env then worldStep env w a else none

/-- There are no files, and no stored payload carries a document. -/
structure DocumentFree (env : Env) (db : Db) : Prop where
  files : db.files.rows = []
  inbox : ∀ r ∈ db.inbox.rows, storedFree env r.payload = true

theorem parseMedia_of_notMedia {msg : Json} (h : notMedia msg = true) :
    ∀ m, parseMedia msg ≠ .ok (some m) := by
  intro m hm
  obtain ⟨type, htype, hm⟩ := bind_eq_ok.mp hm
  simp only [notMedia, htype] at h
  cases hkind : mediaKind type with
  | some kind =>
    rw [hkind] at h
    cases h
  | none =>
    rw [hkind] at hm
    cases hm

/-- The loop over messages without media registers nothing. -/
theorem processEach_notMedia {i : LoopInput} {st : LoopState} {msgs : List Json}
    (h : ∀ msg ∈ msgs, notMedia msg = true) : (processEach env i st msgs).1 = st := by
  induction msgs with
  | nil => rfl
  | cons msg rest ih =>
    have hfirst := parseMedia_of_notMedia (h msg List.mem_cons_self)
    have hrest := ih fun other hother => h other (List.mem_cons_of_mem msg hother)
    unfold processEach processMessage
    cases hparse : parseMedia msg with
    | error e => rfl
    | ok found =>
      cases found with
      | none => exact hrest
      | some m => exact absurd hparse (hfirst m)

theorem inboxTransaction_documentFree {inp : InboxInput} {row : Inbox} {payload : Json}
    {jobs : List Job} (hfree : documentFree payload = true)
    (h : inboxTransaction env db inp row payload = ⟨jobs, .ok db'⟩) : db'.files = db.files := by
  obtain ⟨ctx, s, opened, -, hget, hmessages⟩ := inboxTransaction_inv h
  have hopened : opened.files = db.files := by
    obtain ⟨-, -, ⟨-, rfl⟩ | ⟨-, -, sessions, -, rfl⟩⟩ := getOrCreateSession_ok hget
    · rfl
    · rfl
  rw [← hopened]
  obtain ⟨-, rfl⟩ | ⟨messages, msgs, st, hpayload, hiter, hloop, rfl⟩ :=
    processMessages_inv hmessages
  · rfl
  · unfold documentFree at hfree
    simp only [hpayload, hiter] at hfree
    have hst : _ = st := congrArg Prod.fst hloop
    rw [processEach_notMedia (List.all_eq_true.mp hfree)] at hst
    rw [← hst]

theorem processInboxRow_documentFree (h : DocumentFree env db) (inp : InboxInput) (inboxId : Nat) :
    (processInboxRow env db inp inboxId).db.files = db.files := by
  obtain hsame | ⟨row, hrow, ⟨state, hmarked⟩ | ⟨payload, jobs, db', -, hpayload, htx, hdone⟩⟩ :=
    processInboxRow_cases env db inp inboxId
  · rw [hsame]
  · rw [hmarked]
    rfl
  · have hfree := h.inbox row (List.mem_of_find?_eq_some hrow)
    simp only [storedFree, hpayload] at hfree
    have hfiles : db'.files = db.files := inboxTransaction_documentFree hfree htx
    rw [hdone]
    exact hfiles

theorem pollDiDocument_files_nil (h : db.files.rows = []) (calls : PollCalls) (job : PollJob) :
    (pollDiDocument env db calls job).db.files.rows = [] := by
  have hrecorded : ∀ typeKey facts, (recordType db job.fileId typeKey facts).files.rows = [] := by
    intro typeKey facts
    simp only [recordType, Db.updateFiles, Table.rows_update, h, List.map_nil]
  cases hanswer : recordedAnswer env calls job with
  | none =>
    rw [pollDiDocument_unrecorded db hanswer]
    split
    · exact h
    · exact h
  | some answer =>
    obtain ⟨result, typeKey, facts⟩ := answer
    rw [pollDiDocument_recorded db hanswer]
    split
    · exact hrecorded typeKey facts
    · rename_i satisfied hsatisfied
      obtain ⟨items, rfl⟩ := satisfyLinkedDeal_frame hsatisfied
      simp only [nudgeFlush_files]
      exact hrecorded typeKey facts

/-- Without documents there are no files after a step either. -/
theorem worldStep_files_nil {w w' : World} {a : Action} (hfree : DocumentFree env w.db)
    (h : worldStep env w a = some w') : w'.db.files.rows = [] := by
  have hnil := hfree.files
  obtain hkept | ⟨now, deferOk, -, hdb⟩ | ⟨e, redelivered, rfl, hdb⟩ := worldStep_cases h
  · rw [hkept.files, hnil]
  · rw [hdb]
    exact hnil
  · rw [hdb]
    cases e with
    | processInboxRow inboxId inp =>
      have hfiles : (processInboxRow env w.db inp inboxId).db.files = w.db.files :=
        processInboxRow_documentFree hfree inp inboxId
      simp only [Execution.result, hfiles, hnil]
    | fetchAndStoreFile args calls =>
      have hnone : fileById w.db args.fileId = none := by
        unfold fileById
        rw [hnil]
        rfl
      simp only [Execution.result, fetchAndStoreFile_unseen hnone, hnil]
    | pollDiDocument args calls => exact pollDiDocument_files_nil hnil calls args
    | processSession sessionId inp =>
      have hfiles : (processSession env w.db inp sessionId).db.files = w.db.files :=
        processSession_files inp sessionId
      simp only [Execution.result, hfiles, hnil]

theorem quietStep_documentFree {w w' : World} {a : Action} (hfree : DocumentFree env w.db)
    (h : quietStep env w a = some w') : DocumentFree env w'.db := by
  unfold quietStep at h
  split at h
  · rename_i hreceives
    refine ⟨worldStep_files_nil hfree h, fun r hr => ?_⟩
    obtain ⟨old, hold, hkept⟩ | hnew := (worldStep_evolves h).inbox.source r hr
    · have hpayload : r.payload = old.payload := congrArg Arrival.payload hkept
      rw [hpayload]
      exact hfree.inbox old hold
    · cases a with
      | webhook newId rawBody hubSignature dispatched =>
        have hbody : env.jsonLoads rawBody = some r.payload := hnew.body
        simp only [Action.receivesFree, hbody] at hreceives
        exact hreceives
      | api inp tenantId op => exact hnew.elim
      | execute e redelivered => exact hnew.elim
      | flush now deferOk => exact hnew.elim
      | drain calls => exact hnew.elim
  · cases h

/-! ## What is inserted -/

/-- No deal, no checklist item and no message is inserted. -/
structure InsertsNothing (db db' : Db) : Prop where
  deals : Table.Evolves (Keeping Deal.id) (fun _ => False) db.deals db'.deals
  items : Table.Evolves (Keeping ChecklistItem.id) (fun _ => False) db.checklistItems
    db'.checklistItems
  outbox : Table.Evolves (Keeping Outbox.id) (fun _ => False) db.outbox db'.outbox

theorem InsertsNothing.refl (db : Db) : InsertsNothing db db :=
  ⟨.refl_keeping _, .refl_keeping _, .refl_keeping _⟩

theorem InsertsNothing.trans (h : InsertsNothing db db') (h' : InsertsNothing db' db'') :
    InsertsNothing db db'' :=
  ⟨h.deals.trans_keeping h'.deals fun _ _ hf _ => hf,
    h.items.trans_keeping h'.items fun _ _ hf _ => hf,
    h.outbox.trans_keeping h'.outbox fun _ _ hf _ => hf⟩

theorem insertsNothing_of_tables (hdeals : db'.deals = db.deals)
    (hitems : db'.checklistItems = db.checklistItems) (houtbox : db'.outbox = db.outbox) :
    InsertsNothing db db' := by
  constructor
  · rw [hdeals]
    exact .refl_keeping _
  · rw [hitems]
    exact .refl_keeping _
  · rw [houtbox]
    exact .refl_keeping _

theorem updateOutbox_insertsNothing {p : Outbox → Bool} {f : Outbox → Outbox}
    (hf : ∀ o, (f o).id = o.id) : InsertsNothing db (db.updateOutbox p f hf) :=
  ⟨.refl_keeping _, .refl_keeping _, .update_keeping (Outbox.keeps hf) hf db.outbox⟩

theorem markFailed_insertsNothing (now : Timestamp) (outboxId : Nat) (error : Option String)
    (permanent : Bool) : InsertsNothing db (markFailed db now outboxId error permanent) := by
  unfold markFailed
  split
  · exact updateOutbox_insertsNothing _
  · exact updateOutbox_insertsNothing _

theorem markOutcome_insertsNothing {now : Timestamp} {outboxId : Nat} {outcome : SendOutcome}
    (h : markOutcome env db now outboxId outcome = .ok db') : InsertsNothing db db' := by
  cases outcome with
  | ok wamid =>
    obtain ⟨text, -, h⟩ := bind_eq_ok.mp h
    cases h
    exact updateOutbox_insertsNothing _
  | failed code message retryable =>
    obtain ⟨text, -, h⟩ := bind_eq_ok.mp h
    cases h
    exact markFailed_insertsNothing _ _ _ _
  | raised => contradiction

theorem drainRows_insertsNothing (calls : DrainCalls) (rows : List Outbox) :
    InsertsNothing db (drainRows env calls db rows).1 := by
  induction rows generalizing db with
  | nil => exact .refl db
  | cons row rest ih =>
    unfold drainRows
    split
    · exact ih
    · exact (markFailed_insertsNothing _ _ _ _).trans ih
    · exact .refl db
    · split
      · rename_i db' hmark
        exact (markOutcome_insertsNothing hmark).trans ih
      · exact .refl db

theorem sendOutbox_insertsNothing (calls : DrainCalls) :
    InsertsNothing db (sendOutbox env db calls).1 := by
  have hexpired : InsertsNothing db (expireOutbox db calls.now) := updateOutbox_insertsNothing _
  have hclaimed : InsertsNothing (expireOutbox db calls.now)
      (claimPending db calls.now calls.locked 20).2 :=
    updateOutbox_insertsNothing (f := raiseAttempts) fun _ => rfl
  exact (hexpired.trans hclaimed).trans (drainRows_insertsNothing calls _)

theorem updateItems_insertsNothing {p : ChecklistItem → Bool} {f : ChecklistItem → ChecklistItem}
    (hf : ∀ i, (f i).id = i.id ∧ (f i).dealId = i.dealId ∧ (f i).typeKey = i.typeKey) :
    InsertsNothing db (db.updateItems p f hf) :=
  ⟨.refl_keeping _, .update_keeping (ChecklistItem.keeps hf) (fun i => (hf i).1) db.checklistItems,
    .refl_keeping _⟩

theorem markSatisfied_insertsNothing (now : Timestamp) (dealId : UUID) (typeKey : String)
    (documentId : UUID) : InsertsNothing db (markSatisfied db now dealId typeKey documentId) := by
  unfold markSatisfied
  exact updateItems_insertsNothing _

theorem satisfyLinkedDeal_insertsNothing {now : Timestamp} {job : PollJob} {result : DiPollResult}
    (h : satisfyLinkedDeal db now job result = .ok db') : InsertsNothing db db' := by
  unfold satisfyLinkedDeal at h
  split at h
  · split at h
    · cases h
      exact .refl db
    · obtain ⟨typeKey, -, h⟩ := bind_eq_ok.mp h
      cases h
      exact markSatisfied_insertsNothing _ _ _ _
  · cases h
    exact .refl db

theorem pollDiDocument_insertsNothing (calls : PollCalls) (job : PollJob) :
    InsertsNothing db (pollDiDocument env db calls job).db := by
  cases hanswer : recordedAnswer env calls job with
  | none =>
    rw [pollDiDocument_unrecorded db hanswer]
    split
    · exact insertsNothing_of_tables rfl rfl rfl
    · exact .refl db
  | some answer =>
    obtain ⟨result, typeKey, facts⟩ := answer
    rw [pollDiDocument_recorded db hanswer]
    have hrecorded : InsertsNothing db (recordType db job.fileId typeKey facts) :=
      insertsNothing_of_tables rfl rfl rfl
    split
    · exact hrecorded
    · rename_i satisfied hsatisfied
      apply (hrecorded.trans (satisfyLinkedDeal_insertsNothing hsatisfied)).trans
      unfold nudgeFlush
      split
      · exact insertsNothing_of_tables rfl rfl rfl
      · exact .refl satisfied

theorem processInboxRow_insertsNothing (inp : InboxInput) (inboxId : Nat) :
    InsertsNothing db (processInboxRow env db inp inboxId).db := by
  refine processInboxRow_preserves (P := InsertsNothing db) ?_ ?_ ?_ ?_ (.refl db) inboxId
  · exact fun d tenantId contactId orgUnitId sessions hd _ => ⟨hd.deals, hd.items, hd.outbox⟩
  · exact fun d f files hd _ _ => ⟨hd.deals, hd.items, hd.outbox⟩
  · exact fun d sessionId hd => ⟨hd.deals, hd.items, hd.outbox⟩
  · exact fun d inboxId state hd => ⟨hd.deals, hd.items, hd.outbox⟩

/-! ## The law -/

/-- The session task is executed only for sessions that have a file. -/
def ProcessesFiles (w : World) : Action → Prop
  | .execute (.processSession sessionId _) _ => ∀ s, sessionById w.db sessionId = some s →
      getSessionFiles w.db s.id ≠ []
  | _ => True

theorem processSession_insertsNothing (inp : SessionInput) (sessionId : UUID)
    (hfiles : ∀ s, sessionById db sessionId = some s → getSessionFiles db s.id ≠ []) :
    InsertsNothing db (processSession env db inp sessionId).db := by
  obtain hsame | ⟨s, db', hs, htx, hdb⟩ := processSession_cases env db inp sessionId
  · rw [hsame]
    exact .refl db
  · rw [hdb]
    obtain ⟨note, -, rfl⟩ | ⟨hnone, -⟩ := sessionTransaction_cases htx
    · exact insertsNothing_of_tables rfl rfl rfl
    · exact absurd hnone (hfiles s hs)

theorem worldStep_insertsNothing {w w' : World} {a : Action} (hfiles : ProcessesFiles w a)
    (h : worldStep env w a = some w') : InsertsNothing w.db w'.db := by
  cases a with
  | webhook newId rawBody hubSignature dispatched =>
    cases h
    obtain ⟨inbox, hdb⟩ := receiveWebhook_frame env w.db newId rawBody hubSignature dispatched
    simp only [hdb]
    exact insertsNothing_of_tables rfl rfl rfl
  | api inp tenantId op =>
    cases h
    simp only
    rw [handle_tables env w.db inp tenantId op]
    exact insertsNothing_of_tables rfl rfl rfl
  | execute e redelivered =>
    simp only [worldStep] at h
    split at h
    · cases h
      cases e with
      | processInboxRow inboxId inp => exact processInboxRow_insertsNothing inp inboxId
      | fetchAndStoreFile args calls =>
        obtain ⟨files, hdb⟩ := fetchAndStoreFile_frame w.db calls args
        simp only [World.afterTask, Execution.result, hdb]
        exact insertsNothing_of_tables rfl rfl rfl
      | pollDiDocument args calls => exact pollDiDocument_insertsNothing calls args
      | processSession sessionId inp => exact processSession_insertsNothing inp sessionId hfiles
    · contradiction
  | flush now deferOk =>
    cases h
    exact insertsNothing_of_tables rfl rfl rfl
  | drain calls =>
    cases h
    exact sendOutbox_insertsNothing calls

/-- In every run without documents there are no files, and where the session task is executed only
for sessions with files no deal, no checklist item and no message is inserted. -/
theorem quiet_runs_insert_nothing (env : Env) {start w : World} {as : List Action}
    (hstart : DocumentFree env start.db) (h : run (quietStep env) start as = some w) :
    w.db.files.rows = [] ∧
      (Meets (quietStep env) ProcessesFiles start as → InsertsNothing start.db w.db) := by
  have hfree := run_preserves (fun w => DocumentFree env w.db)
    (fun w a w' => quietStep_documentFree) h hstart
  refine ⟨hfree.files, fun hfiles => ?_⟩
  refine run_preserves_of_meets (fun w => InsertsNothing start.db w.db) ?_ h hfiles (.refl start.db)
  intro w a w' hw hprocesses hstep
  unfold quietStep at hstep
  split at hstep
  · exact hw.trans (worldStep_insertsNothing hprocesses hstep)
  · cases hstep

/-! ## A text message -/

/-- A text message of the consultant. -/
def textPayload : Json :=
  webhookBody [entryOf [changeValue "PN1" ["919876543210"]
    [.obj [("id", .str "w1"), ("from", .str "919876543210"), ("type", .str "text"),
      ("timestamp", .str "1700000000"), ("text", .obj [("body", .str "hello")])]]]]

/-- The digest and the value of its body are on record. -/
def textEnv : Env := .ofRecording "secret" [([1], "a1", textPayload)]

/-- The message is received and processed, which opens a session. -/
def textReceived : List Action :=
  [.webhook 1 [1] (some "sha256=a1") true,
    .execute (.processInboxRow 1 ⟨0, 7, fun n => 100 + BitVec.ofNat 128 n, fun _ => true⟩) false]

/-- The session is flushed when its debounce has expired, and processed. -/
def textFlushed : List Action :=
  [.flush (seconds 91) fun _ => true, .execute (.processSession 7 idleInput) false]

/-- Nothing is inserted while the session waits. -/
theorem text_waits :
    ∃ w, run (quietStep textEnv) ⟨boundDb, []⟩ textReceived = some w ∧
      InsertsNothing boundDb w.db := by
  have hruns : (run (quietStep textEnv) ⟨boundDb, []⟩ textReceived).isSome = true := by
    decide +kernel
  obtain ⟨w, hw⟩ := Option.isSome_iff_exists.mp hruns
  have hstart : DocumentFree textEnv boundDb := ⟨rfl, fun r hr => absurd hr List.not_mem_nil⟩
  refine ⟨w, hw, (quiet_runs_insert_nothing textEnv hstart hw).2 ?_⟩
  exact ⟨trivial, fun _ _ => ⟨trivial, fun _ _ => trivial⟩⟩

/-- The processed session has a deal, a checklist and a message that asks for a confirmation. -/
theorem text_creates_deal :
    (run (quietStep textEnv) ⟨boundDb, []⟩ (textReceived ++ textFlushed)).map
        (fun w => (w.db.deals.rows.map (·.bookingNumber), w.db.checklistItems.rows.length,
          w.db.outbox.rows.map fun o => (o.kind, dedupOf o.payload))) =
      some (["WA-00000000"], 9,
        [(.interactive, some "deal_confirm_00000000-0000-0000-0000-000000000007")]) := by
  decide +kernel

end WaService
