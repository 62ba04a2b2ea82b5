import WaService.Wa.Router
import WaService.Wa.Session

/-!
# The inbox task

`process_inbox_row` resolves the identity behind a stored payload, opens the
contact's session and registers every media message of the first change, all in
one transaction. Jobs are deferred inside the message loop on a connection of
their own, so they stay queued when the transaction rolls back.
-/

namespace WaService

open Python Relational

/-- The messages that `_process_messages` iterates over; a payload without the path
has none. -/
def payloadMessages (payload : Json) : Except Error (Option Json) :=
  onLookupError none do
    let value ← firstValue payload
    let messages ← value.get "messages" (.arr [])
    return some messages

/-- The kind of a media message; other messages are skipped. -/
def mediaKind (msgType : Json) : Option FileKind :=
  if msgType.eqStr "image" then some .image
  else if msgType.eqStr "document" then some .document
  else none

/-- An image sent as a photo is recompressed; a document is the original. -/
def fidelityOf : FileKind → Fidelity
  | .image => .recompressed
  | .document => .original

/-- Read the fields of one message; no value for a message that carries no media. -/
def parseMedia (msg : Json) : Except Error (Option MediaMessage) := do
  let msgType ← msg.get "type" (.str "")
  match mediaKind msgType with
  | none => return none
  | some kind =>
    let block ← msg.get kind.text (.obj [])
    let wamid ← msg.get "id" (.str "")
    let stamp ← msg.get "timestamp" (.int 0)
    let seconds' ← toInt stamp
    let waTimestamp ← fromTimestamp seconds'
    let mediaId ← block.get "id" (.str "")
    let declaredMime ← block.get "mime_type" .null
    let declaredName ← block.get "filename" .null
    let caption ← msg.get "caption" .null
    let metaSha256 ← block.get "sha256" .null
    return some ⟨wamid, mediaId, seconds waTimestamp, kind, fidelityOf kind, declaredMime,
      declaredName, caption, metaSha256⟩

/-- `COALESCE(MAX(received_seq), 0)` over the files of a session. -/
def maxReceivedSeq (db : Db) (sessionId : UUID) : Int :=
  ((db.files.rows.filter fun f => f.sessionId == sessionId).map (·.receivedSeq)).max?.getD 0

/-- The active routes of the tenants of a session's contact, in heap order: the join
of `wa.route`, `wa.contact` and `wa.session`. -/
def sessionRoutes (db : Db) (sessionId : UUID) : List Route :=
  db.routes.rows.filter fun r => r.active &&
    db.contacts.rows.any fun c => c.tenantId == r.tenantId &&
      db.sessions.rows.any fun s => s.contactId == c.id && s.id == sessionId

/-- The intake journey of the first such route. -/
def sessionJourney (db : Db) (sessionId : UUID) : Option UUID :=
  (sessionRoutes db sessionId).head?.bind (·.intakeJourneyId)

/-- What the message loop carries: the uncommitted database, the last sequence
number, the jobs deferred so far and the number of new ids used. -/
structure LoopState where
  db : Db
  seq : Int
  jobs : List Job
  used : Nat

/-- Values the loop reads but does not change. -/
structure LoopInput where
  now : Timestamp
  ctx : ResolvedContext
  sessionId : UUID
  journeyId : Option UUID
  /-- Generated id of the file at each position. -/
  newIds : Nat → UUID
  /-- Whether the queue accepts the job at each position. -/
  deferOk : Nat → Bool

/-- Keyword arguments of the download task of one file. -/
def fetchJob (i : LoopInput) (fileId : UUID) : FetchJob :=
  ⟨fileId, i.sessionId, i.ctx.tenantId, i.ctx.userId, i.ctx.orgUnitId, i.ctx.locale, i.journeyId⟩

/-- One pass of the loop body; an exception keeps the jobs already deferred. -/
def processMessage (env : Env) (i : LoopInput) (st : LoopState) (msg : Json) :
    LoopState × Option Error :=
  match parseMedia msg with
  | .error e => (st, some e)
  | .ok none => (st, none)
  | .ok (some m) =>
    match registerFile env st.db (i.newIds st.used) i.ctx.tenantId i.sessionId (st.seq + 1) m with
    | .error e => (st, some e)
    | .ok (fileId, db) =>
      let db' := recordFileArrival db i.now i.sessionId 0
      if i.deferOk st.used then
        (⟨db', st.seq + 1, st.jobs ++ [.fetchAndStoreFile (fetchJob i fileId)], st.used + 1⟩, none)
      else (⟨db', st.seq + 1, st.jobs, st.used + 1⟩, some .valueError)

/-- The loop over the messages. -/
def processEach (env : Env) (i : LoopInput) (st : LoopState) : List Json → LoopState × Option Error
  | [] => (st, none)
  | msg :: rest =>
    match processMessage env i st msg with
    | (st', none) => processEach env i st' rest
    | (st', some e) => (st', some e)

/-- Generated ids and outcomes outside the program, for one run of the inbox task. -/
structure InboxInput where
  now : Timestamp
  sessionId : UUID
  fileIds : Nat → UUID
  deferOk : Nat → Bool

/-- The jobs a transaction deferred, and its database unless it was rolled back. -/
structure TxResult where
  jobs : List Job
  outcome : Except Failure Db

/-- Extract the media messages of the payload; register and enqueue each file. -/
def processMessages (env : Env) (db : Db) (inp : InboxInput) (payload : Json)
    (ctx : ResolvedContext) (sessionId : UUID) : TxResult :=
  match payloadMessages payload with
  | .error e => ⟨[], .error (.python e)⟩
  | .ok none => ⟨[], .ok db⟩
  | .ok (some messages) =>
    match messages.iter with
    | .error e => ⟨[], .error (.python e)⟩
    | .ok msgs =>
      let i : LoopInput :=
        ⟨inp.now, ctx, sessionId, sessionJourney db sessionId, inp.fileIds, inp.deferOk⟩
      match processEach env i ⟨db, maxReceivedSeq db sessionId, [], 0⟩ msgs with
      | (st, none) => ⟨st.jobs, .ok st.db⟩
      | (st, some e) => ⟨st.jobs, .error (.python e)⟩

/-- The transaction of the task: identity, session, messages. -/
def inboxTransaction (env : Env) (db : Db) (inp : InboxInput) (row : Inbox) (payload : Json) :
    TxResult :=
  match resolveFullContext db row.phoneNumberId payload with
  | .error e => ⟨[], .error e⟩
  | .ok ctx =>
    match getOrCreateSession db inp.sessionId inp.now ctx.tenantId ctx.contactId ctx.orgUnitId with
    | .error e => ⟨[], .error (.python e)⟩
    | .ok (session, db') => processMessages env db' inp payload ctx session.id

section Inversion

variable {env : Env} {db db' : Db} {inp : InboxInput} {payload : Json} {jobs : List Job}

/-- What is committed for the messages is what a loop without an error leaves. -/
theorem processMessages_inv {ctx : ResolvedContext} {sessionId : UUID}
    (h : processMessages env db inp payload ctx sessionId = ⟨jobs, .ok db'⟩) :
    payloadMessages payload = .ok none ∧ db' = db ∨
      ∃ messages msgs st, payloadMessages payload = .ok (some messages) ∧
        messages.iter = .ok msgs ∧
        processEach env
          ⟨inp.now, ctx, sessionId, sessionJourney db sessionId, inp.fileIds, inp.deferOk⟩
          ⟨db, maxReceivedSeq db sessionId, [], 0⟩ msgs = (st, none) ∧
        db' = st.db := by
  unfold processMessages at h
  split at h
  · cases h
  · rename_i hnone
    cases h
    exact Or.inl ⟨hnone, rfl⟩
  · rename_i messages hmessages
    split at h
    · cases h
    · rename_i msgs hiter
      simp only at h
      split at h
      · rename_i st hloop
        cases h
        exact Or.inr ⟨messages, msgs, st, hmessages, hiter, hloop, rfl⟩
      · cases h

/-- A transaction that commits has identified the sender and found or opened a session. -/
theorem inboxTransaction_inv {row : Inbox}
    (h : inboxTransaction env db inp row payload = ⟨jobs, .ok db'⟩) :
    ∃ ctx s opened, resolveFullContext db row.phoneNumberId payload = .ok ctx ∧
      getOrCreateSession db inp.sessionId inp.now ctx.tenantId ctx.contactId ctx.orgUnitId =
        .ok (s, opened) ∧
      processMessages env opened inp payload ctx s.id = ⟨jobs, .ok db'⟩ := by
  unfold inboxTransaction at h
  split at h
  · cases h
  · rename_i ctx hctx
    split at h
    · cases h
    · rename_i s opened hget
      exact ⟨ctx, s, opened, hctx, hget, h⟩

end Inversion

/-- An update of the inbox that keeps identity and wamid. -/
theorem Inbox.keeps {p : Inbox → Bool} {f : Inbox → Inbox}
    (h : ∀ r, (f r).id = r.id ∧ (f r).wamid = r.wamid) : Table.Keeps p f :=
  Table.keeps_of fun r _ => ⟨Or.inl (by rw [(h r).1]), Or.inl (h r).2⟩

/-- `UPDATE wa.inbox`: apply `f` to the rows that `p` selects. -/
def Db.updateInbox (db : Db) (p : Inbox → Bool) (f : Inbox → Inbox)
    (h : ∀ r, (f r).id = r.id ∧ (f r).wamid = r.wamid) : Db :=
  { db with inbox := db.inbox.update p f (Inbox.keeps h) }

/-- `_mark_inbox`. -/
def markInbox (db : Db) (inboxId : Nat) (state : InboxState) : Db :=
  db.updateInbox (fun r => r.id == inboxId) (fun r => { r with state := state })
    fun _ => ⟨rfl, rfl⟩

/-- What one execution of a task leaves behind. -/
structure TaskResult where
  db : Db
  /-- Jobs put in the queue. -/
  jobs : List Job
  /-- The task ended with an exception. -/
  raised : Bool

/-- The body of the task once the row has been read. -/
def processRow (env : Env) (db : Db) (inp : InboxInput) (row : Inbox) : TaskResult :=
  if row.signatureOk then
    match decodePayload env row.payload with
    | .error _ => ⟨db, [], true⟩
    | .ok payload =>
      match inboxTransaction env db inp row payload with
      | ⟨jobs, .ok db'⟩ => ⟨markInbox db' row.id .done, jobs, false⟩
      | ⟨jobs, .error (.routing _ _)⟩ => ⟨markInbox db row.id .ignored, jobs, false⟩
      | ⟨jobs, .error (.python _)⟩ => ⟨markInbox db row.id .failed, jobs, false⟩
  else ⟨markInbox db row.id .ignored, [], false⟩

/-- The inbox row with a given id. -/
def inboxRow (db : Db) (inboxId : Nat) : Option Inbox :=
  db.inbox.rows.find? fun r => r.id == inboxId

/-- A lookup after an update finds the row as the update leaves it. -/
theorem inboxRow_update (db : Db) (p : Inbox → Bool) (f : Inbox → Inbox)
    (hf : ∀ r, (f r).id = r.id ∧ (f r).wamid = r.wamid) (inboxId : Nat) :
    inboxRow (db.updateInbox p f hf) inboxId = (inboxRow db inboxId).map (patch p f) := by
  unfold inboxRow Db.updateInbox
  rw [Table.find?_update db.inbox fun r _ => by rw [(hf r).1]]

/-- `process_inbox_row`. -/
def processInboxRow (env : Env) (db : Db) (inp : InboxInput) (inboxId : Nat) : TaskResult :=
  match inboxRow db inboxId with
  | none => ⟨db, [], false⟩
  | some row => processRow env db inp row

/-- The database after the task: unchanged, with the row marked, or as the transaction of a signed
row commits it. -/
theorem processInboxRow_cases (env : Env) (db : Db) (inp : InboxInput) (inboxId : Nat) :
    (processInboxRow env db inp inboxId).db = db ∨
      ∃ row, inboxRow db inboxId = some row ∧
        ((∃ state, (processInboxRow env db inp inboxId).db = markInbox db row.id state) ∨
          ∃ payload jobs db', row.signatureOk = true ∧
            decodePayload env row.payload = .ok payload ∧
            inboxTransaction env db inp row payload = ⟨jobs, .ok db'⟩ ∧
            (processInboxRow env db inp inboxId).db = markInbox db' row.id .done) := by
  unfold processInboxRow
  split
  · exact Or.inl rfl
  · rename_i row hrow
    unfold processRow
    split
    · rename_i hsigned
      split
      · exact Or.inl rfl
      · rename_i payload hpayload
        refine Or.inr ⟨row, hrow, ?_⟩
        split
        · rename_i jobs db' htx
          exact Or.inr ⟨payload, jobs, db', hsigned, hpayload, htx, rfl⟩
        · exact Or.inl ⟨.ignored, rfl⟩
        · exact Or.inl ⟨.failed, rfl⟩
    · exact Or.inr ⟨row, hrow, Or.inl ⟨.ignored, rfl⟩⟩

/-! ## What the statements of the task preserve -/

section Preserves

variable {env : Env} {P : Db → Prop} {i : LoopInput}

/-- The loop over the messages registers files and records their arrival. -/
theorem processEach_preserves
    (register : ∀ d f files, P d → f.IsInserted → d.files.insert? f = some files →
      P { d with files := files })
    (arrive : ∀ d, P d → P (recordFileArrival d i.now i.sessionId 0)) {msgs : List Json}
    {st st' : LoopState} {e : Option Error} (h : processEach env i st msgs = (st', e))
    (hst : P st.db) : P st'.db := by
  induction msgs generalizing st with
  | nil =>
    cases h
    exact hst
  | cons msg rest ih =>
    have hmsg : P (processMessage env i st msg).1.db := by
      unfold processMessage
      split
      · exact hst
      · exact hst
      · split
        · exact hst
        · rename_i fileId db' hreg
          have hfile : P db' := by
            obtain ⟨f, hf, ⟨_, -, -, rfl⟩ | ⟨-, files, hins, -, rfl⟩⟩ := registerFile_ok hreg
            · exact hst
            · exact register _ _ _ hst (newFile_isInserted hf) hins
          split
          · exact arrive db' hfile
          · exact arrive db' hfile
    unfold processEach at h
    split at h
    · rename_i st₁ hone
      rw [hone] at hmsg
      exact ih h hmsg
    · rename_i st₁ e₁ hone
      cases h
      rw [hone] at hmsg
      exact hmsg

/-- The transaction opens a session, registers files and records their arrival. -/
theorem inboxTransaction_preserves {inp : InboxInput}
    (create : ∀ d tenantId contactId orgUnitId sessions, P d →
      d.sessions.insert? (newSession inp.sessionId inp.now tenantId contactId orgUnitId) =
        some sessions → P { d with sessions := sessions })
    (register : ∀ d f files, P d → f.IsInserted → d.files.insert? f = some files →
      P { d with files := files })
    (arrive : ∀ d sessionId, P d → P (recordFileArrival d inp.now sessionId 0)) {db db' : Db}
    (h : P db) {row : Inbox} {payload : Json} {jobs : List Job}
    (hrun : inboxTransaction env db inp row payload = ⟨jobs, .ok db'⟩) : P db' := by
  obtain ⟨ctx, session, opened, -, hget, hmessages⟩ := inboxTransaction_inv hrun
  have hopened : P opened := by
    obtain ⟨-, -, ⟨-, rfl⟩ | ⟨-, rfl, sessions, hins, rfl⟩⟩ := getOrCreateSession_ok hget
    · exact h
    · exact create _ _ _ _ _ h hins
  obtain ⟨-, rfl⟩ | ⟨messages, msgs, st, -, -, hloop, rfl⟩ := processMessages_inv hmessages
  · exact hopened
  · exact processEach_preserves register (fun d => arrive d session.id) hloop hopened

/-- The task marks its row after the transaction. -/
theorem processInboxRow_preserves {inp : InboxInput}
    (create : ∀ d tenantId contactId orgUnitId sessions, P d →
      d.sessions.insert? (newSession inp.sessionId inp.now tenantId contactId orgUnitId) =
        some sessions → P { d with sessions := sessions })
    (register : ∀ d f files, P d → f.IsInserted → d.files.insert? f = some files →
      P { d with files := files })
    (arrive : ∀ d sessionId, P d → P (recordFileArrival d inp.now sessionId 0))
    (mark : ∀ d inboxId state, P d → P (markInbox d inboxId state)) {db : Db} (h : P db)
    (inboxId : Nat) : P (processInboxRow env db inp inboxId).db := by
  obtain hsame | ⟨row, -, ⟨state, hmarked⟩ | ⟨payload, jobs, db', -, -, hrun, hdone⟩⟩ :=
    processInboxRow_cases env db inp inboxId
  · rwa [hsame]
  · rw [hmarked]
    exact mark _ _ _ h
  · rw [hdone]
    exact mark _ _ _ (inboxTransaction_preserves create register arrive h hrun)

end Preserves

/-! ## What the task defers -/

/-- The message loop defers downloads, and nothing else. -/
theorem processEach_downloads (env : Env) (i : LoopInput) (st : LoopState) (msgs : List Json) :
    ∃ args : List FetchJob,
      (processEach env i st msgs).1.jobs = st.jobs ++ args.map .fetchAndStoreFile := by
  induction msgs generalizing st with
  | nil => exact ⟨[], (List.append_nil _).symm⟩
  | cons msg rest ih =>
    have hone : ∃ args : List FetchJob,
        (processMessage env i st msg).1.jobs = st.jobs ++ args.map .fetchAndStoreFile := by
      unfold processMessage
      split
      · exact ⟨[], (List.append_nil _).symm⟩
      · exact ⟨[], (List.append_nil _).symm⟩
      · split
        · exact ⟨[], (List.append_nil _).symm⟩
        · rename_i fileId _ _
          simp only
          split
          · exact ⟨[fetchJob i fileId], rfl⟩
          · exact ⟨[], (List.append_nil _).symm⟩
    obtain ⟨args, hone⟩ := hone
    unfold processEach
    split
    · rename_i st₁ hmsg
      rw [hmsg] at hone
      obtain ⟨more, hrest⟩ := ih st₁
      refine ⟨args ++ more, ?_⟩
      rw [hrest, hone, List.map_append, List.append_assoc]
    · rename_i st₁ e hmsg
      rw [hmsg] at hone
      exact ⟨args, hone⟩

theorem inboxTransaction_downloads (env : Env) (db : Db) (inp : InboxInput) (row : Inbox)
    (payload : Json) : ∃ args : List FetchJob,
      (inboxTransaction env db inp row payload).jobs = args.map .fetchAndStoreFile := by
  have hmessages : ∀ d ctx sessionId, ∃ args : List FetchJob,
      (processMessages env d inp payload ctx sessionId).jobs = args.map .fetchAndStoreFile := by
    intro d ctx sessionId
    unfold processMessages
    split
    · exact ⟨[], rfl⟩
    · exact ⟨[], rfl⟩
    · split
      · exact ⟨[], rfl⟩
      · rename_i msgs _
        obtain ⟨args, hloop⟩ := processEach_downloads env
          ⟨inp.now, ctx, sessionId, sessionJourney d sessionId, inp.fileIds, inp.deferOk⟩
          ⟨d, maxReceivedSeq d sessionId, [], 0⟩ msgs
        simp only
        split
        · rename_i hrun
          rw [hrun] at hloop
          exact ⟨args, hloop⟩
        · rename_i hrun
          rw [hrun] at hloop
          exact ⟨args, hloop⟩
  unfold inboxTransaction
  split
  · exact ⟨[], rfl⟩
  · split
    · exact ⟨[], rfl⟩
    · exact hmessages _ _ _

end WaService
