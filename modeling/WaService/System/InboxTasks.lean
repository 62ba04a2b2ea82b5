import WaService.Core.Heap
import WaService.Core.Processes
import WaService.Worker.Inbox

/-!
# Overlapping inbox tasks

The tasks of all inbox rows over one database, statement by statement, under READ
COMMITTED. A statement sees what is committed when it starts and what its own
transaction has written. The lookups of routes and contacts, which no task changes,
are one step. An insert waits while another transaction holds its key, and an update of
a session row while another transaction has updated it; a statement that waits is no
step. A task that raised may run again.
-/

namespace WaService

open Python Relational Transition

/-- An update of a session by `record_file_arrival`, until its transaction ends. -/
structure PendingArrival where
  writer : Nat
  sessionId : UUID
  now : Timestamp

/-- An arrival keeps what identifies a session. -/
theorem PendingArrival.keeps (a : PendingArrival) :
    Table.Keeps (collects a.sessionId) (Session.arrive a.now 0) :=
  Session.keeps fun _ _ => ⟨rfl, rfl, id⟩

/-- The database of the tasks, each named by its inbox row. -/
structure TaskShared where
  /-- The tables without uncommitted rows; its sessions and files are not used. -/
  rest : Db
  sessions : Heap Nat Session
  files : Heap Nat File
  /-- Updates of sessions that are not committed. -/
  arrivals : List PendingArrival
  /-- Jobs in the queue. -/
  jobs : List Job

namespace TaskShared

/-- The committed database. -/
def committed (s : TaskShared) : Db :=
  { s.rest with sessions := s.sessions.committed, files := s.files.committed }

/-- The database as the statements of a task see it. Of a session only the identity, the
contact and the state are read, which no uncommitted update changes. -/
def view (s : TaskShared) (i : Nat) : Db :=
  { s.rest with sessions := s.sessions.visible i, files := s.files.visible i }

/-- An arrival, written to the session row. -/
def writeArrival (sessions : Heap Nat Session) (a : PendingArrival) : Heap Nat Session :=
  sessions.updateRows (collects a.sessionId) (Session.arrive a.now 0) a.keeps

/-- `COMMIT` of a task's transaction. -/
def commit (s : TaskShared) (i : Nat) : TaskShared :=
  { s with
    sessions := (s.arrivals.filter (·.writer == i)).foldl writeArrival (s.sessions.commit i)
    files := s.files.commit i
    arrivals := s.arrivals.filter (·.writer != i) }

/-- `ROLLBACK` of a task's transaction. -/
def rollback (s : TaskShared) (i : Nat) : TaskShared :=
  { s with
    sessions := s.sessions.rollback i
    files := s.files.rollback i
    arrivals := s.arrivals.filter (·.writer != i) }

end TaskShared

/-- What a task's transaction knows once the identity is resolved. -/
structure TaskTx where
  payload : Json
  /-- `now()`, the start of the transaction. -/
  now : Timestamp
  ctx : ResolvedContext

/-- The variables of the loop over the messages; `rest` are the messages that come next. -/
structure LoopFrame where
  sessionId : UUID
  journeyId : Option UUID
  seq : Int
  rest : List Json

/-- What is next in the loop. -/
inductive LoopStage where
  /-- The `INSERT` for the next message, or the `COMMIT` after the last one. -/
  | register
  /-- The lookup of the file that holds the wamid already. -/
  | reread (m : MediaMessage) (wamid : String)
  /-- `record_file_arrival`. -/
  | arrive (fileId : UUID)
  /-- The job of the download. -/
  | enqueue (fileId : UUID)

/-- Where a task stands. -/
inductive TaskPhase where
  | waiting
  /-- The row is read; the lookups of the identity are next. -/
  | opened (row : Inbox) (payload : Json)
  /-- The `SELECT` of the open session is next. -/
  | searching (tx : TaskTx)
  /-- The `INSERT` of a session is next. -/
  | creating (tx : TaskTx)
  /-- The `SELECT` of the last sequence number is next. -/
  | counting (tx : TaskTx) (sessionId : UUID)
  /-- The `SELECT` of the journey is next. -/
  | joining (tx : TaskTx) (sessionId : UUID) (seq : Int) (messages : Json)
  | looping (tx : TaskTx) (frame : LoopFrame) (stage : LoopStage)
  /-- `_mark_inbox` is next. -/
  | marking (state : InboxState)
  | finished
  | raised

/-- The task has ended. -/
def TaskPhase.ended : TaskPhase → Bool
  | .finished | .raised => true
  | _ => false

/-- The tasks over one database. -/
abbrev InboxTasks := Processes Nat TaskShared TaskPhase

/-- A statement of the task `i`. -/
inductive TaskAction where
  | load (i : Nat)
  | resolve (i : Nat) (now : Timestamp)
  | search (i : Nat)
  | create (i : Nat) (newId : UUID)
  | count (i : Nat)
  | join (i : Nat)
  | register (i : Nat) (newId : UUID)
  | reread (i : Nat)
  | arrive (i : Nat)
  | enqueue (i : Nat) (accepted : Bool)
  | commit (i : Nat)
  | mark (i : Nat)

/-- The task that the statement belongs to. -/
def TaskAction.task : TaskAction → Nat
  | .load i | .resolve i _ | .search i | .create i _ | .count i | .join i | .register i _
  | .reread i | .arrive i | .enqueue i _ | .commit i | .mark i => i

/-- The phase after the inbox row has been read. -/
def phaseOfRow (env : Env) : Option Inbox → TaskPhase
  | none => .finished
  | some row =>
    if row.signatureOk then
      match decodePayload env row.payload with
      | .error _ => .raised
      | .ok payload => .opened row payload
    else .marking .ignored

/-- The phase after the lookups of the identity. -/
def phaseOfContext (payload : Json) (now : Timestamp) : Except Failure ResolvedContext → TaskPhase
  | .error (.routing _ _) => .marking .ignored
  | .error (.python _) => .marking .failed
  | .ok ctx => .searching ⟨payload, now, ctx⟩

/-- An exception in the transaction: it is rolled back, and the row is marked. -/
def InboxTasks.abort (c : InboxTasks) (i : Nat) : InboxTasks :=
  c.advance i (c.shared.rollback i) (.marking .failed)

/-- `_process_messages` up to the last sequence number. -/
def countStep (c : InboxTasks) (i : Nat) (tx : TaskTx) (sessionId : UUID) : InboxTasks :=
  match payloadMessages tx.payload with
  | .error _ => c.abort i
  | .ok none => c.advance i c.shared (.looping tx ⟨sessionId, none, 0, []⟩ .register)
  | .ok (some messages) =>
    c.advance i c.shared
      (.joining tx sessionId (maxReceivedSeq (c.shared.view i) sessionId) messages)

/-- The journey, and the start of the loop. -/
def joinStep (c : InboxTasks) (i : Nat) (tx : TaskTx) (sessionId : UUID) (seq : Int)
    (messages : Json) : InboxTasks :=
  match messages.iter with
  | .error _ => c.abort i
  | .ok msgs =>
    c.advance i c.shared (.looping tx
      ⟨sessionId, sessionJourney (c.shared.view i) sessionId, seq, msgs⟩ .register)

/-- One message up to `INSERT ... ON CONFLICT DO NOTHING`; a message without media takes no
statement. -/
def registerStep (env : Env) (c : InboxTasks) (i : Nat) (newId : UUID) (tx : TaskTx)
    (frame : LoopFrame) (msg : Json) (rest : List Json) : Option InboxTasks :=
  match parseMedia msg with
  | .error _ => some (c.abort i)
  | .ok none => some (c.advance i c.shared (.looping tx { frame with rest := rest } .register))
  | .ok (some m) =>
    match newFile env newId tx.ctx.tenantId frame.sessionId (frame.seq + 1) m with
    | .error _ => some (c.abort i)
    | .ok file =>
      let next : LoopFrame := { frame with seq := frame.seq + 1, rest := rest }
      match c.shared.files.insertBy i file with
      | .inserted files =>
        some (c.advance i { c.shared with files := files } (.looping tx next (.arrive newId)))
      | .conflict => some (c.advance i c.shared (.looping tx next (.reread m file.wamid)))
      | .waits => none

/-- The id of the file that has the wamid. -/
def rereadStep (c : InboxTasks) (i : Nat) (tx : TaskTx) (frame : LoopFrame) (m : MediaMessage)
    (wamid : String) : InboxTasks :=
  match selectText m.wamid with
  | .error _ => c.abort i
  | .ok _ =>
    match fileOfWamid (c.shared.view i) wamid with
    | some old => c.advance i c.shared (.looping tx frame (.arrive old.id))
    | none => c.abort i

/-- `record_file_arrival` locks the row that it updates until the transaction ends. -/
def arriveStep (c : InboxTasks) (i : Nat) (tx : TaskTx) (frame : LoopFrame) (fileId : UUID) :
    Option InboxTasks :=
  let next : TaskPhase := .looping tx frame (.enqueue fileId)
  if (c.shared.view i).sessions.rows.any (collects frame.sessionId) then
    if c.shared.arrivals.any fun a => a.sessionId == frame.sessionId && a.writer != i then none
    else
      some (c.advance i
        { c.shared with arrivals := c.shared.arrivals ++ [⟨i, frame.sessionId, tx.now⟩] } next)
  else some (c.advance i c.shared next)

/-- The job of a file, stored at once on a connection of its own. -/
def enqueueStep (c : InboxTasks) (i : Nat) (tx : TaskTx) (frame : LoopFrame) (fileId : UUID)
    (accepted : Bool) : InboxTasks :=
  if accepted then
    let job : FetchJob := ⟨fileId, frame.sessionId, tx.ctx.tenantId, tx.ctx.userId,
      tx.ctx.orgUnitId, tx.ctx.locale, frame.journeyId⟩
    c.advance i { c.shared with jobs := c.shared.jobs ++ [.fetchAndStoreFile job] }
      (.looping tx frame .register)
  else c.abort i

/-- The statements of the tasks; a new row has an unused id. -/
def taskStep (env : Env) (c : InboxTasks) : TaskAction → Option InboxTasks
  | .load i =>
    match c.phase i with
    | .waiting | .raised =>
      some (c.advance i c.shared (phaseOfRow env (inboxRow c.shared.rest i)))
    | _ => none
  | .resolve i now =>
    match c.phase i with
    | .opened row payload =>
      some (c.advance i c.shared
        (phaseOfContext payload now
          (resolveFullContext (c.shared.view i) row.phoneNumberId payload)))
    | _ => none
  | .search i =>
    match c.phase i with
    | .searching tx =>
      match openSession (c.shared.view i) tx.ctx.contactId with
      | some s => some (c.advance i c.shared (.counting tx s.id))
      | none => some (c.advance i c.shared (.creating tx))
    | _ => none
  | .create i newId =>
    match c.phase i with
    | .creating tx =>
      if c.shared.sessions.rows.any (·.row.id == newId) then none
      else
        match c.shared.sessions.insertBy i
            (newSession newId tx.now tx.ctx.tenantId tx.ctx.contactId tx.ctx.orgUnitId) with
        | .inserted sessions =>
          some (c.advance i { c.shared with sessions := sessions } (.counting tx newId))
        | .conflict => some (c.abort i)
        | .waits => none
    | _ => none
  | .count i =>
    match c.phase i with
    | .counting tx sessionId => some (countStep c i tx sessionId)
    | _ => none
  | .join i =>
    match c.phase i with
    | .joining tx sessionId seq messages => some (joinStep c i tx sessionId seq messages)
    | _ => none
  | .register i newId =>
    match c.phase i with
    | .looping tx frame .register =>
      match frame.rest with
      | [] => none
      | msg :: rest =>
        if c.shared.files.rows.any (·.row.id == newId) then none
        else registerStep env c i newId tx frame msg rest
    | _ => none
  | .reread i =>
    match c.phase i with
    | .looping tx frame (.reread m wamid) => some (rereadStep c i tx frame m wamid)
    | _ => none
  | .arrive i =>
    match c.phase i with
    | .looping tx frame (.arrive fileId) => arriveStep c i tx frame fileId
    | _ => none
  | .enqueue i accepted =>
    match c.phase i with
    | .looping tx frame (.enqueue fileId) => some (enqueueStep c i tx frame fileId accepted)
    | _ => none
  | .commit i =>
    match c.phase i with
    | .looping _ frame .register =>
      match frame.rest with
      | [] => some (c.advance i (c.shared.commit i) (.marking .done))
      | _ :: _ => none
    | _ => none
  | .mark i =>
    match c.phase i with
    | .marking state =>
      some (c.advance i { c.shared with rest := markInbox c.shared.rest i state } .finished)
    | _ => none

/-- Tasks about to start on a database. -/
def taskStart (db : Db) : InboxTasks :=
  ⟨⟨db, .ofTable db.sessions, .ofTable db.files, [], []⟩, fun _ => .waiting⟩

/-! ## What a statement that is taken needs and does -/

namespace InboxTasks

variable {env : Env} {c c' : InboxTasks} {i : Nat} {now : Timestamp} {newId : UUID}
  {accepted : Bool}

theorem load_inv (h : taskStep env c (.load i) = some c') :
    (c.phase i = .waiting ∨ c.phase i = .raised) ∧
      c' = c.advance i c.shared (phaseOfRow env (inboxRow c.shared.rest i)) := by
  simp only [taskStep] at h
  split at h
  · rename_i hphase
    cases h
    exact ⟨Or.inl hphase, rfl⟩
  · rename_i hphase
    cases h
    exact ⟨Or.inr hphase, rfl⟩
  · contradiction

theorem resolve_inv (h : taskStep env c (.resolve i now) = some c') :
    ∃ row payload, c.phase i = .opened row payload ∧
      c' = c.advance i c.shared (phaseOfContext payload now
        (resolveFullContext (c.shared.view i) row.phoneNumberId payload)) := by
  simp only [taskStep] at h
  split at h
  · rename_i row payload hphase
    cases h
    exact ⟨row, payload, hphase, rfl⟩
  · contradiction

theorem search_inv (h : taskStep env c (.search i) = some c') :
    ∃ tx, c.phase i = .searching tx ∧
      ((∃ s, openSession (c.shared.view i) tx.ctx.contactId = some s ∧
          c' = c.advance i c.shared (.counting tx s.id)) ∨
        openSession (c.shared.view i) tx.ctx.contactId = none ∧
          c' = c.advance i c.shared (.creating tx)) := by
  simp only [taskStep] at h
  split at h
  · rename_i tx hphase
    split at h
    · rename_i s hopen
      cases h
      exact ⟨tx, hphase, Or.inl ⟨s, hopen, rfl⟩⟩
    · rename_i hnone
      cases h
      exact ⟨tx, hphase, Or.inr ⟨hnone, rfl⟩⟩
  · contradiction

theorem create_inv (h : taskStep env c (.create i newId) = some c') :
    ∃ tx, c.phase i = .creating tx ∧ c.shared.sessions.rows.any (·.row.id == newId) = false ∧
      ((∃ sessions, c.shared.sessions.insertBy i (newSession newId tx.now tx.ctx.tenantId
            tx.ctx.contactId tx.ctx.orgUnitId) = .inserted sessions ∧
          c' = c.advance i { c.shared with sessions := sessions } (.counting tx newId)) ∨
        c.shared.sessions.insertBy i (newSession newId tx.now tx.ctx.tenantId
            tx.ctx.contactId tx.ctx.orgUnitId) = .conflict ∧
          c' = c.abort i) := by
  simp only [taskStep] at h
  split at h
  · rename_i tx hphase
    split at h
    · contradiction
    · rename_i hnew
      refine ⟨tx, hphase, by simpa using hnew, ?_⟩
      split at h
      · rename_i sessions hins
        cases h
        exact Or.inl ⟨sessions, hins, rfl⟩
      · rename_i hconflict
        cases h
        exact Or.inr ⟨hconflict, rfl⟩
      · contradiction
  · contradiction

theorem count_inv (h : taskStep env c (.count i) = some c') :
    ∃ tx sessionId, c.phase i = .counting tx sessionId ∧ c' = countStep c i tx sessionId := by
  simp only [taskStep] at h
  split at h
  · rename_i tx sessionId hphase
    cases h
    exact ⟨tx, sessionId, hphase, rfl⟩
  · contradiction

theorem join_inv (h : taskStep env c (.join i) = some c') :
    ∃ tx sessionId seq messages, c.phase i = .joining tx sessionId seq messages ∧
      c' = joinStep c i tx sessionId seq messages := by
  simp only [taskStep] at h
  split at h
  · rename_i tx sessionId seq messages hphase
    cases h
    exact ⟨tx, sessionId, seq, messages, hphase, rfl⟩
  · contradiction

theorem register_inv (h : taskStep env c (.register i newId) = some c') :
    ∃ tx frame msg rest, c.phase i = .looping tx frame .register ∧ frame.rest = msg :: rest ∧
      c.shared.files.rows.any (·.row.id == newId) = false ∧
      registerStep env c i newId tx frame msg rest = some c' := by
  simp only [taskStep] at h
  split at h
  · rename_i tx frame hphase
    split at h
    · contradiction
    · rename_i msg rest hrest
      split at h
      · contradiction
      · rename_i hnew
        exact ⟨tx, frame, msg, rest, hphase, hrest, by simpa using hnew, h⟩
  · contradiction

theorem reread_inv (h : taskStep env c (.reread i) = some c') :
    ∃ tx frame m wamid, c.phase i = .looping tx frame (.reread m wamid) ∧
      c' = rereadStep c i tx frame m wamid := by
  simp only [taskStep] at h
  split at h
  · rename_i tx frame m wamid hphase
    cases h
    exact ⟨tx, frame, m, wamid, hphase, rfl⟩
  · contradiction

theorem arrive_inv (h : taskStep env c (.arrive i) = some c') :
    ∃ tx frame fileId, c.phase i = .looping tx frame (.arrive fileId) ∧
      arriveStep c i tx frame fileId = some c' := by
  simp only [taskStep] at h
  split at h
  · rename_i tx frame fileId hphase
    exact ⟨tx, frame, fileId, hphase, h⟩
  · contradiction

theorem enqueue_inv (h : taskStep env c (.enqueue i accepted) = some c') :
    ∃ tx frame fileId, c.phase i = .looping tx frame (.enqueue fileId) ∧
      c' = enqueueStep c i tx frame fileId accepted := by
  simp only [taskStep] at h
  split at h
  · rename_i tx frame fileId hphase
    cases h
    exact ⟨tx, frame, fileId, hphase, rfl⟩
  · contradiction

theorem commit_inv (h : taskStep env c (.commit i) = some c') :
    ∃ tx frame, c.phase i = .looping tx frame .register ∧ frame.rest = [] ∧
      c' = c.advance i (c.shared.commit i) (.marking .done) := by
  simp only [taskStep] at h
  split at h
  · rename_i tx frame hphase
    split at h
    · rename_i hrest
      cases h
      exact ⟨tx, frame, hphase, hrest, rfl⟩
    · contradiction
  · contradiction

theorem mark_inv (h : taskStep env c (.mark i) = some c') :
    ∃ state, c.phase i = .marking state ∧
      c' = c.advance i { c.shared with rest := markInbox c.shared.rest i state } .finished := by
  simp only [taskStep] at h
  split at h
  · rename_i state hphase
    cases h
    exact ⟨state, hphase, rfl⟩
  · contradiction

end InboxTasks

end WaService
