import WaService.Correctness.Ingestion
import WaService.System.Transactions
import WaService.Wa.Payload

/-!
# Inbox tasks that run again

The queue delivers a job again when the task has not come to its end. An execution registers the
first media message that it can and defers the download, whether or not the file is new: its
statements leave the files, the counters and the queue alone only if it comes to no such message.
-/

namespace WaService

open Python Relational Transition

variable {env : Env} {db db' : Db}

/-! ## The first media message -/

/-- What the loop reads of the first message that it does not pass over. -/
def firstMedia : List Json → Option (Except Error MediaMessage)
  | [] => none
  | msg :: rest =>
    match parseMedia msg with
    | .ok none => firstMedia rest
    | .ok (some m) => some (.ok m)
    | .error e => some (.error e)

/-- The message has a row that can be inserted, or finds the row of its wamid. -/
def Registrable (env : Env) (db : Db) (newId tenantId sessionId : UUID) (receivedSeq : Int)
    (m : MediaMessage) : Prop :=
  ∃ f, newFile env newId tenantId sessionId receivedSeq m = .ok f ∧
    match fileOfWamid db f.wamid with
    | some _ => ∃ text, selectText m.wamid = .ok text
    | none => ∀ a ∈ db.files.rows, clash a f = false

theorem registrable_iff {newId tenantId sessionId : UUID} {receivedSeq : Int} {m : MediaMessage} :
    Registrable env db newId tenantId sessionId receivedSeq m ↔
      ∃ r, registerFile env db newId tenantId sessionId receivedSeq m = .ok r := by
  constructor
  · rintro ⟨f, hf, hrow⟩
    cases hknown : fileOfWamid db f.wamid with
    | some old =>
      rw [hknown] at hrow
      obtain ⟨text, htext⟩ := hrow
      refine ⟨(old.id, db), bind_eq_ok.mpr ⟨f, hf, ?_⟩⟩
      simp only [hknown, htext]
      rfl
    | none =>
      rw [hknown] at hrow
      obtain ⟨files, hins⟩ : ∃ files, db.files.insert? f = some files := by
        cases hins : db.files.insert? f with
        | some files => exact ⟨files, rfl⟩
        | none =>
          obtain ⟨a, ha, hclash⟩ := Table.insert?_eq_none.mp hins
          rw [hrow a ha] at hclash
          cases hclash
      refine ⟨(newId, { db with files := files }), bind_eq_ok.mpr ⟨f, hf, ?_⟩⟩
      simp only [hknown, hins]
      rfl
  · rintro ⟨⟨fileId, db'⟩, hreg⟩
    obtain ⟨f, hf, hcase⟩ := bind_eq_ok.mp hreg
    refine ⟨f, hf, ?_⟩
    cases hknown : fileOfWamid db f.wamid with
    | some old =>
      simp only [hknown] at hcase
      obtain ⟨text, htext, -⟩ := bind_eq_ok.mp hcase
      exact ⟨text, htext⟩
    | none =>
      simp only [hknown] at hcase
      split at hcase
      · exact (Table.insert?_eq_some.mp ‹_›).1
      · cases hcase

/-! ## The message loop -/

/-- The loop gets to its first media message with nothing done. -/
theorem processEach_first (env : Env) (i : LoopInput) (st : LoopState) (msgs : List Json) :
    (firstMedia msgs = none ∧ processEach env i st msgs = (st, none)) ∨
      ∃ msg rest, processEach env i st msgs = processEach env i st (msg :: rest) ∧
        ((∃ e, parseMedia msg = .error e ∧ firstMedia msgs = some (.error e)) ∨
          ∃ m, parseMedia msg = .ok (some m) ∧ firstMedia msgs = some (.ok m)) := by
  induction msgs with
  | nil => exact Or.inl ⟨rfl, rfl⟩
  | cons msg rest ih =>
    cases hparse : parseMedia msg with
    | error e =>
      exact Or.inr ⟨msg, rest, rfl, Or.inl ⟨e, hparse, by simp only [firstMedia, hparse]⟩⟩
    | ok media =>
      cases media with
      | some m =>
        exact Or.inr ⟨msg, rest, rfl, Or.inr ⟨m, hparse, by simp only [firstMedia, hparse]⟩⟩
      | none =>
        have hskip : processEach env i st (msg :: rest) = processEach env i st rest := by
          simp only [processEach, processMessage, hparse]
        have hfirst : firstMedia (msg :: rest) = firstMedia rest := by
          simp only [firstMedia, hparse]
        rw [hskip, hfirst]
        exact ih

/-- The first media message can be registered, and the queue accepts its job. -/
def AcceptsMedia (env : Env) (i : LoopInput) (st : LoopState) (msgs : List Json) : Prop :=
  ∃ m, firstMedia msgs = some (.ok m) ∧
    Registrable env st.db (i.newIds st.used) i.ctx.tenantId i.sessionId (st.seq + 1) m ∧
    i.deferOk st.used = true

/-- A download is deferred, or an exception ends the loop before, or there is no media message. -/
theorem processEach_cases (env : Env) (i : LoopInput) (st : LoopState) (msgs : List Json) :
    (AcceptsMedia env i st msgs ∧ ∃ args rest,
      (processEach env i st msgs).1.jobs = st.jobs ++ .fetchAndStoreFile args :: rest) ∨
    ¬ AcceptsMedia env i st msgs ∧ (processEach env i st msgs = (st, none) ∨
      ∃ st' e, processEach env i st msgs = (st', some e) ∧ st'.jobs = st.jobs) := by
  obtain ⟨hnone, hloop⟩ | ⟨msg, rest, hloop, ⟨e, hparse, hfirst⟩ | ⟨m, hparse, hfirst⟩⟩ :=
    processEach_first env i st msgs
  · refine Or.inr ⟨fun ⟨m, hm, _⟩ => ?_, Or.inl hloop⟩
    rw [hnone] at hm
    cases hm
  · refine Or.inr ⟨fun ⟨m, hm, _⟩ => ?_, Or.inr ⟨st, e, ?_, rfl⟩⟩
    · rw [hfirst] at hm
      cases hm
    · simp only [hloop, processEach, processMessage, hparse]
  · have haccepts : AcceptsMedia env i st msgs ↔
        (∃ r, registerFile env st.db (i.newIds st.used) i.ctx.tenantId i.sessionId (st.seq + 1) m =
          .ok r) ∧ i.deferOk st.used = true := by
      rw [← registrable_iff]
      constructor
      · rintro ⟨m', hm, hrow, hqueue⟩
        rw [hfirst] at hm
        cases hm
        exact ⟨hrow, hqueue⟩
      · exact fun ⟨hrow, hqueue⟩ => ⟨m, hfirst, hrow, hqueue⟩
    rw [haccepts, hloop]
    cases hreg : registerFile env st.db (i.newIds st.used) i.ctx.tenantId i.sessionId (st.seq + 1)
        m with
    | error e =>
      refine Or.inr ⟨?_, Or.inr ⟨st, e, ?_, rfl⟩⟩
      · rintro ⟨⟨r, hr⟩, -⟩
        cases hr
      · simp only [processEach, processMessage, hparse, hreg]
    | ok registered =>
      obtain ⟨fileId, db'⟩ := registered
      cases hqueue : i.deferOk st.used with
      | false =>
        refine Or.inr ⟨fun ⟨_, hq⟩ => Bool.false_ne_true hq,
          Or.inr ⟨⟨recordFileArrival db' i.now i.sessionId 0, st.seq + 1, st.jobs, st.used + 1⟩,
            .valueError, ?_, rfl⟩⟩
        simp only [processEach, processMessage, hparse, hreg, hqueue, Bool.false_eq_true, if_false]
      | true =>
        let next : LoopState := ⟨recordFileArrival db' i.now i.sessionId 0, st.seq + 1,
          st.jobs ++ [.fetchAndStoreFile (fetchJob i fileId)], st.used + 1⟩
        have hstep : processEach env i st (msg :: rest) = processEach env i next rest := by
          simp only [processEach, processMessage, hparse, hreg, hqueue, if_true, next]
        obtain ⟨args, hrest⟩ := processEach_downloads env i next rest
        refine Or.inl ⟨⟨⟨_, rfl⟩, rfl⟩, fetchJob i fileId, args.map .fetchAndStoreFile, ?_⟩
        rw [hstep, hrest, List.append_assoc]
        rfl

/-! ## The transaction -/

/-- The loop over the messages of a payload, for a session. -/
def loopInput (db : Db) (inp : InboxInput) (ctx : ResolvedContext) (sessionId : UUID) : LoopInput :=
  ⟨inp.now, ctx, sessionId, sessionJourney db sessionId, inp.fileIds, inp.deferOk⟩

/-- The state in which the loop starts. -/
def loopStart (db : Db) (sessionId : UUID) : LoopState := ⟨db, maxReceivedSeq db sessionId, [], 0⟩

theorem processMessages_error {db : Db} {inp : InboxInput} {payload : Json} {ctx : ResolvedContext}
    {sessionId : UUID} {e : Error} (h : inboundMessages payload = .error e) :
    processMessages env db inp payload ctx sessionId = ⟨[], .error (.python e)⟩ := by
  unfold inboundMessages at h
  unfold processMessages
  cases hfound : payloadMessages payload with
  | error e' =>
    rw [hfound] at h
    cases h
    rfl
  | ok found =>
    rw [hfound] at h
    cases found with
    | none => cases h
    | some messages =>
      have hiter : messages.iter = .error e := h
      simp only [hiter]

/-- The transaction runs the loop over the messages, and keeps its jobs even if it fails. -/
theorem processMessages_ok {db : Db} {inp : InboxInput} {payload : Json} {ctx : ResolvedContext}
    {sessionId : UUID} {msgs : List Json} (h : inboundMessages payload = .ok msgs) {st : LoopState}
    {e : Option Error}
    (hloop : processEach env (loopInput db inp ctx sessionId) (loopStart db sessionId) msgs =
      (st, e)) :
    processMessages env db inp payload ctx sessionId =
      ⟨st.jobs, (e.map fun e => Except.error (.python e)).getD (.ok st.db)⟩ := by
  unfold inboundMessages at h
  unfold processMessages
  cases hfound : payloadMessages payload with
  | error e' =>
    rw [hfound] at h
    cases h
  | ok found =>
    rw [hfound] at h
    cases found with
    | none =>
      cases h
      cases hloop
      rfl
    | some messages =>
      have hiter : messages.iter = .ok msgs := h
      have hrun : processEach env
          ⟨inp.now, ctx, sessionId, sessionJourney db sessionId, inp.fileIds,
          inp.deferOk⟩ ⟨db, maxReceivedSeq db sessionId, [], 0⟩ msgs = (st, e) := hloop
      simp only [hiter, hrun]
      cases e with
      | none => rfl
      | some e => rfl

/-- The messages of the session lead to a first download, or to nothing. -/
theorem processMessages_cases (env : Env) (db : Db) (inp : InboxInput) (payload : Json)
    (ctx : ResolvedContext) (sessionId : UUID) :
    ((∃ msgs, inboundMessages payload = .ok msgs ∧
        AcceptsMedia env (loopInput db inp ctx sessionId) (loopStart db sessionId) msgs) ∧
      ∃ args rest, (processMessages env db inp payload ctx sessionId).jobs =
        .fetchAndStoreFile args :: rest) ∨
    (∀ msgs, inboundMessages payload = .ok msgs →
        ¬ AcceptsMedia env (loopInput db inp ctx sessionId) (loopStart db sessionId) msgs) ∧
      (processMessages env db inp payload ctx sessionId).jobs = [] ∧
      ∀ db', (processMessages env db inp payload ctx sessionId).outcome = .ok db' → db' = db := by
  cases hmsgs : inboundMessages payload with
  | error e =>
    rw [processMessages_error hmsgs]
    refine Or.inr ⟨fun msgs h => ?_, rfl, fun db' h => ?_⟩
    · cases h
    · cases h
  | ok msgs =>
    simp only [Except.ok.injEq, exists_eq_left', forall_eq']
    obtain ⟨haccepts, args, rest, hjobs⟩ | ⟨hnot, hquiet | ⟨st, e, herror, hjobs⟩⟩ :=
      processEach_cases env (loopInput db inp ctx sessionId) (loopStart db sessionId) msgs
    · rw [processMessages_ok hmsgs (Prod.mk.eta).symm]
      exact Or.inl ⟨haccepts, args, rest, hjobs⟩
    · rw [processMessages_ok hmsgs hquiet]
      exact Or.inr ⟨hnot, rfl, fun db' h => (Except.ok.inj h).symm⟩
    · rw [processMessages_ok hmsgs herror]
      refine Or.inr ⟨hnot, hjobs, fun db' h => ?_⟩
      cases h

/-- The transaction gets to a media message that it can register, and the queue accepts its job. -/
def RegistersMedia (env : Env) (db : Db) (inp : InboxInput) (row : Inbox) (payload : Json) : Prop :=
  ∃ ctx session opened msgs, resolveFullContext db row.phoneNumberId payload = .ok ctx ∧
    getOrCreateSession db inp.sessionId inp.now ctx.tenantId ctx.contactId ctx.orgUnitId =
      .ok (session, opened) ∧
    inboundMessages payload = .ok msgs ∧
    AcceptsMedia env (loopInput opened inp ctx session.id) (loopStart opened session.id) msgs

/-- The counter of a session; a session that does not exist has no files. -/
def fileCount (db : Db) (sessionId : UUID) : Int :=
  ((sessionById db sessionId).map (·.fileCount)).getD 0

/-- An opened session counts no files. -/
theorem fileCount_of_opened {inp : InboxInput} {ctx : ResolvedContext} {s : Session}
    (h : getOrCreateSession db inp.sessionId inp.now ctx.tenantId ctx.contactId ctx.orgUnitId =
      .ok (s, db')) (sessionId : UUID) : fileCount db' sessionId = fileCount db sessionId := by
  obtain ⟨-, -, ⟨-, rfl⟩ | ⟨-, rfl, sessions, hins, rfl⟩⟩ := getOrCreateSession_ok h
  · rfl
  · have hrows := Table.rows_of_insert? hins
    unfold fileCount sessionById
    simp only [hrows, List.find?_append, List.find?_singleton]
    cases db.sessions.rows.find? fun s => s.id == sessionId with
    | some old => rfl
    | none =>
      rw [Option.none_or]
      split
      · rfl
      · rfl

theorem inboxTransaction_cases (env : Env) (db : Db) (inp : InboxInput) (row : Inbox)
    (payload : Json) :
    (RegistersMedia env db inp row payload ∧ ∃ args rest,
      (inboxTransaction env db inp row payload).jobs = .fetchAndStoreFile args :: rest) ∨
    ¬ RegistersMedia env db inp row payload ∧ (inboxTransaction env db inp row payload).jobs = [] ∧
      ∀ db', (inboxTransaction env db inp row payload).outcome = .ok db' →
        db'.files = db.files ∧ ∀ sessionId, fileCount db' sessionId = fileCount db sessionId := by
  cases hctx : resolveFullContext db row.phoneNumberId payload with
  | error e =>
    have hfail : inboxTransaction env db inp row payload = ⟨[], .error e⟩ := by
      simp only [inboxTransaction, hctx]
    rw [hfail]
    refine Or.inr ⟨?_, rfl, fun db' h => ?_⟩
    · rintro ⟨ctx, session, opened, msgs, h, -⟩
      rw [hctx] at h
      cases h
    · cases h
  | ok ctx =>
    cases hsession : getOrCreateSession db inp.sessionId inp.now ctx.tenantId ctx.contactId
        ctx.orgUnitId with
    | error e =>
      have hfail : inboxTransaction env db inp row payload = ⟨[], .error (.python e)⟩ := by
        simp only [inboxTransaction, hctx, hsession]
      rw [hfail]
      refine Or.inr ⟨?_, rfl, fun db' h => ?_⟩
      · rintro ⟨ctx', session, opened, msgs, h, hopened, -⟩
        rw [hctx] at h
        cases h
        rw [hsession] at hopened
        cases hopened
      · cases h
    | ok found =>
      obtain ⟨session, opened⟩ := found
      have hrun : inboxTransaction env db inp row payload =
          processMessages env opened inp payload ctx session.id := by
        simp only [inboxTransaction, hctx, hsession]
      have hreaches : RegistersMedia env db inp row payload ↔ ∃ msgs,
          inboundMessages payload = .ok msgs ∧
          AcceptsMedia env (loopInput opened inp ctx session.id)
            (loopStart opened session.id) msgs := by
        constructor
        · rintro ⟨ctx', session', opened', msgs, h, hopened, hmsgs, haccepts⟩
          rw [hctx] at h
          cases h
          rw [hsession] at hopened
          cases hopened
          exact ⟨msgs, hmsgs, haccepts⟩
        · rintro ⟨msgs, hmsgs, haccepts⟩
          exact ⟨ctx, session, opened, msgs, hctx, hsession, hmsgs, haccepts⟩
      rw [hrun, hreaches]
      obtain ⟨hmedia, args, rest, hjobs⟩ | ⟨hnone, hjobs, hkept⟩ :=
        processMessages_cases env opened inp payload ctx session.id
      · exact Or.inl ⟨hmedia, args, rest, hjobs⟩
      · refine Or.inr ⟨?_, hjobs, fun db' h => ?_⟩
        · rintro ⟨msgs, hmsgs, haccepts⟩
          exact hnone msgs hmsgs haccepts
        obtain rfl := hkept db' h
        refine ⟨?_, fun sessionId => fileCount_of_opened hsession sessionId⟩
        obtain ⟨-, -, ⟨-, rfl⟩ | ⟨-, -, sessions, -, rfl⟩⟩ := getOrCreateSession_ok hsession
        · rfl
        · rfl

/-! ## A transaction of a repeated execution -/

/-- Files with their sessions, the counters of the sessions and the downloads in the queue are the
same. -/
structure SameRegistrations (w w' : World) : Prop where
  files : w'.db.files = w.db.files
  counts : ∀ sessionId, fileCount w'.db sessionId = fileCount w.db sessionId
  downloads : ∀ args, w'.jobs.count (.fetchAndStoreFile args) =
    w.jobs.count (.fetchAndStoreFile args)

theorem commitMessages_same_iff (jobs : List Job) (inp : InboxInput) (row : Inbox)
    (payload : Json) :
    SameRegistrations ⟨db, jobs⟩ ⟨(commitMessages env db inp row payload).db,
        jobs ++ (commitMessages env db inp row payload).jobs⟩ ↔
      ¬ RegistersMedia env db inp row payload := by
  rw [commitMessages_jobs]
  obtain ⟨hmedia, args, rest, hjobs⟩ | ⟨hnone, hjobs, hkept⟩ :=
    inboxTransaction_cases env db inp row payload
  · refine iff_of_false (fun hsame => ?_) fun hnot => hnot hmedia
    have hcount : (jobs ++ (inboxTransaction env db inp row payload).jobs).count
        (.fetchAndStoreFile args) = jobs.count (.fetchAndStoreFile args) := hsame.downloads args
    rw [hjobs, List.count_append, List.count_cons_self] at hcount
    omega
  · refine iff_of_true ?_ hnone
    rw [hjobs, List.append_nil]
    unfold commitMessages
    split
    · rename_i db' hrun
      rw [hrun] at hkept
      obtain ⟨hfiles, hcounts⟩ := hkept db' rfl
      exact ⟨hfiles, hcounts, fun _ => rfl⟩
    · exact ⟨rfl, fun _ => rfl, fun _ => rfl⟩
    · exact ⟨rfl, fun _ => rfl, fun _ => rfl⟩

variable {ι : Type} [DecidableEq ι]

/-- The execution has been through its transaction. -/
def RunPhase.isExecuted : RunPhase → Bool
  | .marking _ | .ended _ => true
  | _ => false

/-- The row has been executed. -/
def Executed (runs : ι → TaskRun) (c : TaskRuns ι) (inboxId : Nat) : Prop :=
  ∃ j inp, runs j = .inbox inboxId inp ∧ (c.phase j).isExecuted = true

/-- The step belongs to a further execution for a row that has been executed. -/
def Repeats (runs : ι → TaskRun) (c : TaskRuns ι) : TxAction ι → Prop
  | .transaction i _ => ∃ inboxId inp, runs i = .inbox inboxId inp ∧ Executed runs c inboxId
  | .other _ => False

/-- A step of a further execution leaves the registrations as they are. -/
def Harmless (env : Env) (runs : ι → TaskRun) (c : TaskRuns ι) (a : TxAction ι) : Prop :=
  Repeats runs c a → ∀ c', txSystemStep env runs c a = some c' →
    SameRegistrations c.shared c'.shared

/-- A further execution gets to no media message that it can register and defer. -/
def FindsNothing (env : Env) (runs : ι → TaskRun) (c : TaskRuns ι) : TxAction ι → Prop
  | .transaction i _ => ∀ inboxId inp row payload, runs i = .inbox inboxId inp →
      Executed runs c inboxId → c.phase i = .opened row payload →
      ¬ RegistersMedia env c.shared.db inp row payload
  | .other _ => True

variable {runs : ι → TaskRun} {c c' : TaskRuns ι}

theorem SameRegistrations.of_files {w w' : World} (hfiles : w'.db.files = w.db.files)
    (hsessions : w'.db.sessions = w.db.sessions)
    (hjobs : ∀ args, w'.jobs.count (.fetchAndStoreFile args) =
      w.jobs.count (.fetchAndStoreFile args)) : SameRegistrations w w' := by
  refine ⟨hfiles, fun sessionId => ?_, hjobs⟩
  unfold fileCount
  rw [sessionById_congr hsessions]

/-- The job that an execution takes is not a download. -/
theorem takeJob_downloads {jobs jobs' : List Job} {inboxId : Nat} {inp : InboxInput}
    {redelivered : Bool} {phase : RunPhase}
    (h : takeJob jobs (.inbox inboxId inp) redelivered phase = some jobs') (args : FetchJob) :
    jobs'.count (.fetchAndStoreFile args) = jobs.count (.fetchAndStoreFile args) := by
  unfold takeJob at h
  split at h
  · split at h
    · cases h
      split
      · rfl
      · exact List.count_erase_of_ne (by simp [TaskRun.execution, Execution.job])
    · cases h
  · cases h
    rfl

/-- A transaction that reads or marks the row registers nothing. -/
theorem txStep_same {inboxId : Nat} {inp : InboxInput} {phase : RunPhase} {t : TxStep}
    (h : txStep env db (.inbox inboxId inp) phase = some t)
    (hphase : ∀ row payload, phase ≠ .opened row payload) :
    t.db.files = db.files ∧ t.db.sessions = db.sessions ∧ t.jobs = [] := by
  cases phase with
  | waiting =>
    cases h
    rw [readInbox_db, readInbox_jobs]
    exact ⟨rfl, rfl, rfl⟩
  | opened row payload => exact absurd rfl (hphase row payload)
  | marking state =>
    cases h
    exact ⟨rfl, rfl, rfl⟩
  | typed | satisfying | counting | nudging | ended => cases h

theorem harmless_iff (a : TxAction ι) : Harmless env runs c a ↔ FindsNothing env runs c a := by
  cases a with
  | other a => exact iff_of_true nofun trivial
  | transaction i redelivered =>
    constructor
    · intro hharmless inboxId inp row payload hrun hexecuted hphase
      rw [← commitMessages_same_iff c.shared.jobs]
      refine hharmless ⟨inboxId, inp, hrun, hexecuted⟩ (c.advance i
        ⟨(commitMessages env c.shared.db inp row payload).db,
          c.shared.jobs ++ (commitMessages env c.shared.db inp row payload).jobs⟩
        (commitMessages env c.shared.db inp row payload).phase) ?_
      simp only [txSystemStep, takeJob, hphase, hrun, txStep]
      rfl
    · rintro hnothing ⟨inboxId, inp, hrun, hexecuted⟩ c' hstep
      obtain ⟨jobs, hjobs, hstep⟩ := Option.bind_eq_some_iff.mp hstep
      obtain ⟨t, ht, hstep⟩ := Option.bind_eq_some_iff.mp hstep
      cases hstep
      rw [hrun] at hjobs ht
      by_cases hopened : ∃ row payload, c.phase i = .opened row payload
      · obtain ⟨row, payload, hphase⟩ := hopened
        rw [hphase] at hjobs ht
        cases hjobs
        cases ht
        exact (commitMessages_same_iff c.shared.jobs inp row payload).mpr
          (hnothing inboxId inp row payload hrun hexecuted hphase)
      · obtain ⟨hfiles, hsessions, hnone⟩ :=
          txStep_same ht fun row payload hphase => hopened ⟨row, payload, hphase⟩
        refine .of_files hfiles hsessions fun args => ?_
        rw [hnone, List.append_nil]
        exact takeJob_downloads hjobs args

/-- Over every run, each further execution for a row leaves files, counters and downloads as they
are if and only if each finds nothing to register. -/
theorem repetitions_harmless_iff (env : Env) (runs : ι → TaskRun) (start : TaskRuns ι)
    (as : List (TxAction ι)) :
    Meets (txSystemStep env runs) (Harmless env runs) start as ↔
      Meets (txSystemStep env runs) (FindsNothing env runs) start as :=
  ⟨fun h => h.imp fun _ a => (harmless_iff a).mp, fun h => h.imp fun _ a => (harmless_iff a).mpr⟩

/-! ## A photo that is counted twice -/

/-- A photo of the consultant, as it waits in the inbox. -/
def waitingRow : Inbox :=
  ⟨1, some "w1", some "PN1", webhookBody [entryOf [photoChange ["w1"]]], true, .pending⟩

/-- The row is the only one, and its job is in the queue. -/
def waitingPhoto : World :=
  ⟨{ boundDb with inbox := .singleton waitingRow }, [.processInboxRow 1]⟩

/-- Two executions of its task, with generated ids of their own. -/
def bothRuns : Nat → TaskRun
  | 0 => .inbox 1 ⟨0, 7, fun n => 100 + BitVec.ofNat 128 n, fun _ => true⟩
  | _ => .inbox 1 ⟨5, 8, fun n => 200 + BitVec.ofNat 128 n, fun _ => true⟩

/-- The execution reads the row; the queue keeps its job if it delivers it again. -/
def readStep (i : Nat) (redelivered : Bool) : TxAction Nat := .transaction i redelivered

/-- The transactions of the execution up to its end. -/
def restSteps (i : Nat) : List (TxAction Nat) :=
  [.transaction i false, .transaction i false]

/-- The download of the photo. -/
def photoDownload : FetchJob := ⟨100, 7, 2, 6, 3, .en, some 9⟩

/-- The counter of the consultant's session, and the queue. -/
def photoCounts (c : TaskRuns Nat) : Int × List Job := (fileCount c.shared.db 7, c.shared.jobs)

/-- The first execution from its start to its end. -/
def onceExecuted : Option (TaskRuns Nat) :=
  run (txSystemStep (.ofRecording "s" []) bothRuns) (taskRunsStart waitingPhoto)
    (readStep 0 true :: restSteps 0)

/-- The second execution finds the file, but counts it again and defers its download again. -/
theorem photo_counted_twice :
    ∃ once twice, onceExecuted = some once ∧
      run (txSystemStep (.ofRecording "s" []) bothRuns) once (readStep 1 false :: restSteps 1) =
        some twice ∧
      photoCounts once = (1, [.processInboxRow 1, .fetchAndStoreFile photoDownload]) ∧
      photoCounts twice =
        (2, [.fetchAndStoreFile photoDownload, .fetchAndStoreFile photoDownload]) ∧
      ¬ Meets (txSystemStep (.ofRecording "s" []) bothRuns)
        (Harmless (.ofRecording "s" []) bothRuns)
        once (readStep 1 false :: restSteps 1) := by
  have hview : (onceExecuted.bind fun once =>
      (txSystemStep (.ofRecording "s" []) bothRuns once (readStep 1 false)).bind fun opened =>
      (txSystemStep (.ofRecording "s" []) bothRuns opened
        (.transaction 1 false)).bind fun counted =>
      (txSystemStep (.ofRecording "s" []) bothRuns counted (.transaction 1 false)).map fun twice =>
        (((opened.phase 0).isExecuted, fileCount opened.shared.db 7, fileCount counted.shared.db 7),
          photoCounts once, photoCounts twice)) =
      some ((true, 1, 2), (1, [.processInboxRow 1, .fetchAndStoreFile photoDownload]),
        (2, [.fetchAndStoreFile photoDownload, .fetchAndStoreFile photoDownload])) := by decide
  obtain ⟨once, honce, hrest⟩ := Option.bind_eq_some_iff.mp hview
  obtain ⟨opened, hopened, hrest⟩ := Option.bind_eq_some_iff.mp hrest
  obtain ⟨counted, hcounted, hrest⟩ := Option.bind_eq_some_iff.mp hrest
  obtain ⟨twice, htwice, hfacts⟩ := Option.map_eq_some_iff.mp hrest
  simp only [Prod.mk.injEq] at hfacts
  obtain ⟨⟨hexecuted, hone, htwo⟩, hbefore, hafter⟩ := hfacts
  refine ⟨once, twice, honce, ?_, hbefore, hafter, fun hmeets => ?_⟩
  · exact run_cons.mpr ⟨opened, hopened, run_cons.mpr ⟨counted, hcounted,
      run_cons.mpr ⟨twice, htwice, rfl⟩⟩⟩
  · have hharmless := (hmeets.2 opened hopened).1
    have hsame := hharmless ⟨1, _, rfl, 0, _, rfl, hexecuted⟩ counted hcounted
    have hcount := hsame.counts 7
    rw [hone, htwo] at hcount
    cases hcount

end WaService
