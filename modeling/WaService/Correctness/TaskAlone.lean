import WaService.Correctness.Ingestion
import WaService.System.InboxTasks

/-!
# A task that runs alone

The statements of one inbox task, run without others between them, leave what
`process_inbox_row` leaves as a whole: the same database, the same jobs, and an
exception in the same cases.
-/

namespace WaService

open Python Relational Transition

variable {env : Env} {start db : Db} {c c' : InboxTasks} {s : TaskShared} {i : Nat}
  {jobs : List Job}

/-! ## The transaction of a task alone -/

/-- An arrival, written to a table of sessions. -/
def arriveIn (sessions : Table Session) (a : PendingArrival) : Table Session :=
  sessions.update (collects a.sessionId) (Session.arrive a.now 0) a.keeps

/-- The open transaction of the only task has turned `start` into `db`. -/
structure Alone (i : Nat) (start : Db) (s : TaskShared) (db : Db) (jobs : List Job) : Prop where
  rest : s.rest = start
  others : db = { start with sessions := db.sessions, files := db.files }
  files : s.files.visible i = db.files
  filesOnly : Heap.OnlyBy i s.files
  filesCommitted : s.files.committed = start.files
  /-- Arrivals are written to the sessions at the end. -/
  sessions : s.arrivals.foldl arriveIn (s.sessions.visible i) = db.sessions
  sessionsOnly : Heap.OnlyBy i s.sessions
  sessionsCommitted : s.sessions.committed = start.sessions
  writer : ∀ a ∈ s.arrivals, a.writer = i
  jobs : s.jobs = jobs

theorem alone_start (db : Db) (i : Nat) : Alone i db (taskStart db).shared db [] where
  rest := rfl
  others := rfl
  files := Heap.visible_ofTable db.files i
  filesOnly := Heap.onlyBy_ofTable db.files i
  filesCommitted := Heap.committed_ofTable db.files
  sessions := Heap.visible_ofTable db.sessions i
  sessionsOnly := Heap.onlyBy_ofTable db.sessions i
  sessionsCommitted := Heap.committed_ofTable db.sessions
  writer _ ha := absurd ha List.not_mem_nil
  jobs := rfl

/-- A transaction that has ended with the given committed database. -/
structure Ended (start : Db) (s : TaskShared) (db : Db) (jobs : List Job) : Prop where
  rest : s.rest = start
  committed : s.committed = db
  jobs : s.jobs = jobs

theorem Alone.rollback (h : Alone i start s db jobs) : Ended start (s.rollback i) start jobs where
  rest := h.rest
  committed := by
    simp only [TaskShared.committed, TaskShared.rollback, Heap.committed_rollback,
      h.filesCommitted, h.sessionsCommitted, h.rest]
  jobs := h.jobs

/-- The arrivals reach the committed sessions. -/
theorem committed_writeArrivals (arrivals : List PendingArrival) (sessions : Heap Nat Session) :
    (arrivals.foldl TaskShared.writeArrival sessions).committed =
      arrivals.foldl arriveIn sessions.committed := by
  induction arrivals generalizing sessions with
  | nil => rfl
  | cons a rest ih =>
    have hone : (TaskShared.writeArrival sessions a).committed = arriveIn sessions.committed a :=
      Heap.committed_updateRows _ sessions
    rw [List.foldl_cons, ih, hone, List.foldl_cons]

theorem Alone.commit (h : Alone i start s db jobs) : Ended start (s.commit i) db jobs where
  rest := h.rest
  committed := by
    have hown : s.arrivals.filter (·.writer == i) = s.arrivals :=
      List.filter_eq_self.mpr fun a ha => by simp [h.writer a ha]
    have hsessions : (s.commit i).sessions.committed = db.sessions := by
      simp only [TaskShared.commit, hown, committed_writeArrivals, Heap.committed_commit]
      exact h.sessions
    have hfiles : (s.commit i).files.committed = db.files :=
      (Heap.committed_commit s.files i).trans h.files
    rw [h.others]
    unfold TaskShared.committed
    rw [hsessions, hfiles, ← h.rest]
    rfl
  jobs := h.jobs

/-- The transaction was rolled back and the row is to be marked failed. -/
def Aborted (i : Nat) (start : Db) (jobs : List Job) (c : InboxTasks) : Prop :=
  c.phase i = .marking .failed ∧ Ended start c.shared start jobs

theorem Alone.abort (h : Alone i start c.shared db jobs) : Aborted i start jobs (c.abort i) :=
  ⟨Processes.advance_phase_self, h.rollback⟩

/-! ## One message -/

/-- The task is in its loop. -/
def InLoop (i : Nat) (payload : Json) (l : LoopInput) (seq : Int) (rest : List Json)
    (stage : LoopStage) (c : InboxTasks) : Prop :=
  c.phase i =
    .looping ⟨payload, l.now, l.ctx⟩ ⟨l.sessionId, l.journeyId, seq, rest⟩ stage

variable {payload : Json} {l : LoopInput} {seq : Int} {rest : List Json} {fileId : UUID}

/-- The job of a file, accepted or refused. -/
theorem enqueue_alone (h : Alone i start c.shared db jobs)
    (hphase : InLoop i payload l seq rest (.enqueue fileId) c) (accepted : Bool) :
    Reaches (taskStep env) c fun c' =>
      if accepted then
        Alone i start c'.shared db (jobs ++ [.fetchAndStoreFile (fetchJob l fileId)]) ∧
          InLoop i payload l seq rest .register c'
      else Aborted i start jobs c' := by
  unfold InLoop at hphase
  have hstep : taskStep env c (.enqueue i accepted) = some (enqueueStep c i
      ⟨payload, l.now, l.ctx⟩ ⟨l.sessionId, l.journeyId, seq, rest⟩ fileId accepted) := by
    simp only [taskStep, hphase]
  refine .after hstep (.here ?_)
  cases accepted with
  | true =>
    simp only [enqueueStep, if_true]
    exact ⟨{ h with jobs := by rw [← h.jobs]; rfl }, Processes.advance_phase_self⟩
  | false => exact h.abort

theorem collects_arrive (sessionId : UUID) (now : Timestamp) (bytes : Int) (r : Session) :
    collects sessionId (r.arrive now bytes) = collects sessionId r := rfl

/-- Pending arrivals do not change which sessions an arrival updates. -/
theorem any_collects_foldl (sessionId : UUID) (arrivals : List PendingArrival)
    (sessions : Table Session) :
    (arrivals.foldl arriveIn sessions).rows.any (collects sessionId) =
      sessions.rows.any (collects sessionId) := by
  induction arrivals generalizing sessions with
  | nil => rfl
  | cons a rest ih =>
    rw [List.foldl_cons, ih]
    have hpatch : ∀ r, collects sessionId
        (patch (collects a.sessionId) (Session.arrive a.now 0) r) = collects sessionId r :=
      patch_proj fun r _ => collects_arrive sessionId a.now 0 r
    simp only [arriveIn, Table.rows_update, List.any_map]
    exact congrArg sessions.rows.any (funext hpatch)

theorem others_sessions (h : db = { start with sessions := db.sessions, files := db.files })
    (sessions : Table Session) :
    { db with sessions := sessions } =
      { start with sessions := sessions, files := db.files } := by rw [h]

/-- `record_file_arrival` without other tasks. -/
theorem arrive_alone (h : Alone i start c.shared db jobs)
    (hphase : InLoop i payload l seq rest (.arrive fileId) c) :
    Reaches (taskStep env) c fun c' =>
      Alone i start c'.shared (recordFileArrival db l.now l.sessionId 0) jobs ∧
        InLoop i payload l seq rest (.enqueue fileId) c' := by
  unfold InLoop at hphase
  have hstep : taskStep env c (.arrive i) = arriveStep c i
      ⟨payload, l.now, l.ctx⟩ ⟨l.sessionId, l.journeyId, seq, rest⟩ fileId := by
    simp only [taskStep, hphase]
  have hsame : (c.shared.view i).sessions.rows.any (collects l.sessionId) =
      db.sessions.rows.any (collects l.sessionId) := by
    rw [← h.sessions, any_collects_foldl]
    rfl
  have hunlocked : (c.shared.arrivals.any fun a =>
      a.sessionId == l.sessionId && a.writer != i) = false := by
    rw [List.any_eq_false]
    intro a ha
    simp [h.writer a ha]
  cases hany : db.sessions.rows.any (collects l.sessionId) with
  | true =>
    simp only [arriveStep, hsame, hany, hunlocked, if_true] at hstep
    refine .after hstep (.here ⟨?_, Processes.advance_phase_self⟩)
    exact {
      h with
      others := others_sessions h.others _
      sessions := by
        simp only [Processes.advance_shared, List.foldl_append, List.foldl_cons, List.foldl_nil,
          h.sessions]
        rfl
      writer := by
        intro a ha
        rcases List.mem_append.mp ha with ha | ha
        · exact h.writer a ha
        · rw [List.mem_singleton.mp ha] }
  | false =>
    simp only [arriveStep, hsame, hany] at hstep
    have hkept : recordFileArrival db l.now l.sessionId 0 = db := by
      have hnone : ∀ r ∈ db.sessions.rows, collects l.sessionId r = false :=
        fun r hr => by simpa using List.any_eq_false.mp hany r hr
      unfold recordFileArrival Db.updateSessions
      rw [Table.update_of_none hnone]
    rw [hkept]
    exact .after hstep (.here ⟨h, Processes.advance_phase_self⟩)

/-- The task stands where a pass of the loop ends. -/
def Passed (i : Nat) (start : Db) (payload : Json) (l : LoopInput) (rest : List Json)
    (c : InboxTasks) : LoopState × Option Error → Prop
  | (st, none) => Alone i start c.shared st.db st.jobs ∧ InLoop i payload l st.seq rest .register c
  | (st, some _) => Aborted i start st.jobs c

/-- The rest of a pass once the file has its id. -/
theorem finish_alone (h : Alone i start c.shared db jobs)
    (hphase : InLoop i payload l seq rest (.arrive fileId) c) (accepted : Bool) (used : Nat) :
    Reaches (taskStep env) c fun c' => Passed i start payload l rest c'
      (if accepted then
        (⟨recordFileArrival db l.now l.sessionId 0, seq,
          jobs ++ [.fetchAndStoreFile (fetchJob l fileId)], used⟩, none)
      else (⟨recordFileArrival db l.now l.sessionId 0, seq, jobs, used⟩, some .valueError)) := by
  apply (arrive_alone h hphase).bind
  intro c₁ hc
  cases accepted with
  | true => exact enqueue_alone hc.1 hc.2 true
  | false => exact enqueue_alone hc.1 hc.2 false

/-- A new id is the id of no row in the heap. -/
theorem Alone.unused (h : Alone i start s db jobs) {newId : UUID}
    (hfresh : ∀ f ∈ db.files.rows, f.id ≠ newId) :
    (s.files.rows.any (·.row.id == newId)) = false := by
  rw [List.any_eq_false]
  intro v hv
  have hrow : v.row ∈ db.files.rows := by
    rw [← h.files, h.filesOnly.visible_rows]
    exact List.mem_map_of_mem hv
  simpa using hfresh v.row hrow

/-- The file is inserted. -/
theorem Alone.insert (h : Alone i start s db jobs) {f : File} {files : Table File}
    (hins : db.files.insert? f = some files) :
    ∃ heap, s.files.insertBy i f = .inserted heap ∧
      Alone i start { s with files := heap } { db with files := files } jobs := by
  rw [← h.files] at hins
  obtain ⟨heap, hheap, hvisible⟩ := h.filesOnly.insertBy_of_some hins
  refine ⟨heap, hheap, ?_⟩
  exact {
    h with
    others := by rw [h.others]
    files := hvisible
    filesOnly := h.filesOnly.insertBy hheap
    filesCommitted := (Heap.committed_insertBy hheap).trans h.filesCommitted }

/-- The lookup of the row that has the wamid. -/
theorem rereadStep_alone (env : Env) {m : MediaMessage} {wamid : String} {old : File}
    (h : Alone i start c.shared db jobs)
    (hphase : InLoop i payload l seq rest (.reread m wamid) c)
    (hold : fileOfWamid db wamid = some old) :
    match selectText m.wamid with
    | .error _ => taskStep env c (.reread i) = some (c.abort i)
    | .ok _ => taskStep env c (.reread i) = some (c.advance i c.shared
        (.looping ⟨payload, l.now, l.ctx⟩ ⟨l.sessionId, l.journeyId, seq, rest⟩
          (.arrive old.id))) := by
  unfold InLoop at hphase
  have hview : fileOfWamid (c.shared.view i) wamid = some old := by
    rw [← hold]
    unfold fileOfWamid
    rw [← h.files]
    rfl
  cases hselect : selectText m.wamid with
  | error e => simp only [taskStep, hphase, rereadStep, hselect]
  | ok text => simp only [taskStep, hphase, rereadStep, hselect, hview]

/-- One message, without other tasks, as `processMessage` says. -/
theorem message_alone {st : LoopState} {msg : Json}
    (hfresh : ∀ f ∈ st.db.files.rows, f.id ≠ l.newIds st.used)
    (h : Alone i start c.shared st.db st.jobs)
    (hphase : InLoop i payload l st.seq (msg :: rest) .register c) :
    Reaches (taskStep env) c fun c' =>
      Passed i start payload l rest c' (processMessage env l st msg) := by
  unfold InLoop at hphase
  have hregister : taskStep env c (.register i (l.newIds st.used)) =
      registerStep env c i (l.newIds st.used) ⟨payload, l.now, l.ctx⟩
        ⟨l.sessionId, l.journeyId, st.seq, msg :: rest⟩ msg rest := by
    simp only [taskStep, hphase, h.unused hfresh]
    rfl
  unfold processMessage
  unfold registerStep at hregister
  cases hparse : parseMedia msg with
  | error e =>
    rw [hparse] at hregister
    exact .after hregister (.here h.abort)
  | ok media =>
    rw [hparse] at hregister
    cases media with
    | none => exact .after hregister (.here ⟨h, Processes.advance_phase_self⟩)
    | some m =>
      simp only at hregister ⊢
      unfold registerFile
      cases hfile : newFile env (l.newIds st.used) l.ctx.tenantId l.sessionId (st.seq + 1) m with
      | error e =>
        simp only [hfile] at hregister
        exact .after hregister (.here h.abort)
      | ok file =>
        simp only [hfile] at hregister
        obtain ⟨hid, -⟩ := newFile_ok hfile
        simp only [bind, Except.bind]
        cases hold : fileOfWamid st.db file.wamid with
        | none =>
          have hwamid : file.wamid ∉ fileWamids st.db := fileOfWamid_eq_none.mp hold
          obtain ⟨files, hins⟩ := insert_file file (by rwa [hid]) hwamid
          obtain ⟨heap, hheap, halone⟩ := h.insert hins
          simp only [hheap] at hregister
          simp only [hins, pure, Except.pure]
          exact .after hregister (finish_alone halone Processes.advance_phase_self _ _)
        | some old =>
          -- The row with the wamid is in the way of the insert, and its id is looked up.
          have hmem : old ∈ st.db.files.rows := List.mem_of_find?_eq_some hold
          have hsame : old.wamid = file.wamid := by simpa using List.find?_some hold
          have hclash : clash old file = true := by simp [clash, sameKey, hsame]
          have hconflict : c.shared.files.insertBy i file = .conflict :=
            Heap.conflict_of_clash (by rw [h.files]; exact hmem) hclash
          simp only [hconflict] at hregister
          refine .after hregister ?_
          let found : InboxTasks := c.advance i c.shared (.looping ⟨payload, l.now, l.ctx⟩
            ⟨l.sessionId, l.journeyId, st.seq + 1, rest⟩ (.reread m file.wamid))
          have halone : Alone i start found.shared st.db st.jobs := h
          have hreread := rereadStep_alone env halone Processes.advance_phase_self hold
          cases hselect : selectText m.wamid with
          | error e =>
            rw [hselect] at hreread
            exact .after hreread (.here halone.abort)
          | ok text =>
            rw [hselect] at hreread
            let read : InboxTasks := found.advance i found.shared (.looping
              ⟨payload, l.now, l.ctx⟩ ⟨l.sessionId, l.journeyId, st.seq + 1, rest⟩ (.arrive old.id))
            have hread : Alone i start read.shared st.db st.jobs := h
            simp only [pure, Except.pure]
            exact .after hreread (finish_alone hread Processes.advance_phase_self _ _)

/-! ## The loop and the transaction -/

/-- A pass without an error leaves the ids after its own unused. -/
theorem processMessage_ids {st st' : LoopState} {msg : Json} {count : Nat}
    (hids : FreshIds st.db l.newIds st.used count) (hused : st.used < count)
    (h : processMessage env l st msg = (st', none)) :
    FreshIds st'.db l.newIds st'.used count ∧ st'.used ≤ st.used + 1 := by
  unfold processMessage at h
  split at h
  · cases h
  · cases h
    exact ⟨hids, Nat.le_succ _⟩
  · split at h
    · cases h
    · rename_i fileId db hreg
      simp only at h
      split at h
      · cases h
        refine ⟨?_, le_rfl⟩
        obtain ⟨f, hf, hcase⟩ := registerFile_ok hreg
        rcases hcase with ⟨old, hold, -, rfl⟩ | ⟨-, files, hins, -, rfl⟩
        · exact hids.later rfl (Nat.le_succ _)
        · obtain ⟨hid, -⟩ := newFile_ok hf
          exact hids.next (Table.rows_of_insert? hins) hid hused
      · cases h

/-- The loop, without other tasks, as `processEach` says. -/
theorem loop_alone {st : LoopState} {msgs : List Json} {count : Nat}
    (hids : FreshIds st.db l.newIds st.used count) (hcount : st.used + msgs.length ≤ count)
    (h : Alone i start c.shared st.db st.jobs)
    (hphase : InLoop i payload l st.seq msgs .register c) :
    Reaches (taskStep env) c fun c' =>
      Passed i start payload l [] c' (processEach env l st msgs) := by
  induction msgs generalizing st c with
  | nil => exact .here ⟨h, hphase⟩
  | cons msg rest ih =>
    rw [List.length_cons] at hcount
    have hfirst : Reaches (taskStep env) c fun c' =>
        Passed i start payload l rest c' (processMessage env l st msg) :=
      message_alone (hids.unused st.used le_rfl (by omega)) h hphase
    unfold processEach
    apply hfirst.bind
    intro c₁ hc
    cases hone : processMessage env l st msg with
    | mk st₁ error =>
      rw [hone] at hc
      cases error with
      | some e => exact .here hc
      | none =>
        obtain ⟨hids₁, hused⟩ := processMessage_ids hids (by omega) hone
        exact ih hids₁ (by omega) hc.1 hc.2

/-- How the task stands when its transaction has ended. -/
def TxEnded (i : Nat) (start : Db) (c : InboxTasks) (r : TxResult) : Prop :=
  match r.outcome with
  | .ok db => c.phase i = .marking .done ∧ Ended start c.shared db r.jobs
  | .error (.routing _ _) => c.phase i = .marking .ignored ∧ Ended start c.shared start r.jobs
  | .error (.python _) => c.phase i = .marking .failed ∧ Ended start c.shared start r.jobs

/-- The commit after the last message. -/
theorem commit_alone (h : Alone i start c.shared db jobs)
    (hphase : InLoop i payload l seq [] .register c) :
    Reaches (taskStep env) c fun c' => TxEnded i start c' ⟨jobs, .ok db⟩ := by
  unfold InLoop at hphase
  have hstep : taskStep env c (.commit i) =
      some (c.advance i (c.shared.commit i) (.marking .done)) := by
    simp only [taskStep, hphase]
  exact .after hstep (.here ⟨Processes.advance_phase_self, h.commit⟩)

/-- Before the first arrival the task sees the database that it has made. -/
theorem Alone.view (h : Alone i start s db jobs) (harrivals : s.arrivals = []) : s.view i = db := by
  have hsessions : s.sessions.visible i = db.sessions := by
    rw [← h.sessions, harrivals]
    rfl
  rw [h.others]
  unfold TaskShared.view
  rw [hsessions, h.files, h.rest]

theorem abort_txEnded (h : Alone i start c.shared db jobs) (e : Error) :
    TxEnded i start (c.abort i) ⟨jobs, .error (.python e)⟩ :=
  h.abort

variable {inp : InboxInput} {ctx : ResolvedContext} {sessionId : UUID}

/-- The messages of a payload, without other tasks, as `processMessages` says. -/
theorem messages_alone (h : Alone i start c.shared db []) (harrivals : c.shared.arrivals = [])
    (hids : FreshIds db inp.fileIds 0 (messageCount payload))
    (hphase : c.phase i = .counting ⟨payload, inp.now, ctx⟩ sessionId) :
    Reaches (taskStep env) c fun c' =>
      TxEnded i start c' (processMessages env db inp payload ctx sessionId) := by
  have hcount : taskStep env c (.count i) =
      some (countStep c i ⟨payload, inp.now, ctx⟩ sessionId) := by
    simp only [taskStep, hphase]
  unfold countStep at hcount
  rw [h.view harrivals] at hcount
  unfold processMessages
  cases hfound : payloadMessages payload with
  | error e =>
    rw [hfound] at hcount
    exact .after hcount (.here (abort_txEnded h e))
  | ok found =>
    rw [hfound] at hcount
    cases found with
    | none =>
      let l : LoopInput := ⟨inp.now, ctx, sessionId, none, inp.fileIds, inp.deferOk⟩
      let looping : InboxTasks := c.advance i c.shared
        (.looping ⟨payload, inp.now, ctx⟩ ⟨sessionId, none, 0, []⟩ .register)
      have hloop : InLoop i payload l 0 [] .register looping := Processes.advance_phase_self
      have halone : Alone i start looping.shared db [] := h
      exact .after hcount (commit_alone halone hloop)
    | some messages =>
      let joining : InboxTasks := c.advance i c.shared
        (.joining ⟨payload, inp.now, ctx⟩ sessionId (maxReceivedSeq db sessionId) messages)
      have halone : Alone i start joining.shared db [] := h
      have hjoining : joining.phase i =
          .joining ⟨payload, inp.now, ctx⟩ sessionId (maxReceivedSeq db sessionId) messages :=
        Processes.advance_phase_self
      have hjoin : taskStep env joining (.join i) = some (joinStep joining i
          ⟨payload, inp.now, ctx⟩ sessionId (maxReceivedSeq db sessionId) messages) := by
        simp only [taskStep, hjoining]
      unfold joinStep at hjoin
      rw [halone.view harrivals] at hjoin
      refine .after hcount ?_
      simp only
      cases hiter : messages.iter with
      | error e =>
        rw [hiter] at hjoin
        exact .after hjoin (.here (abort_txEnded halone e))
      | ok msgs =>
        rw [hiter] at hjoin
        let l : LoopInput :=
          ⟨inp.now, ctx, sessionId, sessionJourney db sessionId, inp.fileIds, inp.deferOk⟩
        let st : LoopState := ⟨db, maxReceivedSeq db sessionId, [], 0⟩
        have hmessages : messageCount payload = msgs.length := by
          simp only [messageCount, inboundMessages, hfound, bind, Except.bind, hiter]
        have hloop : Reaches (taskStep env) (joining.advance i joining.shared
              (.looping ⟨payload, inp.now, ctx⟩
                ⟨sessionId, sessionJourney db sessionId, maxReceivedSeq db sessionId, msgs⟩
                .register))
            fun c' => Passed i start payload l [] c' (processEach env l st msgs) :=
          loop_alone (by rw [← hmessages]; exact hids) (Nat.zero_add msgs.length).le halone
            Processes.advance_phase_self
        refine .after hjoin (hloop.bind fun c₁ hc => ?_)
        simp only
        cases hend : processEach env l st msgs with
        | mk st₁ error =>
          rw [hend] at hc
          cases error with
          | none => exact commit_alone hc.1 hc.2
          | some e => exact .here hc

/-- Nothing is committed before the end. -/
theorem Alone.uncommitted (h : Alone i start s db jobs) : Ended start s start jobs where
  rest := h.rest
  committed := by
    unfold TaskShared.committed
    rw [h.filesCommitted, h.sessionsCommitted, h.rest]
  jobs := h.jobs

/-- The session is inserted. -/
theorem Alone.insertSession (h : Alone i start s db jobs) (harrivals : s.arrivals = [])
    {r : Session} {sessions : Table Session} (hins : db.sessions.insert? r = some sessions) :
    ∃ heap, s.sessions.insertBy i r = .inserted heap ∧
      Alone i start { s with sessions := heap } { db with sessions := sessions } jobs := by
  have hvisible : s.sessions.visible i = db.sessions := by
    rw [← h.sessions, harrivals]
    rfl
  rw [← hvisible] at hins
  obtain ⟨heap, hheap, hnew⟩ := h.sessionsOnly.insertBy_of_some hins
  refine ⟨heap, hheap, ?_⟩
  exact {
    h with
    others := others_sessions h.others sessions
    sessions := by
      simp only [harrivals, List.foldl_nil]
      exact hnew
    sessionsOnly := h.sessionsOnly.insertBy hheap
    sessionsCommitted := (Heap.committed_insertBy hheap).trans h.sessionsCommitted }

/-- The session of a contact, without other tasks, as `getOrCreateSession` says. -/
theorem session_alone (h : Alone i start c.shared start []) (harrivals : c.shared.arrivals = [])
    (hfresh : ∀ r ∈ start.sessions.rows, r.id ≠ inp.sessionId)
    (hphase : c.phase i = .searching ⟨payload, inp.now, ctx⟩) :
    Reaches (taskStep env) c fun c' =>
      match getOrCreateSession start inp.sessionId inp.now ctx.tenantId ctx.contactId
        ctx.orgUnitId with
      | .error _ => Aborted i start [] c'
      | .ok (r, db) => Alone i start c'.shared db [] ∧ c'.shared.arrivals = [] ∧
          db.files = start.files ∧ c'.phase i = .counting ⟨payload, inp.now, ctx⟩ r.id := by
  have hview : c.shared.view i = start := h.view harrivals
  unfold getOrCreateSession
  cases hopen : openSession start ctx.contactId with
  | some r =>
    have hsearch : taskStep env c (.search i) = some
        (c.advance i c.shared (.counting ⟨payload, inp.now, ctx⟩ r.id)) := by
      simp only [taskStep, hphase, hview, hopen]
    exact .after hsearch (.here ⟨h, harrivals, rfl, Processes.advance_phase_self⟩)
  | none =>
    let creating : InboxTasks := c.advance i c.shared (.creating ⟨payload, inp.now, ctx⟩)
    have hsearch : taskStep env c (.search i) = some creating := by
      simp only [taskStep, hphase, hview, hopen]
      rfl
    have hcreating : creating.phase i = .creating ⟨payload, inp.now, ctx⟩ :=
      Processes.advance_phase_self
    have hshared : creating.shared = c.shared := rfl
    have hvisible : c.shared.sessions.visible i = start.sessions := congrArg Db.sessions hview
    have hunused : (c.shared.sessions.rows.any (·.row.id == inp.sessionId)) = false := by
      rw [List.any_eq_false]
      intro v hv
      have hrow : v.row ∈ start.sessions.rows := by
        rw [← hvisible, h.sessionsOnly.visible_rows]
        exact List.mem_map_of_mem hv
      simpa using hfresh v.row hrow
    refine .after hsearch ?_
    simp only
    cases hins : start.sessions.insert?
        (newSession inp.sessionId inp.now ctx.tenantId ctx.contactId ctx.orgUnitId) with
    | some sessions =>
      obtain ⟨heap, hheap, halone⟩ := h.insertSession harrivals hins
      have hcreate : taskStep env creating (.create i inp.sessionId) = some
          (creating.advance i { c.shared with sessions := heap }
            (.counting ⟨payload, inp.now, ctx⟩ inp.sessionId)) := by
        simp only [taskStep, hcreating, hshared, hunused, hheap]
        rfl
      exact .after hcreate (.here ⟨halone, harrivals, rfl, Processes.advance_phase_self⟩)
    | none =>
      obtain ⟨a, ha, hclash⟩ := Table.insert?_eq_none.mp hins
      have hconflict : c.shared.sessions.insertBy i (newSession inp.sessionId inp.now ctx.tenantId
          ctx.contactId ctx.orgUnitId) = .conflict :=
        Heap.conflict_of_clash (by rw [hvisible]; exact ha) hclash
      have hcreate : taskStep env creating (.create i inp.sessionId) =
          some (creating.abort i) := by
        simp only [taskStep, hcreating, hshared, hunused, hconflict]
        rfl
      have halone : Alone i start creating.shared start [] := h
      exact .after hcreate (.here halone.abort)

/-- The transaction, without other tasks, as `inboxTransaction` says. -/
theorem transaction_alone {row : Inbox} (h : Alone i start c.shared start [])
    (harrivals : c.shared.arrivals = [])
    (hsession : ∀ r ∈ start.sessions.rows, r.id ≠ inp.sessionId)
    (hids : FreshIds start inp.fileIds 0 (messageCount payload))
    (hphase : c.phase i = .opened row payload) :
    Reaches (taskStep env) c fun c' =>
      TxEnded i start c' (inboxTransaction env start inp row payload) := by
  have hresolve : taskStep env c (.resolve i inp.now) = some (c.advance i c.shared
      (phaseOfContext payload inp.now (resolveFullContext start row.phoneNumberId payload))) := by
    simp only [taskStep, hphase, h.view harrivals]
  unfold inboxTransaction
  cases hctx : resolveFullContext start row.phoneNumberId payload with
  | error e =>
    rw [hctx] at hresolve
    cases e with
    | routing reason ignore =>
      exact .after hresolve (.here ⟨Processes.advance_phase_self, h.uncommitted⟩)
    | python e => exact .after hresolve (.here ⟨Processes.advance_phase_self, h.uncommitted⟩)
  | ok ctx =>
    rw [hctx] at hresolve
    let searching : InboxTasks := c.advance i c.shared (.searching ⟨payload, inp.now, ctx⟩)
    have hstart : Alone i start searching.shared start [] := h
    refine .after hresolve
      ((session_alone hstart harrivals hsession Processes.advance_phase_self).bind fun c₁ hc => ?_)
    simp only
    cases hget : getOrCreateSession start inp.sessionId inp.now ctx.tenantId ctx.contactId
        ctx.orgUnitId with
    | error e =>
      rw [hget] at hc
      exact .here hc
    | ok found =>
      rw [hget] at hc
      obtain ⟨halone, harr, hfiles, hcounting⟩ := hc
      exact messages_alone halone harr (hids.later hfiles le_rfl) hcounting

/-! ## The task -/

/-- The task of row `i` is over, with the effects of `result`. -/
structure TaskEnded (i : Nat) (c : InboxTasks) (result : TaskResult) : Prop where
  phase : c.phase i = if result.raised then .raised else .finished
  committed : c.shared.committed = result.db
  jobs : c.shared.jobs = result.jobs

/-- The row is marked. -/
theorem mark_alone {state : InboxState} (hphase : c.phase i = .marking state)
    (h : Ended start c.shared db jobs) :
    Reaches (taskStep env) c fun c' => TaskEnded i c' ⟨markInbox db i state, jobs, false⟩ := by
  have hmark : taskStep env c (.mark i) = some (c.advance i
      { c.shared with rest := markInbox c.shared.rest i state } .finished) := by
    simp only [taskStep, hphase]
  refine .after hmark (.here ⟨Processes.advance_phase_self, ?_, h.jobs⟩)
  rw [← h.committed]
  rfl

/-- A task that runs without interruption does what `processInboxRow` says. -/
theorem run_task_alone (env : Env) (db : Db) (inp : InboxInput) (i : Nat)
    (hsession : ∀ s ∈ db.sessions.rows, s.id ≠ inp.sessionId)
    (hids : ∀ payload ∈ rowPayload env db i,
      FreshIds db inp.fileIds 0 (messageCount payload)) :
    Reaches (taskStep env) (taskStart db) fun c =>
      TaskEnded i c (processInboxRow env db inp i) := by
  have hstart : Alone i db (taskStart db).shared db [] := alone_start db i
  have hload : taskStep env (taskStart db) (.load i) = some
      ((taskStart db).advance i (taskStart db).shared (phaseOfRow env (inboxRow db i))) := rfl
  unfold processInboxRow
  cases hrow : inboxRow db i with
  | none =>
    rw [hrow] at hload
    exact .after hload (.here ⟨Processes.advance_phase_self, hstart.uncommitted.committed, rfl⟩)
  | some row =>
    rw [hrow] at hload
    have hid : row.id = i := by simpa using List.find?_some hrow
    simp only [processRow, hid]
    unfold phaseOfRow at hload
    by_cases hsigned : row.signatureOk = true
    · simp only [hsigned, if_true] at hload ⊢
      cases hdecode : decodePayload env row.payload with
      | error e =>
        rw [hdecode] at hload
        exact .after hload
          (.here ⟨Processes.advance_phase_self, hstart.uncommitted.committed, rfl⟩)
      | ok payload =>
        rw [hdecode] at hload
        let opened : InboxTasks :=
          (taskStart db).advance i (taskStart db).shared (.opened row payload)
        have hopened : Alone i db opened.shared db [] := hstart
        have htx : Reaches (taskStep env) opened fun c' =>
            TxEnded i db c' (inboxTransaction env db inp row payload) :=
          transaction_alone hopened rfl hsession (hids payload (rowPayload_eq hrow hdecode))
            Processes.advance_phase_self
        refine .after hload (htx.bind fun c₁ hc => ?_)
        simp only
        generalize inboxTransaction env db inp row payload = tx at hc ⊢
        obtain ⟨jobs, outcome⟩ := tx
        cases outcome with
        | ok db' => exact mark_alone hc.1 hc.2
        | error e =>
          cases e with
          | routing reason ignore => exact mark_alone hc.1 hc.2
          | python e => exact mark_alone hc.1 hc.2
    · simp only [hsigned] at hload ⊢
      exact .after hload (mark_alone Processes.advance_phase_self hstart.uncommitted)

end WaService
