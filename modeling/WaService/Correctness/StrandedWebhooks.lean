import WaService.Correctness.Provenance
import WaService.System.Requests

/-!
# Stranded webhooks

A stored row gets its job from the dispatch of its own request alone: when the call of
the queue fails, the request answers 200 all the same, and a redelivery of the body is
dropped by the deduplication of its wamid. While no dispatch of a row with a wamid fails,
every pending row whose request has returned has its job in the queue, or would be stored
again, with a job, by a redelivery.
-/

namespace WaService

open Python Relational Transition

variable {ι : Type} [DecidableEq ι] {env : Env} {posts : ι → WebhookPost}

/-! ## Statements of a task -/

/-- The row of the task has been read and is not marked yet. -/
def TaskPhase.underway : TaskPhase → Prop
  | .waiting | .finished | .raised => False
  | .marking state => state ≠ .pending
  | _ => True

/-- What a statement does to the inbox, the queue and the phase of its task. -/
inductive Controls (env : Env) (c : InboxTasks) : TaskAction → InboxTasks → Prop
  | load {i : Nat} (h : c.phase i = .waiting ∨ c.phase i = .raised) :
    Controls env c (.load i) (c.advance i c.shared (phaseOfRow env (inboxRow c.shared.rest i)))
  | work {a : TaskAction} {s : TaskShared} {l : TaskPhase} (before : (c.phase a.task).underway)
    (after : l.underway) (rest : s.rest = c.shared.rest)
    (jobs : ∃ more : List FetchJob, s.jobs = c.shared.jobs ++ more.map .fetchAndStoreFile) :
    Controls env c a (c.advance a.task s l)
  | mark {i : Nat} {state : InboxState} (h : c.phase i = .marking state) :
    Controls env c (.mark i)
      (c.advance i { c.shared with rest := markInbox c.shared.rest i state } .finished)

variable {c c' : InboxTasks} {a : TaskAction} {i : Nat}

/-- A statement that stores no job and leaves the inbox alone. -/
theorem Controls.quiet {s : TaskShared} {l : TaskPhase} (before : (c.phase a.task).underway)
    (after : l.underway) (rest : s.rest = c.shared.rest) (jobs : s.jobs = c.shared.jobs) :
    Controls env c a (c.advance a.task s l) :=
  .work before after rest ⟨[], by rw [jobs]; exact (List.append_nil _).symm⟩

theorem Controls.abort (before : (c.phase a.task).underway) :
    Controls env c a (c.abort a.task) :=
  have hfailed : (TaskPhase.marking .failed).underway := nofun
  .quiet before hfailed rfl rfl

theorem countStep_controls {tx : TaskTx} {sessionId : UUID}
    (hphase : c.phase i = .counting tx sessionId) :
    Controls env c (.count i) (countStep c i tx sessionId) := by
  have hbefore : (c.phase i).underway := by rw [hphase]; trivial
  unfold countStep
  split
  · exact .abort hbefore
  · exact .quiet hbefore trivial rfl rfl
  · exact .quiet hbefore trivial rfl rfl

theorem joinStep_controls {tx : TaskTx} {sessionId : UUID} {seq : Int} {messages : Json}
    (hphase : c.phase i = .joining tx sessionId seq messages) :
    Controls env c (.join i) (joinStep c i tx sessionId seq messages) := by
  have hbefore : (c.phase i).underway := by rw [hphase]; trivial
  unfold joinStep
  split
  · exact .abort hbefore
  · exact .quiet hbefore trivial rfl rfl

theorem registerStep_controls {newId : UUID} {tx : TaskTx} {frame : LoopFrame} {msg : Json}
    {rest : List Json} (hphase : c.phase i = .looping tx frame .register)
    (h : registerStep env c i newId tx frame msg rest = some c') :
    Controls env c (.register i newId) c' := by
  have hbefore : (c.phase i).underway := by rw [hphase]; trivial
  unfold registerStep at h
  split at h
  · cases h
    exact .abort hbefore
  · cases h
    exact .quiet hbefore trivial rfl rfl
  · split at h
    · cases h
      exact .abort hbefore
    · simp only at h
      split at h
      · cases h
        exact .quiet hbefore trivial rfl rfl
      · cases h
        exact .quiet hbefore trivial rfl rfl
      · contradiction

theorem rereadStep_controls {tx : TaskTx} {frame : LoopFrame} {m : MediaMessage} {wamid : String}
    (hphase : c.phase i = .looping tx frame (.reread m wamid)) :
    Controls env c (.reread i) (rereadStep c i tx frame m wamid) := by
  have hbefore : (c.phase i).underway := by rw [hphase]; trivial
  unfold rereadStep
  split
  · exact .abort hbefore
  · split
    · exact .quiet hbefore trivial rfl rfl
    · exact .abort hbefore

theorem arriveStep_controls {tx : TaskTx} {frame : LoopFrame} {fileId : UUID}
    (hphase : c.phase i = .looping tx frame (.arrive fileId))
    (h : arriveStep c i tx frame fileId = some c') : Controls env c (.arrive i) c' := by
  have hbefore : (c.phase i).underway := by rw [hphase]; trivial
  unfold arriveStep at h
  simp only at h
  split at h
  · split at h
    · contradiction
    · cases h
      exact .quiet hbefore trivial rfl rfl
  · cases h
    exact .quiet hbefore trivial rfl rfl

theorem enqueueStep_controls {tx : TaskTx} {frame : LoopFrame} {fileId : UUID} (accepted : Bool)
    (hphase : c.phase i = .looping tx frame (.enqueue fileId)) :
    Controls env c (.enqueue i accepted) (enqueueStep c i tx frame fileId accepted) := by
  have hbefore : (c.phase i).underway := by rw [hphase]; trivial
  unfold enqueueStep
  split
  · exact .work hbefore trivial rfl ⟨[_], rfl⟩
  · exact .abort hbefore

theorem taskStep_controls (h : taskStep env c a = some c') : Controls env c a c' := by
  cases a with
  | load i =>
    obtain ⟨hphase, rfl⟩ := InboxTasks.load_inv h
    exact .load hphase
  | resolve i now =>
    obtain ⟨row, payload, hphase, rfl⟩ := InboxTasks.resolve_inv h
    refine .quiet (by rw [TaskAction.task, hphase]; trivial) ?_ rfl rfl
    unfold phaseOfContext
    split
    · exact nofun
    · exact nofun
    · trivial
  | search i =>
    obtain ⟨tx, hphase, ⟨s, -, rfl⟩ | ⟨-, rfl⟩⟩ := InboxTasks.search_inv h
    · exact .quiet (by rw [TaskAction.task, hphase]; trivial) trivial rfl rfl
    · exact .quiet (by rw [TaskAction.task, hphase]; trivial) trivial rfl rfl
  | create i newId =>
    obtain ⟨tx, hphase, -, ⟨sessions, -, rfl⟩ | ⟨-, rfl⟩⟩ := InboxTasks.create_inv h
    · exact .quiet (by rw [TaskAction.task, hphase]; trivial) trivial rfl rfl
    · exact .abort (by rw [TaskAction.task, hphase]; trivial)
  | count i =>
    obtain ⟨tx, sessionId, hphase, rfl⟩ := InboxTasks.count_inv h
    exact countStep_controls hphase
  | join i =>
    obtain ⟨tx, sessionId, seq, messages, hphase, rfl⟩ := InboxTasks.join_inv h
    exact joinStep_controls hphase
  | register i newId =>
    obtain ⟨tx, frame, msg, rest, hphase, -, -, hstep⟩ := InboxTasks.register_inv h
    exact registerStep_controls hphase hstep
  | reread i =>
    obtain ⟨tx, frame, m, wamid, hphase, rfl⟩ := InboxTasks.reread_inv h
    exact rereadStep_controls hphase
  | arrive i =>
    obtain ⟨tx, frame, fileId, hphase, hstep⟩ := InboxTasks.arrive_inv h
    exact arriveStep_controls hphase hstep
  | enqueue i accepted =>
    obtain ⟨tx, frame, fileId, hphase, rfl⟩ := InboxTasks.enqueue_inv h
    exact enqueueStep_controls accepted hphase
  | commit i =>
    obtain ⟨tx, frame, hphase, -, rfl⟩ := InboxTasks.commit_inv h
    exact .quiet (by rw [TaskAction.task, hphase]; trivial) nofun rfl rfl
  | mark i =>
    obtain ⟨state, hphase, rfl⟩ := InboxTasks.mark_inv h
    exact .mark hphase

/-! ## Stored rows -/

/-- A row as a request stored it. -/
structure Inbox.Sound (env : Env) (r : Inbox) : Prop where
  payload : ∃ fields, r.payload = .obj fields
  wamid : ∃ w, extractWamid r.payload = .ok w ∧ sqlText env w = .ok r.wamid
  number : ∃ n, extractPhoneNumberId r.payload = .ok n ∧ sqlText env n = .ok r.phoneNumberId
  storable : r.payload.storable = true

/-- The row with the id is stored, by a request. -/
def Db.Stored (env : Env) (db : Db) (inboxId : Nat) : Prop :=
  ∃ r ∈ db.inbox.rows, r.id = inboxId ∧ r.Sound env

/-- No pending row has the id. -/
def Db.Settled (db : Db) (inboxId : Nat) : Prop :=
  ∀ r ∈ db.inbox.rows, r.id = inboxId → r.state ≠ .pending

/-- Only an object has the path of the wamid. -/
theorem payload_of_extractWamid {payload wamid : Json} (h : extractWamid payload = .ok wamid) :
    ∃ fields, payload = .obj fields := by
  cases payload with
  | obj fields => exact ⟨fields, rfl⟩
  | _ => cases h

theorem draftOf_ok {db : Db} {payload : Json} {signatureOk : Bool} {d : InboxDraft}
    (h : draftOf db payload signatureOk = .ok (some d)) :
    extractWamid d.payload = .ok d.wamid ∧
      extractPhoneNumberId d.payload = .ok d.phoneNumberId := by
  obtain ⟨wamid, hw, h⟩ := bind_eq_ok.mp h
  obtain ⟨number, hn, h⟩ := bind_eq_ok.mp h
  obtain ⟨known, -, h⟩ := bind_eq_ok.mp h
  cases known with
  | true => cases h
  | false =>
    cases h
    exact ⟨hw, hn⟩

section Rows

variable {db db' : Db} {inboxId newId : Nat}

/-- A stored draft is a new row. -/
theorem writeInbox_stored {d : InboxDraft} (hw : extractWamid d.payload = .ok d.wamid)
    (hn : extractPhoneNumberId d.payload = .ok d.phoneNumberId)
    (h : writeInbox env db newId d.wamid d.phoneNumberId d.payload d.signatureOk = .ok db') :
    ∃ r : Inbox, r.id = newId ∧ r.Sound env ∧ (∀ a ∈ db.inbox.rows, a.id ≠ newId) ∧
      db'.inbox.rows = db.inbox.rows ++ [r] := by
  have hstorable : d.payload.storable = true := by
    by_contra hnot
    obtain ⟨w, -, h⟩ := bind_eq_ok.mp h
    obtain ⟨n, -, h⟩ := bind_eq_ok.mp h
    rw [if_neg hnot] at h
    cases h
  obtain ⟨w, n, inbox, hsw, hsn, hins, rfl⟩ := writeInbox_ok h
  obtain ⟨hfree, hrows⟩ := Table.insert?_eq_some.mp hins
  refine ⟨_, rfl, ⟨payload_of_extractWamid hw, ⟨_, hw, hsw⟩, ⟨_, hn, hsn⟩, hstorable⟩, ?_, hrows⟩
  intro a ha hid
  have hclash := hfree a ha
  simp [clash, sameKey, hid] at hclash

theorem Db.Stored.append {r : Inbox} (h : db.Stored env inboxId)
    (hrows : db'.inbox.rows = db.inbox.rows ++ [r]) : db'.Stored env inboxId := by
  obtain ⟨a, ha, hid, hsound⟩ := h
  exact ⟨a, by simp [hrows, ha], hid, hsound⟩

/-- A row of the marked inbox is a row from before, in its old state or the new one. -/
theorem mem_markInbox {state : InboxState} {r' : Inbox} :
    r' ∈ (markInbox db inboxId state).inbox.rows ↔ ∃ r ∈ db.inbox.rows,
      (r.id = inboxId ∧ r' = { r with state := state }) ∨ (r.id ≠ inboxId ∧ r' = r) := by
  unfold markInbox Db.updateInbox
  rw [Table.mem_update]
  refine exists_congr fun r => and_congr_right fun _ => ?_
  unfold patch
  by_cases hid : r.id = inboxId
  · rw [if_pos (by simpa using hid)]
    constructor
    · rintro rfl
      exact Or.inl ⟨hid, rfl⟩
    · rintro (⟨-, rfl⟩ | ⟨hne, -⟩)
      · rfl
      · exact absurd hid hne
  · rw [if_neg (by simpa using hid)]
    constructor
    · rintro rfl
      exact Or.inr ⟨hid, rfl⟩
    · rintro (⟨hi, -⟩ | ⟨-, rfl⟩)
      · exact absurd hi hid
      · rfl

theorem Db.Stored.mark {i : Nat} (h : db.Stored env inboxId) (state : InboxState) :
    (markInbox db i state).Stored env inboxId := by
  obtain ⟨r, hr, hid, hsound⟩ := h
  by_cases hi : r.id = i
  · exact ⟨_, mem_markInbox.mpr ⟨r, hr, Or.inl ⟨hi, rfl⟩⟩, hid,
      ⟨hsound.1, hsound.2, hsound.3, hsound.4⟩⟩
  · exact ⟨r, mem_markInbox.mpr ⟨r, hr, Or.inr ⟨hi, rfl⟩⟩, hid, hsound⟩

theorem Db.Settled.append {r : Inbox} (h : db.Settled inboxId)
    (hrows : db'.inbox.rows = db.inbox.rows ++ [r]) (hne : r.id ≠ inboxId) :
    db'.Settled inboxId := by
  intro a ha hid
  rw [hrows] at ha
  rcases List.mem_append.mp ha with ha | ha
  · exact h a ha hid
  · rw [List.mem_singleton.mp ha] at hid
    exact absurd hid hne

theorem Db.Settled.mark {i : Nat} {state : InboxState} (h : inboxId = i ∨ db.Settled inboxId)
    (hstate : state ≠ .pending) : (markInbox db i state).Settled inboxId := by
  intro r' hr' hid
  obtain ⟨r, hr, ⟨hi, rfl⟩ | ⟨hi, rfl⟩⟩ := mem_markInbox.mp hr'
  · exact hstate
  · rcases h with rfl | h
    · exact absurd hid hi
    · exact h r' hr hid

/-- The lookup of a stored row finds it. -/
theorem Db.Stored.inboxRow (h : db.Stored env inboxId) :
    ∃ r, inboxRow db inboxId = some r ∧ r.Sound env := by
  obtain ⟨r, hr, rfl, hsound⟩ := h
  refine ⟨r, Table.find?_eq_some_of_mem hr (by simp) fun b hb => ?_, hsound⟩
  simp only [clash, sameKey, Bool.or_eq_true, beq_iff_eq] at hb ⊢
  exact Or.inl hb

/-- The task of a stored row gets to work. -/
theorem Db.Stored.underway (h : db.Stored env inboxId) :
    (phaseOfRow env (WaService.inboxRow db inboxId)).underway := by
  obtain ⟨r, hr, hsound⟩ := h.inboxRow
  obtain ⟨fields, hfields⟩ := hsound.payload
  simp only [hr, phaseOfRow]
  split
  · rw [hfields]
    trivial
  · exact nofun

end Rows

/-! ## Accounting for every row -/

/-- The rows that a request has stored. -/
def RequestPhase.holds (l : RequestPhase) (inboxId : Nat) : Prop :=
  l = .dispatching inboxId ∨ l = .returned (some inboxId)

/-- What a request knows at its phase. -/
def RequestPhase.Sound (env : Env) (db : Db) : RequestPhase → Prop
  | .inserting d => extractWamid d.payload = .ok d.wamid ∧
      extractPhoneNumberId d.payload = .ok d.phoneNumberId
  | .dispatching inboxId | .returned (some inboxId) => db.Stored env inboxId
  | _ => True

/-- What holds of a task at its phase. -/
def TaskPhase.Sound (env : Env) (db : Db) (inboxId : Nat) (l : TaskPhase) : Prop :=
  l = .waiting ∨ l.underway ∧ db.Stored env inboxId ∨
    l = .finished ∧ db.Stored env inboxId ∧ db.Settled inboxId

/-- The invariant of requests and tasks. -/
structure Requests.Accounted (env : Env) (c : Requests ι) : Prop where
  /-- A job names a stored row. -/
  jobs : ∀ inboxId, .processInboxRow inboxId ∈ c.jobs → c.db.Stored env inboxId
  tasks : ∀ inboxId, (c.shared.phase inboxId).Sound env c.db inboxId
  requests : ∀ i, (c.phase i).Sound env c.db
  exclusive : Processes.Exclusive RequestPhase.holds c
  /-- A row with a wamid whose request has returned has its job or is settled. -/
  queued : ∀ i, ∀ r ∈ c.db.inbox.rows, c.phase i = .returned (some r.id) → r.state = .pending →
    r.wamid ≠ none → .processInboxRow r.id ∈ c.jobs

theorem RequestPhase.Sound.stored {db : Db} {l : RequestPhase} {inboxId : Nat}
    (h : l.Sound env db) (hholds : l.holds inboxId) : db.Stored env inboxId := by
  rcases hholds with rfl | rfl
  · exact h
  · exact h

theorem RequestPhase.Sound.mono {db db' : Db} {l : RequestPhase} (h : l.Sound env db)
    (hstored : ∀ inboxId, db.Stored env inboxId → db'.Stored env inboxId) : l.Sound env db' := by
  cases l with
  | arriving | failed => trivial
  | inserting d => exact h
  | dispatching inboxId => exact hstored inboxId h
  | returned inboxId =>
    cases inboxId with
    | none => trivial
    | some inboxId => exact hstored inboxId h

/-- The condition: no call of the job queue fails for a row with a wamid. -/
def Dispatches (c : Requests ι) : RequestAction ι → Prop
  | .dispatch i false => ∀ r ∈ c.db.inbox.rows, c.phase i = .dispatching r.id → r.wamid = none
  | _ => True

variable {q q' : Requests ι}

/-- A request that goes on without a row. -/
theorem Requests.Accounted.advance (h : q.Accounted env) {i : ι} {l : RequestPhase}
    (hsound : l.Sound env q.db) (hfree : ∀ inboxId, ¬ l.holds inboxId) :
    Requests.Accounted env (q.advance i q.shared l) where
  jobs := h.jobs
  tasks := h.tasks
  requests := by
    refine Processes.forall_phase_advance (fun _ (l : RequestPhase) => l.Sound env q.db) hsound
      fun j _ => ?_
    exact h.requests j
  exclusive := h.exclusive.advance fun inboxId hl => absurd hl (hfree inboxId)
  queued := by
    intro j r hr hphase
    by_cases hj : j = i
    · subst hj
      rw [Processes.advance_phase_self] at hphase
      exact absurd (Or.inr hphase) (hfree r.id)
    · rw [Processes.advance_phase_of_ne hj] at hphase
      exact h.queued j r hr hphase

theorem phaseOfPost_sound (env : Env) (post : WebhookPost) (db : Db) :
    (phaseOfPost env db post).Sound env db ∧
      ∀ inboxId, ¬ (phaseOfPost env db post).holds inboxId := by
  unfold phaseOfPost
  split
  · exact ⟨trivial, by rintro _ (h | h) <;> cases h⟩
  · split
    · exact ⟨trivial, by rintro _ (h | h) <;> cases h⟩
    · split
      · exact ⟨trivial, by rintro _ (h | h) <;> cases h⟩
      · exact ⟨trivial, by rintro _ (h | h) <;> cases h⟩
      · rename_i d hdraft
        exact ⟨draftOf_ok hdraft, by rintro _ (h | h) <;> cases h⟩

/-- A request stores its row. -/
theorem Requests.Accounted.insert (h : q.Accounted env) {i : ι} {d : InboxDraft} {newId : Nat}
    {db : Db} (hphase : q.phase i = .inserting d)
    (hwrite : writeInbox env q.db newId d.wamid d.phoneNumberId d.payload d.signatureOk = .ok db) :
    Requests.Accounted env (q.advance i (q.shared.withRest db) (.dispatching newId)) := by
  have hsound := h.requests i
  rw [hphase] at hsound
  obtain ⟨r, hid, hr, hfree, hrows⟩ := writeInbox_stored hsound.1 hsound.2 hwrite
  have hkept : ∀ inboxId, q.db.Stored env inboxId → db.Stored env inboxId :=
    fun _ hs => hs.append hrows
  -- The new id names no row yet, so no task and no other request is concerned.
  have hother : ∀ inboxId, q.db.Stored env inboxId → r.id ≠ inboxId := by
    rintro inboxId ⟨a, ha, haid, -⟩ hsame
    exact hfree a ha (haid.trans (hsame.symm.trans hid))
  constructor
  · exact fun inboxId hjob => hkept inboxId (h.jobs inboxId hjob)
  · intro inboxId
    rcases h.tasks inboxId with hw | ⟨hu, hs⟩ | ⟨hf, hs, hsettled⟩
    · exact Or.inl hw
    · exact Or.inr (Or.inl ⟨hu, hkept inboxId hs⟩)
    · exact Or.inr (Or.inr ⟨hf, hkept inboxId hs, hsettled.append hrows (hother inboxId hs)⟩)
  · refine Processes.forall_phase_advance (fun _ (l : RequestPhase) => l.Sound env db) ?_
      fun j _ => ?_
    · exact ⟨r, by simp [hrows], hid, hr⟩
    · exact (h.requests j).mono hkept
  · refine h.exclusive.advance fun inboxId hl => Or.inr fun j hj => ?_
    have hsame : inboxId = newId := by
      rcases hl with hl | hl
      · exact (RequestPhase.dispatching.inj hl).symm
      · cases hl
    exact hother inboxId ((h.requests j).stored hj) (hid.trans hsame.symm)
  · intro j a ha hj hpending hwamid
    by_cases hji : j = i
    · subst hji
      rw [Processes.advance_phase_self] at hj
      cases hj
    · rw [Processes.advance_phase_of_ne hji] at hj
      have ha' : a ∈ q.db.inbox.rows ++ [r] := hrows ▸ ha
      rcases List.mem_append.mp ha' with ha' | ha'
      · exact h.queued j a ha' hj hpending hwamid
      · have hstored := (h.requests j).stored (Or.inr hj)
        exact absurd (by rw [List.mem_singleton.mp ha']) (hother a.id hstored)

/-- The call of the job queue. -/
theorem Requests.Accounted.dispatch (h : q.Accounted env) {i : ι} {inboxId : Nat} {stored : Bool}
    (hphase : q.phase i = .dispatching inboxId) (hc : Dispatches q (.dispatch i stored)) :
    Requests.Accounted env (q.advance i
      (if stored then q.shared.withJobs (q.jobs ++ [.processInboxRow inboxId]) else q.shared)
      (.returned (some inboxId))) := by
  have hstored : q.db.Stored env inboxId := (h.requests i).stored (Or.inl hphase)
  have hexclusive : ∀ s, Processes.Exclusive RequestPhase.holds
      (q.advance i s (.returned (some inboxId))) := by
    refine fun s => h.exclusive.advance fun id hl => Or.inl ?_
    rcases hl with hl | hl
    · cases hl
    · cases hl
      exact Or.inl hphase
  have hrequests : ∀ s, ∀ j, ((q.advance i s (.returned (some inboxId))).phase j).Sound env q.db :=
    fun s => Processes.forall_phase_advance (fun _ (l : RequestPhase) => l.Sound env q.db) hstored
      fun j _ => h.requests j
  -- A row that had its job keeps it; the row of this request has one now.
  cases stored with
  | true =>
    refine ⟨?_, h.tasks, hrequests _, hexclusive _, ?_⟩
    · intro id hjob
      rcases List.mem_append.mp hjob with hjob | hjob
      · exact h.jobs id hjob
      · cases List.mem_singleton.mp hjob
        exact hstored
    · intro j r hr hj hpending hwamid
      by_cases hji : j = i
      · subst hji
        rw [Processes.advance_phase_self] at hj
        cases hj
        exact List.mem_append_right _ (List.mem_singleton.mpr rfl)
      · rw [Processes.advance_phase_of_ne hji] at hj
        exact List.mem_append_left _ (h.queued j r hr hj hpending hwamid)
  | false =>
    refine ⟨h.jobs, h.tasks, hrequests _, hexclusive _, ?_⟩
    intro j r hr hj hpending hwamid
    by_cases hji : j = i
    · subst hji
      rw [Processes.advance_phase_self] at hj
      cases hj
      exact absurd (hc r hr hphase) hwamid
    · rw [Processes.advance_phase_of_ne hji] at hj
      exact h.queued j r hr hj hpending hwamid

omit [DecidableEq ι] in
/-- The tasks go on, and the requests do not notice. -/
theorem Requests.Accounted.tasksMove (h : q.Accounted env) {tasks : InboxTasks}
    (hjobs : ∀ inboxId, .processInboxRow inboxId ∈ tasks.shared.jobs →
      tasks.shared.rest.Stored env inboxId)
    (htasks : ∀ inboxId, (tasks.phase inboxId).Sound env tasks.shared.rest inboxId)
    (hkept : ∀ inboxId, q.db.Stored env inboxId → tasks.shared.rest.Stored env inboxId)
    (hqueued : ∀ i, ∀ r ∈ tasks.shared.rest.inbox.rows, q.phase i = .returned (some r.id) →
      r.state = .pending → r.wamid ≠ none → .processInboxRow r.id ∈ tasks.shared.jobs) :
    Requests.Accounted env { q with shared := tasks } where
  jobs := hjobs
  tasks := htasks
  requests i := (h.requests i).mono hkept
  exclusive := h.exclusive
  queued := hqueued

/-- The other tasks stand where they stood. -/
theorem tasks_sound_advance {c : InboxTasks} {i : Nat} {s : TaskShared} {l : TaskPhase} {db : Db}
    (hnew : l.Sound env db i) (hold : ∀ j, j ≠ i → (c.phase j).Sound env db j) :
    ∀ j, ((c.advance i s l).phase j).Sound env db j :=
  Processes.forall_phase_advance (fun j (l : TaskPhase) => l.Sound env db j) hnew hold

omit [DecidableEq ι] in
theorem Requests.Accounted.task (h : q.Accounted env) {a : TaskAction} {tasks : InboxTasks}
    (hjob : a.hasJob q.jobs = true) (hstep : taskStep env q.shared a = some tasks) :
    Requests.Accounted env { q with shared := tasks } := by
  cases taskStep_controls hstep with
  | @load i hphase =>
    -- The job of the task names a stored row.
    have hstored : q.db.Stored env i := h.jobs i (List.contains_iff_mem.mp hjob)
    exact h.tasksMove h.jobs
      (tasks_sound_advance (Or.inr (Or.inl ⟨hstored.underway, hstored⟩)) fun j _ => h.tasks j)
      (fun _ hs => hs) h.queued
  | @work a s l hbefore hafter hrest hmore =>
    obtain ⟨more, hmore⟩ := hmore
    have hstored : q.db.Stored env a.task := by
      rcases h.tasks a.task with hw | ⟨-, hs⟩ | ⟨-, hs, -⟩
      · rw [hw] at hbefore
        exact hbefore.elim
      · exact hs
      · exact hs
    have hsame : ∀ inboxId, .processInboxRow inboxId ∈ s.jobs ↔
        .processInboxRow inboxId ∈ q.jobs := by
      intro inboxId
      rw [hmore]
      simp [Requests.jobs]
    have hrest' : s.rest = q.db := hrest
    refine h.tasksMove ?_ ?_ ?_ ?_
    · intro inboxId hmem
      rw [Processes.advance_shared, hrest']
      exact h.jobs inboxId ((hsame inboxId).mp hmem)
    · rw [Processes.advance_shared, hrest']
      exact tasks_sound_advance (Or.inr (Or.inl ⟨hafter, hstored⟩)) fun j _ => h.tasks j
    · rw [Processes.advance_shared, hrest']
      exact fun _ hs => hs
    · intro j r hr hj hpending hwamid
      rw [Processes.advance_shared, hrest'] at hr
      exact (hsame r.id).mpr (h.queued j r hr hj hpending hwamid)
  | @mark i state hphase =>
    have hsound := h.tasks i
    rw [hphase] at hsound
    obtain ⟨hstate, hstored⟩ : state ≠ .pending ∧ q.db.Stored env i := by
      rcases hsound with hw | hs | ⟨hf, -⟩
      · cases hw
      · exact hs
      · cases hf
    refine h.tasksMove ?_ ?_ ?_ ?_
    · exact fun inboxId hmem => (h.jobs inboxId hmem).mark state
    · refine tasks_sound_advance
        (Or.inr (Or.inr ⟨rfl, hstored.mark state, .mark (Or.inl rfl) hstate⟩)) fun j _ => ?_
      rcases h.tasks j with hw | ⟨hu, hs⟩ | ⟨hf, hs, hsettled⟩
      · exact Or.inl hw
      · exact Or.inr (Or.inl ⟨hu, hs.mark state⟩)
      · exact Or.inr (Or.inr ⟨hf, hs.mark state, .mark (Or.inr hsettled) hstate⟩)
    · exact fun _ hs => hs.mark state
    · intro j r' hr' hj hpending hwamid
      obtain ⟨r, hr, ⟨-, rfl⟩ | ⟨-, rfl⟩⟩ := mem_markInbox.mp hr'
      · exact absurd hpending hstate
      · exact h.queued j r' hr hj hpending hwamid

omit [DecidableEq ι] in
/-- A task that has ended has settled its row. -/
theorem Requests.Accounted.settled (h : q.Accounted env) {inboxId : Nat}
    (hended : (q.shared.phase inboxId).ended = true) : q.db.Settled inboxId := by
  rcases h.tasks inboxId with hw | ⟨hu, -⟩ | ⟨-, -, hs⟩
  · rw [hw] at hended
    cases hended
  · cases hl : q.shared.phase inboxId with
    | finished | raised =>
      rw [hl] at hu
      exact hu.elim
    | _ =>
      rw [hl] at hended
      cases hended
  · exact hs

omit [DecidableEq ι] in
theorem Requests.Accounted.finish (h : q.Accounted env) {inboxId : Nat}
    (hended : (q.shared.phase inboxId).ended = true) :
    Requests.Accounted env
      { q with shared := q.shared.withJobs (q.jobs.erase (.processInboxRow inboxId)) } := by
  refine h.tasksMove ?_ h.tasks (fun _ hs => hs) ?_
  · exact fun id hmem => h.jobs id (List.mem_of_mem_erase hmem)
  · intro i r hr hi hpending hwamid
    have hne : r.id ≠ inboxId := fun hid => h.settled hended r hr hid hpending
    have hjob := h.queued i r hr hi hpending hwamid
    exact (List.mem_erase_of_ne fun hsame => hne (Job.processInboxRow.inj hsame)).mpr hjob

/-- One step accounts for every row, when its dispatch does not fail. -/
theorem Requests.Accounted.step {a : RequestAction ι} (h : q.Accounted env)
    (hc : Dispatches q a) (hstep : requestStep env posts q a = some q') : q'.Accounted env := by
  cases a with
  | check i =>
    simp only [requestStep] at hstep
    split at hstep
    · cases hstep
      obtain ⟨hsound, hfree⟩ := phaseOfPost_sound env (posts i) q.db
      exact h.advance hsound hfree
    · contradiction
  | insert i newId =>
    simp only [requestStep] at hstep
    split at hstep
    · rename_i d hphase
      split at hstep
      · rename_i db hwrite
        cases hstep
        exact h.insert hphase hwrite
      · cases hstep
        exact h.advance trivial (by rintro _ (h | h) <;> cases h)
    · contradiction
  | dispatch i stored =>
    simp only [requestStep] at hstep
    split at hstep
    · rename_i inboxId hphase
      cases hstep
      exact h.dispatch hphase hc
    · contradiction
  | task a =>
    simp only [requestStep] at hstep
    split at hstep
    · rename_i hjob
      obtain ⟨tasks, htasks, rfl⟩ := Option.map_eq_some_iff.mp hstep
      exact h.task hjob htasks
    · contradiction
  | finish inboxId =>
    simp only [requestStep] at hstep
    split at hstep
    · rename_i hended
      cases hstep
      exact h.finish hended
    · contradiction

/-! ## Redeliveries -/

/-- The first delivery is stored, and its dispatch succeeds or not; then it is redelivered. -/
def redelivered (stored : Bool) : List (RequestAction Bool) :=
  [.check false, .insert false 1, .dispatch false stored, .check true]

end WaService
