import WaService.Core.Run
import WaService.Correctness.Ingestion
import WaService.System.InboxTasks
import WaService.Wa.Payload

/-!
# Overlapping tasks and the open session

Two tasks of one contact may both find no open session. The index of open sessions
lets one of them insert it; the other one fails, its row is marked failed and the task
does not raise, so it does not run again. As long as no insert of a session comes after
the commit of another open one, every media message of every row that a finished task
has handled is on file.
-/

namespace WaService

open Python Relational Transition

variable {env : Env} {db : Db} {c c' : InboxTasks} {s s' : TaskShared} {i j : Nat}

/-! ## What a statement leaves alone -/

/-- What a task reads of an inbox row. -/
def Inbox.content (r : Inbox) : Json × Bool × Option String :=
  (r.payload, r.signatureOk, r.phoneNumberId)

/-- What a statement of the task `i` leaves as the other tasks see it. -/
structure Undisturbed (i : Nat) (s s' : TaskShared) : Prop where
  routes : s'.rest.routes = s.rest.routes
  contacts : s'.rest.contacts = s.rest.contacts
  rows : ∀ j, (inboxRow s'.rest j).map Inbox.content = (inboxRow s.rest j).map Inbox.content
  /-- Committed files stay. -/
  committed : ∀ f ∈ s.files.committed.rows, f ∈ s'.files.committed.rows
  /-- Files that another task sees stay. -/
  visible : ∀ j, j ≠ i → ∀ f ∈ (s.files.visible j).rows, f ∈ (s'.files.visible j).rows

/-- A statement that changes neither the inbox nor the files. -/
theorem Undisturbed.of_eq (hrest : s'.rest = s.rest) (hfiles : s'.files = s.files) :
    Undisturbed i s s' where
  routes := by rw [hrest]
  contacts := by rw [hrest]
  rows _ := by rw [hrest]
  committed _ hf := by rwa [hfiles]
  visible _ _ _ hf := by rwa [hfiles]

theorem Undisturbed.rollback (s : TaskShared) (i : Nat) : Undisturbed i s (s.rollback i) where
  routes := rfl
  contacts := rfl
  rows _ := rfl
  committed _ hf := by rwa [TaskShared.rollback, Heap.committed_rollback]
  visible j hj _ hf := by rwa [TaskShared.rollback, Heap.visible_rollback_of_ne s.files hj]

theorem Undisturbed.commit (s : TaskShared) (i : Nat) : Undisturbed i s (s.commit i) where
  routes := rfl
  contacts := rfl
  rows _ := rfl
  committed _ hf := by
    rw [TaskShared.commit, Heap.committed_commit]
    exact Heap.committed_subset hf
  visible _ _ _ hf := Heap.visible_commit hf

theorem Undisturbed.insert {f : File} {files : Heap Nat File}
    (hins : s.files.insertBy i f = .inserted files) :
    Undisturbed i s { s with files := files } where
  routes := rfl
  contacts := rfl
  rows _ := rfl
  committed _ hf := by rwa [Heap.committed_insertBy hins]
  visible j hj _ hf := by rwa [Heap.visible_insertBy_of_ne hins hj]

theorem Undisturbed.mark (s : TaskShared) (i : Nat) (state : InboxState) :
    Undisturbed i s { s with rest := markInbox s.rest i state } where
  routes := rfl
  contacts := rfl
  rows j := by
    have hcontent : ∀ r, (patch (fun r : Inbox => r.id == i)
        (fun r => { r with state := state }) r).content = r.content := by
      intro r
      unfold patch
      split <;> rfl
    unfold markInbox
    rw [inboxRow_update, Option.map_map]
    exact congrArg (fun g => Option.map g (inboxRow s.rest j)) (funext hcontent)
  committed _ hf := hf
  visible _ _ _ hf := hf

/-- The task `i` alone moves, and leaves the rest undisturbed. -/
def Moves (i : Nat) (c c' : InboxTasks) : Prop :=
  ∃ s l, c' = c.advance i s l ∧ Undisturbed i c.shared s

theorem Moves.stay (c : InboxTasks) (i : Nat) (l : TaskPhase) :
    Moves i c (c.advance i c.shared l) :=
  ⟨_, l, rfl, .of_eq rfl rfl⟩

theorem Moves.abort (c : InboxTasks) (i : Nat) : Moves i c (c.abort i) :=
  ⟨_, _, rfl, .rollback c.shared i⟩

theorem countStep_moves (tx : TaskTx) (sessionId : UUID) :
    Moves i c (countStep c i tx sessionId) := by
  unfold countStep
  split
  · exact .abort c i
  · exact .stay c i _
  · exact .stay c i _

theorem joinStep_moves (tx : TaskTx) (sessionId : UUID) (seq : Int) (messages : Json) :
    Moves i c (joinStep c i tx sessionId seq messages) := by
  unfold joinStep
  split
  · exact .abort c i
  · exact .stay c i _

theorem registerStep_moves {newId : UUID} {tx : TaskTx} {frame : LoopFrame} {msg : Json}
    {rest : List Json} (h : registerStep env c i newId tx frame msg rest = some c') :
    Moves i c c' := by
  unfold registerStep at h
  split at h
  · cases h
    exact .abort c i
  · cases h
    exact .stay c i _
  · split at h
    · cases h
      exact .abort c i
    · simp only at h
      split at h
      · rename_i hins
        cases h
        exact ⟨_, _, rfl, .insert hins⟩
      · cases h
        exact .stay c i _
      · contradiction

theorem rereadStep_moves (tx : TaskTx) (frame : LoopFrame) (m : MediaMessage) (wamid : String) :
    Moves i c (rereadStep c i tx frame m wamid) := by
  unfold rereadStep
  split
  · exact .abort c i
  · split
    · exact .stay c i _
    · exact .abort c i

theorem arriveStep_moves {tx : TaskTx} {frame : LoopFrame} {fileId : UUID}
    (h : arriveStep c i tx frame fileId = some c') : Moves i c c' := by
  unfold arriveStep at h
  simp only at h
  split at h
  · split at h
    · contradiction
    · cases h
      exact ⟨_, _, rfl, .of_eq rfl rfl⟩
  · cases h
    exact .stay c i _

theorem enqueueStep_moves (tx : TaskTx) (frame : LoopFrame) (fileId : UUID) (accepted : Bool) :
    Moves i c (enqueueStep c i tx frame fileId accepted) := by
  unfold enqueueStep
  split
  · exact ⟨_, _, rfl, .of_eq rfl rfl⟩
  · exact .abort c i

/-- A statement moves its task and leaves the rest undisturbed. -/
theorem taskStep_moves {a : TaskAction} (h : taskStep env c a = some c') : Moves a.task c c' := by
  cases a with
  | load i =>
    obtain ⟨-, rfl⟩ := InboxTasks.load_inv h
    exact .stay c i _
  | resolve i now =>
    obtain ⟨row, payload, -, rfl⟩ := InboxTasks.resolve_inv h
    exact .stay c i _
  | search i =>
    obtain ⟨tx, -, ⟨s, -, rfl⟩ | ⟨-, rfl⟩⟩ := InboxTasks.search_inv h
    · exact .stay c i _
    · exact .stay c i _
  | create i newId =>
    obtain ⟨tx, -, -, ⟨sessions, -, rfl⟩ | ⟨-, rfl⟩⟩ := InboxTasks.create_inv h
    · exact ⟨_, _, rfl, .of_eq rfl rfl⟩
    · exact .abort c i
  | count i =>
    obtain ⟨tx, sessionId, -, rfl⟩ := InboxTasks.count_inv h
    exact countStep_moves tx sessionId
  | join i =>
    obtain ⟨tx, sessionId, seq, messages, -, rfl⟩ := InboxTasks.join_inv h
    exact joinStep_moves tx sessionId seq messages
  | register i newId =>
    obtain ⟨tx, frame, msg, rest, -, -, -, hstep⟩ := InboxTasks.register_inv h
    exact registerStep_moves hstep
  | reread i =>
    obtain ⟨tx, frame, m, wamid, -, rfl⟩ := InboxTasks.reread_inv h
    exact rereadStep_moves tx frame m wamid
  | arrive i =>
    obtain ⟨tx, frame, fileId, -, hstep⟩ := InboxTasks.arrive_inv h
    exact arriveStep_moves hstep
  | enqueue i accepted =>
    obtain ⟨tx, frame, fileId, -, rfl⟩ := InboxTasks.enqueue_inv h
    exact enqueueStep_moves tx frame fileId accepted
  | commit i =>
    obtain ⟨tx, frame, -, -, rfl⟩ := InboxTasks.commit_inv h
    exact ⟨_, _, rfl, .commit c.shared i⟩
  | mark i =>
    obtain ⟨state, -, rfl⟩ := InboxTasks.mark_inv h
    exact ⟨_, _, rfl, .mark c.shared i state⟩

/-! ## Rows whose media can be filed -/

/-- The message can be stored: it carries no media, or its row has texts for its columns and
its wamid is a text. -/
def storable (env : Env) (msg : Json) : Bool :=
  match parseMedia msg with
  | .error _ => false
  | .ok none => true
  | .ok (some m) => (draftFile env m).isOk && (selectText m.wamid).isOk

/-- A signed row whose payload identifies an active contact on an active route, and whose
messages can be stored. -/
structure Genuine (env : Env) (db : Db) (i : Nat) (payload : Json) (msgs : List Json) : Prop where
  row : ∃ row, inboxRow db i = some row ∧ row.signatureOk = true ∧
    decodePayload env row.payload = .ok payload ∧
    ∃ ctx, resolveFullContext db row.phoneNumberId payload = .ok ctx
  messages : inboundMessages payload = .ok msgs
  storable : ∀ msg ∈ msgs, storable env msg = true

/-- Every media message of the list has a file. -/
def AllFiled (db : Db) (msgs : List Json) : Prop :=
  ∀ msg ∈ msgs, ∀ wamid ∈ carriedWamid msg, wamid ∈ fileWamids db

theorem AllFiled.mono {db' : Db} {msgs : List Json} (h : AllFiled db msgs)
    (hsub : ∀ wamid ∈ fileWamids db, wamid ∈ fileWamids db') : AllFiled db' msgs :=
  fun msg hmsg wamid hw => hsub wamid (h msg hmsg wamid hw)

theorem AllFiled.snoc {msgs : List Json} {msg : Json} (h : AllFiled db msgs)
    (hmsg : ∀ wamid ∈ carriedWamid msg, wamid ∈ fileWamids db) : AllFiled db (msgs ++ [msg]) := by
  intro m hm wamid hw
  rcases List.mem_append.mp hm with hm | hm
  · exact h m hm wamid hw
  · rw [List.mem_singleton.mp hm] at hw
    exact hmsg wamid hw

/-! ## What each phase of a genuine row's task has achieved -/

/-- The file that a conflicting insert has found is there. -/
def StageOk (s : TaskShared) (i : Nat) : LoopStage → Prop
  | .reread m wamid => (selectText m.wamid).isOk = true ∧ wamid ∈ fileWamids (s.view i)
  | _ => True

/-- What is known at each phase; the loop has filed the messages before the current one. -/
def PhaseOk (db : Db) (payload : Json) (msgs : List Json) (s : TaskShared) (i : Nat) :
    TaskPhase → Prop
  | .waiting => True
  | .opened row decoded =>
    decoded = payload ∧ ∃ ctx, resolveFullContext db row.phoneNumberId payload = .ok ctx
  | .searching tx | .creating tx | .counting tx _ => tx.payload = payload
  | .joining _ _ _ messages => messages.iter = .ok msgs
  | .looping _ frame stage =>
    ∃ before, msgs = before ++ frame.rest ∧ AllFiled (s.view i) before ∧ StageOk s i stage
  | .marking .done | .finished => AllFiled s.committed msgs
  | .marking _ | .raised => False

variable {payload : Json} {msgs : List Json} {l : TaskPhase}

theorem PhaseOk.mono (h : PhaseOk db payload msgs s i l)
    (hview : ∀ wamid ∈ fileWamids (s.view i), wamid ∈ fileWamids (s'.view i))
    (hcommitted : ∀ wamid ∈ fileWamids s.committed, wamid ∈ fileWamids s'.committed) :
    PhaseOk db payload msgs s' i l := by
  cases l with
  | looping tx frame stage =>
    obtain ⟨before, hmsgs, hfiled, hstage⟩ := h
    refine ⟨before, hmsgs, hfiled.mono hview, ?_⟩
    cases stage with
    | reread m wamid => exact ⟨hstage.1, hview wamid hstage.2⟩
    | _ => trivial
  | marking state =>
    cases state with
    | done => exact AllFiled.mono h hcommitted
    | _ => exact h
  | finished => exact AllFiled.mono h hcommitted
  | _ => exact h

theorem Undisturbed.fileWamids_view (h : Undisturbed j s s') (hij : i ≠ j) :
    ∀ wamid ∈ fileWamids (s.view i), wamid ∈ fileWamids (s'.view i) := by
  intro wamid hw
  obtain ⟨f, hf, hfw⟩ := mem_fileWamids.mp hw
  exact mem_fileWamids.mpr ⟨f, h.visible i hij f hf, hfw⟩

theorem Undisturbed.fileWamids_committed (h : Undisturbed j s s') :
    ∀ wamid ∈ fileWamids s.committed, wamid ∈ fileWamids s'.committed := by
  intro wamid hw
  obtain ⟨f, hf, hfw⟩ := mem_fileWamids.mp hw
  exact mem_fileWamids.mpr ⟨f, h.committed f hf, hfw⟩

/-- The statements never change what identifies the senders, nor the content of the rows. -/
structure Unchanged (db : Db) (s : TaskShared) : Prop where
  routes : s.rest.routes = db.routes
  contacts : s.rest.contacts = db.contacts
  rows : ∀ j, (inboxRow s.rest j).map Inbox.content = (inboxRow db j).map Inbox.content

theorem Unchanged.next (h : Unchanged db s) (hu : Undisturbed j s s') : Unchanged db s' where
  routes := hu.routes.trans h.routes
  contacts := hu.contacts.trans h.contacts
  rows k := (hu.rows k).trans (h.rows k)

theorem Unchanged.resolve (h : Unchanged db s) (phoneNumberId : Option String) (payload : Json) :
    resolveFullContext (s.view i) phoneNumberId payload =
      resolveFullContext db phoneNumberId payload := by
  have hroute : ∀ number, activeRoute (s.view i) number = activeRoute db number := by
    intro number
    unfold activeRoute
    have hroutes : (s.view i).routes = db.routes := h.routes
    rw [hroutes]
  have hcontact : ∀ phone tenantId, resolveContact (s.view i) phone tenantId =
      resolveContact db phone tenantId := by
    intro phone tenantId
    unfold resolveContact
    have hcontacts : (s.view i).contacts = db.contacts := h.contacts
    rw [hcontacts]
  unfold resolveFullContext resolveRoute
  simp only [hroute, hcontact]

/-! ## The statements of one task -/

/-- The task is about to insert a session although it would now find an open one of its
contact: another task has committed it since the lookup. -/
def raced (c : InboxTasks) (i : Nat) : Bool :=
  match c.phase i with
  | .creating tx => (openSession (c.shared.view i) tx.ctx.contactId).isSome
  | _ => false

/-- The statement is no raced insert, and the queue accepts the job. -/
def Unraced (c : InboxTasks) : TaskAction → Prop
  | .create i _ => raced c i = false
  | .enqueue _ accepted => accepted = true
  | _ => True

instance (c : InboxTasks) (a : TaskAction) : Decidable (Unraced c a) := by
  cases a <;> unfold Unraced <;> infer_instance

theorem phaseOfRow_ok (hg : Genuine env db i payload msgs) (hs : Unchanged db s) :
    PhaseOk db payload msgs s' i (phaseOfRow env (inboxRow s.rest i)) := by
  obtain ⟨⟨row, hrow, hsigned, hdecode, ctx, hctx⟩, -, -⟩ := hg
  have hcontent := hs.rows i
  rw [hrow, Option.map_some] at hcontent
  obtain ⟨now, hnow, hsame⟩ := Option.map_eq_some_iff.mp hcontent
  simp only [Inbox.content, Prod.mk.injEq] at hsame
  obtain ⟨hpayload, hsignature, hnumber⟩ := hsame
  rw [hnow]
  simp only [phaseOfRow, hsignature, hsigned, if_true, hpayload, hdecode]
  exact ⟨rfl, ctx, by rw [hnumber]; exact hctx⟩

/-- A session insert that is not raced does not fail. -/
theorem insert_session_unraced {newId : UUID} {tx : TaskTx}
    (hnew : s.sessions.rows.any (·.row.id == newId) = false)
    (hopen : openSession (s.view i) tx.ctx.contactId = none) :
    s.sessions.insertBy i
      (newSession newId tx.now tx.ctx.tenantId tx.ctx.contactId tx.ctx.orgUnitId) ≠ .conflict := by
  intro hconflict
  obtain ⟨a, ha, hclash⟩ := Heap.clash_of_conflict hconflict
  simp only [clash, Bool.or_eq_true, sameKey_iff, Option.some.injEq] at hclash
  rcases hclash with ⟨key, hid, hkey⟩ | ⟨contact, hcontact, hkey⟩
  · obtain ⟨v, hv, -, rfl⟩ := Heap.mem_select.mp ha
    have hused := List.any_eq_false.mp hnew v hv
    have hsame : v.row.id = newId := hid.trans hkey.symm
    simp [hsame] at hused
  · -- An open session of the contact is visible.
    unfold Session.openContact at hcontact hkey
    split at hcontact
    · rename_i hopenState
      split at hkey
      · have hsame : a.contactId = tx.ctx.contactId :=
          (Option.some.inj hcontact).trans (Option.some.inj hkey).symm
        have hnone := List.find?_eq_none.mp hopen a ha
        simp [hopenState, hsame] at hnone
      · contradiction
    · contradiction

theorem countStep_ok (hg : Genuine env db i payload msgs) {tx : TaskTx} (sessionId : UUID)
    (htx : tx.payload = payload) :
    PhaseOk db payload msgs (countStep c i tx sessionId).shared i
      ((countStep c i tx sessionId).phase i) := by
  obtain ⟨found, hfound, hmsgs⟩ := bind_eq_ok.mp hg.messages
  unfold countStep
  rw [htx, hfound]
  cases found with
  | none =>
    cases hmsgs
    simp only [Processes.advance_phase_self]
    exact ⟨[], rfl, nofun, trivial⟩
  | some messages =>
    simp only [Processes.advance_phase_self]
    exact hmsgs

theorem joinStep_ok {tx : TaskTx} {sessionId : UUID} {seq : Int} {messages : Json}
    (h : messages.iter = .ok msgs) :
    PhaseOk db payload msgs (joinStep c i tx sessionId seq messages).shared i
      ((joinStep c i tx sessionId seq messages).phase i) := by
  unfold joinStep
  rw [h]
  simp only [Processes.advance_phase_self]
  exact ⟨[], rfl, nofun, trivial⟩

/-- The file of a message carries the message's wamid. -/
theorem newFile_carried {newId tenantId sessionId : UUID} {seq : Int} {msg : Json}
    {m : MediaMessage} {file : File} (hparse : parseMedia msg = .ok (some m))
    (hfile : newFile env newId tenantId sessionId seq m = .ok file) :
    ∀ wamid ∈ carriedWamid msg, file.wamid = wamid := by
  intro wamid hw
  obtain ⟨m', hm', hwamid⟩ := parseMedia_carried hparse hw
  cases hm'
  exact newFile_wamid hwamid hfile

/-- The row of a storable media message can be written, whatever its ids. -/
theorem newFile_of_storable {msg : Json} {m : MediaMessage} (h : storable env msg = true)
    (hparse : parseMedia msg = .ok (some m)) (newId tenantId sessionId : UUID) (seq : Int) :
    (∃ file, newFile env newId tenantId sessionId seq m = .ok file) ∧
      (selectText m.wamid).isOk = true := by
  simp only [storable, hparse, Bool.and_eq_true] at h
  obtain ⟨hdraft, hselect⟩ := h
  refine ⟨?_, hselect⟩
  rw [newFile_eq]
  cases hd : draftFile env m with
  | error e =>
    rw [hd] at hdraft
    contradiction
  | ok draft => exact ⟨draft.placed newId tenantId sessionId seq, rfl⟩

/-- After its insert a task sees the file beside those it has seen before. -/
theorem fileWamids_inserted {file : File} {files : Heap Nat File}
    (hins : s.files.insertBy i file = .inserted files) {wamid : String}
    (hw : wamid ∈ fileWamids (s.view i) ∨ wamid = file.wamid) :
    wamid ∈ fileWamids (TaskShared.view { s with files := files } i) := by
  have hrows : (files.visible i).rows = (s.files.visible i).rows ++ [file] :=
    Heap.visible_insertBy hins
  simp only [fileWamids, TaskShared.view, hrows, List.map_append, List.mem_append]
  exact hw.imp_right fun he => by simp [he]

/-- A visible file is in the way of a file with an unused id only if it has the wamid. -/
theorem fileWamids_conflict {file : File}
    (hnew : s.files.rows.any (·.row.id == file.id) = false)
    (hconflict : s.files.insertBy i file = .conflict) :
    file.wamid ∈ fileWamids (s.view i) := by
  obtain ⟨a, ha, hclash⟩ := Heap.clash_of_conflict hconflict
  simp only [clash, Bool.or_eq_true, sameKey, beq_iff_eq] at hclash
  rcases hclash with hid | hwamid
  · obtain ⟨v, hv, -, rfl⟩ := Heap.mem_select.mp ha
    have hused := List.any_eq_false.mp hnew v hv
    simp [hid] at hused
  · exact mem_fileWamids.mpr ⟨a, ha, hwamid⟩

theorem registerStep_ok {newId : UUID} {tx : TaskTx} {frame : LoopFrame} {msg : Json}
    {rest before : List Json}
    (hnew : c.shared.files.rows.any (·.row.id == newId) = false)
    (hmsgs : msgs = before ++ msg :: rest) (hfiled : AllFiled (c.shared.view i) before)
    (hstorable : storable env msg = true)
    (h : registerStep env c i newId tx frame msg rest = some c') :
    PhaseOk db payload msgs c'.shared i (c'.phase i) := by
  have hnext : msgs = (before ++ [msg]) ++ rest := by rw [hmsgs, List.append_assoc]; rfl
  unfold registerStep at h
  split at h
  · rename_i hparse
    simp [storable, hparse] at hstorable
  · rename_i hparse
    cases h
    rw [Processes.advance_phase_self]
    refine ⟨before ++ [msg], hnext, hfiled.snoc ?_, trivial⟩
    intro wamid hw
    obtain ⟨m, hm, -⟩ := parseMedia_carried hparse hw
    cases hm
  · rename_i m hparse
    obtain ⟨⟨file, hfile⟩, hselect⟩ :=
      newFile_of_storable hstorable hparse newId tx.ctx.tenantId frame.sessionId (frame.seq + 1)
    have hcarried := newFile_carried hparse hfile
    rw [hfile] at h
    simp only at h
    split at h
    · rename_i files hins
      cases h
      rw [Processes.advance_phase_self]
      refine ⟨before ++ [msg], hnext, ?_, trivial⟩
      refine (hfiled.mono fun wamid hw => fileWamids_inserted hins (Or.inl hw)).snoc
        fun wamid hw => ?_
      exact fileWamids_inserted hins (Or.inr (hcarried wamid hw).symm)
    · rename_i hconflict
      cases h
      rw [Processes.advance_phase_self]
      obtain ⟨hid, -⟩ := newFile_ok hfile
      have hheld : file.wamid ∈ fileWamids (c.shared.view i) :=
        fileWamids_conflict (by rw [hid]; exact hnew) hconflict
      refine ⟨before ++ [msg], hnext, hfiled.snoc fun wamid hw => ?_, hselect, hheld⟩
      rw [← hcarried wamid hw]
      exact hheld
    · contradiction

theorem rereadStep_ok {tx : TaskTx} {frame : LoopFrame} {m : MediaMessage} {wamid : String}
    (h : PhaseOk db payload msgs c.shared i (.looping tx frame (.reread m wamid))) :
    PhaseOk db payload msgs (rereadStep c i tx frame m wamid).shared i
      ((rereadStep c i tx frame m wamid).phase i) := by
  obtain ⟨before, hmsgs, hfiled, hselect, hheld⟩ := h
  obtain ⟨old, hold, -⟩ := fileOfWamid_of_mem hheld
  unfold rereadStep
  cases hs : selectText m.wamid with
  | error e =>
    rw [hs] at hselect
    contradiction
  | ok text =>
    simp only [hold, Processes.advance_phase_self]
    exact ⟨before, hmsgs, hfiled, trivial⟩

theorem arriveStep_ok {tx : TaskTx} {frame : LoopFrame} {fileId : UUID}
    (h : PhaseOk db payload msgs c.shared i (.looping tx frame (.arrive fileId)))
    (hstep : arriveStep c i tx frame fileId = some c') :
    PhaseOk db payload msgs c'.shared i (c'.phase i) := by
  obtain ⟨before, hmsgs, hfiled, -⟩ := h
  unfold arriveStep at hstep
  simp only at hstep
  split at hstep
  · split at hstep
    · contradiction
    · cases hstep
      simp only [Processes.advance_phase_self]
      exact ⟨before, hmsgs, hfiled, trivial⟩
  · cases hstep
    simp only [Processes.advance_phase_self]
    exact ⟨before, hmsgs, hfiled, trivial⟩

theorem enqueueStep_ok {tx : TaskTx} {frame : LoopFrame} {fileId : UUID} {accepted : Bool}
    (h : PhaseOk db payload msgs c.shared i (.looping tx frame (.enqueue fileId)))
    (haccepted : accepted = true) :
    PhaseOk db payload msgs (enqueueStep c i tx frame fileId accepted).shared i
      ((enqueueStep c i tx frame fileId accepted).phase i) := by
  obtain ⟨before, hmsgs, hfiled, -⟩ := h
  simp only [enqueueStep, haccepted, if_true, Processes.advance_phase_self]
  exact ⟨before, hmsgs, hfiled, trivial⟩

/-- The commit makes what the task sees visible to all. -/
theorem commit_ok {tx : TaskTx} {frame : LoopFrame} (hrest : frame.rest = [])
    (h : PhaseOk db payload msgs c.shared i (.looping tx frame .register)) :
    PhaseOk db payload msgs (c.shared.commit i) i (.marking .done) := by
  obtain ⟨before, hmsgs, hfiled, -⟩ := h
  rw [hrest, List.append_nil] at hmsgs
  rw [hmsgs]
  apply hfiled.mono
  intro wamid hw
  obtain ⟨f, hf, hfw⟩ := mem_fileWamids.mp hw
  have hcommitted : (c.shared.files.commit i).committed = c.shared.files.visible i :=
    Heap.committed_commit c.shared.files i
  refine mem_fileWamids.mpr ⟨f, ?_, hfw⟩
  simp only [TaskShared.committed, TaskShared.commit, hcommitted]
  exact hf

/-- A statement of the row's own task that is not raced takes it to a phase that knows as
much. -/
theorem taskStep_ok {a : TaskAction} (hg : Genuine env db a.task payload msgs)
    (hs : Unchanged db c.shared)
    (hok : PhaseOk db payload msgs c.shared a.task (c.phase a.task))
    (h : taskStep env c a = some c') (hu : Unraced c a) :
    PhaseOk db payload msgs c'.shared a.task (c'.phase a.task) := by
  cases a with
  | load i =>
    obtain ⟨-, rfl⟩ := InboxTasks.load_inv h
    rw [TaskAction.task, Processes.advance_phase_self]
    exact phaseOfRow_ok hg hs
  | resolve i now =>
    obtain ⟨row, decoded, hphase, rfl⟩ := InboxTasks.resolve_inv h
    rw [TaskAction.task, hphase] at hok
    obtain ⟨rfl, ctx, hctx⟩ := hok
    rw [TaskAction.task, Processes.advance_phase_self, hs.resolve, hctx]
    rfl
  | search i =>
    obtain ⟨tx, hphase, hnext⟩ := InboxTasks.search_inv h
    rw [TaskAction.task, hphase] at hok
    rcases hnext with ⟨s, -, rfl⟩ | ⟨-, rfl⟩
    · rw [TaskAction.task, Processes.advance_phase_self]
      exact hok
    · rw [TaskAction.task, Processes.advance_phase_self]
      exact hok
  | create i newId =>
    obtain ⟨tx, hphase, hnew, hnext⟩ := InboxTasks.create_inv h
    rw [TaskAction.task, hphase] at hok
    rcases hnext with ⟨sessions, -, rfl⟩ | ⟨hconflict, -⟩
    · rw [TaskAction.task, Processes.advance_phase_self]
      exact hok
    · have hnone : openSession (c.shared.view i) tx.ctx.contactId = none := by
        simpa [Unraced, raced, hphase] using hu
      exact absurd hconflict (insert_session_unraced hnew hnone)
  | count i =>
    obtain ⟨tx, sessionId, hphase, rfl⟩ := InboxTasks.count_inv h
    rw [TaskAction.task, hphase] at hok
    exact countStep_ok hg sessionId hok
  | join i =>
    obtain ⟨tx, sessionId, seq, messages, hphase, rfl⟩ := InboxTasks.join_inv h
    rw [TaskAction.task, hphase] at hok
    exact joinStep_ok hok
  | register i newId =>
    obtain ⟨tx, frame, msg, rest, hphase, hrest, hnew, hstep⟩ := InboxTasks.register_inv h
    rw [TaskAction.task, hphase] at hok
    obtain ⟨before, hmsgs, hfiled, -⟩ := hok
    rw [hrest] at hmsgs
    have hmem : msg ∈ msgs := by simp [hmsgs]
    exact registerStep_ok hnew hmsgs hfiled (hg.storable msg hmem) hstep
  | reread i =>
    obtain ⟨tx, frame, m, wamid, hphase, rfl⟩ := InboxTasks.reread_inv h
    rw [TaskAction.task, hphase] at hok
    exact rereadStep_ok hok
  | arrive i =>
    obtain ⟨tx, frame, fileId, hphase, hstep⟩ := InboxTasks.arrive_inv h
    rw [TaskAction.task, hphase] at hok
    exact arriveStep_ok hok hstep
  | enqueue i accepted =>
    obtain ⟨tx, frame, fileId, hphase, rfl⟩ := InboxTasks.enqueue_inv h
    rw [TaskAction.task, hphase] at hok
    exact enqueueStep_ok hok hu
  | commit i =>
    obtain ⟨tx, frame, hphase, hrest, rfl⟩ := InboxTasks.commit_inv h
    rw [TaskAction.task, hphase] at hok
    rw [TaskAction.task, Processes.advance_phase_self]
    exact commit_ok hrest hok
  | mark i =>
    obtain ⟨state, hphase, rfl⟩ := InboxTasks.mark_inv h
    rw [TaskAction.task, hphase] at hok
    rw [TaskAction.task, Processes.advance_phase_self]
    cases state with
    | done => exact hok
    | _ => exact hok.elim

/-! ## Runs -/

/-- What holds of a genuine row and its task along a run. -/
structure Served (db : Db) (i : Nat) (payload : Json) (msgs : List Json) (c : InboxTasks) :
    Prop where
  unchanged : Unchanged db c.shared
  phase : PhaseOk db payload msgs c.shared i (c.phase i)

theorem served_start (db : Db) (i : Nat) (payload : Json) (msgs : List Json) :
    Served db i payload msgs (taskStart db) :=
  ⟨⟨rfl, rfl, fun _ => rfl⟩, trivial⟩

theorem Served.step {a : TaskAction} (hg : Genuine env db i payload msgs)
    (h : Served db i payload msgs c) (hu : Unraced c a) (hstep : taskStep env c a = some c') :
    Served db i payload msgs c' := by
  obtain ⟨s, l, rfl, hs⟩ := taskStep_moves hstep
  refine ⟨h.unchanged.next hs, ?_⟩
  by_cases ha : a.task = i
  · subst ha
    exact taskStep_ok hg h.unchanged h.phase hstep hu
  · have hother : i ≠ a.task := fun he => ha he.symm
    rw [Processes.advance_phase_of_ne hother]
    exact h.phase.mono (hs.fileWamids_view hother) hs.fileWamids_committed

/-- In every run without a raced insert, whose jobs the queue accepts, every media message
of a genuine row has a file once the row's task has ended. -/
theorem ended_tasks_on_file (env : Env) {db : Db} {as : List TaskAction} {c : InboxTasks}
    {i : Nat} {payload : Json} {msgs : List Json} (hg : Genuine env db i payload msgs)
    (hrun : run (taskStep env) (taskStart db) as = some c)
    (hunraced : Meets (taskStep env) Unraced (taskStart db) as)
    (hended : (c.phase i).ended = true) :
    ∀ msg ∈ msgs, ∀ wamid ∈ carriedWamid msg, wamid ∈ fileWamids c.shared.committed := by
  have hserved : Served db i payload msgs c :=
    run_preserves_of_meets (Served db i payload msgs)
      (fun _ _ _ h hu hstep => h.step hg hu hstep) hrun hunraced (served_start db i payload msgs)
  have hphase := hserved.phase
  cases hl : c.phase i with
  | finished =>
    rw [hl] at hphase
    exact hphase
  | raised =>
    rw [hl] at hphase
    exact hphase.elim
  | _ =>
    rw [hl] at hended
    contradiction

/-! ## Two photos at once -/

/-- A stored body of the consultant with one photo. -/
def photoRow (inboxId : Nat) (wamid : String) : Inbox :=
  ⟨inboxId, some wamid, some "PN1", webhookBody [entryOf [photoChange [wamid]]], true, .pending⟩

/-- Two stored bodies of the consultant, who has no session yet. -/
def twoPhotos : Db :=
  { boundDb with
    inbox := ((Table.singleton (photoRow 1 "w1")).insert? (photoRow 2 "w2")).getD .empty }

/-- An environment that decodes nothing, for rows that hold their payload as an object. -/
def storedOnly : Env := .ofRecording "secret" []

/-- The statements of a task from its loop to its end. -/
def loopOf (i : Nat) (fileId : UUID) : List TaskAction :=
  [.count i, .join i, .register i fileId, .arrive i, .enqueue i true, .commit i, .mark i]

/-- The second task looks for the open session after the first one has committed it. -/
def inTurn : List TaskAction :=
  [.load 1, .load 2, .resolve 1 0, .resolve 2 0, .search 1, .create 1 7] ++ loopOf 1 101 ++
    [.search 2] ++ loopOf 2 102

/-- Both tasks find no open session, and the second one inserts after the first has ended. -/
def racing : List TaskAction :=
  [.load 1, .load 2, .resolve 1 0, .resolve 2 0, .search 1, .search 2, .create 1 7] ++
    loopOf 1 101 ++ [.create 2 8, .mark 2]

/-- Both tasks have ended, and the wamids of the files. -/
def outcome (c : InboxTasks) : Bool × Bool × List String :=
  ((c.phase 1).ended, (c.phase 2).ended, fileWamids c.shared.committed)

theorem genuine_photoRow {inboxId : Nat} {wamid : String}
    (hrow : inboxRow twoPhotos inboxId = some (photoRow inboxId wamid))
    (hstorable : storable storedOnly (consultantPhoto wamid) = true) :
    Genuine storedOnly twoPhotos inboxId (webhookBody [entryOf [photoChange [wamid]]])
      [consultantPhoto wamid] where
  row := ⟨_, hrow, rfl, rfl, ⟨2, 6, 5, 3, .en, 1⟩, rfl⟩
  messages := rfl
  storable := by simpa using hstorable

theorem genuine_second : Genuine storedOnly twoPhotos 2
    (webhookBody [entryOf [photoChange ["w2"]]]) [consultantPhoto "w2"] :=
  genuine_photoRow rfl (by decide)

/-- Two photos that are handled in turn are both on file. -/
theorem ended_tasks_on_file_inTurn :
    ∃ c, run (taskStep storedOnly) (taskStart twoPhotos) inTurn = some c ∧
      outcome c = (true, true, ["w1", "w2"]) ∧
      ∀ msg ∈ [consultantPhoto "w2"], ∀ wamid ∈ carriedWamid msg,
        wamid ∈ fileWamids c.shared.committed := by
  have hrun : (run (taskStep storedOnly) (taskStart twoPhotos) inTurn).map outcome =
      some (true, true, ["w1", "w2"]) := by decide
  obtain ⟨c, hc, houtcome⟩ := Option.map_eq_some_iff.mp hrun
  have hended : (c.phase 2).ended = true := congrArg (fun o => o.2.1) houtcome
  exact ⟨c, hc, houtcome, ended_tasks_on_file storedOnly genuine_second hc (by decide) hended⟩

/-- When the two tasks race for the session, the photo of the second one is lost. -/
theorem raced_photo_lost :
    Genuine storedOnly twoPhotos 1 (webhookBody [entryOf [photoChange ["w1"]]])
        [consultantPhoto "w1"] ∧
      Genuine storedOnly twoPhotos 2 (webhookBody [entryOf [photoChange ["w2"]]])
        [consultantPhoto "w2"] ∧
      carriedWamid (consultantPhoto "w2") = some "w2" ∧
      ∃ c, run (taskStep storedOnly) (taskStart twoPhotos) racing = some c ∧
        (c.phase 1).ended = true ∧ (c.phase 2).ended = true ∧
        "w2" ∉ fileWamids c.shared.committed := by
  have hrun : (run (taskStep storedOnly) (taskStart twoPhotos) racing).map outcome =
      some (true, true, ["w1"]) := by decide
  obtain ⟨c, hc, houtcome⟩ := Option.map_eq_some_iff.mp hrun
  have hfiles : fileWamids c.shared.committed = ["w1"] := congrArg (fun o => o.2.2) houtcome
  refine ⟨genuine_photoRow rfl (by decide), genuine_second, by decide, c, hc,
    congrArg (fun o => o.1) houtcome, congrArg (fun o => o.2.1) houtcome, ?_⟩
  rw [hfiles]
  decide

end WaService
