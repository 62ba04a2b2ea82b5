import WaService.Core.Run
import WaService.Correctness.SessionOutcome
import WaService.Correctness.SessionRace

/-!
# The order of a session's files

A task numbers its files from the `MAX(received_seq)` that it has read, and nothing keeps another
task from reading the same one. Within one payload the numbers rise in the order of the messages.
The numbers of a session are distinct as long as no task commits files of a session to which
another task has committed files since the maximum was read.
-/

namespace WaService

open Python Relational Transition

/-! ## Numbers -/

/-- Two files of a session have different numbers. -/
def SeqsDistinct (db : Db) : Prop :=
  ∀ f ∈ db.files.rows, ∀ g ∈ db.files.rows, f.sessionId = g.sessionId →
    f.receivedSeq = g.receivedSeq → f = g

theorem seqsDistinct_congr {db db' : Db} (h : db'.files = db.files) :
    SeqsDistinct db' ↔ SeqsDistinct db := by
  unfold SeqsDistinct
  rw [h]

/-- The file is the row of the media message. -/
def StoredFor (env : Env) (f : File) (msg : Json) : Prop :=
  ∃ m newId tenantId sessionId seq, parseMedia msg = .ok (some m) ∧
    newFile env newId tenantId sessionId seq m = .ok f

/-- The files are the rows of some of the messages, in their order, with rising numbers. -/
structure InMessageOrder (env : Env) (files : List File) (msgs : List Json) : Prop where
  stored : ∃ kept, kept.Sublist msgs ∧ List.Forall₂ (StoredFor env) files kept
  rising : files.Pairwise fun f g => f.receivedSeq < g.receivedSeq

/-! ## The system -/

/-- A file with its session and its number. -/
structure FileSlot where
  fileId : UUID
  sessionId : UUID
  receivedSeq : Int
  deriving DecidableEq

def File.slot (f : File) : FileSlot := ⟨f.id, f.sessionId, f.receivedSeq⟩

/-- The tasks, and the files that were committed when each task last read the maximum. -/
structure CountedTasks where
  tasks : InboxTasks
  counted : Nat → List FileSlot

/-- The files that are committed. -/
def CountedTasks.stored (c : CountedTasks) : List File := c.tasks.shared.files.committed.rows

/-- The files that the open transaction of the task has inserted. -/
def CountedTasks.written (c : CountedTasks) (i : Nat) : List File :=
  (c.tasks.shared.files.written i).rows

/-- What the tasks have seen committed after the statement. -/
def countedAfter (c : CountedTasks) : TaskAction → Nat → List FileSlot
  | .count i => Function.update c.counted i (c.stored.map File.slot)
  | _ => c.counted

/-- The statements of the tasks. -/
def countedStep (env : Env) (c : CountedTasks) (a : TaskAction) : Option CountedTasks :=
  (taskStep env c.tasks a).map fun tasks => ⟨tasks, countedAfter c a⟩

/-- Tasks about to start on a database. -/
def countedStart (db : Db) : CountedTasks := ⟨taskStart db, fun _ => []⟩

/-- A task commits files of a session only if every file that is committed in the session was so
when the task read the maximum. -/
def CommitsFresh (c : CountedTasks) : TaskAction → Prop
  | .commit i => ∀ f ∈ c.written i, ∀ g ∈ c.stored, g.sessionId = f.sessionId → g.slot ∈ c.counted i
  | _ => True

/-- The files that a task commits are in the order of the messages of its payload. -/
def CommitsInOrder (env : Env) (c : CountedTasks) : TaskAction → Prop
  | .commit i => ∀ tx frame, c.tasks.phase i = .looping tx frame .register → frame.rest = [] →
      ∃ msgs, inboundMessages tx.payload = .ok msgs ∧ InMessageOrder env (c.written i) msgs
  | _ => True

/-! ## Message order -/

section Order

variable {env : Env} {files : List File} {msgs : List Json} {f : File} {msg : Json}

theorem inMessageOrder_nil : InMessageOrder env [] msgs :=
  ⟨⟨[], List.nil_sublist msgs, .nil⟩, .nil⟩

/-- A message without a new row. -/
theorem InMessageOrder.skip (h : InMessageOrder env files msgs) (msg : Json) :
    InMessageOrder env files (msgs ++ [msg]) := by
  obtain ⟨⟨kept, hsub, hstored⟩, hrising⟩ := h
  exact ⟨⟨kept, hsub.trans (List.sublist_append_left msgs [msg]), hstored⟩, hrising⟩

/-- A message with a row whose number is above the others. -/
theorem InMessageOrder.snoc (h : InMessageOrder env files msgs) (hf : StoredFor env f msg)
    (habove : ∀ g ∈ files, g.receivedSeq < f.receivedSeq) :
    InMessageOrder env (files ++ [f]) (msgs ++ [msg]) := by
  obtain ⟨⟨kept, hsub, hstored⟩, hrising⟩ := h
  refine ⟨⟨kept ++ [msg], hsub.append (List.Sublist.refl [msg]), ?_⟩, ?_⟩
  · exact List.rel_append hstored (.cons hf .nil)
  · apply List.pairwise_append.mpr
    refine ⟨hrising, List.pairwise_singleton _ f, ?_⟩
    intro g hg f' hf'
    rw [List.mem_singleton.mp hf']
    exact habove g hg

/-- Files in order have different numbers. -/
theorem InMessageOrder.distinct (h : InMessageOrder env files msgs) :
    ∀ f ∈ files, ∀ g ∈ files, f.receivedSeq = g.receivedSeq → f = g := by
  have hnodup : (files.map (·.receivedSeq)).Nodup :=
    List.pairwise_map.mpr (h.rising.imp fun hlt => ne_of_lt hlt)
  intro f hf g hg hseq
  exact List.inj_on_of_nodup_map hnodup hf hg hseq

end Order

/-! ## What a task knows of its numbers -/

/-- What the loop has inserted so far, and where it goes on. -/
structure LoopNumbered (env : Env) (counted : List FileSlot) (written : List File) (tx : TaskTx)
    (frame : LoopFrame) : Prop where
  order : ∃ before, inboundMessages tx.payload = .ok (before ++ frame.rest) ∧
    InMessageOrder env written before
  session : ∀ f ∈ written, f.sessionId = frame.sessionId
  below : ∀ f ∈ written, f.receivedSeq ≤ frame.seq
  /-- The inserted files come after those that were committed when the task counted. -/
  above : ∀ f ∈ written, ∀ g ∈ counted, g.sessionId = f.sessionId →
    g.receivedSeq < f.receivedSeq
  /-- While messages are left, so does the next one. -/
  next : frame.rest ≠ [] → ∀ g ∈ counted, g.sessionId = frame.sessionId →
    g.receivedSeq ≤ frame.seq

/-- What is known of a task's numbers in each phase. -/
def Numbered (env : Env) (counted : List FileSlot) (written : List File) : TaskPhase → Prop
  | .joining tx sessionId seq messages => written = [] ∧
      payloadMessages tx.payload = .ok (some messages) ∧
      ∀ g ∈ counted, g.sessionId = sessionId → g.receivedSeq ≤ seq
  | .looping tx frame _ => LoopNumbered env counted written tx frame
  | _ => written = []

/-- What is known of the numbers of a task. -/
def CountedTasks.Numbers (env : Env) (c : CountedTasks) (i : Nat) : Prop :=
  Numbered env (c.counted i) (c.written i) (c.tasks.phase i)

/-- No file of the session has a number above the maximum. -/
theorem le_maxReceivedSeq {db : Db} {f : File} (hf : f ∈ db.files.rows) :
    f.receivedSeq ≤ maxReceivedSeq db f.sessionId := by
  have hmem : f.receivedSeq ∈ (db.files.rows.filter fun g => g.sessionId == f.sessionId).map
      (·.receivedSeq) :=
    List.mem_map_of_mem (List.mem_filter.mpr ⟨hf, beq_self_eq_true _⟩)
  unfold maxReceivedSeq
  cases hmax : ((db.files.rows.filter fun g => g.sessionId == f.sessionId).map
      (·.receivedSeq)).max? with
  | none =>
    rw [List.max?_eq_none_iff.mp hmax] at hmem
    cases hmem
  | some m => exact (List.max?_le_iff hmax).mp (le_refl m) f.receivedSeq hmem

/-! ## What a statement does to the files -/

/-- What a statement does to the stored files. -/
inductive FilesMove (files files' : Heap Nat File) : TaskAction → Prop
  | stay {a : TaskAction} (h : files' = files) : FilesMove files files' a
  | insert {a : TaskAction} (f : File) (h : files.insertBy a.task f = .inserted files') :
    FilesMove files files' a
  | commit {i : Nat} (h : files' = files.commit i) : FilesMove files files' (.commit i)
  | rollback {a : TaskAction} (h : files' = files.rollback a.task) : FilesMove files files' a

section Moves

variable {env : Env} {c c' : InboxTasks} {a : TaskAction} {files files' : Heap Nat File}

/-- The other transactions keep what they have inserted. -/
theorem FilesMove.written_of_ne (h : FilesMove files files' a) {j : Nat} (hj : j ≠ a.task) :
    files'.written j = files.written j := by
  cases h with
  | stay h => rw [h]
  | insert f h => exact Heap.written_insertBy_of_ne h hj
  | commit h =>
    rw [h]
    exact Heap.written_commit_of_ne files hj
  | rollback h => rw [h, Heap.written_rollback_of_ne files hj]

/-- The task of the statement moves, and the files change by the statement. -/
def TaskMoves (a : TaskAction) (c c' : InboxTasks) : Prop :=
  (∃ l, c' = c.advance a.task c'.shared l) ∧ FilesMove c.shared.files c'.shared.files a

theorem TaskMoves.stay (s : TaskShared) (l : TaskPhase) (h : s.files = c.shared.files) :
    TaskMoves a c (c.advance a.task s l) :=
  ⟨⟨l, rfl⟩, .stay h⟩

theorem TaskMoves.abort (c : InboxTasks) (a : TaskAction) : TaskMoves a c (c.abort a.task) :=
  ⟨⟨_, rfl⟩, .rollback rfl⟩

theorem taskStep_taskMoves (h : taskStep env c a = some c') : TaskMoves a c c' := by
  cases a with
  | load i =>
    obtain ⟨-, rfl⟩ := InboxTasks.load_inv h
    exact .stay _ _ rfl
  | resolve i now =>
    obtain ⟨row, payload, -, rfl⟩ := InboxTasks.resolve_inv h
    exact .stay _ _ rfl
  | search i =>
    obtain ⟨tx, -, ⟨s, -, rfl⟩ | ⟨-, rfl⟩⟩ := InboxTasks.search_inv h
    · exact .stay _ _ rfl
    · exact .stay _ _ rfl
  | create i newId =>
    obtain ⟨tx, -, -, ⟨sessions, -, rfl⟩ | ⟨-, rfl⟩⟩ := InboxTasks.create_inv h
    · exact .stay _ _ rfl
    · exact .abort c _
  | count i =>
    obtain ⟨tx, sessionId, -, rfl⟩ := InboxTasks.count_inv h
    unfold countStep
    split
    · exact .abort c _
    · exact .stay _ _ rfl
    · exact .stay _ _ rfl
  | join i =>
    obtain ⟨tx, sessionId, seq, messages, -, rfl⟩ := InboxTasks.join_inv h
    unfold joinStep
    split
    · exact .abort c _
    · exact .stay _ _ rfl
  | register i newId =>
    obtain ⟨tx, frame, msg, rest, -, -, -, hstep⟩ := InboxTasks.register_inv h
    unfold registerStep at hstep
    split at hstep
    · cases hstep
      exact .abort c _
    · cases hstep
      exact .stay _ _ rfl
    · split at hstep
      · cases hstep
        exact .abort c _
      · simp only at hstep
        split at hstep
        · rename_i files hins
          cases hstep
          exact ⟨⟨_, rfl⟩, .insert _ hins⟩
        · cases hstep
          exact .stay _ _ rfl
        · contradiction
  | reread i =>
    obtain ⟨tx, frame, m, wamid, -, rfl⟩ := InboxTasks.reread_inv h
    unfold rereadStep
    split
    · exact .abort c _
    · split
      · exact .stay _ _ rfl
      · exact .abort c _
  | arrive i =>
    obtain ⟨tx, frame, fileId, -, hstep⟩ := InboxTasks.arrive_inv h
    unfold arriveStep at hstep
    simp only at hstep
    split at hstep
    · split at hstep
      · contradiction
      · cases hstep
        exact .stay _ _ rfl
    · cases hstep
      exact .stay _ _ rfl
  | enqueue i accepted =>
    obtain ⟨tx, frame, fileId, -, rfl⟩ := InboxTasks.enqueue_inv h
    unfold enqueueStep
    split
    · exact .stay _ _ rfl
    · exact .abort c _
  | commit i =>
    obtain ⟨tx, frame, -, -, rfl⟩ := InboxTasks.commit_inv h
    exact ⟨⟨_, rfl⟩, .commit rfl⟩
  | mark i =>
    obtain ⟨state, -, rfl⟩ := InboxTasks.mark_inv h
    exact .stay _ _ rfl

end Moves

/-! ## The numbers of the task that moves -/

section Steps

variable {env : Env} {c c' : InboxTasks} {i : Nat} {counted : List FileSlot} {written : List File}

/-- A task outside its loop has inserted nothing. -/
theorem numbered_phaseOfRow {row : Option Inbox} :
    Numbered env counted written (phaseOfRow env row) ↔ written = [] := by
  unfold phaseOfRow
  split
  · exact Iff.rfl
  · split
    · split
      · exact Iff.rfl
      · exact Iff.rfl
    · exact Iff.rfl

theorem numbered_phaseOfContext {payload : Json} {now : Timestamp}
    {ctx : Except Failure ResolvedContext} :
    Numbered env counted written (phaseOfContext payload now ctx) ↔ written = [] := by
  unfold phaseOfContext
  split
  · exact Iff.rfl
  · exact Iff.rfl
  · exact Iff.rfl

theorem abort_numbered (counted : List FileSlot) (c : InboxTasks) (i : Nat) :
    Numbered env counted ((c.abort i).shared.files.written i).rows ((c.abort i).phase i) := by
  have hnone : ((c.abort i).shared.files.written i).rows = [] :=
    Heap.written_rollback_self c.shared.files i
  rw [hnone, InboxTasks.abort, Processes.advance_phase_self]
  rfl

/-- A loop that has inserted nothing. -/
theorem loopNumbered_start {tx : TaskTx} {frame : LoopFrame}
    (hmsgs : inboundMessages tx.payload = .ok frame.rest)
    (hnext : frame.rest ≠ [] → ∀ g ∈ counted, g.sessionId = frame.sessionId →
      g.receivedSeq ≤ frame.seq) : LoopNumbered env counted [] tx frame where
  order := ⟨[], hmsgs, inMessageOrder_nil⟩
  session _ hf := absurd hf List.not_mem_nil
  below _ hf := absurd hf List.not_mem_nil
  above _ hf := absurd hf List.not_mem_nil
  next := hnext

/-- The count starts from a number that no committed file of the session exceeds. -/
theorem countStep_numbered {tx : TaskTx} {sessionId : UUID}
    (hnone : (c.shared.files.written i).rows = []) :
    Numbered env (c.shared.files.committed.rows.map File.slot)
      ((countStep c i tx sessionId).shared.files.written i).rows
      ((countStep c i tx sessionId).phase i) := by
  unfold countStep
  split
  · exact abort_numbered _ c i
  · rename_i hmissing
    rw [Processes.advance_phase_self, Processes.advance_shared, hnone]
    apply loopNumbered_start
    · simp only [inboundMessages, hmissing]
      rfl
    · intro hleft
      exact absurd rfl hleft
  · rename_i messages hfound
    rw [Processes.advance_phase_self, Processes.advance_shared]
    refine ⟨hnone, hfound, ?_⟩
    intro p hp hsession
    obtain ⟨g, hg, rfl⟩ := List.mem_map.mp hp
    rw [← hsession]
    have hseen : g ∈ (c.shared.view i).files.rows := Heap.committed_subset hg
    exact le_maxReceivedSeq hseen

theorem joinStep_numbered {tx : TaskTx} {sessionId : UUID} {seq : Int} {messages : Json}
    (h : Numbered env counted (c.shared.files.written i).rows
      (.joining tx sessionId seq messages)) :
    Numbered env counted ((joinStep c i tx sessionId seq messages).shared.files.written i).rows
      ((joinStep c i tx sessionId seq messages).phase i) := by
  obtain ⟨hnone, hfound, hbelow⟩ := h
  unfold joinStep
  split
  · exact abort_numbered _ c i
  · rename_i msgs hiter
    rw [Processes.advance_phase_self, Processes.advance_shared, hnone]
    apply loopNumbered_start
    · simp only [inboundMessages, hfound]
      exact hiter
    · intro _
      exact hbelow

/-- A message takes the next number, or none. -/
theorem registerStep_numbered {newId : UUID} {tx : TaskTx} {frame : LoopFrame} {msg : Json}
    {rest : List Json} (hrest : frame.rest = msg :: rest)
    (h : LoopNumbered env counted (c.shared.files.written i).rows tx frame)
    (hstep : registerStep env c i newId tx frame msg rest = some c') :
    Numbered env counted (c'.shared.files.written i).rows (c'.phase i) := by
  obtain ⟨⟨before, hmsgs, horder⟩, hsession, hbelow, habove, hnext⟩ := h
  have hleft : frame.rest ≠ [] := by
    rw [hrest]
    exact List.cons_ne_nil msg rest
  rw [hrest, List.append_cons] at hmsgs
  unfold registerStep at hstep
  split at hstep
  · cases hstep
    exact abort_numbered _ c i
  · cases hstep
    rw [Processes.advance_phase_self, Processes.advance_shared]
    exact ⟨⟨before ++ [msg], hmsgs, horder.skip msg⟩, hsession, hbelow, habove,
      fun _ => hnext hleft⟩
  · rename_i m hparse
    split at hstep
    · cases hstep
      exact abort_numbered _ c i
    · rename_i file hfile
      obtain ⟨-, -, hfileSession, hseq, -, -⟩ := newFile_ok hfile
      simp only at hstep
      split at hstep
      · rename_i files hins
        cases hstep
        have hwritten : (files.written i).rows = (c.shared.files.written i).rows ++ [file] :=
          Heap.written_insertBy hins
        rw [Processes.advance_phase_self, Processes.advance_shared, hwritten]
        constructor
        · refine ⟨before ++ [msg], hmsgs, horder.snoc ⟨m, _, _, _, _, hparse, hfile⟩ ?_⟩
          intro g hg
          have hlast := hbelow g hg
          omega
        · intro f hf
          rcases List.mem_append.mp hf with hf | hf
          · exact hsession f hf
          · rw [List.mem_singleton.mp hf]
            exact hfileSession
        · intro f hf
          rcases List.mem_append.mp hf with hf | hf
          · have hlast := hbelow f hf
            simp only
            omega
          · rw [List.mem_singleton.mp hf, hseq]
        · intro f hf g hg hsame
          rcases List.mem_append.mp hf with hf | hf
          · exact habove f hf g hg hsame
          · rw [List.mem_singleton.mp hf] at hsame ⊢
            have hcounted := hnext hleft g hg (hsame.trans hfileSession)
            omega
        · intro _ g hg hsame
          have hcounted := hnext hleft g hg hsame
          simp only
          omega
      · cases hstep
        rw [Processes.advance_phase_self, Processes.advance_shared]
        refine ⟨⟨before ++ [msg], hmsgs, horder.skip msg⟩, hsession, ?_, habove, ?_⟩
        · intro f hf
          have hlast := hbelow f hf
          simp only
          omega
        · intro _ g hg hsame
          have hcounted := hnext hleft g hg hsame
          simp only
          omega
      · contradiction

/-- A step within the loop that keeps the frame keeps its numbers. -/
theorem LoopNumbered.stage {tx : TaskTx} {frame : LoopFrame} {s : TaskShared} (stage : LoopStage)
    (h : LoopNumbered env counted (c.shared.files.written i).rows tx frame)
    (hs : s.files = c.shared.files) :
    Numbered env counted ((c.advance i s (.looping tx frame stage)).shared.files.written i).rows
      ((c.advance i s (.looping tx frame stage)).phase i) := by
  rw [Processes.advance_phase_self, Processes.advance_shared, hs]
  exact h

theorem rereadStep_numbered {tx : TaskTx} {frame : LoopFrame} {m : MediaMessage} {wamid : String}
    (h : LoopNumbered env counted (c.shared.files.written i).rows tx frame) :
    Numbered env counted ((rereadStep c i tx frame m wamid).shared.files.written i).rows
      ((rereadStep c i tx frame m wamid).phase i) := by
  unfold rereadStep
  split
  · exact abort_numbered _ c i
  · split
    · exact h.stage _ rfl
    · exact abort_numbered _ c i

theorem arriveStep_numbered {tx : TaskTx} {frame : LoopFrame} {fileId : UUID}
    (h : LoopNumbered env counted (c.shared.files.written i).rows tx frame)
    (hstep : arriveStep c i tx frame fileId = some c') :
    Numbered env counted (c'.shared.files.written i).rows (c'.phase i) := by
  unfold arriveStep at hstep
  simp only at hstep
  split at hstep
  · split at hstep
    · contradiction
    · cases hstep
      exact h.stage _ rfl
  · cases hstep
    exact h.stage _ rfl

theorem enqueueStep_numbered {tx : TaskTx} {frame : LoopFrame} {fileId : UUID} (accepted : Bool)
    (h : LoopNumbered env counted (c.shared.files.written i).rows tx frame) :
    Numbered env counted ((enqueueStep c i tx frame fileId accepted).shared.files.written i).rows
      ((enqueueStep c i tx frame fileId accepted).phase i) := by
  unfold enqueueStep
  split
  · exact h.stage _ rfl
  · exact abort_numbered _ c i

/-- The commit leaves the task without files of its own. -/
theorem commit_numbered :
    Numbered env counted
      ((c.advance i (c.shared.commit i) (.marking .done)).shared.files.written i).rows
      ((c.advance i (c.shared.commit i) (.marking .done)).phase i) := by
  rw [Processes.advance_phase_self, Processes.advance_shared]
  exact Heap.written_commit_self c.shared.files i

end Steps

/-! ## Steps and runs -/

section Law

variable {env : Env} {c c' : CountedTasks} {a : TaskAction}

theorem countedStep_inv (h : countedStep env c a = some c') :
    taskStep env c.tasks a = some c'.tasks ∧ c'.counted = countedAfter c a := by
  obtain ⟨tasks, htasks, rfl⟩ := Option.map_eq_some_iff.mp h
  exact ⟨htasks, rfl⟩

/-- A statement keeps what is known of its own task. -/
theorem countedStep_numbers_self (h : countedStep env c a = some c')
    (hn : c.Numbers env a.task) : c'.Numbers env a.task := by
  obtain ⟨htask, hcounted⟩ := countedStep_inv h
  obtain ⟨tasks, counted⟩ := c'
  subst hcounted
  unfold CountedTasks.Numbers CountedTasks.written at *
  cases a with
  | load i =>
    obtain ⟨hphase, rfl⟩ := InboxTasks.load_inv htask
    rw [TaskAction.task, Processes.advance_phase_self]
    apply numbered_phaseOfRow.mpr
    rcases hphase with hphase | hphase
    · rw [TaskAction.task, hphase] at hn
      exact hn
    · rw [TaskAction.task, hphase] at hn
      exact hn
  | resolve i now =>
    obtain ⟨row, payload, hphase, rfl⟩ := InboxTasks.resolve_inv htask
    rw [TaskAction.task, hphase] at hn
    rw [TaskAction.task, Processes.advance_phase_self]
    exact numbered_phaseOfContext.mpr hn
  | search i =>
    obtain ⟨tx, hphase, hnext⟩ := InboxTasks.search_inv htask
    rw [TaskAction.task, hphase] at hn
    rcases hnext with ⟨s, -, rfl⟩ | ⟨-, rfl⟩
    · rw [TaskAction.task, Processes.advance_phase_self]
      exact hn
    · rw [TaskAction.task, Processes.advance_phase_self]
      exact hn
  | create i newId =>
    obtain ⟨tx, hphase, -, hnext⟩ := InboxTasks.create_inv htask
    rw [TaskAction.task, hphase] at hn
    rcases hnext with ⟨sessions, -, rfl⟩ | ⟨-, rfl⟩
    · rw [TaskAction.task, Processes.advance_phase_self]
      exact hn
    · exact abort_numbered _ c.tasks i
  | count i =>
    obtain ⟨tx, sessionId, hphase, rfl⟩ := InboxTasks.count_inv htask
    rw [TaskAction.task, hphase] at hn
    simp only [TaskAction.task, countedAfter, Function.update_self]
    exact countStep_numbered hn
  | join i =>
    obtain ⟨tx, sessionId, seq, messages, hphase, rfl⟩ := InboxTasks.join_inv htask
    rw [TaskAction.task, hphase] at hn
    exact joinStep_numbered hn
  | register i newId =>
    obtain ⟨tx, frame, msg, rest, hphase, hrest, -, hstep⟩ := InboxTasks.register_inv htask
    rw [TaskAction.task, hphase] at hn
    exact registerStep_numbered hrest hn hstep
  | reread i =>
    obtain ⟨tx, frame, m, wamid, hphase, rfl⟩ := InboxTasks.reread_inv htask
    rw [TaskAction.task, hphase] at hn
    exact rereadStep_numbered hn
  | arrive i =>
    obtain ⟨tx, frame, fileId, hphase, hstep⟩ := InboxTasks.arrive_inv htask
    rw [TaskAction.task, hphase] at hn
    exact arriveStep_numbered hn hstep
  | enqueue i accepted =>
    obtain ⟨tx, frame, fileId, hphase, rfl⟩ := InboxTasks.enqueue_inv htask
    rw [TaskAction.task, hphase] at hn
    exact enqueueStep_numbered accepted hn
  | commit i =>
    obtain ⟨tx, frame, -, -, rfl⟩ := InboxTasks.commit_inv htask
    exact commit_numbered
  | mark i =>
    obtain ⟨state, hphase, rfl⟩ := InboxTasks.mark_inv htask
    rw [TaskAction.task, hphase] at hn
    rw [TaskAction.task, Processes.advance_phase_self]
    exact hn

/-- A statement changes nothing of what is known of the other tasks. -/
theorem countedStep_numbers_other (h : countedStep env c a = some c') {j : Nat} (hj : j ≠ a.task)
    (hn : c.Numbers env j) : c'.Numbers env j := by
  obtain ⟨htask, hcounted⟩ := countedStep_inv h
  obtain ⟨⟨l, hmoved⟩, hfiles⟩ := taskStep_taskMoves htask
  have hphase : c'.tasks.phase j = c.tasks.phase j := by
    rw [hmoved, Processes.advance_phase_of_ne hj]
  have hwritten : c'.written j = c.written j := congrArg Table.rows (hfiles.written_of_ne hj)
  have hsame : c'.counted j = c.counted j := by
    rw [hcounted]
    unfold countedAfter
    split
    · exact Function.update_of_ne hj _ _
    · rfl
  unfold CountedTasks.Numbers
  rw [hphase, hwritten, hsame]
  exact hn

theorem countedStep_numbers (h : countedStep env c a = some c') (hn : ∀ i, c.Numbers env i) :
    ∀ i, c'.Numbers env i := by
  intro i
  by_cases hi : i = a.task
  · subst hi
    exact countedStep_numbers_self h (hn a.task)
  · exact countedStep_numbers_other h hi (hn i)

theorem countedStart_numbers (env : Env) (db : Db) (i : Nat) : (countedStart db).Numbers env i :=
  Heap.written_ofTable db.files i

/-- The files that a task commits are in the order of its messages. -/
theorem CountedTasks.Numbers.commitsInOrder {i : Nat} (h : c.Numbers env i) :
    CommitsInOrder env c (.commit i) := by
  intro tx frame hphase hrest
  unfold CountedTasks.Numbers at h
  rw [hphase] at h
  obtain ⟨before, hmsgs, horder⟩ := h.order
  rw [hrest, List.append_nil] at hmsgs
  exact ⟨before, hmsgs, horder⟩

/-- A commit keeps the numbers of sessions distinct exactly when no committed file has the session
and the number of a file that it adds. -/
theorem commit_distinct_iff {i : Nat} (hn : c.Numbers env i)
    (hdistinct : SeqsDistinct c.tasks.shared.committed)
    (h : countedStep env c (.commit i) = some c') :
    SeqsDistinct c'.tasks.shared.committed ↔
      ∀ f ∈ c.written i, ∀ g ∈ c.stored, g.sessionId = f.sessionId →
        g.receivedSeq ≠ f.receivedSeq := by
  obtain ⟨htask, -⟩ := countedStep_inv h
  obtain ⟨tx, frame, hphase, -, hcommit⟩ := InboxTasks.commit_inv htask
  unfold CountedTasks.Numbers at hn
  rw [hphase] at hn
  obtain ⟨before, -, horder⟩ := hn.order
  have hmem : ∀ f, f ∈ c'.tasks.shared.committed.files.rows ↔
      f ∈ c.stored ∨ f ∈ c.written i := by
    intro f
    have hcommitted : (c.tasks.shared.files.commit i).committed =
        c.tasks.shared.files.visible i :=
      Heap.committed_commit c.tasks.shared.files i
    rw [hcommit]
    simp only [Processes.advance_shared, TaskShared.commit, TaskShared.committed, hcommitted]
    exact Heap.mem_visible_iff
  constructor
  · intro hafter f hf g hg hsession hseq
    obtain rfl : g = f :=
      hafter g ((hmem g).mpr (Or.inl hg)) f ((hmem f).mpr (Or.inr hf)) hsession hseq
    exact Heap.not_committed_of_written (by simp [clash, sameKey]) hf hg
  · intro hfree f hf g hg hsession hseq
    rcases (hmem f).mp hf with hf | hf
    · rcases (hmem g).mp hg with hg | hg
      · exact hdistinct f hf g hg hsession hseq
      · exact absurd hseq (hfree g hg f hf hsession)
    · rcases (hmem g).mp hg with hg | hg
      · exact absurd hseq.symm (hfree f hf g hg hsession.symm)
      · exact horder.distinct f hf g hg hseq

/-- What was committed when the task counted is below the files that it commits. -/
theorem CommitsFresh.distinct {i : Nat} (hfresh : CommitsFresh c (.commit i))
    (hn : c.Numbers env i) (hdistinct : SeqsDistinct c.tasks.shared.committed)
    (h : countedStep env c (.commit i) = some c') : SeqsDistinct c'.tasks.shared.committed := by
  apply (commit_distinct_iff hn hdistinct h).mpr
  intro f hf g hg hsession
  obtain ⟨htask, -⟩ := countedStep_inv h
  obtain ⟨tx, frame, hphase, -, -⟩ := InboxTasks.commit_inv htask
  unfold CountedTasks.Numbers at hn
  rw [hphase] at hn
  exact ne_of_lt (hn.above f hf g.slot (hfresh f hf g hg hsession) hsession)

theorem countedStep_distinct (hfresh : CommitsFresh c a) (hn : ∀ i, c.Numbers env i)
    (hdistinct : SeqsDistinct c.tasks.shared.committed) (h : countedStep env c a = some c') :
    SeqsDistinct c'.tasks.shared.committed := by
  obtain ⟨htask, -⟩ := countedStep_inv h
  have hkept : c'.tasks.shared.files.committed = c.tasks.shared.files.committed →
      SeqsDistinct c'.tasks.shared.committed :=
    fun hsame => (seqsDistinct_congr hsame).mpr hdistinct
  cases (taskStep_taskMoves htask).2 with
  | stay hfiles => exact hkept (by rw [hfiles])
  | insert f hfiles => exact hkept (Heap.committed_insertBy hfiles)
  | @commit i hfiles => exact hfresh.distinct (hn i) hdistinct h
  | rollback hfiles => exact hkept (by rw [hfiles, Heap.committed_rollback])

/-- In every run whose commits are fresh, the committed files of a session have different numbers;
and in every run a task commits its files with numbers that rise in the order of the messages. -/
theorem files_ordered (env : Env) {db : Db} (hdb : SeqsDistinct db) {as : List TaskAction}
    (h : run (countedStep env) (countedStart db) as = some c) :
    (Meets (countedStep env) CommitsFresh (countedStart db) as →
        SeqsDistinct c.tasks.shared.committed) ∧
      Meets (countedStep env) (CommitsInOrder env) (countedStart db) as := by
  have hstart := countedStart_numbers env db
  constructor
  · intro hfresh
    have hdistinct : SeqsDistinct (countedStart db).tasks.shared.committed :=
      (seqsDistinct_congr (Heap.committed_ofTable db.files)).mpr hdb
    have hlast := run_preserves_of_meets
      (fun c : CountedTasks => (∀ i, c.Numbers env i) ∧ SeqsDistinct c.tasks.shared.committed)
      (fun c a c' hinv hfresh hstep =>
        ⟨countedStep_numbers hstep hinv.1, countedStep_distinct hfresh hinv.1 hinv.2 hstep⟩)
      h hfresh ⟨hstart, hdistinct⟩
    exact hlast.2
  · have hall : Meets (countedStep env) (fun _ _ => True) (countedStart db) as :=
      .of_forall (fun _ _ => trivial) _ _
    apply hall.imp_of_preserves (fun c : CountedTasks => ∀ i, c.Numbers env i)
    · exact fun c a c' hn _ hstep => countedStep_numbers hstep hn
    · intro c a hn _
      cases a with
      | commit i => exact (hn i).commitsInOrder
      | _ => trivial
    · exact hstart

end Law

/-! ## Two photos of one session -/

instance (c : CountedTasks) : (a : TaskAction) → Decidable (CommitsFresh c a)
  | .commit i => inferInstanceAs (Decidable (∀ f ∈ c.written i, ∀ g ∈ c.stored,
      g.sessionId = f.sessionId → g.slot ∈ c.counted i))
  | .load _ | .resolve _ _ | .search _ | .create _ _ | .count _ | .join _ | .register _ _
  | .reread _ | .arrive _ | .enqueue _ _ | .mark _ => inferInstanceAs (Decidable True)

/-- Two stored bodies of the consultant, whose session is open. -/
def openPhotos : Db :=
  { twoPhotos with sessions := .singleton { idleSession with state := .collecting } }

/-- The statements of a task up to the read of the maximum. -/
def countOf (i : Nat) : List TaskAction := [.load i, .resolve i 0, .search i, .count i]

/-- The statements of a task up to its commit. -/
def fileOf (i : Nat) (fileId : UUID) : List TaskAction :=
  [.join i, .register i fileId, .arrive i, .enqueue i true, .commit i]

/-- The numbers of the committed files, with their sessions. -/
def CountedTasks.numbers (c : CountedTasks) : List (UUID × Int) :=
  c.stored.map fun f => (f.sessionId, f.receivedSeq)

theorem SeqsDistinct.numbers_nodup {c : CountedTasks}
    (h : SeqsDistinct c.tasks.shared.committed) : c.numbers.Nodup := by
  have hrows : c.stored.Nodup :=
    c.tasks.shared.files.committed.nodup_rows fun f => by simp [clash, sameKey]
  apply hrows.map_on
  intro f hf g hg hsame
  exact h f hf g hg (congrArg Prod.fst hsame) (congrArg Prod.snd hsame)

/-- The second task reads the maximum after the first one has committed. -/
theorem files_ordered_inTurn :
    ∃ c, run (countedStep storedOnly) (countedStart openPhotos)
        (countOf 1 ++ fileOf 1 101 ++ countOf 2 ++ fileOf 2 102) = some c ∧
      c.numbers = [(7, 1), (7, 2)] ∧ SeqsDistinct c.tasks.shared.committed ∧
      Meets (countedStep storedOnly) (CommitsInOrder storedOnly) (countedStart openPhotos)
        (countOf 1 ++ fileOf 1 101 ++ countOf 2 ++ fileOf 2 102) := by
  have hrun : (run (countedStep storedOnly) (countedStart openPhotos)
      (countOf 1 ++ fileOf 1 101 ++ countOf 2 ++ fileOf 2 102)).map CountedTasks.numbers =
      some [(7, 1), (7, 2)] := by decide
  obtain ⟨c, hc, hnumbers⟩ := Option.map_eq_some_iff.mp hrun
  have hdb : SeqsDistinct openPhotos := fun f hf => absurd hf List.not_mem_nil
  obtain ⟨hdistinct, horder⟩ := files_ordered storedOnly hdb hc
  exact ⟨c, hc, hnumbers, hdistinct (by decide), horder⟩

/-- Both tasks read the maximum before either commits, and both photos get the first number. -/
theorem overlapping_tasks_share_number :
    ∃ c, run (countedStep storedOnly) (countedStart openPhotos)
        (countOf 1 ++ countOf 2 ++ fileOf 1 101 ++ fileOf 2 102) = some c ∧
      c.stored.map (·.wamid) = ["w1", "w2"] ∧ c.numbers = [(7, 1), (7, 1)] ∧
      ¬ SeqsDistinct c.tasks.shared.committed := by
  have hrun : (run (countedStep storedOnly) (countedStart openPhotos)
      (countOf 1 ++ countOf 2 ++ fileOf 1 101 ++ fileOf 2 102)).map
        (fun c => (c.stored.map (·.wamid), c.numbers)) =
      some (["w1", "w2"], [(7, 1), (7, 1)]) := by decide
  obtain ⟨c, hc, hlast⟩ := Option.map_eq_some_iff.mp hrun
  have hnumbers : c.numbers = [(7, 1), (7, 1)] := congrArg Prod.snd hlast
  refine ⟨c, hc, congrArg Prod.fst hlast, hnumbers, ?_⟩
  intro hdistinct
  have hnodup := hdistinct.numbers_nodup
  rw [hnumbers] at hnodup
  exact absurd hnodup (by decide)

end WaService
