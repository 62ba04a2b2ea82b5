import WaService.Correctness.SessionRace
import WaService.System.FileJobs

/-!
# Jobs and the rows they are for

The inbox task defers the download of a file before it commits the row of the file. A
worker that is fast executes the job while the row is not visible, and a transaction that
fails later leaves its jobs in the queue. Otherwise every file that is committed has its
job in the queue or has been seen by an execution, and no job of a rolled back transaction
is left.
-/

namespace WaService

open Python Relational Transition

variable {env : Env} {old : Table File} {c c' : FileJobs} {i : Nat}

/-- Every file that the tasks have committed has its job in the queue, or has been seen by an
execution of it. -/
def FileJobs.Fetched (old : Table File) (c : FileJobs) : Prop :=
  ∀ f ∈ c.tasks.shared.files.committed.rows, f ∉ old.rows →
    (∃ e ∈ c.queue, e.2.fileId = f.id) ∨ f.id ∈ c.seen

/-- No job of a rolled back transaction is in the queue. -/
def FileJobs.Withdrawn (c : FileJobs) : Prop := ∀ i ∈ c.rolledBack, ∀ e ∈ c.queue, e.1 ≠ i

/-! ## The condition -/

/-- The statement fails once the loop has begun: the next message or the wamid of the present
one cannot be stored, or the queue refuses the job. -/
def failing (env : Env) (c : InboxTasks) : TaskAction → Bool
  | .register i _ =>
    match c.phase i with
    | .looping _ frame .register => frame.rest.head?.any fun msg => !storable env msg
    | _ => false
  | .reread i =>
    match c.phase i with
    | .looping _ _ (.reread m wamid) =>
      !(selectText m.wamid).isOk || (fileOfWamid (c.shared.view i) wamid).isNone
    | _ => false
  | .enqueue _ accepted => !accepted
  | _ => false

/-- The task has deferred a job. -/
def FileJobs.HasDeferred (c : FileJobs) (i : Nat) : Prop := ∃ e ∈ c.deferred, e.1 = i

/-- No job is executed while the transaction that deferred it is open, and no transaction
fails that has deferred a job. -/
def Together (env : Env) (c : FileJobs) : FileJobAction → Prop
  | .statement a => failing env c.tasks a = true → ¬ c.HasDeferred a.task
  | .fail i => ¬ c.HasDeferred i
  | .execute e _ => (c.tasks.phase e.1).inTransaction = false

instance (i : Nat) : Decidable (c.HasDeferred i) :=
  inferInstanceAs (Decidable (∃ e ∈ c.deferred, e.1 = i))

instance : (c : FileJobs) → (a : FileJobAction) → Decidable (Together env c a)
  | c, .statement a => inferInstanceAs
    (Decidable (failing env c.tasks a = true → ¬ c.HasDeferred a.task))
  | c, .fail i => inferInstanceAs (Decidable (¬ c.HasDeferred i))
  | c, .execute e _ => inferInstanceAs (Decidable ((c.tasks.phase e.1).inTransaction = false))

/-! ## The invariant -/

/-- How far a task is with its jobs. -/
inductive JobStage where
  /-- No job has been deferred yet. -/
  | early
  /-- In the loop; the job of the present file comes next. -/
  | loop (awaited : Option UUID)
  /-- The transaction has ended. -/
  | closed

/-- The stage of a phase. -/
def TaskPhase.jobStage : TaskPhase → JobStage
  | .looping _ _ (.arrive fileId) | .looping _ _ (.enqueue fileId) => .loop (some fileId)
  | .looping _ _ _ => .loop none
  | .marking _ | .finished => .closed
  | _ => .early

/-- The job of a file that the task has inserted, and not committed, is in the queue or comes
next. -/
def JobStage.Accounts (queue : List OwnedJob) (i : Nat) (fileId : UUID) : JobStage → Prop
  | .loop awaited => (∃ e ∈ queue, e.1 = i ∧ e.2.fileId = fileId) ∨ awaited = some fileId
  | _ => False

/-- A committed file: its job is in the queue or has been executed. -/
def FileJobs.Served (c : FileJobs) (fileId : UUID) : Prop :=
  (∃ e ∈ c.queue, e.2.fileId = fileId) ∨ fileId ∈ c.seen

/-- The invariant of the tasks and their jobs. -/
structure FileJobs.Sound (old : Table File) (c : FileJobs) : Prop where
  committed : ∀ v ∈ c.tasks.shared.files.rows, v.writer = none →
    v.row ∈ old.rows ∨ c.Served v.row.id
  pending : ∀ v ∈ c.tasks.shared.files.rows, ∀ i, v.writer = some i →
    (c.tasks.phase i).jobStage.Accounts c.queue i v.row.id
  queued : ∀ e ∈ c.queue, e ∈ c.deferred
  early : ∀ i, (c.tasks.phase i).jobStage = .early → ¬ c.HasDeferred i
  closed : ∀ i ∈ c.rolledBack, (c.tasks.phase i).jobStage = .closed ∧ ∀ e ∈ c.queue, e.1 ≠ i

theorem FileJobs.Sound.fetched (h : c.Sound old) : c.Fetched old := by
  intro f hf hnew
  obtain ⟨v, hv, hnone, rfl⟩ := Heap.mem_select.mp hf
  exact (h.committed v hv (Option.isNone_iff_eq_none.mp hnone)).resolve_left hnew

theorem FileJobs.Sound.withdrawn (h : c.Sound old) : c.Withdrawn := fun i hi => (h.closed i hi).2

theorem fileJobs_start (db : Db) : (fileJobStart db).Sound db.files where
  committed v hv _ := by
    obtain ⟨f, hf, rfl⟩ := List.mem_map.mp hv
    exact Or.inl hf
  pending v hv i hi := by
    obtain ⟨f, hf, rfl⟩ := List.mem_map.mp hv
    cases hi
  queued := nofun
  early := by
    rintro i - ⟨e, he, -⟩
    cases he
  closed := nofun

/-! ## Statements -/

/-- The stage after a statement that inserts no file and defers no job. -/
def JobStage.Leads : JobStage → JobStage → Prop
  | .early, _ => True
  | .loop awaited, .loop awaited' => awaited = none ∨ awaited' = awaited
  | .closed, .closed => True
  | _, _ => False

theorem JobStage.Leads.early {a : JobStage} (h : a.Leads .early) : a = .early := by
  cases a with
  | early => rfl
  | loop | closed => exact h.elim

theorem JobStage.Leads.closed {b : JobStage} (h : JobStage.closed.Leads b) : b = .closed := by
  cases b with
  | closed => rfl
  | early | loop => exact h.elim

theorem JobStage.Accounts.leads {queue : List OwnedJob} {fileId : UUID} {a b : JobStage}
    (h : a.Accounts queue i fileId) (hl : a.Leads b) : b.Accounts queue i fileId := by
  cases a with
  | early | closed => exact h.elim
  | loop awaited =>
    cases b with
    | early | closed => exact hl.elim
    | loop awaited' =>
      rcases h with hjob | hawaited
      · exact Or.inl hjob
      · rcases hl with hnone | hsame
        · rw [hnone] at hawaited
          cases hawaited
        · exact Or.inr (hsame.trans hawaited)

theorem newDownloads_same (jobs : List Job) : newDownloads jobs jobs = [] := by
  simp [newDownloads]

theorem newDownloads_append (jobs : List Job) (job : FetchJob) :
    newDownloads jobs (jobs ++ [.fetchAndStoreFile job]) = [job] := by
  simp [newDownloads, Job.fetchArgs]

/-- The system after a statement that defers no job. -/
theorem FileJobs.next_quiet {tasks : InboxTasks} (hjobs : tasks.shared.jobs = c.tasks.shared.jobs) :
    c.next i tasks = { c with
      tasks := tasks
      rolledBack := if (tasks.phase i).rolledBack then i :: c.rolledBack else c.rolledBack } := by
  unfold FileJobs.next
  rw [hjobs, newDownloads_same]
  simp

theorem TaskPhase.rolledBack_closed {l : TaskPhase} (h : l.rolledBack = true) :
    l.jobStage = .closed := by
  cases l with
  | marking state => rfl
  | _ => cases h

/-- The stages of the tasks after a statement of the task `i`. -/
theorem jobStage_advance {tasks : InboxTasks} {s : TaskShared} {l : TaskPhase} (j : Nat) :
    ((tasks.advance i s l).phase j).jobStage =
      if j = i then l.jobStage else (tasks.phase j).jobStage := by
  by_cases hj : j = i
  · rw [hj, Processes.advance_phase_self, if_pos rfl]
  · rw [Processes.advance_phase_of_ne hj, if_neg hj]

/-- A task that is rolled back has nothing in the queue when it has deferred nothing. -/
theorem FileJobs.Sound.closed_next (h : c.Sound old) {s : TaskShared} {l : TaskPhase}
    (hclosed : (c.tasks.phase i).jobStage = .closed → l.jobStage = .closed)
    (hroll : l.rolledBack = true → ¬ c.HasDeferred i) :
    ∀ j ∈ (if ((c.tasks.advance i s l).phase i).rolledBack then i :: c.rolledBack
        else c.rolledBack),
      ((c.tasks.advance i s l).phase j).jobStage = .closed ∧ ∀ e ∈ c.queue, e.1 ≠ j := by
  intro j hj
  rw [Processes.advance_phase_self] at hj
  have hold : j ∈ c.rolledBack → ((c.tasks.advance i s l).phase j).jobStage = .closed ∧
      ∀ e ∈ c.queue, e.1 ≠ j := by
    intro hmem
    obtain ⟨hstage, hqueue⟩ := h.closed j hmem
    refine ⟨?_, hqueue⟩
    rw [jobStage_advance]
    split
    · rename_i hji
      exact hclosed (hji ▸ hstage)
    · exact hstage
  split at hj
  · rename_i hrolled
    rcases List.mem_cons.mp hj with rfl | hj
    · refine ⟨?_, fun e he hei => hroll hrolled ⟨e, h.queued e he, hei⟩⟩
      rw [jobStage_advance, if_pos rfl]
      exact TaskPhase.rolledBack_closed hrolled
    · exact hold hj
  · exact hold hj

theorem FileJobs.Sound.quiet (h : c.Sound old) {s : TaskShared} {l : TaskPhase}
    (hfiles : s.files = c.tasks.shared.files) (hjobs : s.jobs = c.tasks.shared.jobs)
    (hleads : (c.tasks.phase i).jobStage.Leads l.jobStage)
    (hroll : l.rolledBack = true → (c.tasks.phase i).jobStage = .early) :
    (c.next i (c.tasks.advance i s l)).Sound old := by
  rw [FileJobs.next_quiet hjobs]
  constructor
  · rw [show (c.tasks.advance i s l).shared.files = _ from hfiles]
    exact h.committed
  · rw [show (c.tasks.advance i s l).shared.files = _ from hfiles]
    intro v hv j hj
    have hpending := h.pending v hv j hj
    rw [jobStage_advance]
    by_cases hji : j = i
    · rw [if_pos hji]
      rw [hji] at hpending ⊢
      exact hpending.leads hleads
    · rwa [if_neg hji]
  · exact h.queued
  · intro j hj
    rw [jobStage_advance] at hj
    by_cases hji : j = i
    · rw [if_pos hji] at hj
      rw [hj] at hleads
      exact h.early j (hji ▸ hleads.early)
    · rw [if_neg hji] at hj
      exact h.early j hj
  · refine h.closed_next (fun hold => ?_) fun hrolled => h.early i (hroll hrolled)
    rw [hold] at hleads
    exact hleads.closed

/-- A rollback removes the files of its transaction. -/
theorem FileJobs.Sound.abort (h : c.Sound old) (hnone : ¬ c.HasDeferred i) :
    (c.next i (c.tasks.abort i)).Sound old := by
  have hjobs : (c.tasks.abort i).shared.jobs = c.tasks.shared.jobs := rfl
  have hmem : ∀ v, v ∈ (c.tasks.abort i).shared.files.rows →
      v ∈ c.tasks.shared.files.rows ∧ v.writer ≠ some i := by
    intro v hv
    obtain ⟨hv, hwriter⟩ := List.mem_filter.mp hv
    exact ⟨hv, by simpa using hwriter⟩
  rw [FileJobs.next_quiet hjobs]
  constructor
  · exact fun v hv hcommitted => h.committed v (hmem v hv).1 hcommitted
  · intro v hv j hj
    have hji : j ≠ i := fun hji => (hmem v hv).2 (hji ▸ hj)
    unfold InboxTasks.abort
    rw [jobStage_advance, if_neg hji]
    exact h.pending v (hmem v hv).1 j hj
  · exact h.queued
  · intro j hj
    unfold InboxTasks.abort at hj
    rw [jobStage_advance] at hj
    split at hj
    · cases hj
    · exact h.early j hj
  · exact h.closed_next (fun _ => rfl) fun _ => hnone

/-- A new file awaits its job. -/
theorem FileJobs.Sound.insert (h : c.Sound old) {f : File} {s : TaskShared} {l : TaskPhase}
    (hins : c.tasks.shared.files.insertBy i f = .inserted s.files)
    (hjobs : s.jobs = c.tasks.shared.jobs) (hbefore : (c.tasks.phase i).jobStage = .loop none)
    (hafter : l.jobStage = .loop (some f.id)) (hroll : l.rolledBack = false) :
    (c.next i (c.tasks.advance i s l)).Sound old := by
  have hrows : s.files.rows = c.tasks.shared.files.rows ++ [⟨f, some i⟩] :=
    Heap.rows_of_insertBy hins
  rw [FileJobs.next_quiet hjobs]
  constructor
  · intro v hv hcommitted
    rcases List.mem_append.mp (hrows ▸ hv) with hv | hv
    · exact h.committed v hv hcommitted
    · rw [List.mem_singleton.mp hv] at hcommitted
      cases hcommitted
  · intro v hv j hj
    rw [jobStage_advance]
    rcases List.mem_append.mp (hrows ▸ hv) with hv | hv
    · have hpending := h.pending v hv j hj
      by_cases hji : j = i
      · rw [if_pos hji, hafter]
        rw [hji, hbefore] at hpending
        rw [hji]
        exact hpending.imp_right fun hnone => by cases hnone
      · rwa [if_neg hji]
    · obtain rfl := List.mem_singleton.mp hv
      cases hj
      rw [if_pos rfl, hafter]
      exact Or.inr rfl
  · exact h.queued
  · intro j hj
    rw [jobStage_advance] at hj
    by_cases hji : j = i
    · rw [if_pos hji, hafter] at hj
      cases hj
    · rw [if_neg hji] at hj
      exact h.early j hj
  · refine h.closed_next (fun hold => ?_) fun hrolled => ?_
    · rw [hbefore] at hold
      cases hold
    · rw [hroll] at hrolled
      cases hrolled

/-- The job of the present file. -/
theorem FileJobs.Sound.enqueue (h : c.Sound old) {job : FetchJob} {s : TaskShared} {l : TaskPhase}
    (hfiles : s.files = c.tasks.shared.files)
    (hjobs : s.jobs = c.tasks.shared.jobs ++ [.fetchAndStoreFile job])
    (hbefore : (c.tasks.phase i).jobStage = .loop (some job.fileId))
    (hafter : l.jobStage = .loop none) (hroll : l.rolledBack = false) :
    (c.next i (c.tasks.advance i s l)).Sound old := by
  have hnew : newDownloads c.tasks.shared.jobs (c.tasks.advance i s l).shared.jobs = [job] := by
    rw [show (c.tasks.advance i s l).shared.jobs = _ from hjobs, newDownloads_append]
  have hphase : (c.tasks.advance i s l).phase i = l := Processes.advance_phase_self
  unfold FileJobs.next
  rw [hnew, hphase, hroll]
  simp only [List.map_singleton, Bool.false_eq_true, if_false]
  constructor
  · rw [show (c.tasks.advance i s l).shared.files = _ from hfiles]
    intro v hv hcommitted
    refine (h.committed v hv hcommitted).imp_right (Or.imp_left ?_)
    rintro ⟨e, he, hid⟩
    exact ⟨e, List.mem_append_left _ he, hid⟩
  · rw [show (c.tasks.advance i s l).shared.files = _ from hfiles]
    intro v hv j hj
    have hpending := h.pending v hv j hj
    rw [jobStage_advance]
    by_cases hji : j = i
    · rw [if_pos hji, hafter]
      rw [hji, hbefore] at hpending
      rcases hpending with ⟨e, he, hei, hid⟩ | hawaited
      · exact Or.inl ⟨e, List.mem_append_left _ he, hei.trans hji.symm, hid⟩
      · exact Or.inl ⟨(i, job), List.mem_append_right _ (List.mem_singleton.mpr rfl), hji.symm,
          Option.some.inj hawaited⟩
    · rw [if_neg hji]
      cases hstage : (c.tasks.phase j).jobStage with
      | early | closed =>
        rw [hstage] at hpending
        exact hpending.elim
      | loop awaited =>
        rw [hstage] at hpending
        apply hpending.imp_left
        rintro ⟨e, he, hej, hid⟩
        exact ⟨e, List.mem_append_left _ he, hej, hid⟩
  · intro e he
    rcases List.mem_append.mp he with he | he
    · exact List.mem_append_left _ (h.queued e he)
    · exact List.mem_append_right _ he
  · rintro j hj ⟨e, he, hej⟩
    rw [jobStage_advance] at hj
    by_cases hji : j = i
    · rw [if_pos hji, hafter] at hj
      cases hj
    · rw [if_neg hji] at hj
      rcases List.mem_append.mp he with he | he
      · exact h.early j hj ⟨e, he, hej⟩
      · rw [List.mem_singleton.mp he] at hej
        exact hji hej.symm
  · intro j hj
    obtain ⟨hclosed, hqueue⟩ := h.closed j hj
    have hji : j ≠ i := by
      rintro rfl
      rw [hbefore] at hclosed
      cases hclosed
    rw [jobStage_advance, if_neg hji]
    refine ⟨hclosed, fun e he => ?_⟩
    rcases List.mem_append.mp he with he | he
    · exact hqueue e he
    · rw [List.mem_singleton.mp he]
      exact Ne.symm hji

/-- A commit makes the files of its transaction visible; all of them have their jobs. -/
theorem FileJobs.Sound.commit (h : c.Sound old) {s : TaskShared} {l : TaskPhase}
    (hfiles : s.files = c.tasks.shared.files.commit i) (hjobs : s.jobs = c.tasks.shared.jobs)
    (hbefore : (c.tasks.phase i).jobStage = .loop none) (hafter : l.jobStage = .closed)
    (hroll : l.rolledBack = false) : (c.next i (c.tasks.advance i s l)).Sound old := by
  -- A row of the transaction becomes a committed row, and every other row stays as it is.
  have hmem : ∀ v' ∈ s.files.rows, ∃ v ∈ c.tasks.shared.files.rows, v'.row = v.row ∧
      (v.writer = some i ∧ v'.writer = none ∨ v.writer ≠ some i ∧ v'.writer = v.writer) := by
    intro v' hv'
    rw [hfiles] at hv'
    obtain ⟨v, hv, rfl⟩ := List.mem_map.mp hv'
    refine ⟨v, hv, rfl, ?_⟩
    unfold Heap.settle
    by_cases hw : v.writer = some i
    · exact Or.inl ⟨hw, if_pos hw⟩
    · exact Or.inr ⟨hw, if_neg hw⟩
  rw [FileJobs.next_quiet hjobs]
  constructor
  · intro v' hv' hcommitted
    obtain ⟨v, hv, hrow, ⟨hw, -⟩ | ⟨-, hsame⟩⟩ := hmem v' hv'
    · have hpending := h.pending v hv i hw
      rw [hbefore] at hpending
      rcases hpending with ⟨e, he, -, hid⟩ | hnone
      · rw [hrow]
        exact Or.inr (Or.inl ⟨e, he, hid⟩)
      · cases hnone
    · rw [hrow]
      exact h.committed v hv (hsame.symm.trans hcommitted)
  · intro v' hv' j hj
    obtain ⟨v, hv, hrow, ⟨-, hnone⟩ | ⟨hw, hsame⟩⟩ := hmem v' hv'
    · rw [hnone] at hj
      cases hj
    · have hvj : v.writer = some j := hsame.symm.trans hj
      have hji : j ≠ i := fun hji => hw (hji ▸ hvj)
      rw [jobStage_advance, if_neg hji, hrow]
      exact h.pending v hv j hvj
  · exact h.queued
  · intro j hj
    rw [jobStage_advance] at hj
    by_cases hji : j = i
    · rw [if_pos hji, hafter] at hj
      cases hj
    · rw [if_neg hji] at hj
      exact h.early j hj
  · apply h.closed_next (fun _ => hafter)
    intro hrolled
    rw [hroll] at hrolled
    cases hrolled

theorem TaskPhase.inTransaction_of_loop {l : TaskPhase} {awaited : Option UUID}
    (h : l.jobStage = .loop awaited) : l.inTransaction = true := by
  cases l with
  | looping tx frame stage => rfl
  | _ => cases h

/-- An execution of a job whose transaction has ended. -/
theorem FileJobs.Sound.execute (h : c.Sound old) {e : OwnedJob} {redelivered : Bool}
    (hended : (c.tasks.phase e.1).inTransaction = false) :
    ({ c with
        queue := if redelivered then c.queue else c.queue.erase e
        seen := c.lookup e.2 } : FileJobs).Sound old := by
  have hsub : ∀ e' ∈ (if redelivered then c.queue else c.queue.erase e), e' ∈ c.queue := by
    intro e' he'
    split at he'
    · exact he'
    · exact List.mem_of_mem_erase he'
  have hkept : ∀ e' ∈ c.queue, e' ≠ e →
      e' ∈ (if redelivered then c.queue else c.queue.erase e) := by
    intro e' he' hne
    split
    · exact he'
    · exact (List.mem_erase_of_ne hne).mpr he'
  have hseen : ∀ fileId ∈ c.seen, fileId ∈ c.lookup e.2 := by
    intro fileId hmem
    unfold FileJobs.lookup
    split
    · exact List.mem_cons_of_mem _ hmem
    · exact hmem
  constructor
  · intro v hv hcommitted
    apply (h.committed v hv hcommitted).imp_right
    rintro (⟨e', he', hid⟩ | hmem)
    · by_cases hsame : e' = e
      · -- The row is committed, so the execution sees it.
        subst hsame
        have hrow : v.row ∈ c.tasks.shared.committed.files.rows :=
          Heap.mem_select.mpr ⟨v, hv, by rw [hcommitted]; rfl, rfl⟩
        have hfound : fileById c.tasks.shared.committed e'.2.fileId = some v.row := by
          refine Table.find?_eq_some_of_mem hrow (by simp [hid]) fun b hb => ?_
          have hb : b.id = v.row.id := by rw [← hid]; simpa using hb
          simp [clash, sameKey, hb]
        have hlookup : c.lookup e'.2 = e'.2.fileId :: c.seen := by
          simp only [FileJobs.lookup, hfound]
        rw [hlookup, hid]
        exact Or.inr List.mem_cons_self
      · exact Or.inl ⟨e', hkept e' he' hsame, hid⟩
    · exact Or.inr (hseen _ hmem)
  · intro v hv i hi
    have hpending := h.pending v hv i hi
    cases hstage : (c.tasks.phase i).jobStage with
    | early | closed =>
      rw [hstage] at hpending
      exact hpending.elim
    | loop awaited =>
      rw [hstage] at hpending
      apply hpending.imp_left
      rintro ⟨e', he', hei, hid⟩
      refine ⟨e', hkept e' he' ?_, hei, hid⟩
      rintro rfl
      have hopen := TaskPhase.inTransaction_of_loop (hei ▸ hstage)
      rw [hopen] at hended
      cases hended
  · exact fun e' he' => h.queued e' (hsub e' he')
  · exact h.early
  · intro i hi
    obtain ⟨hclosed, hqueue⟩ := h.closed i hi
    exact ⟨hclosed, fun e' he' => hqueue e' (hsub e' he')⟩

/-! ## Steps -/

theorem FileJobs.Sound.countStep (h : c.Sound old) {tx : TaskTx} {sessionId : UUID}
    (hphase : c.tasks.phase i = .counting tx sessionId) :
    (c.next i (countStep c.tasks i tx sessionId)).Sound old := by
  have hstage : (c.tasks.phase i).jobStage = .early := by rw [hphase]; rfl
  unfold WaService.countStep
  split
  · exact h.abort (h.early i hstage)
  · exact h.quiet rfl rfl (hstage ▸ trivial) fun _ => hstage
  · exact h.quiet rfl rfl (hstage ▸ trivial) fun _ => hstage

theorem FileJobs.Sound.joinStep (h : c.Sound old) {tx : TaskTx} {sessionId : UUID} {seq : Int}
    {messages : Json} (hphase : c.tasks.phase i = .joining tx sessionId seq messages) :
    (c.next i (joinStep c.tasks i tx sessionId seq messages)).Sound old := by
  have hstage : (c.tasks.phase i).jobStage = .early := by rw [hphase]; rfl
  unfold WaService.joinStep
  split
  · exact h.abort (h.early i hstage)
  · exact h.quiet rfl rfl (hstage ▸ trivial) fun _ => hstage

theorem FileJobs.Sound.registerStep (h : c.Sound old) {newId : UUID} {tx : TaskTx}
    {frame : LoopFrame} {msg : Json} {rest : List Json} {tasks : InboxTasks}
    (hphase : c.tasks.phase i = .looping tx frame .register)
    (hfails : storable env msg = false → ¬ c.HasDeferred i)
    (hstep : registerStep env c.tasks i newId tx frame msg rest = some tasks) :
    (c.next i tasks).Sound old := by
  have hstage : (c.tasks.phase i).jobStage = .loop none := by rw [hphase]; rfl
  unfold WaService.registerStep at hstep
  split at hstep
  · rename_i e hparse
    cases hstep
    exact h.abort (hfails (by simp [storable, hparse]))
  · cases hstep
    exact h.quiet rfl rfl (hstage ▸ Or.inl rfl) fun hrolled => by cases hrolled
  · rename_i m hparse
    split at hstep
    · rename_i e hfile
      cases hstep
      refine h.abort (hfails ?_)
      by_contra hstorable
      obtain ⟨⟨file, hok⟩, -⟩ := newFile_of_storable (by simpa using hstorable) hparse newId
        tx.ctx.tenantId frame.sessionId (frame.seq + 1)
      rw [hok] at hfile
      cases hfile
    · rename_i file hfile
      simp only at hstep
      split at hstep
      · rename_i files hins
        cases hstep
        obtain ⟨hid, -⟩ := newFile_ok hfile
        exact h.insert hins rfl hstage (by rw [hid]; rfl) rfl
      · cases hstep
        exact h.quiet rfl rfl (hstage ▸ Or.inl rfl) fun hrolled => by cases hrolled
      · contradiction

theorem FileJobs.Sound.rereadStep (h : c.Sound old) {tx : TaskTx} {frame : LoopFrame}
    {m : MediaMessage} {wamid : String}
    (hphase : c.tasks.phase i = .looping tx frame (.reread m wamid))
    (hfails : failing env c.tasks (.reread i) = true → ¬ c.HasDeferred i) :
    (c.next i (rereadStep c.tasks i tx frame m wamid)).Sound old := by
  have hstage : (c.tasks.phase i).jobStage = .loop none := by rw [hphase]; rfl
  simp only [failing, hphase] at hfails
  unfold WaService.rereadStep
  split
  · rename_i e hselect
    exact h.abort (hfails (by rw [hselect]; rfl))
  · split
    · exact h.quiet rfl rfl (hstage ▸ Or.inl rfl) nofun
    · rename_i hnone
      exact h.abort (hfails (by simp [hnone]))

theorem FileJobs.Sound.arriveStep (h : c.Sound old) {tx : TaskTx} {frame : LoopFrame}
    {fileId : UUID} {tasks : InboxTasks}
    (hphase : c.tasks.phase i = .looping tx frame (.arrive fileId))
    (hstep : arriveStep c.tasks i tx frame fileId = some tasks) :
    (c.next i tasks).Sound old := by
  have hstage : (c.tasks.phase i).jobStage = .loop (some fileId) := by rw [hphase]; rfl
  unfold WaService.arriveStep at hstep
  simp only at hstep
  split at hstep
  · split at hstep
    · contradiction
    · cases hstep
      exact h.quiet rfl rfl (hstage ▸ Or.inr rfl) nofun
  · cases hstep
    exact h.quiet rfl rfl (hstage ▸ Or.inr rfl) nofun

theorem FileJobs.Sound.enqueueStep (h : c.Sound old) {tx : TaskTx} {frame : LoopFrame}
    {fileId : UUID} {accepted : Bool}
    (hphase : c.tasks.phase i = .looping tx frame (.enqueue fileId))
    (hfails : accepted = false → ¬ c.HasDeferred i) :
    (c.next i (enqueueStep c.tasks i tx frame fileId accepted)).Sound old := by
  have hstage : (c.tasks.phase i).jobStage = .loop (some fileId) := by rw [hphase]; rfl
  unfold WaService.enqueueStep
  split
  · exact h.enqueue rfl rfl hstage rfl rfl
  · rename_i hrefused
    exact h.abort (hfails (by simpa using hrefused))

/-- A statement keeps the jobs with their rows, unless it fails after a job was deferred. -/
theorem FileJobs.Sound.statement (h : c.Sound old) {a : TaskAction} {tasks : InboxTasks}
    (hfails : failing env c.tasks a = true → ¬ c.HasDeferred a.task)
    (hstep : taskStep env c.tasks a = some tasks) : (c.next a.task tasks).Sound old := by
  cases a with
  | load i =>
    obtain ⟨hphase, rfl⟩ := InboxTasks.load_inv hstep
    have hstage : (c.tasks.phase i).jobStage = .early := by
      rcases hphase with hphase | hphase
      · rw [hphase]; rfl
      · rw [hphase]; rfl
    exact h.quiet rfl rfl (hstage ▸ trivial) fun _ => hstage
  | resolve i now =>
    obtain ⟨row, payload, hphase, rfl⟩ := InboxTasks.resolve_inv hstep
    have hstage : (c.tasks.phase i).jobStage = .early := by rw [hphase]; rfl
    exact h.quiet rfl rfl (hstage ▸ trivial) fun _ => hstage
  | search i =>
    obtain ⟨tx, hphase, ⟨s, -, rfl⟩ | ⟨-, rfl⟩⟩ := InboxTasks.search_inv hstep
    · have hstage : (c.tasks.phase i).jobStage = .early := by rw [hphase]; rfl
      exact h.quiet rfl rfl (hstage ▸ trivial) nofun
    · have hstage : (c.tasks.phase i).jobStage = .early := by rw [hphase]; rfl
      exact h.quiet rfl rfl (hstage ▸ trivial) nofun
  | create i newId =>
    obtain ⟨tx, hphase, -, ⟨sessions, -, rfl⟩ | ⟨-, rfl⟩⟩ := InboxTasks.create_inv hstep
    · have hstage : (c.tasks.phase i).jobStage = .early := by rw [hphase]; rfl
      exact h.quiet rfl rfl (hstage ▸ trivial) nofun
    · have hstage : (c.tasks.phase i).jobStage = .early := by rw [hphase]; rfl
      exact h.abort (h.early i hstage)
  | count i =>
    obtain ⟨tx, sessionId, hphase, rfl⟩ := InboxTasks.count_inv hstep
    exact h.countStep hphase
  | join i =>
    obtain ⟨tx, sessionId, seq, messages, hphase, rfl⟩ := InboxTasks.join_inv hstep
    exact h.joinStep hphase
  | register i newId =>
    obtain ⟨tx, frame, msg, rest, hphase, hrest, -, hregister⟩ := InboxTasks.register_inv hstep
    refine h.registerStep hphase (fun hnot => hfails ?_) hregister
    simp only [failing, hphase, hrest, List.head?_cons, Option.any_some, hnot, Bool.not_false]
  | reread i =>
    obtain ⟨tx, frame, m, wamid, hphase, rfl⟩ := InboxTasks.reread_inv hstep
    exact h.rereadStep hphase hfails
  | arrive i =>
    obtain ⟨tx, frame, fileId, hphase, harrive⟩ := InboxTasks.arrive_inv hstep
    exact h.arriveStep hphase harrive
  | enqueue i accepted =>
    obtain ⟨tx, frame, fileId, hphase, rfl⟩ := InboxTasks.enqueue_inv hstep
    exact h.enqueueStep hphase fun hrefused => hfails (by rw [hrefused]; rfl)
  | commit i =>
    obtain ⟨tx, frame, hphase, -, rfl⟩ := InboxTasks.commit_inv hstep
    have hstage : (c.tasks.phase i).jobStage = .loop none := by rw [hphase]; rfl
    exact h.commit rfl rfl hstage rfl rfl
  | mark i =>
    obtain ⟨state, hphase, rfl⟩ := InboxTasks.mark_inv hstep
    have hstage : (c.tasks.phase i).jobStage = .closed := by rw [hphase]; rfl
    exact h.quiet rfl rfl (hstage ▸ trivial) nofun

theorem FileJobs.Sound.step {a : FileJobAction} (h : c.Sound old) (hc : Together env c a)
    (hstep : fileJobStep env c a = some c') : c'.Sound old := by
  cases a with
  | statement a =>
    obtain ⟨tasks, htasks, rfl⟩ := Option.map_eq_some_iff.mp hstep
    exact h.statement hc htasks
  | fail i =>
    simp only [fileJobStep] at hstep
    split at hstep
    · cases hstep
      exact h.abort hc
    · contradiction
  | execute e redelivered =>
    simp only [fileJobStep] at hstep
    split at hstep
    · cases hstep
      exact h.execute hc
    · contradiction

/-- In every run in which no job is executed before the transaction that deferred it has ended,
and no transaction fails that has deferred a job, jobs and rows commit together. -/
theorem jobs_commit_with_rows (env : Env) {db : Db} {as : List FileJobAction}
    (h : run (fileJobStep env) (fileJobStart db) as = some c)
    (hc : Meets (fileJobStep env) (Together env) (fileJobStart db) as) :
    c.Fetched db.files ∧ c.Withdrawn := by
  have hsound : c.Sound db.files := run_preserves_of_meets (FileJobs.Sound db.files)
    (fun _ _ _ hs hc hstep => hs.step hc hstep) h hc (fileJobs_start db)
  exact ⟨hsound.fetched, hsound.withdrawn⟩

/-! ## A photo whose download is executed too early or too late -/

/-- A stored body of the consultant, and no session yet. -/
def storedBody (messages : List Json) : Db :=
  { boundDb with inbox := .singleton ⟨1, some "w1", some "PN1",
      webhookBody [entryOf [changeValue "PN1" ["919876543210"] messages]], true, .pending⟩ }

/-- The first photo of the consultant. -/
def firstOf (more : List Json) : List Json := consultantPhoto "w1" :: more

/-- A photo that was taken at an unreadable time. -/
def undatedPhoto : Json :=
  .obj [("id", .str "w2"), ("from", .str "919876543210"), ("type", .str "image"),
    ("timestamp", .str "soon"), ("image", .obj [("id", .str "media")])]

/-- The statements of the task up to the job of the first photo. -/
def firstDeferred : List FileJobAction :=
  [TaskAction.load 1, .resolve 1 0, .search 1, .create 1 7, .count 1, .join 1, .register 1 101,
    .arrive 1, .enqueue 1 true].map .statement

/-- The execution of the first photo's job. -/
def firstExecuted : FileJobAction := .execute (1, ⟨101, 7, 2, 6, 3, .en, some 9⟩) false

/-- The end of the task. -/
def firstCommitted : List FileJobAction := [.statement (.commit 1), .statement (.mark 1)]

/-- What is seen of the system: the files, the tasks of the queued jobs, the files seen and the
transactions rolled back. -/
def jobsView (c : FileJobs) : List UUID × List (Nat × UUID) × List UUID × List Nat :=
  (c.tasks.shared.files.committed.rows.map (·.id), c.queue.map fun e => (e.1, e.2.fileId), c.seen,
    c.rolledBack)

/-- Executed after the commit, the job of the photo sees its row. -/
theorem jobs_commit_with_rows_photo :
    ∃ c, run (fileJobStep storedOnly) (fileJobStart (storedBody (firstOf [])))
        (firstDeferred ++ firstCommitted ++ [firstExecuted]) = some c ∧
      jobsView c = ([101], [], [101], []) ∧
      c.Fetched (storedBody (firstOf [])).files ∧ c.Withdrawn := by
  have hrun : (run (fileJobStep storedOnly) (fileJobStart (storedBody (firstOf [])))
      (firstDeferred ++ firstCommitted ++ [firstExecuted])).map jobsView =
      some ([101], [], [101], []) := by decide
  obtain ⟨c, hc, hview⟩ := Option.map_eq_some_iff.mp hrun
  have htogether : Meets (fileJobStep storedOnly) (Together storedOnly)
      (fileJobStart (storedBody (firstOf [])))
      (firstDeferred ++ firstCommitted ++ [firstExecuted]) := by decide
  exact ⟨c, hc, hview, jobs_commit_with_rows storedOnly hc htogether⟩

/-- Executed before the commit, the job does not see the row and is not repeated. Deferred by a
transaction that the second photo aborts, it stays in the queue. -/
theorem photo_not_fetched :
    (∃ c, run (fileJobStep storedOnly) (fileJobStart (storedBody (firstOf [])))
        (firstDeferred ++ [firstExecuted] ++ firstCommitted) = some c ∧
      jobsView c = ([101], [], [], []) ∧ ¬ c.Fetched (storedBody (firstOf [])).files) ∧
    ∃ c, run (fileJobStep storedOnly) (fileJobStart (storedBody (firstOf [undatedPhoto])))
        (firstDeferred ++ [.statement (.register 1 102), .statement (.mark 1)]) = some c ∧
      jobsView c = ([], [(1, 101)], [], [1]) ∧ ¬ c.Withdrawn := by
  have hearly : (run (fileJobStep storedOnly) (fileJobStart (storedBody (firstOf [])))
      (firstDeferred ++ [firstExecuted] ++ firstCommitted)).map jobsView =
      some ([101], [], [], []) := by decide
  have hlate : (run (fileJobStep storedOnly) (fileJobStart (storedBody (firstOf [undatedPhoto])))
      (firstDeferred ++ [.statement (.register 1 102), .statement (.mark 1)])).map jobsView =
      some ([], [(1, 101)], [], [1]) := by decide
  constructor
  · obtain ⟨c, hc, hview⟩ := Option.map_eq_some_iff.mp hearly
    refine ⟨c, hc, hview, fun hfetched => ?_⟩
    have hids : c.tasks.shared.files.committed.rows.map (·.id) = [101] := congrArg (·.1) hview
    have hqueue : c.queue = [] := List.map_eq_nil_iff.mp (congrArg (·.2.1) hview)
    have hseen : c.seen = [] := congrArg (·.2.2.1) hview
    obtain ⟨f, hf, -⟩ : ∃ f ∈ c.tasks.shared.files.committed.rows, f.id = 101 :=
      List.mem_map.mp (hids ▸ List.mem_singleton.mpr rfl)
    rcases hfetched f hf List.not_mem_nil with ⟨e, he, -⟩ | hmem
    · rw [hqueue] at he
      cases he
    · rw [hseen] at hmem
      cases hmem
  · obtain ⟨c, hc, hview⟩ := Option.map_eq_some_iff.mp hlate
    refine ⟨c, hc, hview, fun hwithdrawn => ?_⟩
    have hqueue : c.queue.map (fun e => (e.1, e.2.fileId)) = [(1, 101)] := congrArg (·.2.1) hview
    have hrolled : c.rolledBack = [1] := congrArg (·.2.2.2) hview
    obtain ⟨e, he, hjob⟩ : ∃ e ∈ c.queue, (e.1, e.2.fileId) = (1, 101) :=
      List.mem_map.mp (hqueue ▸ List.mem_singleton.mpr rfl)
    have hone : e.1 = 1 := congrArg Prod.fst hjob
    exact hwithdrawn 1 (hrolled ▸ List.mem_singleton.mpr rfl) e he hone

end WaService
