import WaService.System.InboxTasks

/-!
# Overlapping webhook requests and inbox tasks

Any number of requests over the database of the inbox tasks. The steps of a request are
the lookup of the wamid, the insert with its commit, and the dispatch of the job, whose
failure is logged: the request answers 200 all the same. A task starts from its job, and
the job leaves the queue when the task has ended.
-/

namespace WaService

open Python Relational Transition

/-- A webhook request. -/
structure WebhookPost where
  rawBody : List UInt8
  hubSignature : Option String

/-- The parameters of the `INSERT` into `wa.inbox`. -/
structure InboxDraft where
  wamid : Json
  phoneNumberId : Json
  payload : Json
  signatureOk : Bool

/-- Where a request stands. -/
inductive RequestPhase where
  | arriving
  /-- The wamid is not known; the `INSERT` is next. -/
  | inserting (draft : InboxDraft)
  /-- The row is stored; the call of the job queue is next. -/
  | dispatching (inboxId : Nat)
  /-- Answered with 200; no row for a body that is not JSON or known already. -/
  | returned (inboxId : Option Nat)
  /-- Ended with an exception. -/
  | failed

/-- The requests of the indices `ι` over the inbox tasks and their database. -/
abbrev Requests (ι : Type) := Processes ι InboxTasks RequestPhase

/-- One step of a request or of a task. -/
inductive RequestAction (ι : Type) where
  | check (i : ι)
  | insert (i : ι) (newId : Nat)
  /-- The call of the job queue; it may fail before the job is stored. -/
  | dispatch (i : ι) (stored : Bool)
  | task (a : TaskAction)
  /-- The queue learns that the task has ended. -/
  | finish (inboxId : Nat)

/-- `insert_inbox` up to its `INSERT`. -/
def draftOf (db : Db) (payload : Json) (signatureOk : Bool) : Except Error (Option InboxDraft) := do
  let wamid ← extractWamid payload
  let phoneNumberId ← extractPhoneNumberId payload
  let known ← inboxHolds db wamid
  return if known then none else some ⟨wamid, phoneNumberId, payload, signatureOk⟩

/-- The phase after the lookup of the wamid. -/
def phaseOfPost (env : Env) (db : Db) (post : WebhookPost) : RequestPhase :=
  match verifySignature env post.rawBody post.hubSignature with
  | .error _ => .failed
  | .ok signatureOk =>
    match env.jsonLoads post.rawBody with
    | none => .returned none
    | some payload =>
      match draftOf db payload signatureOk with
      | .error _ => .failed
      | .ok none => .returned none
      | .ok (some draft) => .inserting draft

namespace InboxTasks

/-- The tasks over another database. -/
def withRest (c : InboxTasks) (db : Db) : InboxTasks := ⟨{ c.shared with rest := db }, c.phase⟩

/-- The tasks with another queue. -/
def withJobs (c : InboxTasks) (jobs : List Job) : InboxTasks :=
  ⟨{ c.shared with jobs := jobs }, c.phase⟩

end InboxTasks

namespace Requests

variable {ι : Type}

/-- The inbox, the routes and the contacts. -/
def db (c : Requests ι) : Db := c.shared.shared.rest

/-- The jobs in the queue. -/
def jobs (c : Requests ι) : List Job := c.shared.shared.jobs

end Requests

/-- A task starts only from its job. -/
def TaskAction.hasJob (jobs : List Job) : TaskAction → Bool
  | .load inboxId => jobs.contains (.processInboxRow inboxId)
  | _ => true

/-- The steps of the requests and the tasks. -/
def requestStep {ι : Type} [DecidableEq ι] (env : Env) (posts : ι → WebhookPost) (c : Requests ι) :
    RequestAction ι → Option (Requests ι)
  | .check i =>
    match c.phase i with
    | .arriving => some (c.advance i c.shared (phaseOfPost env c.db (posts i)))
    | _ => none
  | .insert i newId =>
    match c.phase i with
    | .inserting d =>
      match writeInbox env c.db newId d.wamid d.phoneNumberId d.payload d.signatureOk with
      | .ok db => some (c.advance i (c.shared.withRest db) (.dispatching newId))
      | .error _ => some (c.advance i c.shared .failed)
    | _ => none
  | .dispatch i stored =>
    match c.phase i with
    | .dispatching inboxId =>
      some (c.advance i
        (if stored then c.shared.withJobs (c.jobs ++ [.processInboxRow inboxId]) else c.shared)
        (.returned (some inboxId)))
    | _ => none
  | .task a =>
    if a.hasJob c.jobs then (taskStep env c.shared a).map fun tasks => { c with shared := tasks }
    else none
  | .finish inboxId =>
    if (c.shared.phase inboxId).ended then
      some { c with shared := c.shared.withJobs (c.jobs.erase (.processInboxRow inboxId)) }
    else none

section Alone

variable {ι : Type} [DecidableEq ι] {env : Env} {posts : ι → WebhookPost} {c : Requests ι} {i : ι}

/-- The phase in which the request ends. -/
def RequestPhase.answers (l : RequestPhase) (answered : Bool) : Prop :=
  match l with
  | .returned _ => answered = true
  | .failed => answered = false
  | _ => False

/-- The lookup, and the insert of the draft that it leaves, are `insertInbox`. -/
theorem insertInbox_eq (db : Db) (newId : Nat) (signatureOk : Bool) {rawBody : List UInt8}
    {payload : Json} (hload : env.jsonLoads rawBody = some payload) :
    insertInbox env db newId rawBody signatureOk =
      (draftOf db payload signatureOk).bind fun draft =>
        draft.elim (.ok (none, db)) fun d =>
          (writeInbox env db newId d.wamid d.phoneNumberId d.payload d.signatureOk).map
            fun db' => (some newId, db') := by
  unfold insertInbox draftOf
  rw [hload]
  simp only [bind, Except.bind, pure, Except.pure]
  cases extractWamid payload with
  | error e => rfl
  | ok wamid =>
    cases extractPhoneNumberId payload with
    | error e => rfl
    | ok number =>
      simp only
      cases inboxHolds db wamid with
      | error e => rfl
      | ok known =>
        cases known with
        | true => rfl
        | false =>
          simp only [Bool.false_eq_true, if_false, Option.elim]
          cases writeInbox env db newId wamid number payload signatureOk with
          | error e => rfl
          | ok db' => rfl

/-- How the request ends, once its draft is known, on the row with the given id. -/
theorem run_insert_alone (env : Env) (posts : ι → WebhookPost) {d : InboxDraft}
    (hi : c.phase i = .inserting d) (newId : Nat) (dispatched : Bool) :
    Reaches (requestStep env posts) c fun c' =>
      (∃ db', writeInbox env c.db newId d.wamid d.phoneNumberId d.payload d.signatureOk = .ok db' ∧
        c'.db = db' ∧ c'.jobs = c.jobs ++ (if dispatched then [.processInboxRow newId] else []) ∧
        (c'.phase i).answers true) ∨
      (∃ e, writeInbox env c.db newId d.wamid d.phoneNumberId d.payload d.signatureOk = .error e ∧
        c'.db = c.db ∧ c'.jobs = c.jobs ∧ (c'.phase i).answers false) := by
  cases hwrite : writeInbox env c.db newId d.wamid d.phoneNumberId d.payload d.signatureOk with
  | error e =>
    have hinsert : requestStep env posts c (.insert i newId) =
        some (c.advance i c.shared .failed) := by
      simp only [requestStep, hi, hwrite]
    refine .after hinsert (.here (Or.inr ⟨e, rfl, rfl, rfl, ?_⟩))
    rw [Processes.advance_phase_self]
    rfl
  | ok db' =>
    let stored : Requests ι := c.advance i (c.shared.withRest db') (.dispatching newId)
    have hinsert : requestStep env posts c (.insert i newId) = some stored := by
      simp only [requestStep, hi, hwrite]
      rfl
    have hphase : stored.phase i = .dispatching newId := Processes.advance_phase_self
    have hdispatch : requestStep env posts stored (.dispatch i dispatched) = some (stored.advance i
        (if dispatched then stored.shared.withJobs (stored.jobs ++ [.processInboxRow newId])
          else stored.shared) (.returned (some newId))) := by
      simp only [requestStep, hphase]
    refine .after hinsert (.after hdispatch (.here (Or.inl ⟨db', rfl, ?_, ?_, ?_⟩)))
    · cases dispatched
      · rfl
      · rfl
    · cases dispatched
      · exact (List.append_nil _).symm
      · rfl
    · rw [Processes.advance_phase_self]
      rfl

/-- A request that runs without interruption does what `receiveWebhook` says. -/
theorem run_webhook_alone (hi : c.phase i = .arriving) (newId : Nat) (dispatched : Bool) :
    let r := receiveWebhook env c.db newId (posts i).rawBody (posts i).hubSignature dispatched
    Reaches (requestStep env posts) c fun c' =>
      c'.db = r.db ∧ c'.jobs = c.jobs ++ r.jobs ∧ (c'.phase i).answers r.answered := by
  intro r
  have hcheck : requestStep env posts c (.check i) =
      some (c.advance i c.shared (phaseOfPost env c.db (posts i))) := by
    simp only [requestStep, hi]
  -- The request ends with its lookup, or goes on to the insert.
  have hended : ∀ l, phaseOfPost env c.db (posts i) = l → r.db = c.db → r.jobs = [] →
      l.answers r.answered → Reaches (requestStep env posts) c fun c' =>
        c'.db = r.db ∧ c'.jobs = c.jobs ++ r.jobs ∧ (c'.phase i).answers r.answered := by
    intro l hl hdb hjobs hanswers
    refine .after hcheck (.here ⟨hdb.symm, ?_, ?_⟩)
    · rw [hjobs, List.append_nil]
      rfl
    · rwa [Processes.advance_phase_self, hl]
  cases hsig : verifySignature env (posts i).rawBody (posts i).hubSignature with
  | error e =>
    refine hended .failed ?_ ?_ ?_ ?_
    · simp only [phaseOfPost, hsig]
    all_goals simp only [r, receiveWebhook, hsig, RequestPhase.answers]
  | ok signatureOk =>
    cases hload : env.jsonLoads (posts i).rawBody with
    | none =>
      have hnone : insertInbox env c.db newId (posts i).rawBody signatureOk = .ok (none, c.db) := by
        simp only [insertInbox, hload]
      refine hended (.returned none) ?_ ?_ ?_ ?_
      · simp only [phaseOfPost, hsig, hload]
      all_goals simp only [r, receiveWebhook, hsig, hnone, RequestPhase.answers]
    | some payload =>
      have heq := insertInbox_eq c.db newId signatureOk hload
      cases hdraft : draftOf c.db payload signatureOk with
      | error e =>
        rw [hdraft] at heq
        refine hended .failed ?_ ?_ ?_ ?_
        · simp only [phaseOfPost, hsig, hload, hdraft]
        all_goals simp only [r, receiveWebhook, hsig, heq, Except.bind, RequestPhase.answers]
      | ok draft =>
        rw [hdraft] at heq
        cases draft with
        | none =>
          refine hended (.returned none) ?_ ?_ ?_ ?_
          · simp only [phaseOfPost, hsig, hload, hdraft]
          all_goals simp only [r, receiveWebhook, hsig, heq, Except.bind, Option.elim,
            RequestPhase.answers]
        | some d =>
          let drafted : Requests ι := c.advance i c.shared (.inserting d)
          have hstep : requestStep env posts c (.check i) = some drafted := by
            rw [hcheck]
            simp only [phaseOfPost, hsig, hload, hdraft]
            rfl
          have hphase : drafted.phase i = .inserting d := Processes.advance_phase_self
          have hrun := run_insert_alone env posts hphase newId dispatched
          refine .after hstep (hrun.imp fun t ht => ?_)
          rcases ht with ⟨db', hwrite, hdb, hjobs, hanswers⟩ | ⟨e, hwrite, hdb, hjobs, hanswers⟩
          · have hstored : insertInbox env c.db newId (posts i).rawBody signatureOk =
                .ok (some newId, db') := by
              rw [heq]
              exact congrArg (Except.map _) hwrite
            have hr : r = ⟨db', if dispatched then [.processInboxRow newId] else [], true⟩ := by
              simp only [r, receiveWebhook, hsig, hstored]
            rw [hr]
            exact ⟨hdb, hjobs, hanswers⟩
          · have hfailed : insertInbox env c.db newId (posts i).rawBody signatureOk = .error e := by
              rw [heq]
              exact congrArg (Except.map _) hwrite
            have hr : r = ⟨c.db, [], false⟩ := by
              simp only [r, receiveWebhook, hsig, hfailed]
            rw [hr]
            exact ⟨hdb, hjobs.trans (List.append_nil _).symm, hanswers⟩

end Alone

end WaService
