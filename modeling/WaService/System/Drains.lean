import WaService.Api.Routes
import WaService.Core.Processes
import WaService.Worker.Outbox

/-!
# Overlapping drains

Any number of `send_outbox` runs over one database. The steps of a drain are the
claim, the lookups for a row, the call of Meta, and the transaction that records the
outcome. In between, replies are enqueued and the API is used. The log holds the
sends that Meta accepted.
-/

namespace WaService

open Python Relational Transition

/-- The result of a row that is still to be recorded. -/
inductive Conclusion where
  | answered (outcome : SendOutcome)
  | refused (error : String)
  deriving Repr

/-- Where a drain stands; `rest` are the claimed rows that come next. -/
inductive DrainPhase where
  | idle
  | draining (rest : List Outbox)
  /-- Meta is called next for this row. -/
  | sending (row : Outbox) (call : SendRequest) (rest : List Outbox)
  /-- `mark_sent` or `mark_failed` is next for this row. -/
  | marking (row : Outbox) (conclusion : Conclusion) (rest : List Outbox)
  /-- The drain failed after Meta accepted the send of this row. -/
  | lost (outboxId : Nat)
  | ended
  deriving Repr

/-- The database, and the accepted sends as drain and row. -/
structure DrainShared (ι : Type) where
  db : Db
  sends : List (ι × Nat)

/-- The drains of the indices `ι` over one database. -/
abbrev Drains (ι : Type) := Processes ι (DrainShared ι) DrainPhase

/-- One step of a drain, or of the rest of the service. -/
inductive DrainAction (ι : Type) where
  | claim (i : ι) (now : Timestamp) (locked : List Nat)
  | lookup (i : ι)
  | answer (i : ι) (outcome : SendOutcome) (accepted : Bool)
  | mark (i : ι) (now : Timestamp)
  | enqueue (newId : Nat) (now : Timestamp) (tenantId contactId : UUID) (sessionId : Option UUID)
      (kind : OutboxKind) (payload : List (String × Json)) (dedupKey : Option String)
      (sendAfter : Option Timestamp)
  | api (inp : ApiInput) (tenantId : UUID) (op : Operation)

/-- The phase after the lookups for the next row. -/
def phaseOfPlan (row : Outbox) (rest : List Outbox) : RowPlan → DrainPhase
  | .skip => .draining rest
  | .refuse error => .marking row (.refused error) rest
  | .send call => .sending row call rest
  | .raise => .ended

/-- The phase after the answer of Meta. -/
def phaseOfSend (row : Outbox) (rest : List Outbox) : SendOutcome → Bool → DrainPhase
  | .raised, true => .lost row.id
  | .raised, false => .ended
  | outcome, _ => .marking row (.answered outcome) rest

/-- Record the result of a row. -/
def markConclusion (env : Env) (db : Db) (now : Timestamp) (outboxId : Nat) :
    Conclusion → Except Error Db
  | .answered outcome => markOutcome env db now outboxId outcome
  | .refused error => .ok (markFailed db now outboxId (some error) true)

/-- The phase when the result of a row could not be recorded. -/
def phaseOfMarkError (outboxId : Nat) : Conclusion → DrainPhase
  | .answered (.ok _) => .lost outboxId
  | _ => .ended

/-- The steps of the drains and of what happens between them. -/
def drainStep {ι : Type} [DecidableEq ι] (env : Env) (c : Drains ι) :
    DrainAction ι → Option (Drains ι)
  | .claim i now locked =>
    match c.phase i with
    | .idle =>
      let (rows, db) := claimPending c.shared.db now locked 20
      some (c.advance i { c.shared with db := db } (.draining rows))
    | _ => none
  | .lookup i =>
    match c.phase i with
    | .draining [] => some (c.advance i c.shared .ended)
    | .draining (row :: rest) =>
      some (c.advance i c.shared (phaseOfPlan row rest (planRow env c.shared.db row)))
    | _ => none
  | .answer i outcome accepted =>
    match c.phase i with
    | .sending row _ rest =>
      if outcome.allows accepted then
        some (c.advance i
          ⟨c.shared.db, if accepted then (i, row.id) :: c.shared.sends else c.shared.sends⟩
          (phaseOfSend row rest outcome accepted))
      else none
    | _ => none
  | .mark i now =>
    match c.phase i with
    | .marking row conclusion rest =>
      match markConclusion env c.shared.db now row.id conclusion with
      | .ok db => some (c.advance i { c.shared with db := db } (.draining rest))
      | .error _ => some (c.advance i c.shared (phaseOfMarkError row.id conclusion))
    | _ => none
  | .enqueue newId now tenantId contactId sessionId kind payload dedupKey sendAfter =>
    match enqueueReply c.shared.db newId now tenantId contactId sessionId kind payload dedupKey
        sendAfter with
    | .ok (_, db) => some { c with shared := { c.shared with db := db } }
    | .error _ => none
  | .api inp tenantId op =>
    some { c with shared := { c.shared with db := (handle env c.shared.db inp tenantId op).db } }

/-- Drains about to start on a database. -/
def drainStart {ι : Type} (db : Db) : Drains ι :=
  ⟨⟨db, []⟩, fun _ => .idle⟩

/-! ## What a step does -/

section Moves

variable {ι : Type} [DecidableEq ι] {env : Env} {c c' : Drains ι}

/-- The steps of the drains, with one constructor for each of their outcomes. -/
inductive DrainMoves (env : Env) (c : Drains ι) : DrainAction ι → Drains ι → Prop
  | claim (i : ι) (now : Timestamp) (locked : List Nat) (hi : c.phase i = .idle) :
    DrainMoves env c (.claim i now locked)
      (c.advance i { c.shared with db := (claimPending c.shared.db now locked 20).2 }
        (.draining (claimPending c.shared.db now locked 20).1))
  | close (i : ι) (hi : c.phase i = .draining []) :
    DrainMoves env c (.lookup i) (c.advance i c.shared .ended)
  | lookup (i : ι) (row : Outbox) (rest : List Outbox) (hi : c.phase i = .draining (row :: rest)) :
    DrainMoves env c (.lookup i)
      (c.advance i c.shared (phaseOfPlan row rest (planRow env c.shared.db row)))
  | answer (i : ι) (outcome : SendOutcome) (accepted : Bool) {row : Outbox} {call : SendRequest}
      {rest : List Outbox} (hi : c.phase i = .sending row call rest)
      (hallow : outcome.allows accepted = true) :
    DrainMoves env c (.answer i outcome accepted)
      (c.advance i
        ⟨c.shared.db, if accepted then (i, row.id) :: c.shared.sends else c.shared.sends⟩
        (phaseOfSend row rest outcome accepted))
  | mark (i : ι) (now : Timestamp) {row : Outbox} {conclusion : Conclusion} {rest : List Outbox}
      {db : Db} (hi : c.phase i = .marking row conclusion rest)
      (hmark : markConclusion env c.shared.db now row.id conclusion = .ok db) :
    DrainMoves env c (.mark i now) (c.advance i { c.shared with db := db } (.draining rest))
  | markError (i : ι) (now : Timestamp) {row : Outbox} {conclusion : Conclusion}
      {rest : List Outbox} {e : Error} (hi : c.phase i = .marking row conclusion rest)
      (hmark : markConclusion env c.shared.db now row.id conclusion = .error e) :
    DrainMoves env c (.mark i now) (c.advance i c.shared (phaseOfMarkError row.id conclusion))
  | enqueue {newId : Nat} {now : Timestamp} {tenantId contactId : UUID} {sessionId : Option UUID}
      {kind : OutboxKind} {payload : List (String × Json)} {dedupKey : Option String}
      {sendAfter : Option Timestamp} {id : Nat} {db : Db}
      (henq : enqueueReply c.shared.db newId now tenantId contactId sessionId kind payload dedupKey
        sendAfter = .ok (id, db)) :
    DrainMoves env c
      (.enqueue newId now tenantId contactId sessionId kind payload dedupKey sendAfter)
      { c with shared := { c.shared with db := db } }
  | api (inp : ApiInput) (tenantId : UUID) (op : Operation) :
    DrainMoves env c (.api inp tenantId op)
      { c with shared := { c.shared with db := (handle env c.shared.db inp tenantId op).db } }

theorem drainStep_moves {a : DrainAction ι} (h : drainStep env c a = some c') :
    DrainMoves env c a c' := by
  cases a with
  | claim i now locked =>
    simp only [drainStep] at h
    split at h
    · rename_i hi
      cases h
      exact .claim i now locked hi
    · contradiction
  | lookup i =>
    simp only [drainStep] at h
    split at h
    · rename_i hi
      cases h
      exact .close i hi
    · rename_i row rest hi
      cases h
      exact .lookup i row rest hi
    · contradiction
  | answer i outcome accepted =>
    simp only [drainStep] at h
    split at h
    · rename_i hi
      split at h
      · rename_i hallow
        cases h
        exact .answer i outcome accepted hi hallow
      · contradiction
    · contradiction
  | mark i now =>
    simp only [drainStep] at h
    split at h
    · rename_i hi
      split at h
      · rename_i hmark
        cases h
        exact .mark i now hi hmark
      · rename_i hmark
        cases h
        exact .markError i now hi hmark
    · contradiction
  | enqueue newId now tenantId contactId sessionId kind payload dedupKey sendAfter =>
    simp only [drainStep] at h
    split at h
    · rename_i henq
      cases h
      exact .enqueue henq
    · contradiction
  | api inp tenantId op =>
    cases h
    exact .api inp tenantId op

end Moves

/-! ## A drain that runs alone -/

section Alone

variable {ι : Type} [DecidableEq ι] (env : Env) {c : Drains ι} {i : ι}

/-- Meta accepts exactly what it answers with a wamid. -/
def SendOutcome.delivered : SendOutcome → Bool
  | .ok _ => true
  | _ => false

theorem SendOutcome.allows_delivered (outcome : SendOutcome) :
    outcome.allows outcome.delivered = true := by
  cases outcome <;> rfl

theorem drainStep_lookup {row : Outbox} {rest : List Outbox}
    (hi : c.phase i = .draining (row :: rest)) : drainStep env c (.lookup i) =
      some (c.advance i c.shared (phaseOfPlan row rest (planRow env c.shared.db row))) := by
  simp only [drainStep, hi]

theorem drainStep_mark {row : Outbox} {conclusion : Conclusion} {rest : List Outbox}
    (hi : c.phase i = .marking row conclusion rest) (now : Timestamp) {db : Db}
    (hmark : markConclusion env c.shared.db now row.id conclusion = .ok db) :
    drainStep env c (.mark i now) =
      some (c.advance i { c.shared with db := db } (.draining rest)) := by
  simp only [drainStep, hi, hmark]

theorem drainStep_mark_error {row : Outbox} {conclusion : Conclusion} {rest : List Outbox}
    (hi : c.phase i = .marking row conclusion rest) (now : Timestamp) {e : Error}
    (hmark : markConclusion env c.shared.db now row.id conclusion = .error e) :
    drainStep env c (.mark i now) =
      some (c.advance i c.shared (phaseOfMarkError row.id conclusion)) := by
  simp only [drainStep, hi, hmark]

/-- The call of Meta leaves the database alone. -/
theorem drainStep_answer {row : Outbox} {call : SendRequest} {rest : List Outbox}
    (hi : c.phase i = .sending row call rest) (outcome : SendOutcome) :
    ∃ sends, drainStep env c (.answer i outcome outcome.delivered) =
      some (c.advance i ⟨c.shared.db, sends⟩ (phaseOfSend row rest outcome outcome.delivered)) := by
  simp only [drainStep, hi, outcome.allows_delivered, if_true]
  exact ⟨_, rfl⟩

/-- A drain alone handles its rows as `drainRows` says. -/
theorem run_rows_alone (calls : DrainCalls) {rows : List Outbox} (hi : c.phase i = .draining rows) :
    Reaches (drainStep env) c fun c' =>
      c'.shared.db = (drainRows env calls c.shared.db rows).1 := by
  induction rows generalizing c with
  | nil =>
    have hend : drainStep env c (.lookup i) = some (c.advance i c.shared .ended) := by
      simp only [drainStep, hi]
    exact .after hend (.here rfl)
  | cons row rest ih =>
    have hlookup := drainStep_lookup env hi
    unfold drainRows
    cases hplan : planRow env c.shared.db row with
    | skip =>
      rw [hplan] at hlookup
      exact .after hlookup (ih Processes.advance_phase_self)
    | raise =>
      rw [hplan] at hlookup
      exact .after hlookup (.here rfl)
    | refuse error =>
      rw [hplan] at hlookup
      let looked : Drains ι := c.advance i c.shared (.marking row (.refused error) rest)
      have hphase : looked.phase i = .marking row (.refused error) rest :=
        Processes.advance_phase_self
      have hmark := drainStep_mark env hphase calls.now rfl
      exact .after hlookup (.after hmark (ih Processes.advance_phase_self))
    | send call =>
      rw [hplan] at hlookup
      let looked : Drains ι := c.advance i c.shared (.sending row call rest)
      have hphase : looked.phase i = .sending row call rest := Processes.advance_phase_self
      obtain ⟨sends, hanswer⟩ := drainStep_answer env hphase (calls.client call)
      -- The outcome is recorded, unless the call raised.
      have hrecord : ∀ outcome : SendOutcome,
          phaseOfSend row rest outcome outcome.delivered = .marking row (.answered outcome) rest →
          calls.client call = outcome →
          Reaches (drainStep env) looked fun c' =>
            c'.shared.db =
              (match markOutcome env c.shared.db calls.now row.id outcome with
                | .ok db' => drainRows env calls db' rest
                | .error _ => (c.shared.db, true)).1 := by
        intro outcome hsent houtcome
        rw [houtcome, hsent] at hanswer
        let answered : Drains ι :=
          looked.advance i ⟨c.shared.db, sends⟩ (.marking row (.answered outcome) rest)
        have hmarking : answered.phase i = .marking row (.answered outcome) rest :=
          Processes.advance_phase_self
        cases hm : markOutcome env c.shared.db calls.now row.id outcome with
        | ok db' =>
          have hmark : drainStep env answered (.mark i calls.now) = some
              (answered.advance i { answered.shared with db := db' } (.draining rest)) :=
            drainStep_mark env hmarking calls.now hm
          exact .after hanswer (.after hmark (ih Processes.advance_phase_self))
        | error e =>
          have hmark := drainStep_mark_error env hmarking calls.now hm
          exact .after hanswer (.after hmark (.here rfl))
      refine .after hlookup ?_
      cases houtcome : calls.client call with
      | raised =>
        rw [houtcome] at hanswer
        simp only [houtcome]
        exact .after hanswer (.here rfl)
      | ok wamid =>
        simp only [houtcome]
        exact hrecord (.ok wamid) rfl houtcome
      | failed code message retryable =>
        simp only [houtcome]
        exact hrecord (.failed code message retryable) rfl houtcome

/-- A drain that runs without interruption does what `sendOutbox` says. -/
theorem run_drain_alone (db : Db) (calls : DrainCalls) (i : ι) :
    Reaches (drainStep env) (drainStart db : Drains ι) fun c' =>
      c'.shared.db = (sendOutbox env db calls).1 := by
  let claimed : Drains ι := (drainStart db).advance i
    ⟨(claimPending db calls.now calls.locked 20).2, []⟩
    (.draining (claimPending db calls.now calls.locked 20).1)
  have hclaim : drainStep env (drainStart db) (.claim i calls.now calls.locked) = some claimed :=
    rfl
  have hphase : claimed.phase i = .draining (claimPending db calls.now calls.locked 20).1 :=
    Processes.advance_phase_self
  exact .after hclaim (run_rows_alone env calls hphase)

end Alone

end WaService
