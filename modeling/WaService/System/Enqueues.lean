import WaService.System.Drains

/-!
# Overlapping enqueues

Any number of `enqueue_reply` calls beside any number of drains. A call with a session and a
deduplication key first selects the pending row with its key, and then inserts; in between, other
calls insert and drains record their results. An insert is visible to the others when its
transaction commits, so that the step of the insert is that of the commit.
-/

namespace WaService

open Python Relational Transition

/-! ## The statements of a call -/

/-- The arguments of a call of `enqueue_reply`. -/
structure Reply where
  tenantId : UUID
  contactId : UUID
  sessionId : Option UUID
  kind : OutboxKind
  payload : List (String × Json)
  dedupKey : Option String
  sendAfter : Option Timestamp

/-- The first statement: the pending row with the key, for a call with a session and a key. -/
def Reply.select (db : Db) (r : Reply) : Except Error (Option Nat) :=
  match r.dedupKey, r.sessionId with
  | some key, some sid =>
    if key == "" then .ok none
    else
      match pendingDuplicates db sid r.kind key with
      | [] => .ok none
      | [existing] => .ok (some existing.id)
      | _ :: _ :: _ => .error .multipleResultsFound
  | _, _ => .ok none

/-- The payload that is stored, stamped with the key if there is one. -/
def Reply.stamped (r : Reply) : List (String × Json) :=
  match r.dedupKey with
  | some key => if key == "" then r.payload else stampDedup r.payload key
  | none => r.payload

/-- The second statement. -/
def Reply.insert (db : Db) (newId : Nat) (now : Timestamp) (r : Reply) : Except Error (Nat × Db) :=
  insertOutbox db newId now r.tenantId r.contactId r.sessionId r.kind r.stamped r.sendAfter

/-- A call is its two statements. -/
theorem enqueueReply_eq_statements (db : Db) (newId : Nat) (now : Timestamp) (r : Reply) :
    enqueueReply db newId now r.tenantId r.contactId r.sessionId r.kind r.payload r.dedupKey
        r.sendAfter = (do
      match ← r.select db with
      | some existing => return (existing, db)
      | none => r.insert db newId now) := by
  obtain ⟨tenantId, contactId, sessionId, kind, payload, dedupKey, sendAfter⟩ := r
  unfold enqueueReply Reply.select Reply.insert Reply.stamped
  cases dedupKey with
  | none => rfl
  | some key =>
    cases sessionId with
    | none => rfl
    | some sid =>
      simp only
      generalize pendingDuplicates db sid kind key = rows
      split
      · rfl
      · cases rows with
        | nil => rfl
        | cons existing rest =>
          cases rest with
          | nil => rfl
          | cons _ _ => rfl

/-! ## The system -/

/-- Where a caller of `enqueue_reply` stands. -/
inductive EnqueuePhase where
  | idle
  /-- The select has found no row; the insert is next. -/
  | inserting (r : Reply)

/-- The callers of the indices `κ` beside the drains of the indices `ι`. -/
abbrev Queue (ι κ : Type) := Processes κ (Drains ι) EnqueuePhase

/-- The database behind the queue. -/
def queueDb {ι κ : Type} (c : Queue ι κ) : Db := c.shared.shared.db

/-- A statement of a caller, or a step of the drains. -/
inductive QueueAction (ι κ : Type) where
  | select (k : κ) (r : Reply)
  | insert (k : κ) (newId : Nat) (now : Timestamp)
  | drain (a : DrainAction ι)

/-- A whole call in one step. -/
def DrainAction.isEnqueue {ι : Type} : DrainAction ι → Bool
  | .enqueue .. => true
  | _ => false

section Steps

variable {ι κ : Type} [DecidableEq ι] [DecidableEq κ]

/-- The steps of callers and drains. A call that finds a row or raises is over. -/
def queueStep (env : Env) (c : Queue ι κ) : QueueAction ι κ → Option (Queue ι κ)
  | .select k r =>
    match c.phase k with
    | .idle =>
      match r.select (queueDb c) with
      | .ok none => some (c.advance k c.shared (.inserting r))
      | .ok (some _) => some c
      | .error _ => some c
    | .inserting _ => none
  | .insert k newId now =>
    match c.phase k with
    | .idle => none
    | .inserting r =>
      match r.insert (queueDb c) newId now with
      | .ok (_, db) =>
        some (c.advance k { c.shared with shared := { c.shared.shared with db := db } } .idle)
      | .error _ => some (c.advance k c.shared .idle)
  | .drain a =>
    if a.isEnqueue then none
    else (drainStep env c.shared a).map fun d => { c with shared := d }

/-- A call without interruption leaves the database as `enqueueReply` says. -/
theorem run_enqueue_alone (env : Env) {c : Queue ι κ} {k : κ} (hk : c.phase k = .idle) (r : Reply)
    {newId id : Nat} {now : Timestamp} {db : Db}
    (h : enqueueReply (queueDb c) newId now r.tenantId r.contactId r.sessionId r.kind r.payload
      r.dedupKey r.sendAfter = .ok (id, db)) :
    Reaches (queueStep env) c fun c' => queueDb c' = db := by
  rw [enqueueReply_eq_statements] at h
  obtain ⟨found, hselect, h⟩ := bind_eq_ok.mp h
  cases found with
  | some existing =>
    cases h
    exact .here rfl
  | none =>
    let looked : Queue ι κ := c.advance k c.shared (.inserting r)
    have hfirst : queueStep env c (.select k r) = some looked := by
      simp only [queueStep, hk, hselect, looked]
    have hphase : looked.phase k = .inserting r := Processes.advance_phase_self
    have hinsert : r.insert (queueDb looked) newId now = .ok (id, db) := h
    have hsecond : queueStep env looked (.insert k newId now) = some (looked.advance k
        { looked.shared with shared := { looked.shared.shared with db := db } } .idle) := by
      simp only [queueStep, hphase, hinsert]
    exact .after hfirst (.after hsecond (.here rfl))

end Steps

end WaService
