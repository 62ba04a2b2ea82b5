import Mathlib.Data.List.Sort
import WaService.Schema.Environment

/-!
# The outbound queue

`enqueue_reply` with its deduplication, the claim that expires rows past the
23-hour margin and raises the attempt counter of the rows it returns, and the two
updates that conclude a send. A claimed row keeps the state `pending`.
-/

namespace WaService

open Python Relational

/-- `_MAX_ATTEMPTS`. -/
def maxOutboxAttempts : Nat := 3

/-- `payload->>'_dedup'`. -/
def dedupOf (payload : Json) : Option String :=
  match payload with
  | .obj fields =>
    match fields.lookup "_dedup" with
    | some (.str s) => some s
    | _ => none
  | _ => none

/-- The pending rows that an enqueue with this key would duplicate. -/
def pendingDuplicates (db : Db) (sessionId : UUID) (kind : OutboxKind) (dedupKey : String) :
    List Outbox :=
  db.outbox.rows.filter fun o => o.sessionId == some sessionId && o.kind == kind &&
    o.state == .pending && dedupOf o.payload == some dedupKey

/-- The insert into `wa.outbox`. -/
def insertOutbox (db : Db) (newId : Nat) (now : Timestamp) (tenantId contactId : UUID)
    (sessionId : Option UUID) (kind : OutboxKind) (payload : List (String × Json))
    (sendAfter : Option Timestamp) : Except Error (Nat × Db) :=
  if (Json.obj payload).storable then
    match db.outbox.insert? ⟨newId, tenantId, contactId, sessionId, kind, .obj payload, .pending, 0,
        sendAfter.getD now, none, none, none⟩ with
    | some outbox => .ok (newId, { db with outbox := outbox })
    | none => .error .integrityError
  else .error .dataError

/-- `{**payload, "_dedup": key}`. -/
def stampDedup (payload : List (String × Json)) (key : String) : List (String × Json) :=
  (payload.filter fun f => f.1 != "_dedup") ++ [("_dedup", .str key)]

/-- Enqueue a message unless the session already has a pending one with its key. -/
def enqueueReply (db : Db) (newId : Nat) (now : Timestamp) (tenantId contactId : UUID)
    (sessionId : Option UUID) (kind : OutboxKind) (payload : List (String × Json))
    (dedupKey : Option String) (sendAfter : Option Timestamp) : Except Error (Nat × Db) :=
  match dedupKey, sessionId with
  | some key, some sid =>
    if key == "" then insertOutbox db newId now tenantId contactId sessionId kind payload sendAfter
    else
      match pendingDuplicates db sid kind key with
      | [] =>
        insertOutbox db newId now tenantId contactId sessionId kind
          (stampDedup payload key) sendAfter
      | [existing] => .ok (existing.id, db)
      | _ :: _ :: _ => .error .multipleResultsFound
  | some key, none =>
    insertOutbox db newId now tenantId contactId sessionId kind
      (if key == "" then payload else stampDedup payload key) sendAfter
  | none, _ => insertOutbox db newId now tenantId contactId sessionId kind payload sendAfter

/-- The tenant, contact and session that a row is addressed to. -/
def Outbox.AddressedTo (tenantId contactId : UUID) (sessionId : Option UUID) (o : Outbox) : Prop :=
  o.tenantId = tenantId ∧ o.contactId = contactId ∧ o.sessionId = sessionId

theorem insertOutbox_rows {db db' : Db} {newId id : Nat} {now : Timestamp}
    {tenantId contactId : UUID} {sessionId : Option UUID} {kind : OutboxKind}
    {payload : List (String × Json)} {sendAfter : Option Timestamp}
    (h : insertOutbox db newId now tenantId contactId sessionId kind payload sendAfter =
      .ok (id, db')) :
    ∃ o outbox, db.outbox.insert? o = some outbox ∧ db' = { db with outbox := outbox } ∧
      o.AddressedTo tenantId contactId sessionId ∧ o.state = .pending := by
  unfold insertOutbox at h
  split at h
  · split at h
    · rename_i outbox hins
      cases h
      exact ⟨_, outbox, hins, rfl, ⟨rfl, rfl, rfl⟩, rfl⟩
    · contradiction
  · contradiction

/-- An enqueued reply is a new row for its session, or no row at all. -/
theorem enqueueReply_rows {db db' : Db} {newId id : Nat} {now : Timestamp}
    {tenantId contactId : UUID} {sessionId : Option UUID} {kind : OutboxKind}
    {payload : List (String × Json)} {dedupKey : Option String} {sendAfter : Option Timestamp}
    (h : enqueueReply db newId now tenantId contactId sessionId kind payload dedupKey sendAfter =
      .ok (id, db')) :
    db' = db ∨ ∃ o outbox, db.outbox.insert? o = some outbox ∧ db' = { db with outbox := outbox } ∧
      o.AddressedTo tenantId contactId sessionId ∧ o.state = .pending := by
  unfold enqueueReply at h
  split at h
  · split at h
    · exact Or.inr (insertOutbox_rows h)
    · split at h
      · exact Or.inr (insertOutbox_rows h)
      · cases h
        exact Or.inl rfl
      · contradiction
  · exact Or.inr (insertOutbox_rows h)
  · exact Or.inr (insertOutbox_rows h)

theorem insertOutbox_error {db : Db} {newId : Nat} {now : Timestamp} {tenantId contactId : UUID}
    {sessionId : Option UUID} {kind : OutboxKind} {payload : List (String × Json)}
    {sendAfter : Option Timestamp} {e : Error} (hnew : ∀ o ∈ db.outbox.rows, o.id ≠ newId)
    (h : insertOutbox db newId now tenantId contactId sessionId kind payload sendAfter = .error e) :
    e = .dataError := by
  unfold insertOutbox at h
  split at h
  · split at h
    · cases h
    · rename_i hnone
      obtain ⟨o, ho, hclash⟩ := Table.insert?_eq_none.mp hnone
      simp only [clash, Bool.or_eq_true, sameKey, beq_iff_eq] at hclash
      rcases hclash with hid | hkey
      · exact absurd hid (hnew o ho)
      · contradiction
  · cases h
    rfl

/-- With an unused id an enqueue breaks no unique index. -/
theorem enqueueReply_error {db : Db} {newId : Nat} {now : Timestamp} {tenantId contactId : UUID}
    {sessionId : Option UUID} {kind : OutboxKind} {payload : List (String × Json)}
    {dedupKey : Option String} {sendAfter : Option Timestamp} {e : Error}
    (hnew : ∀ o ∈ db.outbox.rows, o.id ≠ newId)
    (h : enqueueReply db newId now tenantId contactId sessionId kind payload dedupKey sendAfter =
      .error e) : e = .dataError ∨ e = .multipleResultsFound := by
  unfold enqueueReply at h
  split at h
  · split at h
    · exact Or.inl (insertOutbox_error hnew h)
    · split at h
      · exact Or.inl (insertOutbox_error hnew h)
      · cases h
      · cases h
        exact Or.inr rfl
  · exact Or.inl (insertOutbox_error hnew h)
  · exact Or.inl (insertOutbox_error hnew h)

/-- An update of the outbox that keeps identities. -/
theorem Outbox.keeps {p : Outbox → Bool} {f : Outbox → Outbox} (h : ∀ o, (f o).id = o.id) :
    Table.Keeps p f :=
  Table.keeps_of fun o _ => ⟨Or.inl (by rw [h o]), Or.inl rfl⟩

/-- `UPDATE wa.outbox`: apply `f` to the rows that `p` selects. -/
def Db.updateOutbox (db : Db) (p : Outbox → Bool) (f : Outbox → Outbox)
    (h : ∀ o, (f o).id = o.id) : Db :=
  { db with outbox := db.outbox.update p f (Outbox.keeps h) }

theorem mem_updateOutbox {db : Db} {p : Outbox → Bool} {f : Outbox → Outbox}
    (h : ∀ o, (f o).id = o.id) {o' : Outbox} :
    o' ∈ (db.updateOutbox p f h).outbox.rows ↔ ∃ o ∈ db.outbox.rows, patch p f o = o' := by
  simp [Db.updateOutbox]

/-- A pending row whose due time lies more than 23 hours back. -/
def windowMissed (now : Timestamp) (o : Outbox) : Bool :=
  o.state == .pending && o.sendAfter < now - seconds (23 * 3600)

/-- The row as the expiry leaves it. -/
def skipWindow (o : Outbox) : Outbox := { o with state := .skippedWindow }

/-- The first statement of `claim_pending`: rows that missed their window. -/
def expireOutbox (db : Db) (now : Timestamp) : Db :=
  db.updateOutbox (windowMissed now) skipWindow fun _ => rfl

/-- A row that the claim may take; `locked` are the ids that other open
transactions hold, which `SKIP LOCKED` passes over. -/
def claimable (now : Timestamp) (locked : List Nat) (o : Outbox) : Bool :=
  o.state == .pending && o.sendAfter ≤ now && o.attempts < maxOutboxAttempts &&
    !locked.contains o.id

/-- The rows one claim takes, earliest due time first. -/
def claimBatch (db : Db) (now : Timestamp) (locked : List Nat) (limit : Nat) : List Nat :=
  (((db.outbox.rows.filter (claimable now locked)).insertionSort
    fun a b => a.sendAfter ≤ b.sendAfter).take limit).map (·.id)

/-- The row as the claim leaves it. -/
def raiseAttempts (o : Outbox) : Outbox := { o with attempts := o.attempts + 1 }

/-- The rows that the claim's update selects. -/
def claimed (db : Db) (now : Timestamp) (locked : List Nat) (limit : Nat) (o : Outbox) : Bool :=
  claimable now locked o && (claimBatch db now locked limit).contains o.id

/-- Expire window-missed rows, then claim ready ones with SKIP LOCKED. -/
def claimPending (db : Db) (now : Timestamp) (locked : List Nat) (limit : Nat) :
    List Outbox × Db :=
  let expired := expireOutbox db now
  (expired.outbox.returning (claimed expired now locked limit) raiseAttempts,
    expired.updateOutbox (claimed expired now locked limit) raiseAttempts fun _ => rfl)

/-- The row of an accepted send. -/
def Outbox.sent (now : Timestamp) (wamid : Option String) (o : Outbox) : Outbox :=
  { o with state := .sent, sentAt := some now, wamid := wamid }

/-- The row of a send that failed for good. -/
def Outbox.failed (error : Option String) (o : Outbox) : Outbox :=
  { o with state := .failed, lastError := error }

/-- The row of a send to try again, after a backoff that doubles with the attempts. -/
def Outbox.rescheduled (now : Timestamp) (error : Option String) (o : Outbox) : Outbox :=
  { o with
    state := .pending
    lastError := error
    sendAfter := now + seconds 30 * 2 ^ o.attempts }

/-- Record an accepted send, whatever the state of the row. -/
def markSent (db : Db) (now : Timestamp) (outboxId : Nat) (wamid : Option String) : Db :=
  db.updateOutbox (fun o => o.id == outboxId) (Outbox.sent now wamid) fun _ => rfl

/-- Record a failed send: final when permanent, else pending again. -/
def markFailed (db : Db) (now : Timestamp) (outboxId : Nat) (error : Option String)
    (permanent : Bool) : Db :=
  if permanent then
    db.updateOutbox (fun o => o.id == outboxId) (Outbox.failed error) fun _ => rfl
  else
    db.updateOutbox (fun o => o.id == outboxId) (Outbox.rescheduled now error) fun _ => rfl

/-- True if `lastAt` is within the 23-hour safe window. -/
def withinWindow (now : Timestamp) : Option Timestamp → Bool
  | none => false
  | some lastAt => decide (now - lastAt < seconds (23 * 3600))

/-- The outbox row with a given id. -/
def outboxById (db : Db) (outboxId : Nat) : Option Outbox :=
  db.outbox.rows.find? fun o => o.id == outboxId

/-- The row with a given id is the only row with that id. -/
theorem outboxById_eq_some {db : Db} {id : Nat} {o : Outbox} :
    outboxById db id = some o ↔ o ∈ db.outbox.rows ∧ o.id = id := by
  constructor
  · intro h
    exact ⟨List.mem_of_find?_eq_some h, by simpa using List.find?_some h⟩
  · rintro ⟨ho, rfl⟩
    refine Table.find?_eq_some_of_mem ho (by simp) fun b hb => ?_
    simp only [clash, sameKey, Bool.or_eq_true, beq_iff_eq] at hb ⊢
    exact Or.inl hb

/-- A lookup after an update finds the row as the update leaves it. -/
theorem outboxById_update (db : Db) (p : Outbox → Bool) (f : Outbox → Outbox)
    (hf : ∀ o, (f o).id = o.id) (id : Nat) :
    outboxById (db.updateOutbox p f hf) id = (outboxById db id).map (patch p f) := by
  unfold outboxById Db.updateOutbox
  rw [Table.find?_update db.outbox fun o _ => by rw [hf o]]

/-- A lookup after a claim finds the row as the expiry and the claim leave it. -/
theorem outboxById_claimPending (db : Db) (now : Timestamp) (locked : List Nat) (limit id : Nat) :
    outboxById (claimPending db now locked limit).2 id =
      ((outboxById db id).map (patch (windowMissed now) skipWindow)).map
        (patch (claimed (expireOutbox db now) now locked limit) raiseAttempts) := by
  rw [← outboxById_update db (windowMissed now) skipWindow fun _ => rfl]
  exact outboxById_update (expireOutbox db now) _ raiseAttempts (fun _ => rfl) id

end WaService
