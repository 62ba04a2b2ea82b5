import WaService.Correctness.Provenance
import WaService.Correctness.Writes

/-!
# Columns that agree

The migrations tie only few columns of a row to its state. The code ties more: in every
database that a run reaches, the columns of each row agree with its state, and some of
the states that the migrations allow never occur. Every statement keeps that.
-/

namespace WaService

open Python Relational Transition

/-! ## What a row of each table looks like -/

/-- No payload is left in processing, and only a signed one is ever done. -/
structure Inbox.Consistent (r : Inbox) : Prop where
  state : r.state ≠ .processing
  signed : r.state = .done → r.signatureOk = true

/-- A session has a timer and counts no bytes; its deal, its times and its note come with the
states that set them, and it is never waiting for gaps, escalated or cancelled. -/
structure Session.Consistent (s : Session) : Prop where
  state : s.state ≠ .gapsPending ∧ s.state ≠ .escalated ∧ s.state ≠ .cancelled
  collecting : s.state = .collecting → s.submittedAt = none
  submitted : s.state = .processing ∨ s.state = .confirmingDeal → s.submittedAt.isSome = true
  unlinked : s.state = .collecting ∨ s.state = .processing → s.dealId = none
  linked : s.state = .confirmingDeal → s.dealId.isSome = true
  unfinished : s.state.isOpen = true → s.completedAt = none ∧ s.note = none
  complete : s.state = .complete → s.completedAt.isSome = true
  parked : s.state = .parked → s.note.isSome = true
  timer : s.flushAt.isSome = true
  orgUnit : s.orgUnitId.isSome = true
  counters : 0 ≤ s.fileCount ∧ s.bytesTotal = 0

/-- The columns of the evidence are set together, by the upload; a failure has its code, and only
a file that no task has touched is pending. -/
structure File.Consistent (f : File) : Prop where
  state : f.state ≠ .redacting ∧ f.state ≠ .skipped
  pending : f.state = .pending → f.attempts = 0 ∧ f.errorCode = none ∧ f.diDocumentId = none
  failed : f.state = .failed ∨ f.state = .quarantined → f.errorCode.isSome = true
  stored : f.state = .stored → f.diDocumentId.isSome = true
  attempts : 0 < f.attempts → f.errorCode.isSome = true
  uri : f.storageUri = f.diDocumentId.map uuidStr
  digest : f.localSha256.isSome = f.diDocumentId.isSome
  size : f.byteSize.isSome = f.diDocumentId.isSome
  storedAt : f.storedAt.isSome = f.diDocumentId.isSome
  typed : f.documentTypeKey.isSome = true → f.diFacts.isSome = true

/-- A deal is provisional or confirmed, and who confirmed it and when is known exactly when it
is confirmed. -/
structure Deal.Consistent (d : Deal) : Prop where
  state : d.state = .provisional ∨ d.state = .confirmed
  confirmedBy : d.confirmedBy.isSome = true ↔ d.state = .confirmed
  confirmedAt : d.confirmedAt.isSome = true ↔ d.state = .confirmed

/-- An item is a requirement of retail deals, satisfied exactly when it names its document. -/
structure ChecklistItem.Consistent (i : ChecklistItem) : Prop where
  satisfied : i.satisfied = i.documentId.isSome
  required : (i.typeKey, i.requirement) ∈ defaultRequirements .retail

/-- A message is a text or an interactive one of a session, tried at most three times, sent exactly
when it has its time, and failed only with an error. -/
structure Outbox.Consistent (o : Outbox) : Prop where
  kind : o.kind = .text ∨ o.kind = .interactive
  session : o.sessionId.isSome = true
  attempts : o.attempts ≤ maxOutboxAttempts
  tried : o.state = .sent ∨ o.state = .failed → 0 < o.attempts
  sent : o.sentAt.isSome = true ↔ o.state = .sent
  wamid : o.wamid.isSome = true → o.state = .sent
  failed : o.state = .failed → o.lastError.isSome = true

/-- A contact has its organisation unit, and nothing records when it was last seen. -/
structure Contact.Consistent (c : Contact) : Prop where
  orgUnit : c.orgUnitId.isSome = true
  lastSeen : c.lastSeenAt = none

/-- The outcome columns of a record are those of its state. -/
structure ApiMessage.Consistent (m : ApiMessage) : Prop where
  sentAt : m.sentAt.isSome = true ↔ m.state = .sent
  wamid : m.wamid.isSome = true → m.state = .sent
  error : m.errorCode.isSome = true ↔ m.state = .failed
  retryable : m.retryable.isSome = true ↔ m.state = .failed
  message : m.errorMessage.isSome = true → m.state = .failed

/-- Every row of the database is consistent, and there is no review task. -/
structure Db.Consistent (db : Db) : Prop where
  inbox : ∀ r ∈ db.inbox.rows, r.Consistent
  sessions : ∀ s ∈ db.sessions.rows, s.Consistent
  files : ∀ f ∈ db.files.rows, f.Consistent
  deals : ∀ d ∈ db.deals.rows, d.Consistent
  items : ∀ i ∈ db.checklistItems.rows, i.Consistent
  outbox : ∀ o ∈ db.outbox.rows, o.Consistent
  contacts : ∀ c ∈ db.contacts.rows, c.Consistent
  apiMessages : ∀ m ∈ db.apiMessages.rows, m.Consistent
  reviewTasks : db.reviewTasks.rows = []

variable {env : Env} {a : Action} {db db' : Db}

/-! ## New rows and changes -/

theorem Db.Consistent.empty : Db.empty.Consistent where
  inbox := List.forall_mem_nil _
  sessions := List.forall_mem_nil _
  files := List.forall_mem_nil _
  deals := List.forall_mem_nil _
  items := List.forall_mem_nil _
  outbox := List.forall_mem_nil _
  contacts := List.forall_mem_nil _
  apiMessages := List.forall_mem_nil _
  reviewTasks := rfl

end WaService
