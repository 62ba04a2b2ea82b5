import WaService.Core.Statement
import WaService.System.World

/-!
# Every statement of the service

For each table, the rows that a step of the service may insert and the changes that it
may make to a row, with what the code has established by then. The action is an index,
so a change tells which task, request or tick has made it. Review tasks have no
statement: no step of the service writes one.
-/

namespace WaService

open Python Relational

/-! ## Inbox -/

/-- A row that a webhook request stores. -/
inductive InboxNew (env : Env) : Action → Inbox → Prop
  | receive {newId : Nat} {rawBody : List UInt8} {hubSignature : Option String} {dispatched : Bool}
      {wamid number : Option String} {payload : Json} {signatureOk : Bool}
      (hbody : env.jsonLoads rawBody = some payload)
      (hsignature : verifySignature env rawBody hubSignature = .ok signatureOk) :
      InboxNew env (.webhook newId rawBody hubSignature dispatched)
        ⟨newId, wamid, number, payload, signatureOk, .pending⟩

/-- The task of a row marks it, done only when its signature is valid. -/
inductive InboxChange : Action → Inbox → Inbox → Prop
  | mark {inboxId : Nat} {inp : InboxInput} {redelivered : Bool} {r : Inbox} {state : InboxState}
      (hid : r.id = inboxId) (hstate : state = .done ∨ state = .ignored ∨ state = .failed)
      (hsigned : state = .done → r.signatureOk = true) :
      InboxChange (.execute (.processInboxRow inboxId inp) redelivered) r { r with state := state }

/-! ## Sessions -/

/-- The session of an active contact that has no open one. -/
inductive SessionNew (db : Db) : Action → Session → Prop
  | enter {inboxId : Nat} {inp : InboxInput} {redelivered : Bool} {c : Contact} {orgUnitId : UUID}
      (hc : c ∈ db.contacts.rows) (hactive : c.status = .active)
      (horg : c.orgUnitId = some orgUnitId) (hnone : openSession db c.id = none) :
      SessionNew db (.execute (.processInboxRow inboxId inp) redelivered)
        (newSession inp.sessionId inp.now c.tenantId c.id orgUnitId)

/-- The changes of a session: by the inbox task, the flush, its own task, and a poll. -/
inductive SessionChange (db : Db) : Action → Session → Session → Prop
  | arrive {inboxId : Nat} {inp : InboxInput} {redelivered : Bool} {s : Session}
      (hstate : s.state = .collecting) :
      SessionChange db (.execute (.processInboxRow inboxId inp) redelivered) s (s.arrive inp.now 0)
  | claim {now : Timestamp} {deferOk : Nat → Bool} {s : Session} (hdue : flushable now s = true)
      (hbatch : s.id ∈ flushBatch db now 50) :
      SessionChange db (.flush now deferOk) s
        { s with state := .processing, submittedAt := some now }
  | link {inp : SessionInput} {redelivered : Bool} {s : Session} {d : Deal}
      (hstate : s.state = .processing) (hd : dealOfBooking db s.tenantId (fallbackNumber s.id) =
        some d) (hempty : getSessionFiles db s.id = []) :
      SessionChange db (.execute (.processSession s.id inp) redelivered) s { s with
        state := .confirmingDeal
        dealId := some d.id
        flushAt := some (inp.now + seconds 86400) }
  | complete {inp : SessionInput} {redelivered : Bool} {s : Session} {d : Deal}
      (hd : dealOfBooking db s.tenantId (fallbackNumber s.id) = some d)
      (hstate : d.state ≠ .provisional) (hcomplete : ChecklistComplete db d.id) :
      SessionChange db (.execute (.processSession s.id inp) redelivered) s
        { s with state := .complete, completedAt := some inp.now }
  | park {inp : SessionInput} {redelivered : Bool} {s : Session} {note : String}
      (hfiles : getSessionFiles db s.id ≠ []) (hstate : s.state ≠ .complete)
      (hnote : note = "files_not_ready" ∨ note = "awaiting_di") :
      SessionChange db (.execute (.processSession s.id inp) redelivered) s
        { s with state := .parked, note := some note }
  | parkOnDiSla {args : PollJob} {calls : PollCalls} {redelivered : Bool} {s : Session}
      {note : String} (hid : s.id = args.sessionId)
      (hnote : note = "AWAITING_DI SLA exceeded" ∨ ∃ code, note = "DI poll error: " ++ code) :
      SessionChange db (.execute (.pollDiDocument args calls) redelivered) s
        { s with state := .parked, note := some note }
  | nudge {args : PollJob} {calls : PollCalls} {redelivered : Bool} {s : Session}
      (hid : s.id = args.sessionId) (hopen : s.state.isOpen = true) :
      SessionChange db (.execute (.pollDiDocument args calls) redelivered) s
        { s with flushAt := some calls.now }

/-! ## Files -/

/-- A media message of a session, as the inbox task registers it. -/
inductive FileNew (env : Env) (db : Db) : Action → File → Prop
  | register {inboxId : Nat} {inp : InboxInput} {redelivered : Bool} {newId tenantId : UUID}
      {seq : Int} {m : MediaMessage} {s : Session} {f : File} (hs : s ∈ db.sessions.rows)
      (hnew : newFile env newId tenantId s.id seq m = .ok f) :
      FileNew env db (.execute (.processInboxRow inboxId inp) redelivered) f

/-- The changes of a file: by its download, and by a poll that has a terminal answer. -/
inductive FileChange (env : Env) : Action → File → File → Prop
  | enter {args : FetchJob} {calls : FileCalls} {redelivered : Bool} {f : File} {state : FileState}
      (hid : f.id = args.fileId) (hstate : state = .downloading ∨ state = .storing) :
      FileChange env (.execute (.fetchAndStoreFile args calls) redelivered) f
        { f with state := state }
  | noJourney {args : FetchJob} {calls : FileCalls} {redelivered : Bool} {f : File}
      (hid : f.id = args.fileId) :
      FileChange env (.execute (.fetchAndStoreFile args calls) redelivered) f
        { f with state := .failed, errorCode := some "NO_INTAKE_JOURNEY" }
  | fail {args : FetchJob} {calls : FileCalls} {redelivered : Bool} {f : File} {state : FileState}
      {code : String} (hid : f.id = args.fileId) (hstate : state = .failed ∨ state = .quarantined) :
      FileChange env (.execute (.fetchAndStoreFile args calls) redelivered) f
        { f with state := state, errorCode := some code, attempts := f.attempts + 1 }
  | store {args : FetchJob} {calls : FileCalls} {redelivered : Bool} {f : File}
      {request : StoreRequest} {result : FetchResult} {evidenceId : UUID} (hid : f.id = args.fileId)
      (hanswer : calls.storeViaAuditCore request = .ok evidenceId) :
      FileChange env (.execute (.fetchAndStoreFile args calls) redelivered) f { f with
        state := .stored
        localSha256 := some result.sha256
        byteSize := some result.byteSize
        storedAt := some calls.now
        storageUri := some (uuidStr evidenceId)
        diDocumentId := some evidenceId }
  | type {args : PollJob} {calls : PollCalls} {redelivered : Bool} {f : File}
      {result : DiPollResult} {typeKey : Option String} {facts : Json} (hid : f.id = args.fileId)
      (hfresh : args.scheduleIn = none) (hanswer : calls.pollEvidenceStatus = .ok result)
      (hterminal : result.isTerminal = true)
      (htype : sqlText env result.documentTypeKey = .ok typeKey) :
      FileChange env (.execute (.pollDiDocument args calls) redelivered) f
        { f with documentTypeKey := typeKey, diFacts := some facts }

/-! ## Deals and their checklists -/

/-- The deal that the task of a session without files creates: nothing of it comes from a
document. -/
inductive DealNew (db : Db) : Action → Deal → Prop
  | create {inp : SessionInput} {redelivered : Bool} {s : Session} {orgUnitId : UUID}
      (hs : s ∈ db.sessions.rows) (horg : s.orgUnitId = some orgUnitId)
      (hempty : getSessionFiles db s.id = [])
      (hnone : dealOfBooking db s.tenantId (fallbackNumber s.id) = none) :
      DealNew db (.execute (.processSession s.id inp) redelivered)
        { id := inp.dealId
          tenantId := s.tenantId
          orgUnitId := some orgUnitId
          bookingNumber := fallbackNumber s.id
          customerName := some "(pending)"
          customerMobile := none
          model := none
          variant := none
          bookingDate := none
          dealType := .retail
          isFinanced := false
          hasExchange := false
          isCorporate := false
          state := .provisional
          createdFrom := "whatsapp"
          createdBy := some s.contactId
          confirmedBy := none
          confirmedAt := none
          updatedAt := inp.now }

/-- The task of a session confirms the deal that has the session's own number. -/
inductive DealChange (db : Db) : Action → Deal → Deal → Prop
  | confirm {inp : SessionInput} {redelivered : Bool} {s : Session} {d : Deal}
      (hs : s ∈ db.sessions.rows)
      (hd : dealOfBooking db s.tenantId (fallbackNumber s.id) = some d)
      (hstate : d.state = .provisional) :
      DealChange db (.execute (.processSession s.id inp) redelivered) d { d with
        state := .confirmed
        confirmedBy := some s.contactId
        confirmedAt := some inp.now
        updatedAt := inp.now }

/-- An open requirement of a retail deal, for a deal that is still provisional. -/
inductive ItemNew (db : Db) : Action → ChecklistItem → Prop
  | require {inp : SessionInput} {redelivered : Bool} {sessionId newId : UUID} {d : Deal}
      {r : String × Requirement} (hd : d ∈ db.deals.rows) (hstate : d.state = .provisional)
      (hr : r ∈ defaultRequirements .retail) :
      ItemNew db (.execute (.processSession sessionId inp) redelivered)
        ⟨newId, d.id, r.1, r.2, false, none, inp.now⟩

/-- A poll that is told that its document is confirmed satisfies the item of that type of the
deal that its session is linked to. -/
inductive ItemChange (db : Db) : Action → ChecklistItem → ChecklistItem → Prop
  | satisfy {args : PollJob} {calls : PollCalls} {redelivered : Bool} {s : Session}
      {i : ChecklistItem} {result : DiPollResult} (hfresh : args.scheduleIn = none)
      (hanswer : calls.pollEvidenceStatus = .ok result) (hterminal : result.isTerminal = true)
      (hconfirmed : isConfirmed result.processingStatus = true)
      (htype : result.documentTypeKey = .str i.typeKey) (hs : s ∈ db.sessions.rows)
      (hid : s.id = args.sessionId) (hdeal : s.dealId = some i.dealId) :
      ItemChange db (.execute (.pollDiDocument args calls) redelivered) i
        { i with satisfied := true, documentId := some args.evidenceId, updatedAt := calls.now }

/-! ## Outbox -/

/-- The messages of a session task, by kind and stored payload: the question whether to confirm
the deal, and the gap message. -/
inductive SessionReply (env : Env) (sessionId : UUID) :
    OutboxKind → List (String × Json) → Prop
  | confirm {locale : Locale} {deal : DealCreated} {payload : List (String × Json)}
      (hnumber : deal.bookingNumber = fallbackNumber sessionId) (hmodel : deal.model = none)
      (hcustomer : deal.customerName = some "(pending)")
      (h : confirmPayload (env.copy locale) sessionId deal = .ok payload) :
      SessionReply env sessionId .interactive
        (stampDedup payload ("deal_confirm_" ++ uuidStr sessionId))
  | gap {locale : Locale} {checklist : ChecklistState} {header body : String}
      (h : formatGapMessage checklist (env.copy locale) = .ok (header, body)) :
      SessionReply env sessionId .text
        (stampDedup [("body", .str body)] ("gap_" ++ uuidStr sessionId))

/-- A pending message of a session task. -/
inductive OutboxNew (env : Env) (db : Db) : Action → Outbox → Prop
  | reply {inp : SessionInput} {redelivered : Bool} {s : Session} {kind : OutboxKind}
      {payload : List (String × Json)} (hs : s ∈ db.sessions.rows)
      (hreply : SessionReply env s.id kind payload) :
      OutboxNew env db (.execute (.processSession s.id inp) redelivered)
        ⟨inp.outboxId, s.tenantId, s.contactId, some s.id, kind, .obj payload, .pending, 0, inp.now,
          none, none, none⟩

/-- The changes of a message: by the claim of a drain, and by what the drain records. -/
inductive OutboxChange (db : Db) : Action → Outbox → Outbox → Prop
  | expire {calls : DrainCalls} {o : Outbox} (hmissed : windowMissed calls.now o = true) :
      OutboxChange db (.drain calls) o (skipWindow o)
  | claim {calls : DrainCalls} {o : Outbox} (hclaim : claimable calls.now calls.locked o = true) :
      OutboxChange db (.drain calls) o (raiseAttempts o)
  | sent {calls : DrainCalls} {o : Outbox} {wamid : Option String} (hclaimed : 0 < o.attempts)
      (hpending : o.state = .pending) :
      OutboxChange db (.drain calls) o (o.sent calls.now wamid)
  | fail {calls : DrainCalls} {o : Outbox} {error : String} (hclaimed : 0 < o.attempts)
      (hpending : o.state = .pending) :
      OutboxChange db (.drain calls) o (o.failed (some error))
  | reschedule {calls : DrainCalls} {o : Outbox} {error : String} (hclaimed : 0 < o.attempts)
      (hpending : o.state = .pending) :
      OutboxChange db (.drain calls) o (o.rescheduled calls.now (some error))

/-! ## The tables of the API -/

/-- A first binding of a phone. -/
inductive ContactNew : Action → Contact → Prop
  | bind {inp : ApiInput} {tenantId : UUID} {body : ContactIn} :
      ContactNew (.api inp tenantId (.putContact body)) (newContact inp.newId inp.now tenantId body)

/-- The changes of a contact, all of them requests of its own tenant. -/
inductive ContactChange : Action → Contact → Contact → Prop
  | rebind {inp : ApiInput} {tenantId : UUID} {body : ContactIn} {c : Contact}
      (htenant : c.tenantId = tenantId) (hphone : c.phoneE164 = body.phoneE164) :
      ContactChange (.api inp tenantId (.putContact body)) c (c.rebind body)
  | patch {inp : ApiInput} {tenantId : UUID} {body : ContactPatch} {c : Contact}
      (htenant : c.tenantId = tenantId) :
      ContactChange (.api inp tenantId (.patchContact c.id body)) c (c.patched body)
  | revoke {inp : ApiInput} {tenantId : UUID} {c : Contact} (htenant : c.tenantId = tenantId) :
      ContactChange (.api inp tenantId (.revokeContact c.id)) c { c with status := .revoked }

/-- A registered number. -/
inductive RouteNew : Action → Route → Prop
  | register {inp : ApiInput} {tenantId : UUID} {body : RouteIn} :
      RouteNew (.api inp tenantId (.createRoute body)) (newRoute inp.newId inp.now tenantId body)

/-- The change of a route, a request of its own tenant. -/
inductive RouteChange : Action → Route → Route → Prop
  | patch {inp : ApiInput} {tenantId : UUID} {body : RoutePatch} {r : Route}
      (htenant : r.tenantId = tenantId) :
      RouteChange (.api inp tenantId (.patchRoute r.id body)) r (r.patched body)

/-- The record of a send request, on a route of its tenant. -/
inductive MessageNew (db : Db) : Action → ApiMessage → Prop
  | reserve {inp : ApiInput} {tenantId : UUID} {rq : SendMessage} {kind : MessageKind} {r : Route}
      (hkind : rq.body.kind = some kind) (hr : r ∈ db.routes.rows) (htenant : r.tenantId = tenantId)
      (hactive : r.active = true) :
      MessageNew db (.api inp tenantId (.sendMessage rq))
        (newMessage inp.newId inp.now tenantId r.id rq kind)

/-- The outcome of a send, on a record that was not sent. -/
inductive MessageChange (env : Env) : Action → ApiMessage → ApiMessage → Prop
  | fail {inp : ApiInput} {tenantId : UUID} {rq : SendMessage} {m : ApiMessage} {code : String}
      {message : Option String} {retryable : Bool} (htenant : m.tenantId = tenantId)
      (hstate : m.state ≠ .sent) :
      MessageChange env (.api inp tenantId (.sendMessage rq)) m
        (m.fail (some code, message) retryable)
  | succeed {inp : ApiInput} {tenantId : UUID} {rq : SendMessage} {m : ApiMessage} {wamid : Json}
      {text : Option String} {call : SendRequest} (htenant : m.tenantId = tenantId)
      (hstate : m.state ≠ .sent) (hcall : inp.client call = .ok wamid)
      (htext : sqlText env wamid = .ok text) :
      MessageChange env (.api inp tenantId (.sendMessage rq)) m (m.succeed text inp.sentAt)

/-! ## Statements -/

/-- One statement of a step. -/
inductive Write (env : Env) (a : Action) (db : Db) : Db → Prop
  | inbox {t : Table Inbox} (h : db.inbox.Statement (InboxNew env a) (InboxChange a) t) :
      Write env a db { db with inbox := t }
  | sessions {t : Table Session}
      (h : db.sessions.Statement (SessionNew db a) (SessionChange db a) t) :
      Write env a db { db with sessions := t }
  | files {t : Table File} (h : db.files.Statement (FileNew env db a) (FileChange env a) t) :
      Write env a db { db with files := t }
  | deals {t : Table Deal} (h : db.deals.Statement (DealNew db a) (DealChange db a) t) :
      Write env a db { db with deals := t }
  | items {t : Table ChecklistItem}
      (h : db.checklistItems.Statement (ItemNew db a) (ItemChange db a) t) :
      Write env a db { db with checklistItems := t }
  | outbox {t : Table Outbox}
      (h : db.outbox.Statement (OutboxNew env db a) (OutboxChange db a) t) :
      Write env a db { db with outbox := t }
  | contacts {t : Table Contact} (h : db.contacts.Statement (ContactNew a) (ContactChange a) t) :
      Write env a db { db with contacts := t }
  | routes {t : Table Route} (h : db.routes.Statement (RouteNew a) (RouteChange a) t) :
      Write env a db { db with routes := t }
  | apiMessages {t : Table ApiMessage}
      (h : db.apiMessages.Statement (MessageNew db a) (MessageChange env a) t) :
      Write env a db { db with apiMessages := t }

/-- The statements of a step, one after another. -/
abbrev Writes (env : Env) (a : Action) : Db → Db → Prop := Relation.ReflTransGen (Write env a)

end WaService
