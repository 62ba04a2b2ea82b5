import WaService.Api.Messages
import WaService.Core.Processes

/-!
# Concurrent sends through the API

Any number of `send_message` requests over one database. The steps of a request are
its transactions and its call of Meta; an insert of `_reserve` may come later than
the lookup before it, because other transactions can commit between the two. The
log holds the sends that Meta accepted.
-/

namespace WaService

open Python Transition

/-- One `POST /v1/tenants/{t}/messages` for a tenant. -/
structure Post where
  tenantId : UUID
  message : SendMessage
  deriving Repr

/-- Where a request stands. -/
inductive SendPhase where
  | idle
  /-- `_reserve` found no record and is about to insert one. -/
  | inserting (kind : MessageKind) (route : Route)
  /-- The record is reserved; Meta is called next. -/
  | sending (messageId : UUID) (phoneNumberId : String)
  /-- Meta has answered; `_ok` or `_fail` is next. -/
  | recording (messageId : UUID) (outcome : SendOutcome)
  /-- The request failed after Meta accepted its send, and the record does not say so. -/
  | lost (messageId : UUID)
  | done (response : Response)
  deriving Repr

/-- The database, and the accepted sends as request and record. -/
structure SendShared (ι : Type) where
  db : Db
  accepted : List (ι × UUID)

/-- The requests of the indices `ι` over one database. -/
abbrev Sends (ι : Type) := Processes ι (SendShared ι) SendPhase

/-- One step of one request. -/
inductive SendAction (ι : Type) where
  /-- The lookups of `_reserve`, committed at once when a record exists. -/
  | select (i : ι)
  /-- The insert of `_reserve`, which waits for conflicting inserts to commit. -/
  | insert (i : ι) (newId : UUID) (now : Timestamp)
  /-- The answer of Meta; `accepted` says whether the message will be delivered. -/
  | answer (i : ι) (outcome : SendOutcome) (accepted : Bool)
  /-- `_ok` or `_fail`. -/
  | record (i : ι) (now : Timestamp)

/-- The phase after a reservation. -/
def phaseOfDecision : Decision → SendPhase
  | .answer response => .done response
  | .send messageId phoneNumberId => .sending messageId phoneNumberId

/-- The phase after the lookups of `_reserve`. -/
def phaseOfSelect (env : Env) (db : Db) (p : Post) : SendPhase :=
  match p.message.body.kind with
  | none => .done (.error 422 (.str "provide exactly one of: text, template, buttons"))
  | some kind =>
    match reserveSelect db p.tenantId p.message with
    | .error response => .done response
    | .ok (route, none) => .inserting kind route
    | .ok (route, some m) =>
      phaseOfDecision (decideSend env p.message (.existing m route.phoneNumberId))

/-- The phase after the answer of Meta. -/
def phaseOfAnswer (messageId : UUID) : SendOutcome → Bool → SendPhase
  | .raised, true => .lost messageId
  | .raised, false => .done .raised
  | outcome, _ => .recording messageId outcome

/-- The phase after the outcome has been written, or could not be. -/
def phaseOfRecord (messageId : UUID) : SendOutcome → Response → SendPhase
  | .ok _, .raised => .lost messageId
  | _, response => .done response

/-- The steps of the requests. -/
def sendStep {ι : Type} [DecidableEq ι] (env : Env) (posts : ι → Post)
    (c : Sends ι) :
    SendAction ι → Option (Sends ι)
  | .select i =>
    match c.phase i with
    | .idle => some (c.advance i c.shared (phaseOfSelect env c.shared.db (posts i)))
    | _ => none
  | .insert i newId now =>
    match c.phase i with
    | .inserting kind route =>
      match reserveInsert c.shared.db newId now (posts i).tenantId route (posts i).message kind with
      | .error response => some (c.advance i c.shared (.done response))
      | .ok (res, db) =>
        some (c.advance i { c.shared with db := db }
          (phaseOfDecision (decideSend env (posts i).message res)))
    | _ => none
  | .answer i outcome accepted =>
    match c.phase i with
    | .sending messageId _ =>
      if outcome.allows accepted then
        some (c.advance i
          ⟨c.shared.db, if accepted then (i, messageId) :: c.shared.accepted else c.shared.accepted⟩
          (phaseOfAnswer messageId outcome accepted))
      else none
    | _ => none
  | .record i now =>
    match c.phase i with
    | .recording messageId outcome =>
      let (db, response) := concludeSend env c.shared.db now messageId outcome
      some (c.advance i { c.shared with db := db } (phaseOfRecord messageId outcome response))
    | _ => none

/-- Requests about to start on a database. -/
def sendStart {ι : Type} (db : Db) : Sends ι :=
  ⟨⟨db, []⟩, fun _ => .idle⟩

/-! ## What a step does -/

section Moves

variable {ι : Type} [DecidableEq ι] {env : Env} {posts : ι → Post} {c c' : Sends ι}

/-- The steps of the requests, with one constructor for each of their outcomes. -/
inductive SendMoves (env : Env) (posts : ι → Post) (c : Sends ι) : SendAction ι → Sends ι → Prop
  | select (i : ι) (hi : c.phase i = .idle) :
    SendMoves env posts c (.select i)
      (c.advance i c.shared (phaseOfSelect env c.shared.db (posts i)))
  | refuse (i : ι) (newId : UUID) (now : Timestamp) {kind : MessageKind} {route : Route}
      {response : Response} (hi : c.phase i = .inserting kind route)
      (hres : reserveInsert c.shared.db newId now (posts i).tenantId route (posts i).message kind =
        .error response) :
    SendMoves env posts c (.insert i newId now) (c.advance i c.shared (.done response))
  | insert (i : ι) (newId : UUID) (now : Timestamp) {kind : MessageKind} {route : Route}
      {res : Reservation} {db : Db} (hi : c.phase i = .inserting kind route)
      (hres : reserveInsert c.shared.db newId now (posts i).tenantId route (posts i).message kind =
        .ok (res, db)) :
    SendMoves env posts c (.insert i newId now)
      (c.advance i { c.shared with db := db }
        (phaseOfDecision (decideSend env (posts i).message res)))
  | answer (i : ι) (outcome : SendOutcome) (accepted : Bool) {messageId : UUID} {number : String}
      (hi : c.phase i = .sending messageId number) (hallow : outcome.allows accepted = true) :
    SendMoves env posts c (.answer i outcome accepted)
      (c.advance i
        ⟨c.shared.db, if accepted then (i, messageId) :: c.shared.accepted else c.shared.accepted⟩
        (phaseOfAnswer messageId outcome accepted))
  | record (i : ι) (now : Timestamp) {messageId : UUID} {outcome : SendOutcome}
      (hi : c.phase i = .recording messageId outcome) :
    SendMoves env posts c (.record i now)
      (c.advance i
        { c.shared with db := (concludeSend env c.shared.db now messageId outcome).1 }
        (phaseOfRecord messageId outcome
          (concludeSend env c.shared.db now messageId outcome).2))

theorem sendStep_moves {a : SendAction ι} (h : sendStep env posts c a = some c') :
    SendMoves env posts c a c' := by
  cases a with
  | select i =>
    simp only [sendStep] at h
    split at h
    · rename_i hi
      cases h
      exact .select i hi
    · contradiction
  | insert i newId now =>
    simp only [sendStep] at h
    split at h
    · rename_i hi
      split at h
      · rename_i hres
        cases h
        exact .refuse i newId now hi hres
      · rename_i hres
        cases h
        exact .insert i newId now hi hres
    · contradiction
  | answer i outcome accepted =>
    simp only [sendStep] at h
    split at h
    · rename_i hi
      split at h
      · rename_i hallow
        cases h
        exact .answer i outcome accepted hi hallow
      · contradiction
    · contradiction
  | record i now =>
    simp only [sendStep] at h
    split at h
    · rename_i hi
      cases h
      exact .record i now hi
    · contradiction

end Moves

/-! ## One request alone -/

section Alone

variable {ι : Type} [DecidableEq ι] (env : Env) (posts : ι → Post)

/-- The request has ended with this answer. -/
def SendPhase.endedWith (l : SendPhase) (response : Response) : Prop :=
  l = .done response ∨ response = .raised ∧ ∃ messageId, l = .lost messageId

variable {c : Sends ι} {i : ι}

theorem sendStep_answer {messageId : UUID} {number : String}
    (hi : c.phase i = .sending messageId number) {outcome : SendOutcome} {accepted : Bool}
    (h : outcome.allows accepted = true) :
    sendStep env posts c (.answer i outcome accepted) = some (c.advance i
      ⟨c.shared.db, if accepted then (i, messageId) :: c.shared.accepted else c.shared.accepted⟩
      (phaseOfAnswer messageId outcome accepted)) := by
  simp only [sendStep, hi, h, if_true]

theorem sendStep_record {messageId : UUID} {outcome : SendOutcome}
    (hi : c.phase i = .recording messageId outcome) (now : Timestamp) :
    sendStep env posts c (.record i now) = some (c.advance i
      { c.shared with db := (concludeSend env c.shared.db now messageId outcome).1 }
      (phaseOfRecord messageId outcome
        (concludeSend env c.shared.db now messageId outcome).2)) := by
  simp only [sendStep, hi]

/-- From the call of Meta on, a request alone does what `concludeSend` says. -/
theorem run_send_alone {messageId : UUID} {number : String}
    (hi : c.phase i = .sending messageId number) (now : Timestamp) (outcome : SendOutcome) :
    Reaches (sendStep env posts) c fun c' =>
      c'.shared.db = (concludeSend env c.shared.db now messageId outcome).1 ∧
      (c'.phase i).endedWith (concludeSend env c.shared.db now messageId outcome).2 := by
  cases outcome with
  | raised =>
    have hanswer : sendStep env posts c (.answer i .raised false) =
        some (c.advance i c.shared (phaseOfAnswer messageId .raised false)) :=
      sendStep_answer env posts hi rfl
    exact .after hanswer (.here ⟨rfl, Or.inl Processes.advance_phase_self⟩)
  | failed code message retryable =>
    let outcome : SendOutcome := .failed code message retryable
    have hanswer : sendStep env posts c (.answer i outcome false) =
        some (c.advance i c.shared (.recording messageId outcome)) :=
      sendStep_answer env posts hi rfl
    have hrecord : sendStep env posts (c.advance i c.shared (.recording messageId outcome))
        (.record i now) = _ := sendStep_record env posts Processes.advance_phase_self now
    exact .after hanswer (.after hrecord (.here ⟨rfl, Or.inl Processes.advance_phase_self⟩))
  | ok wamid =>
    let logged : SendShared ι := ⟨c.shared.db, (i, messageId) :: c.shared.accepted⟩
    have hanswer : sendStep env posts c (.answer i (.ok wamid) true) =
        some (c.advance i logged (.recording messageId (.ok wamid))) :=
      sendStep_answer env posts hi rfl
    have hrecord : sendStep env posts (c.advance i logged (.recording messageId (.ok wamid)))
        (.record i now) = _ := sendStep_record env posts Processes.advance_phase_self now
    refine .after hanswer (.after hrecord (.here ⟨rfl, ?_⟩))
    rw [Processes.advance_phase_self]
    unfold phaseOfRecord
    split
    · rename_i hr
      exact Or.inr ⟨hr, _, rfl⟩
    · exact Or.inl rfl

/-- A request alone does what `reserve` says before it calls Meta. -/
theorem run_reserve_alone (db : Db) (newId : UUID) (now : Timestamp) (i : ι) {kind : MessageKind}
    (hk : (posts i).message.body.kind = some kind) :
    Reaches (sendStep env posts) (sendStart db) fun c' =>
      match reserve db newId now (posts i).tenantId (posts i).message kind with
      | .error response => c'.shared.db = db ∧ c'.phase i = .done response
      | .ok (res, db') => c'.shared.db = db' ∧
          c'.phase i = phaseOfDecision (decideSend env (posts i).message res) := by
  have hselect : ∀ l, phaseOfSelect env db (posts i) = l →
      sendStep env posts (sendStart db) (.select i) =
        some ((sendStart db).advance i ⟨db, []⟩ l) := fun _ hl => by rw [← hl]; rfl
  unfold reserve
  cases hs : reserveSelect db (posts i).tenantId (posts i).message with
  | error response =>
    have hl : phaseOfSelect env db (posts i) = .done response := by
      simp only [phaseOfSelect, hk, hs]
    exact .after (hselect _ hl) (.here ⟨rfl, Processes.advance_phase_self⟩)
  | ok found =>
    obtain ⟨route, record⟩ := found
    cases record with
    | some m =>
      have hl : phaseOfSelect env db (posts i) =
          phaseOfDecision (decideSend env (posts i).message (.existing m route.phoneNumberId)) := by
        simp only [phaseOfSelect, hk, hs]
      exact .after (hselect _ hl) (.here ⟨rfl, Processes.advance_phase_self⟩)
    | none =>
      have hl : phaseOfSelect env db (posts i) = .inserting kind route := by
        simp only [phaseOfSelect, hk, hs]
      let selected : Sends ι :=
        (sendStart db).advance i ⟨db, []⟩ (.inserting kind route)
      have hphase : selected.phase i = .inserting kind route := Processes.advance_phase_self
      cases hins : reserveInsert db newId now (posts i).tenantId route (posts i).message kind with
      | error response =>
        have hinsert : sendStep env posts selected (.insert i newId now) =
            some (selected.advance i ⟨db, []⟩ (.done response)) := by
          have hdb : selected.shared.db = db := rfl
          simp only [sendStep, hphase, hdb, hins]
          rfl
        refine .after (hselect _ hl) (.after hinsert (.here ?_))
        simp only [hins]
        exact ⟨rfl, Processes.advance_phase_self⟩
      | ok reserved =>
        obtain ⟨res, db'⟩ := reserved
        have hinsert : sendStep env posts selected (.insert i newId now) =
            some (selected.advance i ⟨db', []⟩
              (phaseOfDecision (decideSend env (posts i).message res))) := by
          have hdb : selected.shared.db = db := rfl
          simp only [sendStep, hphase, hdb, hins]
          rfl
        refine .after (hselect _ hl) (.after hinsert (.here ?_))
        simp only [hins]
        exact ⟨rfl, Processes.advance_phase_self⟩

/-- A request that runs without interruption does what `sendMessage` says. -/
theorem run_request_alone (db : Db) (inp : ApiInput) (i : ι) :
    Reaches (sendStep env posts) (sendStart db) fun c' =>
      c'.shared.db = (sendMessage env db inp (posts i).tenantId (posts i).message).db ∧
      (c'.phase i).endedWith
        (sendMessage env db inp (posts i).tenantId (posts i).message).response := by
  unfold sendMessage
  cases hk : (posts i).message.body.kind with
  | none =>
    have hselect : sendStep env posts (sendStart db) (.select i) = some
        ((sendStart db).advance i ⟨db, []⟩ (phaseOfSelect env db (posts i))) := rfl
    refine .after hselect (.here ⟨rfl, Or.inl ?_⟩)
    rw [Processes.advance_phase_self, phaseOfSelect, hk]
  | some kind =>
    apply (run_reserve_alone env posts db inp.newId inp.now i hk).bind
    intro c' hres
    simp only
    cases hr : reserve db inp.newId inp.now (posts i).tenantId (posts i).message kind with
    | error response =>
      rw [hr] at hres
      exact .here ⟨hres.1, Or.inl hres.2⟩
    | ok reserved =>
      obtain ⟨res, db'⟩ := reserved
      rw [hr] at hres
      obtain ⟨rfl, hphase⟩ := hres
      cases hd : decideSend env (posts i).message res with
      | answer response =>
        rw [hd] at hphase
        simp only [hd]
        exact .here ⟨rfl, Or.inl hphase⟩
      | send messageId number =>
        rw [hd] at hphase
        simp only [hd]
        exact run_send_alone env posts hphase inp.sentAt
          (inp.client ⟨number, (posts i).message.body.toE164, (posts i).message.body.content⟩)

end Alone

end WaService
