import WaService.Correctness.IdempotencyTable
import WaService.Wa.Payload

/-!
# Recording what Meta answers

A request that comes to the call of Meta has a record, and the answer is written to it. The answer
is an arbitrary status with an arbitrary body, so what decides is whether `_post` makes a result or
an error with a message of it, and whether the database takes the texts.
-/

namespace WaService

open Python

/-! ## The call -/

/-- The record, the number and the body of a request that comes to the call of Meta. -/
def metaCall (env : Env) (db : Db) (inp : ApiInput) (tenantId : UUID) (rq : SendMessage) :
    Option (UUID × String × Json) := do
  let kind ← rq.body.kind
  let (reservation, _) ← (reserve db inp.newId inp.now tenantId rq kind).toOption
  match decideSend env rq reservation with
  | .answer _ => none
  | .send messageId number => do
    let payload ← (SendRequest.mk number rq.body.toE164 rq.body.content).payload.toOption
    return (messageId, number, payload)

/-- The request with a client that posts, and gets what Meta answers. -/
def ApiInput.answeredBy (inp : ApiInput) (render : Json → String)
    (answer : String → Json → MetaAnswer) : ApiInput :=
  { inp with client := sendVia render answer }

section Call

variable {env : Env} {db : Db} {inp : ApiInput} {tenantId : UUID} {rq : SendMessage}
  {messageId : UUID} {number : String} {payload : Json}

/-- The record that is sent on is in the database when Meta is called. -/
theorem reserve_record {db' : Db} {kind : MessageKind} {res : Reservation}
    (hres : reserve db inp.newId inp.now tenantId rq kind = .ok (res, db'))
    (hsend : decideSend env rq res = .send messageId number) :
    ∃ m, messageById db' messageId = some m := by
  unfold reserve at hres
  split at hres
  · cases hres
  · rename_i route record hselect
    cases hres
    obtain ⟨rfl, -⟩ := decideSend_existing hsend
    obtain ⟨hm, -, -⟩ := existingRecord_eq_some (reserveSelect_eq_ok hselect).2
    exact ⟨record, messageById_eq_some.mpr ⟨hm, rfl⟩⟩
  · obtain ⟨messages, hins, rfl, rfl⟩ := reserveInsert_eq_ok hres
    cases hsend
    have hmem := (Relational.Table.mem_of_insert? hins).mpr (Or.inr rfl)
    exact ⟨_, messageById_eq_some.mpr ⟨hmem, rfl⟩⟩

/-- A request that comes to the call leaves what writing the answer to its record leaves. -/
theorem sendMessage_of_metaCall (render : Json → String) (answer : String → Json → MetaAnswer)
    (h : metaCall env db inp tenantId rq = some (messageId, number, payload)) :
    ∃ reserved m, messageById reserved messageId = some m ∧
      (sendMessage env db (inp.answeredBy render answer) tenantId rq).db =
        (concludeSend env reserved inp.sentAt messageId
          (post render (answer number payload))).1 := by
  unfold metaCall at h
  cases hkind : rq.body.kind with
  | none => simp [hkind] at h
  | some kind =>
    cases hres : reserve db inp.newId inp.now tenantId rq kind with
    | error response => simp [hkind, hres, Except.toOption] at h
    | ok reserved =>
      obtain ⟨res, reserved⟩ := reserved
      cases hsend : decideSend env rq res with
      | answer response => simp [hkind, hres, hsend, Except.toOption] at h
      | send id phone =>
        cases hpayload : (SendRequest.mk phone rq.body.toE164 rq.body.content).payload with
        | error e => simp [hkind, hres, hsend, hpayload, Except.toOption] at h
        | ok posted =>
          simp only [hkind, hres, hsend, hpayload, Except.toOption, Option.bind_eq_bind,
            Option.bind_some, Option.pure_def, Option.some.injEq, Prod.mk.injEq] at h
          obtain ⟨rfl, rfl, rfl⟩ := h
          obtain ⟨m, hm⟩ := reserve_record hres hsend
          refine ⟨reserved, m, hm, ?_⟩
          simp only [sendMessage, ApiInput.answeredBy, hkind, hres, hsend, sendVia, hpayload]

end Call

/-! ## Writing an outcome -/

/-- A `SendResult`, or a `WaApiError` whose message is text. -/
def SendOutcome.IsProper : SendOutcome → Prop
  | .ok _ => True
  | .failed _ (.str _) _ => True
  | _ => False

/-- The record says how the send ended. -/
def ApiMessage.Tells (env : Env) (m : ApiMessage) : SendOutcome → Prop
  | .ok wamid => m.state = .sent ∧ sqlText env wamid = .ok m.wamid
  | .failed code message retryable =>
    m.state = .failed ∧ failTexts env code message = .ok (m.errorCode, m.errorMessage) ∧
      m.retryable = some retryable
  | .raised => False

/-- The database takes the texts of the outcome. -/
def SendOutcome.Writable (env : Env) : SendOutcome → Prop
  | .ok wamid => ∃ text, sqlText env wamid = .ok text
  | .failed code message _ => ∃ texts, failTexts env code message = .ok texts
  | .raised => False

/-- A record that tells an outcome is in flight no longer. -/
theorem ApiMessage.Tells.not_pending {env : Env} {m : ApiMessage} {outcome : SendOutcome}
    (h : m.Tells env outcome) : m.state ≠ .pending := by
  cases outcome with
  | ok wamid => simp [h.1]
  | failed code message retryable => simp [h.1]
  | raised => exact h.elim

/-- The record tells the outcome afterwards exactly when its texts can be written. -/
theorem tells_concludeSend_iff {env : Env} {db : Db} {messageId : UUID} {m : ApiMessage}
    (hm : messageById db messageId = some m) (now : Timestamp) (outcome : SendOutcome) :
    (∃ m', messageById (concludeSend env db now messageId outcome).1 messageId = some m' ∧
      m'.Tells env outcome) ↔ outcome.Writable env := by
  have hwritten : ∀ f hf, messageById
      (db.updateApiMessages (fun m => m.id == messageId) f hf) messageId = some (f m) := by
    intro f hf
    rw [messageById_update, hm, if_pos rfl]
    rfl
  cases outcome with
  | raised =>
    constructor
    · rintro ⟨m', -, htells⟩
      exact htells
    · exact False.elim
  | failed code message retryable =>
    constructor
    · rintro ⟨m', -, -, htexts, -⟩
      exact ⟨_, htexts⟩
    · rintro ⟨texts, htexts⟩
      refine ⟨m.fail texts retryable, ?_, rfl, htexts, rfl⟩
      simp only [concludeSend, recordFail, htexts]
      exact hwritten (ApiMessage.fail texts retryable) fun _ => ⟨rfl, rfl, rfl⟩
  | ok wamid =>
    constructor
    · rintro ⟨m', -, -, htext⟩
      exact ⟨_, htext⟩
    · rintro ⟨text, htext⟩
      refine ⟨m.succeed text now, ?_, rfl, htext⟩
      have hrecord : recordOk env db now messageId wamid = .ok (db.updateApiMessages
          (fun m => m.id == messageId) (ApiMessage.succeed text now) fun _ => ⟨rfl, rfl, rfl⟩) := by
        unfold recordOk
        rw [htext]
        rfl
      simp only [concludeSend, hrecord, hwritten]

/-! ## Which answers can be recorded -/

/-- `text[:500]` can be stored. -/
def ShortStorable (text : String) : Prop :=
  Json.hasNul (String.ofList (text.toList.take 500)) = false

/-- The texts of an error with a text as its message can be written when neither has a NUL. -/
theorem failTexts_ok_iff {env : Env} {code message : String} :
    (∃ texts, failTexts env code (.str message) = .ok texts) ↔
      Json.hasNul code = false ∧ ShortStorable message := by
  unfold ShortStorable
  have hcode := @sqlText_str_iff env code
  have hmessage := @sqlText_str_iff env (String.ofList (message.toList.take 500))
  rw [← hcode, ← hmessage]
  constructor
  · rintro ⟨texts, h⟩
    obtain ⟨truncated, hslice, h⟩ := bind_eq_ok.mp h
    obtain ⟨errorCode, hcode, h⟩ := bind_eq_ok.mp h
    obtain ⟨errorMessage, hmessage, -⟩ := bind_eq_ok.mp h
    cases hslice
    exact ⟨⟨errorCode, hcode⟩, ⟨errorMessage, hmessage⟩⟩
  · rintro ⟨⟨errorCode, hcode⟩, ⟨errorMessage, hmessage⟩⟩
    refine ⟨(errorCode, errorMessage), ?_⟩
    refine bind_eq_ok.mpr ⟨_, rfl, bind_eq_ok.mpr ⟨errorCode, hcode, ?_⟩⟩
    exact bind_eq_ok.mpr ⟨errorMessage, hmessage, rfl⟩

/-- The `error` object of a body: an empty one where the body has none, and nothing where the body
or its `error` is no object. -/
def errorObject : Except String Json → Option (List (String × Json))
  | .ok (.obj fields) =>
    match (fields.lookup "error").getD (.obj []) with
    | .obj entries => some entries
    | _ => none
  | _ => none

/-- A status that is no success: the message is text, and it and the code can be stored. -/
def RefusalRecordable (render : Json → String) (text : String) (body : Except String Json) : Prop :=
  match errorObject body with
  | none => ShortStorable text
  | some entries =>
    (∀ code, entries.lookup "code" = some code → Json.hasNul (strOf render code) = false) ∧
      match entries.lookup "message" with
      | none => ShortStorable text
      | some (.str message) => ShortStorable message
      | some _ => False

/-- The answers that can be recorded. For a status 200 no subscript of `["messages"][0]["id"]` meets
a value that does not take it, and what the path leads to can be stored. -/
def MetaAnswer.Recordable (env : Env) (render : Json → String) : MetaAnswer → Prop
  | .networkError text => ShortStorable text
  | .invalidUrl => False
  | .response status text body =>
    if status = 200 then
      match body with
      | .error reason => ShortStorable reason
      | .ok j => j.fits wamidPath = true ∧
          ∀ wamid, j.follow wamidPath = .ok wamid → ∃ text, sqlText env wamid = .ok text
    else RefusalRecordable render text body

/-- A failed lookup of the wamid has a short text without a NUL. -/
theorem shortStorable_failureText (j : Json) : ShortStorable (j.failureText wamidPath) := by
  have hstep : ∀ s ∈ wamidPath, ∀ v : Json, ShortStorable (v.lookupText s) := by
    intro s hs v
    have hcases : v.lookupText s ∈ ["'messages'", "'id'", "list index out of range",
        "string index out of range", "0"] := by
      simp only [wamidPath, List.mem_cons, List.not_mem_nil, or_false] at hs
      rcases hs with rfl | rfl | rfl
      · exact List.mem_cons_self
      · cases v <;> simp [Json.lookupText]
      · exact List.mem_cons_of_mem _ List.mem_cons_self
    have hall : ∀ t ∈ ["'messages'", "'id'", "list index out of range",
        "string index out of range", "0"],
        Json.hasNul (String.ofList (t.toList.take 500)) = false := by
      decide
    exact hall _ hcases
  have hpath : ∀ path : List Subscript, (∀ s ∈ path, s ∈ wamidPath) → ∀ v : Json,
      ShortStorable (v.failureText path) := by
    intro path hmem
    induction path with
    | nil =>
      intro v
      exact (by decide : Json.hasNul (String.ofList ("".toList.take 500)) = false)
    | cons s path ih =>
      intro v
      unfold Json.failureText
      split
      · exact ih (fun t ht => hmem t (List.mem_cons_of_mem s ht)) _
      · exact hstep s (hmem s List.mem_cons_self) v
  exact hpath wamidPath (fun _ hs => hs) j

/-- What `errorFields` reads of the `error` object. -/
theorem errorFields_eq (render : Json → String) (text : String) (body : Except String Json) :
    errorFields render text body = match errorObject body with
      | none => ("HTTP_ERROR", .str text)
      | some entries => (strOf render ((entries.lookup "code").getD (.str "HTTP_ERROR")),
          (entries.lookup "message").getD (.str text)) := by
  cases body with
  | error reason => rfl
  | ok j =>
    cases j with
    | obj fields =>
      simp only [errorFields, errorObject, Except.mapError, bind, Except.bind, Json.get]
      cases (fields.lookup "error").getD (.obj []) with
      | _ => rfl
    | _ => rfl

/-- The code of a refusal can be stored when the body's own code, if it has one, can. -/
theorem hasNul_code_iff {render : Json → String} {entries : List (String × Json)} :
    Json.hasNul (strOf render ((entries.lookup "code").getD (.str "HTTP_ERROR"))) = false ↔
      ∀ code, entries.lookup "code" = some code → Json.hasNul (strOf render code) = false := by
  have hdefault : Json.hasNul "HTTP_ERROR" = false := by decide
  cases entries.lookup "code" with
  | none => simp [strOf, hdefault]
  | some code => simp

/-- What `_post` makes of a status 200 with a JSON body: an exception, a wamid, or an error that
says which lookup failed. -/
theorem post_body_cases (render : Json → String) (text : String) (j : Json) :
    j.fits wamidPath = false ∧ post render (.response 200 text (.ok j)) = .raised ∨
    j.fits wamidPath = true ∧
      ((∃ wamid, j.follow wamidPath = .ok wamid ∧
          post render (.response 200 text (.ok j)) = .ok wamid) ∨
        (∀ wamid, j.follow wamidPath ≠ .ok wamid) ∧
          post render (.response 200 text (.ok j)) =
            .failed "CONTRACT_ERROR" (.str (j.failureText wamidPath)) false) := by
  simp only [post, if_true]
  cases hfits : j.fits wamidPath with
  | false => simp [Json.follow_of_not_fits hfits]
  | true =>
    obtain ⟨wamid, hwamid⟩ | hmissing | hmissing := Json.follow_of_fits hfits
    · exact Or.inr ⟨rfl, Or.inl ⟨wamid, hwamid, by rw [hwamid]⟩⟩
    · exact Or.inr ⟨rfl, Or.inr ⟨by simp [hmissing], by rw [hmissing]⟩⟩
    · exact Or.inr ⟨rfl, Or.inr ⟨by simp [hmissing], by rw [hmissing]⟩⟩

/-- A refusal is an error with a text that can be written exactly under the condition. -/
theorem refusal_recordable_iff {env : Env} {render : Json → String} {text : String}
    {body : Except String Json} {retryable : Bool} :
    (SendOutcome.failed (errorFields render text body).1 (errorFields render text body).2
        retryable).IsProper ∧
      (SendOutcome.failed (errorFields render text body).1 (errorFields render text body).2
        retryable).Writable env ↔ RefusalRecordable render text body := by
  have hdefault : Json.hasNul "HTTP_ERROR" = false := by decide
  rw [errorFields_eq]
  unfold RefusalRecordable
  cases errorObject body with
  | none =>
    simp only [SendOutcome.IsProper, SendOutcome.Writable, true_and, failTexts_ok_iff, hdefault]
  | some entries =>
    simp only [← hasNul_code_iff]
    cases entries.lookup "message" with
    | none =>
      simp only [Option.getD_none, SendOutcome.IsProper, SendOutcome.Writable, true_and,
        failTexts_ok_iff]
    | some message =>
      cases message with
      | str message =>
        simp only [Option.getD_some, SendOutcome.IsProper, SendOutcome.Writable, true_and,
          failTexts_ok_iff]
      | _ => simp [SendOutcome.IsProper]

/-- `_post` makes a result or an error with a text of an answer, and the texts can be written,
exactly when the answer can be recorded. -/
theorem post_recordable_iff {env : Env} {render : Json → String} {answer : MetaAnswer} :
    (post render answer).IsProper ∧ (post render answer).Writable env ↔
      answer.Recordable env render := by
  have hcontract : Json.hasNul "CONTRACT_ERROR" = false := by decide
  have hnetwork : Json.hasNul "NETWORK_ERROR" = false := by decide
  cases answer with
  | networkError text =>
    simp only [post, SendOutcome.IsProper, SendOutcome.Writable, true_and, failTexts_ok_iff,
      hnetwork, MetaAnswer.Recordable]
  | invalidUrl => exact ⟨fun h => h.1, False.elim⟩
  | response status text body =>
    by_cases hstatus : status = 200
    · subst hstatus
      cases body with
      | error reason =>
        simp only [post, MetaAnswer.Recordable, if_true, SendOutcome.IsProper,
          SendOutcome.Writable, true_and, failTexts_ok_iff, hcontract]
      | ok j =>
        simp only [MetaAnswer.Recordable, if_true]
        obtain ⟨hfits, hpost⟩ | ⟨hfits, ⟨wamid, hwamid, hpost⟩ | ⟨hnone, hpost⟩⟩ :=
          post_body_cases render text j
        · simp [hpost, hfits, SendOutcome.IsProper]
        · simp [hpost, hfits, hwamid, SendOutcome.IsProper, SendOutcome.Writable]
        · rw [hpost]
          have hlookup : ∃ texts, failTexts env "CONTRACT_ERROR" (.str (j.failureText wamidPath)) =
              .ok texts :=
            failTexts_ok_iff.mpr ⟨hcontract, shortStorable_failureText j⟩
          exact iff_of_true ⟨trivial, hlookup⟩
            ⟨hfits, fun wamid hwamid => absurd hwamid (hnone wamid)⟩
    · simp only [post, MetaAnswer.Recordable, if_neg hstatus]
      exact refusal_recordable_iff

/-! ## The record of a request -/

/-- `_post` has made a result, or an error with a text as its message, of the answer, and the
record is in flight no longer and tells it. -/
def RecordSettled (env : Env) (db : Db) (messageId : UUID) (outcome : SendOutcome) : Prop :=
  outcome.IsProper ∧ ∃ m, messageById db messageId = some m ∧ m.state ≠ .pending ∧
    m.Tells env outcome

/-- The record of a request that came to the call of Meta is settled exactly when the answer can be
recorded. -/
theorem sends_recorded_iff (env : Env) (db : Db) (inp : ApiInput) (tenantId : UUID)
    (rq : SendMessage) (render : Json → String) (answer : String → Json → MetaAnswer)
    {messageId : UUID} {number : String} {payload : Json}
    (h : metaCall env db inp tenantId rq = some (messageId, number, payload)) :
    RecordSettled env (sendMessage env db (inp.answeredBy render answer) tenantId rq).db messageId
        (post render (answer number payload)) ↔
      (answer number payload).Recordable env render := by
  obtain ⟨reserved, m, hm, hdb⟩ := sendMessage_of_metaCall render answer h
  rw [hdb, ← post_recordable_iff, ← tells_concludeSend_iff hm inp.sentAt]
  unfold RecordSettled
  refine and_congr_right fun _ => ⟨?_, ?_⟩
  · rintro ⟨m', hm', -, htells⟩
    exact ⟨m', hm', htells⟩
  · rintro ⟨m', hm', htells⟩
    exact ⟨m', hm', htells.not_pending, htells⟩

/-! ## A reminder that Meta answers -/

/-- The answer of Meta to a message it takes. -/
def wamidAnswer (wamid : String) : MetaAnswer :=
  .response 200 "" (.ok (.obj [("messages", .arr [.obj [("id", .str wamid)]])]))

/-- The record of a reminder that Meta takes is settled. -/
theorem reminder_recorded :
    ∃ payload, metaCall (.ofRecording "s" []) boundDb reminderInput 2 (reminder "audit-4711") =
        some (1, "PN1", payload) ∧
      RecordSettled (.ofRecording "s" [])
        (sendMessage (.ofRecording "s" []) boundDb
          (reminderInput.answeredBy (fun _ => "") fun _ _ => wamidAnswer "wamid.1") 2
          (reminder "audit-4711")).db 1 (.ok (.str "wamid.1")) := by
  refine ⟨_, rfl, ?_⟩
  refine (sends_recorded_iff (.ofRecording "s" []) boundDb reminderInput 2 (reminder "audit-4711")
    (fun _ => "") (fun _ _ => wamidAnswer "wamid.1") rfl).mpr ⟨rfl, ?_⟩
  intro wamid hwamid
  cases hwamid
  exact ⟨some "wamid.1", rfl⟩

/-- With this answer to the reminder the record stays in flight, and the retry is answered that it
is. -/
def StaysInFlight (answer : MetaAnswer) : Prop :=
  ∃ db, db = (sendMessage (.ofRecording "s" []) boundDb
      (reminderInput.answeredBy (fun _ => "") fun _ _ => answer) 2 (reminder "audit-4711")).db ∧
    (messageById db 1).map (·.state) = some .pending ∧
    (sendMessage (.ofRecording "s" []) db
        (reminderInput.answeredBy (fun _ => "") fun _ _ => wamidAnswer "wamid.1") 2
        (reminder "audit-4711")).response =
      .error 409 (.str "IDEMPOTENCY_KEY_IN_FLIGHT")

/-- So it is with a status 200 whose body is a list, and with an error object whose message is
null. -/
theorem reminder_stuck : StaysInFlight (.response 200 "[]" (.ok (.arr []))) ∧
    StaysInFlight (.response 400 "" (.ok (.obj [("error", .obj [("message", .null)])]))) :=
  ⟨⟨_, rfl, rfl, rfl⟩, ⟨_, rfl, rfl, rfl⟩⟩

end WaService
