import WaService.Correctness.DrainOnce
import WaService.Correctness.RecordedSends

/-!
# The rows of one drain

A drain goes through its batch row by row, and only a `WaApiError` is caught. So the rows of a batch
are independent as long as no other exception comes up: in the payload, in building the message, in
reading Meta's answer or in writing it down.
-/

namespace WaService

open Python Relational

/-- `drainRows` with the outcomes of the sends row by row. -/
def drainRowsBy (env : Env) (now : Timestamp) (outcome : Outbox → SendRequest → SendOutcome) :
    Db → List Outbox → Db × Bool
  | db, [] => (db, false)
  | db, row :: rest =>
    match planRow env db row with
    | .skip => drainRowsBy env now outcome db rest
    | .refuse error => drainRowsBy env now outcome (markFailed db now row.id (some error) true) rest
    | .raise => (db, true)
    | .send call =>
      match markOutcome env db now row.id (outcome row call) with
      | .ok db' => drainRowsBy env now outcome db' rest
      | .error _ => (db, true)

/-- `send_outbox` with the outcomes of the sends row by row. -/
def sendOutboxBy (env : Env) (db : Db) (now : Timestamp) (locked : List Nat)
    (outcome : Outbox → SendRequest → SendOutcome) : Db × Bool :=
  drainRowsBy env now outcome (claimPending db now locked 20).2 (claimPending db now locked 20).1

/-- Where the outcome depends on the call alone, this is the drain. -/
theorem drainRowsBy_client (env : Env) (calls : DrainCalls) (db : Db) (rows : List Outbox) :
    drainRowsBy env calls.now (fun _ => calls.client) db rows = drainRows env calls db rows := by
  induction rows generalizing db with
  | nil => rfl
  | cons row rest ih =>
    rw [drainRowsBy, drainRows]
    cases planRow env db row with
    | skip => exact ih db
    | refuse error => exact ih _
    | raise => rfl
    | send call =>
      cases hmark : markOutcome env db calls.now row.id (calls.client call) with
      | error e => simp only [hmark]
      | ok db' =>
        simp only [hmark]
        exact ih db'

theorem sendOutboxBy_client (env : Env) (db : Db) (calls : DrainCalls) :
    sendOutboxBy env db calls.now calls.locked (fun _ => calls.client) = sendOutbox env db calls :=
  drainRowsBy_client env calls _ _

/-! ## One row -/

/-- What one pass of the loop leaves; none where an exception ends the drain. -/
def drainRow (env : Env) (now : Timestamp) (outcome : Outbox → SendRequest → SendOutcome) (db : Db)
    (row : Outbox) : Option Db :=
  match planRow env db row with
  | .skip => some db
  | .refuse error => some (markFailed db now row.id (some error) true)
  | .raise => none
  | .send call => (markOutcome env db now row.id (outcome row call)).toOption

/-- How a row ends: sent and marked sent, failed, or rescheduled. -/
def RowEnds (env : Env) (now : Timestamp) (outcome : Outbox → SendRequest → SendOutcome) (db : Db)
    (row o : Outbox) : Prop :=
  (∃ call wamid text, planRow env db row = .send call ∧ outcome row call = .ok wamid ∧
    sqlText env wamid = .ok text ∧ o = row.sent now text) ∨
  (∃ error, o = row.failed error) ∨ ∃ error, o = row.rescheduled now error

/-- The outcome can be written down. -/
def SendOutcome.Markable (env : Env) : SendOutcome → Prop
  | .ok wamid => ∃ text, sqlText env wamid = .ok text
  | .failed code _ _ => ∃ text, sqlText env (.str code) = .ok text
  | .raised => False

/-- The drain refuses the row, or sends it and can write the outcome down. -/
def RowHandled (env : Env) (outcome : Outbox → SendRequest → SendOutcome) (db : Db)
    (row : Outbox) : Prop :=
  match planRow env db row with
  | .skip => False
  | .refuse _ => True
  | .raise => False
  | .send call => (outcome row call).Markable env

section Rows

variable {env : Env} {now : Timestamp} {outcome : Outbox → SendRequest → SendOutcome} {db : Db}

theorem drainRowsBy_cons (row : Outbox) (rest : List Outbox) :
    drainRowsBy env now outcome db (row :: rest) =
      match drainRow env now outcome db row with
      | some db' => drainRowsBy env now outcome db' rest
      | none => (db, true) := by
  simp only [drainRowsBy, drainRow]
  cases planRow env db row with
  | send call =>
    simp only
    cases markOutcome env db now row.id (outcome row call) with
    | ok db' => rfl
    | error e => rfl
  | _ => rfl

/-- An update of one row leaves the other rows alone. -/
theorem outboxById_updateOne {f : Outbox → Outbox} (hf : ∀ o, (f o).id = o.id) {rowId id : Nat}
    (hne : id ≠ rowId) :
    outboxById (db.updateOutbox (fun o => o.id == rowId) f hf) id = outboxById db id := by
  rw [outboxById_update db _ f hf]
  cases ho : outboxById db id with
  | none => rfl
  | some o =>
    obtain ⟨-, hid⟩ := outboxById_eq_some.mp ho
    rw [Option.map_some, patch_of_neg (by simpa [hid] using hne)]

/-- An update of one row finds it as the update leaves it. -/
theorem outboxById_updateSelf {f : Outbox → Outbox} (hf : ∀ o, (f o).id = o.id) {row : Outbox}
    (hrow : outboxById db row.id = some row) :
    outboxById (db.updateOutbox (fun o => o.id == row.id) f hf) row.id = some (f row) := by
  rw [outboxById_update db _ f hf, hrow, Option.map_some, patch_of_pos (by simp)]

/-- The mark of a failed send. -/
def failureMark (now : Timestamp) (error : Option String) (permanent : Bool) : Outbox → Outbox :=
  if permanent then Outbox.failed error else Outbox.rescheduled now error

theorem failureMark_id (now : Timestamp) (error : Option String) (permanent : Bool) (o : Outbox) :
    (failureMark now error permanent o).id = o.id := by
  cases permanent <;> rfl

theorem markFailed_eq (id : Nat) (error : Option String) (permanent : Bool) :
    markFailed db now id error permanent = db.updateOutbox (fun o => o.id == id)
      (failureMark now error permanent) (failureMark_id now error permanent) := by
  cases permanent <;> rfl

/-- A failed send ends its row. -/
theorem rowEnds_failureMark {row : Outbox} (error : Option String) (permanent : Bool) :
    RowEnds env now outcome db row (failureMark now error permanent row) := by
  cases permanent with
  | true => exact Or.inr (Or.inl ⟨error, rfl⟩)
  | false => exact Or.inr (Or.inr ⟨error, rfl⟩)

/-- The pass over a row that is handled updates the row, to one that has ended. -/
theorem drainRow_of_handled {row : Outbox} (h : RowHandled env outcome db row) :
    ∃ (f : Outbox → Outbox) (hf : ∀ o, (f o).id = o.id),
      drainRow env now outcome db row = some (db.updateOutbox (fun o => o.id == row.id) f hf) ∧
        RowEnds env now outcome db row (f row) := by
  unfold RowHandled at h
  unfold drainRow
  cases hplan : planRow env db row with
  | skip => simp [hplan] at h
  | raise => simp [hplan] at h
  | refuse error =>
    exact ⟨_, failureMark_id now (some error) true,
      congrArg some (markFailed_eq row.id (some error) true), rowEnds_failureMark _ true⟩
  | send call =>
    simp only [hplan] at h
    simp only
    cases hsend : outcome row call with
    | raised =>
      rw [hsend] at h
      exact h.elim
    | ok wamid =>
      rw [hsend] at h
      obtain ⟨text, htext⟩ := h
      refine ⟨Outbox.sent now text, fun _ => rfl, ?_,
        Or.inl ⟨call, wamid, text, hplan, hsend, htext, rfl⟩⟩
      simp only [markOutcome, htext]
      rfl
    | failed code message retryable =>
      rw [hsend] at h
      obtain ⟨text, htext⟩ := h
      refine ⟨_, failureMark_id now text (!retryable), ?_, rowEnds_failureMark text (!retryable)⟩
      rw [← markFailed_eq row.id text (!retryable)]
      simp only [markOutcome, htext]
      rfl

/-- A row that is not handled ends the drain or is passed over. -/
theorem drainRow_of_not_handled {row : Outbox} (h : ¬ RowHandled env outcome db row) :
    drainRow env now outcome db row = none ∨ drainRow env now outcome db row = some db := by
  unfold RowHandled at h
  unfold drainRow
  cases hplan : planRow env db row with
  | skip => exact Or.inr rfl
  | raise => exact Or.inl rfl
  | refuse error => simp [hplan] at h
  | send call =>
    simp only [hplan] at h
    simp only
    cases hsend : outcome row call with
    | raised => exact Or.inl rfl
    | ok wamid =>
      cases htext : sqlText env wamid with
      | ok text => exact absurd (by rw [hsend]; exact ⟨text, htext⟩) h
      | error e =>
        simp only [markOutcome, htext]
        exact Or.inl rfl
    | failed code message retryable =>
      cases htext : sqlText env (.str code) with
      | ok text => exact absurd (by rw [hsend]; exact ⟨text, htext⟩) h
      | error e =>
        simp only [markOutcome, htext]
        exact Or.inl rfl

/-- A row that is due and pending has not ended. -/
theorem not_rowEnds_self {row : Outbox} (hpending : row.state = .pending)
    (hdue : row.sendAfter ≤ now) : ¬ RowEnds env now outcome db row row := by
  rintro (⟨call, wamid, text, -, -, -, he⟩ | ⟨error, he⟩ | ⟨error, he⟩)
  · rw [he] at hpending
    cases hpending
  · rw [he] at hpending
    cases hpending
  · have hafter : row.sendAfter = now + seconds 30 * 2 ^ row.attempts :=
      congrArg Outbox.sendAfter he
    have hpos : 0 < seconds 30 * 2 ^ row.attempts :=
      Int.mul_pos (by decide) (Int.pow_pos (by decide))
    rw [hafter] at hdue
    exact absurd hdue (Int.not_le.mpr (Int.lt_add_of_pos_right now hpos))

/-! ## The rows of a batch -/

/-- Rows that are not in the batch stay as they are. -/
theorem outboxById_drainRowsBy {rows : List Outbox} {id : Nat} (hid : id ∉ rows.map (·.id)) :
    outboxById (drainRowsBy env now outcome db rows).1 id = outboxById db id := by
  induction rows generalizing db with
  | nil => rfl
  | cons row rest ih =>
    rw [List.map_cons, List.mem_cons, not_or] at hid
    rw [drainRowsBy_cons]
    by_cases hhandled : RowHandled env outcome db row
    · obtain ⟨f, hf, hstep, -⟩ := drainRow_of_handled hhandled
      rw [hstep]
      exact (ih hid.2).trans (outboxById_updateOne hf hid.1)
    · obtain hstep | hstep := drainRow_of_not_handled hhandled
      · rw [hstep]
      · rw [hstep]
        exact ih hid.2

/-- The drain comes to the end of its rows, and every one of them has ended. -/
def RowsEnd (env : Env) (now : Timestamp) (outcome : Outbox → SendRequest → SendOutcome) (db : Db)
    (rows : List Outbox) : Prop :=
  (drainRowsBy env now outcome db rows).2 = false ∧ ∀ row ∈ rows, ∃ o,
    outboxById (drainRowsBy env now outcome db rows).1 row.id = some o ∧
      RowEnds env now outcome db row o

/-- All rows of a batch end exactly when every one of them is handled. -/
theorem rowsEnd_iff {rows : List Outbox} (hnodup : (rows.map (·.id)).Nodup)
    (hstored : ∀ row ∈ rows, outboxById db row.id = some row)
    (hdue : ∀ row ∈ rows, row.state = .pending ∧ row.sendAfter ≤ now) :
    RowsEnd env now outcome db rows ↔ ∀ row ∈ rows, RowHandled env outcome db row := by
  induction rows generalizing db with
  | nil => exact iff_of_true ⟨rfl, List.forall_mem_nil _⟩ (List.forall_mem_nil _)
  | cons row rest ih =>
    rw [List.map_cons, List.nodup_cons] at hnodup
    obtain ⟨hnew, hnodup⟩ := hnodup
    obtain ⟨hrow, hstored⟩ := List.forall_mem_cons.mp hstored
    obtain ⟨⟨hpending, hafter⟩, hdue⟩ := List.forall_mem_cons.mp hdue
    unfold RowsEnd
    rw [List.forall_mem_cons, List.forall_mem_cons, drainRowsBy_cons]
    by_cases hhandled : RowHandled env outcome db row
    · obtain ⟨f, hf, hstep, hends⟩ := drainRow_of_handled hhandled
      have hothers : ∀ r ∈ rest, r.id ≠ row.id := by
        intro r hr he
        exact hnew (he ▸ List.mem_map_of_mem hr)
      have hkept : ∀ r ∈ rest,
          outboxById (db.updateOutbox (fun o => o.id == row.id) f hf) r.id = some r :=
        fun r hr => (outboxById_updateOne hf (hothers r hr)).trans (hstored r hr)
      have hrest := ih hnodup hkept hdue
      have hself : outboxById (drainRowsBy env now outcome
          (db.updateOutbox (fun o => o.id == row.id) f hf) rest).1 row.id = some (f row) :=
        (outboxById_drainRowsBy hnew).trans (outboxById_updateSelf hf hrow)
      rw [hstep]
      constructor
      · rintro ⟨hended, -, hall⟩
        exact ⟨hhandled, hrest.mp ⟨hended, hall⟩⟩
      · rintro ⟨-, hall⟩
        obtain ⟨hended, hall⟩ := hrest.mpr hall
        exact ⟨hended, ⟨f row, hself, hends⟩, hall⟩
    · refine iff_of_false ?_ fun h => hhandled h.1
      rintro ⟨hended, ⟨o, ho, hends⟩, -⟩
      obtain hstep | hstep := drainRow_of_not_handled hhandled
      · rw [hstep] at hended
        cases hended
      · rw [hstep] at ho
        rw [outboxById_drainRowsBy hnew, hrow] at ho
        cases ho
        exact not_rowEnds_self hpending hafter hends

end Rows

/-- A claimed row is in the outbox as it was returned. -/
theorem claimPending_stored {db : Db} {now : Timestamp} {locked : List Nat} {limit : Nat}
    {row : Outbox} (h : row ∈ (claimPending db now locked limit).1) :
    outboxById (claimPending db now locked limit).2 row.id = some row ∧ row.state = .pending ∧
      row.sendAfter ≤ now := by
  obtain ⟨o, ho, rfl, hpending, hmiss, hclaim⟩ := claimPending_source h
  have hfind : outboxById db (raiseAttempts o).id = some o := outboxById_eq_some.mpr ⟨ho, rfl⟩
  refine ⟨?_, hpending, ?_⟩
  · rw [outboxById_claimPending, hfind, Option.map_some, Option.map_some, patch_of_neg hmiss,
      patch_of_pos hclaim]
  · simp only [claimed, claimable, Bool.and_eq_true, decide_eq_true_eq] at hclaim
    exact hclaim.1.1.1.2

/-! ## Which rows are handled -/

/-- The buttons of a message: at most three objects with an id and a title, or nothing at all. -/
def ButtonsFit : Json → Prop
  | .arr items => items.length ≤ 3 ∧ ∀ item ∈ items, ∃ fields id title, item = .obj fields ∧
      fields.lookup "id" = some id ∧ fields.lookup "title" = some title
  | .obj fields => fields = []
  | .str s => s = ""
  | _ => False

/-- One button is built of an object with an id and a title. -/
theorem replyButton_ok_iff {item : Json} :
    (∃ reply, replyButton item = .ok reply) ↔ ∃ fields id title, item = .obj fields ∧
      fields.lookup "id" = some id ∧ fields.lookup "title" = some title := by
  constructor
  · rintro ⟨reply, h⟩
    obtain ⟨id, hid, h⟩ := bind_eq_ok.mp h
    obtain ⟨title, htitle, -⟩ := bind_eq_ok.mp h
    cases item with
    | obj fields =>
      refine ⟨fields, id, title, rfl, ?_, ?_⟩
      · cases hlookup : fields.lookup "id" with
        | none => simp [Json.getItem, hlookup] at hid
        | some v => simpa [Json.getItem, hlookup] using hid
      · cases hlookup : fields.lookup "title" with
        | none => simp [Json.getItem, hlookup] at htitle
        | some v => simpa [Json.getItem, hlookup] using htitle
    | _ => cases hid
  · rintro ⟨fields, id, title, rfl, hid, htitle⟩
    refine ⟨_, bind_eq_ok.mpr ⟨id, ?_, bind_eq_ok.mpr ⟨title, ?_, rfl⟩⟩⟩
    · simp only [Json.getItem, hid]
    · simp only [Json.getItem, htitle]

/-- A list of computations succeeds when each of them does. -/
theorem mapM_ok_iff {α β : Type} {f : α → Except Error β} {xs : List α} :
    (∃ ys, xs.mapM f = .ok ys) ↔ ∀ x ∈ xs, ∃ y, f x = .ok y := by
  induction xs with
  | nil => exact iff_of_true ⟨[], rfl⟩ (List.forall_mem_nil _)
  | cons x xs ih =>
    rw [List.forall_mem_cons, ← ih]
    constructor
    · rintro ⟨ys, h⟩
      rw [List.mapM_cons] at h
      obtain ⟨y, hy, h⟩ := bind_eq_ok.mp h
      obtain ⟨ys, hys, -⟩ := bind_eq_ok.mp h
      exact ⟨⟨y, hy⟩, ys, hys⟩
    · rintro ⟨⟨y, hy⟩, ys, hys⟩
      refine ⟨y :: ys, ?_⟩
      rw [List.mapM_cons]
      exact bind_eq_ok.mpr ⟨y, hy, bind_eq_ok.mpr ⟨ys, hys, rfl⟩⟩

/-- A button message is built of buttons that fit. -/
theorem interactiveButtons_ok_iff {header body footer buttons : Json} :
    (∃ built, interactiveButtons header body footer buttons = .ok built) ↔ ButtonsFit buttons := by
  have hbuilt : (∃ built, interactiveButtons header body footer buttons = .ok built) ↔
      ∃ count items, buttons.len = .ok count ∧ ¬ 3 < count ∧ buttons.iter = .ok items ∧
        ∀ item ∈ items, ∃ reply, replyButton item = .ok reply := by
    constructor
    · rintro ⟨built, h⟩
      obtain ⟨count, hcount, h⟩ := bind_eq_ok.mp h
      split at h
      · cases h
      · obtain ⟨items, hitems, h⟩ := bind_eq_ok.mp h
        obtain ⟨replies, hreplies, -⟩ := bind_eq_ok.mp h
        exact ⟨count, items, hcount, ‹_›, hitems, mapM_ok_iff.mp ⟨replies, hreplies⟩⟩
    · rintro ⟨count, items, hcount, hle, hitems, hall⟩
      obtain ⟨replies, hreplies⟩ := mapM_ok_iff.mpr hall
      exact ⟨_, bind_eq_ok.mpr ⟨count, hcount, (if_neg hle).trans (bind_eq_ok.mpr
        ⟨items, hitems, bind_eq_ok.mpr ⟨replies, hreplies, rfl⟩⟩)⟩⟩
  -- A key of an object, like a character of a text, is a text and no button.
  have hnone : ∀ t, ¬ ∃ reply, replyButton (.str t) = .ok reply := by
    rintro t ⟨reply, h⟩
    cases h
  rw [hbuilt]
  cases buttons with
  | arr items =>
    simp only [Json.len, Json.iter, Except.ok.injEq, exists_and_left, exists_eq_left', Nat.not_lt,
      ButtonsFit, replyButton_ok_iff]
  | obj fields =>
    simp only [Json.len, Json.iter, Except.ok.injEq, exists_and_left, exists_eq_left', ButtonsFit]
    constructor
    · rintro ⟨-, hall⟩
      cases fields with
      | nil => rfl
      | cons f rest => exact absurd (hall (.str f.1) (by simp)) (hnone f.1)
    · rintro rfl
      exact ⟨by simp, by simp⟩
  | str s =>
    simp only [Json.len, Json.iter, Except.ok.injEq, exists_and_left, exists_eq_left', ButtonsFit]
    constructor
    · rintro ⟨-, hall⟩
      cases hs : s.toList with
      | nil => simpa using hs
      | cons c rest =>
        rw [hs] at hall
        exact absurd (hall (.str (String.ofList [c])) (by simp)) (hnone _)
    · rintro rfl
      exact ⟨by simp, by simp⟩
  | _ => simp [Json.len, ButtonsFit]

/-- The answers that can be written to an outbox row. Only the code of a refusal is kept. -/
def MetaAnswer.Markable (env : Env) (render : Json → String) : MetaAnswer → Prop
  | .networkError _ => True
  | .invalidUrl => False
  | .response status _ body =>
    if status = 200 then
      match body with
      | .error _ => True
      | .ok j => j.fits wamidPath = true ∧
          ∀ wamid, j.follow wamidPath = .ok wamid → ∃ text, sqlText env wamid = .ok text
    else ∀ entries, errorObject body = some entries →
      ∀ code, entries.lookup "code" = some code → Json.hasNul (strOf render code) = false

/-- `_post` ends with an outcome that can be written down exactly for these answers. -/
theorem post_markable_iff {env : Env} {render : Json → String} {answer : MetaAnswer} :
    (post render answer).Markable env ↔ answer.Markable env render := by
  have hcode : ∀ code, Json.hasNul code = false → ∃ text, sqlText env (.str code) = .ok text :=
    fun _ => sqlText_str_iff.mpr
  have hdefault : Json.hasNul "HTTP_ERROR" = false := by decide
  cases answer with
  | networkError text => exact iff_of_true (hcode _ (by decide)) trivial
  | invalidUrl => exact Iff.rfl
  | response status text body =>
    by_cases hstatus : status = 200
    · subst hstatus
      cases body with
      | error reason => exact iff_of_true (hcode _ (by decide)) trivial
      | ok j =>
        simp only [MetaAnswer.Markable, if_true]
        obtain ⟨hfits, hpost⟩ | ⟨hfits, ⟨wamid, hwamid, hpost⟩ | ⟨hnone, hpost⟩⟩ :=
          post_body_cases render text j
        · simp [hpost, hfits, SendOutcome.Markable]
        · simp [hpost, hfits, hwamid, SendOutcome.Markable]
        · rw [hpost]
          exact iff_of_true (hcode _ (by decide))
            ⟨hfits, fun wamid hwamid => absurd hwamid (hnone wamid)⟩
    · simp only [post, MetaAnswer.Markable, if_neg hstatus, SendOutcome.Markable, sqlText_str_iff]
      rw [errorFields_eq]
      cases errorObject body with
      | none =>
        refine iff_of_true hdefault ?_
        intro entries hentries
        cases hentries
      | some entries =>
        simp only [Option.some.injEq, forall_eq']
        exact hasNul_code_iff

/-- What the payload of a row needs by its kind, and, where the row is sent, the answer. Rows of a
kind that is never sent need nothing. -/
def KindReady (env : Env) (render : Json → String) (answer : MetaAnswer) (payload : Json) :
    OutboxKind → Prop
  | .text => (∃ fields, payload = .obj fields) ∧ answer.Markable env render
  | .interactive => ∃ fields, payload = .obj fields ∧
      (fields.lookup "type" = some (.str "buttons") →
        ButtonsFit ((fields.lookup "buttons").getD (.arr [])) ∧ answer.Markable env render)
  | .template => (∃ fields name, payload = .obj fields ∧ fields.lookup "name" = some name) ∧
      answer.Markable env render
  | .list | .audio => True

/-- The payload decodes, the contact is there, and where there is a route to send from the payload
and the answer are as the kind needs them. -/
def RowReady (env : Env) (render : Json → String) (answer : MetaAnswer) (db : Db) (row : Outbox) :
    Prop :=
  ∃ payload contact, decodePayload env row.payload = .ok payload ∧
    db.contacts.rows.find? (fun c => c.id == row.contactId) = some contact ∧
    (drainRoute db contact.tenantId = none ∨ KindReady env render answer payload row.kind)

/-- The send of a button message can be written down when the buttons fit and the answer can. -/
theorem sendVia_buttons_iff {env : Env} {render : Json → String} {answer : MetaAnswer}
    {number phone : String} {header body footer buttons : Json} :
    (sendVia render (fun _ _ => answer)
        ⟨number, phone, .interactiveButtons header body footer buttons⟩).Markable env ↔
      ButtonsFit buttons ∧ answer.Markable env render := by
  rw [← @interactiveButtons_ok_iff header body footer buttons, ← post_markable_iff]
  simp only [sendVia, SendRequest.payload]
  cases interactiveButtons header body footer buttons with
  | error e => exact iff_of_false False.elim (by rintro ⟨⟨built, h⟩, -⟩; cases h)
  | ok built => exact ⟨fun h => ⟨⟨built, rfl⟩, h⟩, fun h => h.2⟩

/-- The contents that a payload gives lead to a send that can be written down, or to none. -/
theorem kindReady_iff {env : Env} {render : Json → String} {answer : MetaAnswer} {payload : Json}
    {kind : OutboxKind} {number phone : String} :
    (∃ content, outboxContent kind payload = .ok content ∧ ∀ c, content = some c →
      (sendVia render (fun _ _ => answer) ⟨number, phone, c⟩).Markable env) ↔
      KindReady env render answer payload kind := by
  cases kind with
  | list => exact iff_of_true ⟨none, rfl, nofun⟩ trivial
  | audio => exact iff_of_true ⟨none, rfl, nofun⟩ trivial
  | text =>
    cases payload with
    | obj fields =>
      simp [outboxContent, Json.get, bind, Except.bind, pure, Except.pure, sendVia,
        SendRequest.payload, post_markable_iff, KindReady]
    | _ => simp [outboxContent, Json.get, bind, Except.bind, KindReady]
  | template =>
    cases payload with
    | obj fields =>
      cases hname : fields.lookup "name" with
      | none => simp [outboxContent, Json.getItem, hname, bind, Except.bind, KindReady]
      | some name =>
        simp [outboxContent, Json.getItem, Json.get, hname, bind, Except.bind, pure, Except.pure,
          sendVia, SendRequest.payload, post_markable_iff, KindReady]
    | _ => simp [outboxContent, Json.getItem, bind, Except.bind, KindReady]
  | interactive =>
    cases payload with
    | obj fields =>
      have htype : ((fields.lookup "type").getD .null).eqStr "buttons" = true ↔
          fields.lookup "type" = some (.str "buttons") := by
        cases fields.lookup "type" with
        | none => simp [Json.eqStr]
        | some v => cases v <;> simp [Json.eqStr]
      simp only [outboxContent, Json.get, bind, Except.bind, pure, Except.pure, KindReady,
        Json.obj.injEq, exists_eq_left', ← htype]
      split
      · rename_i hbuttons
        simp only [Except.ok.injEq, exists_eq_left', Option.some.injEq, forall_eq',
          sendVia_buttons_iff]
        exact ⟨fun h _ => h, fun h => h hbuttons⟩
      · rename_i hother
        exact iff_of_true ⟨none, rfl, nofun⟩ fun h => absurd h hother
    | _ => simp [outboxContent, Json.get, bind, Except.bind, KindReady]

/-- A row is handled exactly when it is ready. -/
theorem rowHandled_iff {env : Env} {render : Json → String} {answers : Outbox → MetaAnswer}
    {db : Db} {row : Outbox} :
    RowHandled env (fun r => sendVia render fun _ _ => answers r) db row ↔
      RowReady env render (answers row) db row := by
  unfold RowHandled RowReady planRow
  cases decodePayload env row.payload with
  | error e => simp
  | ok payload =>
    cases db.contacts.rows.find? (fun c => c.id == row.contactId) with
    | none => simp
    | some contact =>
      simp only [Except.ok.injEq, Option.some.injEq, exists_and_left, exists_eq_left']
      cases drainRoute db contact.tenantId with
      | none => simp
      | some route =>
        simp only [reduceCtorEq, false_or,
          ← @kindReady_iff env render (answers row) payload row.kind route.phoneNumberId
            contact.phoneE164]
        cases outboxContent row.kind payload with
        | error e => simp
        | ok content =>
          cases content with
          | none => simp
          | some c => simp

/-- One drain with the given answers comes to its end, and every row of the batch is sent and marked
sent, or marked failed, or rescheduled. -/
def BatchConcluded (env : Env) (render : Json → String) (db : Db) (now : Timestamp)
    (locked : List Nat) (answers : Outbox → MetaAnswer) : Prop :=
  let outcome := fun row : Outbox => sendVia render fun _ _ => answers row
  (sendOutboxBy env db now locked outcome).2 = false ∧
    ∀ row ∈ (claimPending db now locked 20).1, ∃ o,
      outboxById (sendOutboxBy env db now locked outcome).1 row.id = some o ∧
        RowEnds env now outcome db row o

/-- A batch is concluded exactly when each of its rows is ready. -/
theorem batch_concluded_iff (env : Env) (render : Json → String) (db : Db) (now : Timestamp)
    (locked : List Nat) (answers : Outbox → MetaAnswer) :
    BatchConcluded env render db now locked answers ↔
      ∀ row ∈ (claimPending db now locked 20).1, RowReady env render (answers row) db row := by
  have hends : BatchConcluded env render db now locked answers ↔
      RowsEnd env now (fun r => sendVia render fun _ _ => answers r)
        (claimPending db now locked 20).2 (claimPending db now locked 20).1 := Iff.rfl
  rw [hends, rowsEnd_iff (claimPending_nodup db now locked 20)
    (fun row hrow => (claimPending_stored hrow).1) fun row hrow => (claimPending_stored hrow).2]
  exact forall₂_congr fun row _ => rowHandled_iff

/-! ## A queue of two rows -/

/-- A second row for the contact of the first. -/
def laterRow : Outbox := { queuedRow with id := 2, sendAfter := 1 }

/-- Two queued rows for one contact, with an active route. -/
def twoQueued : Db :=
  { queuedDb with outbox := ⟨[queuedRow, laterRow], by decide⟩ }

/-- A status 200 with a list as its body for the first row ends the drain. Neither row is sent or
failed or rescheduled, and both have used up an attempt. -/
theorem first_row_ends_drain :
    let answers : Outbox → MetaAnswer := fun row =>
      if row.id = 1 then .response 200 "[]" (.ok (.arr [])) else wamidAnswer "wamid.2"
    let r := sendOutboxBy (.ofRecording "s" []) twoQueued 5 []
      fun row => sendVia (fun _ => "") fun _ _ => answers row
    ¬ BatchConcluded (.ofRecording "s" []) (fun _ => "") twoQueued 5 [] answers ∧ r.2 = true ∧
      (outboxById r.1 1).map (fun o => (o.state, o.attempts)) = some (.pending, 1) ∧
      (outboxById r.1 2).map (fun o => (o.state, o.attempts)) = some (.pending, 1) := by
  intro answers r
  have hraised : r.2 = true := by decide
  refine ⟨?_, hraised, by decide, by decide⟩
  rintro ⟨hended, -⟩
  have hquiet : r.2 = false := hended
  rw [hraised] at hquiet
  cases hquiet

end WaService
