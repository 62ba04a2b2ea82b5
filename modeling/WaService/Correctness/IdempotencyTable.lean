import WaService.Core.Evolution
import WaService.System.ApiRuns

/-!
# The idempotency table of the send API

A record keeps the payload and the key that `_reserve` stored, so in every reachable
state a stored payload is the dump of a body with one kind. For a key with a record the
answer then follows from three facts about the state before the request: whether the
tenant has an active route, whether the key is empty, and the row that was found.
-/

namespace WaService

open Python Relational Transition

/-! ## Dumps -/

/-- A dump is an object, with two fields exactly when the body has one kind. -/
theorem dump_fields (b : SendMessageRequest) :
    ∃ fields, b.dump = .obj fields ∧ (fields.length = 2 ↔ b.kind.isSome = true) := by
  refine ⟨_, rfl, ?_⟩
  rcases b with ⟨toE164, _ | text, _ | template, _ | buttons⟩ <;>
    simp [SendMessageRequest.kind, dumpField]

/-- Only a body with one kind has the dump of a body with one kind. -/
theorem kind_of_pyEq_dump {b b' : SendMessageRequest} (hb : b.kind.isSome = true)
    (h : b.dump.pyEq b'.dump = true) : b'.kind.isSome = true := by
  obtain ⟨fields, hdump, hlength⟩ := dump_fields b
  obtain ⟨fields', hdump', hlength'⟩ := dump_fields b'
  rw [hdump, hdump'] at h
  have hsame : fields.length = fields'.length := by
    simp only [Json.pyEq, Bool.and_eq_true, beq_iff_eq] at h
    exact h.1
  exact hlength'.mp (hsame ▸ hlength.mpr hb)

/-! ## Stored records -/

/-- A request that `_reserve` inserts a record for. -/
def SendMessage.Insertable (rq : SendMessage) : Prop :=
  rq.body.kind.isSome = true ∧ rq.bindable = true

/-- The payload and the key of a record. -/
def ApiMessage.reserved (m : ApiMessage) : Json × Option String := (m.payload, m.idempotencyKey)

/-- The record was inserted for some request. -/
def ApiMessage.Recorded (m : ApiMessage) : Prop :=
  ∃ rq : SendMessage, rq.Insertable ∧ m.reserved = (rq.body.dump, rq.idempotencyKey)

/-- Between the two databases, records keep what was reserved, and new ones are inserted for
requests. -/
def RecordsKept (db db' : Db) : Prop :=
  Table.Evolves (Keeping ApiMessage.reserved) ApiMessage.Recorded db.apiMessages db'.apiMessages

theorem RecordsKept.refl (db : Db) : RecordsKept db db := Table.Evolves.refl_keeping _

theorem RecordsKept.of_eq {db db' : Db} (h : db'.apiMessages = db.apiMessages) :
    RecordsKept db db' := by
  unfold RecordsKept
  rw [h]
  exact Table.Evolves.refl_keeping _

theorem RecordsKept.trans {a b c : Db} (h : RecordsKept a b) (h' : RecordsKept b c) :
    RecordsKept a c := by
  apply Table.Evolves.trans_keeping h h'
  intro m n hm hn
  obtain ⟨rq, hrq, hreserved⟩ := hm
  exact ⟨rq, hrq, hn.trans hreserved⟩

/-- Records are kept and inserted for requests, so all of them were. -/
theorem RecordsKept.recorded {db db' : Db} (h : RecordsKept db db')
    (hdb : ∀ m ∈ db.apiMessages.rows, m.Recorded) : ∀ m ∈ db'.apiMessages.rows, m.Recorded := by
  intro m hm
  rcases h.source m hm with ⟨m₀, hm₀, hkeep⟩ | hnew
  · obtain ⟨rq, hrq, hreserved⟩ := hdb m₀ hm₀
    have hsame : m.reserved = m₀.reserved := hkeep
    exact ⟨rq, hrq, hsame.trans hreserved⟩
  · exact hnew

/-- An update beside the payload and the key. -/
theorem updateApiMessages_recordsKept {db : Db} {p : ApiMessage → Bool}
    (f : ApiMessage → ApiMessage) (h : ∀ m, (f m).id = m.id ∧ (f m).tenantId = m.tenantId ∧
      (f m).idempotencyKey = m.idempotencyKey) (hp : ∀ m, (f m).payload = m.payload) :
    RecordsKept db (db.updateApiMessages p f h) :=
  Table.Evolves.update_keeping (ApiMessage.keeps h)
    (fun m => Prod.ext (hp m) (h m).2.2) db.apiMessages

/-- An outcome is written beside the payload and the key. -/
theorem concludeSend_recordsKept (env : Env) (db : Db) (now : Timestamp) (messageId : UUID)
    (outcome : SendOutcome) : RecordsKept db (concludeSend env db now messageId outcome).1 := by
  obtain hdb | ⟨texts, retryable, hdb⟩ | ⟨wamid, text, -, -, hdb⟩ :=
    concludeSend_db env db now messageId outcome
  · rw [hdb]
    exact .refl db
  · rw [hdb]
    exact updateApiMessages_recordsKept (ApiMessage.fail texts retryable)
      (fun _ => ⟨rfl, rfl, rfl⟩) fun _ => rfl
  · rw [hdb]
    exact updateApiMessages_recordsKept (ApiMessage.succeed text now)
      (fun _ => ⟨rfl, rfl, rfl⟩) fun _ => rfl

/-- The insert of `_reserve` records its request. -/
theorem reserveInsert_recordsKept {db db' : Db} {newId : UUID} {now : Timestamp} {tenantId : UUID}
    {route : Route} {rq : SendMessage} {kind : MessageKind} {res : Reservation}
    (hrq : rq.Insertable) (h : reserveInsert db newId now tenantId route rq kind = .ok (res, db')) :
    RecordsKept db db' := by
  obtain ⟨messages, hins, -, rfl⟩ := reserveInsert_eq_ok h
  have hrefl : ∀ m : ApiMessage, Keeping ApiMessage.reserved m m := fun _ => rfl
  exact Table.Evolves.insert hrefl hins ⟨rq, hrq, rfl⟩

/-- The lookups of `_reserve` bind the key. -/
theorem reserveSelect_bindable {db : Db} {tenantId : UUID} {rq : SendMessage}
    {found : Route × Option ApiMessage} (h : reserveSelect db tenantId rq = .ok found) :
    rq.bindable = true := by
  unfold reserveSelect at h
  split at h
  · contradiction
  · split at h
    · assumption
    · contradiction

/-- A request without interruption keeps the records. -/
theorem sendMessage_recordsKept (env : Env) (db : Db) (inp : ApiInput) (tenantId : UUID)
    (rq : SendMessage) : RecordsKept db (sendMessage env db inp tenantId rq).db := by
  unfold sendMessage
  split
  · exact .refl db
  · rename_i kind hkind
    split
    · exact .refl db
    · rename_i res reserved hres
      have hreserve : RecordsKept db reserved := by
        unfold reserve at hres
        split at hres
        · contradiction
        · cases hres
          exact .refl _
        · rename_i hs
          exact reserveInsert_recordsKept ⟨by rw [hkind]; rfl, reserveSelect_bindable hs⟩ hres
      split
      · exact hreserve
      · exact hreserve.trans (concludeSend_recordsKept env reserved inp.sentAt _ _)

/-- Every operation of the API keeps the records. -/
theorem handle_recordsKept (env : Env) (db : Db) (inp : ApiInput) (tenantId : UUID)
    (op : Operation) : RecordsKept db (handle env db inp tenantId op).db := by
  cases op with
  | sendMessage request => exact sendMessage_recordsKept env db inp tenantId request
  | putContact body =>
    exact .of_eq (congrArg Db.apiMessages (putContact_tables db inp tenantId body) :)
  | patchContact contactId body =>
    exact .of_eq (congrArg Db.apiMessages (patchContact_tables db tenantId contactId body) :)
  | revokeContact contactId =>
    exact .of_eq (congrArg Db.apiMessages (revokeContact_tables db tenantId contactId) :)
  | createRoute body =>
    exact .of_eq (congrArg Db.apiMessages (createRoute_tables db inp tenantId body) :)
  | patchRoute routeId body =>
    exact .of_eq (congrArg Db.apiMessages (patchRoute_tables db tenantId routeId body) :)
  | listContacts _ _ _ => exact .refl db
  | getContact _ => exact .refl db
  | listRoutes => exact .refl db
  | getMessage _ => exact .refl db
  | listSessions _ _ _ _ => exact .refl db
  | getSession _ => exact .refl db

/-! ## Reachable states -/

section Runs

variable {ι : Type} [DecidableEq ι] {env : Env} {posts : ι → Post} {c c' : Sends ι}

/-- Every record was inserted for a request, and so will be the rows about to be inserted. -/
structure RecordsInv (posts : ι → Post) (c : Sends ι) : Prop where
  recorded : ∀ m ∈ c.shared.db.apiMessages.rows, m.Recorded
  inserting : ∀ i kind route, c.phase i = .inserting kind route → (posts i).message.Insertable

/-- Only the lookups of a request that can be inserted lead to an insert. -/
theorem phaseOfSelect_inserting {db : Db} {p : Post} {kind : MessageKind} {route : Route}
    (h : phaseOfSelect env db p = .inserting kind route) : p.message.Insertable := by
  unfold phaseOfSelect at h
  split at h
  · contradiction
  · rename_i hkind
    split at h
    · contradiction
    · rename_i hs
      exact ⟨by rw [hkind]; rfl, reserveSelect_bindable hs⟩
    · rename_i m _
      cases hd : decideSend env p.message (.existing m _) <;> rw [hd] at h <;> cases h

/-- A step of a request that keeps the records and leads to no insert it could not make. -/
theorem RecordsInv.advance (hc : RecordsInv posts c) {i : ι} {s : SendShared ι} {l : SendPhase}
    (hkept : RecordsKept c.shared.db s.db)
    (hl : ∀ kind route, l = .inserting kind route → (posts i).message.Insertable) :
    RecordsInv posts (c.advance i s l) where
  recorded := hkept.recorded hc.recorded
  inserting := Processes.forall_phase_advance
    (fun j l => ∀ kind route, l = SendPhase.inserting kind route → (posts j).message.Insertable)
    hl fun j _ => hc.inserting j

theorem sendStep_recordsInv {a : SendAction ι} (hc : RecordsInv posts c)
    (h : sendStep env posts c a = some c') : RecordsInv posts c' := by
  cases sendStep_moves h with
  | select i hi => exact hc.advance (.refl _) fun kind route hl => phaseOfSelect_inserting hl
  | refuse i newId now hi hres => exact hc.advance (.refl _) fun _ _ hl => SendPhase.noConfusion hl
  | insert i newId now hi hres =>
    have hrq := hc.inserting i _ _ hi
    exact hc.advance (reserveInsert_recordsKept hrq hres) fun _ _ _ => hrq
  | answer i outcome accepted hi hallow =>
    refine hc.advance (.refl _) fun kind route hl => ?_
    cases outcome <;> cases accepted <;> cases hl
  | @record i now messageId outcome hi =>
    apply hc.advance (concludeSend_recordsKept env _ now messageId outcome)
    intro kind route hl
    unfold phaseOfRecord at hl
    split at hl <;> cases hl

/-- Every step of the API keeps the invariant. -/
theorem apiStep_recordsInv {a : ApiAction ι} (hc : RecordsInv posts c)
    (h : apiStep env posts c a = some c') : RecordsInv posts c' := by
  cases a with
  | send a => exact sendStep_recordsInv hc h
  | request inp tenantId op =>
    cases h
    exact ⟨(handle_recordsKept env _ inp tenantId op).recorded hc.recorded, hc.inserting⟩
  | elsewhere db =>
    cases h
    exact ⟨hc.recorded, hc.inserting⟩

theorem run_recordsInv {db : Db} {actions : List (ApiAction ι)}
    (h : run (apiStep env posts) (apiStart db) actions = some c) : RecordsInv posts c := by
  have hstart : RecordsInv posts (apiStart db : Sends ι) :=
    ⟨fun _ hm => absurd hm List.not_mem_nil, fun _ _ _ hi => SendPhase.noConfusion hi⟩
  exact run_preserves (RecordsInv posts) (fun _ _ _ hc ha => apiStep_recordsInv hc ha) h hstart

end Runs

/-! ## The answer to a request whose key has a record -/

/-- The table: a replay of a sent record, a conflict with a pending one, a new send on a failed
one, and a refusal of another body. The answers without a send leave the database alone. -/
def FollowsTable (env : Env) (db : Db) (inp : ApiInput) (rq : SendMessage) (m : ApiMessage)
    (r : ApiResult) : Prop :=
  if m.payload.pyEq rq.body.dump then
    match m.state with
    | .sent => r = ⟨db, .message 200 m.out, []⟩
    | .pending => r = ⟨db, .error 409 (.str "IDEMPOTENCY_KEY_IN_FLIGHT"), []⟩
    | .failed => ∃ number, r.calls = [⟨number, rq.body.toE164, rq.body.content⟩] ∧
        (r.db, r.response) = concludeSend env db inp.sentAt m.id
          (inp.client ⟨number, rq.body.toE164, rq.body.content⟩)
  else ∃ detail, r = ⟨db, .error 422 detail, []⟩

/-- When the code follows the table: the body is refused before the lookups, or the tenant has an
active route and the lookup of the key is made; an empty key is not looked up, and its conflict
with the record answers only the request that is in flight. -/
def KeyLookedUp (db : Db) (tenantId : UUID) (rq : SendMessage) (m : ApiMessage) : Prop :=
  rq.body.kind = none ∨
    (firstActiveRoute db tenantId).isSome = true ∧
      (rq.idempotencyKey ≠ some "" ∨
        m.payload.pyEq rq.body.dump = true ∧ m.state = .pending ∧ rq.body.dump.storable = true)

section Answers

variable {env : Env} {db : Db} {inp : ApiInput} {tenantId : UUID} {rq : SendMessage}
  {m : ApiMessage} {kind : MessageKind} {route : Route}

/-- A body without one kind is refused before the lookups. -/
theorem sendMessage_of_kind_none (h : rq.body.kind = none) : sendMessage env db inp tenantId rq =
    ⟨db, .error 422 (.str "provide exactly one of: text, template, buttons"), []⟩ := by
  simp only [sendMessage, h]

/-- A tenant without an active route is refused before the lookup of the key. -/
theorem sendMessage_of_no_route (hkind : rq.body.kind = some kind)
    (hroute : firstActiveRoute db tenantId = none) : sendMessage env db inp tenantId rq =
      ⟨db, .error 409 (.str "NO_ACTIVE_ROUTE"), []⟩ := by
  simp only [sendMessage, hkind, reserve, reserveSelect, hroute]

/-- A key that belongs to a record is a storable text. -/
theorem ApiMessage.Recorded.bindable (h : m.Recorded)
    (hkey : m.idempotencyKey = rq.idempotencyKey) :
    rq.bindable = true := by
  obtain ⟨rq', ⟨-, hbind⟩, hreserved⟩ := h
  have hkey' : rq'.idempotencyKey = rq.idempotencyKey :=
    (congrArg Prod.snd hreserved).symm.trans hkey
  unfold SendMessage.bindable at hbind ⊢
  rwa [← hkey']

/-- The record that is found has the key of the request. -/
theorem key_of_messageOfKey {key : String} (hkey : rq.idempotencyKey = some key)
    (hm : messageOfKey db tenantId key = some m) : m.idempotencyKey = rq.idempotencyKey := by
  have hown := List.find?_some hm
  simp only [Bool.and_eq_true, beq_iff_eq] at hown
  rw [hown.2, hkey]

/-- A stored dump is read back as it is. -/
theorem ApiMessage.Recorded.decoded (h : m.Recorded) :
    decodePayload env m.payload = .ok m.payload := by
  obtain ⟨rq', -, hreserved⟩ := h
  have hpayload : m.payload = rq'.body.dump := congrArg Prod.fst hreserved
  rw [hpayload]
  rfl

/-- An empty key is not looked up, and the insert finds the record in its way. -/
theorem sendMessage_of_empty_key (hkind : rq.body.kind = some kind)
    (hroute : firstActiveRoute db tenantId = some route) (hkey : rq.idempotencyKey = some "")
    (hm : messageOfKey db tenantId "" = some m) : sendMessage env db inp tenantId rq =
      ⟨db, if rq.body.dump.storable then .error 409 (.str "IDEMPOTENCY_KEY_IN_FLIGHT") else .raised,
        []⟩ := by
  have hselect : reserveSelect db tenantId rq = .ok (route, none) := by
    have hbind : rq.bindable = true := by
      unfold SendMessage.bindable
      rw [hkey]
      decide
    simp only [reserveSelect, hroute, hbind, hkey, existingRecord, beq_self_eq_true, if_true]
  have hclash :
      db.apiMessages.insert? (newMessage inp.newId inp.now tenantId route.id rq kind) = none := by
    have hmem := List.mem_of_find?_eq_some hm
    have hown := List.find?_some hm
    simp only [Bool.and_eq_true, beq_iff_eq] at hown
    refine Table.insert?_eq_none.mpr ⟨m, hmem, ?_⟩
    simp [clash, sameKey, ApiMessage.idempotencyIndex, newMessage, hown.1, hown.2, hkey]
  simp only [sendMessage, hkind, reserve, hselect, reserveInsert, hclash]
  cases rq.body.dump.storable with
  | true => rfl
  | false => rfl

/-- A key that is looked up leads to its record. -/
theorem reserve_of_key (hroute : firstActiveRoute db tenantId = some route) {key : String}
    (hne : key ≠ "") (hkey : rq.idempotencyKey = some key)
    (hm : messageOfKey db tenantId key = some m) (hbind : rq.bindable = true) :
    reserve db inp.newId inp.now tenantId rq kind = .ok (.existing m route.phoneNumberId, db) := by
  have hselect : reserveSelect db tenantId rq = .ok (route, some m) := by
    simp only [reserveSelect, hroute, hbind, hkey, existingRecord, if_true]
    rw [if_neg (by simpa using hne), hm]
  simp only [reserve, hselect]

/-- The record that is found decides. -/
theorem sendMessage_of_key (hrecorded : m.Recorded) (hkind : rq.body.kind = some kind)
    (hroute : firstActiveRoute db tenantId = some route) {key : String} (hne : key ≠ "")
    (hkey : rq.idempotencyKey = some key) (hm : messageOfKey db tenantId key = some m) :
    FollowsTable env db inp rq m (sendMessage env db inp tenantId rq) := by
  have hreserve : reserve db inp.newId inp.now tenantId rq kind =
      .ok (.existing m route.phoneNumberId, db) :=
    reserve_of_key hroute hne hkey hm (hrecorded.bindable (key_of_messageOfKey hkey hm))
  unfold FollowsTable
  simp only [sendMessage, hkind, hreserve, decideSend, hrecorded.decoded]
  by_cases hsame : m.payload.pyEq rq.body.dump = true
  · simp only [if_pos hsame]
    cases m.state with
    | sent => rfl
    | pending => rfl
    | failed => exact ⟨route.phoneNumberId, rfl, rfl⟩
  · simp only [if_neg hsame]
    exact ⟨_, rfl⟩

/-- For a record of a request, the code follows the table exactly when the key is looked up. -/
theorem followsTable_iff (hrecorded : m.Recorded) {key : String}
    (hkey : rq.idempotencyKey = some key)
    (hm : messageOfKey db tenantId key = some m) :
    FollowsTable env db inp rq m (sendMessage env db inp tenantId rq) ↔
      KeyLookedUp db tenantId rq m := by
  cases hkind : rq.body.kind with
  | none =>
    -- No stored body equals one without a kind, so the table asks for a 422, which is given.
    have hdiffers : ¬ m.payload.pyEq rq.body.dump = true := by
      obtain ⟨rq', ⟨hkind', -⟩, hreserved⟩ := hrecorded
      have hpayload : m.payload = rq'.body.dump := congrArg Prod.fst hreserved
      intro h
      rw [hpayload] at h
      have hsome := kind_of_pyEq_dump hkind' h
      rw [hkind] at hsome
      contradiction
    refine iff_of_true ?_ (Or.inl hkind)
    rw [sendMessage_of_kind_none hkind, FollowsTable, if_neg hdiffers]
    exact ⟨_, rfl⟩
  | some kind =>
    unfold KeyLookedUp
    rw [hkind]
    cases hroute : firstActiveRoute db tenantId with
    | none =>
      refine iff_of_false ?_ (by simp)
      rw [sendMessage_of_no_route hkind hroute]
      unfold FollowsTable
      by_cases hsame : m.payload.pyEq rq.body.dump = true
      · rw [if_pos hsame]
        cases m.state <;> simp
      · rw [if_neg hsame]
        simp
    | some route =>
      by_cases hne : key = ""
      · subst hne
        rw [sendMessage_of_empty_key hkind hroute hkey hm]
        unfold FollowsTable
        by_cases hsame : m.payload.pyEq rq.body.dump = true
        · rw [if_pos hsame]
          cases m.state <;> cases hstorable : rq.body.dump.storable <;> simp [hsame, hkey]
        · rw [if_neg hsame]
          cases rq.body.dump.storable <;> simp [hsame, hkey]
      · apply iff_of_true (sendMessage_of_key hrecorded hkind hroute hne hkey hm)
        refine Or.inr ⟨rfl, Or.inl ?_⟩
        rw [hkey]
        simpa using hne

end Answers

/-- In every reachable state, a request whose key has a record follows the idempotency table
exactly when its key is looked up. -/
theorem idempotency_table_iff {ι : Type} [DecidableEq ι] (env : Env) (posts : ι → Post) {db : Db}
    {actions : List (ApiAction ι)} {c : Sends ι}
    (h : run (apiStep env posts) (apiStart db) actions = some c) (inp : ApiInput) {tenantId : UUID}
    {rq : SendMessage} {key : String} (hkey : rq.idempotencyKey = some key) {m : ApiMessage}
    (hm : messageOfKey c.shared.db tenantId key = some m) :
    FollowsTable env c.shared.db inp rq m (sendMessage env c.shared.db inp tenantId rq) ↔
      KeyLookedUp c.shared.db tenantId rq m :=
  followsTable_iff ((run_recordsInv h).recorded m (List.mem_of_find?_eq_some hm)) hkey hm

/-! ## Runs of one message that is sent again -/

/-- A reminder of tenant 2 under an idempotency key. -/
def reminder (key : String) : SendMessage :=
  ⟨⟨"+919876543210", some "Your documents are complete.", none, none⟩, "audit-core", some key⟩

/-- The values that the runs below generate. -/
def reminderInput : ApiInput := ⟨5, 6, 1, fun _ => .raised⟩

/-- A route is registered and the reminder goes out on it. -/
def reminderSent : List (ApiAction (Fin 1)) :=
  [.request reminderInput 2 (.createRoute ⟨"PN1", "+91 99999 00000", none⟩),
    .send (.select 0), .send (.insert 0 10 5), .send (.answer 0 (.ok (.str "wamid.1")) true),
    .send (.record 0 6)]

/-- The same request again is a replay. -/
theorem idempotency_table_iff_replay :
    ∃ (c : Sends (Fin 1)) (m : ApiMessage), messageOfKey c.shared.db 2 "audit-4711" = some m ∧
      m.state = .sent ∧ FollowsTable (.ofRecording "s" []) c.shared.db reminderInput
        (reminder "audit-4711") m
        (sendMessage (.ofRecording "s" []) c.shared.db reminderInput 2
          (reminder "audit-4711")) := by
  have hrun : (run (apiStep (.ofRecording "s" []) fun _ => ⟨2, reminder "audit-4711"⟩)
      (apiStart .empty) reminderSent).map (fun c =>
        ((messageOfKey c.shared.db 2 "audit-4711").map (·.state),
          (firstActiveRoute c.shared.db 2).isSome)) = some (some .sent, true) := by decide
  obtain ⟨c, hc, hstate⟩ := Option.map_eq_some_iff.mp hrun
  obtain ⟨m, hm, hsent⟩ := Option.map_eq_some_iff.mp (congrArg Prod.fst hstate)
  refine ⟨c, m, hm, hsent, ?_⟩
  exact (idempotency_table_iff (.ofRecording "s" []) _ hc reminderInput rfl hm).mpr
    (Or.inr ⟨congrArg Prod.snd hstate, Or.inl (by decide)⟩)

/-- A sent reminder is not replayed once its route is deactivated, and never under the empty key:
its record exists there, but is not looked up. -/
theorem replay_refused :
    (∃ (c : Sends (Fin 1)) (m : ApiMessage),
      run (apiStep (.ofRecording "s" []) fun _ => ⟨2, reminder "audit-4711"⟩) (apiStart .empty)
        (reminderSent ++ [.request reminderInput 2 (.patchRoute 1 ⟨some false, none, none⟩)]) =
          some c ∧
      messageOfKey c.shared.db 2 "audit-4711" = some m ∧ m.state = .sent ∧
      m.payload.pyEq (reminder "audit-4711").body.dump = true ∧
      sendMessage (.ofRecording "s" []) c.shared.db reminderInput 2 (reminder "audit-4711") =
        ⟨c.shared.db, .error 409 (.str "NO_ACTIVE_ROUTE"), []⟩) ∧
    ∃ (c : Sends (Fin 1)) (m : ApiMessage),
      run (apiStep (.ofRecording "s" []) fun _ => ⟨2, reminder ""⟩) (apiStart .empty) reminderSent =
        some c ∧
      messageOfKey c.shared.db 2 "" = some m ∧ m.state = .sent ∧
      m.payload.pyEq (reminder "").body.dump = true ∧
      sendMessage (.ofRecording "s" []) c.shared.db reminderInput 2 (reminder "") =
        ⟨c.shared.db, .error 409 (.str "IDEMPOTENCY_KEY_IN_FLIGHT"), []⟩ := by
  constructor
  · have hrun : (run (apiStep (.ofRecording "s" []) fun _ => ⟨2, reminder "audit-4711"⟩)
        (apiStart .empty)
        (reminderSent ++ [.request reminderInput 2 (.patchRoute 1 ⟨some false, none, none⟩)])).map
          (fun c => ((messageOfKey c.shared.db 2 "audit-4711").map (fun m =>
            (m.state, m.payload.pyEq (reminder "audit-4711").body.dump)),
              (firstActiveRoute c.shared.db 2).isNone)) = some (some (.sent, true), true) := by
      decide
    obtain ⟨c, hc, hstate⟩ := Option.map_eq_some_iff.mp hrun
    obtain ⟨m, hm, hrecord⟩ := Option.map_eq_some_iff.mp (congrArg Prod.fst hstate)
    refine ⟨c, m, hc, hm, congrArg Prod.fst hrecord, congrArg Prod.snd hrecord, ?_⟩
    exact sendMessage_of_no_route rfl (Option.isNone_iff_eq_none.mp (congrArg Prod.snd hstate))
  · have hrun : (run (apiStep (.ofRecording "s" []) fun _ => ⟨2, reminder ""⟩)
        (apiStart .empty) reminderSent).map (fun c =>
          ((messageOfKey c.shared.db 2 "").map (fun m =>
            (m.state, m.payload.pyEq (reminder "").body.dump)),
              (firstActiveRoute c.shared.db 2).isSome)) = some (some (.sent, true), true) := by
      decide
    obtain ⟨c, hc, hstate⟩ := Option.map_eq_some_iff.mp hrun
    obtain ⟨m, hm, hrecord⟩ := Option.map_eq_some_iff.mp (congrArg Prod.fst hstate)
    obtain ⟨route, hroute⟩ := Option.isSome_iff_exists.mp (congrArg Prod.snd hstate)
    refine ⟨c, m, hc, hm, congrArg Prod.fst hrecord, congrArg Prod.snd hrecord, ?_⟩
    rw [sendMessage_of_empty_key rfl hroute rfl hm]
    rfl

end WaService
