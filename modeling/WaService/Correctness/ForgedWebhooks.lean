import WaService.Core.Run
import WaService.System.Intake
import WaService.Wa.Payload

/-!
# Unsigned requests

Forged bodies are stored in the inbox beside the genuine ones, and share its wamid
index. The inbox task reads the inbox for its own row only, so a run with extra
unsigned requests leaves the same sessions and files as the run without them, as long
as no genuine body finds its wamid held by a forged row.
-/

namespace WaService

open Python Relational Transition

variable {env : Env} {db db' : Db}

/-! ## The inbox task reads one row of the inbox -/

/-- The database with another inbox. -/
def Db.withInbox (db : Db) (inbox : Table Inbox) : Db := { db with inbox := inbox }

/-- The same outcome over another inbox. -/
def TxResult.withInbox (r : TxResult) (inbox : Table Inbox) : TxResult :=
  ⟨r.jobs, r.outcome.map (·.withInbox inbox)⟩

/-- The same loop state over another inbox. -/
def LoopState.withInbox (st : LoopState) (inbox : Table Inbox) : LoopState :=
  { st with db := st.db.withInbox inbox }

theorem resolveFullContext_withInbox (inbox : Table Inbox) (phoneNumberId : Option String)
    (payload : Json) : resolveFullContext (db.withInbox inbox) phoneNumberId payload =
      resolveFullContext db phoneNumberId payload := rfl

theorem getOrCreateSession_withInbox (inbox : Table Inbox) (newId : UUID) (now : Timestamp)
    (tenantId contactId orgUnitId : UUID) :
    getOrCreateSession (db.withInbox inbox) newId now tenantId contactId orgUnitId =
      (getOrCreateSession db newId now tenantId contactId orgUnitId).map fun r =>
        (r.1, r.2.withInbox inbox) := by
  have hopen : openSession (db.withInbox inbox) contactId = openSession db contactId := rfl
  unfold getOrCreateSession
  rw [hopen]
  cases openSession db contactId with
  | some s => rfl
  | none =>
    have hsessions : (db.withInbox inbox).sessions = db.sessions := rfl
    simp only [hsessions]
    cases db.sessions.insert? (newSession newId now tenantId contactId orgUnitId) with
    | some sessions => rfl
    | none => rfl

theorem registerFile_withInbox (inbox : Table Inbox) (newId tenantId sessionId : UUID) (seq : Int)
    (m : MediaMessage) :
    registerFile env (db.withInbox inbox) newId tenantId sessionId seq m =
      (registerFile env db newId tenantId sessionId seq m).map fun r =>
        (r.1, r.2.withInbox inbox) := by
  unfold registerFile
  cases newFile env newId tenantId sessionId seq m with
  | error e => rfl
  | ok file =>
    have hold : fileOfWamid (db.withInbox inbox) file.wamid = fileOfWamid db file.wamid := rfl
    have hfiles : (db.withInbox inbox).files = db.files := rfl
    simp only [bind, Except.bind, hold, hfiles]
    cases fileOfWamid db file.wamid with
    | some old => cases selectText m.wamid <;> rfl
    | none => cases db.files.insert? file <;> rfl

theorem processMessage_withInbox (i : LoopInput) (st : LoopState) (msg : Json)
    (inbox : Table Inbox) :
    processMessage env i (st.withInbox inbox) msg =
      ((processMessage env i st msg).1.withInbox inbox, (processMessage env i st msg).2) := by
  unfold processMessage
  cases parseMedia msg with
  | error e => rfl
  | ok media =>
    cases media with
    | none => rfl
    | some m =>
      have hdb : (st.withInbox inbox).db = st.db.withInbox inbox := rfl
      have hseq : (st.withInbox inbox).seq = st.seq := rfl
      have hused : (st.withInbox inbox).used = st.used := rfl
      simp only [hdb, hseq, hused, registerFile_withInbox]
      cases registerFile env st.db (i.newIds st.used) i.ctx.tenantId i.sessionId (st.seq + 1) m with
      | error e => rfl
      | ok r =>
        simp only [Except.map]
        by_cases hdefer : i.deferOk st.used = true
        · simp only [hdefer, if_true]
          rfl
        · simp only [hdefer]
          rfl

theorem processEach_withInbox (i : LoopInput) (st : LoopState) (msgs : List Json)
    (inbox : Table Inbox) :
    processEach env i (st.withInbox inbox) msgs =
      ((processEach env i st msgs).1.withInbox inbox, (processEach env i st msgs).2) := by
  induction msgs generalizing st with
  | nil => rfl
  | cons msg rest ih =>
    simp only [processEach, processMessage_withInbox]
    cases processMessage env i st msg with
    | mk st' error =>
      cases error with
      | none => exact ih st'
      | some e => rfl

theorem processMessages_withInbox (inp : InboxInput) (payload : Json) (ctx : ResolvedContext)
    (sessionId : UUID) (inbox : Table Inbox) :
    processMessages env (db.withInbox inbox) inp payload ctx sessionId =
      (processMessages env db inp payload ctx sessionId).withInbox inbox := by
  unfold processMessages
  cases payloadMessages payload with
  | error e => rfl
  | ok found =>
    cases found with
    | none => rfl
    | some messages =>
      have hjourney : sessionJourney (db.withInbox inbox) sessionId = sessionJourney db sessionId :=
        rfl
      have hseq : maxReceivedSeq (db.withInbox inbox) sessionId = maxReceivedSeq db sessionId := rfl
      have hstart : ∀ seq, (⟨db.withInbox inbox, seq, [], 0⟩ : LoopState) =
          (⟨db, seq, [], 0⟩ : LoopState).withInbox inbox := fun _ => rfl
      simp only [hjourney, hseq, hstart, processEach_withInbox]
      cases messages.iter with
      | error e => rfl
      | ok msgs =>
        simp only
        cases processEach env ⟨inp.now, ctx, sessionId, sessionJourney db sessionId, inp.fileIds,
            inp.deferOk⟩ ⟨db, maxReceivedSeq db sessionId, [], 0⟩ msgs with
        | mk st error => cases error <;> rfl

/-- The transaction neither reads nor writes the inbox. -/
theorem inboxTransaction_withInbox (inp : InboxInput) (row : Inbox) (payload : Json)
    (inbox : Table Inbox) :
    inboxTransaction env (db.withInbox inbox) inp row payload =
      (inboxTransaction env db inp row payload).withInbox inbox := by
  unfold inboxTransaction
  rw [resolveFullContext_withInbox]
  cases resolveFullContext db row.phoneNumberId payload with
  | error e => rfl
  | ok ctx =>
    simp only [getOrCreateSession_withInbox]
    cases getOrCreateSession db inp.sessionId inp.now ctx.tenantId ctx.contactId ctx.orgUnitId with
    | error e => rfl
    | ok r => exact processMessages_withInbox inp payload ctx r.1.id inbox

theorem inboxTransaction_inbox {inp : InboxInput} {row : Inbox} {payload : Json} {jobs : List Job}
    (h : inboxTransaction env db inp row payload = ⟨jobs, .ok db'⟩) : db'.inbox = db.inbox := by
  have hsame : inboxTransaction env db inp row payload =
      (inboxTransaction env db inp row payload).withInbox db.inbox :=
    inboxTransaction_withInbox inp row payload db.inbox
  rw [h] at hsame
  injection hsame with _ hout
  injection hout with hdb
  rw [hdb]
  rfl

/-! ## What a request stores -/

/-- The text that the lookup of a wamid compares with. -/
def wamidKey : Json → Except Error (Option String)
  | .null => .ok none
  | wamid => (selectText wamid).map some

/-- The row that a request stores unless the inbox holds its wamid. -/
def arrivalOf (env : Env) (newId : Nat) (rawBody : List UInt8) (hubSignature : Option String) :
    Option Inbox := do
  let signatureOk ← (verifySignature env rawBody hubSignature).toOption
  let payload ← env.jsonLoads rawBody
  let wamid ← (extractWamid payload).toOption
  let phoneNumberId ← (extractPhoneNumberId payload).toOption
  let wamidText ← (wamidKey wamid).toOption
  let numberText ← (sqlText env phoneNumberId).toOption
  if payload.storable then
    some ⟨newId, wamidText, numberText, payload, signatureOk, .pending⟩
  else none

/-- The database after a row has arrived; a row whose key is held is dropped. -/
def storeArrival (db : Db) (r : Inbox) : Db :=
  match db.inbox.insert? r with
  | some inbox => db.withInbox inbox
  | none => db

theorem inboxHolds_eq (wamid : Json) : inboxHolds db wamid =
    (wamidKey wamid).map fun key => db.inbox.rows.any fun r => sameKey r.wamid key := by
  have hnone : (db.inbox.rows.any fun r => sameKey r.wamid none) = false := by
    rw [List.any_eq_false]
    intro r _
    cases r.wamid <;> simp [sameKey]
  have hsome : ∀ text, (fun r : Inbox => r.wamid == some text) =
      fun r : Inbox => sameKey r.wamid (some text) := by
    intro text
    funext r
    cases r.wamid <;> rfl
  cases wamid with
  | null => simp only [inboxHolds, wamidKey, Except.map, hnone]
  | str s =>
    unfold inboxHolds wamidKey
    simp only [hsome]
    cases selectText (.str s) <;> rfl
  | _ => rfl

theorem sqlText_of_wamidKey {wamid : Json} {key : Option String} (h : wamidKey wamid = .ok key) :
    sqlText env wamid = .ok key := by
  cases wamid with
  | null => exact h
  | str s =>
    by_cases hnul : Json.hasNul s = true
    · simp [wamidKey, selectText, hnul, Except.map] at h
    · simpa [wamidKey, selectText, sqlText, hnul, Except.map] using h
  | _ => cases h

/-- A held wamid leaves no room for the row. -/
theorem storeArrival_of_held {r : Inbox}
    (h : (db.inbox.rows.any fun a => sameKey a.wamid r.wamid) = true) : storeArrival db r = db := by
  obtain ⟨a, ha, hkey⟩ := List.any_eq_true.mp h
  have hnone : db.inbox.insert? r = none :=
    Table.insert?_eq_none.mpr ⟨a, ha, Bool.or_eq_true_iff.mpr (Or.inr hkey)⟩
  unfold storeArrival
  rw [hnone]

/-- What a request leaves behind depends on the inbox only through the keys it holds. -/
theorem receiveWebhook_db (newId : Nat) (rawBody : List UInt8) (hubSignature : Option String)
    (dispatched : Bool) : (receiveWebhook env db newId rawBody hubSignature dispatched).db =
      ((arrivalOf env newId rawBody hubSignature).map (storeArrival db)).getD db := by
  unfold receiveWebhook arrivalOf insertInbox
  cases verifySignature env rawBody hubSignature with
  | error e => rfl
  | ok signatureOk =>
    cases env.jsonLoads rawBody with
    | none => rfl
    | some payload =>
      simp only [inboxHolds_eq, Except.toOption, Option.bind_eq_bind, Option.bind_some]
      cases extractWamid payload with
      | error e => rfl
      | ok wamid =>
        cases extractPhoneNumberId payload with
        | error e => rfl
        | ok number =>
          cases hkey : wamidKey wamid with
          | error e =>
            simp only [bind, Except.bind, hkey, Except.map, Option.bind]
            rfl
          | ok key =>
            have hsql : sqlText env wamid = .ok key := sqlText_of_wamidKey hkey
            simp only [bind, Except.bind, hkey, Except.map, Option.bind, hsql, writeInbox]
            cases hheld : db.inbox.rows.any fun a => sameKey a.wamid key with
            | true =>
              have hdropped : ∀ text, storeArrival db
                  ⟨newId, key, text, payload, signatureOk, .pending⟩ = db :=
                fun _ => storeArrival_of_held hheld
              cases sqlText env number with
              | error e => rfl
              | ok text =>
                by_cases hstorable : payload.storable = true
                · simp only [hstorable, if_true, Option.map_some, Option.getD_some, hdropped]
                  rfl
                · simp only [hstorable]
                  rfl
            | false =>
              cases sqlText env number with
              | error e => rfl
              | ok text =>
                by_cases hstorable : payload.storable = true
                · simp only [hstorable, if_true, Option.map_some, Option.getD_some, storeArrival]
                  cases db.inbox.insert? ⟨newId, key, text, payload, signatureOk, .pending⟩ <;> rfl
                · simp only [hstorable]
                  rfl

/-! ## Two inboxes alike up to extra rows -/

/-- The inboxes of two runs, the second one with extra unsigned requests, whose rows have
the ids that `extra` selects. -/
structure Alike (extra : Nat → Bool) (base full : Table Inbox) : Prop where
  /-- Rows of the other requests are rows of the run without the extra ones. -/
  shared : ∀ r ∈ full.rows, extra r.id = false → r ∈ base.rows
  /-- Signed rows are not lost. -/
  signed : ∀ r ∈ base.rows, r.signatureOk = true → r ∈ full.rows
  /-- A wamid that is held without the extra requests is held with them. -/
  held : ∀ r ∈ base.rows, ∀ wamid ∈ r.wamid, ∃ a ∈ full.rows, a.wamid = some wamid
  /-- Rows of the extra requests are unsigned. -/
  unsigned : ∀ r ∈ full.rows, extra r.id = true → r.signatureOk = false
  /-- The run without the extra requests has none of their rows. -/
  without : ∀ r ∈ base.rows, extra r.id = false

variable {extra : Nat → Bool} {base full base' full' : Table Inbox} {r : Inbox}

theorem Alike.refl (h : ∀ r ∈ base.rows, extra r.id = false) : Alike extra base base where
  shared _ hr _ := hr
  signed _ hr _ := hr
  held r hr _ hw := ⟨r, hr, hw⟩
  unsigned r hr he := by simp [h r hr] at he
  without := h

/-- Updating both inboxes in the same way. -/
theorem Alike.update {p : Inbox → Bool} {f : Inbox → Inbox} (hk : Table.Keeps p f)
    (h : Alike extra base full)
    (hf : ∀ a, (f a).id = a.id ∧ (f a).wamid = a.wamid ∧ (f a).signatureOk = a.signatureOk) :
    Alike extra (base.update p f hk) (full.update p f hk) := by
  have hid : ∀ a, (patch p f a).id = a.id := patch_proj fun a _ => (hf a).1
  have hwamid : ∀ a, (patch p f a).wamid = a.wamid := patch_proj fun a _ => (hf a).2.1
  have hsigned : ∀ a, (patch p f a).signatureOk = a.signatureOk :=
    patch_proj fun a _ => (hf a).2.2
  constructor
  · intro r hr he
    obtain ⟨a, ha, rfl⟩ := Table.mem_update.mp hr
    exact Table.mem_update.mpr ⟨a, h.shared a ha (by rwa [hid] at he), rfl⟩
  · intro r hr hs
    obtain ⟨a, ha, rfl⟩ := Table.mem_update.mp hr
    exact Table.mem_update.mpr ⟨a, h.signed a ha (by rwa [hsigned] at hs), rfl⟩
  · intro r hr wamid hw
    obtain ⟨a, ha, rfl⟩ := Table.mem_update.mp hr
    rw [hwamid] at hw
    obtain ⟨b, hb, hbw⟩ := h.held a ha wamid hw
    exact ⟨patch p f b, Table.mem_update.mpr ⟨b, hb, rfl⟩, (hwamid b).trans hbw⟩
  · intro r hr he
    obtain ⟨a, ha, rfl⟩ := Table.mem_update.mp hr
    rw [hid] at he
    rw [hsigned]
    exact h.unsigned a ha he
  · intro r hr
    obtain ⟨a, ha, rfl⟩ := Table.mem_update.mp hr
    rw [hid]
    exact h.without a ha

/-- Equal keys of two rows. -/
theorem Inbox.clash_iff {a r : Inbox} : clash a r = true ↔
    a.id = r.id ∨ ∃ wamid, a.wamid = some wamid ∧ r.wamid = some wamid := by
  simp only [clash, Bool.or_eq_true, sameKey_iff, Option.some.injEq]
  constructor
  · rintro (⟨k, hk, hk'⟩ | hw)
    · exact Or.inl (hk.trans hk'.symm)
    · exact Or.inr hw
  · rintro (hid | hw)
    · exact Or.inl ⟨r.id, hid, rfl⟩
    · exact Or.inr hw

/-- An extra row arrives in the second run. -/
theorem Alike.insert_extra (h : Alike extra base full) (hins : full.insert? r = some full')
    (he : extra r.id = true) (hr : r.signatureOk = false) : Alike extra base full' := by
  constructor
  · intro a ha hna
    rcases (Table.mem_of_insert? hins).mp ha with ha | rfl
    · exact h.shared a ha hna
    · rw [he] at hna
      contradiction
  · exact fun a ha hs => (Table.mem_of_insert? hins).mpr (Or.inl (h.signed a ha hs))
  · intro a ha wamid hw
    obtain ⟨b, hb, hbw⟩ := h.held a ha wamid hw
    exact ⟨b, (Table.mem_of_insert? hins).mpr (Or.inl hb), hbw⟩
  · intro a ha hea
    rcases (Table.mem_of_insert? hins).mp ha with ha | rfl
    · exact h.unsigned a ha hea
    · exact hr
  · exact h.without

/-- A row of another request that finds room in the second run finds room in the first. -/
theorem Alike.insert_both (h : Alike extra base full) (hins : full.insert? r = some full')
    (he : extra r.id = false) (hnew : ∀ a ∈ base.rows, a.id ≠ r.id) :
    ∃ base', base.insert? r = some base' ∧ Alike extra base' full' := by
  cases hb : base.insert? r with
  | none =>
    -- A wamid held without the extra requests is held with them.
    obtain ⟨a, ha, hc⟩ := Table.insert?_eq_none.mp hb
    rcases Inbox.clash_iff.mp hc with hid | ⟨wamid, haw, hrw⟩
    · exact absurd hid (hnew a ha)
    · obtain ⟨b, hbm, hbw⟩ := h.held a ha wamid haw
      have hfull : full.insert? r = none :=
        Table.insert?_eq_none.mpr ⟨b, hbm, Inbox.clash_iff.mpr (Or.inr ⟨wamid, hbw, hrw⟩)⟩
      rw [hfull] at hins
      contradiction
  | some base' =>
    refine ⟨base', rfl, ?_⟩
    have hfull : ∀ a, a ∈ full'.rows ↔ a ∈ full.rows ∨ a = r := fun a => Table.mem_of_insert? hins
    have hbase : ∀ a, a ∈ base'.rows ↔ a ∈ base.rows ∨ a = r := fun a => Table.mem_of_insert? hb
    constructor
    · intro a ha hea
      exact (hbase a).mpr (((hfull a).mp ha).imp_left fun hm => h.shared a hm hea)
    · intro a ha hs
      exact (hfull a).mpr (((hbase a).mp ha).imp_left fun hm => h.signed a hm hs)
    · intro a ha wamid hw
      rcases (hbase a).mp ha with hm | rfl
      · obtain ⟨b, hbm, hbw⟩ := h.held a hm wamid hw
        exact ⟨b, (hfull b).mpr (Or.inl hbm), hbw⟩
      · exact ⟨a, (hfull a).mpr (Or.inr rfl), hw⟩
    · intro a ha hea
      rcases (hfull a).mp ha with hm | rfl
      · exact h.unsigned a hm hea
      · rw [he] at hea
        contradiction
    · intro a ha
      rcases (hbase a).mp ha with hm | rfl
      · exact h.without a hm
      · exact he

/-- An unsigned row of another request may be dropped in the second run only. -/
theorem Alike.insert_base (h : Alike extra base full) (hb : base.insert? r = some base')
    (he : extra r.id = false) (hr : r.signatureOk = false)
    (hheld : ∀ wamid ∈ r.wamid, ∃ a ∈ full.rows, a.wamid = some wamid) :
    Alike extra base' full := by
  have hbase : ∀ a, a ∈ base'.rows ↔ a ∈ base.rows ∨ a = r := fun a => Table.mem_of_insert? hb
  constructor
  · exact fun a ha hea => (hbase a).mpr (Or.inl (h.shared a ha hea))
  · intro a ha hs
    rcases (hbase a).mp ha with hm | rfl
    · exact h.signed a hm hs
    · rw [hr] at hs
      contradiction
  · intro a ha wamid hw
    rcases (hbase a).mp ha with hm | rfl
    · exact h.held a hm wamid hw
    · exact hheld wamid hw
  · exact h.unsigned
  · intro a ha
    rcases (hbase a).mp ha with hm | rfl
    · exact h.without a hm
    · exact he

/-! ## Two runs -/

/-- Databases that agree on everything but the rows of extra unsigned requests. -/
structure AlikeBut (extra : Nat → Bool) (base full : Db) : Prop where
  rest : full = base.withInbox full.inbox
  inbox : Alike extra base.inbox full.inbox

theorem AlikeBut.mark {base full : Db} (h : AlikeBut extra base full) (inboxId : Nat)
    (state : InboxState) :
    AlikeBut extra (markInbox base inboxId state) (markInbox full inboxId state) where
  rest := by
    rw [h.rest]
    rfl
  inbox := by
    have hk : Table.Keeps (fun r : Inbox => r.id == inboxId) fun r => { r with state := state } :=
      Inbox.keeps fun _ => ⟨rfl, rfl⟩
    apply h.inbox.update hk
    intro a
    exact ⟨rfl, rfl, rfl⟩

/-- Marking a row that is not there. -/
theorem markInbox_absent {inboxId : Nat} (h : inboxRow db inboxId = none) (state : InboxState) :
    markInbox db inboxId state = db := by
  have hnone : ∀ a ∈ db.inbox.rows, (a.id == inboxId) = false := fun a ha => by
    simpa using List.find?_eq_none.mp h a ha
  unfold markInbox Db.updateInbox
  rw [Table.update_of_none hnone]

theorem inboxRow_eq_some {inboxId : Nat} {row : Inbox} :
    inboxRow db inboxId = some row ↔ row ∈ db.inbox.rows ∧ row.id = inboxId := by
  constructor
  · intro h
    exact ⟨List.mem_of_find?_eq_some h, by simpa using List.find?_some h⟩
  · rintro ⟨hmem, hid⟩
    refine Table.find?_eq_some_of_mem hmem (by simpa using hid) fun b hb => ?_
    exact Inbox.clash_iff.mpr (Or.inl ((beq_iff_eq.mp hb).trans hid.symm))

theorem processRow_unsigned {inp : InboxInput} {row : Inbox} (h : row.signatureOk = false) :
    processRow env db inp row = ⟨markInbox db row.id .ignored, [], false⟩ := by
  simp [processRow, h]

/-- The task of a row treats the rest of both databases alike. -/
theorem AlikeBut.processRow {base full : Db} (h : AlikeBut extra base full) (inp : InboxInput)
    (row : Inbox) :
    AlikeBut extra (processRow env base inp row).db (processRow env full inp row).db := by
  have htx : ∀ payload, inboxTransaction env full inp row payload =
      (inboxTransaction env base inp row payload).withInbox full.inbox := by
    intro payload
    rw [← inboxTransaction_withInbox, ← h.rest]
  unfold WaService.processRow
  split
  · cases decodePayload env row.payload with
    | error e => exact h
    | ok payload =>
      simp only [htx]
      cases hbase : inboxTransaction env base inp row payload with
      | mk jobs outcome =>
        cases outcome with
        | error e =>
          cases e with
          | routing reason ignore => exact h.mark row.id .ignored
          | python e => exact h.mark row.id .failed
        | ok db' =>
          have hinbox : db'.inbox = base.inbox := inboxTransaction_inbox hbase
          have hafter : AlikeBut extra db' (db'.withInbox full.inbox) :=
            ⟨rfl, by rw [hinbox]; exact h.inbox⟩
          exact hafter.mark row.id .done
  · exact h.mark row.id .ignored

/-- The task of a row that no extra request stored. -/
theorem AlikeBut.process {base full : Db} (h : AlikeBut extra base full) {inboxId : Nat}
    (he : extra inboxId = false) (inp : InboxInput) :
    AlikeBut extra (processInboxRow env base inp inboxId).db
      (processInboxRow env full inp inboxId).db := by
  unfold processInboxRow
  cases hfull : inboxRow full inboxId with
  | some row =>
    obtain ⟨hmem, hid⟩ := inboxRow_eq_some.mp hfull
    have hrow : row ∈ base.inbox.rows := h.inbox.shared row hmem (by rwa [hid])
    rw [inboxRow_eq_some.mpr ⟨hrow, hid⟩]
    exact h.processRow inp row
  | none =>
    cases hbase : inboxRow base inboxId with
    | none => exact h
    | some row =>
      -- The second run has dropped the row, so it is unsigned and is only marked.
      obtain ⟨hmem, hid⟩ := inboxRow_eq_some.mp hbase
      have hunsigned : row.signatureOk = false := by
        by_contra hs
        have hin : row ∈ full.inbox.rows := h.inbox.signed row hmem (by simpa using hs)
        rw [inboxRow_eq_some.mpr ⟨hin, hid⟩] at hfull
        contradiction
      have hmark : AlikeBut extra (markInbox base inboxId .ignored)
          (markInbox full inboxId .ignored) :=
        h.mark inboxId .ignored
      rw [markInbox_absent hfull] at hmark
      simpa only [processRow_unsigned hunsigned, hid] using hmark

/-- The task of a row that an extra request stored, in the second run alone. -/
theorem AlikeBut.process_extra {base full : Db} (h : AlikeBut extra base full) {inboxId : Nat}
    (he : extra inboxId = true) (inp : InboxInput) :
    AlikeBut extra base (processInboxRow env full inp inboxId).db := by
  unfold processInboxRow
  cases hfull : inboxRow full inboxId with
  | none => exact h
  | some row =>
    obtain ⟨hmem, hid⟩ := inboxRow_eq_some.mp hfull
    have hunsigned : row.signatureOk = false := h.inbox.unsigned row hmem (by rwa [hid])
    have habsent : inboxRow base inboxId = none := by
      by_contra hne
      obtain ⟨a, ha⟩ := Option.ne_none_iff_exists'.mp hne
      obtain ⟨hmem, hid⟩ := inboxRow_eq_some.mp ha
      have hother := h.inbox.without a hmem
      rw [hid, he] at hother
      contradiction
    have hmark : AlikeBut extra (markInbox base inboxId .ignored)
        (markInbox full inboxId .ignored) :=
      h.mark inboxId .ignored
    rw [markInbox_absent habsent] at hmark
    simpa only [processRow_unsigned hunsigned, hid] using hmark

/-- A row of another request arrives in both runs. A signed one is stored in both or in
neither when no extra row holds its wamid. -/
theorem AlikeBut.arrive {base full : Db} (h : AlikeBut extra base full) {r : Inbox}
    (he : extra r.id = false) (hbase : ∀ a ∈ base.inbox.rows, a.id ≠ r.id)
    (hfull : ∀ a ∈ full.inbox.rows, a.id ≠ r.id)
    (hfree : r.signatureOk = true → ∀ a ∈ full.inbox.rows, extra a.id = true →
      sameKey a.wamid r.wamid = false) :
    AlikeBut extra (storeArrival base r) (storeArrival full r) := by
  have hrest : ∀ inbox, full.withInbox inbox = base.withInbox inbox := by
    intro inbox
    rw [h.rest]
    rfl
  unfold storeArrival
  cases hins : full.inbox.insert? r with
  | some full' =>
    obtain ⟨base', hb, hafter⟩ := h.inbox.insert_both hins he hbase
    rw [hb]
    exact ⟨hrest full', hafter⟩
  | none =>
    obtain ⟨a, ha, hc⟩ := Table.insert?_eq_none.mp hins
    obtain ⟨wamid, haw, hrw⟩ := (Inbox.clash_iff.mp hc).resolve_left (hfull a ha)
    cases hb : base.inbox.insert? r with
    | none => exact h
    | some base' =>
      have hunsigned : r.signatureOk = false := by
        by_contra hs
        have hsigned : r.signatureOk = true := by simpa using hs
        -- The row that holds the wamid in the second run is there in the first one too.
        have hother : extra a.id = false := by
          by_contra hextra
          have hkey := hfree hsigned a ha (by simpa using hextra)
          rw [haw, hrw] at hkey
          simp [sameKey] at hkey
        have hnone : base.inbox.insert? r = none :=
          Table.insert?_eq_none.mpr ⟨a, h.inbox.shared a ha hother, hc⟩
        rw [hnone] at hb
        contradiction
      refine ⟨h.rest, h.inbox.insert_base hb he hunsigned fun w hw => ⟨a, ha, ?_⟩⟩
      rw [haw, ← hrw]
      exact hw

/-- A row of an extra request arrives in the second run alone. -/
theorem AlikeBut.arrive_extra {base full : Db} (h : AlikeBut extra base full) {r : Inbox}
    (he : extra r.id = true) (hr : r.signatureOk = false) :
    AlikeBut extra base (storeArrival full r) := by
  unfold storeArrival
  cases hins : full.inbox.insert? r with
  | none => exact h
  | some full' =>
    refine ⟨?_, h.inbox.insert_extra hins he hr⟩
    rw [h.rest]
    rfl

theorem arrivalOf_signature {newId : Nat} {rawBody : List UInt8} {hubSignature : Option String}
    (h : arrivalOf env newId rawBody hubSignature = some r) :
    r.id = newId ∧ verifySignature env rawBody hubSignature = .ok r.signatureOk := by
  unfold arrivalOf at h
  cases hs : verifySignature env rawBody hubSignature with
  | error e =>
    rw [hs] at h
    contradiction
  | ok signatureOk =>
    rw [hs] at h
    simp only [Option.bind_eq_bind, Except.toOption, Option.bind_eq_some_iff] at h
    obtain ⟨_, hok, payload, -, wamid, -, number, -, wamidText, -, numberText, -, h⟩ := h
    cases hok
    split at h
    · cases h
      exact ⟨rfl, rfl⟩
    · contradiction

/-- A request has an unused id and leaves its arrival. -/
theorem intakeStep_request {newId : Nat} {rawBody : List UInt8} {hubSignature : Option String}
    (h : intakeStep env db (.request newId rawBody hubSignature) = some db') :
    (∀ a ∈ db.inbox.rows, a.id ≠ newId) ∧
      db' = ((arrivalOf env newId rawBody hubSignature).map (storeArrival db)).getD db := by
  simp only [intakeStep] at h
  split at h
  · contradiction
  · rename_i hunused
    cases h
    exact ⟨by simpa using hunused, receiveWebhook_db newId rawBody hubSignature true⟩

/-- A correctly signed request does not find its wamid held by a row of an extra request. -/
def Unblocked (env : Env) (extra : Nat → Bool) (db : Db) : IntakeAction → Prop
  | .request newId rawBody hubSignature =>
    ∀ r ∈ arrivalOf env newId rawBody hubSignature, r.signatureOk = true →
      ∀ a ∈ db.inbox.rows, extra a.id = true → sameKey a.wamid r.wamid = false
  | .process _ _ => True

instance (env : Env) (extra : Nat → Bool) (db : Db) (a : IntakeAction) :
    Decidable (Unblocked env extra db a) := by
  cases a with
  | request newId rawBody hubSignature => unfold Unblocked; infer_instance
  | process inboxId inp => exact .isTrue trivial

/-- A request with an invalid signature; the task of its row is no request. -/
def Forged (env : Env) : IntakeAction → Prop
  | .request _ rawBody hubSignature => verifySignature env rawBody hubSignature ≠ .ok true
  | .process _ _ => True

instance (env : Env) (a : IntakeAction) : Decidable (Forged env a) := by
  cases a with
  | request newId rawBody hubSignature => unfold Forged; infer_instance
  | process inboxId inp => exact .isTrue trivial

variable {a : IntakeAction} {as : List IntakeAction}

/-- A step of both runs. -/
theorem AlikeBut.step {base full base' full' : Db} (h : AlikeBut extra base full)
    (hbase : intakeStep env base a = some base') (hfull : intakeStep env full a = some full')
    (he : extra a.inboxId = false) (hfree : Unblocked env extra full a) :
    AlikeBut extra base' full' := by
  cases a with
  | process inboxId inp =>
    cases hbase
    cases hfull
    exact h.process he inp
  | request newId rawBody hubSignature =>
    obtain ⟨hnewBase, rfl⟩ := intakeStep_request hbase
    obtain ⟨hnewFull, rfl⟩ := intakeStep_request hfull
    cases harr : arrivalOf env newId rawBody hubSignature with
    | none => exact h
    | some r =>
      obtain ⟨rfl, -⟩ := arrivalOf_signature harr
      exact h.arrive he hnewBase hnewFull (hfree r harr)

/-- An extra request, or the task of its row, in the second run alone. -/
theorem AlikeBut.step_extra {base full full' : Db} (h : AlikeBut extra base full)
    (hfull : intakeStep env full a = some full') (he : extra a.inboxId = true)
    (hforged : Forged env a) : AlikeBut extra base full' := by
  cases a with
  | process inboxId inp =>
    cases hfull
    exact h.process_extra he inp
  | request newId rawBody hubSignature =>
    obtain ⟨-, rfl⟩ := intakeStep_request hfull
    cases harr : arrivalOf env newId rawBody hubSignature with
    | none => exact h
    | some r =>
      obtain ⟨rfl, hsignature⟩ := arrivalOf_signature harr
      have hunsigned : r.signatureOk = false := by
        by_contra hs
        have htrue : r.signatureOk = true := by simpa using hs
        exact hforged (by rw [hsignature, htrue])
      exact h.arrive_extra he hunsigned

/-- The steps without the extra requests and the tasks of their rows. -/
def withoutExtra (extra : Nat → Bool) (as : List IntakeAction) : List IntakeAction :=
  as.filter fun a => !extra a.inboxId

theorem AlikeBut.run {base full base' full' : Db} (h : AlikeBut extra base full)
    (hbase : run (intakeStep env) base (withoutExtra extra as) = some base')
    (hfull : run (intakeStep env) full as = some full')
    (hforged : ∀ a ∈ as, extra a.inboxId = true → Forged env a)
    (hfree : Meets (intakeStep env) (Unblocked env extra) full as) :
    AlikeBut extra base' full' := by
  induction as generalizing base full with
  | nil =>
    cases hbase
    cases hfull
    exact h
  | cons a as ih =>
    obtain ⟨mid, hone, hrest⟩ := run_cons.mp hfull
    have hforgedRest : ∀ b ∈ as, extra b.inboxId = true → Forged env b :=
      fun b hb => hforged b (List.mem_cons_of_mem a hb)
    by_cases he : extra a.inboxId = true
    · have hskip : withoutExtra extra (a :: as) = withoutExtra extra as :=
        List.filter_cons_of_neg (by simp [he])
      rw [hskip] at hbase
      have hmid : AlikeBut extra base mid :=
        h.step_extra hone he (hforged a List.mem_cons_self he)
      exact ih hmid hbase hrest hforgedRest (hfree.2 mid hone)
    · have hkeep : withoutExtra extra (a :: as) = a :: withoutExtra extra as :=
        List.filter_cons_of_pos (by simp [he])
      rw [hkeep] at hbase
      obtain ⟨baseMid, hbaseOne, hbaseRest⟩ := run_cons.mp hbase
      have hmid : AlikeBut extra baseMid mid :=
        h.step hbaseOne hone (by simpa using he) hfree.1
      exact ih hmid hbaseRest hrest hforgedRest (hfree.2 mid hone)

/-- In a run whose genuine requests are never blocked by an extra row, the sessions and
the files are those of the run without the extra requests. -/
theorem extra_requests_leave_no_trace (env : Env) (extra : Nat → Bool) {db base full : Db}
    {as : List IntakeAction} (hnew : ∀ r ∈ db.inbox.rows, extra r.id = false)
    (hforged : ∀ a ∈ as, extra a.inboxId = true → Forged env a)
    (hfull : run (intakeStep env) db as = some full)
    (hbase : run (intakeStep env) db (withoutExtra extra as) = some base)
    (hfree : Meets (intakeStep env) (Unblocked env extra) db as) :
    full.sessions = base.sessions ∧ full.files = base.files := by
  have hstart : AlikeBut extra db db := ⟨rfl, Alike.refl hnew⟩
  have hend : AlikeBut extra base full := hstart.run hbase hfull hforged hfree
  rw [hend.rest]
  exact ⟨rfl, rfl⟩

/-! ## A forged body before a genuine one -/

/-- A genuine body with one photo, a forged one with another wamid, and a forged one with
the wamid of the photo. -/
def forgedBodies : Env :=
  .ofRecording "secret"
    [([1], "a1", webhookBody [entryOf [photoChange ["w1"]]]),
      ([2], "a2", webhookBody [entryOf [photoChange ["w2"]]]),
      ([3], "a3", webhookBody [entryOf [photoChange ["w1"]]])]

/-- The ids of the forged requests below. -/
def forgedIds (inboxId : Nat) : Bool := inboxId < 10

/-- A forged request, then the genuine one, and the tasks of both. -/
def forgedFirst (rawBody : List UInt8) : List IntakeAction :=
  [.request 1 rawBody (some "sha256=00"), .request 10 [1] (some "sha256=a1"),
    .process 1 ⟨0, 7, fun n => BitVec.ofNat 128 (100 + n), fun _ => true⟩,
    .process 10 ⟨0, 8, fun n => BitVec.ofNat 128 (200 + n), fun _ => true⟩]

/-- The ids of the inbox rows, and the wamids of the files. -/
def stored (db : Db) : List Nat × List String :=
  (db.inbox.rows.map (·.id), db.files.rows.map (·.wamid))

/-- A forged body with a wamid of its own leaves no trace. -/
theorem extra_requests_leave_no_trace_otherWamid :
    ∃ full base, run (intakeStep forgedBodies) boundDb (forgedFirst [2]) = some full ∧
      run (intakeStep forgedBodies) boundDb (withoutExtra forgedIds (forgedFirst [2])) = some base ∧
      (full.sessions = base.sessions ∧ full.files = base.files) ∧
      stored full = ([1, 10], ["w1"]) ∧ stored base = ([10], ["w1"]) := by
  have hfull : (run (intakeStep forgedBodies) boundDb (forgedFirst [2])).map stored =
      some ([1, 10], ["w1"]) := by decide
  have hbase : (run (intakeStep forgedBodies) boundDb
      (withoutExtra forgedIds (forgedFirst [2]))).map stored = some ([10], ["w1"]) := by decide
  obtain ⟨full, hrunFull, hstoredFull⟩ := Option.map_eq_some_iff.mp hfull
  obtain ⟨base, hrunBase, hstoredBase⟩ := Option.map_eq_some_iff.mp hbase
  exact ⟨full, base, hrunFull, hrunBase,
    extra_requests_leave_no_trace forgedBodies forgedIds (by decide) (by decide) hrunFull hrunBase
      (by decide), hstoredFull, hstoredBase⟩

/-- A forged body with the wamid of the photo keeps the photo off file. -/
theorem forged_wamid_blocks :
    (∀ a ∈ forgedFirst [3], forgedIds a.inboxId = true → Forged forgedBodies a) ∧
      ∃ full base, run (intakeStep forgedBodies) boundDb (forgedFirst [3]) = some full ∧
        run (intakeStep forgedBodies) boundDb (withoutExtra forgedIds (forgedFirst [3])) =
          some base ∧
        full.files ≠ base.files := by
  have hfull : (run (intakeStep forgedBodies) boundDb (forgedFirst [3])).map stored =
      some ([1], []) := by decide
  have hbase : (run (intakeStep forgedBodies) boundDb
      (withoutExtra forgedIds (forgedFirst [3]))).map stored = some ([10], ["w1"]) := by decide
  obtain ⟨full, hrunFull, hstoredFull⟩ := Option.map_eq_some_iff.mp hfull
  obtain ⟨base, hrunBase, hstoredBase⟩ := Option.map_eq_some_iff.mp hbase
  refine ⟨by decide, full, base, hrunFull, hrunBase, fun hsame => ?_⟩
  have hwamids : (stored full).2 = (stored base).2 := by
    unfold stored
    rw [hsame]
  rw [hstoredFull, hstoredBase] at hwamids
  contradiction

end WaService
