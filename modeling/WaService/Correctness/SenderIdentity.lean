import WaService.Correctness.Ingestion
import WaService.Wa.Payload

/-!
# Files and their senders

The inbox task resolves one identity for a payload, from the first entry of its
contacts list, and files every message of the first change under it. The files of a
payload belong to the senders of their messages exactly when every message that gets
a file was sent by that first contact.
-/

namespace WaService

open Python Relational

/-- The phone of a message's own sender: a plus and its `from`. -/
def ownPhone (msg : Json) : Option String :=
  match msg.get "from" .null with
  | .ok (.str waId) => some ("+" ++ waId)
  | _ => none

/-- The messages of the payload of an inbox row. -/
def rowMessages (env : Env) (db : Db) (inboxId : Nat) : List Json :=
  match rowPayload env db inboxId with
  | none => []
  | some payload =>
    match inboundMessages payload with
    | .error _ => []
    | .ok msgs => msgs

/-- Every file that is new in `db'` belongs to a session of the contact that has the phone
of the sender of the file's message. -/
def FiledUnderSender (env : Env) (db db' : Db) (msgs : List Json) : Prop :=
  ∀ f ∈ db'.files.rows, (fileOfWamid db f.wamid).isNone = true →
    ∀ msg ∈ messageOf env msgs f.wamid, ∃ s ∈ db'.sessions.rows, s.id = f.sessionId ∧
      ∃ c ∈ db'.contacts.rows, c.id = s.contactId ∧ ownPhone msg = some c.phoneE164

instance (env : Env) (db db' : Db) (msgs : List Json) :
    Decidable (FiledUnderSender env db db' msgs) :=
  inferInstanceAs (Decidable (∀ f ∈ db'.files.rows, (fileOfWamid db f.wamid).isNone = true →
    ∀ msg ∈ messageOf env msgs f.wamid, ∃ s ∈ db'.sessions.rows, s.id = f.sessionId ∧
      ∃ c ∈ db'.contacts.rows, c.id = s.contactId ∧ ownPhone msg = some c.phoneE164))

/-- When the row ingests media, each of their messages was sent by the first contact of the
payload. -/
def SentByFirstContact (env : Env) (db : Db) (inboxId : Nat) : Prop :=
  ∀ payload contactId media, Ingests env db inboxId payload contactId media →
    ∀ p ∈ media, ∃ phone, extractSenderPhone payload = .ok (some phone) ∧ ownPhone p.1 = some phone

variable {env : Env} {db : Db} {inboxId : Nat} {payload : Json} {contactId : UUID}
  {media : List (Json × String)}

/-- The media of a row are new, and each entry is the message its file is registered for. -/
theorem Ingests.media_ok (h : Ingests env db inboxId payload contactId media) :
    ∀ p ∈ media, fileOfWamid db p.2 = none ∧
      messageOf env (rowMessages env db inboxId) p.2 = some p.1 := by
  obtain ⟨⟨row, hrow, -, hpayload, -⟩, hmedia⟩ := h
  obtain ⟨msgs, hmsgs, hnew⟩ := bind_eq_ok.mp hmedia
  have hsame : rowMessages env db inboxId = msgs := by
    have hrowpayload : rowPayload env db inboxId = some payload := rowPayload_eq hrow hpayload
    simp only [rowMessages, hrowpayload, hmsgs]
  intro p hp
  obtain ⟨hfresh, hof⟩ := (newMedia_ok hnew).1 p hp
  rw [hsame]
  exact ⟨fileOfWamid_eq_none.mpr hfresh, hof⟩

/-- The contact behind a row that ingests media has the phone of the payload's first contact. -/
theorem Ingests.contact (h : Ingests env db inboxId payload contactId media) :
    ∃ c ∈ db.contacts.rows, c.id = contactId ∧
      extractSenderPhone payload = .ok (some c.phoneE164) := by
  obtain ⟨⟨row, -, -, -, ctx, hctx, rfl⟩, -⟩ := h
  obtain ⟨c, hc, hid, -, -, hphone⟩ := (resolveFullContext_identifies hctx).contact
  exact ⟨c, hc, hid, hphone⟩

/-- The files of a payload belong to the senders of their messages exactly when each message
that gets a file was sent by the first contact of the payload. -/
theorem filed_under_sender_iff (env : Env) {inp : InboxInput}
    (hfresh : inp.FreshFor env db inboxId) :
    FiledUnderSender env db (processInboxRow env db inp inboxId).db
      (rowMessages env db inboxId) ↔ SentByFirstContact env db inboxId := by
  constructor
  · intro h payload contactId media hing p hp
    obtain ⟨s, hs, hcontact, hcontacts, files, hrows, hall⟩ := processInboxRow_ingests hfresh hing
    obtain ⟨f, hf, hwamid, hsession⟩ := exists_of_forall₂_left hall hp
    obtain ⟨hnone, hof⟩ := hing.media_ok p hp
    have hmem : f ∈ (processInboxRow env db inp inboxId).db.files.rows := by
      rw [hrows]
      exact List.mem_append_right _ hf
    obtain ⟨s', hs', hsid, c, hc, hcid, hphone⟩ :=
      h f hmem (by rw [hwamid, hnone]; rfl) p.1 (by rw [hwamid, hof]; rfl)
    -- The session is the one of the transaction, and its contact is the resolved one.
    have hsame : s' = s := session_eq_of_id hs' hs (hsid.trans hsession)
    obtain ⟨c₀, hc₀, hid₀, hsender⟩ := hing.contact
    rw [hcontacts] at hc
    have hc_eq : c = c₀ := contact_eq_of_id hc hc₀ (by rw [hcid, hsame, hcontact, hid₀])
    exact ⟨c₀.phoneE164, hsender, by rw [hphone, hc_eq]⟩
  · intro h f hf hnew msg hmsg
    have hnone : fileOfWamid db f.wamid = none := by simpa using hnew
    rcases processInboxRow_files hfresh with hsame | ⟨payload, contactId, media, hing⟩
    · -- No file is new.
      rw [hsame] at hf
      exact absurd (mem_fileWamids.mpr ⟨f, hf, rfl⟩) (fileOfWamid_eq_none.mp hnone)
    · obtain ⟨s, hs, hcontact, hcontacts, files, hrows, hall⟩ := processInboxRow_ingests hfresh hing
      rw [hrows, List.mem_append] at hf
      rcases hf with hf | hf
      · exact absurd (mem_fileWamids.mpr ⟨f, hf, rfl⟩) (fileOfWamid_eq_none.mp hnone)
      · obtain ⟨p, hp, hwamid, hsession⟩ := exists_of_forall₂_right hall hf
        obtain ⟨-, hof⟩ := hing.media_ok p hp
        rw [hwamid, hof] at hmsg
        cases hmsg
        obtain ⟨phone, hphone, hown⟩ := h payload contactId media hing p hp
        obtain ⟨c₀, hc₀, hid₀, hsender⟩ := hing.contact
        have hsame : phone = c₀.phoneE164 := by
          have heq := hphone.symm.trans hsender
          simpa using heq
        exact ⟨s, hs, hsession.symm, c₀, by rwa [hcontacts], by rw [hid₀, hcontact],
          by rw [hown, hsame]⟩

/-! ## A batch with two contacts -/

/-- A photo of the first consultant and a photo of the given sender, in one payload that
lists both consultants. -/
def batchPayload (sender : String) : Json :=
  webhookBody [entryOf [changeValue "PN1" ["919876543210", "919811111111"]
    [mediaMessage "wamid.1" "919876543210" "image" "media.1",
      mediaMessage "wamid.2" sender "image" "media.2"]]]

/-- Two active consultants of one tenant, and the signed payload. -/
def batchDb (sender : String) : Db :=
  { Db.empty with
    routes := .singleton ⟨1, 2, "PN1", "+91 99999 00000", true, some 9, 0⟩
    contacts := ((Table.singleton
      ⟨5, "+919876543210", 6, 2, some 3, .active, .en, none, none, 0⟩).insert?
        ⟨8, "+919811111111", 7, 2, some 3, .active, .en, none, none, 0⟩).getD .empty
    inbox := .singleton ⟨1, some "wamid.1", some "PN1", batchPayload sender, true, .pending⟩ }

/-- No body is needed: the payload is in the inbox. -/
def batchEnv : Env := .ofRecording "secret" []

/-- Generated ids that count up. -/
def batchInput : InboxInput := ⟨0, 7, fun n => 100 + BitVec.ofNat 128 n, fun _ => true⟩

/-- Both photos of the first consultant are filed under that consultant. -/
theorem filed_under_sender_iff_oneSender :
    FiledUnderSender batchEnv (batchDb "919876543210")
        (processInboxRow batchEnv (batchDb "919876543210") batchInput 1).db
        (rowMessages batchEnv (batchDb "919876543210") 1) ∧
      SentByFirstContact batchEnv (batchDb "919876543210") 1 := by
  have hfiled : FiledUnderSender batchEnv (batchDb "919876543210")
      (processInboxRow batchEnv (batchDb "919876543210") batchInput 1).db
      (rowMessages batchEnv (batchDb "919876543210") 1) := by decide
  refine ⟨hfiled, (filed_under_sender_iff batchEnv ?_).mp hfiled⟩
  intro payload hpayload
  have hsame : payload = batchPayload "919876543210" := (Option.some.inj hpayload).symm
  subst hsame
  refine ⟨fun s hs => absurd hs List.not_mem_nil, ⟨?_, ?_⟩, fun _ _ => rfl⟩
  · exact fun n _ _ f hf => absurd hf List.not_mem_nil
  · have hdistinct : ∀ n < 2, ∀ m < 2, batchInput.fileIds n = batchInput.fileIds m → n = m := by
      decide
    exact fun n m hn hm => hdistinct n hn m hm

/-- A photo of the second consultant is filed under the first one. -/
theorem second_sender_misfiled :
    ¬ FiledUnderSender batchEnv (batchDb "919811111111")
      (processInboxRow batchEnv (batchDb "919811111111") batchInput 1).db
      (rowMessages batchEnv (batchDb "919811111111") 1) := by decide

end WaService
