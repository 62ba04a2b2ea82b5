import WaService.Core.Run
import WaService.Correctness.Ingestion
import WaService.System.Intake
import WaService.Wa.Payload

/-!
# Media messages of delivered bodies

A body is dropped when the wamid of its first message is known, and of a stored body
only the first change of the first entry is read. Every media message of every
delivered body has a file exactly as long as each delivery finds the other media
messages of its body already on file.
-/

namespace WaService

open Python Relational Transition

/-! ## The messages of a body -/

/-- The items of an array, or none. -/
def itemsOf : Json → List Json
  | .arr items => items
  | _ => []

/-- Every message at any `entry[i].changes[j].value.messages[k]`. -/
def allMessages (payload : Json) : List Json :=
  (itemsOf (fieldOf payload "entry")).flatMap fun entry =>
    (itemsOf (fieldOf entry "changes")).flatMap fun change =>
      itemsOf (fieldOf (fieldOf change "value") "messages")

variable {env : Env} {db db' : Db}

/-! ## Filing -/

/-- Files stay on file. -/
theorem fileWamids_subset {A : Arrival → Prop} {O : UUID → UUID → Prop} (h : db.Evolves A O db')
    {wamid : String} (hw : wamid ∈ fileWamids db) : wamid ∈ fileWamids db' := by
  obtain ⟨f, hf, hfw⟩ := mem_fileWamids.mp hw
  obtain ⟨g, hg, hk⟩ := h.files.kept f hf
  have hsame : g.wamid = f.wamid := congrArg (fun k => k.2.2.2) hk
  exact mem_fileWamids.mpr ⟨g, hg, hsame.trans hfw⟩

theorem registerFile_mem {newId tenantId sessionId fileId : UUID} {seq : Int} {m : MediaMessage}
    {wamid : String} (hm : m.wamid = .str wamid)
    (h : registerFile env db newId tenantId sessionId seq m = .ok (fileId, db')) :
    wamid ∈ fileWamids db' := by
  obtain ⟨f, hf, hcase⟩ := registerFile_ok h
  have hfw : f.wamid = wamid := newFile_wamid hm hf
  rcases hcase with ⟨old, hold, -, rfl⟩ | ⟨-, files, hins, -, rfl⟩
  · by_contra hnot
    rw [fileOfWamid_eq_none.mpr (by rwa [hfw])] at hold
    contradiction
  · exact mem_fileWamids.mpr ⟨f, (Table.mem_of_insert? hins).mpr (Or.inr rfl), hfw⟩

theorem processMessage_carried {i : LoopInput} {st st' : LoopState} {msg : Json} {wamid : String}
    (hw : carriedWamid msg = some wamid) (h : processMessage env i st msg = (st', none)) :
    wamid ∈ fileWamids st'.db := by
  unfold processMessage at h
  split at h
  · cases h
  · rename_i hparse
    obtain ⟨m, hm, -⟩ := parseMedia_carried hparse hw
    cases hm
  · rename_i m' hparse
    obtain ⟨m, hm, hwamid⟩ := parseMedia_carried hparse hw
    cases hm
    split at h
    · cases h
    · rename_i fileId db₁ hreg
      have hmem : wamid ∈ fileWamids db₁ := registerFile_mem hwamid hreg
      split at h
      · cases h
        exact hmem
      · cases h

/-- A loop that ends without an error has filed every media message. -/
theorem processEach_carried {i : LoopInput} {st st' : LoopState} {msgs : List Json}
    (hs : ∃ s ∈ st.db.sessions.rows, s.id = i.sessionId)
    (h : processEach env i st msgs = (st', none)) :
    ∀ msg ∈ msgs, ∀ wamid ∈ carriedWamid msg, wamid ∈ fileWamids st'.db := by
  induction msgs generalizing st with
  | nil => exact fun msg hmsg => absurd hmsg List.not_mem_nil
  | cons first rest ih =>
    unfold processEach at h
    split at h
    · rename_i st₁ hone
      have hfirst : st.db.Evolves (fun _ => False) (fun _ _ => False) st₁.db := by
        have hsingle : processEach env i st [first] = (st₁, none) := by
          simp only [processEach, hone]
        exact processEach_evolves hsingle hs
      obtain ⟨s, hmem, hid⟩ := hs
      obtain ⟨s', hs', hf⟩ := hfirst.sessions.kept s hmem
      have hs₁ : ∃ s ∈ st₁.db.sessions.rows, s.id = i.sessionId := ⟨s', hs', hf.id.trans hid⟩
      intro msg hmsg wamid hw
      rcases List.mem_cons.mp hmsg with rfl | hmsg
      · have hlater : st₁.db.Evolves (fun _ => False) (fun _ _ => False) st'.db :=
          processEach_evolves h hs₁
        exact fileWamids_subset hlater (processMessage_carried hw hone)
      · exact ih hs₁ h msg hmsg wamid hw
    · cases h

/-- A committed transaction has filed every media message of the first change. -/
theorem inboxTransaction_carried {inp : InboxInput} {row : Inbox} {payload : Json}
    {jobs : List Job} {msgs : List Json} (hmsgs : inboundMessages payload = .ok msgs)
    (h : inboxTransaction env db inp row payload = ⟨jobs, .ok db'⟩) :
    ∀ msg ∈ msgs, ∀ wamid ∈ carriedWamid msg, wamid ∈ fileWamids db' := by
  obtain ⟨ctx, s, opened, -, hget, hrun⟩ := inboxTransaction_inv h
  obtain ⟨hmem, -⟩ := getOrCreateSession_ok hget
  obtain ⟨found, hfound, hmsgs⟩ := bind_eq_ok.mp hmsgs
  obtain ⟨hnone, -⟩ | ⟨messages, msgs', st, hsome, hiter, hloop, rfl⟩ := processMessages_inv hrun
  · cases hfound.symm.trans hnone
    cases hmsgs
    exact fun msg hmsg => absurd hmsg List.not_mem_nil
  · cases hfound.symm.trans hsome
    cases hmsgs.symm.trans hiter
    exact processEach_carried ⟨s, hmem, rfl⟩ hloop

theorem inboxState_markInbox (inboxId : Nat) (state : InboxState) :
    inboxState (markInbox db inboxId state) inboxId =
      (inboxState db inboxId).map fun _ => state := by
  unfold inboxState markInbox
  rw [inboxRow_update]
  cases hr : inboxRow db inboxId with
  | none => rfl
  | some r =>
    have hid : (r.id == inboxId) = true := by simpa using List.find?_some hr
    simp only [Option.map_some, patch, hid, if_true]

/-- A pending row that ends up done was committed. -/
theorem processInboxRow_done {inp : InboxInput} {inboxId : Nat}
    (hpending : inboxState db inboxId = some .pending)
    (h : inboxState (processInboxRow env db inp inboxId).db inboxId = some .done) :
    ∃ row payload jobs db', inboxRow db inboxId = some row ∧
      decodePayload env row.payload = .ok payload ∧
      inboxTransaction env db inp row payload = ⟨jobs, .ok db'⟩ ∧
      (processInboxRow env db inp inboxId).db = markInbox db' inboxId .done := by
  -- Every other outcome leaves the row pending, ignored or failed.
  have hmark : ∀ state, inboxState (markInbox db inboxId state) inboxId = some .done →
      state = .done := by
    intro state hs
    rw [inboxState_markInbox, hpending] at hs
    simpa using hs
  unfold processInboxRow at h ⊢
  split at h
  · rw [hpending] at h
    cases h
  · rename_i row hrow
    have hid : row.id = inboxId := by simpa using List.find?_some hrow
    simp only [hrow]
    unfold processRow at h ⊢
    rw [hid] at h ⊢
    split at h
    · rename_i hsigned
      split at h
      · rw [hpending] at h
        cases h
      · rename_i payload hpayload
        split at h
        · rename_i jobs db' htx
          refine ⟨row, payload, jobs, db', rfl, hpayload, htx, ?_⟩
          simp only [hsigned, if_true]
        · cases hmark _ h
        · cases hmark _ h
    · cases hmark _ h

/-! ## Deliveries -/

/-- The media messages of the first change of the first entry. -/
def firstMessages (payload : Json) : List Json :=
  match inboundMessages payload with
  | .ok msgs => msgs
  | .error _ => []

/-- The inbox does not hold the wamid of the first message. -/
def isNewBody (db : Db) (payload : Json) : Bool :=
  match extractWamid payload with
  | .error _ => false
  | .ok wamid =>
    match inboxHolds db wamid with
    | .ok false => true
    | _ => false

/-- Each media message of the body is on file already, or the body is new and a message of
its first change carries the same wamid. -/
def Covered (env : Env) (db : Db) (d : Delivery) : Prop :=
  ∀ payload ∈ env.jsonLoads d.rawBody, ∀ msg ∈ allMessages payload,
    ∀ wamid ∈ carriedWamid msg, wamid ∈ fileWamids db ∨
      (isNewBody db payload = true ∧ ∃ m ∈ firstMessages payload, carriedWamid m = some wamid)

instance (env : Env) (db : Db) (d : Delivery) : Decidable (Covered env db d) :=
  inferInstanceAs (Decidable (∀ payload ∈ env.jsonLoads d.rawBody, ∀ msg ∈ allMessages payload,
    ∀ wamid ∈ carriedWamid msg, wamid ∈ fileWamids db ∨
      (isNewBody db payload = true ∧ ∃ m ∈ firstMessages payload, carriedWamid m = some wamid)))

/-- Every media message of the delivered bodies is on file. -/
def OnFile (env : Env) (ds : List Delivery) (db : Db) : Prop :=
  ∀ d ∈ ds, ∀ payload ∈ env.jsonLoads d.rawBody, ∀ msg ∈ allMessages payload,
    ∀ wamid ∈ carriedWamid msg, wamid ∈ fileWamids db

instance (env : Env) (ds : List Delivery) (db : Db) : Decidable (OnFile env ds db) :=
  inferInstanceAs (Decidable (∀ d ∈ ds, ∀ payload ∈ env.jsonLoads d.rawBody,
    ∀ msg ∈ allMessages payload, ∀ wamid ∈ carriedWamid msg, wamid ∈ fileWamids db))

variable {d : Delivery} {ds : List Delivery}

/-- The inserted row is the row with its id. -/
theorem inboxRow_insert {r : Inbox} {inbox : Table Inbox} (h : db.inbox.insert? r = some inbox) :
    inboxRow { db with inbox := inbox } r.id = some r := by
  refine Table.find?_eq_some_of_mem ((Table.mem_of_insert? h).mpr (Or.inr rfl)) (by simp) ?_
  intro b hb
  simp only [clash, sameKey, Bool.or_eq_true, beq_iff_eq] at hb ⊢
  exact Or.inl hb

/-- A delivery of a known body changes nothing; of a new body, it commits the transaction
of its row. -/
theorem deliver_cases (h : deliver env db d = some db') :
    (db' = db ∧ ∀ payload ∈ env.jsonLoads d.rawBody, isNewBody db payload = false) ∨
      ∃ payload row jobs db₁ db₂, env.jsonLoads d.rawBody = some payload ∧ db₁.files = db.files ∧
        inboxTransaction env db₁ d.inp row payload = ⟨jobs, .ok db₂⟩ ∧
        db' = markInbox db₂ d.newId .done := by
  unfold deliver at h
  simp only at h
  split at h
  · rename_i hok
    obtain ⟨hsignature, hanswered⟩ := hok
    unfold receiveWebhook at h hanswered
    simp only [hsignature] at h hanswered
    cases hins : insertInbox env db d.newId d.rawBody true with
    | error e =>
      rw [hins] at hanswered
      contradiction
    | ok stored =>
      obtain ⟨id, db₁⟩ := stored
      rw [hins] at h
      rcases insertInbox_ok hins with ⟨rfl, rfl⟩ | ⟨rfl, payload, wamid, number, hload, hwamid,
        hnumber, hholds, hwrite⟩
      · cases h
        refine Or.inl ⟨rfl, fun payload hload => ?_⟩
        -- No row was stored, although the body is JSON: its wamid is known.
        unfold insertInbox at hins
        rw [Option.mem_def.mp hload] at hins
        obtain ⟨wamid, hwamid, hins⟩ := bind_eq_ok.mp hins
        obtain ⟨number, -, hins⟩ := bind_eq_ok.mp hins
        obtain ⟨known, hknown, hins⟩ := bind_eq_ok.mp hins
        cases known with
        | true => simp only [isNewBody, hwamid, hknown]
        | false =>
          obtain ⟨_, -, hins⟩ := bind_eq_ok.mp hins
          cases hins
      · simp only [if_true] at h
        split at h
        · rename_i hdone
          cases h
          obtain ⟨w, n, inbox, -, -, hinsert, rfl⟩ := writeInbox_ok hwrite
          have hrow := inboxRow_insert hinsert
          have hpending : inboxState { db with inbox := inbox } d.newId = some .pending := by
            simp only [inboxState, hrow, Option.map_some]
          obtain ⟨row, decoded, jobs, db₂, hfound, hdecoded, htx, hfinal⟩ :=
            processInboxRow_done hpending hdone
          cases hrow.symm.trans hfound
          have hsame : decoded = payload := decodePayload_of_number hdecoded hnumber
          rw [hsame] at htx
          exact Or.inr ⟨payload, _, jobs, { db with inbox := inbox }, db₂, hload, rfl, htx, hfinal⟩
        · contradiction
  · contradiction

/-- A delivery takes no file away. -/
theorem deliver_subset (h : deliver env db d = some db') {wamid : String}
    (hw : wamid ∈ fileWamids db) : wamid ∈ fileWamids db' := by
  rcases deliver_cases h with ⟨rfl, -⟩ | ⟨payload, row, jobs, db₁, db₂, -, hfiles, htx, rfl⟩
  · exact hw
  · have hw₁ : wamid ∈ fileWamids db₁ := by rwa [fileWamids, hfiles]
    have heff : db₁.Evolves (fun _ => False) (Identifies db₁ row.phoneNumberId payload) db₂ :=
      inboxTransaction_evolves htx
    exact fileWamids_subset heff hw₁

/-- A covered delivery leaves every media message of its body on file. -/
theorem deliver_onFile (h : deliver env db d = some db') (hc : Covered env db d) :
    ∀ payload ∈ env.jsonLoads d.rawBody, ∀ msg ∈ allMessages payload,
      ∀ wamid ∈ carriedWamid msg, wamid ∈ fileWamids db' := by
  intro payload hload msg hmsg wamid hwamid
  rcases hc payload hload msg hmsg wamid hwamid with hold | ⟨hnew, m, hm, hcarried⟩
  · exact deliver_subset h hold
  · rcases deliver_cases h with ⟨-, hknown⟩ | ⟨payload', row, jobs, db₁, db₂, hload', -, htx, rfl⟩
    · rw [hknown payload hload] at hnew
      contradiction
    · have hsame : payload' = payload := Option.some.inj (hload'.symm.trans hload)
      subst hsame
      unfold firstMessages at hm
      cases hmsgs : inboundMessages payload' with
      | error e =>
        rw [hmsgs] at hm
        exact absurd hm List.not_mem_nil
      | ok msgs =>
        rw [hmsgs] at hm
        exact inboxTransaction_carried hmsgs htx m hm wamid hcarried

/-- In every run whose deliveries are covered, every media message of every delivered body
is on file. -/
theorem deliveries_on_file (env : Env) {db db' : Db} {ds : List Delivery}
    (h : run (deliver env) db ds = some db') (hc : Meets (deliver env) (Covered env) db ds) :
    OnFile env ds db' := by
  induction ds generalizing db with
  | nil => exact fun d hd => absurd hd List.not_mem_nil
  | cons first rest ih =>
    obtain ⟨db₁, hone, hrest⟩ := run_cons.mp h
    intro d hd payload hload msg hmsg wamid hwamid
    rcases List.mem_cons.mp hd with rfl | hd
    · have hmem : wamid ∈ fileWamids db₁ :=
        deliver_onFile hone hc.1 payload hload msg hmsg wamid hwamid
      exact run_preserves (fun db => wamid ∈ fileWamids db)
        (fun _ _ _ hw ha => deliver_subset ha hw)
        hrest hmem
    · exact ih hrest (hc.2 db₁ hone) d hd payload hload msg hmsg wamid hwamid

/-! ## Bodies of one consultant -/

/-- Three signed bodies: one photo, the same photo with another one, and two changes. -/
def photoBodies : Env :=
  .ofRecording "secret"
    [([1], "a1", webhookBody [entryOf [photoChange ["w1"]]]),
      ([2], "a2", webhookBody [entryOf [photoChange ["w1", "w2"]]]),
      ([3], "a3", webhookBody [entryOf [photoChange ["w3"], photoChange ["w4"]]]),
      ([4], "a4", webhookBody [entryOf [photoChange ["w4", "w5"]]])]

/-- The delivery of one of the bodies. -/
def bodyDelivery (newId : Nat) (rawBody : List UInt8) (signature : String) : Delivery :=
  ⟨newId, rawBody, some signature,
    ⟨0, 7, fun n => BitVec.ofNat 128 (100 * newId + n), fun _ => true⟩⟩

/-- The same body twice, and then a body with other photos. -/
def repeatedBodies : List Delivery :=
  [bodyDelivery 1 [1] "sha256=a1", bodyDelivery 2 [1] "sha256=a1", bodyDelivery 3 [4] "sha256=a4"]

/-- A body that repeats the first photo of an earlier one and adds a photo. -/
def overlappingBodies : List Delivery :=
  [bodyDelivery 1 [1] "sha256=a1", bodyDelivery 2 [2] "sha256=a2"]

/-- A body with two changes. -/
def twoChanges : List Delivery := [bodyDelivery 1 [3] "sha256=a3"]

/-- A repeated body and a body with new photos only are covered. -/
theorem deliveries_on_file_repeated :
    ∃ db', run (deliver photoBodies) boundDb repeatedBodies = some db' ∧
      OnFile photoBodies repeatedBodies db' ∧ fileWamids db' = ["w1", "w4", "w5"] := by
  have hrun : (run (deliver photoBodies) boundDb repeatedBodies).map fileWamids =
      some ["w1", "w4", "w5"] := by decide
  obtain ⟨db', hdb', hfiles⟩ := Option.map_eq_some_iff.mp hrun
  exact ⟨db', hdb', deliveries_on_file photoBodies hdb' (by decide), hfiles⟩

/-- The second photo of an overlapping body is lost, and so is the photo of a second change. -/
theorem later_photos_lost :
    (∃ db', run (deliver photoBodies) boundDb overlappingBodies = some db' ∧
        ¬ OnFile photoBodies overlappingBodies db') ∧
      ∃ db', run (deliver photoBodies) boundDb twoChanges = some db' ∧
        ¬ OnFile photoBodies twoChanges db' := by
  have hoverlap : (run (deliver photoBodies) boundDb overlappingBodies).map
      (fun db' => decide (OnFile photoBodies overlappingBodies db')) = some false := by decide
  have hchanges : (run (deliver photoBodies) boundDb twoChanges).map
      (fun db' => decide (OnFile photoBodies twoChanges db')) = some false := by decide
  obtain ⟨db₁, hrun₁, hlost₁⟩ := Option.map_eq_some_iff.mp hoverlap
  obtain ⟨db₂, hrun₂, hlost₂⟩ := Option.map_eq_some_iff.mp hchanges
  exact ⟨⟨db₁, hrun₁, of_decide_eq_false hlost₁⟩, ⟨db₂, hrun₂, of_decide_eq_false hlost₂⟩⟩

end WaService
