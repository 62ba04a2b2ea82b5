import WaService.Core.Run
import WaService.Correctness.Evolution
import WaService.Wa.Payload

/-!
# Where sessions come from

Over a run of the whole service, every session is for a contact and a tenant that an
earlier inbox task identified from a validly signed payload, at a moment when the
payload's number was an active route of the tenant and the contact was bound to the
tenant, active and the sender. Files, deals, checklist items, review tasks and queued
messages all lead back to such a session.
-/

namespace WaService

open Python Relational Transition

/-- The states and steps that a run has passed. -/
abbrev Past := List (World × Action)

/-- An inbox row was received under a valid signature, and identifies an active route of
the tenant and an active contact of the tenant. -/
structure Accepts (env : Env) (past : Past) (db : Db) (row : Inbox) (tenantId contactId : UUID) :
    Prop where
  signed : ∃ e ∈ past, ∃ rawBody hubSignature dispatched,
    e.2 = .webhook row.id rawBody hubSignature dispatched ∧
      verifySignature env rawBody hubSignature = .ok true ∧
      env.jsonLoads rawBody = some row.payload
  route : ∃ r ∈ db.routes.rows, r.active = true ∧ r.tenantId = tenantId ∧
    ∃ number, extractPhoneNumberId row.payload = .ok number ∧
      sqlText env number = .ok (some r.phoneNumberId)
  contact : ∃ c ∈ db.contacts.rows, c.id = contactId ∧ c.tenantId = tenantId ∧
    c.status = .active ∧ extractSenderPhone row.payload = .ok (some c.phoneE164)

/-- A step of the past was an inbox task that handled an accepted row for the tenant and
the contact. -/
def Authorised (env : Env) (past : Past) (tenantId contactId : UUID) : Prop :=
  ∃ before w inboxId inp redelivered after row,
    past = before ++ (w, .execute (.processInboxRow inboxId inp) redelivered) :: after ∧
      inboxRow w.db inboxId = some row ∧ row.signatureOk = true ∧
      Accepts env before w.db row tenantId contactId

variable {env : Env} {past : Past} {w w' : World} {a : Action} {tenantId contactId : UUID}

/-- What happened stays in the past. -/
theorem Authorised.extend (h : Authorised env past tenantId contactId) (e : World × Action) :
    Authorised env (past ++ [e]) tenantId contactId := by
  obtain ⟨before, w, inboxId, inp, redelivered, after, row, rfl, hrow⟩ := h
  exact ⟨before, w, inboxId, inp, redelivered, after ++ [e], row, by simp, hrow⟩

/-! ## The invariant -/

/-- Every row of a state leads back to what a step of the past received or accepted. -/
structure Provenance (env : Env) (past : Past) (db : Db) : Prop where
  inbox : ∀ r ∈ db.inbox.rows, ∃ e ∈ past, e.2.Receives env r.arrival
  sessions : ∀ s ∈ db.sessions.rows, Authorised env past s.tenantId s.contactId
  files : ∀ f ∈ db.files.rows, ∃ s ∈ db.sessions.rows, s.id = f.sessionId
  deals : ∀ d ∈ db.deals.rows, ∃ s ∈ db.sessions.rows, d.OfSession s
  items : ∀ i ∈ db.checklistItems.rows, ∃ d ∈ db.deals.rows, d.id = i.dealId
  reviews : ∀ t ∈ db.reviewTasks.rows, ∃ s ∈ db.sessions.rows, t.OfSession s
  outbox : ∀ o ∈ db.outbox.rows, ∃ s ∈ db.sessions.rows, o.OfSession s

theorem provenance_empty : Provenance env past Db.empty where
  inbox _ h := absurd h List.not_mem_nil
  sessions _ h := absurd h List.not_mem_nil
  files _ h := absurd h List.not_mem_nil
  deals _ h := absurd h List.not_mem_nil
  items _ h := absurd h List.not_mem_nil
  reviews _ h := absurd h List.not_mem_nil
  outbox _ h := absurd h List.not_mem_nil

/-- What an inbox task accepts, given where the rows of the inbox come from. -/
theorem Handles.accepts {db : Db} {inboxId : Nat} (hp : Provenance env past db)
    (h : Handles env db inboxId tenantId contactId) : ∃ row, inboxRow db inboxId = some row ∧
      row.signatureOk = true ∧ Accepts env past db row tenantId contactId := by
  obtain ⟨row, payload, hrow, hsigned, hpayload, hroute, hcontact⟩ := h
  obtain ⟨e, he, hreceived⟩ := hp.inbox row (List.mem_of_find?_eq_some hrow)
  obtain ⟨_, a⟩ := e
  cases a with
  | webhook newId rawBody hubSignature dispatched =>
    obtain ⟨hid, hbody, hsignature, number, hnumber, hsql⟩ := hreceived
    obtain ⟨r, hr, hphone, hactive, htenant⟩ := hroute
    have hstored : sqlText env number = .ok (some r.phoneNumberId) := by rw [← hphone]; exact hsql
    have hsame : payload = row.payload := decodePayload_of_number hpayload hnumber
    refine ⟨row, hrow, hsigned, ?_, ⟨r, hr, hactive, htenant, number, hnumber, hstored⟩, ?_⟩
    · refine ⟨_, he, rawBody, hubSignature, dispatched, ?_, ?_, hbody⟩
      · rw [show row.id = newId from hid]
      · rw [hsignature, show row.arrival.signatureOk = true from hsigned]
    · rwa [hsame] at hcontact
  | api | execute | flush | drain => exact hreceived.elim

/-- A step extends the provenance. -/
theorem Provenance.step (hp : Provenance env past w.db) (h : worldStep env w a = some w') :
    Provenance env (past ++ [(w, a)]) w'.db := by
  have heff := worldStep_evolves h
  have hkept : ∀ s ∈ w.db.sessions.rows, ∃ s' ∈ w'.db.sessions.rows, s.Follows s' :=
    heff.sessions.kept
  constructor
  · intro r hr
    rcases heff.inbox.source r hr with ⟨r₀, hr₀, hk⟩ | hnew
    · obtain ⟨e, he, hrec⟩ := hp.inbox r₀ hr₀
      have harrival : r.arrival = r₀.arrival := hk
      exact ⟨e, by simp [he], by rwa [harrival]⟩
    · exact ⟨(w, a), by simp, hnew⟩
  · intro s hs
    rcases heff.sessions.source s hs with ⟨s₀, hs₀, hf⟩ | hnew
    · rw [hf.tenantId, hf.contactId]
      exact (hp.sessions s₀ hs₀).extend (w, a)
    · -- A new session: the step was an inbox task.
      cases a with
      | execute e redelivered =>
        cases e with
        | processInboxRow inboxId inp =>
          obtain ⟨row, hrow, hsigned, haccepts⟩ := Handles.accepts hp hnew
          exact ⟨past, w, inboxId, inp, redelivered, [], row, rfl, hrow, hsigned, haccepts⟩
        | fetchAndStoreFile | pollDiDocument | processSession => exact hnew.elim
      | webhook | api | flush | drain => exact hnew.elim
  · intro f hf
    rcases heff.files.source f hf with ⟨f₀, hf₀, hk⟩ | hnew
    · obtain ⟨s, hs, hid⟩ := hp.files f₀ hf₀
      obtain ⟨s', hs', hfol⟩ := hkept s hs
      have hsid : f.sessionId = f₀.sessionId := congrArg (fun k => k.2.2.1) hk
      exact ⟨s', hs', by rw [hfol.id, hid, hsid]⟩
    · exact hnew
  · intro d hd
    rcases heff.deals.source d hd with ⟨d₀, hd₀, hk⟩ | hnew
    · obtain ⟨s, hs, hof⟩ := hp.deals d₀ hd₀
      obtain ⟨s', hs', hfol⟩ := hkept s hs
      exact ⟨s', hs', hof.follow hk hfol⟩
    · exact hnew
  · intro i hi
    rcases heff.items.source i hi with ⟨i₀, hi₀, hk⟩ | hnew
    · obtain ⟨d, hd, hid⟩ := hp.items i₀ hi₀
      obtain ⟨d', hd', hk'⟩ := heff.deals.kept d hd
      have hdid : d'.id = d.id := congrArg (fun k => k.1) hk'
      have hiid : i.dealId = i₀.dealId := congrArg (fun k => k.2.1) hk
      exact ⟨d', hd', by rw [hdid, hid, hiid]⟩
    · exact hnew
  · intro t ht
    rcases heff.reviews.source t ht with ⟨t₀, ht₀, rfl⟩ | hnew
    · obtain ⟨s, hs, hof⟩ := hp.reviews t₀ ht₀
      obtain ⟨s', hs', hfol⟩ := hkept s hs
      exact ⟨s', hs', hof.follow hfol⟩
    · exact hnew
  · intro o ho
    rcases heff.outbox.source o ho with ⟨o₀, ho₀, hk⟩ | hnew
    · obtain ⟨s, hs, hof⟩ := hp.outbox o₀ ho₀
      obtain ⟨s', hs', hfol⟩ := hkept s hs
      exact ⟨s', hs', hof.follow hk hfol⟩
    · exact hnew

/-- The provenance of a whole run from an empty database, whatever the queue holds. -/
theorem provenance_of_run {jobs : List Job} {as : List Action}
    (h : run (worldStep env) ⟨.empty, jobs⟩ as = some w) :
    Provenance env (trace (worldStep env) ⟨.empty, jobs⟩ as) w.db :=
  run_history (fun past (w : World) => Provenance env past w.db) (fun _ _ _ _ hp hs => hp.step hs)
    h (provenance_empty : Provenance env [] Db.empty)

/-! ## Runs -/

/-- No webhook request among the steps has a valid signature. -/
def Unsigned (env : Env) (as : List Action) : Prop :=
  ∀ newId rawBody hubSignature dispatched, .webhook newId rawBody hubSignature dispatched ∈ as →
    verifySignature env rawBody hubSignature ≠ .ok true

/-- No row that a payload can lead to exists. -/
structure Untouched (db : Db) : Prop where
  sessions : db.sessions.rows = []
  files : db.files.rows = []
  deals : db.deals.rows = []
  items : db.checklistItems.rows = []
  reviews : db.reviewTasks.rows = []
  outbox : db.outbox.rows = []

/-- What is authorised rests on a signed webhook request of the run. -/
theorem Authorised.not_unsigned {jobs : List Job} {as : List Action}
    (h : Authorised env (trace (worldStep env) ⟨.empty, jobs⟩ as) tenantId contactId) :
    ¬ Unsigned env as := by
  intro hunsigned
  obtain ⟨before, _, _, _, _, _, row, hpast, -, -, haccepts⟩ := h
  obtain ⟨e, he, rawBody, hubSignature, dispatched, haction, hsignature, -⟩ := haccepts.signed
  have hmem : e ∈ trace (worldStep env) ⟨.empty, jobs⟩ as := by
    rw [hpast]
    exact List.mem_append_left _ he
  have hin := mem_of_mem_trace hmem
  rw [haction] at hin
  exact hunsigned row.id rawBody hubSignature dispatched hin hsignature

theorem Provenance.untouched {db : Db} (hp : Provenance env past db) (hs : db.sessions.rows = []) :
    Untouched db := by
  have hnone : ∀ p : Session → Prop, ¬ ∃ s ∈ db.sessions.rows, p s := by
    rintro p ⟨s, hmem, -⟩
    rw [hs] at hmem
    exact List.not_mem_nil hmem
  have hdeals : db.deals.rows = [] :=
    List.eq_nil_iff_forall_not_mem.mpr fun d hd => hnone _ (hp.deals d hd)
  refine ⟨hs, ?_, hdeals, ?_, ?_, ?_⟩
  · exact List.eq_nil_iff_forall_not_mem.mpr fun f hf => hnone _ (hp.files f hf)
  · apply List.eq_nil_iff_forall_not_mem.mpr
    intro i hi
    obtain ⟨d, hd, -⟩ := hp.items i hi
    rw [hdeals] at hd
    exact List.not_mem_nil hd
  · exact List.eq_nil_iff_forall_not_mem.mpr fun t ht => hnone _ (hp.reviews t ht)
  · exact List.eq_nil_iff_forall_not_mem.mpr fun o ho => hnone _ (hp.outbox o ho)

/-- In every run from an empty database every session is authorised by an earlier inbox
task, every file, deal, checklist item, review task and queued message leads back to a
session, and without a validly signed body there is none of them. -/
theorem rows_authorised (env : Env) {jobs : List Job} {as : List Action}
    (h : run (worldStep env) ⟨.empty, jobs⟩ as = some w) :
    Provenance env (trace (worldStep env) ⟨.empty, jobs⟩ as) w.db ∧
      (Unsigned env as → Untouched w.db) := by
  have hp := provenance_of_run h
  refine ⟨hp, fun hunsigned => hp.untouched ?_⟩
  apply List.eq_nil_iff_forall_not_mem.mpr
  intro s hs
  exact (hp.sessions s hs).not_unsigned hunsigned

/-! ## A first photo -/

/-- One photo of one consultant. -/
def photoPayload : Json :=
  webhookBody [entryOf [changeValue "PN1" ["919876543210"]
    [mediaMessage "wamid.1" "919876543210" "image" "media.1"]]]

/-- The digest and the value of the photo's body are on record. -/
def photoEnv : Env := .ofRecording "secret" [([1], "a1", photoPayload)]

/-- Register the number and the consultant, receive the photo and process it. -/
def firstPhoto : List Action :=
  [.api ⟨0, 0, 1, fun _ => .raised⟩ 2 (.createRoute ⟨"PN1", "+91 99999 00000", some 9⟩),
    .api ⟨0, 0, 5, fun _ => .raised⟩ 2 (.putContact ⟨"+919876543210", 6, 3, .en, .active⟩),
    .webhook 1 [1] (some "sha256=a1") true,
    .execute (.processInboxRow 1 ⟨0, 7, fun n => 100 + BitVec.ofNat 128 n, fun _ => true⟩) false]

/-- The photo's session exists and is authorised. -/
theorem rows_authorised_firstPhoto :
    ∃ w, run (worldStep photoEnv) ⟨.empty, []⟩ firstPhoto = some w ∧
      (w.db.sessions.rows.map fun s => (s.tenantId, s.contactId)) = [(2, 5)] ∧
      w.db.files.rows.map (·.wamid) = ["wamid.1"] ∧
      Provenance photoEnv (trace (worldStep photoEnv) ⟨.empty, []⟩ firstPhoto) w.db := by
  have hrun : ((run (worldStep photoEnv) ⟨.empty, []⟩ firstPhoto).map fun w =>
      (w.db.sessions.rows.map fun s => (s.tenantId, s.contactId), w.db.files.rows.map (·.wamid))) =
      some ([(2, 5)], ["wamid.1"]) := by decide
  obtain ⟨w, hw, hrows⟩ := Option.map_eq_some_iff.mp hrun
  exact ⟨w, hw, congrArg Prod.fst hrows, congrArg Prod.snd hrows, (rows_authorised photoEnv hw).1⟩

end WaService
