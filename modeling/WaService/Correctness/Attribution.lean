import WaService.Core.Causes
import WaService.Correctness.Callers
import WaService.Correctness.TenantCoherence
import WaService.Correctness.Writes
import WaService.System.Http

/-!
# Every row is owed to a caller

A request without the token of an entry leaves no trace in a run. So every contact, every
registered number and every record of a send is owed to a request for its own tenant that was made
with the token of an entry, and a session to two of them: without entries there is nothing to
receive messages on and nobody to receive them from.
-/

namespace WaService

open Python Relational Transition

variable {env : Env} {waApiTokens : String} {a : Action} {db db' : Db} {w : World}

/-! ## Authentic requests -/

/-- The setting is well formed, and the header of the request has the token of an entry of this
name. -/
structure ApiRequest.Authentic (waApiTokens : String) (q : ApiRequest) (name : String) : Prop where
  wellFormed : WellFormed waApiTokens
  presents : ∃ scheme token, q.authorization = some (scheme ++ " " ++ token) ∧
    isBearer scheme.toList = true ∧ Configured waApiTokens name token

theorem ApiRequest.authentic_of_ok {q : ApiRequest} {caller : Caller}
    (h : requireCaller waApiTokens q.authorization = .ok caller) :
    q.Authentic waApiTokens caller.name := by
  refine ⟨?_, requireCaller_ok h⟩
  cases hcallers : apiCallers waApiTokens with
  | error e => simp [requireCaller, hcallers] at h
  | ok callers => exact wellFormed_of_apiCallers hcallers

/-- A request that is authentic under no name is turned away: it calls nobody and changes
nothing. -/
theorem serve_of_not_authentic {q : ApiRequest} (h : ∀ name, ¬ q.Authentic waApiTokens name) :
    ∃ response, serve env waApiTokens db q = ⟨db, response, []⟩ := by
  unfold serve
  cases hcaller : requireCaller waApiTokens q.authorization with
  | ok caller => exact absurd (ApiRequest.authentic_of_ok hcaller) (h caller.name)
  | refused status detail headers => exact ⟨_, rfl⟩
  | raised => exact ⟨_, rfl⟩

/-- Among the visits, a caller of this name asked for this operation on behalf of the tenant. -/
def Asked (waApiTokens : String) (vs : List Visit) (name : String) (tenantId : UUID)
    (op : Operation) : Prop :=
  ∃ q, .request q ∈ vs ∧ q.Authentic waApiTokens name ∧ q.tenantId = tenantId ∧
    q.op.calledBy ⟨name⟩ = op

/-- An operation that is taken was asked for. -/
theorem asked_of_admitted {vs : List Visit} {inp : ApiInput} {tenantId : UUID} {op : Operation}
    (h : .api inp tenantId op ∈ vs.filterMap (Visit.admitted waApiTokens)) :
    ∃ name, Asked waApiTokens vs name tenantId op := by
  obtain ⟨v, hv, hadmitted⟩ := List.mem_filterMap.mp h
  cases v with
  | request q =>
    simp only [Visit.admitted] at hadmitted
    cases hcaller : requireCaller waApiTokens q.authorization with
    | ok caller =>
      rw [hcaller] at hadmitted
      cases hadmitted
      exact ⟨caller.name, q, hv, ApiRequest.authentic_of_ok hcaller, rfl, rfl⟩
    | refused status detail headers => simp [hcaller] at hadmitted
    | raised => simp [hcaller] at hadmitted
  | webhook | execute | flush | drain => cases hadmitted

/-- A send is asked for by the caller that it names. -/
theorem Asked.caller {vs : List Visit} {name : String} {tenantId : UUID} {rq : SendMessage}
    (h : Asked waApiTokens vs name tenantId (.sendMessage rq)) : rq.caller = name := by
  obtain ⟨q, -, -, -, hop⟩ := h
  cases hq : q.op with
  | sendMessage request =>
    rw [hq] at hop
    cases hop
    rfl
  | _ =>
    rw [hq] at hop
    cases hop

/-! ## The tables of the API -/

/-- The operation gives the contact the status that it has. -/
inductive Operation.GivesStatus (c : Contact) : Operation → Prop
  | put {body : ContactIn} (hphone : body.phoneE164 = c.phoneE164)
      (hstatus : body.status = c.status) : GivesStatus c (.putContact body)
  | patch {body : ContactPatch} (hstatus : body.status = some c.status) :
      GivesStatus c (.patchContact c.id body)
  | revoke (hstatus : c.status = .revoked) : GivesStatus c (.revokeContact c.id)

/-- Every row of the tables of the API is owed to an operation that was asked for on behalf of its
tenant; so is the user of a contact, its status, and that a route is idle. -/
structure Db.Requested (asked : UUID → Operation → Prop) (db : Db) : Prop where
  contacts : ∀ c ∈ db.contacts.rows, ∃ body, asked c.tenantId (.putContact body) ∧
    body.phoneE164 = c.phoneE164 ∧ body.userId = c.userId
  statuses : ∀ c ∈ db.contacts.rows, ∃ op, asked c.tenantId op ∧ op.GivesStatus c
  routes : ∀ r ∈ db.routes.rows, ∃ body, asked r.tenantId (.createRoute body) ∧
    body.phoneNumberId = r.phoneNumberId
  idle : ∀ r ∈ db.routes.rows, r.active = false →
    ∃ body, asked r.tenantId (.patchRoute r.id body) ∧ body.active = some false
  messages : ∀ m ∈ db.apiMessages.rows, ∃ rq, asked m.tenantId (.sendMessage rq) ∧
    rq.caller = m.requestedBy ∧ rq.body.toE164 = m.toE164 ∧ rq.body.dump = m.payload ∧
      rq.idempotencyKey = m.idempotencyKey

theorem Db.Requested.imp {asked asked' : UUID → Operation → Prop} (h : db.Requested asked)
    (himp : ∀ tenantId op, asked tenantId op → asked' tenantId op) : db.Requested asked' := by
  constructor
  · intro c hc
    obtain ⟨body, hasked, hbody⟩ := h.contacts c hc
    exact ⟨body, himp _ _ hasked, hbody⟩
  · intro c hc
    obtain ⟨op, hasked, hop⟩ := h.statuses c hc
    exact ⟨op, himp _ _ hasked, hop⟩
  · intro r hr
    obtain ⟨body, hasked, hbody⟩ := h.routes r hr
    exact ⟨body, himp _ _ hasked, hbody⟩
  · intro r hr hidle
    obtain ⟨body, hasked, hbody⟩ := h.idle r hr hidle
    exact ⟨body, himp _ _ hasked, hbody⟩
  · intro m hm
    obtain ⟨rq, hasked, hrq⟩ := h.messages m hm
    exact ⟨rq, himp _ _ hasked, hrq⟩

/-- The operations among the actions. -/
def AskedIn (as : List Action) (tenantId : UUID) (op : Operation) : Prop :=
  ∃ inp, .api inp tenantId op ∈ as

/-- A statement of an action among the given ones keeps that every row is owed to one of them. -/
theorem Write.requested {as : List Action} (ha : a ∈ as) (h : Write env a db db')
    (hdb : db.Requested (AskedIn as)) : db'.Requested (AskedIn as) := by
  cases h with
  | contacts h =>
    refine ⟨?_, ?_, hdb.routes, hdb.idle, hdb.messages⟩
    · refine h.forall_rows ?_ ?_ hdb.contacts
      · intro c hnew
        cases hnew with
        | @bind inp tenantId body => exact ⟨body, ⟨inp, ha⟩, rfl, rfl⟩
      · intro c c' hchange hc
        cases hchange with
        | @rebind inp tenantId body _ htenant hphone =>
          subst htenant
          exact ⟨body, ⟨inp, ha⟩, hphone.symm, rfl⟩
        | patch htenant => exact hc
        | revoke htenant => exact hc
    · refine h.forall_rows ?_ ?_ hdb.statuses
      · intro c hnew
        cases hnew with
        | @bind inp tenantId body => exact ⟨_, ⟨inp, ha⟩, .put rfl rfl⟩
      · intro c c' hchange hc
        cases hchange with
        | @rebind inp tenantId body _ htenant hphone =>
          subst htenant
          exact ⟨_, ⟨inp, ha⟩, .put hphone.symm rfl⟩
        | @patch inp tenantId body _ htenant =>
          subst htenant
          cases hstatus : body.status with
          | some status =>
            refine ⟨_, ⟨inp, ha⟩, .patch ?_⟩
            simp [Contact.patched, hstatus]
          | none =>
            obtain ⟨op, hasked, hop⟩ := hc
            have hkept : (c.patched body).status = c.status := by simp [Contact.patched, hstatus]
            refine ⟨op, hasked, ?_⟩
            cases hop with
            | put hphone hgiven => exact .put hphone (hgiven.trans hkept.symm)
            | patch hgiven => exact .patch (hgiven.trans (congrArg some hkept.symm))
            | revoke hgiven => exact .revoke (hkept.trans hgiven)
        | @revoke inp tenantId _ htenant =>
          subst htenant
          exact ⟨_, ⟨inp, ha⟩, .revoke rfl⟩
  | routes h =>
    refine ⟨hdb.contacts, hdb.statuses, ?_, ?_, hdb.messages⟩
    · refine h.forall_rows ?_ ?_ hdb.routes
      · intro r hnew
        cases hnew with
        | @register inp tenantId body => exact ⟨body, ⟨inp, ha⟩, rfl⟩
      · intro r r' hchange hr
        cases hchange with
        | patch htenant => exact hr
    · refine h.forall_rows (P := fun r : Route => r.active = false →
        ∃ body, AskedIn as r.tenantId (.patchRoute r.id body) ∧ body.active = some false) ?_ ?_
          hdb.idle
      · intro r hnew hidle
        cases hnew with
        | register => cases hidle
      · intro r r' hchange hr hidle
        cases hchange with
        | @patch inp tenantId body _ htenant =>
          subst htenant
          cases hactive : body.active with
          | none =>
            refine hr ?_
            simpa [Route.patched, hactive] using hidle
          | some active =>
            have hfalse : active = false := by simpa [Route.patched, hactive] using hidle
            exact ⟨body, ⟨inp, ha⟩, by rw [hactive, hfalse]⟩
  | apiMessages h =>
    refine ⟨hdb.contacts, hdb.statuses, hdb.routes, hdb.idle, h.forall_rows ?_ ?_ hdb.messages⟩
    · intro m hnew
      cases hnew with
      | @reserve inp tenantId rq => exact ⟨rq, ⟨inp, ha⟩, rfl, rfl, rfl, rfl⟩
    · intro m m' hchange hm
      cases hchange with
      | fail => exact hm
      | succeed => exact hm
  | _ => exact ⟨hdb.contacts, hdb.statuses, hdb.routes, hdb.idle, hdb.messages⟩

/-! ## Runs -/

theorem requested_empty {asked : UUID → Operation → Prop} : Db.empty.Requested asked where
  contacts := List.forall_mem_nil _
  statuses := List.forall_mem_nil _
  routes := List.forall_mem_nil _
  idle := List.forall_mem_nil _
  messages := List.forall_mem_nil _

theorem requested_of_run {jobs : List Job} {as : List Action}
    (h : run (worldStep env) ⟨.empty, jobs⟩ as = some w) : w.db.Requested (AskedIn as) :=
  run_of_writes_of_mem (Db.Requested (AskedIn as))
    (fun _ ha _ _ hdb hwrite => hwrite.requested ha hdb) h requested_empty

/-- A session has a contact of its tenant, and an action has registered a number for that. -/
theorem session_of_run {jobs : List Job} {as : List Action}
    (h : run (worldStep env) ⟨.empty, jobs⟩ as = some w) {s : Session}
    (hs : s ∈ w.db.sessions.rows) :
    (∃ c ∈ w.db.contacts.rows, c.id = s.contactId ∧ c.tenantId = s.tenantId) ∧
      ∃ body, AskedIn as s.tenantId (.createRoute body) := by
  constructor
  · have hcoherent : w.db.references.Coherent :=
      run_preserves (fun w : World => w.db.references.Coherent)
        (fun _ _ _ hc hstep => worldStep_coherent hstep hc) h coherent_empty
    obtain ⟨c, hc, htenancy⟩ :=
      List.mem_map.mp (hcoherent.session s.ref (List.mem_map_of_mem hs))
    exact ⟨c, hc, congrArg Prod.fst htenancy, congrArg Prod.snd htenancy⟩
  · obtain ⟨before, w₁, _, _, _, after, _, hpast, -, -, haccepts⟩ :=
      (provenance_of_run h).sessions s hs
    obtain ⟨r, hr, -, htenant, -⟩ := haccepts.route
    obtain ⟨bs, hbs, hbefore, -⟩ := run_of_trace_eq h hpast
    obtain ⟨body, ⟨inp, hmem⟩, -⟩ := (requested_of_run hbs).routes r hr
    rw [htenant] at hmem
    refine ⟨body, inp, ?_⟩
    -- The actions before the task of the session are among all actions.
    have hactions := trace_actions h
    rw [hpast, List.map_append, ← hbefore, trace_actions hbs] at hactions
    rw [← hactions]
    exact List.mem_append_left _ hmem

/-- What the rows of a database are owed to: operations that callers of the setting asked for on
behalf of the rows' own tenants. -/
structure Attributed (waApiTokens : String) (vs : List Visit) (db : Db) : Prop where
  requested : db.Requested fun tenantId op => ∃ name, Asked waApiTokens vs name tenantId op
  callers : ∀ m ∈ db.apiMessages.rows, ∃ rq,
    Asked waApiTokens vs m.requestedBy m.tenantId (.sendMessage rq) ∧ rq.body.dump = m.payload
  sessions : ∀ s ∈ db.sessions.rows,
    (∃ c ∈ db.contacts.rows, c.id = s.contactId ∧ c.tenantId = s.tenantId) ∧
      ∃ name body, Asked waApiTokens vs name s.tenantId (.createRoute body)

/-- Nobody is bound, nothing is registered, and nothing was sent. -/
structure Closed (db : Db) : Prop where
  contacts : db.contacts.rows = []
  routes : db.routes.rows = []
  messages : db.apiMessages.rows = []
  untouched : Untouched db

/-- Nothing is owed to the callers of a setting without entries. -/
theorem Attributed.closed {vs : List Visit} {past : Past} (h : Attributed waApiTokens vs db)
    (hp : Provenance env past db) (hnone : ∀ name token, ¬ Configured waApiTokens name token) :
    Closed db := by
  have hasked : ∀ name tenantId op, ¬ Asked waApiTokens vs name tenantId op := by
    rintro name tenantId op ⟨q, -, hauthentic, -⟩
    obtain ⟨_, token, -, -, hconfigured⟩ := hauthentic.presents
    exact hnone name token hconfigured
  have hcontacts : db.contacts.rows = [] := by
    refine List.eq_nil_iff_forall_not_mem.mpr fun c hc => ?_
    obtain ⟨_, ⟨name, hname⟩, -⟩ := h.requested.contacts c hc
    exact hasked _ _ _ hname
  refine ⟨hcontacts, ?_, ?_, hp.untouched ?_⟩
  · refine List.eq_nil_iff_forall_not_mem.mpr fun r hr => ?_
    obtain ⟨_, ⟨name, hname⟩, -⟩ := h.requested.routes r hr
    exact hasked _ _ _ hname
  · refine List.eq_nil_iff_forall_not_mem.mpr fun m hm => ?_
    obtain ⟨_, hname, -⟩ := h.callers m hm
    exact hasked _ _ _ hname
  · refine List.eq_nil_iff_forall_not_mem.mpr fun s hs => ?_
    obtain ⟨-, name, _, hname⟩ := h.sessions s hs
    exact hasked _ _ _ hname

/-- In every run behind the authentication, the requests that are not authentic might as well not
have been made, every row of the API tables and every session is owed to authentic requests of its
own tenant, and without entries in the setting the database stays closed whatever arrives. -/
theorem requests_attributed (env : Env) (waApiTokens : String) {vs : List Visit}
    (h : run (visitStep env waApiTokens) ⟨.empty, []⟩ vs = some w) :
    run (worldStep env) ⟨.empty, []⟩ (vs.filterMap (Visit.admitted waApiTokens)) = some w ∧
      (∀ q, .request q ∈ vs → (∀ name, ¬ q.Authentic waApiTokens name) →
        ∀ db, ∃ response, serve env waApiTokens db q = ⟨db, response, []⟩) ∧
      Attributed waApiTokens vs w.db ∧
      ((∀ name token, ¬ Configured waApiTokens name token) → Closed w.db) := by
  rw [run_visits] at h
  have hrequested := requested_of_run h
  have hattributed : Attributed waApiTokens vs w.db := by
    constructor
    · exact hrequested.imp fun _ _ ⟨_, hmem⟩ => asked_of_admitted hmem
    · intro m hm
      obtain ⟨rq, ⟨_, hmem⟩, hcaller, -, hdump, -⟩ := hrequested.messages m hm
      obtain ⟨name, hname⟩ := asked_of_admitted hmem
      rw [← hcaller, hname.caller]
      exact ⟨rq, hname, hdump⟩
    · intro s hs
      obtain ⟨hcontact, body, _, hmem⟩ := session_of_run h hs
      obtain ⟨name, hname⟩ := asked_of_admitted hmem
      exact ⟨hcontact, name, body, hname⟩
  exact ⟨h, fun _ _ hq _ => serve_of_not_authentic hq, hattributed,
    hattributed.closed (provenance_of_run h)⟩

/-- The setting with one entry. -/
def oneToken : String := "crm:t0k"

/-- The first photo, registered for by the caller `crm`, with a request under a wrong token before
it. -/
def guardedPhoto : List Visit :=
  [.request ⟨some "Bearer t0x", ⟨0, 0, 4, fun _ => .raised⟩, 2,
      .putContact ⟨"+919876543210", 8, 3, .en, .active⟩⟩,
    .request ⟨some "Bearer t0k", ⟨0, 0, 1, fun _ => .raised⟩, 2,
      .createRoute ⟨"PN1", "+91 99999 00000", some 9⟩⟩,
    .request ⟨some "Bearer t0k", ⟨0, 0, 5, fun _ => .raised⟩, 2,
      .putContact ⟨"+919876543210", 6, 3, .en, .active⟩⟩,
    .webhook 1 [1] (some "sha256=a1") true,
    .execute (.processInboxRow 1 ⟨0, 7, fun n => 100 + BitVec.ofNat 128 n, fun _ => true⟩) false]

/-- The photo has its session, and the contact is the one of the authentic request. -/
theorem requests_attributed_guardedPhoto :
    ∃ w, run (visitStep photoEnv oneToken) ⟨.empty, []⟩ guardedPhoto = some w ∧
      w.db.contacts.rows.map (fun c => (c.id, c.userId)) = [(5, 6)] ∧
      w.db.sessions.rows.map (·.contactId) = [5] ∧ Attributed oneToken guardedPhoto w.db := by
  have hrun : ((run (visitStep photoEnv oneToken) ⟨.empty, []⟩ guardedPhoto).map fun w =>
      (w.db.contacts.rows.map fun c => (c.id, c.userId), w.db.sessions.rows.map (·.contactId))) =
      some ([(5, 6)], [5]) := by decide +kernel
  obtain ⟨w, hw, hrows⟩ := Option.map_eq_some_iff.mp hrun
  exact ⟨w, hw, congrArg Prod.fst hrows, congrArg Prod.snd hrows,
    (requests_attributed photoEnv oneToken hw).2.2.1⟩

end WaService
