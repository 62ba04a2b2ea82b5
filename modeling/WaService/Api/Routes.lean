import WaService.Api.Messages

/-!
# Contacts, routes and sessions of a tenant

The other handlers of the API, and the dispatch over all operations. `wa.route` and
`wa.contact` have no row-level security; every statement on them filters on the
tenant.
-/

namespace WaService

open Python Relational

/-! ## Contacts -/

/-- An update of contacts that keeps identity and phone. -/
theorem Contact.keeps {p : Contact → Bool} {f : Contact → Contact}
    (h : ∀ c, (f c).id = c.id ∧ (f c).phoneE164 = c.phoneE164) : Table.Keeps p f :=
  Table.keeps_of fun c _ => by
    obtain ⟨hid, hp⟩ := h c
    exact ⟨Or.inl (by rw [hid]), Or.inl (by rw [hp])⟩

/-- `UPDATE wa.contact`: apply `f` to the rows that `p` selects. -/
def Db.updateContacts (db : Db) (p : Contact → Bool) (f : Contact → Contact)
    (h : ∀ c, (f c).id = c.id ∧ (f c).phoneE164 = c.phoneE164) : Db :=
  { db with contacts := db.contacts.update p f (Contact.keeps h) }

/-- The row that a first binding of a phone inserts. -/
def newContact (newId : UUID) (now : Timestamp) (tenantId : UUID) (body : ContactIn) : Contact where
  id := newId
  phoneE164 := body.phoneE164
  userId := body.userId
  tenantId := tenantId
  orgUnitId := some body.orgUnitId
  status := body.status
  locale := body.locale
  verifiedAt := if body.status == .active then some now else none
  lastSeenAt := none
  createdAt := now

/-- The contact a phone is bound to. -/
def contactOfPhone (db : Db) (phone : String) : Option Contact :=
  db.contacts.rows.find? fun c => c.phoneE164 == phone

/-- The contact bound to a phone is the only row with that phone. -/
theorem contactOfPhone_eq_some {db : Db} {phone : String} {c : Contact} :
    contactOfPhone db phone = some c ↔ c ∈ db.contacts.rows ∧ c.phoneE164 = phone := by
  constructor
  · intro h
    exact ⟨List.mem_of_find?_eq_some h, by simpa using List.find?_some h⟩
  · rintro ⟨hc, rfl⟩
    refine Table.find?_eq_some_of_mem hc (by simp) fun b hb => ?_
    simp only [clash, sameKey, Bool.or_eq_true, beq_iff_eq] at hb ⊢
    exact Or.inr hb

/-- `DO UPDATE SET`: the columns a re-binding overwrites. -/
def Contact.rebind (body : ContactIn) (c : Contact) : Contact :=
  { c with
    userId := body.userId
    orgUnitId := some body.orgUnitId
    status := body.status
    locale := body.locale }

/-- `put_contact`: bind a phone, or re-bind it when the tenant owns its row. -/
def putContact (db : Db) (inp : ApiInput) (tenantId : UUID) (body : ContactIn) : Db × Response :=
  if Json.hasNul body.phoneE164 then (db, .raised)
  else
    match contactOfPhone db body.phoneE164 with
    | none =>
      let row := newContact inp.newId inp.now tenantId body
      match db.contacts.insert? row with
      | some contacts => ({ db with contacts := contacts }, .contact row.out)
      | none => (db, .raised)
    | some old =>
      if old.tenantId == tenantId then
        (db.updateContacts (fun c => c.phoneE164 == body.phoneE164 && c.tenantId == tenantId)
          (Contact.rebind body) fun _ => ⟨rfl, rfl⟩, .contact (old.rebind body).out)
      else (db, .error 409 (.str "PHONE_BOUND_TO_OTHER_TENANT"))

/-- `created_at, id` in ascending order. -/
def olderFirst (createdAt : Timestamp) (id : UUID) (createdAt' : Timestamp) (id' : UUID) : Bool :=
  createdAt < createdAt' || createdAt == createdAt' && id.toNat ≤ id'.toNat

/-- `list_contacts`. -/
def listContacts (db : Db) (tenantId : UUID) (status : Option ContactStatus)
    (userId : Option UUID) (page : Page) : Response :=
  let rows := (db.contacts.rows.filter fun c => c.tenantId == tenantId &&
    status.all (· == c.status) && userId.all (· == c.userId)).insertionSort
      fun a b => olderFirst a.createdAt a.id b.createdAt b.id = true
  match page.slice rows with
  | some rows => .contacts (rows.map Contact.out)
  | none => .raised

/-- `WHERE id=:i AND tenant_id=:t` on contacts. -/
def ownContact (tenantId contactId : UUID) (c : Contact) : Bool :=
  c.id == contactId && c.tenantId == tenantId

/-- `get_contact`. -/
def getContact (db : Db) (tenantId contactId : UUID) : Response :=
  match db.contacts.rows.find? (ownContact tenantId contactId) with
  | some c => .contact c.out
  | none => notFound "CONTACT"

/-- `body.model_dump(exclude_none=True)` is empty. -/
def ContactPatch.isEmpty (body : ContactPatch) : Bool :=
  body.status.isNone && body.locale.isNone && body.orgUnitId.isNone

/-- The columns that a patch sets. -/
def Contact.patched (body : ContactPatch) (c : Contact) : Contact :=
  { c with
    status := body.status.getD c.status
    locale := body.locale.getD c.locale
    orgUnitId := body.orgUnitId.or c.orgUnitId }

/-- `patch_contact`. -/
def patchContact (db : Db) (tenantId contactId : UUID) (body : ContactPatch) : Db × Response :=
  if body.isEmpty then (db, .error 422 (.str "NO_FIELDS_TO_UPDATE"))
  else
    match db.contacts.rows.find? (ownContact tenantId contactId) with
    | none => (db, notFound "CONTACT")
    | some c =>
      (db.updateContacts (ownContact tenantId contactId) (Contact.patched body)
        fun _ => ⟨rfl, rfl⟩, .contact (c.patched body).out)

/-- `revoke_contact`. -/
def revokeContact (db : Db) (tenantId contactId : UUID) : Db × Response :=
  match db.contacts.rows.find? (ownContact tenantId contactId) with
  | none => (db, notFound "CONTACT")
  | some _ =>
    (db.updateContacts (ownContact tenantId contactId) (fun c => { c with status := .revoked })
      fun _ => ⟨rfl, rfl⟩, .noContent)

/-! ## Routes -/

/-- An update of routes that keeps identity and number. -/
theorem Route.keeps {p : Route → Bool} {f : Route → Route}
    (h : ∀ r, (f r).id = r.id ∧ (f r).phoneNumberId = r.phoneNumberId) : Table.Keeps p f :=
  Table.keeps_of fun r _ => by
    obtain ⟨hid, hp⟩ := h r
    exact ⟨Or.inl (by rw [hid]), Or.inl (by rw [hp])⟩

/-- `UPDATE wa.route`: apply `f` to the rows that `p` selects. -/
def Db.updateRoutes (db : Db) (p : Route → Bool) (f : Route → Route)
    (h : ∀ r, (f r).id = r.id ∧ (f r).phoneNumberId = r.phoneNumberId) : Db :=
  { db with routes := db.routes.update p f (Route.keeps h) }

/-- The row that a registration inserts. -/
def newRoute (newId : UUID) (now : Timestamp) (tenantId : UUID) (body : RouteIn) : Route where
  id := newId
  tenantId := tenantId
  phoneNumberId := body.phoneNumberId
  displayNumber := body.displayNumber
  active := true
  intakeJourneyId := body.intakeJourneyId
  createdAt := now

/-- The text parameters of a registration contain no NUL. -/
def RouteIn.bindable (body : RouteIn) : Bool :=
  !(Json.hasNul body.phoneNumberId || Json.hasNul body.displayNumber)

/-- `create_route`. -/
def createRoute (db : Db) (inp : ApiInput) (tenantId : UUID) (body : RouteIn) : Db × Response :=
  if body.bindable then
    let row := newRoute inp.newId inp.now tenantId body
    match db.routes.insert? row with
    | some routes => ({ db with routes := routes }, .route 201 row)
    | none => (db, .error 409 (.str "PHONE_NUMBER_ID_ALREADY_REGISTERED"))
  else (db, .raised)

/-- `list_routes`. -/
def listRoutes (db : Db) (tenantId : UUID) : Response :=
  .routes ((db.routes.rows.filter fun r => r.tenantId == tenantId).insertionSort
    fun a b => olderFirst a.createdAt a.id b.createdAt b.id = true)

/-- `WHERE id=:i AND tenant_id=:t` on routes. -/
def ownRoute (tenantId routeId : UUID) (r : Route) : Bool :=
  r.id == routeId && r.tenantId == tenantId

/-- `body.model_dump(exclude_none=True)` is empty. -/
def RoutePatch.isEmpty (body : RoutePatch) : Bool :=
  body.active.isNone && body.displayNumber.isNone && body.intakeJourneyId.isNone

/-- The columns that a patch sets. -/
def Route.patched (body : RoutePatch) (r : Route) : Route :=
  { r with
    active := body.active.getD r.active
    displayNumber := body.displayNumber.getD r.displayNumber
    intakeJourneyId := body.intakeJourneyId.or r.intakeJourneyId }

/-- `patch_route`. -/
def patchRoute (db : Db) (tenantId routeId : UUID) (body : RoutePatch) : Db × Response :=
  if body.isEmpty then (db, .error 422 (.str "NO_FIELDS_TO_UPDATE"))
  else if body.displayNumber.any Json.hasNul then (db, .raised)
  else
    match db.routes.rows.find? (ownRoute tenantId routeId) with
    | none => (db, notFound "ROUTE")
    | some r =>
      (db.updateRoutes (ownRoute tenantId routeId) (Route.patched body) fun _ => ⟨rfl, rfl⟩,
        .route 200 (r.patched body))

/-! ## Sessions -/

/-- `created_at DESC, id`. -/
def newerFirst (a b : Session) : Bool :=
  b.createdAt < a.createdAt || a.createdAt == b.createdAt && a.id.toNat ≤ b.id.toNat

/-- `list_sessions`. -/
def listSessions (db : Db) (tenantId : UUID) (state : Option String)
    (contactId dealId : Option UUID)
    (page : Page) : Response :=
  if state.any Json.hasNul then .raised
  else
    let rows := (db.sessions.rows.filter fun s => s.tenantId == tenantId &&
      state.all (· == s.state.text) && contactId.all (· == s.contactId) &&
      dealId.all (fun d => s.dealId == some d)).insertionSort fun a b => newerFirst a b = true
    match page.slice rows with
    | some rows => .sessions (rows.map Session.out)
    | none => .raised

/-- `get_session`. -/
def getSession (db : Db) (tenantId sessionId : UUID) : Response :=
  match db.sessions.rows.find? fun s => s.id == sessionId && s.tenantId == tenantId with
  | some s => .session s.out
  | none => notFound "SESSION"

/-! ## Dispatch -/

/-- The operations under `/v1/tenants/{tenant_id}`. -/
inductive Operation where
  | putContact (body : ContactIn)
  | listContacts (status : Option ContactStatus) (userId : Option UUID) (page : Page)
  | getContact (contactId : UUID)
  | patchContact (contactId : UUID) (body : ContactPatch)
  | revokeContact (contactId : UUID)
  | createRoute (body : RouteIn)
  | listRoutes
  | patchRoute (routeId : UUID) (body : RoutePatch)
  | sendMessage (request : SendMessage)
  | getMessage (messageId : UUID)
  | listSessions (state : Option String) (contactId dealId : Option UUID) (page : Page)
  | getSession (sessionId : UUID)
  deriving Repr

/-- A handler that makes no call to Meta. -/
def ApiResult.of (r : Db × Response) : ApiResult := ⟨r.1, r.2, []⟩

/-- One request of an authenticated caller for a tenant. -/
def handle (env : Env) (db : Db) (inp : ApiInput) (tenantId : UUID) : Operation → ApiResult
  | .putContact body => .of (putContact db inp tenantId body)
  | .listContacts status userId page => ⟨db, listContacts db tenantId status userId page, []⟩
  | .getContact contactId => ⟨db, getContact db tenantId contactId, []⟩
  | .patchContact contactId body => .of (patchContact db tenantId contactId body)
  | .revokeContact contactId => .of (revokeContact db tenantId contactId)
  | .createRoute body => .of (createRoute db inp tenantId body)
  | .listRoutes => ⟨db, listRoutes db tenantId, []⟩
  | .patchRoute routeId body => .of (patchRoute db tenantId routeId body)
  | .sendMessage request => sendMessage env db inp tenantId request
  | .getMessage messageId => ⟨db, getMessage db tenantId messageId, []⟩
  | .listSessions state contactId dealId page =>
    ⟨db, listSessions db tenantId state contactId dealId page, []⟩
  | .getSession sessionId => ⟨db, getSession db tenantId sessionId, []⟩

/-! ## The tables that an operation writes -/

theorem putContact_tables (db : Db) (inp : ApiInput) (tenantId : UUID) (body : ContactIn) :
    (putContact db inp tenantId body).1 =
      { db with contacts := (putContact db inp tenantId body).1.contacts } := by
  unfold putContact
  split
  · rfl
  · split
    · simp only
      split
      · rfl
      · rfl
    · split
      · rfl
      · rfl

theorem patchContact_tables (db : Db) (tenantId contactId : UUID) (body : ContactPatch) :
    (patchContact db tenantId contactId body).1 =
      { db with contacts := (patchContact db tenantId contactId body).1.contacts } := by
  unfold patchContact
  split
  · rfl
  · split
    · rfl
    · rfl

theorem revokeContact_tables (db : Db) (tenantId contactId : UUID) :
    (revokeContact db tenantId contactId).1 =
      { db with contacts := (revokeContact db tenantId contactId).1.contacts } := by
  unfold revokeContact
  split
  · rfl
  · rfl

theorem createRoute_tables (db : Db) (inp : ApiInput) (tenantId : UUID) (body : RouteIn) :
    (createRoute db inp tenantId body).1 =
      { db with routes := (createRoute db inp tenantId body).1.routes } := by
  unfold createRoute
  split
  · simp only
    split
    · rfl
    · rfl
  · rfl

theorem patchRoute_tables (db : Db) (tenantId routeId : UUID) (body : RoutePatch) :
    (patchRoute db tenantId routeId body).1 =
      { db with routes := (patchRoute db tenantId routeId body).1.routes } := by
  unfold patchRoute
  split
  · rfl
  · split
    · rfl
    · split
      · rfl
      · rfl

/-- The API writes routes, contacts and API messages, and no other table. -/
theorem handle_tables (env : Env) (db : Db) (inp : ApiInput) (tenantId : UUID) (op : Operation) :
    (handle env db inp tenantId op).db =
      { db with
        routes := (handle env db inp tenantId op).db.routes
        contacts := (handle env db inp tenantId op).db.contacts
        apiMessages := (handle env db inp tenantId op).db.apiMessages } := by
  cases op with
  | putContact body =>
    simp only [handle, ApiResult.of]
    rw [putContact_tables]
  | patchContact contactId body =>
    simp only [handle, ApiResult.of]
    rw [patchContact_tables]
  | revokeContact contactId =>
    simp only [handle, ApiResult.of]
    rw [revokeContact_tables]
  | createRoute body =>
    simp only [handle, ApiResult.of]
    rw [createRoute_tables]
  | patchRoute routeId body =>
    simp only [handle, ApiResult.of]
    rw [patchRoute_tables]
  | sendMessage request =>
    simp only [handle]
    rw [sendMessage_tables]
  | listContacts _ _ _ => rfl
  | getContact _ => rfl
  | listRoutes => rfl
  | getMessage _ => rfl
  | listSessions _ _ _ _ => rfl
  | getSession _ => rfl

end WaService
