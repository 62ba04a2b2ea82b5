import WaService.Api.Routes

/-!
# Tenant isolation of the API

Two laws for every operation called with a tenant. The frame law: rows of other
tenants stay. The two-run law: databases that agree on the tenant's rows give the
same answer and agree again. The two inserts on globally unique keys are the only
places where another tenant's row can be felt, and there nothing changes.
-/

namespace WaService

open Python Relational

/-- Two databases have the same rows of the tenants that `q` selects, in the tables
that the API uses. -/
structure Db.SameFor (q : UUID → Bool) (db db' : Db) : Prop where
  routes : db.routes.SameOn (fun r => q r.tenantId) db'.routes
  contacts : db.contacts.SameOn (fun c => q c.tenantId) db'.contacts
  apiMessages : db.apiMessages.SameOn (fun m => q m.tenantId) db'.apiMessages
  sessions : db.sessions.SameOn (fun s => q s.tenantId) db'.sessions

theorem Db.SameFor.refl (q : UUID → Bool) (db : Db) : db.SameFor q db := ⟨rfl, rfl, rfl, rfl⟩

theorem Db.SameFor.trans {q : UUID → Bool} {a b c : Db} (h : a.SameFor q b) (h' : b.SameFor q c) :
    a.SameFor q c :=
  ⟨h.routes.trans h'.routes, h.contacts.trans h'.contacts, h.apiMessages.trans h'.apiMessages,
    h.sessions.trans h'.sessions⟩

/-- The two cases in which a row of another tenant refuses the operation. -/
def Refused (db : Db) (tenantId : UUID) : Operation → Prop
  | .putContact body => Json.hasNul body.phoneE164 = false ∧
      ∃ c ∈ db.contacts.rows, c.phoneE164 = body.phoneE164 ∧ c.tenantId ≠ tenantId
  | .createRoute body => body.bindable = true ∧
      ∃ r ∈ db.routes.rows, r.phoneNumberId = body.phoneNumberId ∧ r.tenantId ≠ tenantId
  | _ => False

/-- The answer of a refused operation. -/
def refusal : Operation → Response
  | .putContact _ => .error 409 (.str "PHONE_BOUND_TO_OTHER_TENANT")
  | _ => .error 409 (.str "PHONE_NUMBER_ID_ALREADY_REGISTERED")

/-- A generated id is not the id of a stored row. -/
structure Db.Unused (db : Db) (newId : UUID) : Prop where
  routes : ∀ r ∈ db.routes.rows, r.id ≠ newId
  contacts : ∀ c ∈ db.contacts.rows, c.id ≠ newId
  apiMessages : ∀ m ∈ db.apiMessages.rows, m.id ≠ newId

/-! ## The reserved record -/

/-- The row with this id is a row of the tenant. -/
def Db.OwnsMessage (db : Db) (tenantId messageId : UUID) : Prop :=
  ∃ m, messageById db messageId = some m ∧ m.tenantId = tenantId

/-- What `_reserve` can do: find the tenant's record, or insert one for it. -/
theorem reserve_cases {db db' : Db} {newId : UUID} {now : Timestamp} {tenantId : UUID}
    {rq : SendMessage} {kind : MessageKind} {res : Reservation}
    (h : reserve db newId now tenantId rq kind = .ok (res, db')) :
    ∃ route, firstActiveRoute db tenantId = some route ∧
      ((∃ m, existingRecord db tenantId rq.idempotencyKey = some m ∧
          res = .existing m route.phoneNumberId ∧ db' = db) ∨
        ∃ messages, existingRecord db tenantId rq.idempotencyKey = none ∧
          db.apiMessages.insert? (newMessage newId now tenantId route.id rq kind) = some messages ∧
          res = .fresh newId route.phoneNumberId ∧ db' = { db with apiMessages := messages }) := by
  unfold reserve at h
  split at h
  · contradiction
  · rename_i route m hs
    obtain ⟨hroute, hm⟩ := reserveSelect_eq_ok hs
    cases h
    exact ⟨route, hroute, Or.inl ⟨m, hm, rfl, rfl⟩⟩
  · rename_i route hs
    obtain ⟨hroute, hnone⟩ := reserveSelect_eq_ok hs
    obtain ⟨messages, hins, hres, hdb⟩ := reserveInsert_eq_ok h
    exact ⟨route, hroute, Or.inr ⟨messages, hnone, hins, hres, hdb⟩⟩

/-- A record that the handler sends for is the tenant's own. -/
theorem reserve_owned {env : Env} {db db' : Db} {newId : UUID} {now : Timestamp} {tenantId : UUID}
    {rq : SendMessage} {kind : MessageKind} {res : Reservation}
    (h : reserve db newId now tenantId rq kind = .ok (res, db'))
    {messageId : UUID} {number : String}
    (hd : decideSend env rq res = .send messageId number) : db'.OwnsMessage tenantId messageId := by
  obtain ⟨route, -, ⟨m, hm, rfl, rfl⟩ | ⟨messages, -, hins, rfl, rfl⟩⟩ := reserve_cases h
  · obtain ⟨hmem, ht, -⟩ := existingRecord_eq_some hm
    exact ⟨m, messageById_eq_some.mpr ⟨hmem, (decideSend_existing hd).1.symm⟩, ht⟩
  · cases hd
    refine ⟨newMessage newId now tenantId route.id rq kind, ?_, rfl⟩
    refine messageById_eq_some.mpr ⟨?_, rfl⟩
    exact (Table.mem_of_insert? hins).mpr (Or.inr rfl)

/-! ## The frame law -/

/-- An update of the tenant's own message leaves other tenants' rows alone. -/
theorem updateApiMessages_frame {db : Db} {tenantId messageId : UUID} (f : ApiMessage → ApiMessage)
    (h : ∀ m, (f m).id = m.id ∧ (f m).tenantId = m.tenantId ∧
      (f m).idempotencyKey = m.idempotencyKey) (ho : db.OwnsMessage tenantId messageId) :
    (db.updateApiMessages (fun m => m.id == messageId) f h).SameFor (· != tenantId) db := by
  refine ⟨rfl, rfl, Table.sameOn_update (ApiMessage.keeps h) fun m hm hp => ?_, rfl⟩
  obtain ⟨own, hown, ht⟩ := ho
  have hself := messageById_eq_some.mpr ⟨hm, by simpa using hp⟩
  have heq : m = own := Option.some.inj (hself.symm.trans hown)
  subst heq
  simp [(h m).2.1, ht]

/-- Recording the outcome of a send leaves other tenants' rows alone. -/
theorem concludeSend_frame (env : Env) {db : Db} (now : Timestamp) {tenantId messageId : UUID}
    (outcome : SendOutcome) (ho : db.OwnsMessage tenantId messageId) :
    (concludeSend env db now messageId outcome).1.SameFor (· != tenantId) db := by
  obtain hdb | ⟨texts, retryable, hdb⟩ | ⟨wamid, text, -, -, hdb⟩ :=
    concludeSend_db env db now messageId outcome
  · rw [hdb]
    exact .refl _ db
  · rw [hdb]
    exact updateApiMessages_frame (ApiMessage.fail texts retryable) (fun _ => ⟨rfl, rfl, rfl⟩) ho
  · rw [hdb]
    exact updateApiMessages_frame (ApiMessage.succeed text now) (fun _ => ⟨rfl, rfl, rfl⟩) ho

/-- A reservation leaves other tenants' rows alone. -/
theorem reserve_frame {db db' : Db} {newId : UUID} {now : Timestamp} {tenantId : UUID}
    {rq : SendMessage} {kind : MessageKind} {res : Reservation}
    (h : reserve db newId now tenantId rq kind = .ok (res, db')) :
    db'.SameFor (· != tenantId) db := by
  obtain ⟨route, -, ⟨m, -, -, rfl⟩ | ⟨messages, -, hins, -, rfl⟩⟩ := reserve_cases h
  · exact .refl _ db'
  · exact ⟨rfl, rfl, Table.sameOn_insert hins (by simp [newMessage]), rfl⟩

theorem sendMessage_frame (env : Env) (db : Db) (inp : ApiInput) (tenantId : UUID)
    (rq : SendMessage) : (sendMessage env db inp tenantId rq).db.SameFor (· != tenantId) db := by
  unfold sendMessage
  split
  · exact .refl _ db
  · split
    · exact .refl _ db
    · rename_i hres
      split
      · exact reserve_frame hres
      · rename_i hdec
        exact (concludeSend_frame env inp.sentAt _ (reserve_owned hres hdec)).trans
          (reserve_frame hres)

/-- An update of contacts within the tenant leaves other tenants' rows alone. -/
theorem updateContacts_frame {db : Db} {tenantId : UUID} {p : Contact → Bool}
    (f : Contact → Contact) (h : ∀ c, (f c).id = c.id ∧ (f c).phoneE164 = c.phoneE164)
    (hp : ∀ c, p c = true → c.tenantId = tenantId ∧ (f c).tenantId = tenantId) :
    (db.updateContacts p f h).SameFor (· != tenantId) db :=
  ⟨rfl, Table.sameOn_update (Contact.keeps h) fun c _ hc => by simp [hp c hc], rfl, rfl⟩

theorem putContact_frame (db : Db) (inp : ApiInput) (tenantId : UUID) (body : ContactIn) :
    (putContact db inp tenantId body).1.SameFor (· != tenantId) db := by
  unfold putContact
  split
  · exact .refl _ db
  · split
    · simp only
      split
      · rename_i hins
        exact ⟨rfl, Table.sameOn_insert hins (by simp [newContact]), rfl, rfl⟩
      · exact .refl _ db
    · split
      · refine updateContacts_frame (Contact.rebind body) (fun _ => ⟨rfl, rfl⟩) fun c hc => ?_
        have ht : c.tenantId = tenantId := by simpa using (Bool.and_eq_true_iff.mp hc).2
        exact ⟨ht, ht⟩
      · exact .refl _ db

/-- A row that `ownContact` selects is the tenant's. -/
theorem ownContact_tenant {tenantId contactId : UUID} {c : Contact}
    (h : ownContact tenantId contactId c = true) : c.tenantId = tenantId := by
  simpa using (Bool.and_eq_true_iff.mp h).2

theorem patchContact_frame (db : Db) (tenantId contactId : UUID) (body : ContactPatch) :
    (patchContact db tenantId contactId body).1.SameFor (· != tenantId) db := by
  unfold patchContact
  split
  · exact .refl _ db
  · split
    · exact .refl _ db
    · exact updateContacts_frame (Contact.patched body) (fun _ => ⟨rfl, rfl⟩) fun c hc =>
        ⟨ownContact_tenant hc, ownContact_tenant hc⟩

theorem revokeContact_frame (db : Db) (tenantId contactId : UUID) :
    (revokeContact db tenantId contactId).1.SameFor (· != tenantId) db := by
  unfold revokeContact
  split
  · exact .refl _ db
  · exact updateContacts_frame (fun c => { c with status := .revoked }) (fun _ => ⟨rfl, rfl⟩)
      fun c hc => ⟨ownContact_tenant hc, ownContact_tenant hc⟩

theorem createRoute_frame (db : Db) (inp : ApiInput) (tenantId : UUID) (body : RouteIn) :
    (createRoute db inp tenantId body).1.SameFor (· != tenantId) db := by
  unfold createRoute
  split
  · simp only
    split
    · rename_i hins
      exact ⟨Table.sameOn_insert hins (by simp [newRoute]), rfl, rfl, rfl⟩
    · exact .refl _ db
  · exact .refl _ db

/-- A row that `ownRoute` selects is the tenant's. -/
theorem ownRoute_tenant {tenantId routeId : UUID} {r : Route}
    (h : ownRoute tenantId routeId r = true) : r.tenantId = tenantId := by
  simpa using (Bool.and_eq_true_iff.mp h).2

theorem patchRoute_frame (db : Db) (tenantId routeId : UUID) (body : RoutePatch) :
    (patchRoute db tenantId routeId body).1.SameFor (· != tenantId) db := by
  unfold patchRoute
  split
  · exact .refl _ db
  · split
    · exact .refl _ db
    · split
      · exact .refl _ db
      · have hk : Table.Keeps (ownRoute tenantId routeId) (Route.patched body) :=
          Route.keeps fun _ => ⟨rfl, rfl⟩
        refine ⟨Table.sameOn_update hk fun r _ hr => ?_, rfl, rfl, rfl⟩
        simp [Route.patched, ownRoute_tenant hr]

/-- No operation of a tenant touches a row of another tenant. -/
theorem handle_frame (env : Env) (db : Db) (inp : ApiInput) (tenantId : UUID) (op : Operation) :
    (handle env db inp tenantId op).db.SameFor (· != tenantId) db := by
  cases op with
  | putContact body => exact putContact_frame db inp tenantId body
  | patchContact contactId body => exact patchContact_frame db tenantId contactId body
  | revokeContact contactId => exact revokeContact_frame db tenantId contactId
  | createRoute body => exact createRoute_frame db inp tenantId body
  | patchRoute routeId body => exact patchRoute_frame db tenantId routeId body
  | sendMessage request => exact sendMessage_frame env db inp tenantId request
  | listContacts _ _ _ => exact .refl _ db
  | getContact _ => exact .refl _ db
  | listRoutes => exact .refl _ db
  | getMessage _ => exact .refl _ db
  | listSessions _ _ _ _ => exact .refl _ db
  | getSession _ => exact .refl _ db

/-! ## The two-run law -/

/-- Two runs of a handler that a tenant cannot tell apart. -/
structure ApiResult.Agrees (tenantId : UUID) (r₁ r₂ : ApiResult) : Prop where
  response : r₁.response = r₂.response
  calls : r₁.calls = r₂.calls
  rows : r₁.db.SameFor (· == tenantId) r₂.db

section TwoRuns

variable {db₁ db₂ : Db} {tenantId : UUID}

/-- Handlers that only read agree when their answers do. -/
theorem ApiResult.Agrees.of_read (h : db₁.SameFor (· == tenantId) db₂) {r₁ r₂ : Response}
    (hr : r₁ = r₂) : ApiResult.Agrees tenantId ⟨db₁, r₁, []⟩ ⟨db₂, r₂, []⟩ := ⟨hr, rfl, h⟩

theorem listContacts_agree (h : db₁.SameFor (· == tenantId) db₂) (status : Option ContactStatus)
    (userId : Option UUID) (page : Page) :
    listContacts db₁ tenantId status userId page =
      listContacts db₂ tenantId status userId page := by
  unfold listContacts
  rw [h.contacts.filter_eq]
  intro c hc
  simp only [Bool.and_eq_true] at hc
  exact hc.1.1

theorem findOwnContact_agree (h : db₁.SameFor (· == tenantId) db₂) (contactId : UUID) :
    db₁.contacts.rows.find? (ownContact tenantId contactId) =
      db₂.contacts.rows.find? (ownContact tenantId contactId) :=
  h.contacts.find?_eq fun _ hc => (Bool.and_eq_true_iff.mp hc).2

/-- The same update within the tenant keeps the agreement. -/
theorem updateContacts_agree (h : db₁.SameFor (· == tenantId) db₂) {p : Contact → Bool}
    (f : Contact → Contact) (hf : ∀ c, (f c).id = c.id ∧ (f c).phoneE164 = c.phoneE164)
    (ht : ∀ c, (f c).tenantId = c.tenantId) :
    (db₁.updateContacts p f hf).SameFor (· == tenantId) (db₂.updateContacts p f hf) :=
  ⟨h.routes, h.contacts.update (Contact.keeps hf) fun c _ => by rw [ht], h.apiMessages, h.sessions⟩

theorem patchContact_agree (h : db₁.SameFor (· == tenantId) db₂) (contactId : UUID)
    (body : ContactPatch) :
    ApiResult.Agrees tenantId (.of (patchContact db₁ tenantId contactId body))
      (.of (patchContact db₂ tenantId contactId body)) := by
  unfold patchContact
  rw [findOwnContact_agree h]
  split
  · exact .of_read h rfl
  · split
    · exact .of_read h rfl
    · exact ⟨rfl, rfl, updateContacts_agree h (Contact.patched body) (fun _ => ⟨rfl, rfl⟩)
        fun _ => rfl⟩

theorem revokeContact_agree (h : db₁.SameFor (· == tenantId) db₂) (contactId : UUID) :
    ApiResult.Agrees tenantId (.of (revokeContact db₁ tenantId contactId))
      (.of (revokeContact db₂ tenantId contactId)) := by
  unfold revokeContact
  rw [findOwnContact_agree h]
  split
  · exact .of_read h rfl
  · exact ⟨rfl, rfl, updateContacts_agree h (fun c => { c with status := .revoked })
      (fun _ => ⟨rfl, rfl⟩) fun _ => rfl⟩

/-- Without a refusal, a bound phone is bound to the tenant. -/
theorem contactOfPhone_tenant {db : Db} {body : ContactIn} {c : Contact}
    (hn : Json.hasNul body.phoneE164 = false) (hr : ¬ Refused db tenantId (.putContact body))
    (h : contactOfPhone db body.phoneE164 = some c) : c.tenantId = tenantId := by
  obtain ⟨hc, hp⟩ := contactOfPhone_eq_some.mp h
  by_contra hne
  exact hr ⟨hn, c, hc, hp, hne⟩

theorem contactOfPhone_agree (h : db₁.SameFor (· == tenantId) db₂) {body : ContactIn}
    (hn : Json.hasNul body.phoneE164 = false) (h₁ : ¬ Refused db₁ tenantId (.putContact body))
    (h₂ : ¬ Refused db₂ tenantId (.putContact body)) :
    contactOfPhone db₁ body.phoneE164 = contactOfPhone db₂ body.phoneE164 := by
  apply Option.ext
  intro c
  constructor
  · intro hc
    have ht := contactOfPhone_tenant hn h₁ hc
    obtain ⟨hmem, hp⟩ := contactOfPhone_eq_some.mp hc
    exact contactOfPhone_eq_some.mpr ⟨(h.contacts.mem_iff (by simp [ht])).mp hmem, hp⟩
  · intro hc
    have ht := contactOfPhone_tenant hn h₂ hc
    obtain ⟨hmem, hp⟩ := contactOfPhone_eq_some.mp hc
    exact contactOfPhone_eq_some.mpr ⟨(h.contacts.mem_iff (by simp [ht])).mpr hmem, hp⟩

/-- No stored contact shares a key with the row that binds a free phone. -/
theorem newContact_clash {db : Db} {inp : ApiInput} {body : ContactIn} (hu : db.Unused inp.newId)
    (hfree : contactOfPhone db body.phoneE164 = none) :
    ∀ c ∈ db.contacts.rows, clash c (newContact inp.newId inp.now tenantId body) = false := by
  intro c hc
  have hid : (c.id == inp.newId) = false := beq_eq_false_iff_ne.mpr (hu.contacts c hc)
  have hphone := List.find?_eq_none.mp hfree c hc
  simp only [clash, sameKey, newContact, hid, Bool.false_or]
  simpa using hphone

theorem putContact_agree (h : db₁.SameFor (· == tenantId) db₂) (inp : ApiInput) (body : ContactIn)
    (hu₁ : db₁.Unused inp.newId) (hu₂ : db₂.Unused inp.newId)
    (h₁ : ¬ Refused db₁ tenantId (.putContact body))
    (h₂ : ¬ Refused db₂ tenantId (.putContact body)) :
    ApiResult.Agrees tenantId (.of (putContact db₁ inp tenantId body))
      (.of (putContact db₂ inp tenantId body)) := by
  unfold putContact
  cases hn : Json.hasNul body.phoneE164 with
  | true => exact .of_read h rfl
  | false =>
    rw [contactOfPhone_agree h hn h₁ h₂]
    cases hc : contactOfPhone db₂ body.phoneE164 with
    | none =>
      have hfree := contactOfPhone_agree h hn h₁ h₂
      rw [hc] at hfree
      let row := newContact inp.newId inp.now tenantId body
      have hc₁ : ∀ c ∈ db₁.contacts.rows, clash c row = false := newContact_clash hu₁ hfree
      have hc₂ : ∀ c ∈ db₂.contacts.rows, clash c row = false := newContact_clash hu₂ hc
      simp only [Bool.false_eq_true, if_false]
      rcases h.contacts.insert?_cases (fun a ha hcl => absurd hcl (by rw [hc₁ a ha]; decide))
        (fun a ha hcl => absurd hcl (by rw [hc₂ a ha]; decide)) with
        ⟨hnone, -⟩ | ⟨t₁, t₂, ht₁, ht₂, hsame⟩
      · obtain ⟨a, ha, hcl⟩ := Table.insert?_eq_none.mp hnone
        rw [hc₁ a ha] at hcl
        contradiction
      · rw [ht₁, ht₂]
        exact ⟨rfl, rfl, h.routes, hsame, h.apiMessages, h.sessions⟩
    | some old =>
      simp only [Bool.false_eq_true, if_false]
      split
      · exact ⟨rfl, rfl, updateContacts_agree h (Contact.rebind body) (fun _ => ⟨rfl, rfl⟩)
          fun _ => rfl⟩
      · exact .of_read h rfl

/-- Without a refusal, a route that shares a key with a new row is the tenant's. -/
theorem newRoute_clash {db : Db} {inp : ApiInput} {body : RouteIn} (hb : body.bindable = true)
    (hu : db.Unused inp.newId) (hr : ¬ Refused db tenantId (.createRoute body)) :
    ∀ r ∈ db.routes.rows, clash r (newRoute inp.newId inp.now tenantId body) = true →
      (r.tenantId == tenantId) = true := by
  intro r hmem hc
  have hid : (r.id == inp.newId) = false := beq_eq_false_iff_ne.mpr (hu.routes r hmem)
  have hnumber : r.phoneNumberId = body.phoneNumberId := by
    simpa [clash, sameKey, newRoute, hid] using hc
  by_contra hne
  exact hr ⟨hb, r, hmem, hnumber, by simpa using hne⟩

theorem createRoute_agree (h : db₁.SameFor (· == tenantId) db₂) (inp : ApiInput) (body : RouteIn)
    (hu₁ : db₁.Unused inp.newId) (hu₂ : db₂.Unused inp.newId)
    (h₁ : ¬ Refused db₁ tenantId (.createRoute body))
    (h₂ : ¬ Refused db₂ tenantId (.createRoute body)) :
    ApiResult.Agrees tenantId (.of (createRoute db₁ inp tenantId body))
      (.of (createRoute db₂ inp tenantId body)) := by
  unfold createRoute
  cases hb : body.bindable with
  | false => exact .of_read h rfl
  | true =>
    simp only [if_true]
    rcases h.routes.insert?_cases (newRoute_clash hb hu₁ h₁) (newRoute_clash hb hu₂ h₂) with
      ⟨ht₁, ht₂⟩ | ⟨t₁, t₂, ht₁, ht₂, hsame⟩
    · rw [ht₁, ht₂]
      exact .of_read h rfl
    · rw [ht₁, ht₂]
      exact ⟨rfl, rfl, hsame, h.contacts, h.apiMessages, h.sessions⟩

theorem listRoutes_agree (h : db₁.SameFor (· == tenantId) db₂) :
    listRoutes db₁ tenantId = listRoutes db₂ tenantId := by
  unfold listRoutes
  rw [h.routes.filter_eq fun _ hr => hr]

theorem patchRoute_agree (h : db₁.SameFor (· == tenantId) db₂) (routeId : UUID)
    (body : RoutePatch) :
    ApiResult.Agrees tenantId (.of (patchRoute db₁ tenantId routeId body))
      (.of (patchRoute db₂ tenantId routeId body)) := by
  have hfind : db₁.routes.rows.find? (ownRoute tenantId routeId) =
      db₂.routes.rows.find? (ownRoute tenantId routeId) :=
    h.routes.find?_eq fun _ hr => (Bool.and_eq_true_iff.mp hr).2
  have hk : Table.Keeps (ownRoute tenantId routeId) (Route.patched body) :=
    Route.keeps fun _ => ⟨rfl, rfl⟩
  unfold patchRoute
  rw [hfind]
  split
  · exact .of_read h rfl
  · split
    · exact .of_read h rfl
    · split
      · exact .of_read h rfl
      · exact ⟨rfl, rfl, h.routes.update hk fun _ _ => rfl, h.contacts, h.apiMessages, h.sessions⟩

theorem listSessions_agree (h : db₁.SameFor (· == tenantId) db₂) (state : Option String)
    (contactId dealId : Option UUID) (page : Page) :
    listSessions db₁ tenantId state contactId dealId page =
      listSessions db₂ tenantId state contactId dealId page := by
  unfold listSessions
  rw [h.sessions.filter_eq]
  intro s hs
  simp only [Bool.and_eq_true] at hs
  exact hs.1.1.1

theorem getSession_agree (h : db₁.SameFor (· == tenantId) db₂) (sessionId : UUID) :
    getSession db₁ tenantId sessionId = getSession db₂ tenantId sessionId := by
  unfold getSession
  rw [h.sessions.find?_eq fun _ hs => (Bool.and_eq_true_iff.mp hs).2]

/-! ### Sending -/

theorem getMessage_agree (h : db₁.SameFor (· == tenantId) db₂) (messageId : UUID) :
    getMessage db₁ tenantId messageId = getMessage db₂ tenantId messageId := by
  unfold getMessage
  rw [h.apiMessages.find?_eq fun _ hm => (Bool.and_eq_true_iff.mp hm).2]

theorem firstActiveRoute_agree (h : db₁.SameFor (· == tenantId) db₂) :
    firstActiveRoute db₁ tenantId = firstActiveRoute db₂ tenantId := by
  unfold firstActiveRoute
  rw [h.routes.filter_eq fun _ hr => (Bool.and_eq_true_iff.mp hr).1]

theorem existingRecord_agree (h : db₁.SameFor (· == tenantId) db₂) (key : Option String) :
    existingRecord db₁ tenantId key = existingRecord db₂ tenantId key := by
  unfold existingRecord
  split
  · rfl
  · split
    · rfl
    · exact h.apiMessages.find?_eq fun _ hm => (Bool.and_eq_true_iff.mp hm).1

/-- A record that shares a key with a new one is the tenant's. -/
theorem newMessage_clash {db : Db} {newId : UUID} {now : Timestamp} {routeId : UUID}
    {rq : SendMessage} {kind : MessageKind} (hu : db.Unused newId) :
    ∀ m ∈ db.apiMessages.rows, clash m (newMessage newId now tenantId routeId rq kind) = true →
      (m.tenantId == tenantId) = true := by
  intro m hm hc
  have hid : (m.id == newId) = false := beq_eq_false_iff_ne.mpr (hu.apiMessages m hm)
  have hkey : sameKey m.idempotencyIndex
      (newMessage newId now tenantId routeId rq kind).idempotencyIndex = true := by
    simpa [clash, sameKey, newMessage, hid] using hc
  obtain ⟨k, hold, hnew⟩ := sameKey_iff.mp hkey
  simp only [ApiMessage.idempotencyIndex, newMessage, Option.map_eq_some_iff] at hold hnew
  obtain ⟨_, -, rfl⟩ := hold
  obtain ⟨_, -, he⟩ := hnew
  simpa using (congrArg Prod.fst he).symm

/-- Reserving fails in the same way or gives the same reservation. -/
theorem reserve_agree (h : db₁.SameFor (· == tenantId) db₂) {newId : UUID} (now : Timestamp)
    (rq : SendMessage) (kind : MessageKind) (hu₁ : db₁.Unused newId) (hu₂ : db₂.Unused newId) :
    (∃ e, reserve db₁ newId now tenantId rq kind = .error e ∧
        reserve db₂ newId now tenantId rq kind = .error e) ∨
      ∃ res d₁ d₂, reserve db₁ newId now tenantId rq kind = .ok (res, d₁) ∧
        reserve db₂ newId now tenantId rq kind = .ok (res, d₂) ∧ d₁.SameFor (· == tenantId) d₂ := by
  unfold reserve reserveSelect
  rw [firstActiveRoute_agree h, existingRecord_agree h]
  cases firstActiveRoute db₂ tenantId with
  | none => exact Or.inl ⟨_, rfl, rfl⟩
  | some route =>
    cases rq.bindable with
    | false => exact Or.inl ⟨_, rfl, rfl⟩
    | true =>
      cases existingRecord db₂ tenantId rq.idempotencyKey with
      | some m => exact Or.inr ⟨_, _, _, rfl, rfl, h⟩
      | none =>
        simp only [if_true, reserveInsert]
        split
        · rcases h.apiMessages.insert?_cases (newMessage_clash hu₁) (newMessage_clash hu₂) with
            ⟨ht₁, ht₂⟩ | ⟨t₁, t₂, ht₁, ht₂, hsame⟩
          · rw [ht₁, ht₂]
            exact Or.inl ⟨_, rfl, rfl⟩
          · rw [ht₁, ht₂]
            exact Or.inr ⟨_, _, _, rfl, rfl, h.routes, h.contacts, hsame, h.sessions⟩
        · exact Or.inl ⟨_, rfl, rfl⟩

/-- The same update of messages keeps the agreement. -/
theorem updateApiMessages_agree (h : db₁.SameFor (· == tenantId) db₂) (p : ApiMessage → Bool)
    (f : ApiMessage → ApiMessage) (hf : ∀ m, (f m).id = m.id ∧ (f m).tenantId = m.tenantId ∧
      (f m).idempotencyKey = m.idempotencyKey) :
    (db₁.updateApiMessages p f hf).SameFor (· == tenantId) (db₂.updateApiMessages p f hf) :=
  ⟨h.routes, h.contacts, h.apiMessages.update (ApiMessage.keeps hf) fun m _ => by rw [(hf m).2.1],
    h.sessions⟩

/-- A message of the tenant is found by its id in both databases or in neither. -/
theorem messageById_agree (h : db₁.SameFor (· == tenantId) db₂) {messageId : UUID}
    (ho : db₁.OwnsMessage tenantId messageId) :
    messageById db₁ messageId = messageById db₂ messageId := by
  obtain ⟨m, hm, ht⟩ := ho
  obtain ⟨hmem, hid⟩ := messageById_eq_some.mp hm
  rw [hm]
  exact (messageById_eq_some.mpr ⟨(h.apiMessages.mem_iff (by simp [ht])).mp hmem, hid⟩).symm

theorem concludeSend_agree (env : Env) (h : db₁.SameFor (· == tenantId) db₂) (now : Timestamp)
    {messageId : UUID} (outcome : SendOutcome) (ho : db₁.OwnsMessage tenantId messageId) :
    (concludeSend env db₁ now messageId outcome).2 =
      (concludeSend env db₂ now messageId outcome).2 ∧
      (concludeSend env db₁ now messageId outcome).1.SameFor (· == tenantId)
        (concludeSend env db₂ now messageId outcome).1 := by
  cases outcome with
  | raised => exact ⟨rfl, h⟩
  | failed code message retryable =>
    simp only [concludeSend, recordFail]
    cases failTexts env code message with
    | error e => exact ⟨rfl, h⟩
    | ok texts =>
      exact ⟨rfl, updateApiMessages_agree h _ (ApiMessage.fail texts retryable)
        fun _ => ⟨rfl, rfl, rfl⟩⟩
  | ok wamid =>
    simp only [concludeSend, recordOk]
    cases sqlText env wamid with
    | error e => exact ⟨rfl, h⟩
    | ok text =>
      simp only [bind, Except.bind, pure, Except.pure]
      rw [messageById_update, messageById_update, messageById_agree h ho, if_pos rfl]
      have hrows := updateApiMessages_agree h (fun m => m.id == messageId)
        (ApiMessage.succeed text now) fun _ => ⟨rfl, rfl, rfl⟩
      cases (messageById db₂ messageId).map (ApiMessage.succeed text now) with
      | none => exact ⟨rfl, hrows⟩
      | some m => exact ⟨rfl, hrows⟩

theorem sendMessage_agree (env : Env) (h : db₁.SameFor (· == tenantId) db₂) (inp : ApiInput)
    (rq : SendMessage) (hu₁ : db₁.Unused inp.newId) (hu₂ : db₂.Unused inp.newId) :
    ApiResult.Agrees tenantId (sendMessage env db₁ inp tenantId rq)
      (sendMessage env db₂ inp tenantId rq) := by
  unfold sendMessage
  cases rq.body.kind with
  | none => exact .of_read h rfl
  | some kind =>
    rcases reserve_agree h inp.now rq kind hu₁ hu₂ with ⟨e, h₁, h₂⟩ | ⟨res, d₁, d₂, h₁, h₂, hd⟩
    · simp only [h₁, h₂]
      exact .of_read h rfl
    · simp only [h₁, h₂]
      cases hdec : decideSend env rq res with
      | answer response => exact .of_read hd rfl
      | send messageId number =>
        have hagree := concludeSend_agree env hd inp.sentAt
          (inp.client ⟨number, rq.body.toE164, rq.body.content⟩) (reserve_owned h₁ hdec)
        exact ⟨hagree.1, rfl, hagree.2⟩

/-- Databases that agree on the tenant's rows give the same answer and agree again. -/
theorem handle_agree (env : Env) (inp : ApiInput) (op : Operation)
    (h : db₁.SameFor (· == tenantId) db₂) (hu₁ : db₁.Unused inp.newId) (hu₂ : db₂.Unused inp.newId)
    (h₁ : ¬ Refused db₁ tenantId op) (h₂ : ¬ Refused db₂ tenantId op) :
    ApiResult.Agrees tenantId (handle env db₁ inp tenantId op)
      (handle env db₂ inp tenantId op) := by
  cases op with
  | putContact body => exact putContact_agree h inp body hu₁ hu₂ h₁ h₂
  | listContacts status userId page => exact .of_read h (listContacts_agree h status userId page)
  | getContact contactId =>
    refine .of_read h ?_
    unfold getContact
    rw [findOwnContact_agree h]
  | patchContact contactId body => exact patchContact_agree h contactId body
  | revokeContact contactId => exact revokeContact_agree h contactId
  | createRoute body => exact createRoute_agree h inp body hu₁ hu₂ h₁ h₂
  | listRoutes => exact .of_read h (listRoutes_agree h)
  | patchRoute routeId body => exact patchRoute_agree h routeId body
  | sendMessage request => exact sendMessage_agree env h inp request hu₁ hu₂
  | getMessage messageId => exact .of_read h (getMessage_agree h messageId)
  | listSessions state contactId dealId page =>
    exact .of_read h (listSessions_agree h state contactId dealId page)
  | getSession sessionId => exact .of_read h (getSession_agree h sessionId)

end TwoRuns

/-- A refused operation answers 409 and changes nothing at all. -/
theorem handle_refused (env : Env) {db : Db} (inp : ApiInput) {tenantId : UUID} {op : Operation}
    (h : Refused db tenantId op) : handle env db inp tenantId op = ⟨db, refusal op, []⟩ := by
  cases op with
  | putContact body =>
    obtain ⟨hn, c, hc, hp, ht⟩ := h
    have hfind := contactOfPhone_eq_some.mpr ⟨hc, hp⟩
    have hne : (c.tenantId == tenantId) = false := by simpa using ht
    simp only [handle, putContact, hn, hfind, hne]
    rfl
  | createRoute body =>
    obtain ⟨hb, r, hr, hp, -⟩ := h
    have hins : db.routes.insert? (newRoute inp.newId inp.now tenantId body) = none :=
      Table.insert?_eq_none.mpr ⟨r, hr, by simp [clash, sameKey, newRoute, hp]⟩
    simp only [handle, createRoute, hb, hins]
    rfl
  | _ => exact absurd h id

/-- Isolation of every operation: other tenants' rows are unchanged; a refusal on account
of another tenant's row answers 409 and changes nothing; in all other cases the answer, the
calls to Meta and the tenant's resulting rows depend on the tenant's rows alone. Generated
ids are taken to be unused, as those of `gen_random_uuid()` are. -/
theorem api_tenant_isolation (env : Env) (inp : ApiInput) (tenantId : UUID) (op : Operation) :
    (∀ db, (handle env db inp tenantId op).db.SameFor (· != tenantId) db) ∧
      (∀ db, Refused db tenantId op →
        handle env db inp tenantId op = ⟨db, refusal op, []⟩) ∧
      ∀ db₁ db₂, db₁.Unused inp.newId → db₂.Unused inp.newId → ¬ Refused db₁ tenantId op →
        ¬ Refused db₂ tenantId op → db₁.SameFor (· == tenantId) db₂ →
          ApiResult.Agrees tenantId (handle env db₁ inp tenantId op)
            (handle env db₂ inp tenantId op) := by
  refine ⟨fun db => handle_frame env db inp tenantId op, fun db h => handle_refused env inp h, ?_⟩
  intro db₁ db₂ hu₁ hu₂ h₁ h₂ h
  exact handle_agree env inp op h hu₁ hu₂ h₁ h₂

/-- A contact of tenant 2. -/
def otherTenantsContact : Contact :=
  ⟨5, "+919876543210", 6, 2, some 3, .active, .en, none, none, 0⟩

/-- A database with a contact of tenant 2 and nothing else. -/
def otherTenantDb : Db := { Db.empty with contacts := .singleton otherTenantsContact }

/-- A binding of a phone for a user of tenant 1. -/
def bindPhone (phone : String) : ContactIn := ⟨phone, 7, 3, .en, .active⟩

/-- Generated values of a request that sends nothing. -/
def quietInput : ApiInput := ⟨0, 0, 9, fun _ => .raised⟩

theorem otherTenantDb_free :
    ¬ Refused otherTenantDb 1 (.putContact (bindPhone "+919876500000")) := by
  rintro ⟨-, c, hc, hp, -⟩
  rw [List.mem_singleton.mp hc] at hp
  exact absurd hp (by decide)

theorem otherTenantDb_taken : Refused otherTenantDb 1 (.putContact (bindPhone "+919876543210")) :=
  ⟨by decide, otherTenantsContact, List.mem_singleton.mpr rfl, rfl, by decide⟩

theorem empty_unused (newId : UUID) : Db.empty.Unused newId where
  routes _ h := absurd h List.not_mem_nil
  contacts _ h := absurd h List.not_mem_nil
  apiMessages _ h := absurd h List.not_mem_nil

theorem otherTenantDb_unused : otherTenantDb.Unused quietInput.newId where
  routes _ h := absurd h List.not_mem_nil
  contacts c hc := by
    rw [List.mem_singleton.mp hc]
    decide
  apiMessages _ h := absurd h List.not_mem_nil

theorem otherTenantDb_sameFor : otherTenantDb.SameFor (· == 1) Db.empty where
  routes := rfl
  contacts := List.filter_cons_of_neg (by decide)
  apiMessages := rfl
  sessions := rfl

/-- Binding a free phone for tenant 1 goes the same way with and without the contact of
tenant 2; the phone of that contact is refused. -/
theorem api_tenant_isolation_putContact :
    ApiResult.Agrees 1
        (handle (.ofRecording "s" []) otherTenantDb quietInput 1
          (.putContact (bindPhone "+919876500000")))
        (handle (.ofRecording "s" []) Db.empty quietInput 1
          (.putContact (bindPhone "+919876500000"))) ∧
      handle (.ofRecording "s" []) otherTenantDb quietInput 1
          (.putContact (bindPhone "+919876543210")) =
        ⟨otherTenantDb, refusal (.putContact (bindPhone "+919876543210")), []⟩ :=
  ⟨(api_tenant_isolation (.ofRecording "s" []) quietInput 1
      (.putContact (bindPhone "+919876500000"))).2.2 otherTenantDb Db.empty
      otherTenantDb_unused (empty_unused _) otherTenantDb_free
      (fun ⟨_, _, hc, _⟩ => nomatch hc) otherTenantDb_sameFor,
    (api_tenant_isolation (.ofRecording "s" []) quietInput 1
      (.putContact (bindPhone "+919876543210"))).2.1 otherTenantDb otherTenantDb_taken⟩

end WaService
