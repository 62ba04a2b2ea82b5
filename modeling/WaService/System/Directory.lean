import WaService.Api.Routes
import WaService.Core.Keyed
import WaService.Wa.Router

/-!
# The directory

What the contact and route operations of the API are for, apart from tables and statements: a
directory that says who is bound to a phone and whose a business number is. A tenant enters what is
free and changes what is its own, and nobody else's entry is touched or shown. The router reads the
directory, and nothing else, for the identity behind a payload.
-/

namespace WaService

open Python Relational

/-- Who is bound to a phone, and what a business number is registered as. -/
structure Directory where
  contacts : String → Option ContactOut
  numbers : String → Option Route

namespace Directory

/-- Nothing is bound or registered. -/
def empty : Directory := ⟨fun _ => none, fun _ => none⟩

variable (d : Directory)

/-- The contact is the one bound to its phone. -/
def Bound (c : ContactOut) : Prop := d.contacts c.phoneE164 = some c

/-- The route is the one registered for its number. -/
def Registered (r : Route) : Prop := d.numbers r.phoneNumberId = some r

/-- Bind a contact to its phone. -/
def bind (c : ContactOut) : Directory :=
  { d with contacts := Function.update d.contacts c.phoneE164 (some c) }

/-- Register a route for its number. -/
def register (r : Route) : Directory :=
  { d with numbers := Function.update d.numbers r.phoneNumberId (some r) }

end Directory

/-! ## Entries -/

/-- The contact that a first binding enters. -/
def binding (inp : ApiInput) (tenantId : UUID) (body : ContactIn) : ContactOut where
  id := inp.newId
  phoneE164 := body.phoneE164
  userId := body.userId
  tenantId := tenantId
  orgUnitId := some body.orgUnitId
  status := body.status
  locale := body.locale
  lastSeenAt := none
  createdAt := inp.now

/-- The contact that a further binding leaves. -/
def ContactOut.rebound (body : ContactIn) (c : ContactOut) : ContactOut :=
  { c with
    userId := body.userId
    orgUnitId := some body.orgUnitId
    status := body.status
    locale := body.locale }

/-- The contact that a patch leaves: what the patch does not name stays. -/
def ContactOut.amended (body : ContactPatch) (c : ContactOut) : ContactOut :=
  { c with
    status := body.status.getD c.status
    locale := body.locale.getD c.locale
    orgUnitId := body.orgUnitId.or c.orgUnitId }

/-- In the order of creation, and of the ids for one time. -/
def ContactOut.before (a b : ContactOut) : Prop :=
  olderFirst a.createdAt a.id b.createdAt b.id = true

/-- In the order of creation, and of the ids for one time. -/
def Route.before (a b : Route) : Prop := olderFirst a.createdAt a.id b.createdAt b.id = true

/-! ## Requests -/

/-- A request of a tenant with its answer, and the directory after it. -/
inductive Directory.Answers (d : Directory) (inp : ApiInput) (tenantId : UUID) :
    Operation → Response → Directory → Prop
  | bind {body : ContactIn} (htext : Json.hasNul body.phoneE164 = false)
      (hfree : d.contacts body.phoneE164 = none) (hfresh : ∀ c, d.Bound c → c.id ≠ inp.newId) :
      Answers d inp tenantId (.putContact body) (.contact (binding inp tenantId body))
        (d.bind (binding inp tenantId body))
  | rebind {body : ContactIn} {c : ContactOut} (htext : Json.hasNul body.phoneE164 = false)
      (h : d.Bound c) (hphone : c.phoneE164 = body.phoneE164) (hown : c.tenantId = tenantId) :
      Answers d inp tenantId (.putContact body) (.contact (c.rebound body))
        (d.bind (c.rebound body))
  | foreign {body : ContactIn} {c : ContactOut} (htext : Json.hasNul body.phoneE164 = false)
      (h : d.Bound c) (hphone : c.phoneE164 = body.phoneE164) (hother : c.tenantId ≠ tenantId) :
      Answers d inp tenantId (.putContact body)
        (.error 409 (.str "PHONE_BOUND_TO_OTHER_TENANT")) d
  | unbindable {body : ContactIn} (h : Json.hasNul body.phoneE164 = true ∨
      d.contacts body.phoneE164 = none ∧ ∃ c, d.Bound c ∧ c.id = inp.newId) :
      Answers d inp tenantId (.putContact body) .raised d
  | list {status : Option ContactStatus} {userId : Option UUID} {page : Page}
      {all cs : List ContactOut}
      (hall : Listing (fun c => d.Bound c ∧ c.tenantId = tenantId ∧
        (∀ s ∈ status, c.status = s) ∧ ∀ u ∈ userId, c.userId = u) ContactOut.before all)
      (hpage : page.slice all = some cs) :
      Answers d inp tenantId (.listContacts status userId page) (.contacts cs) d
  | beyond {status : Option ContactStatus} {userId : Option UUID} {page : Page}
      (h : 2 ^ 63 ≤ page.offset) :
      Answers d inp tenantId (.listContacts status userId page) .raised d
  | get {c : ContactOut} (h : d.Bound c) (hown : c.tenantId = tenantId) :
      Answers d inp tenantId (.getContact c.id) (.contact c) d
  | noContact {contactId : UUID} {op : Operation}
      (hop : op = .getContact contactId ∨
        (∃ body : ContactPatch, body.isEmpty = false ∧ op = .patchContact contactId body) ∨
        op = .revokeContact contactId)
      (h : ∀ c, d.Bound c → c.id = contactId → c.tenantId ≠ tenantId) :
      Answers d inp tenantId op (notFound "CONTACT") d
  | patch {c : ContactOut} {body : ContactPatch} (hbody : body.isEmpty = false) (h : d.Bound c)
      (hown : c.tenantId = tenantId) :
      Answers d inp tenantId (.patchContact c.id body) (.contact (c.amended body))
        (d.bind (c.amended body))
  | noFields {contactId : UUID} {body : ContactPatch} (hbody : body.isEmpty = true) :
      Answers d inp tenantId (.patchContact contactId body)
        (.error 422 (.str "NO_FIELDS_TO_UPDATE")) d
  | revoke {c : ContactOut} (h : d.Bound c) (hown : c.tenantId = tenantId) :
      Answers d inp tenantId (.revokeContact c.id) .noContent (d.bind { c with status := .revoked })
  | register {body : RouteIn} (htext : body.bindable = true)
      (hfree : d.numbers body.phoneNumberId = none)
      (hfresh : ∀ r, d.Registered r → r.id ≠ inp.newId) :
      Answers d inp tenantId (.createRoute body)
        (.route 201 (newRoute inp.newId inp.now tenantId body))
        (d.register (newRoute inp.newId inp.now tenantId body))
  | taken {body : RouteIn} {r : Route} (htext : body.bindable = true) (h : d.Registered r)
      (hsame : r.phoneNumberId = body.phoneNumberId ∨ r.id = inp.newId) :
      Answers d inp tenantId (.createRoute body)
        (.error 409 (.str "PHONE_NUMBER_ID_ALREADY_REGISTERED")) d
  | unregistrable {body : RouteIn} (htext : body.bindable = false) :
      Answers d inp tenantId (.createRoute body) .raised d
  | listRoutes {all : List Route}
      (hall : Listing (fun r => d.Registered r ∧ r.tenantId = tenantId) Route.before all) :
      Answers d inp tenantId .listRoutes (.routes all) d
  | amend {r : Route} {body : RoutePatch} (hbody : body.isEmpty = false)
      (htext : body.displayNumber.any Json.hasNul = false) (h : d.Registered r)
      (hown : r.tenantId = tenantId) :
      Answers d inp tenantId (.patchRoute r.id body) (.route 200 (r.patched body))
        (d.register (r.patched body))
  | noRoute {routeId : UUID} {body : RoutePatch} (hbody : body.isEmpty = false)
      (htext : body.displayNumber.any Json.hasNul = false)
      (h : ∀ r, d.Registered r → r.id = routeId → r.tenantId ≠ tenantId) :
      Answers d inp tenantId (.patchRoute routeId body) (notFound "ROUTE") d
  | noRouteFields {routeId : UUID} {body : RoutePatch} (hbody : body.isEmpty = true) :
      Answers d inp tenantId (.patchRoute routeId body)
        (.error 422 (.str "NO_FIELDS_TO_UPDATE")) d
  | unamendable {routeId : UUID} {body : RoutePatch} (hbody : body.isEmpty = false)
      (htext : body.displayNumber.any Json.hasNul = true) :
      Answers d inp tenantId (.patchRoute routeId body) .raised d
  | sendMessage {request : SendMessage} {answer : Response} :
      Answers d inp tenantId (.sendMessage request) answer d
  | getMessage {messageId : UUID} {answer : Response} :
      Answers d inp tenantId (.getMessage messageId) answer d
  | listSessions {state : Option String} {contactId dealId : Option UUID} {page : Page}
      {answer : Response} :
      Answers d inp tenantId (.listSessions state contactId dealId page) answer d
  | getSession {sessionId : UUID} {answer : Response} :
      Answers d inp tenantId (.getSession sessionId) answer d

/-- A request with its answer. -/
structure DirectoryEvent where
  inp : ApiInput
  tenantId : UUID
  op : Operation
  answer : Response

/-- One request to the directory. -/
def Directory.Step (d : Directory) (e : DirectoryEvent) (d' : Directory) : Prop :=
  d.Answers e.inp e.tenantId e.op e.answer d'

/-- The phone is bound to the contact with the id, of the tenant. -/
def Directory.Holds (phone : String) (id tenantId : UUID) (d : Directory) : Prop :=
  ∃ c, d.contacts phone = some c ∧ c.id = id ∧ c.tenantId = tenantId

theorem Directory.Holds.bind {d : Directory} {phone : String} {id tenantId : UUID}
    (h : d.Holds phone id tenantId) {c c' : ContactOut} (hc : d.contacts c'.phoneE164 = some c)
    (hid : c'.id = c.id) (htenant : c'.tenantId = c.tenantId) :
    (d.bind c').Holds phone id tenantId := by
  obtain ⟨b, hb, rfl, rfl⟩ := h
  by_cases hphone : phone = c'.phoneE164
  · subst hphone
    obtain rfl : c = b := Option.some.inj (hc.symm.trans hb)
    exact ⟨c', by simp [Directory.bind], hid, htenant⟩
  · exact ⟨b, by simp [Directory.bind, hphone, hb], rfl, rfl⟩

/-- No request takes a phone from its contact. -/
theorem Directory.Step.holds {d d' : Directory} {e : DirectoryEvent} {phone : String}
    {id tenantId : UUID} (hd : d.Holds phone id tenantId) (h : d.Step e d') :
    d'.Holds phone id tenantId := by
  unfold Directory.Step at h
  generalize e.op = op, e.answer = answer at h
  cases h with
  | @bind body htext hfree hfresh =>
    obtain ⟨b, hb, hid, htenant⟩ := hd
    have hother : phone ≠ body.phoneE164 := by
      rintro rfl
      rw [hfree] at hb
      cases hb
    exact ⟨b, (Function.update_of_ne hother _ _).trans hb, hid, htenant⟩
  | rebind htext hc hphone hown => exact hd.bind hc rfl rfl
  | patch hbody hc hown => exact hd.bind hc rfl rfl
  | revoke hc hown => exact hd.bind hc rfl rfl
  | _ => exact hd

/-! ## Who has sent a payload -/

/-- The identity behind a payload: the active number it came to, and the active contact of the
number's tenant that is bound to the phone it came from. -/
def Directory.Identity (d : Directory) (phoneNumberId : Option String) (payload : Json)
    (ctx : ResolvedContext) : Prop :=
  ∃ number r phone c orgUnitId, phoneNumberId = some number ∧ number ≠ "" ∧
    d.numbers number = some r ∧ r.active = true ∧
    extractSenderPhone payload = .ok (some phone) ∧ phone ≠ "" ∧
    d.contacts phone = some c ∧ c.tenantId = r.tenantId ∧ c.status = .active ∧
    c.orgUnitId = some orgUnitId ∧
    ctx = ⟨r.tenantId, c.userId, c.id, orgUnitId, c.locale, r.id⟩

end WaService
