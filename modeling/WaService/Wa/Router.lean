import WaService.Wa.Webhook

/-!
# Identity resolution

Phone number to contact, user, tenant and organisation unit. The route gives the
tenant, the first entry of the payload's contacts list gives the sender, and the
contact must be bound to that tenant and active.
-/

namespace WaService

open Python Relational

/-- The reasons of a `RoutingError`. -/
inductive RoutingReason where
  | noPhoneNumberId
  | notRegistered (phoneNumberId : String)
  | noSenderPhone
  | notBound (phone : String) (tenantId : UUID)
  | contactStatus (status : ContactStatus)
  deriving DecidableEq, Repr

/-- A failed resolution: a `RoutingError` with its `ignore` flag, or another exception. -/
inductive Failure where
  | routing (reason : RoutingReason) (ignore : Bool)
  | python (e : Error)
  deriving DecidableEq, Repr

/-- The identity behind one inbound payload. -/
structure ResolvedContext where
  tenantId : UUID
  userId : UUID
  contactId : UUID
  orgUnitId : UUID
  locale : Locale
  routeId : UUID
  deriving DecidableEq, Repr

/-- The active route registered for a business number. -/
def activeRoute (db : Db) (phoneNumberId : String) : Option Route :=
  db.routes.rows.find? fun r => r.phoneNumberId == phoneNumberId && r.active

/-- Route and tenant of an active business number. -/
def resolveRoute (db : Db) (phoneNumberId : Option String) : Except Failure (UUID × UUID) :=
  match phoneNumberId with
  | none => .error (.routing .noPhoneNumberId true)
  | some number =>
    if number == "" then .error (.routing .noPhoneNumberId true)
    else
      match activeRoute db number with
      | some r => .ok (r.id, r.tenantId)
      | none => .error (.routing (.notRegistered number) true)

/-- The active contact of a tenant with a given phone. -/
def resolveContact (db : Db) (senderPhone : String) (tenantId : UUID) : Except Failure Contact :=
  match db.contacts.rows.find? fun c => c.phoneE164 == senderPhone && c.tenantId == tenantId with
  | none => .error (.routing (.notBound senderPhone tenantId) false)
  | some c =>
    if c.status == .active then .ok c else .error (.routing (.contactStatus c.status) false)

/-- `f"+{wa_id}"` unless the id is empty or already starts with a plus; a value that is
not a string is returned as it is when falsy and has no `startswith` otherwise. -/
def plusPrefixed (waId : Json) : Except Error (Option String) :=
  match waId with
  | .str s =>
    if s == "" || startsWith s ['+'] then .ok (some s) else .ok (some ("+" ++ s))
  | other => if other.truthy then .error .attributeError else .ok none

/-- Treat the exceptions of a failed extraction as no value:
`except (KeyError, IndexError, AttributeError)`. -/
def onExtractError {α : Type} (fallback : α) : Except Error α → Except Error α
  | .error .keyError | .error .indexError | .error .attributeError => .ok fallback
  | r => r

/-- The phone of the first entry of the contacts list. -/
def extractSenderPhone (payload : Json) : Except Error (Option String) :=
  onExtractError none do
    let value ← firstValue payload
    let contacts ← value.getItem "contacts"
    let contact ← contacts.item0
    let waId ← contact.getItem "wa_id"
    plusPrefixed waId

/-- Route, then contact, then the identifiers; a missing organisation unit is a
`ValueError` of `UUID(str(None))`. -/
def resolveFullContext (db : Db) (phoneNumberId : Option String) (payload : Json) :
    Except Failure ResolvedContext := do
  let (routeId, tenantId) ← resolveRoute db phoneNumberId
  let sender ← (extractSenderPhone payload).mapError .python
  match sender with
  | none => throw (.routing .noSenderPhone true)
  | some phone =>
    if phone == "" then throw (.routing .noSenderPhone true)
    else
      let contact ← resolveContact db phone tenantId
      match contact.orgUnitId with
      | none => throw (.python .valueError)
      | some orgUnitId =>
        return ⟨tenantId, contact.userId, contact.id, orgUnitId, contact.locale, routeId⟩

/-- Two contacts of the table with one id are one row. -/
theorem contact_eq_of_id {db : Db} {c d : Contact} (hc : c ∈ db.contacts.rows)
    (hd : d ∈ db.contacts.rows) (hid : c.id = d.id) : c = d := by
  apply Table.eq_of_clash hc hd
  simp [clash, sameKey, hid]

/-- What a resolved identity rests on: an active route of the tenant for the business
number, and an active contact of the tenant with the phone of the payload's sender. -/
structure Identifies (db : Db) (phoneNumberId : Option String) (payload : Json)
    (tenantId contactId : UUID) : Prop where
  route : ∃ r ∈ db.routes.rows, phoneNumberId = some r.phoneNumberId ∧ r.active = true ∧
    r.tenantId = tenantId
  contact : ∃ c ∈ db.contacts.rows, c.id = contactId ∧ c.tenantId = tenantId ∧
    c.status = .active ∧ extractSenderPhone payload = .ok (some c.phoneE164)

theorem resolveRoute_ok {db : Db} {phoneNumberId : Option String} {routeId tenantId : UUID}
    (h : resolveRoute db phoneNumberId = .ok (routeId, tenantId)) :
    ∃ r ∈ db.routes.rows, phoneNumberId = some r.phoneNumberId ∧ r.active = true ∧
      r.tenantId = tenantId := by
  unfold resolveRoute at h
  split at h
  · contradiction
  · split at h
    · contradiction
    · split at h
      · rename_i r hr
        cases h
        have hsel := List.find?_some hr
        simp only [Bool.and_eq_true, beq_iff_eq] at hsel
        exact ⟨r, List.mem_of_find?_eq_some hr, by rw [hsel.1], hsel.2, rfl⟩
      · contradiction

theorem resolveContact_ok {db : Db} {senderPhone : String} {tenantId : UUID} {c : Contact}
    (h : resolveContact db senderPhone tenantId = .ok c) :
    c ∈ db.contacts.rows ∧ c.phoneE164 = senderPhone ∧ c.tenantId = tenantId ∧
      c.status = .active := by
  unfold resolveContact at h
  split at h
  · contradiction
  · rename_i c' hc
    split at h
    · rename_i hactive
      cases h
      have hsel := List.find?_some hc
      simp only [Bool.and_eq_true, beq_iff_eq] at hsel
      exact ⟨List.mem_of_find?_eq_some hc, hsel.1, hsel.2, by simpa using hactive⟩
    · contradiction

/-- A resolved context is identified by a route and a contact. -/
theorem resolveFullContext_identifies {db : Db} {phoneNumberId : Option String} {payload : Json}
    {ctx : ResolvedContext} (h : resolveFullContext db phoneNumberId payload = .ok ctx) :
    Identifies db phoneNumberId payload ctx.tenantId ctx.contactId := by
  obtain ⟨⟨routeId, tenantId⟩, hroute, h⟩ := bind_eq_ok.mp h
  obtain ⟨sender, hsender, h⟩ := bind_eq_ok.mp h
  split at h
  · contradiction
  · rename_i phone
    split at h
    · contradiction
    · obtain ⟨contact, hcontact, h⟩ := bind_eq_ok.mp h
      split at h
      · contradiction
      · cases h
        obtain ⟨hmem, hphone, htenant, hactive⟩ := resolveContact_ok hcontact
        refine ⟨resolveRoute_ok hroute, contact, hmem, rfl, htenant, hactive, ?_⟩
        rw [hphone]
        cases hs : extractSenderPhone payload with
        | error e =>
          rw [hs] at hsender
          contradiction
        | ok p =>
          rw [hs] at hsender
          cases hsender
          rfl

end WaService
