import Mathlib.Data.List.Sort
import WaService.Schema.Environment

/-!
# Deals

Exact lookup by booking number, then a trigram candidate; provisional creation,
confirmation, and the review task that an ambiguous candidate raises.
-/

namespace WaService

open Python Relational

/-- `_FUZZY_THRESHOLD`. -/
def fuzzyThreshold : Rat := 6 / 10

/-- `pg_trgm.similarity_threshold`, the bound of the operator `%`. -/
def trigramThreshold : Rat := 3 / 10

/-- `_DATE_WINDOW_DAYS`. -/
def dateWindowDays : Int := 3

/-- Fields that DI extracted from a booking form; absent fields are null. -/
structure BookingFields where
  bookingNumber : Json
  customerName : Json
  model : Json
  variant : Json
  bookingDate : Json
  isFinanced : Bool
  hasExchange : Bool
  isCorporate : Bool
  rawFacts : Json
  deriving Repr

/-- `BookingFields()`. -/
def BookingFields.empty : BookingFields :=
  ⟨.null, .null, .null, .null, .null, false, false, false, .obj []⟩

/-- The deal that a lookup found. -/
structure DealMatch where
  dealId : UUID
  bookingNumber : String
  model : Option String
  state : DealState
  isExact : Bool
  similarityScore : Option Rat
  deriving DecidableEq, Repr

/-- A nullable `date` parameter. -/
def sqlDate (env : Env) : Json → Except Error (Option Int)
  | .null => .ok none
  | .str s =>
    match env.parseDate s with
    | some d => .ok (some d)
    | none => .error .dataError
  | _ => .error .programmingError

/-- The deal of a tenant with a given booking number. -/
def dealOfBooking (db : Db) (tenantId : UUID) (bookingNumber : String) : Option Deal :=
  db.deals.rows.find? fun d => d.tenantId == tenantId && d.bookingNumber == bookingNumber

/-- `similarity(customer_name, cust)`; null for a deal without a customer name. -/
def dealSimilarity (env : Env) (customer : String) (d : Deal) : Option Rat :=
  d.customerName.map fun name => env.similarity name customer

/-- The `WHERE` clause of the fuzzy query. -/
def fuzzyCandidate (env : Env) (tenantId : UUID) (customer model : String) (date : Option Int)
    (d : Deal) : Bool :=
  d.tenantId == tenantId && d.model == some model &&
    (match dealSimilarity env customer d with
      | some s => decide (trigramThreshold ≤ s)
      | none => false) &&
    match date with
    | none => true
    | some day =>
      match d.bookingDate with
      | some b => decide (day - dateWindowDays ≤ b ∧ b ≤ day + dateWindowDays)
      | none => false

/-- The most similar candidate: `ORDER BY sim DESC LIMIT 1`. -/
def bestCandidate (env : Env) (db : Db) (tenantId : UUID) (customer model : String)
    (date : Option Int) : Option Deal :=
  ((db.deals.rows.filter (fuzzyCandidate env tenantId customer model date)).insertionSort
    fun a b => (dealSimilarity env customer b).getD 0 ≤
      (dealSimilarity env customer a).getD 0).head?

/-- Exact first, fuzzy second. -/
def findExistingDeal (env : Env) (db : Db) (tenantId : UUID)
    (bookingNumber customerName model bookingDate : Json) : Except Error (Option DealMatch) := do
  let number ← selectText bookingNumber
  match dealOfBooking db tenantId number with
  | some d => return some ⟨d.id, d.bookingNumber, d.model, d.state, true, none⟩
  | none =>
    -- Fuzzy only when there is enough signal.
    match customerName.truthy, model with
    | false, _ => return none
    | true, .null => return none
    | true, m => do
      let customer ← selectText customerName
      let modelText ← selectText m
      let date ← sqlDate env bookingDate
      match bestCandidate env db tenantId customer modelText date with
      | none => return none
      | some d =>
        let sim := (dealSimilarity env customer d).getD 0
        if sim < fuzzyThreshold then return none
        else return some ⟨d.id, d.bookingNumber, d.model, d.state, false, some sim⟩

/-- The second lookup of `find_existing_deal`. -/
def fuzzyMatch (env : Env) (db : Db) (tenantId : UUID) (customerName model bookingDate : Json) :
    Except Error (Option DealMatch) :=
  match customerName.truthy, model with
  | false, _ => return none
  | true, .null => return none
  | true, m => do
    let customer ← selectText customerName
    let modelText ← selectText m
    let date ← sqlDate env bookingDate
    match bestCandidate env db tenantId customer modelText date with
    | none => return none
    | some d =>
      let sim := (dealSimilarity env customer d).getD 0
      if sim < fuzzyThreshold then return none
      else return some ⟨d.id, d.bookingNumber, d.model, d.state, false, some sim⟩

/-- The match that the first lookup returns. -/
def DealMatch.ofExact (d : Deal) : DealMatch :=
  ⟨d.id, d.bookingNumber, d.model, d.state, true, none⟩

theorem findExistingDeal_eq (env : Env) (db : Db) (tenantId : UUID)
    (bookingNumber customerName model bookingDate : Json) :
    findExistingDeal env db tenantId bookingNumber customerName model bookingDate = (do
      let number ← selectText bookingNumber
      match dealOfBooking db tenantId number with
      | some d => return some (.ofExact d)
      | none => fuzzyMatch env db tenantId customerName model bookingDate) :=
  rfl

/-- The deal that a creation produced or found. -/
structure DealCreated where
  dealId : UUID
  bookingNumber : String
  model : Option String
  customerName : Option String
  isProvisional : Bool
  deriving DecidableEq, Repr

/-- The row that a provisional creation inserts. -/
def newDeal (env : Env) (newId : UUID) (now : Timestamp) (tenantId orgUnitId : UUID)
    (bookingNumber customerName : Json) (fields : BookingFields) (dealType : DealType)
    (createdBy : UUID) : Except Error Deal := do
  let number ← sqlText env bookingNumber
  let customer ← sqlText env customerName
  let model ← sqlText env fields.model
  let variant ← sqlText env fields.variant
  let date ← sqlDate env fields.bookingDate
  match number with
  | none => throw .integrityError
  | some n =>
    return {
      id := newId
      tenantId := tenantId
      orgUnitId := some orgUnitId
      bookingNumber := n
      customerName := customer
      customerMobile := none
      model := model
      variant := variant
      bookingDate := date
      dealType := dealType
      isFinanced := fields.isFinanced
      hasExchange := fields.hasExchange
      isCorporate := fields.isCorporate
      state := .provisional
      createdFrom := "whatsapp"
      createdBy := some createdBy
      confirmedBy := none
      confirmedAt := none
      updatedAt := now }

/-- The inserted deal is a provisional one of the tenant, with the type, the creator and the booking
number it is given. -/
theorem newDeal_ok {env : Env} {newId tenantId orgUnitId createdBy : UUID} {now : Timestamp}
    {bookingNumber customerName : Json} {fields : BookingFields} {dealType : DealType} {d : Deal}
    (h : newDeal env newId now tenantId orgUnitId bookingNumber customerName fields dealType
      createdBy = .ok d) :
    d.id = newId ∧ d.tenantId = tenantId ∧ d.createdBy = some createdBy ∧
      sqlText env bookingNumber = .ok (some d.bookingNumber) ∧
      d.dealType = dealType ∧ d.state = .provisional := by
  unfold newDeal at h
  obtain ⟨number, hnumber, h⟩ := bind_eq_ok.mp h
  obtain ⟨_, -, h⟩ := bind_eq_ok.mp h
  obtain ⟨_, -, h⟩ := bind_eq_ok.mp h
  obtain ⟨_, -, h⟩ := bind_eq_ok.mp h
  obtain ⟨_, -, h⟩ := bind_eq_ok.mp h
  cases number with
  | none => contradiction
  | some n =>
    cases h
    exact ⟨rfl, rfl, rfl, hnumber, rfl, rfl⟩

/-- The result of a creation, read from the row. -/
def DealCreated.ofDeal (d : Deal) : DealCreated :=
  ⟨d.id, d.bookingNumber, d.model, d.customerName, true⟩

/-- Insert a provisional deal, or fetch the one that has its booking number. -/
def createProvisionalDeal (env : Env) (db : Db) (newId : UUID) (now : Timestamp)
    (tenantId orgUnitId : UUID) (bookingNumber customerName : Json) (fields : BookingFields)
    (dealType : DealType) (createdBy : UUID) : Except Error (DealCreated × Db) := do
  let deal ← newDeal env newId now tenantId orgUnitId bookingNumber customerName fields dealType
    createdBy
  match dealOfBooking db tenantId deal.bookingNumber with
  | some old => return (.ofDeal old, db)
  | none =>
    match db.deals.insert? deal with
    | some deals => return (.ofDeal deal, { db with deals := deals })
    | none => throw .integrityError

/-- A created deal is the one that has its booking number, or a new row. -/
theorem createProvisionalDeal_ok {env : Env} {db db' : Db}
    {newId tenantId orgUnitId createdBy : UUID} {now : Timestamp}
    {bookingNumber customerName : Json} {fields : BookingFields}
    {dealType : DealType} {deal : DealCreated}
    (h : createProvisionalDeal env db newId now tenantId orgUnitId bookingNumber customerName fields
      dealType createdBy = .ok (deal, db')) :
    ∃ d, newDeal env newId now tenantId orgUnitId bookingNumber customerName fields dealType
        createdBy = .ok d ∧
      ((∃ old, dealOfBooking db tenantId d.bookingNumber = some old ∧ deal = .ofDeal old ∧
          db' = db) ∨
        (dealOfBooking db tenantId d.bookingNumber = none ∧
          ∃ deals, db.deals.insert? d = some deals ∧
          deal = .ofDeal d ∧ db' = { db with deals := deals })) := by
  obtain ⟨d, hd, h⟩ := bind_eq_ok.mp h
  refine ⟨d, hd, ?_⟩
  split at h
  · rename_i old hold
    cases h
    exact Or.inl ⟨old, hold, rfl, rfl⟩
  · rename_i hnone
    split at h
    · rename_i deals hins
      cases h
      exact Or.inr ⟨hnone, deals, hins, rfl, rfl⟩
    · contradiction

/-- A deal found by its booking number has the tenant and the number. -/
theorem dealOfBooking_some {db : Db} {tenantId : UUID} {bookingNumber : String} {d : Deal}
    (h : dealOfBooking db tenantId bookingNumber = some d) :
    d ∈ db.deals.rows ∧ d.tenantId = tenantId ∧ d.bookingNumber = bookingNumber := by
  have hsel := List.find?_some h
  simp only [Bool.and_eq_true, beq_iff_eq] at hsel
  exact ⟨List.mem_of_find?_eq_some h, hsel.1, hsel.2⟩

section Lookup

variable {env : Env} {db : Db} {tenantId : UUID}
  {bookingNumber customerName model bookingDate : Json} {found : DealMatch}

/-- A fuzzy match is a deal of the tenant and not exact. -/
theorem fuzzyMatch_some
    (h : fuzzyMatch env db tenantId customerName model bookingDate = .ok (some found)) :
    (∃ d ∈ db.deals.rows, d.id = found.dealId ∧ d.tenantId = tenantId) ∧ found.isExact = false := by
  unfold fuzzyMatch at h
  split at h
  · cases h
  · cases h
  · obtain ⟨customer, -, h⟩ := bind_eq_ok.mp h
    obtain ⟨modelText, -, h⟩ := bind_eq_ok.mp h
    obtain ⟨date, -, h⟩ := bind_eq_ok.mp h
    split at h
    · cases h
    · rename_i d hbest
      simp only at h
      split at h
      · cases h
      · cases h
        have hmem := List.mem_of_mem_head? hbest
        rw [List.mem_insertionSort, List.mem_filter] at hmem
        obtain ⟨hrow, hcandidate⟩ := hmem
        simp only [fuzzyCandidate, Bool.and_eq_true, beq_iff_eq] at hcandidate
        exact ⟨⟨d, hrow, rfl, hcandidate.1.1.1⟩, rfl⟩

/-- What a lookup finds is the deal of the booking number, or a fuzzy match. -/
theorem findExistingDeal_cases
    (h : findExistingDeal env db tenantId bookingNumber customerName model bookingDate =
      .ok (some found)) :
    (∃ number d, selectText bookingNumber = .ok number ∧
      dealOfBooking db tenantId number = some d ∧ found = .ofExact d) ∨
    fuzzyMatch env db tenantId customerName model bookingDate = .ok (some found) := by
  rw [findExistingDeal_eq] at h
  obtain ⟨number, hnumber, h⟩ := bind_eq_ok.mp h
  split at h
  · rename_i d hd
    cases h
    exact Or.inl ⟨number, d, hnumber, hd, rfl⟩
  · exact Or.inr h

/-- What a lookup finds is a deal of the tenant. -/
theorem findExistingDeal_some
    (h : findExistingDeal env db tenantId bookingNumber customerName model bookingDate =
      .ok (some found)) :
    ∃ d ∈ db.deals.rows, d.id = found.dealId ∧ d.tenantId = tenantId := by
  obtain ⟨number, d, -, hd, rfl⟩ | hfuzzy := findExistingDeal_cases h
  · obtain ⟨hmem, htenant, -⟩ := dealOfBooking_some hd
    exact ⟨d, hmem, rfl, htenant⟩
  · exact (fuzzyMatch_some hfuzzy).1

/-- An exact match is the deal that has the booking number. -/
theorem findExistingDeal_exact
    (h : findExistingDeal env db tenantId bookingNumber customerName model bookingDate =
      .ok (some found)) (hexact : found.isExact = true) :
    ∃ number d, selectText bookingNumber = .ok number ∧
      dealOfBooking db tenantId number = some d ∧ found.dealId = d.id := by
  obtain ⟨number, d, hnumber, hd, rfl⟩ | hfuzzy := findExistingDeal_cases h
  · exact ⟨number, d, hnumber, hd, rfl⟩
  · rw [(fuzzyMatch_some hfuzzy).2] at hexact
    contradiction

end Lookup

/-- An update of deals that keeps identity, tenant and booking number. -/
theorem Deal.keeps {p : Deal → Bool} {f : Deal → Deal}
    (h : ∀ d, (f d).id = d.id ∧ (f d).tenantId = d.tenantId ∧
      (f d).bookingNumber = d.bookingNumber) : Table.Keeps p f :=
  Table.keeps_of fun d _ => by
    obtain ⟨hid, ht, hb⟩ := h d
    exact ⟨Or.inl (by rw [hid]), Or.inl (by rw [ht, hb])⟩

/-- `UPDATE doc.deal`: apply `f` to the deals that `p` selects. -/
def Db.updateDeals (db : Db) (p : Deal → Bool) (f : Deal → Deal)
    (h : ∀ d, (f d).id = d.id ∧ (f d).tenantId = d.tenantId ∧
      (f d).bookingNumber = d.bookingNumber) : Db :=
  { db with deals := db.deals.update p f (Deal.keeps h) }

/-- Confirm a provisional deal of the tenant. -/
def confirmDeal (db : Db) (now : Timestamp) (tenantId dealId confirmedBy : UUID) : Db :=
  db.updateDeals (fun d => d.tenantId == tenantId && d.id == dealId && d.state == .provisional)
    (fun d => { d with
      state := .confirmed
      confirmedBy := some confirmedBy
      confirmedAt := some now
      updatedAt := now })
    fun _ => ⟨rfl, rfl, rfl⟩

/-- Open a review task for an ambiguous match, unless one exists for the deal. -/
def raiseAmbiguousReview (db : Db) (newId tenantId : UUID) (found : DealMatch) (detail : String) :
    Db :=
  match db.reviewTasks.insert?
      ⟨newId, tenantId, some found.dealId, "deal_ambiguous", some detail, .open⟩ with
  | some tasks => { db with reviewTasks := tasks }
  | none => db

end WaService
