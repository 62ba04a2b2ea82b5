import Mathlib.Data.List.Sort
import WaService.Core.Format
import WaService.Schema.Environment

/-!
# The document checklist of a deal

Requirements by deal type, satisfaction of items, the state the gap message is
written from, and the message itself.
-/

namespace WaService

open Python Relational

/-- What a checklist looks like to the gap message. -/
structure ChecklistState where
  dealId : UUID
  bookingNumber : String
  blockingTotal : Nat
  blockingSatisfied : Nat
  blockingMissing : List String
  received : List String
  isComplete : Bool
  deriving DecidableEq, Repr

/-- One joined row of `build_checklist`. -/
structure ChecklistRow where
  requirement : Requirement
  satisfied : Bool
  displayName : String
  sort : Nat
  deriving DecidableEq, Repr

/-- The joined row of an item; the foreign key gives every item its type. -/
def ChecklistItem.row (i : ChecklistItem) : Option ChecklistRow :=
  (documentTypes.lookup i.typeKey).map fun t => ⟨i.requirement, i.satisfied, t.1, t.2⟩

/-- `ORDER BY requirement DESC, sort`: optional rows come first. -/
def ChecklistRow.before (a b : ChecklistRow) : Bool :=
  match a.requirement, b.requirement with
  | .optional, .blocking => true
  | .blocking, .optional => false
  | _, _ => a.sort ≤ b.sort

/-- The rows of a deal's checklist in message order. -/
def checklistRows (db : Db) (dealId : UUID) : List ChecklistRow :=
  ((db.checklistItems.rows.filter fun i => i.dealId == dealId).filterMap
    ChecklistItem.row).insertionSort fun a b => a.before b = true

/-- Accumulate one row: `received`, then the blocking counters. -/
def ChecklistState.add (s : ChecklistState) (row : ChecklistRow) : ChecklistState :=
  let s := if row.satisfied then { s with received := s.received ++ [row.displayName] } else s
  match row.requirement with
  | .optional => s
  | .blocking =>
    let s := { s with blockingTotal := s.blockingTotal + 1 }
    if row.satisfied then { s with blockingSatisfied := s.blockingSatisfied + 1 }
    else { s with blockingMissing := s.blockingMissing ++ [row.displayName] }

/-- The checklist state of a list of rows. -/
def checklistOfRows (dealId : UUID) (bookingNumber : String) (rows : List ChecklistRow) :
    ChecklistState :=
  let s := rows.foldl ChecklistState.add ⟨dealId, bookingNumber, 0, 0, [], [], false⟩
  { s with isComplete := decide (0 < s.blockingTotal) && s.blockingSatisfied == s.blockingTotal }

/-- The row counts for the completeness of its checklist. -/
def ChecklistRow.isBlocking (row : ChecklistRow) : Bool := row.requirement == .blocking

/-- The counters of the blocking rows. -/
theorem foldl_add_counters (rows : List ChecklistRow) (s : ChecklistState) :
    (rows.foldl ChecklistState.add s).blockingTotal =
        s.blockingTotal + rows.countP ChecklistRow.isBlocking ∧
      (rows.foldl ChecklistState.add s).blockingSatisfied =
        s.blockingSatisfied + rows.countP fun row => row.satisfied && row.isBlocking := by
  induction rows generalizing s with
  | nil => exact ⟨rfl, rfl⟩
  | cons row rest ih =>
    obtain ⟨htotal, hsatisfied⟩ := ih (s.add row)
    rw [List.foldl_cons, htotal, hsatisfied, List.countP_cons, List.countP_cons]
    obtain ⟨requirement, satisfied, displayName, sort⟩ := row
    cases requirement with
    | optional =>
      cases satisfied with
      | true => exact ⟨rfl, rfl⟩
      | false => exact ⟨rfl, rfl⟩
    | blocking =>
      cases satisfied with
      | true =>
        simp only [ChecklistState.add, ChecklistRow.isBlocking, beq_self_eq_true, Bool.and_self,
          if_true]
        omega
      | false =>
        simp only [ChecklistState.add, ChecklistRow.isBlocking, beq_self_eq_true, Bool.false_and,
          Bool.false_eq_true, if_true, if_false]
        omega

/-- A checklist is complete when it has blocking rows and all of them are satisfied. -/
theorem checklistOfRows_isComplete {dealId : UUID} {bookingNumber : String}
    {rows : List ChecklistRow} :
    (checklistOfRows dealId bookingNumber rows).isComplete = true ↔
      (∃ row ∈ rows, row.isBlocking = true) ∧
        ∀ row ∈ rows, row.isBlocking = true → row.satisfied = true := by
  obtain ⟨htotal, hsatisfied⟩ :=
    foldl_add_counters rows ⟨dealId, bookingNumber, 0, 0, [], [], false⟩
  simp only [checklistOfRows, htotal, hsatisfied, Nat.zero_add, Bool.and_eq_true, decide_eq_true_eq,
    beq_iff_eq, List.countP_pos_iff]
  refine and_congr_right fun _ => ?_
  rw [← List.countP_filter, List.countP_eq_length_filter (p := ChecklistRow.isBlocking),
    List.countP_eq_length]
  constructor
  · exact fun h row hrow hblocking => h row (List.mem_filter.mpr ⟨hrow, hblocking⟩)
  · intro h row hrow
    obtain ⟨hrow, hblocking⟩ := List.mem_filter.mp hrow
    exact h row hrow hblocking

/-- The deal's checklist has blocking items, and all of them are satisfied. -/
def ChecklistComplete (db : Db) (dealId : UUID) : Prop :=
  (∃ row ∈ checklistRows db dealId, row.isBlocking = true) ∧
    ∀ row ∈ checklistRows db dealId, row.isBlocking = true → row.satisfied = true

/-- Read the checklist of a tenant's deal; a missing deal is a `ValueError`. -/
def buildChecklist (db : Db) (tenantId dealId : UUID) : Except Error ChecklistState :=
  match db.deals.rows.find? fun d => d.id == dealId && d.tenantId == tenantId with
  | none => .error .valueError
  | some d => .ok (checklistOfRows dealId d.bookingNumber (checklistRows db dealId))

theorem buildChecklist_isComplete {db : Db} {tenantId dealId : UUID} {checklist : ChecklistState}
    (h : buildChecklist db tenantId dealId = .ok checklist) :
    checklist.isComplete = true ↔ ChecklistComplete db dealId := by
  unfold buildChecklist at h
  split at h
  · contradiction
  · cases h
    exact checklistOfRows_isComplete

/-- `_default_requirements`. -/
def defaultRequirements (dealType : DealType) : List (String × Requirement) :=
  [("BOOKING_FORM", .blocking), ("PAN", .blocking), ("AADHAAR", .blocking),
    ("TAX_INVOICE_VEHICLE", .blocking), ("DELIVERY_NOTE", .blocking), ("FORM_21", .blocking),
    ("FORM_22", .blocking), ("INSURANCE_POLICY", .blocking), ("RC_BOOK", .optional)] ++
  match dealType with
  | .retail => []
  | .retailFinanced => [("LOAN_SANCTION_LETTER", .blocking), ("BANK_STATEMENT_3M", .blocking)]
  | .retailExchange => [("TRADE_IN_EVALUATION", .blocking), ("RC_BOOK_TRADEIN", .blocking)]
  | .corporate => [("COMPANY_PAN", .blocking), ("GST_REGISTRATION", .blocking)]

/-- Insert one requirement, unless the deal already has an item of its type. -/
def insertRequirement (db : Db) (newId : UUID) (now : Timestamp) (dealId : UUID) (typeKey : String)
    (requirement : Requirement) : Except Error Db :=
  if db.checklistItems.rows.any fun i => i.dealId == dealId && i.typeKey == typeKey then .ok db
  else
    match db.checklistItems.insert? ⟨newId, dealId, typeKey, requirement, false, none, now⟩ with
    | some items => .ok { db with checklistItems := items }
    | none => .error .integrityError

/-- Insert the requirements in order; `newIds` gives the id of each position. -/
def initialiseRequirements (now : Timestamp) (dealId : UUID) (newIds : Nat → UUID) :
    List (String × Requirement) → Nat → Db → Except Error Db
  | [], _, db => .ok db
  | (typeKey, requirement) :: rest, n, db => do
    let db' ← insertRequirement db (newIds n) now dealId typeKey requirement
    initialiseRequirements now dealId newIds rest (n + 1) db'

/-- Give a deal the requirements of its type. -/
def initialiseChecklist (db : Db) (newIds : Nat → UUID) (now : Timestamp) (dealId : UUID)
    (dealType : DealType) : Except Error Db :=
  initialiseRequirements now dealId newIds (defaultRequirements dealType) 0 db

/-- An inserted requirement changes no other table. -/
theorem insertRequirement_frame {db db' : Db} {newId dealId : UUID} {now : Timestamp}
    {typeKey : String} {requirement : Requirement}
    (h : insertRequirement db newId now dealId typeKey requirement = .ok db') :
    ∃ items, db' = { db with checklistItems := items } := by
  unfold insertRequirement at h
  split at h
  · cases h
    exact ⟨_, rfl⟩
  · split at h
    · rename_i items hins
      cases h
      exact ⟨items, rfl⟩
    · contradiction

/-- The checklist of a deal is its own table. -/
theorem initialiseRequirements_frame {db db' : Db} {now : Timestamp} {dealId : UUID}
    {newIds : Nat → UUID} {reqs : List (String × Requirement)} {n : Nat}
    (h : initialiseRequirements now dealId newIds reqs n db = .ok db') :
    ∃ items, db' = { db with checklistItems := items } := by
  induction reqs generalizing n db with
  | nil =>
    cases h
    exact ⟨_, rfl⟩
  | cons req rest ih =>
    obtain ⟨db₁, hone, h⟩ := bind_eq_ok.mp h
    obtain ⟨items, rfl⟩ := insertRequirement_frame hone
    obtain ⟨items', hlast⟩ := ih h
    exact ⟨items', hlast⟩

/-- A new item belongs to the deal and has one of the required types. -/
theorem initialiseRequirements_items {db db' : Db} {now : Timestamp} {dealId : UUID}
    {newIds : Nat → UUID} {reqs : List (String × Requirement)} {n : Nat}
    (h : initialiseRequirements now dealId newIds reqs n db = .ok db') :
    ∀ i ∈ db'.checklistItems.rows, i ∈ db.checklistItems.rows ∨
      i.dealId = dealId ∧ ∃ r ∈ reqs, r.1 = i.typeKey := by
  induction reqs generalizing n db with
  | nil =>
    cases h
    exact fun i hi => Or.inl hi
  | cons req rest ih =>
    obtain ⟨db₁, hone, h⟩ := bind_eq_ok.mp h
    intro i hi
    rcases ih h i hi with hold | ⟨hdeal, r, hr, htype⟩
    · unfold insertRequirement at hone
      split at hone
      · cases hone
        exact Or.inl hold
      · split at hone
        · rename_i items hins
          cases hone
          rcases (Table.mem_of_insert? hins).mp hold with hold | rfl
          · exact Or.inl hold
          · exact Or.inr ⟨rfl, req, List.mem_cons_self, rfl⟩
        · contradiction
    · exact Or.inr ⟨hdeal, r, List.mem_cons_of_mem req hr, htype⟩

/-- Every required type is a document type. -/
theorem defaultRequirements_types {dealType : DealType} {r : String × Requirement}
    (h : r ∈ defaultRequirements dealType) : (documentTypes.lookup r.1).isSome = true := by
  have hall : ∀ dealType, ∀ r ∈ defaultRequirements dealType,
      (documentTypes.lookup r.1).isSome = true := by
    intro dealType
    cases dealType with
    | _ => decide
  exact hall dealType r h

/-- An update of checklist items that keeps identity, deal and type. -/
theorem ChecklistItem.keeps {p : ChecklistItem → Bool} {f : ChecklistItem → ChecklistItem}
    (h : ∀ i, (f i).id = i.id ∧ (f i).dealId = i.dealId ∧ (f i).typeKey = i.typeKey) :
    Table.Keeps p f :=
  Table.keeps_of fun i _ => by
    obtain ⟨hid, hd, ht⟩ := h i
    exact ⟨Or.inl (by rw [hid]), Or.inl (by rw [hd, ht])⟩

/-- `UPDATE doc.checklist_item`: apply `f` to the items that `p` selects. -/
def Db.updateItems (db : Db) (p : ChecklistItem → Bool) (f : ChecklistItem → ChecklistItem)
    (h : ∀ i, (f i).id = i.id ∧ (f i).dealId = i.dealId ∧ (f i).typeKey = i.typeKey) : Db :=
  { db with checklistItems := db.checklistItems.update p f (ChecklistItem.keeps h) }

/-- Satisfy a deal's item of the given type, if it has one. -/
def markSatisfied (db : Db) (now : Timestamp) (dealId : UUID) (typeKey : String)
    (documentId : UUID) : Db :=
  db.updateItems (fun i => i.dealId == dealId && i.typeKey == typeKey)
    (fun i => { i with satisfied := true, documentId := some documentId, updatedAt := now })
    fun _ => ⟨rfl, rfl, rfl⟩

/-- `copy.get(key, default)`. -/
def copyText (copy : List (String × String)) (key default : String) : String :=
  (copy.lookup key).getD default

/-- Bulleted names, one a line; an em dash for none. -/
def bullets (names : List String) : String :=
  if names.isEmpty then "\u2014" else "\n".intercalate (names.map fun n => "\u2022 " ++ n)

/-- Header and body of the message that tells the consultant what is missing. -/
def formatGapMessage (state : ChecklistState) (copy : List (String × String)) :
    Except Error (String × String) :=
  let header := copyText copy "gaps_header" "Submission Summary"
  if state.isComplete then do
    let body ← format (copyText copy "gaps_complete" "All required documents received.")
      [("booking_number", state.bookingNumber)]
    return (header, body)
  else do
    let body ← format (copyText copy "gaps_missing" "")
      [("received_list", bullets state.received), ("missing_list", bullets state.blockingMissing)]
    return (header, body)

end WaService
