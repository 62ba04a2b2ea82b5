import WaService.Correctness.Confirmations
import WaService.Correctness.ItemEvidence

/-!
# Complete sessions stay backed

A session is completed when every blocking item of its deal is satisfied. That is still
so in every later state: a confirmed deal gets no further item, and no item is ever
unsatisfied again. Each of these items has its confirmed document.
-/

namespace WaService

open Python Relational Transition

/-- The deal has blocking items, and all of them are satisfied. -/
structure Db.Covers (db : Db) (dealId : UUID) : Prop where
  listed : ∃ i ∈ db.checklistItems.rows, i.dealId = dealId ∧ i.requirement = .blocking
  satisfied : ∀ i ∈ db.checklistItems.rows, i.dealId = dealId → i.requirement = .blocking →
    i.satisfied = true

/-- A confirmed deal of the session's tenant and number whose blocking items are satisfied. -/
def Session.Covered (db : Db) (s : Session) : Prop :=
  ∃ d ∈ db.deals.rows, d.tenantId = s.tenantId ∧ d.bookingNumber = fallbackNumber s.id ∧
    d.state = .confirmed ∧ db.Covers d.id

variable {env : Env} {a : Action} {db db' : Db}

/-! ## Items -/

/-- Every requirement of a retail deal has a row of the type catalogue. -/
theorem ChecklistItem.Consistent.row {i : ChecklistItem} (h : i.Consistent) :
    ∃ row, i.row = some row ∧ row.isBlocking = (i.requirement == .blocking) ∧
      row.satisfied = i.satisfied := by
  have hknown : ∀ r ∈ defaultRequirements .retail, (documentTypes.lookup r.1).isSome = true := by
    decide
  obtain ⟨t, ht⟩ := Option.isSome_iff_exists.mp (hknown _ h.required)
  refine ⟨⟨i.requirement, i.satisfied, t.1, t.2⟩, ?_, rfl, rfl⟩
  simp only [ChecklistItem.row, ht, Option.map_some]

/-- New items are those of provisional deals, and a change satisfies an item. -/
theorem Db.Covers.items {dealId : UUID} {items : Table ChecklistItem} (h : db.Covers dealId)
    (hd : ∃ d ∈ db.deals.rows, d.id = dealId ∧ d.state = .confirmed)
    (hwrite : db.checklistItems.Statement (ItemNew db a) (ItemChange db a) items) :
    Db.Covers { db with checklistItems := items } dealId := by
  constructor
  · refine hwrite.exists_row ?_ h.listed
    rintro i i' hchange ⟨hdeal, hrequirement⟩
    cases hchange with
    | satisfy => exact ⟨hdeal, hrequirement⟩
  · refine hwrite.forall_rows ?_ ?_ h.satisfied
    · intro i hnew hdeal hrequirement
      cases hnew with
      | require hmem hstate =>
        -- The new item would be one of a deal that is not confirmed.
        obtain ⟨d, hd, hid, hconfirmed⟩ := hd
        obtain rfl := deal_eq_of_id hd hmem (hid.trans hdeal.symm)
        rw [hconfirmed] at hstate
        cases hstate
    · intro i i' hchange _ _ _
      cases hchange with
      | satisfy => rfl

end WaService
