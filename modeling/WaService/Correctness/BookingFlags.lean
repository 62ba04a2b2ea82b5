import WaService.Correctness.ChecklistRace
import WaService.Correctness.GapMessages
import WaService.Correctness.ResentForms
import WaService.System.DealRuns

/-!
# The flags of a booking and the documents they call for

A booking form has three independent flags, and a deal one of four types: `_infer_deal_type` lets
the corporate flag decide before the financed one, and that one before the exchange flag. The
checklist of the deal asks for the documents of the flag that decided, so a complete checklist has
those, and says nothing of the documents of the other flags.
-/

namespace WaService

open Python Relational

/-- The documents of a corporate deal. -/
def companyDocuments : List String := ["COMPANY_PAN", "GST_REGISTRATION"]

/-- The documents of a financed deal. -/
def loanDocuments : List String := ["LOAN_SANCTION_LETTER", "BANK_STATEMENT_3M"]

/-- The documents of a deal with a vehicle traded in. -/
def tradeInDocuments : List String := ["TRADE_IN_EVALUATION", "RC_BOOK_TRADEIN"]

/-- The deal has a satisfied item of every listed type. -/
def AllSatisfied (db : Db) (dealId : UUID) (types : List String) : Prop :=
  ∀ typeKey ∈ types, ItemSatisfied db dealId typeKey

/-- Every flag has its documents satisfied. -/
structure EveryFlagCovered (db : Db) (dealId : UUID) (fields : BookingFields) : Prop where
  company : fields.isCorporate = true → AllSatisfied db dealId companyDocuments
  loan : fields.isFinanced = true → AllSatisfied db dealId loanDocuments
  tradeIn : fields.hasExchange = true → AllSatisfied db dealId tradeInDocuments

/-- The flag that decides the type of the deal has its documents satisfied. -/
structure DecidingFlagCovered (db : Db) (dealId : UUID) (fields : BookingFields) : Prop where
  company : fields.isCorporate = true → AllSatisfied db dealId companyDocuments
  loan : fields.isCorporate = false → fields.isFinanced = true →
    AllSatisfied db dealId loanDocuments
  tradeIn : fields.isCorporate = false → fields.isFinanced = false → fields.hasExchange = true →
    AllSatisfied db dealId tradeInDocuments

/-! ## Blocking items -/

/-- The deal has a blocking item of this type. -/
def HasBlocking (db : Db) (dealId : UUID) (typeKey : String) : Prop :=
  ∃ i ∈ db.checklistItems.rows, i.dealId = dealId ∧ i.typeKey = typeKey ∧
    i.requirement = .blocking

variable {env : Env} {db db' : Db} {inp : SessionInput} {s : Session} {files : List RowMapping}
  {fields : BookingFields} {dealId : UUID} {typeKey : String}

theorem HasBlocking.of_items (h : HasBlocking db dealId typeKey)
    (hitems : db'.checklistItems = db.checklistItems) : HasBlocking db' dealId typeKey := by
  unfold HasBlocking
  rwa [hitems]

/-- Satisfying items leaves them in place. -/
theorem HasBlocking.markSatisfied (h : HasBlocking db dealId typeKey) (m : Mark) :
    HasBlocking (markSatisfied db m.now m.dealId m.typeKey m.documentId) dealId typeKey := by
  obtain ⟨i, hi, hdeal, htype, hblocking⟩ := h
  obtain ⟨j, hj, hraised⟩ := exists_of_forall₂_left (markSatisfied_raised db m) hi
  exact ⟨j, hj, hraised.dealId.trans hdeal, hraised.typeKey.trans htype,
    hraised.requirement.trans hblocking⟩

theorem HasBlocking.markAll (h : HasBlocking db dealId typeKey) (marks : List Mark) :
    HasBlocking (markAll db marks) dealId typeKey := by
  induction marks generalizing db with
  | nil => exact h
  | cons m marks ih => exact ih (h.markSatisfied m)

/-- The files satisfy items by calls of `mark_satisfied`. -/
theorem satisfyConfirmedFiles_eq_markAll (db : Db) (now : Timestamp) (dealId : UUID)
    (files : List RowMapping) : ∃ marks, satisfyConfirmedFiles db now dealId files =
      markAll db marks := by
  unfold satisfyConfirmedFiles
  induction files generalizing db with
  | nil => exact ⟨[], rfl⟩
  | cons f rest ih =>
    rw [List.foldl_cons]
    split
    · rename_i typeKey documentId _ _
      split
      · exact ih db
      · obtain ⟨marks, hmarks⟩ := ih (markSatisfied db now dealId typeKey documentId)
        exact ⟨⟨now, dealId, typeKey, documentId⟩ :: marks, hmarks⟩
    · exact ih db

/-- A complete checklist has satisfied its blocking items. -/
theorem HasBlocking.satisfied (h : HasBlocking db dealId typeKey) {tenantId : UUID}
    {state : ChecklistState} (hcheck : buildChecklist db tenantId dealId = .ok state)
    (hcomplete : state.isComplete = true) (htype : (documentTypes.lookup typeKey).isSome = true) :
    ItemSatisfied db dealId typeKey := by
  obtain ⟨-, hall⟩ := (buildChecklist_isComplete hcheck).mp hcomplete
  obtain ⟨i, hi, hdeal, hkey, hblocking⟩ := h
  obtain ⟨t, ht⟩ := Option.isSome_iff_exists.mp htype
  have hrow : i.row = some ⟨i.requirement, i.satisfied, t.1, t.2⟩ := by
    unfold ChecklistItem.row
    rw [hkey, ht]
    rfl
  have hlisted : ⟨i.requirement, i.satisfied, t.1, t.2⟩ ∈ checklistRows db dealId := by
    unfold checklistRows
    rw [List.mem_insertionSort]
    exact List.mem_filterMap.mpr ⟨i, List.mem_filter.mpr ⟨hi, by simpa using hdeal⟩, hrow⟩
  exact ⟨i, hi, hdeal, hkey, hall _ hlisted (by simp [ChecklistRow.isBlocking, hblocking])⟩

/-! ## The checklist of a new deal -/

/-- A requirement whose type has an item is passed over; otherwise an item is added for it. -/
theorem insertRequirement_cases {newId : UUID} {now : Timestamp} {requirement : Requirement}
    (h : insertRequirement db newId now dealId typeKey requirement = .ok db') :
    db' = db ∧ HasItem db dealId typeKey ∨
      ∃ item : ChecklistItem, item.dealId = dealId ∧ item.typeKey = typeKey ∧
        item.requirement = requirement ∧
        db'.checklistItems.rows = db.checklistItems.rows ++ [item] := by
  unfold insertRequirement at h
  split at h
  · rename_i hfound
    cases h
    obtain ⟨i, hi, hkey⟩ := List.any_eq_true.mp hfound
    rw [Bool.and_eq_true, beq_iff_eq, beq_iff_eq] at hkey
    exact Or.inl ⟨rfl, i, hi, hkey⟩
  · split at h
    · rename_i items hins
      cases h
      exact Or.inr ⟨_, rfl, rfl, rfl, Table.rows_of_insert? hins⟩
    · cases h

/-- The listed items: those of before, and for each requirement one of its type; what is new is
required as listed. -/
theorem initialiseRequirements_lists {now : Timestamp} {newIds : Nat → UUID}
    {reqs : List (String × Requirement)} {n : Nat}
    (h : initialiseRequirements now dealId newIds reqs n db = .ok db') :
    (∀ i ∈ db.checklistItems.rows, i ∈ db'.checklistItems.rows) ∧
      (∀ req ∈ reqs, HasItem db' dealId req.1) ∧
      ∀ i ∈ db'.checklistItems.rows,
        i ∈ db.checklistItems.rows ∨ (i.typeKey, i.requirement) ∈ reqs := by
  induction reqs generalizing n db with
  | nil =>
    cases h
    exact ⟨fun _ hi => hi, fun _ hreq => absurd hreq List.not_mem_nil, fun _ hi => Or.inl hi⟩
  | cons req rest ih =>
    obtain ⟨typeKey, requirement⟩ := req
    obtain ⟨db₁, hone, h⟩ := bind_eq_ok.mp h
    obtain ⟨hkept, hlisted, hsource⟩ := ih h
    have hitem : HasItem db₁ dealId typeKey ∧
        (∀ i ∈ db.checklistItems.rows, i ∈ db₁.checklistItems.rows) ∧
        ∀ i ∈ db₁.checklistItems.rows, i ∈ db.checklistItems.rows ∨
          (i.typeKey, i.requirement) = (typeKey, requirement) := by
      obtain ⟨rfl, hhas⟩ | ⟨item, hdeal, htype, hreq, hrows⟩ := insertRequirement_cases hone
      · exact ⟨hhas, fun _ hi => hi, fun _ hi => Or.inl hi⟩
      · rw [hrows]
        refine ⟨⟨item, by rw [hrows]; simp, hdeal, htype⟩, fun i hi => by simp [hi], ?_⟩
        intro i hi
        rcases List.mem_append.mp hi with hold | hnew
        · exact Or.inl hold
        · obtain rfl := List.mem_singleton.mp hnew
          exact Or.inr (by rw [htype, hreq])
    obtain ⟨⟨i, hi, hown⟩, hbefore, hadded⟩ := hitem
    refine ⟨fun j hj => hkept j (hbefore j hj), ?_, ?_⟩
    · intro req hreq
      rcases List.mem_cons.mp hreq with rfl | hreq
      · exact ⟨i, hkept i hi, hown⟩
      · exact hlisted req hreq
    · intro j hj
      rcases hsource j hj with hj₁ | hrest
      · exact (hadded j hj₁).imp id fun heq => List.mem_cons.mpr (Or.inl heq)
      · exact Or.inr (List.mem_cons_of_mem _ hrest)

/-- A deal without items gets a blocking item for each document that its type blocks on. -/
theorem initialiseChecklist_hasBlocking {newIds : Nat → UUID} {now : Timestamp}
    {dealType : DealType} (h : initialiseChecklist db newIds now dealId dealType = .ok db')
    (hnone : ∀ i ∈ db.checklistItems.rows, i.dealId ≠ dealId)
    (hreq : (typeKey, .blocking) ∈ defaultRequirements dealType) :
    HasBlocking db' dealId typeKey := by
  obtain ⟨-, hlisted, hsource⟩ := initialiseRequirements_lists h
  obtain ⟨i, hi, hdeal, htype⟩ := hlisted _ hreq
  refine ⟨i, hi, hdeal, htype, ?_⟩
  rcases hsource i hi with hold | hlist
  · exact absurd hdeal (hnone i hold)
  · rw [htype] at hlist
    exact requirement_unique hlist hreq

/-! ## The deal that a run creates -/

/-- A session that is ready has the fields of its booking form. -/
theorem extract_of_sessionGate (h : sessionGate env files = .ok (.ready fields)) :
    extractBookingFields env files = .ok fields := by
  unfold sessionGate at h
  split at h
  · split at h
    · obtain ⟨fields', hfields, h⟩ := bind_eq_ok.mp h
      cases h
      exact hfields
    · cases h
  · cases h

/-- The rows of a deal that was not there come from the create branch, with the fields of the
booking form. -/
theorem processSessionOn_created (hs : sessionById db s.id = some s) {d : Deal}
    (hd : d ∈ (processSessionOn env db inp s.id files).db.deals.rows) (hnew : NewDeal db d.id) :
    ∃ orgUnitId fields, extractBookingFields env files = .ok fields ∧
      createBranch env db inp s orgUnitId files fields =
        .ok (processSessionOn env db inp s.id files).db := by
  have hold : d ∉ db.deals.rows := fun hmem => hnew d hmem rfl
  unfold processSessionOn at hd ⊢
  rw [hs] at hd ⊢
  simp only at hd ⊢
  cases htx : sessionTransactionOn env db inp s files with
  | error e =>
    rw [htx] at hd
    exact absurd hd hold
  | ok after =>
    rw [htx] at hd
    simp only at hd
    unfold sessionTransactionOn at htx
    split at htx
    · cases htx
    · rename_i orgUnitId _
      obtain ⟨gate, hgate, htx⟩ := bind_eq_ok.mp htx
      cases gate with
      | parked note =>
        cases htx
        exact absurd hd hold
      | ready fields =>
        obtain ⟨found, -, htx⟩ := bind_eq_ok.mp htx
        cases found with
        | none =>
          exact ⟨orgUnitId, fields, extract_of_sessionGate hgate, htx⟩
        | some m =>
          simp only at htx
          split at htx
          · rw [exactBranch_deals htx] at hd
            obtain ⟨old, hmem, rfl⟩ := List.mem_map.mp hd
            refine absurd ?_ (hnew old hmem)
            unfold patch
            split
            · rfl
            · rfl
          · cases htx
            rw [ambiguousBranch_deals m] at hd
            exact absurd hd hold

/-- The checklist of a deal that is created has a blocking item for each document that the type of
the fields blocks on. -/
theorem createBranch_hasBlocking {orgUnitId : UUID}
    (h : createBranch env db inp s orgUnitId files fields = .ok db') (hitems : ItemsOfDeals db)
    {d : Deal} (hd : d ∈ db'.deals.rows) (hnew : NewDeal db d.id)
    (hreq : (typeKey, .blocking) ∈ defaultRequirements (inferDealType fields)) :
    HasBlocking db' d.id typeKey := by
  have hold : d ∉ db.deals.rows := fun hmem => hnew d hmem rfl
  obtain ⟨deal, created, listed, id, payload, hcreate, hlist, hqueued⟩ := createBranch_inv h
  obtain ⟨items, hlisted⟩ := initialiseRequirements_frame hlist
  obtain ⟨marks, hmarks⟩ := satisfyConfirmedFiles_eq_markAll
    (transitionToConfirming listed inp.now s.id deal.dealId) inp.now deal.dealId files
  obtain ⟨satisfied, hsatisfied⟩ := satisfyConfirmedFiles_frame
    (transitionToConfirming listed inp.now s.id deal.dealId) inp.now deal.dealId files
  obtain ⟨outbox, rfl⟩ := enqueueReply_frame hqueued
  rw [hsatisfied, hlisted] at hd
  obtain ⟨row, -, ⟨old, -, -, rfl⟩ | ⟨-, deals, hins, rfl, rfl⟩⟩ := createProvisionalDeal_ok hcreate
  · exact absurd hd hold
  · -- The deal is the row that was inserted, and no item was there for it.
    have hrow : d = row := ((Table.mem_of_insert? hins).mp hd).resolve_left hold
    subst hrow
    have hnone : ∀ i ∈ db.checklistItems.rows, i.dealId ≠ d.id := by
      intro i hi heq
      obtain ⟨e, he, hid⟩ := hitems i hi
      exact hnew e he (hid.trans heq)
    have hblocking : HasBlocking listed d.id typeKey :=
      initialiseChecklist_hasBlocking hlist hnone hreq
    have hlinked : HasBlocking (transitionToConfirming listed inp.now s.id d.id) d.id typeKey :=
      hblocking.of_items rfl
    exact (hlinked.markAll marks).of_items (congrArg Db.checklistItems hmarks :)

/-- On the deal that a run of `process_session` creates, after any calls of `mark_satisfied`, a
complete checklist has the documents of the flag that decided the type of the deal. -/
theorem created_deal_covers_deciding_flag (env : Env) {db : Db} (hitems : ItemsOfDeals db)
    (inp : SessionInput) {s : Session} (hs : sessionById db s.id = some s)
    {files : List RowMapping} {fields : BookingFields}
    (hfields : extractBookingFields env files = .ok fields) {d : Deal}
    (hd : d ∈ (processSessionOn env db inp s.id files).db.deals.rows) (hnew : NewDeal db d.id)
    (marks : List Mark) {tenantId : UUID} {state : ChecklistState}
    (hcheck : buildChecklist (markAll (processSessionOn env db inp s.id files).db marks) tenantId
      d.id = .ok state) (hcomplete : state.isComplete = true) :
    DecidingFlagCovered (markAll (processSessionOn env db inp s.id files).db marks) d.id
      fields := by
  obtain ⟨orgUnitId, fields', hfields', hcreate⟩ := processSessionOn_created hs hd hnew
  rw [hfields] at hfields'
  cases hfields'
  have hrequired : ∀ typeKey, (typeKey, .blocking) ∈ defaultRequirements (inferDealType fields) →
      ItemSatisfied (markAll (processSessionOn env db inp s.id files).db marks) d.id typeKey := by
    intro typeKey hreq
    have hblocking := (createBranch_hasBlocking hcreate hitems hd hnew hreq).markAll marks
    exact hblocking.satisfied hcheck hcomplete (defaultRequirements_types hreq)
  constructor
  · intro hcorporate typeKey hmem
    have htype : inferDealType fields = .corporate := by simp [inferDealType, hcorporate]
    apply hrequired
    rw [htype]
    revert typeKey
    decide
  · intro hcorporate hfinanced typeKey hmem
    have htype : inferDealType fields = .retailFinanced := by
      simp [inferDealType, hcorporate, hfinanced]
    apply hrequired
    rw [htype]
    revert typeKey
    decide
  · intro hcorporate hfinanced hexchange typeKey hmem
    have htype : inferDealType fields = .retailExchange := by
      simp [inferDealType, hcorporate, hfinanced, hexchange]
    apply hrequired
    rw [htype]
    revert typeKey
    decide

/-! ## A corporate booking on credit -/

/-- The booking form of a company that takes a loan. -/
def companyLoanForm : File :=
  { polledBookingForm with
    diFacts := some (.obj [("CORPORATE_FLAG", .str "Yes"), ("FINANCE_FLAG", .str "Yes")]) }

/-- The state after the run on the form, in which the deal is created. -/
def companyLoanDb : Db :=
  (processSessionOn (.ofRecording "s" []) idleDb idleInput 7 [companyLoanForm.fullRow]).db

/-- Every document of a corporate deal arrives. -/
def companyMarks : List Mark :=
  (defaultRequirements .corporate).map fun req => ⟨30, 11, req.1, 40⟩

/-- The run creates the deal, its checklist is complete after the marks, and the loan document is
not on it. The evaluation of the run is shared by the three facts. -/
theorem companyLoan_evaluated :
    (∃ d ∈ companyLoanDb.deals.rows, d.id = 11) ∧
      (buildChecklist (markAll companyLoanDb companyMarks) 2 11).toOption.map
        (fun state => state.isComplete) = some true ∧
      ¬ ItemSatisfied (markAll companyLoanDb companyMarks) 11 "LOAN_SANCTION_LETTER" := by
  unfold ItemSatisfied
  decide +kernel

/-- The form has both flags, and the checklist of its deal is complete. -/
theorem companyLoan_complete :
    ∃ fields state, extractBookingFields (.ofRecording "s" []) [companyLoanForm.fullRow] =
        .ok fields ∧ fields.isCorporate = true ∧ fields.isFinanced = true ∧
      buildChecklist (markAll companyLoanDb companyMarks) 2 11 = .ok state ∧
      state.isComplete = true := by
  obtain ⟨-, hstate, -⟩ := companyLoan_evaluated
  cases hcheck : buildChecklist (markAll companyLoanDb companyMarks) 2 11 with
  | error e =>
    rw [hcheck] at hstate
    cases hstate
  | ok state =>
    rw [hcheck] at hstate
    exact ⟨_, state, rfl, rfl, rfl, rfl, Option.some.inj hstate⟩

/-- So the documents that the corporate flag calls for are satisfied. -/
theorem company_documents_covered :
    ∃ fields, extractBookingFields (.ofRecording "s" []) [companyLoanForm.fullRow] = .ok fields ∧
      fields.isCorporate = true ∧
      DecidingFlagCovered (markAll companyLoanDb companyMarks) 11 fields := by
  obtain ⟨fields, state, hfields, hcorporate, -, hcheck, hcomplete⟩ := companyLoan_complete
  obtain ⟨⟨d, hd, hid⟩, -, -⟩ := companyLoan_evaluated
  have hnew : NewDeal idleDb d.id := fun old hold => absurd hold List.not_mem_nil
  have hitems : ItemsOfDeals idleDb := fun it hit => absurd hit List.not_mem_nil
  have hs : sessionById idleDb idleSession.id = some idleSession := by decide
  rw [← hid] at hcheck ⊢
  exact ⟨fields, hfields, hcorporate, created_deal_covers_deciding_flag (.ofRecording "s" [])
    hitems idleInput hs hfields hd hnew companyMarks hcheck hcomplete⟩

/-- The form says that the company takes a loan, and the complete checklist has no loan
document. -/
theorem loan_documents_not_covered :
    ∃ fields state, extractBookingFields (.ofRecording "s" []) [companyLoanForm.fullRow] =
        .ok fields ∧
      buildChecklist (markAll companyLoanDb companyMarks) 2 11 = .ok state ∧
      state.isComplete = true ∧
      ¬ EveryFlagCovered (markAll companyLoanDb companyMarks) 11 fields := by
  obtain ⟨fields, state, hfields, -, hfinanced, hcheck, hcomplete⟩ := companyLoan_complete
  refine ⟨fields, state, hfields, hcheck, hcomplete, ?_⟩
  intro hcovered
  obtain ⟨-, -, hnoLoan⟩ := companyLoan_evaluated
  exact hnoLoan (hcovered.loan hfinanced "LOAN_SANCTION_LETTER" List.mem_cons_self)

end WaService
