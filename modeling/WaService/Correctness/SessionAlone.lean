import WaService.System.ColdStart

/-!
# A session task that runs alone

The statements of one run of `process_session`, without others between them, leave what the task
leaves as a whole: the same database, and an exception in the same cases. The generated ids must be
unused, as an insert takes no step otherwise.
-/

namespace WaService

open Python Relational Transition

variable {ι : Type} [DecidableEq ι] {env : Env} {start db : Db} {c : SessionTasks ι}
  {s : SessionShared ι} {i : ι}

/-! ## The transaction of a run alone -/

/-- The open transaction of the only run has turned `start` into `db`. -/
structure SessionAlone (i : ι) (start : Db) (s : SessionShared ι) (db : Db) : Prop where
  view : s.view i = db
  dealsOnly : Heap.OnlyBy i s.deals
  itemsOnly : Heap.OnlyBy i s.items
  committed : s.committed = start

theorem sessionAlone_start (db : Db) (i : ι) :
    SessionAlone i db (sessionTasksStart ι db).shared db where
  view := by
    unfold SessionShared.view sessionTasksStart
    simp only [Heap.visible_ofTable]
  dealsOnly := Heap.onlyBy_ofTable db.deals i
  itemsOnly := Heap.onlyBy_ofTable db.checklistItems i
  committed := by
    unfold SessionShared.committed sessionTasksStart
    simp only [Heap.committed_ofTable]

/-- How a run has ended: with the database of its result, or rolled back with an exception. -/
def RunEnds (i : ι) (start : Db) (c : SessionTasks ι) : Except Error Db → Prop
  | .ok db => c.shared.committed = db ∧
      (c.phase i = .over ∨ ∃ tx dealId, c.phase i = .resolved tx dealId)
  | .error _ => c.shared.committed = start ∧ ∃ fault, c.phase i = .failed fault

theorem committed_rollback (s : SessionShared ι) (i : ι) :
    (s.rollback i).committed = s.committed := by
  simp only [SessionShared.committed, SessionShared.rollback, Heap.committed_rollback]

theorem SessionAlone.fail (h : SessionAlone i start c.shared db) (fault : SessionFault)
    (e : Error) :
    RunEnds i start (c.fail i fault) (.error e) := by
  refine ⟨?_, fault, Processes.advance_phase_self⟩
  exact (committed_rollback c.shared i).trans h.committed

/-- The other tables are the ones that the run started from. -/
theorem SessionAlone.outbox (h : SessionAlone i start s db) : s.rest.outbox = start.outbox :=
  (congrArg Db.outbox h.committed :)

/-- The last statements leave the deals and the items that the run sees. -/
def LeavesVisible (i : ι) (t : SessionShared ι) (result : Except Error Db) : Prop :=
  ∀ db', result = .ok db' →
    db'.deals = t.deals.visible i ∧ db'.checklistItems = t.items.visible i

/-- The run commits what its last statements leave. -/
theorem SessionAlone.close (h : SessionAlone i start c.shared db) {t : SessionShared ι}
    {result : Except Error Db} {next : SessionPhase} (hvisible : LeavesVisible i t result)
    (hnext : next = .over ∨ ∃ tx dealId, next = .resolved tx dealId) :
    RunEnds i start (closeStep c i t result next) result := by
  cases result with
  | error e => exact h.fail _ e
  | ok db' =>
    obtain ⟨hdeals, hitems⟩ := hvisible db' rfl
    refine ⟨?_, ?_⟩
    · simp only [closeStep, Processes.advance_shared, SessionShared.committed, SessionShared.commit,
        Heap.committed_commit, ← hdeals, ← hitems]
    · simpa only [closeStep, Processes.advance_phase_self] using hnext

/-! ## What the statements on open rows do to the view -/

theorem view_confirmDeal (s : SessionShared ι) (i : ι) (now : Timestamp)
    (tenantId dealId confirmedBy : UUID) :
    (s.confirmDeal i now tenantId dealId confirmedBy).view i =
      confirmDeal (s.view i) now tenantId dealId confirmedBy := by
  simp only [SessionShared.view, SessionShared.confirmDeal, Heap.visible_updateBy]
  rfl

theorem view_markSatisfied (s : SessionShared ι) (i : ι) (now : Timestamp) (dealId : UUID)
    (typeKey : String) (documentId : UUID) :
    (s.markSatisfied i now dealId typeKey documentId).view i =
      markSatisfied (s.view i) now dealId typeKey documentId := by
  simp only [SessionShared.view, SessionShared.markSatisfied, Heap.visible_updateBy]
  rfl

theorem view_satisfyConfirmedFiles (s : SessionShared ι) (i : ι) (now : Timestamp) (dealId : UUID)
    (files : List RowMapping) : (s.satisfyConfirmedFiles i now dealId files).view i =
      satisfyConfirmedFiles (s.view i) now dealId files := by
  unfold SessionShared.satisfyConfirmedFiles satisfyConfirmedFiles
  induction files generalizing s with
  | nil => rfl
  | cons f rest ih =>
    rw [List.foldl_cons, List.foldl_cons, ih]
    congr 1
    cases f.get .documentTypeKey with
    | text typeKey =>
      cases f.get .diDocumentId with
      | uuid documentId =>
        by_cases hempty : (typeKey == "") = true
        · simp only [hempty, if_true]
        · simp only [hempty]
          exact view_markSatisfied s i now dealId typeKey documentId
      | _ => rfl
    | _ => rfl

/-- Satisfying files reads and writes the items alone. -/
theorem satisfyConfirmedFiles_items {db db' : Db} (now : Timestamp) (dealId : UUID)
    (files : List RowMapping) (h : db'.checklistItems = db.checklistItems) :
    (satisfyConfirmedFiles db' now dealId files).checklistItems =
      (satisfyConfirmedFiles db now dealId files).checklistItems := by
  unfold satisfyConfirmedFiles
  induction files generalizing db db' with
  | nil => exact h
  | cons f rest ih =>
    rw [List.foldl_cons, List.foldl_cons]
    apply ih
    split
    · split
      · exact h
      · simp only [markSatisfied, Db.updateItems, h]
    · exact h

/-- The end of the create branch leaves the deals, and the items with the files satisfied. -/
theorem linkDeal_leaves {inp : SessionInput} {session : Session} {files : List RowMapping}
    {deal : DealCreated} (h : s.view i = db) :
    LeavesVisible i (s.satisfyConfirmedFiles i inp.now deal.dealId files)
      (linkDeal env db inp session files deal) := by
  intro db' hlink
  obtain ⟨locale, -, hlink⟩ := bind_eq_ok.mp hlink
  obtain ⟨payload, -, hlink⟩ := bind_eq_ok.mp hlink
  obtain ⟨⟨id, queued⟩, hqueued, hlink⟩ := bind_eq_ok.mp hlink
  cases hlink
  have hview := view_satisfyConfirmedFiles s i inp.now deal.dealId files
  rw [h] at hview
  have hitems := satisfyConfirmedFiles_items inp.now deal.dealId files
    (show (transitionToConfirming db inp.now session.id deal.dealId).checklistItems =
      db.checklistItems from rfl)
  obtain ⟨items, hsatisfied⟩ := satisfyConfirmedFiles_frame
    (transitionToConfirming db inp.now session.id deal.dealId) inp.now deal.dealId files
  obtain ⟨items', hsatisfied'⟩ := satisfyConfirmedFiles_frame db inp.now deal.dealId files
  obtain ⟨outbox, rfl⟩ := enqueueReply_frame hqueued
  constructor
  · have hdeals := congrArg Db.deals hview
    rw [hsatisfied'] at hdeals
    simp only [hsatisfied]
    exact hdeals.symm
  · simp only [hitems]
    exact (congrArg Db.checklistItems hview).symm

/-- The exact branch confirms the deal and satisfies its files. -/
theorem exactBranch_leaves {inp : SessionInput} {session : Session} {files : List RowMapping}
    {found : DealMatch} (h : s.view i = db) :
    LeavesVisible i ((s.confirmDeal i inp.now session.tenantId found.dealId session.contactId
        ).satisfyConfirmedFiles i inp.now found.dealId files)
      (exactBranch env db inp session files found) := by
  intro db' hexact
  have hview := view_satisfyConfirmedFiles
    (s.confirmDeal i inp.now session.tenantId found.dealId session.contactId) i inp.now
    found.dealId files
  rw [view_confirmDeal, h] at hview
  have hdeals := exactBranch_deals hexact
  obtain ⟨checklist, body, id, queued, -, hqueued, rfl⟩ := sendGapMessage_inv hexact
  obtain ⟨outbox, rfl⟩ := enqueueReply_frame hqueued
  obtain ⟨items, hsatisfied⟩ := satisfyConfirmedFiles_frame
    (confirmDeal db inp.now session.tenantId found.dealId session.contactId) inp.now found.dealId
      files
  constructor
  · have hseen := congrArg Db.deals hview
    rw [hsatisfied] at hseen
    exact hdeals.trans hseen.symm
  · have hseen := congrArg Db.checklistItems hview
    split
    · exact hseen.symm
    · exact hseen.symm

/-! ## The checklist -/

/-- The ids that are to be generated differ, and no item has one of them. -/
def FreshItems (items : Table ChecklistItem) (ids : List UUID) : Prop :=
  ids.Nodup ∧ ∀ it ∈ items.rows, it.id ∉ ids

/-- The ids of `count` inserts from the `n`-th on. -/
def itemIdsFrom (newIds : Nat → UUID) (n count : Nat) : List UUID :=
  (List.range' n count).map newIds

/-- The tenant has the deal. -/
def HasDeal (db : Db) (tenantId dealId : UUID) : Prop :=
  ∃ d ∈ db.deals.rows, d.id = dealId ∧ d.tenantId = tenantId

theorem SessionAlone.holdsDeal (h : SessionAlone i start s db) {tenantId dealId : UUID}
    (hdeal : HasDeal db tenantId dealId) : s.holdsDeal i tenantId dealId = true := by
  obtain ⟨d, hd, hid, htenant⟩ := hdeal
  rw [← h.view] at hd
  exact List.any_eq_true.mpr ⟨d, hd, by simp [hid, htenant]⟩

/-- A new id is the id of no row in the heap. -/
theorem SessionAlone.unusedItem (h : SessionAlone i start s db) {newId : UUID}
    (hnew : ∀ it ∈ db.checklistItems.rows, it.id ≠ newId) :
    s.items.rows.any (·.row.id == newId) = false := by
  rw [List.any_eq_false]
  intro v hv
  have hrow : v.row ∈ db.checklistItems.rows := by
    rw [← h.view]
    change v.row ∈ (s.items.visible i).rows
    rw [h.itemsOnly.visible_rows]
    exact List.mem_map_of_mem hv
  simpa using hnew v.row hrow

/-- The item is inserted. -/
theorem SessionAlone.insertItem (h : SessionAlone i start s db) {it : ChecklistItem}
    {items : Table ChecklistItem} (hins : db.checklistItems.insert? it = some items) :
    ∃ heap, s.items.insertBy i it = .inserted heap ∧
      SessionAlone i start { s with items := heap } { db with checklistItems := items } := by
  have hitems : s.items.visible i = db.checklistItems := congrArg Db.checklistItems h.view
  rw [← hitems] at hins
  obtain ⟨heap, hheap, hvisible⟩ := h.itemsOnly.insertBy_of_some hins
  refine ⟨heap, hheap, ?_⟩
  exact {
    h with
    view := by
      rw [← h.view]
      simp only [SessionShared.view, hvisible]
    itemsOnly := h.itemsOnly.insertBy hheap
    committed := by
      rw [← h.committed]
      simp only [SessionShared.committed, Heap.committed_insertBy hheap] }

/-- A visible row is in the way of the item. -/
theorem SessionAlone.itemConflict (h : SessionAlone i start s db) {old it : ChecklistItem}
    (hold : old ∈ db.checklistItems.rows) (hclash : clash old it = true) :
    s.items.insertBy i it = .conflict := by
  have hitems : s.items.visible i = db.checklistItems := congrArg Db.checklistItems h.view
  exact Heap.conflict_of_clash (by rw [hitems]; exact hold) hclash

variable {tx : SessionTx} {deal : DealCreated} {n : Nat}

/-- One requirement, without other runs, as `insertRequirement` says. -/
theorem requirement_alone {req : String × Requirement} {rest : List (String × Requirement)}
    (h : SessionAlone i start c.shared db)
    (hphase : c.phase i = .listing tx deal n (req :: rest))
    (hdeal : HasDeal db tx.session.tenantId deal.dealId)
    (hnew : ∀ it ∈ db.checklistItems.rows, it.id ≠ tx.inp.itemIds n) :
    Reaches (sessionTaskStep env) c fun c' =>
      match insertRequirement db (tx.inp.itemIds n) tx.inp.now deal.dealId req.1 req.2 with
      | .ok db' => SessionAlone i start c'.shared db' ∧ c'.phase i = .listing tx deal (n + 1) rest
      | .error e => RunEnds i start c' (.error e) := by
  have hstep : sessionTaskStep env c (.list i) = listStep c i tx deal n req rest := by
    simp only [sessionTaskStep, hphase]
  have hunused : c.shared.items.rows.any
      (·.row.id == (tx.newItem deal n req).id) = false := h.unusedItem hnew
  unfold listStep at hstep
  simp only [hunused, h.view] at hstep
  unfold insertRequirement
  by_cases hany : (db.checklistItems.rows.any
      fun it => it.dealId == deal.dealId && it.typeKey == req.1) = true
  · obtain ⟨old, hold, hkey⟩ := List.any_eq_true.mp hany
    simp only [Bool.and_eq_true, beq_iff_eq] at hkey
    have hconflict : c.shared.items.insertBy i (tx.newItem deal n req) = .conflict :=
      h.itemConflict hold (by simp [clash, sameKey, SessionTx.newItem, hkey.1, hkey.2])
    simp only [hconflict, hany, if_true] at hstep
    simp only [hany, if_true]
    exact .after hstep (.here ⟨h, Processes.advance_phase_self⟩)
  · simp only [hany]
    cases hins : db.checklistItems.insert? (tx.newItem deal n req) with
    | some items =>
      obtain ⟨heap, hheap, halone⟩ := h.insertItem hins
      simp only [hheap, h.holdsDeal hdeal, if_true] at hstep
      simp only [SessionTx.newItem] at hins
      simp only [hins]
      exact .after hstep (.here ⟨halone, Processes.advance_phase_self⟩)
    | none =>
      obtain ⟨old, hold, hclash⟩ := Table.insert?_eq_none.mp hins
      simp only [h.itemConflict hold hclash, hany] at hstep
      simp only [SessionTx.newItem] at hins
      simp only [hins]
      exact .after hstep (.here (h.fail _ _))

/-- An inserted requirement has the new id, or was there. -/
theorem insertRequirement_ids {db' : Db} {newId dealId : UUID} {now : Timestamp} {typeKey : String}
    {requirement : Requirement}
    (h : insertRequirement db newId now dealId typeKey requirement = .ok db') :
    ∀ it ∈ db'.checklistItems.rows, it ∈ db.checklistItems.rows ∨ it.id = newId := by
  unfold insertRequirement at h
  split at h
  · cases h
    exact fun it hit => Or.inl hit
  · split at h
    · rename_i items hins
      cases h
      intro it hit
      rcases (Table.mem_of_insert? hins).mp hit with hit | rfl
      · exact Or.inl hit
      · exact Or.inr rfl
    · contradiction

/-- The inserts of the checklist, without other runs, as `initialiseRequirements` says. -/
theorem list_alone {reqs : List (String × Requirement)} (h : SessionAlone i start c.shared db)
    (hphase : c.phase i = .listing tx deal n reqs)
    (hdeal : HasDeal db tx.session.tenantId deal.dealId)
    (hfresh : FreshItems db.checklistItems (itemIdsFrom tx.inp.itemIds n reqs.length)) :
    Reaches (sessionTaskStep env) c fun c' =>
      match initialiseRequirements tx.inp.now deal.dealId tx.inp.itemIds reqs n db with
      | .ok db' => SessionAlone i start c'.shared db' ∧
          HasDeal db' tx.session.tenantId deal.dealId ∧ ∃ m, c'.phase i = .listing tx deal m []
      | .error e => RunEnds i start c' (.error e) := by
  induction reqs generalizing n db c with
  | nil => exact .here ⟨h, hdeal, n, hphase⟩
  | cons req rest ih =>
    have hids : itemIdsFrom tx.inp.itemIds n (req :: rest).length =
        tx.inp.itemIds n :: itemIdsFrom tx.inp.itemIds (n + 1) rest.length := by
      simp only [itemIdsFrom, List.length_cons, List.range'_succ, List.map_cons]
    rw [hids] at hfresh
    obtain ⟨hnodup, hunused⟩ := hfresh
    obtain ⟨hfirst, hlater⟩ := List.nodup_cons.mp hnodup
    have hnew : ∀ it ∈ db.checklistItems.rows, it.id ≠ tx.inp.itemIds n :=
      fun it hit he => hunused it hit (by rw [he]; exact List.mem_cons_self)
    apply (requirement_alone h hphase hdeal hnew).bind
    intro c₁ hc
    have hunfold : initialiseRequirements tx.inp.now deal.dealId tx.inp.itemIds (req :: rest) n db =
        (insertRequirement db (tx.inp.itemIds n) tx.inp.now deal.dealId req.1 req.2 >>= fun db' =>
          initialiseRequirements tx.inp.now deal.dealId tx.inp.itemIds rest (n + 1) db') := rfl
    rw [hunfold]
    cases hone : insertRequirement db (tx.inp.itemIds n) tx.inp.now deal.dealId req.1 req.2 with
    | error e =>
      rw [hone] at hc
      exact .here hc
    | ok db₁ =>
      rw [hone] at hc
      obtain ⟨items, hframe⟩ := insertRequirement_frame hone
      have hdeal₁ : HasDeal db₁ tx.session.tenantId deal.dealId := by
        rw [hframe]
        exact hdeal
      refine ih hc.1 hc.2 hdeal₁ ⟨hlater, fun it hit hmem => ?_⟩
      rcases insertRequirement_ids hone it hit with hold | hid
      · exact hunused it hold (List.mem_cons_of_mem _ hmem)
      · exact hfirst (hid ▸ hmem)

/-! ## The branches -/

/-- The ids that a run generates are unused. -/
structure FreshRun (db : Db) (inp : SessionInput) : Prop where
  deal : ∀ d ∈ db.deals.rows, d.id ≠ inp.dealId
  items : ∀ dealType, FreshItems db.checklistItems
    (itemIdsFrom inp.itemIds 0 (defaultRequirements dealType).length)
  reply : ∀ o ∈ db.outbox.rows, o.id ≠ inp.outboxId

/-- The last step of a run whose deal is there is taken. -/
theorem SessionAlone.finish (h : SessionAlone i start c.shared db)
    (hreply : ∀ o ∈ start.outbox.rows, o.id ≠ tx.inp.outboxId) {dealId : UUID}
    (hdeal : HasDeal db tx.session.tenantId dealId) (finished : SessionTasks ι) :
    finishStep c i tx dealId finished = some finished := by
  have hunused : c.shared.rest.outbox.rows.any (·.id == tx.inp.outboxId) = false := by
    rw [h.outbox, List.any_eq_false]
    intro o ho
    simpa using hreply o ho
  unfold finishStep
  simp only [hunused, h.holdsDeal hdeal, if_true]
  rfl

/-- The deal is inserted. -/
theorem SessionAlone.insertDeal (h : SessionAlone i start s db) {d : Deal} {deals : Table Deal}
    (hins : db.deals.insert? d = some deals) :
    ∃ heap, s.deals.insertBy i d = .inserted heap ∧
      SessionAlone i start { s with deals := heap } { db with deals := deals } := by
  have hdeals : s.deals.visible i = db.deals := congrArg Db.deals h.view
  rw [← hdeals] at hins
  obtain ⟨heap, hheap, hvisible⟩ := h.dealsOnly.insertBy_of_some hins
  refine ⟨heap, hheap, ?_⟩
  exact {
    h with
    view := by
      rw [← h.view]
      simp only [SessionShared.view, hvisible]
    dealsOnly := h.dealsOnly.insertBy hheap
    committed := by
      rw [← h.committed]
      simp only [SessionShared.committed, Heap.committed_insertBy hheap] }

/-- A visible deal is in the way of the new one. -/
theorem SessionAlone.dealConflict (h : SessionAlone i start s db) {old d : Deal}
    (hold : old ∈ db.deals.rows) (hclash : clash old d = true) :
    s.deals.insertBy i d = .conflict := by
  have hdeals : s.deals.visible i = db.deals := congrArg Db.deals h.view
  exact Heap.conflict_of_clash (by rw [hdeals]; exact hold) hclash

/-- The insert of the deal, without other runs, as `createProvisionalDeal` says. -/
theorem insert_alone (h : SessionAlone i start c.shared db) (hphase : c.phase i = .inserting tx)
    (hnew : ∀ d ∈ db.deals.rows, d.id ≠ tx.inp.dealId) :
    Reaches (sessionTaskStep env) c fun c' =>
      match createProvisionalDeal env db tx.inp.dealId tx.inp.now tx.session.tenantId tx.orgUnitId
        tx.number (orElse tx.fields.customerName "(pending)") tx.fields tx.dealType
        tx.session.contactId with
      | .ok (deal, db') => SessionAlone i start c'.shared db' ∧
          HasDeal db' tx.session.tenantId deal.dealId ∧ db'.checklistItems = db.checklistItems ∧
          c'.phase i = .listing tx deal 0 (defaultRequirements tx.dealType)
      | .error e => RunEnds i start c' (.error e) := by
  have hstep : sessionTaskStep env c (.insert i) = insertStep env c i tx := by
    simp only [sessionTaskStep, hphase]
  unfold insertStep at hstep
  unfold createProvisionalDeal
  have hrow : tx.newDeal env = newDeal env tx.inp.dealId tx.inp.now tx.session.tenantId
      tx.orgUnitId tx.number (orElse tx.fields.customerName "(pending)") tx.fields tx.dealType
      tx.session.contactId := rfl
  rw [← hrow]
  cases hd : tx.newDeal env with
  | error e =>
    rw [hd] at hstep
    exact .after hstep (.here (h.fail _ e))
  | ok d =>
    obtain ⟨hid, htenant, -, -⟩ := newDeal_ok (hrow.symm.trans hd)
    have hunused : c.shared.deals.rows.any (·.row.id == d.id) = false := by
      rw [List.any_eq_false]
      intro v hv
      have hvisible : v.row ∈ db.deals.rows := by
        rw [← h.view]
        change v.row ∈ (c.shared.deals.visible i).rows
        rw [h.dealsOnly.visible_rows]
        exact List.mem_map_of_mem hv
      simpa [hid] using hnew v.row hvisible
    rw [hd] at hstep
    simp only [hunused, h.view] at hstep
    simp only [bind, Except.bind]
    cases hold : dealOfBooking db tx.session.tenantId d.bookingNumber with
    | some old =>
      -- The deal with the booking number is in the way of the insert, and is looked up.
      obtain ⟨hmem, hown, hnumber⟩ := dealOfBooking_some hold
      have hclash : clash old d = true := by
        simp [clash, sameKey, hown, hnumber, htenant]
      simp only [h.dealConflict hmem hclash, hold] at hstep
      let selecting : SessionTasks ι := c.advance i c.shared (.reselecting tx d.bookingNumber)
      have hselecting : selecting.phase i = .reselecting tx d.bookingNumber :=
        Processes.advance_phase_self
      have hview : selecting.shared.view i = db := h.view
      have hselect : sessionTaskStep env selecting (.reselect i) = some (selecting.advance i
          selecting.shared (.listing tx (.ofDeal old) 0 (defaultRequirements tx.dealType))) := by
        simp only [sessionTaskStep, hselecting, reselectStep, hview, hold]
      refine .after hstep (.after hselect (.here ?_))
      exact ⟨h, ⟨old, hmem, rfl, hown⟩, rfl, Processes.advance_phase_self⟩
    | none =>
      cases hins : db.deals.insert? d with
      | some deals =>
        obtain ⟨heap, hheap, halone⟩ := h.insertDeal hins
        simp only [hheap] at hstep
        have hdeal : HasDeal { db with deals := deals } tx.session.tenantId d.id :=
          ⟨d, (Table.mem_of_insert? hins).mpr (Or.inr rfl), rfl, htenant⟩
        exact .after hstep (.here ⟨halone, hdeal, rfl, Processes.advance_phase_self⟩)
      | none =>
        obtain ⟨old, hmem, hclash⟩ := Table.insert?_eq_none.mp hins
        simp only [h.dealConflict hmem hclash, hold] at hstep
        exact .after hstep (.here (h.fail _ _))

/-- The create branch, without other runs. -/
theorem create_alone (h : SessionAlone i start c.shared start) (hphase : c.phase i = .inserting tx)
    (hfresh : FreshRun start tx.inp) :
    Reaches (sessionTaskStep env) c fun c' => RunEnds i start c'
      (createBranch env start tx.inp tx.session tx.orgUnitId tx.files tx.fields) := by
  rw [createBranch_eq]
  apply (insert_alone h hphase hfresh.deal).bind
  intro c₁ hc
  cases hcreate : createProvisionalDeal env start tx.inp.dealId tx.inp.now tx.session.tenantId
      tx.orgUnitId tx.number (orElse tx.fields.customerName "(pending)") tx.fields tx.dealType
      tx.session.contactId with
  | error e =>
    rw [hcreate] at hc
    refine .here ?_
    unfold SessionTx.number SessionTx.dealType at hcreate
    rw [hcreate]
    exact hc
  | ok created =>
    obtain ⟨deal, db₁⟩ := created
    rw [hcreate] at hc
    obtain ⟨halone, hdeal, hitems, hlisting⟩ := hc
    have hids : FreshItems db₁.checklistItems
        (itemIdsFrom tx.inp.itemIds 0 (defaultRequirements tx.dealType).length) := by
      rw [hitems]
      exact hfresh.items tx.dealType
    unfold SessionTx.number SessionTx.dealType at hcreate
    rw [hcreate]
    apply (list_alone halone hlisting hdeal hids).bind
    intro c₂ hc
    simp only [bind, Except.bind]
    unfold initialiseChecklist
    cases hlist : initialiseRequirements tx.inp.now deal.dealId tx.inp.itemIds
        (defaultRequirements tx.dealType) 0 db₁ with
    | error e =>
      rw [hlist] at hc
      unfold SessionTx.dealType at hlist
      rw [hlist]
      exact .here hc
    | ok db₂ =>
      rw [hlist] at hc
      obtain ⟨halone₂, hdeal₂, m, hlast⟩ := hc
      unfold SessionTx.dealType at hlist
      rw [hlist]
      have hfinish : sessionTaskStep env c₂ (.finish i) =
          some (finishCreated env c₂ i tx deal) := by
        simp only [sessionTaskStep, hlast]
        exact halone₂.finish hfresh.reply hdeal₂ _
      refine .after hfinish (.here ?_)
      unfold finishCreated
      rw [halone₂.view]
      exact halone₂.close (linkDeal_leaves halone₂.view) (Or.inr ⟨tx, deal.dealId, rfl⟩)

/-- The branch of a match, without other runs. -/
theorem match_alone {found : DealMatch} (h : SessionAlone i start c.shared start)
    (hphase : c.phase i = .matched tx found)
    (hdeal : HasDeal start tx.session.tenantId found.dealId) (hfresh : FreshRun start tx.inp) :
    Reaches (sessionTaskStep env) c fun c' => RunEnds i start c'
      (if found.isExact then exactBranch env start tx.inp tx.session tx.files found
        else .ok (ambiguousBranch start tx.inp tx.session found)) := by
  have hfinish : sessionTaskStep env c (.finish i) = some (finishMatched env c i tx found) := by
    simp only [sessionTaskStep, hphase]
    exact h.finish hfresh.reply hdeal _
  refine .after hfinish (.here ?_)
  unfold finishMatched
  rw [h.view]
  cases found.isExact with
  | true => exact h.close (exactBranch_leaves h.view) (Or.inr ⟨tx, found.dealId, rfl⟩)
  | false =>
    rw [if_neg Bool.false_ne_true, if_neg Bool.false_ne_true]
    refine h.close ?_ (Or.inl rfl)
    intro db' hdb
    cases hdb
    constructor
    · rw [ambiguousBranch_deals]
      exact (congrArg Db.deals h.view).symm
    · unfold ambiguousBranch raiseAmbiguousReview
      split
      · exact (congrArg Db.checklistItems h.view).symm
      · exact (congrArg Db.checklistItems h.view).symm

/-! ## The run -/

/-- The decision about the deal, without other runs, as `decideDeal` says. -/
theorem decide_alone (h : SessionAlone i start c.shared start) (hphase : c.phase i = .searching tx)
    (hfresh : FreshRun start tx.inp) :
    Reaches (sessionTaskStep env) c fun c' => RunEnds i start c'
      (decideDeal env start tx.inp tx.session tx.orgUnitId tx.files tx.fields) := by
  have hsearch : sessionTaskStep env c (.search i) = some (searchStep c i tx) := by
    simp only [sessionTaskStep, hphase]
  unfold searchStep at hsearch
  rw [h.view] at hsearch
  unfold decideDeal
  rw [findExistingDeal_eq]
  unfold SessionTx.number at hsearch
  cases hnumber : selectText (orElse tx.fields.bookingNumber (fallbackNumber tx.session.id)) with
  | error e =>
    rw [hnumber] at hsearch
    exact .after hsearch (.here (h.fail _ e))
  | ok number =>
    rw [hnumber] at hsearch
    simp only [bind, Except.bind]
    cases hdeal : dealOfBooking start tx.session.tenantId number with
    | some d =>
      simp only [hdeal] at hsearch
      obtain ⟨hmem, htenant, -⟩ := dealOfBooking_some hdeal
      let matched : SessionTasks ι := c.advance i c.shared (.matched tx (.ofExact d))
      have halone : SessionAlone i start matched.shared start := h
      exact .after hsearch
        (match_alone halone Processes.advance_phase_self ⟨d, hmem, rfl, htenant⟩ hfresh)
    | none =>
      simp only [hdeal] at hsearch
      let comparing : SessionTasks ι := c.advance i c.shared (.comparing tx)
      have hcomparing : comparing.phase i = .comparing tx := Processes.advance_phase_self
      have halone : SessionAlone i start comparing.shared start := h
      have hcompare : sessionTaskStep env comparing (.compare i) =
          some (compareStep env comparing i tx) := by
        simp only [sessionTaskStep, hcomparing]
      unfold compareStep at hcompare
      rw [halone.view] at hcompare
      refine .after hsearch ?_
      cases hfuzzy : fuzzyMatch env start tx.session.tenantId tx.fields.customerName
          tx.fields.model tx.fields.bookingDate with
      | error e =>
        rw [hfuzzy] at hcompare
        exact .after hcompare (.here (halone.fail _ e))
      | ok found =>
        rw [hfuzzy] at hcompare
        cases found with
        | none =>
          let inserting : SessionTasks ι := comparing.advance i comparing.shared (.inserting tx)
          have hinserting : SessionAlone i start inserting.shared start := h
          exact .after hcompare (create_alone hinserting Processes.advance_phase_self hfresh)
        | some m =>
          let matched : SessionTasks ι := comparing.advance i comparing.shared (.matched tx m)
          have hmatched : SessionAlone i start matched.shared start := h
          exact .after hcompare (match_alone hmatched Processes.advance_phase_self
            (fuzzyMatch_some hfuzzy).1 hfresh)

/-- The run is over, with the effects of `result`. -/
structure SessionEnded (i : ι) (c : SessionTasks ι) (result : TaskResult) : Prop where
  committed : c.shared.committed = result.db
  phase : if result.raised then ∃ fault, c.phase i = .failed fault
    else c.phase i = .over ∨ ∃ tx dealId, c.phase i = .resolved tx dealId

/-- A run that nothing interrupts does what `processSessionOn` says. -/
theorem run_session_alone (env : Env) (db : Db) (inp : SessionInput) (sessionId : UUID)
    (files : List RowMapping) (i : ι) (hfresh : FreshRun db inp) :
    Reaches (sessionTaskStep env) (sessionTasksStart ι db) fun c =>
      SessionEnded i c (processSessionOn env db inp sessionId files) := by
  have hstart : SessionAlone i db (sessionTasksStart ι db).shared db := sessionAlone_start db i
  have hload : sessionTaskStep env (sessionTasksStart ι db) (.load i sessionId files inp) =
      some ((sessionTasksStart ι db).advance i (sessionTasksStart ι db).shared
        (phaseOfSession env files inp (sessionById db sessionId))) := rfl
  unfold processSessionOn
  cases hs : sessionById db sessionId with
  | none =>
    rw [hs] at hload
    exact .after hload (.here ⟨hstart.committed, Or.inl Processes.advance_phase_self⟩)
  | some s =>
    rw [hs] at hload
    -- It is enough that the transaction ends as `sessionTransactionOn` says.
    suffices htx : Reaches (sessionTaskStep env) (sessionTasksStart ι db) fun c =>
        RunEnds i db c (sessionTransactionOn env db inp s files) by
      apply htx.imp
      intro c hc
      simp only
      cases hresult : sessionTransactionOn env db inp s files with
      | ok db' =>
        rw [hresult] at hc
        exact ⟨hc.1, hc.2⟩
      | error e =>
        rw [hresult] at hc
        exact ⟨hc.1, hc.2⟩
    unfold phaseOfSession at hload
    unfold sessionTransactionOn
    cases horg : s.orgUnitId with
    | none =>
      simp only [horg] at hload
      exact .after hload (.here ⟨hstart.committed, _, Processes.advance_phase_self⟩)
    | some orgUnitId =>
      simp only [horg] at hload
      simp only [bind, Except.bind]
      cases hgate : sessionGate env files with
      | error e =>
        rw [hgate] at hload
        exact .after hload (.here ⟨hstart.committed, _, Processes.advance_phase_self⟩)
      | ok gate =>
        rw [hgate] at hload
        cases gate with
        | parked note =>
          let parking : SessionTasks ι := (sessionTasksStart ι db).advance i
            (sessionTasksStart ι db).shared (.parking s note)
          have hparking : parking.phase i = .parking s note := Processes.advance_phase_self
          have halone : SessionAlone i db parking.shared db := hstart
          have hpark : sessionTaskStep env parking (.finish i) = some
              (closeStep parking i parking.shared (.ok (parkSession db s.id note)) .over) := by
            simp only [sessionTaskStep, hparking, halone.view]
          refine .after hload (.after hpark (.here (halone.close ?_ (Or.inl rfl))))
          intro db' hdb
          cases hdb
          exact ⟨(congrArg Db.deals halone.view).symm,
            (congrArg Db.checklistItems halone.view).symm⟩
        | ready fields =>
          let searching : SessionTasks ι := (sessionTasksStart ι db).advance i
            (sessionTasksStart ι db).shared (.searching ⟨s, orgUnitId, files, fields, inp⟩)
          have halone : SessionAlone i db searching.shared db := hstart
          exact .after hload (decide_alone halone Processes.advance_phase_self hfresh)

end WaService
