import WaService.Core.Heap
import WaService.Core.Processes
import WaService.System.DealRuns

/-!
# Overlapping runs of the session task

Any number of runs of `process_session` over one database, under READ COMMITTED, each with the
session and the file rows that it reads. The lookups of the deal, its insert, the second lookup and
every insert into the checklist are statements of their own. An insert waits while another open
transaction holds its key; a statement that waits is no step. The statements after these, which
change nothing that a lookup of another run reads, are one step with the `COMMIT`.
-/

namespace WaService

open Python Relational Transition

/-! ## The statements of the task -/

/-- The create branch after the checklist: link the deal, satisfy its items, ask to confirm. -/
def linkDeal (env : Env) (db : Db) (inp : SessionInput) (s : Session) (files : List RowMapping)
    (deal : DealCreated) : Except Error Db := do
  let linked := transitionToConfirming db inp.now s.id deal.dealId
  let satisfied := satisfyConfirmedFiles linked inp.now deal.dealId files
  let locale ← contactLocale satisfied s.contactId
  let payload ← confirmPayload (env.copy locale) s.id deal
  let (_, queued) ← enqueueReply satisfied inp.outboxId inp.now s.tenantId s.contactId (some s.id)
    .interactive payload (some ("deal_confirm_" ++ uuidStr s.id)) none
  return queued

theorem createBranch_eq (env : Env) (db : Db) (inp : SessionInput) (s : Session) (orgUnitId : UUID)
    (files : List RowMapping) (fields : BookingFields) :
    createBranch env db inp s orgUnitId files fields = (do
      let (deal, created) ← createProvisionalDeal env db inp.dealId inp.now s.tenantId orgUnitId
        (orElse fields.bookingNumber (fallbackNumber s.id))
        (orElse fields.customerName "(pending)") fields (inferDealType fields) s.contactId
      let listed ←
        initialiseChecklist created inp.itemIds inp.now deal.dealId (inferDealType fields)
      linkDeal env listed inp s files deal) :=
  rfl

/-! ## The state -/

/-- The database of the runs. -/
structure SessionShared (ι : Type) where
  /-- The tables without uncommitted rows; its deals and checklist items are not used. -/
  rest : Db
  deals : Heap ι Deal
  items : Heap ι ChecklistItem

/-- What a run knows once the files of its session are ready. -/
structure SessionTx where
  session : Session
  orgUnitId : UUID
  files : List RowMapping
  fields : BookingFields
  inp : SessionInput

namespace SessionTx

/-- The booking number, or the one made from the session. -/
def number (tx : SessionTx) : Json := orElse tx.fields.bookingNumber (fallbackNumber tx.session.id)

def dealType (tx : SessionTx) : DealType := inferDealType tx.fields

/-- The row that `create_provisional_deal` inserts. -/
def newDeal (env : Env) (tx : SessionTx) : Except Error Deal :=
  WaService.newDeal env tx.inp.dealId tx.inp.now tx.session.tenantId tx.orgUnitId tx.number
    (orElse tx.fields.customerName "(pending)") tx.fields tx.dealType tx.session.contactId

/-- The run is about the booking of the tenant. -/
def Books (tx : SessionTx) (tenantId : UUID) (number : String) : Prop :=
  tx.session.tenantId = tenantId ∧ selectText tx.number = .ok number

end SessionTx

/-- Why a run has failed. -/
inductive SessionFault where
  /-- A unique index refused a row. -/
  | duplicateKey
  /-- The row of the deal was not there. -/
  | dealMissing
  /-- Another exception. -/
  | raised (e : Error)
  /-- The server or the connection ended the transaction. -/
  | cancelled
  deriving DecidableEq, Repr

/-- Where a run stands. -/
inductive SessionPhase where
  | waiting
  /-- `park_session` is next. -/
  | parking (s : Session) (note : String)
  /-- The lookup by booking number is next. -/
  | searching (tx : SessionTx)
  /-- The fuzzy lookup is next. -/
  | comparing (tx : SessionTx)
  /-- The `INSERT` of the deal is next. -/
  | inserting (tx : SessionTx)
  /-- The lookup after `ON CONFLICT DO NOTHING` is next. -/
  | reselecting (tx : SessionTx) (number : String)
  /-- The `INSERT` of requirement `n` is next, or the end of the create branch. -/
  | listing (tx : SessionTx) (deal : DealCreated) (n : Nat) (rest : List (String × Requirement))
  /-- The branch of the match is next. -/
  | matched (tx : SessionTx) (found : DealMatch)
  /-- The create branch or the exact branch is committed, with its deal. -/
  | resolved (tx : SessionTx) (dealId : UUID)
  /-- The run has ended without a deal of its own. -/
  | over
  | failed (fault : SessionFault)

/-- The transaction of the run is open. -/
def SessionPhase.inTransaction : SessionPhase → Bool
  | .waiting | .resolved _ _ | .over | .failed _ => false
  | _ => true

/-- The runs over one database. -/
abbrev SessionTasks (ι : Type) := Processes ι (SessionShared ι) SessionPhase

/-- A statement of the run `i`, or a change of the other tables by another task. -/
inductive SessionStatement (ι : Type) where
  | load (i : ι) (sessionId : UUID) (files : List RowMapping) (inp : SessionInput)
  | search (i : ι)
  | compare (i : ι)
  | insert (i : ι)
  | reselect (i : ι)
  | list (i : ι)
  | finish (i : ι)
  | cancel (i : ι)
  | elsewhere (db : Db)

/-- The run that the statement belongs to. -/
def SessionStatement.task {ι : Type} : SessionStatement ι → Option ι
  | .load i _ _ _ | .search i | .compare i | .insert i | .reselect i | .list i | .finish i
  | .cancel i => some i
  | .elsewhere _ => none

variable {ι : Type} [DecidableEq ι]

namespace SessionShared

/-- The database as the statements of a run see it. -/
def view (s : SessionShared ι) (i : ι) : Db :=
  { s.rest with deals := s.deals.visible i, checklistItems := s.items.visible i }

omit [DecidableEq ι] in
/-- The committed database. -/
def committed (s : SessionShared ι) : Db :=
  { s.rest with deals := s.deals.committed, checklistItems := s.items.committed }

/-- `COMMIT` of a run that leaves `db` in the other tables. -/
def commit (s : SessionShared ι) (i : ι) (db : Db) : SessionShared ι :=
  ⟨db, s.deals.commit i, s.items.commit i⟩

/-- `ROLLBACK` of a run. -/
def rollback (s : SessionShared ι) (i : ι) : SessionShared ι :=
  { s with deals := s.deals.rollback i, items := s.items.rollback i }

/-- `confirm_deal`, on the rows of open transactions. -/
def confirmDeal (s : SessionShared ι) (i : ι) (now : Timestamp)
    (tenantId dealId confirmedBy : UUID) : SessionShared ι :=
  { s with
    deals := s.deals.updateBy i
      (fun d => d.tenantId == tenantId && d.id == dealId && d.state == .provisional)
      (fun d => { d with
        state := .confirmed
        confirmedBy := some confirmedBy
        confirmedAt := some now
        updatedAt := now })
      (Deal.keeps fun _ => ⟨rfl, rfl, rfl⟩) }

/-- `mark_satisfied`, on the rows of open transactions. -/
def markSatisfied (s : SessionShared ι) (i : ι) (now : Timestamp) (dealId : UUID) (typeKey : String)
    (documentId : UUID) : SessionShared ι :=
  { s with
    items := s.items.updateBy i (fun it => it.dealId == dealId && it.typeKey == typeKey)
      (fun it => { it with satisfied := true, documentId := some documentId, updatedAt := now })
      (ChecklistItem.keeps fun _ => ⟨rfl, rfl, rfl⟩) }

/-- `_satisfy_confirmed_files`, on the rows of open transactions. -/
def satisfyConfirmedFiles (s : SessionShared ι) (i : ι) (now : Timestamp) (dealId : UUID)
    (files : List RowMapping) : SessionShared ι :=
  files.foldl (fun s f =>
    match f.get .documentTypeKey, f.get .diDocumentId with
    | .text typeKey, .uuid documentId =>
      if typeKey == "" then s else s.markSatisfied i now dealId typeKey documentId
    | _, _ => s) s

/-- The tenant's deal is there, as foreign keys and `build_checklist` ask. -/
def holdsDeal (s : SessionShared ι) (i : ι) (tenantId dealId : UUID) : Bool :=
  (s.deals.visible i).rows.any fun d => d.id == dealId && d.tenantId == tenantId

end SessionShared

/-- The requirement that the insert of an item is about, as the row of the item. -/
def SessionTx.newItem (tx : SessionTx) (deal : DealCreated) (n : Nat) (req : String × Requirement) :
    ChecklistItem :=
  ⟨tx.inp.itemIds n, deal.dealId, req.1, req.2, false, none, tx.inp.now⟩

/-! ## The steps -/

/-- The run ends with an exception, and its transaction is rolled back. -/
def SessionTasks.fail (c : SessionTasks ι) (i : ι) (fault : SessionFault) : SessionTasks ι :=
  c.advance i (c.shared.rollback i) (.failed fault)

/-- The phase after the session and its files have been read. -/
def phaseOfSession (env : Env) (files : List RowMapping) (inp : SessionInput) :
    Option Session → SessionPhase
  | none => .over
  | some s =>
    match s.orgUnitId with
    | none => .failed (.raised .valueError)
    | some orgUnitId =>
      match sessionGate env files with
      | .error e => .failed (.raised e)
      | .ok (.parked note) => .parking s note
      | .ok (.ready fields) => .searching ⟨s, orgUnitId, files, fields, inp⟩

/-- The lookup by booking number. -/
def searchStep (c : SessionTasks ι) (i : ι) (tx : SessionTx) : SessionTasks ι :=
  match selectText tx.number with
  | .error e => c.fail i (.raised e)
  | .ok number =>
    match dealOfBooking (c.shared.view i) tx.session.tenantId number with
    | some d => c.advance i c.shared (.matched tx (.ofExact d))
    | none => c.advance i c.shared (.comparing tx)

/-- The fuzzy lookup. -/
def compareStep (env : Env) (c : SessionTasks ι) (i : ι) (tx : SessionTx) : SessionTasks ι :=
  match fuzzyMatch env (c.shared.view i) tx.session.tenantId tx.fields.customerName tx.fields.model
      tx.fields.bookingDate with
  | .error e => c.fail i (.raised e)
  | .ok (some found) => c.advance i c.shared (.matched tx found)
  | .ok none => c.advance i c.shared (.inserting tx)

/-- `INSERT ... ON CONFLICT (tenant_id, booking_number) DO NOTHING`; a new row has an unused id. -/
def insertStep (env : Env) (c : SessionTasks ι) (i : ι) (tx : SessionTx) :
    Option (SessionTasks ι) :=
  match tx.newDeal env with
  | .error e => some (c.fail i (.raised e))
  | .ok d =>
    if c.shared.deals.rows.any (·.row.id == d.id) then none
    else
      match c.shared.deals.insertBy i d with
      | .inserted deals =>
        some (c.advance i { c.shared with deals := deals }
          (.listing tx (.ofDeal d) 0 (defaultRequirements tx.dealType)))
      | .conflict =>
        match dealOfBooking (c.shared.view i) tx.session.tenantId d.bookingNumber with
        | some _ => some (c.advance i c.shared (.reselecting tx d.bookingNumber))
        | none => some (c.fail i .duplicateKey)
      | .waits => none

/-- The existing deal; no row is `NoResultFound`. -/
def reselectStep (c : SessionTasks ι) (i : ι) (tx : SessionTx) (number : String) : SessionTasks ι :=
  match dealOfBooking (c.shared.view i) tx.session.tenantId number with
  | some d =>
    c.advance i c.shared (.listing tx (.ofDeal d) 0 (defaultRequirements tx.dealType))
  | none => c.fail i .dealMissing

/-- One insert of `initialise_checklist`, `ON CONFLICT (deal_id, type_key) DO NOTHING`; a new row
has an unused id, and its deal must be there. -/
def listStep (c : SessionTasks ι) (i : ι) (tx : SessionTx) (deal : DealCreated) (n : Nat)
    (req : String × Requirement) (rest : List (String × Requirement)) : Option (SessionTasks ι) :=
  let next : SessionPhase := .listing tx deal (n + 1) rest
  let item := tx.newItem deal n req
  if c.shared.items.rows.any (·.row.id == item.id) then none
  else
    match c.shared.items.insertBy i item with
    | .inserted items =>
      if c.shared.holdsDeal i tx.session.tenantId deal.dealId then
        some (c.advance i { c.shared with items := items } next)
      else some (c.fail i .dealMissing)
    | .conflict =>
      if (c.shared.view i).checklistItems.rows.any
          fun it => it.dealId == deal.dealId && it.typeKey == req.1 then
        some (c.advance i c.shared next)
      else some (c.fail i .duplicateKey)
    | .waits => none

/-- What an exception of the last statements means. -/
def faultOf : Error → SessionFault
  | .integrityError => .duplicateKey
  | e => .raised e

/-- The last statements of a run that leave `db`, and its `COMMIT`. -/
def closeStep (c : SessionTasks ι) (i : ι) (s : SessionShared ι) (result : Except Error Db)
    (next : SessionPhase) : SessionTasks ι :=
  match result with
  | .error e => c.fail i (faultOf e)
  | .ok db => c.advance i (s.commit i db) next

/-- The create branch after the checklist. -/
def finishCreated (env : Env) (c : SessionTasks ι) (i : ι) (tx : SessionTx) (deal : DealCreated) :
    SessionTasks ι :=
  closeStep c i (c.shared.satisfyConfirmedFiles i tx.inp.now deal.dealId tx.files)
    (linkDeal env (c.shared.view i) tx.inp tx.session tx.files deal) (.resolved tx deal.dealId)

/-- The branch of a match. -/
def finishMatched (env : Env) (c : SessionTasks ι) (i : ι) (tx : SessionTx) (found : DealMatch) :
    SessionTasks ι :=
  if found.isExact then
    let confirmed := c.shared.confirmDeal i tx.inp.now tx.session.tenantId found.dealId
      tx.session.contactId
    closeStep c i (confirmed.satisfyConfirmedFiles i tx.inp.now found.dealId tx.files)
      (exactBranch env (c.shared.view i) tx.inp tx.session tx.files found)
      (.resolved tx found.dealId)
  else
    closeStep c i c.shared (.ok (ambiguousBranch (c.shared.view i) tx.inp tx.session found)) .over

/-- The end of a run whose deal is known; the reply has an unused id, and the deal must be there. -/
def finishStep (c : SessionTasks ι) (i : ι) (tx : SessionTx) (dealId : UUID)
    (finished : SessionTasks ι) : Option (SessionTasks ι) :=
  if c.shared.rest.outbox.rows.any (·.id == tx.inp.outboxId) then none
  else if c.shared.holdsDeal i tx.session.tenantId dealId then some finished
  else some (c.fail i .dealMissing)

/-- The statements of the runs. -/
def sessionTaskStep (env : Env) (c : SessionTasks ι) : SessionStatement ι → Option (SessionTasks ι)
  | .load i sessionId files inp =>
    match c.phase i with
    | .waiting =>
      some (c.advance i c.shared
        (phaseOfSession env files inp (sessionById c.shared.rest sessionId)))
    | _ => none
  | .search i =>
    match c.phase i with
    | .searching tx => some (searchStep c i tx)
    | _ => none
  | .compare i =>
    match c.phase i with
    | .comparing tx => some (compareStep env c i tx)
    | _ => none
  | .insert i =>
    match c.phase i with
    | .inserting tx => insertStep env c i tx
    | _ => none
  | .reselect i =>
    match c.phase i with
    | .reselecting tx number => some (reselectStep c i tx number)
    | _ => none
  | .list i =>
    match c.phase i with
    | .listing tx deal n (req :: rest) => listStep c i tx deal n req rest
    | _ => none
  | .finish i =>
    match c.phase i with
    | .parking s note =>
      some (closeStep c i c.shared (.ok (parkSession (c.shared.view i) s.id note)) .over)
    | .listing tx deal _ [] => finishStep c i tx deal.dealId (finishCreated env c i tx deal)
    | .matched tx found => finishStep c i tx found.dealId (finishMatched env c i tx found)
    | _ => none
  | .cancel i => if (c.phase i).inTransaction then some (c.fail i .cancelled) else none
  | .elsewhere db => some ⟨{ c.shared with rest := db }, c.phase⟩

/-- Runs about to start on a database. -/
def sessionTasksStart (ι : Type) (db : Db) : SessionTasks ι :=
  ⟨⟨db, .ofTable db.deals, .ofTable db.checklistItems⟩, fun _ => .waiting⟩

/-! ## What a statement that is taken needs and does -/

namespace SessionTasks

variable {env : Env} {c c' : SessionTasks ι} {i : ι}

theorem load_inv {sessionId : UUID} {files : List RowMapping} {inp : SessionInput}
    (h : sessionTaskStep env c (.load i sessionId files inp) = some c') :
    c.phase i = .waiting ∧
      c' = c.advance i c.shared
        (phaseOfSession env files inp (sessionById c.shared.rest sessionId)) := by
  simp only [sessionTaskStep] at h
  split at h
  · rename_i hphase
    cases h
    exact ⟨hphase, rfl⟩
  · contradiction

theorem search_inv (h : sessionTaskStep env c (.search i) = some c') :
    ∃ tx, c.phase i = .searching tx ∧ c' = searchStep c i tx := by
  simp only [sessionTaskStep] at h
  split at h
  · rename_i tx hphase
    cases h
    exact ⟨tx, hphase, rfl⟩
  · contradiction

theorem compare_inv (h : sessionTaskStep env c (.compare i) = some c') :
    ∃ tx, c.phase i = .comparing tx ∧ c' = compareStep env c i tx := by
  simp only [sessionTaskStep] at h
  split at h
  · rename_i tx hphase
    cases h
    exact ⟨tx, hphase, rfl⟩
  · contradiction

/-- The insert of a deal fails, adds a row, finds one in its way, or is refused. -/
theorem insert_inv (h : sessionTaskStep env c (.insert i) = some c') :
    ∃ tx, c.phase i = .inserting tx ∧
      ((∃ e, c' = c.fail i (.raised e)) ∨
        ∃ d, tx.newDeal env = .ok d ∧ c.shared.deals.rows.any (·.row.id == d.id) = false ∧
          ((∃ deals, c.shared.deals.insertBy i d = .inserted deals ∧
              c' = c.advance i { c.shared with deals := deals }
                (.listing tx (.ofDeal d) 0 (defaultRequirements tx.dealType))) ∨
            c.shared.deals.insertBy i d = .conflict ∧
              ((∃ old, dealOfBooking (c.shared.view i) tx.session.tenantId d.bookingNumber =
                    some old ∧
                  c' = c.advance i c.shared (.reselecting tx d.bookingNumber)) ∨
                dealOfBooking (c.shared.view i) tx.session.tenantId d.bookingNumber = none ∧
                  c' = c.fail i .duplicateKey))) := by
  simp only [sessionTaskStep] at h
  split at h
  · rename_i tx hphase
    refine ⟨tx, hphase, ?_⟩
    unfold insertStep at h
    split at h
    · rename_i e hd
      cases h
      exact Or.inl ⟨e, rfl⟩
    · rename_i d hd
      refine Or.inr ⟨d, hd, ?_⟩
      split at h
      · contradiction
      · rename_i hnew
        refine ⟨by simpa using hnew, ?_⟩
        split at h
        · rename_i deals hins
          cases h
          exact Or.inl ⟨deals, hins, rfl⟩
        · rename_i hconflict
          refine Or.inr ⟨hconflict, ?_⟩
          split at h
          · rename_i old hold
            cases h
            exact Or.inl ⟨old, hold, rfl⟩
          · rename_i hnone
            cases h
            exact Or.inr ⟨hnone, rfl⟩
        · contradiction
  · contradiction

theorem reselect_inv (h : sessionTaskStep env c (.reselect i) = some c') :
    ∃ tx number, c.phase i = .reselecting tx number ∧ c' = reselectStep c i tx number := by
  simp only [sessionTaskStep] at h
  split at h
  · rename_i tx number hphase
    cases h
    exact ⟨tx, number, hphase, rfl⟩
  · contradiction

/-- The insert of an item adds a row, finds one in its way, or is refused. -/
theorem list_inv (h : sessionTaskStep env c (.list i) = some c') :
    ∃ tx deal n req rest, c.phase i = .listing tx deal n (req :: rest) ∧
      c.shared.items.rows.any (·.row.id == tx.inp.itemIds n) = false ∧
      ((∃ items, c.shared.items.insertBy i (tx.newItem deal n req) = .inserted items ∧
          ((c.shared.holdsDeal i tx.session.tenantId deal.dealId = true ∧
              c' = c.advance i { c.shared with items := items } (.listing tx deal (n + 1) rest)) ∨
            c.shared.holdsDeal i tx.session.tenantId deal.dealId = false ∧
              c' = c.fail i .dealMissing)) ∨
        c.shared.items.insertBy i (tx.newItem deal n req) = .conflict ∧
          (((∃ it ∈ (c.shared.items.visible i).rows, it.dealId = deal.dealId ∧ it.typeKey = req.1) ∧
              c' = c.advance i c.shared (.listing tx deal (n + 1) rest)) ∨
            (∀ it ∈ (c.shared.items.visible i).rows,
                ¬ (it.dealId = deal.dealId ∧ it.typeKey = req.1)) ∧
              c' = c.fail i .duplicateKey)) := by
  simp only [sessionTaskStep] at h
  split at h
  · rename_i tx deal n req rest hphase
    refine ⟨tx, deal, n, req, rest, hphase, ?_⟩
    unfold listStep at h
    simp only at h
    split at h
    · contradiction
    · rename_i hnew
      refine ⟨by simpa [SessionTx.newItem] using hnew, ?_⟩
      split at h
      · rename_i items hins
        refine Or.inl ⟨items, hins, ?_⟩
        split at h
        · rename_i hheld
          cases h
          exact Or.inl ⟨hheld, rfl⟩
        · rename_i hgone
          cases h
          exact Or.inr ⟨by simpa using hgone, rfl⟩
      · rename_i hconflict
        refine Or.inr ⟨hconflict, ?_⟩
        split at h
        · rename_i hany
          cases h
          exact Or.inl ⟨by simpa [SessionShared.view] using hany, rfl⟩
        · rename_i hnone
          cases h
          exact Or.inr ⟨by simpa [SessionShared.view] using hnone, rfl⟩
      · contradiction
  · contradiction

/-- The last step parks the session, or ends the create branch or the branch of a match. -/
theorem finish_inv (h : sessionTaskStep env c (.finish i) = some c') :
    (∃ s note, c.phase i = .parking s note ∧
        c' = closeStep c i c.shared (.ok (parkSession (c.shared.view i) s.id note)) .over) ∨
      (∃ tx deal n, c.phase i = .listing tx deal n [] ∧
        finishStep c i tx deal.dealId (finishCreated env c i tx deal) = some c') ∨
      ∃ tx found, c.phase i = .matched tx found ∧
        finishStep c i tx found.dealId (finishMatched env c i tx found) = some c' := by
  simp only [sessionTaskStep] at h
  split at h
  · rename_i s note hphase
    cases h
    exact Or.inl ⟨s, note, hphase, rfl⟩
  · rename_i tx deal n hphase
    exact Or.inr (Or.inl ⟨tx, deal, n, hphase, h⟩)
  · rename_i tx found hphase
    exact Or.inr (Or.inr ⟨tx, found, hphase, h⟩)
  · contradiction

theorem finishStep_inv {tx : SessionTx} {dealId : UUID} {finished : SessionTasks ι}
    (h : finishStep c i tx dealId finished = some c') :
    (∀ o ∈ c.shared.rest.outbox.rows, o.id ≠ tx.inp.outboxId) ∧
      ((c.shared.holdsDeal i tx.session.tenantId dealId = true ∧ c' = finished) ∨
        c.shared.holdsDeal i tx.session.tenantId dealId = false ∧ c' = c.fail i .dealMissing) := by
  unfold finishStep at h
  split at h
  · contradiction
  · rename_i hnew
    refine ⟨by simpa using hnew, ?_⟩
    split at h
    · rename_i hheld
      cases h
      exact Or.inl ⟨hheld, rfl⟩
    · rename_i hgone
      cases h
      exact Or.inr ⟨by simpa using hgone, rfl⟩

theorem cancel_inv (h : sessionTaskStep env c (.cancel i) = some c') :
    (c.phase i).inTransaction = true ∧ c' = c.fail i .cancelled := by
  simp only [sessionTaskStep] at h
  split at h
  · rename_i hopen
    cases h
    exact ⟨hopen, rfl⟩
  · contradiction

theorem elsewhere_inv {db : Db} (h : sessionTaskStep env c (.elsewhere db) = some c') :
    c' = ⟨{ c.shared with rest := db }, c.phase⟩ := by
  cases h
  rfl

end SessionTasks

end WaService
