import WaService.Correctness.SessionOutcome
import WaService.System.ColdStart

/-!
# One deal for a booking

However the transactions of the session task overlap, a booking number has at most one deal in its
tenant, all runs that committed the create branch or the exact branch of a booking have the same
deal, and none of them has failed on a unique index or for want of the deal.
-/

namespace WaService

open Python Relational Transition

/-! ## What the rows of open transactions say -/

/-- The columns of a deal that no statement of the task changes. -/
structure DealFacts where
  id : UUID
  tenantId : UUID
  bookingNumber : String
  dealType : DealType

def Deal.facts (d : Deal) : DealFacts := ⟨d.id, d.tenantId, d.bookingNumber, d.dealType⟩

/-- The columns of a checklist item that no statement of the task changes. -/
structure ItemFacts where
  dealId : UUID
  typeKey : String
  requirement : Requirement

def ChecklistItem.facts (it : ChecklistItem) : ItemFacts := ⟨it.dealId, it.typeKey, it.requirement⟩

variable {ι : Type}

namespace SessionShared

def dealFacts (s : SessionShared ι) : List (DealFacts × Option ι) := s.deals.facts Deal.facts

def itemFacts (s : SessionShared ι) : List (ItemFacts × Option ι) :=
  s.items.facts ChecklistItem.facts

/-- The run sees a deal of which this is said. -/
def SeesDeal (s : SessionShared ι) (i : ι) (x : DealFacts) : Prop :=
  (x, none) ∈ s.dealFacts ∨ (x, some i) ∈ s.dealFacts

/-- The run sees an item of which this is said. -/
def SeesItem (s : SessionShared ι) (i : ι) (y : ItemFacts) : Prop :=
  (y, none) ∈ s.itemFacts ∨ (y, some i) ∈ s.itemFacts

variable {s s' : SessionShared ι} {i j : ι} {x x' : DealFacts} {y : ItemFacts} {w w' : Option ι}

/-- A booking number and an id have one deal, committed or not. -/
theorem dealFacts_unique (h : (x, w) ∈ s.dealFacts) (h' : (x', w') ∈ s.dealFacts)
    (hkey : x.id = x'.id ∨ (x.tenantId = x'.tenantId ∧ x.bookingNumber = x'.bookingNumber)) :
    x = x' ∧ w = w' := by
  obtain ⟨v, hv, rfl, rfl⟩ := Heap.mem_facts.mp h
  obtain ⟨v', hv', rfl, rfl⟩ := Heap.mem_facts.mp h'
  have hclash : clash v.row v'.row = true := by
    simp only [clash, Bool.or_eq_true, sameKey, beq_iff_eq, Prod.mk.injEq]
    exact hkey
  rw [Table.eq_of_clash hv hv' hclash]
  exact ⟨rfl, rfl⟩

/-! ## How a step moves them -/

/-- A list of facts after the `COMMIT` of a transaction. -/
def AfterCommit {β : Type} (i : ι) (old new : List (β × Option ι)) : Prop :=
  ∀ b w, (b, w) ∈ new ↔ (w ≠ some i ∧ (b, w) ∈ old) ∨ (w = none ∧ (b, some i) ∈ old)

/-- A list of facts after the `ROLLBACK` of a transaction. -/
def AfterRollback {β : Type} (i : ι) (old new : List (β × Option ι)) : Prop :=
  ∀ b w, (b, w) ∈ new ↔ w ≠ some i ∧ (b, w) ∈ old

/-- What one step of a run does to the rows. -/
inductive Moved (i : ι) (s s' : SessionShared ι) : Prop
  | stays (hd : s'.dealFacts = s.dealFacts) (hi : s'.itemFacts = s.itemFacts)
  | deal (x : DealFacts) (hd : s'.dealFacts = s.dealFacts ++ [(x, some i)])
      (hi : s'.itemFacts = s.itemFacts)
  /-- The deal of a new item is one that the run sees. -/
  | item (y : ItemFacts) (hseen : ∃ x, s.SeesDeal i x ∧ x.id = y.dealId)
      (hd : s'.dealFacts = s.dealFacts) (hi : s'.itemFacts = s.itemFacts ++ [(y, some i)])
  | commits (hd : AfterCommit i s.dealFacts s'.dealFacts)
      (hi : AfterCommit i s.itemFacts s'.itemFacts)
  | rollsBack (hd : AfterRollback i s.dealFacts s'.dealFacts)
      (hi : AfterRollback i s.itemFacts s'.itemFacts)

/-- What a step of another run leaves of a run's rows and of the committed ones. -/
structure Spares (j : ι) (s s' : SessionShared ι) : Prop where
  dealsStay : ∀ x, (x, none) ∈ s.dealFacts → (x, none) ∈ s'.dealFacts
  dealsOwn : ∀ x, (x, some j) ∈ s'.dealFacts ↔ (x, some j) ∈ s.dealFacts
  itemsStay : ∀ y, (y, none) ∈ s.itemFacts → (y, none) ∈ s'.itemFacts
  itemsOwn : ∀ y, (y, some j) ∈ s'.itemFacts ↔ (y, some j) ∈ s.itemFacts

theorem Moved.committed (h : Moved i s s') :
    (∀ x, (x, none) ∈ s.dealFacts → (x, none) ∈ s'.dealFacts) ∧
      ∀ y, (y, none) ∈ s.itemFacts → (y, none) ∈ s'.itemFacts := by
  cases h with
  | stays hd hi => exact ⟨by simp [hd], by simp [hi]⟩
  | deal x hd hi => exact ⟨by simp +contextual [hd], by simp [hi]⟩
  | item y _ hd hi => exact ⟨by simp [hd], by simp +contextual [hi]⟩
  | commits hd hi =>
    exact ⟨fun x hx => (hd x none).mpr (Or.inl ⟨by simp, hx⟩),
      fun y hy => (hi y none).mpr (Or.inl ⟨by simp, hy⟩)⟩
  | rollsBack hd hi =>
    exact ⟨fun x hx => (hd x none).mpr ⟨by simp, hx⟩, fun y hy => (hi y none).mpr ⟨by simp, hy⟩⟩

theorem Moved.spares (h : Moved i s s') (hij : j ≠ i) : Spares j s s' := by
  have hne : some j ≠ some i := fun he => hij (Option.some.inj he)
  obtain ⟨hdeals, hitems⟩ := h.committed
  cases h with
  | stays hd hi => exact ⟨hdeals, by simp [hd], hitems, by simp [hi]⟩
  | deal x hd hi => exact ⟨hdeals, by simp [hd, hij], hitems, by simp [hi]⟩
  | item y _ hd hi => exact ⟨hdeals, by simp [hd], hitems, by simp [hi, hij]⟩
  | commits hd hi =>
    exact ⟨hdeals, fun x => by simp [hd x, hne], hitems, fun y => by simp [hi y, hne]⟩
  | rollsBack hd hi =>
    exact ⟨hdeals, fun x => by simp [hd x, hne], hitems, fun y => by simp [hi y, hne]⟩

theorem Spares.seesDeal (h : Spares j s s') (hx : s.SeesDeal j x) : s'.SeesDeal j x :=
  hx.imp (h.dealsStay x) (h.dealsOwn x).mpr

theorem Spares.seesItem (h : Spares j s s') (hy : s.SeesItem j y) : s'.SeesItem j y :=
  hy.imp (h.itemsStay y) (h.itemsOwn y).mpr

/-! ## What the statements see and do -/

section Statements

variable [DecidableEq ι]

theorem seesDeal_iff : s.SeesDeal i x ↔ ∃ d ∈ (s.deals.visible i).rows, d.facts = x :=
  Heap.exists_visible.symm

theorem seesItem_iff : s.SeesItem i y ↔ ∃ it ∈ (s.items.visible i).rows, it.facts = y :=
  Heap.exists_visible.symm

theorem holdsDeal_iff {tenantId dealId : UUID} : s.holdsDeal i tenantId dealId = true ↔
    ∃ x, s.SeesDeal i x ∧ x.id = dealId ∧ x.tenantId = tenantId := by
  simp only [holdsDeal, List.any_eq_true, Bool.and_eq_true, beq_iff_eq]
  constructor
  · rintro ⟨d, hd, hid, ht⟩
    exact ⟨d.facts, seesDeal_iff.mpr ⟨d, hd, rfl⟩, hid, ht⟩
  · rintro ⟨x, hx, hid, ht⟩
    obtain ⟨d, hd, rfl⟩ := seesDeal_iff.mp hx
    exact ⟨d, hd, hid, ht⟩

theorem dealOfBooking_view_some {tenantId : UUID} {number : String} {d : Deal}
    (h : dealOfBooking (s.view i) tenantId number = some d) :
    s.SeesDeal i d.facts ∧ d.tenantId = tenantId ∧ d.bookingNumber = number := by
  obtain ⟨hd, ht, hn⟩ := dealOfBooking_some h
  exact ⟨seesDeal_iff.mpr ⟨d, hd, rfl⟩, ht, hn⟩

theorem dealOfBooking_view_none {tenantId : UUID} {number : String}
    (h : dealOfBooking (s.view i) tenantId number = none) (hx : s.SeesDeal i x) :
    ¬ (x.tenantId = tenantId ∧ x.bookingNumber = number) := by
  obtain ⟨d, hd, rfl⟩ := seesDeal_iff.mp hx
  simpa [Deal.facts] using List.find?_eq_none.mp h d hd

theorem moved_rollback (s : SessionShared ι) (i : ι) : Moved i s (s.rollback i) :=
  .rollsBack (fun _ _ => Heap.mem_facts_rollback) fun _ _ => Heap.mem_facts_rollback

/-- The commit of rows of which the same is said as before. -/
theorem moved_commit (hd : s'.dealFacts = s.dealFacts) (hi : s'.itemFacts = s.itemFacts) (db : Db) :
    Moved i s (s'.commit i db) := by
  refine .commits (fun x w => ?_) fun y w => ?_
  · rw [← hd]
    exact Heap.mem_facts_commit
  · rw [← hi]
    exact Heap.mem_facts_commit

/-- What a run sees of deals is committed by its commit. -/
theorem SeesDeal.commit (hx : s.SeesDeal i x) (hd : s'.dealFacts = s.dealFacts) (db : Db) :
    (x, none) ∈ (s'.commit i db).dealFacts := by
  unfold SeesDeal at hx
  rw [← hd] at hx
  exact Heap.mem_facts_commit.mpr (hx.imp (fun h => ⟨by simp, h⟩) fun h => ⟨rfl, h⟩)

theorem confirmDeal_facts (s : SessionShared ι) (i : ι) (now : Timestamp)
    (tenantId dealId confirmedBy : UUID) :
    (s.confirmDeal i now tenantId dealId confirmedBy).dealFacts = s.dealFacts :=
  Heap.facts_updateBy fun _ _ => rfl

theorem satisfyConfirmedFiles_facts (s : SessionShared ι) (i : ι) (now : Timestamp) (dealId : UUID)
    (files : List RowMapping) :
    (s.satisfyConfirmedFiles i now dealId files).dealFacts = s.dealFacts ∧
      (s.satisfyConfirmedFiles i now dealId files).itemFacts = s.itemFacts := by
  unfold satisfyConfirmedFiles
  induction files generalizing s with
  | nil => exact ⟨rfl, rfl⟩
  | cons f rest ih =>
    rw [List.foldl_cons]
    split
    · split
      · exact ih s
      · rename_i typeKey documentId _ _ _
        obtain ⟨hd, hi⟩ := ih (s.markSatisfied i now dealId typeKey documentId)
        have hone : (s.markSatisfied i now dealId typeKey documentId).itemFacts = s.itemFacts :=
          Heap.facts_updateBy fun _ _ => rfl
        exact ⟨hd, hi.trans hone⟩
    · exact ih s

end Statements

end SessionShared

/-! ## What a run knows of its deal -/

/-- What a run knows in each phase, and that it has not failed on the deal. -/
def BookingOk (s : SessionShared ι) (i : ι) : SessionPhase → Prop
  | .comparing tx | .inserting tx => ∃ number, selectText tx.number = .ok number
  | .reselecting tx number =>
    ∃ x, s.SeesDeal i x ∧ tx.Books x.tenantId x.bookingNumber ∧ x.bookingNumber = number
  | .listing tx deal _ _ =>
    ∃ x, s.SeesDeal i x ∧ x.id = deal.dealId ∧ tx.Books x.tenantId x.bookingNumber
  | .matched tx found =>
    ∃ x, s.SeesDeal i x ∧ x.id = found.dealId ∧ x.tenantId = tx.session.tenantId ∧
      (found.isExact = true → tx.Books x.tenantId x.bookingNumber)
  | .resolved tx dealId =>
    ∃ x, (x, none) ∈ s.dealFacts ∧ x.id = dealId ∧ tx.Books x.tenantId x.bookingNumber
  | .failed fault => fault ≠ .duplicateKey ∧ fault ≠ .dealMissing
  | _ => True

theorem BookingOk.spared {s s' : SessionShared ι} {j : ι} {l : SessionPhase} (h : BookingOk s j l)
    (hs : s.Spares j s') : BookingOk s' j l := by
  cases l with
  | reselecting tx number =>
    obtain ⟨x, hx, hrest⟩ := h
    exact ⟨x, hs.seesDeal hx, hrest⟩
  | listing tx deal n rest =>
    obtain ⟨x, hx, hrest⟩ := h
    exact ⟨x, hs.seesDeal hx, hrest⟩
  | matched tx found =>
    obtain ⟨x, hx, hrest⟩ := h
    exact ⟨x, hs.seesDeal hx, hrest⟩
  | resolved tx dealId =>
    obtain ⟨x, hx, hrest⟩ := h
    exact ⟨x, hs.dealsStay x hx, hrest⟩
  | _ => exact h

variable [DecidableEq ι] {env : Env} {c c' : SessionTasks ι} {i : ι}

/-- A step of one run, which leaves that run with what it should know. -/
def TakesStep (c : SessionTasks ι) (i : ι) (c' : SessionTasks ι) : Prop :=
  ∃ s l, c' = c.advance i s l ∧ c.shared.Moved i s ∧ BookingOk s i l

theorem TakesStep.stay {l : SessionPhase} (h : BookingOk c.shared i l) :
    TakesStep c i (c.advance i c.shared l) :=
  ⟨_, l, rfl, .stays rfl rfl, h⟩

theorem TakesStep.fail {fault : SessionFault} (hkey : fault ≠ .duplicateKey)
    (hrow : fault ≠ .dealMissing) : TakesStep c i (c.fail i fault) :=
  ⟨_, _, rfl, SessionShared.moved_rollback c.shared i, hkey, hrow⟩

theorem TakesStep.raised (c : SessionTasks ι) (i : ι) (e : Error) :
    TakesStep c i (c.fail i (.raised e)) :=
  .fail (fun h => (by cases h)) fun h => (by cases h)

/-! ### The lookups -/

omit [DecidableEq ι] in
theorem phaseOfSession_ok (s : SessionShared ι) (i : ι) (env : Env) (files : List RowMapping)
    (inp : SessionInput) (session : Option Session) :
    BookingOk s i (phaseOfSession env files inp session) := by
  unfold phaseOfSession
  split
  · trivial
  · split
    · exact ⟨fun h => (by cases h), fun h => (by cases h)⟩
    · split
      · exact ⟨fun h => (by cases h), fun h => (by cases h)⟩
      · trivial
      · trivial

theorem searchStep_ok (tx : SessionTx) : TakesStep c i (searchStep c i tx) := by
  unfold searchStep
  split
  · exact .raised c i _
  · rename_i number hnumber
    split
    · rename_i d hd
      obtain ⟨hsees, htenant, hbooking⟩ := SessionShared.dealOfBooking_view_some hd
      refine .stay ⟨d.facts, hsees, rfl, htenant, fun _ => ⟨htenant.symm, ?_⟩⟩
      rw [hnumber]
      exact congrArg _ hbooking.symm
    · exact .stay ⟨number, hnumber⟩

theorem compareStep_ok {tx : SessionTx} (h : BookingOk c.shared i (.comparing tx)) :
    TakesStep c i (compareStep env c i tx) := by
  unfold compareStep
  split
  · exact .raised c i _
  · rename_i found hfound
    obtain ⟨⟨d, hd, hid, htenant⟩, hfuzzy⟩ := fuzzyMatch_some hfound
    refine .stay ⟨d.facts, SessionShared.seesDeal_iff.mpr ⟨d, hd, rfl⟩, hid, htenant, fun he => ?_⟩
    rw [hfuzzy] at he
    contradiction
  · exact .stay h

/-! ### The insert of the deal -/

/-- The text that is compared is the text that is stored. -/
theorem sqlText_of_selectText {j : Json} {number stored : String}
    (h : selectText j = .ok number) (hs : sqlText env j = .ok (some stored)) : stored = number := by
  cases j with
  | str s =>
    have hstored := sqlText_str hs
    rw [selectText_str h]
    exact Option.some.inj hstored
  | _ => cases h

theorem newDeal_books {tx : SessionTx} {number : String} {d : Deal}
    (hnumber : selectText tx.number = .ok number) (h : tx.newDeal env = .ok d) :
    tx.Books d.tenantId d.bookingNumber := by
  obtain ⟨-, htenant, -, hstored, -⟩ := newDeal_ok h
  refine ⟨htenant.symm, ?_⟩
  rw [hnumber, sqlText_of_selectText hnumber hstored]

theorem insertStep_ok (hok : BookingOk c.shared i (c.phase i))
    (h : sessionTaskStep env c (.insert i) = some c') : TakesStep c i c' := by
  obtain ⟨tx, hphase, ⟨e, rfl⟩ | ⟨d, hd, hnew, hins⟩⟩ := SessionTasks.insert_inv h
  · exact .raised c i e
  · rw [hphase] at hok
    obtain ⟨number, hnumber⟩ := hok
    have hbooks := newDeal_books hnumber hd
    rcases hins with ⟨deals, hins, rfl⟩ | ⟨hconflict, hlookup⟩
    · have hfacts := Heap.facts_insertBy (g := Deal.facts) hins
      refine ⟨_, _, rfl, .deal d.facts hfacts rfl, d.facts, Or.inr ?_, rfl, hbooks⟩
      unfold SessionShared.dealFacts
      simp [hfacts]
    · rcases hlookup with ⟨old, hold, rfl⟩ | ⟨hnone, rfl⟩
      · obtain ⟨hsees, htenant, hnumber⟩ := SessionShared.dealOfBooking_view_some hold
        refine .stay ⟨old.facts, hsees, ⟨htenant.symm, ?_⟩, hnumber⟩
        exact hbooks.2.trans (congrArg _ hnumber.symm)
      · -- The row in the way has another id, so it has the booking number.
        obtain ⟨a, ha, hclash⟩ := Heap.clash_of_conflict hconflict
        have hsees : c.shared.SeesDeal i a.facts := SessionShared.seesDeal_iff.mpr ⟨a, ha, rfl⟩
        simp only [clash, Bool.or_eq_true, sameKey, beq_iff_eq, Prod.mk.injEq] at hclash
        rcases hclash with hid | ⟨ht, hn⟩
        · obtain ⟨v, hv, -, rfl⟩ := Heap.mem_select.mp ha
          have hunused := List.any_eq_false.mp hnew v hv
          simp [hid] at hunused
        · exact absurd ⟨ht.trans hbooks.1.symm, hn⟩
            (SessionShared.dealOfBooking_view_none hnone hsees)

theorem reselectStep_ok {tx : SessionTx} {number : String}
    (hok : BookingOk c.shared i (.reselecting tx number)) :
    TakesStep c i (reselectStep c i tx number) := by
  obtain ⟨x, hx, hbooks, hnumber⟩ := hok
  unfold reselectStep
  split
  · rename_i d hd
    obtain ⟨hsees, htenant, hbooking⟩ := SessionShared.dealOfBooking_view_some hd
    refine .stay ⟨d.facts, hsees, rfl, htenant.symm, ?_⟩
    rw [hbooks.2, hnumber]
    exact congrArg _ hbooking.symm
  · rename_i hnone
    exact absurd ⟨hbooks.1.symm, hnumber⟩ (SessionShared.dealOfBooking_view_none hnone hx)

/-! ### The inserts of the items -/

theorem listStep_ok (hok : BookingOk c.shared i (c.phase i))
    (h : sessionTaskStep env c (.list i) = some c') : TakesStep c i c' := by
  obtain ⟨tx, deal, n, req, rest, hphase, hnew, hins⟩ := SessionTasks.list_inv h
  rw [hphase] at hok
  obtain ⟨x, hx, hid, hbooks⟩ := hok
  rcases hins with ⟨items, hins, ⟨hheld, rfl⟩ | ⟨hgone, -⟩⟩ | ⟨hconflict, ⟨-, rfl⟩ | ⟨hnone, -⟩⟩
  · exact ⟨_, _, rfl, .item (tx.newItem deal n req).facts ⟨x, hx, hid⟩ rfl
      (Heap.facts_insertBy hins), x, hx, hid, hbooks⟩
  · have hheld : c.shared.holdsDeal i tx.session.tenantId deal.dealId = true :=
      SessionShared.holdsDeal_iff.mpr ⟨x, hx, hid, hbooks.1.symm⟩
    rw [hgone] at hheld
    contradiction
  · exact .stay ⟨x, hx, hid, hbooks⟩
  · -- The row in the way has another id, so it is an item of the type.
    obtain ⟨a, ha, hclash⟩ := Heap.clash_of_conflict hconflict
    simp only [clash, Bool.or_eq_true, sameKey, beq_iff_eq, Prod.mk.injEq] at hclash
    rcases hclash with hsame | hitem
    · obtain ⟨v, hv, -, rfl⟩ := Heap.mem_select.mp ha
      have hunused := List.any_eq_false.mp hnew v hv
      simp [hsame, SessionTx.newItem] at hunused
    · exact absurd hitem (hnone a ha)

/-! ### The last step -/

theorem faultOf_ok {e : Error} (h : e ≠ .integrityError) :
    faultOf e ≠ .duplicateKey ∧ faultOf e ≠ .dealMissing := by
  cases e with
  | integrityError => exact absurd rfl h
  | _ => exact ⟨fun h => (by cases h), fun h => (by cases h)⟩

/-- Once the statements have raised no `IntegrityError`, the run knows what the phase after its
commit says. -/
theorem closeStep_ok {s : SessionShared ι} {result : Except Error Db} {next : SessionPhase}
    (hd : s.dealFacts = c.shared.dealFacts) (hi : s.itemFacts = c.shared.itemFacts)
    (hraised : ∀ e, result = .error e → e ≠ .integrityError)
    (hnext : ∀ db, BookingOk (s.commit i db) i next) :
    TakesStep c i (closeStep c i s result next) := by
  unfold closeStep
  split
  · rename_i e
    obtain ⟨hkey, hrow⟩ := faultOf_ok (hraised e rfl)
    exact .fail hkey hrow
  · rename_i db
    exact ⟨_, _, rfl, SessionShared.moved_commit hd hi db, hnext db⟩

theorem contactLocale_error {db : Db} {contactId : UUID} {e : Error}
    (h : contactLocale db contactId = .error e) : e ≠ .integrityError := by
  unfold contactLocale at h
  split at h
  · cases h
  · cases h
    exact fun he => (by cases he)

theorem ne_integrityError_of_format {e : Error} (h : e = .keyError ∨ e = .valueError) :
    e ≠ .integrityError := by
  rcases h with rfl | rfl
  · exact fun he => (by cases he)
  · exact fun he => (by cases he)

theorem enqueueReply_ne_integrityError {db : Db} {newId : Nat} {now : Timestamp}
    {tenantId contactId : UUID} {sessionId : Option UUID} {kind : OutboxKind}
    {payload : List (String × Json)} {dedupKey : Option String} {sendAfter : Option Timestamp}
    {e : Error} (hnew : ∀ o ∈ db.outbox.rows, o.id ≠ newId)
    (h : enqueueReply db newId now tenantId contactId sessionId kind payload dedupKey sendAfter =
      .error e) : e ≠ .integrityError := by
  rcases enqueueReply_error hnew h with rfl | rfl
  · exact fun he => (by cases he)
  · exact fun he => (by cases he)

theorem linkDeal_error {db : Db} {inp : SessionInput} {s : Session} {files : List RowMapping}
    {deal : DealCreated} {e : Error} (hnew : ∀ o ∈ db.outbox.rows, o.id ≠ inp.outboxId)
    (h : linkDeal env db inp s files deal = .error e) : e ≠ .integrityError := by
  rcases bind_eq_error.mp h with h | ⟨locale, -, h⟩
  · exact contactLocale_error h
  · rcases bind_eq_error.mp h with h | ⟨payload, -, h⟩
    · exact ne_integrityError_of_format (format_error (error_of_bind_pure h))
    · obtain ⟨items, hsatisfied⟩ := satisfyConfirmedFiles_frame
        (transitionToConfirming db inp.now s.id deal.dealId) inp.now deal.dealId files
      refine enqueueReply_ne_integrityError ?_ (error_of_bind_pure h)
      rw [hsatisfied]
      exact hnew

theorem exactBranch_error {db : Db} {inp : SessionInput} {s : Session} {files : List RowMapping}
    {found : DealMatch} {e : Error} (hnew : ∀ o ∈ db.outbox.rows, o.id ≠ inp.outboxId)
    (h : exactBranch env db inp s files found = .error e) : e ≠ .integrityError := by
  obtain ⟨items, hsatisfied⟩ := satisfyConfirmedFiles_frame
    (confirmDeal db inp.now s.tenantId found.dealId s.contactId) inp.now found.dealId files
  rcases bind_eq_error.mp h with h | ⟨locale, -, h⟩
  · exact contactLocale_error h
  · rcases bind_eq_error.mp h with h | ⟨checklist, -, h⟩
    · unfold buildChecklist at h
      split at h
      · cases h
        exact fun he => (by cases he)
      · cases h
    · rcases bind_eq_error.mp h with h | ⟨⟨header, body⟩, -, h⟩
      · apply ne_integrityError_of_format
        unfold formatGapMessage at h
        simp only at h
        split at h
        · exact format_error (error_of_bind_pure h)
        · exact format_error (error_of_bind_pure h)
      · refine enqueueReply_ne_integrityError ?_ (error_of_bind_pure h)
        rw [hsatisfied]
        exact hnew

theorem finishCreated_ok {tx : SessionTx} {deal : DealCreated} {x : DealFacts}
    (hnew : ∀ o ∈ c.shared.rest.outbox.rows, o.id ≠ tx.inp.outboxId) (hx : c.shared.SeesDeal i x)
    (hid : x.id = deal.dealId) (hbooks : tx.Books x.tenantId x.bookingNumber) :
    TakesStep c i (finishCreated env c i tx deal) := by
  obtain ⟨hd, hi⟩ := SessionShared.satisfyConfirmedFiles_facts c.shared i tx.inp.now deal.dealId
    tx.files
  have hunused : ∀ o ∈ (c.shared.view i).outbox.rows, o.id ≠ tx.inp.outboxId := hnew
  exact closeStep_ok hd hi (fun e he => linkDeal_error hunused he) fun db =>
    ⟨x, hx.commit hd db, hid, hbooks⟩

theorem finishMatched_ok {tx : SessionTx} {found : DealMatch} {x : DealFacts}
    (hnew : ∀ o ∈ c.shared.rest.outbox.rows, o.id ≠ tx.inp.outboxId) (hx : c.shared.SeesDeal i x)
    (hid : x.id = found.dealId)
    (hbooks : found.isExact = true → tx.Books x.tenantId x.bookingNumber) :
    TakesStep c i (finishMatched env c i tx found) := by
  unfold finishMatched
  split
  · rename_i hexact
    obtain ⟨hd, hi⟩ := SessionShared.satisfyConfirmedFiles_facts
      (c.shared.confirmDeal i tx.inp.now tx.session.tenantId found.dealId tx.session.contactId) i
      tx.inp.now found.dealId tx.files
    have hdeals := hd.trans (SessionShared.confirmDeal_facts c.shared i tx.inp.now
      tx.session.tenantId found.dealId tx.session.contactId)
    have hunused : ∀ o ∈ (c.shared.view i).outbox.rows, o.id ≠ tx.inp.outboxId := hnew
    exact closeStep_ok hdeals hi (fun e he => exactBranch_error hunused he) fun db =>
      ⟨x, hx.commit hdeals db, hid, hbooks hexact⟩
  · exact closeStep_ok rfl rfl (fun e he => (by cases he)) fun _ => trivial

theorem finish_ok (hok : BookingOk c.shared i (c.phase i))
    (h : sessionTaskStep env c (.finish i) = some c') : TakesStep c i c' := by
  -- The deal of the run is there, so the guard of the last step holds.
  have hheld : ∀ {tx : SessionTx} {x : DealFacts} {dealId : UUID}, c.shared.SeesDeal i x →
      x.id = dealId → x.tenantId = tx.session.tenantId →
        c.shared.holdsDeal i tx.session.tenantId dealId = true :=
    fun hx hid ht => SessionShared.holdsDeal_iff.mpr ⟨_, hx, hid, ht⟩
  rcases SessionTasks.finish_inv h with
    ⟨s, note, -, rfl⟩ | ⟨tx, deal, n, hphase, hfinish⟩ | ⟨tx, found, hphase, hfinish⟩
  · exact closeStep_ok rfl rfl (fun e he => (by cases he)) fun _ => trivial
  · rw [hphase] at hok
    obtain ⟨x, hx, hid, hbooks⟩ := hok
    obtain ⟨hnew, ⟨-, rfl⟩ | ⟨hgone, -⟩⟩ := SessionTasks.finishStep_inv hfinish
    · exact finishCreated_ok hnew hx hid hbooks
    · rw [hheld hx hid hbooks.1.symm] at hgone
      contradiction
  · rw [hphase] at hok
    obtain ⟨x, hx, hid, htenant, hbooks⟩ := hok
    obtain ⟨hnew, ⟨-, rfl⟩ | ⟨hgone, -⟩⟩ := SessionTasks.finishStep_inv hfinish
    · exact finishMatched_ok hnew hx hid hbooks
    · rw [hheld hx hid htenant] at hgone
      contradiction

/-! ## Runs -/

/-- Every run knows what its phase says, and none has failed on its deal. -/
def BookingsOk (c : SessionTasks ι) : Prop := ∀ i, BookingOk c.shared i (c.phase i)

theorem TakesStep.bookingsOk (hall : BookingsOk c) (h : TakesStep c i c') : BookingsOk c' := by
  obtain ⟨s, l, rfl, hmoved, hnew⟩ := h
  exact Processes.forall_phase_advance (BookingOk s) hnew fun j hj =>
    (hall j).spared (hmoved.spares hj)

/-- A statement of a run takes a step of that run alone, or another task changes other tables. -/
theorem sessionTaskStep_takes {a : SessionStatement ι} (hall : BookingsOk c)
    (h : sessionTaskStep env c a = some c') :
    (∃ i, a.task = some i ∧ TakesStep c i c') ∨
      ∃ db, a = .elsewhere db ∧ c' = ⟨{ c.shared with rest := db }, c.phase⟩ := by
  cases a with
  | load i sessionId files inp =>
    obtain ⟨-, rfl⟩ := SessionTasks.load_inv h
    exact Or.inl ⟨i, rfl, .stay (phaseOfSession_ok _ i env files inp _)⟩
  | search i =>
    obtain ⟨tx, -, rfl⟩ := SessionTasks.search_inv h
    exact Or.inl ⟨i, rfl, searchStep_ok tx⟩
  | compare i =>
    obtain ⟨tx, hphase, rfl⟩ := SessionTasks.compare_inv h
    exact Or.inl ⟨i, rfl, compareStep_ok (hphase ▸ hall i)⟩
  | insert i => exact Or.inl ⟨i, rfl, insertStep_ok (hall i) h⟩
  | reselect i =>
    obtain ⟨tx, number, hphase, rfl⟩ := SessionTasks.reselect_inv h
    exact Or.inl ⟨i, rfl, reselectStep_ok (hphase ▸ hall i)⟩
  | list i => exact Or.inl ⟨i, rfl, listStep_ok (hall i) h⟩
  | finish i => exact Or.inl ⟨i, rfl, finish_ok (hall i) h⟩
  | cancel i =>
    obtain ⟨-, rfl⟩ := SessionTasks.cancel_inv h
    exact Or.inl ⟨i, rfl, .fail (fun h => (by cases h)) fun h => (by cases h)⟩
  | elsewhere db => exact Or.inr ⟨db, rfl, SessionTasks.elsewhere_inv h⟩

theorem bookingsOk_step {a : SessionStatement ι} (hall : BookingsOk c)
    (h : sessionTaskStep env c a = some c') : BookingsOk c' := by
  rcases sessionTaskStep_takes hall h with ⟨i, -, htakes⟩ | ⟨db, -, rfl⟩
  · exact htakes.bookingsOk hall
  · exact fun j => (hall j).spared
      ⟨fun _ hx => hx, fun _ => Iff.rfl, fun _ hy => hy, fun _ => Iff.rfl⟩

theorem bookingsOk_run {db : Db} {as : List (SessionStatement ι)}
    (hrun : run (sessionTaskStep env) (sessionTasksStart ι db) as = some c) : BookingsOk c :=
  run_preserves BookingsOk (fun _ _ _ => bookingsOk_step) hrun fun _ => trivial

/-- The deal is one for the booking number of the tenant. -/
def Deal.isFor (tenantId : UUID) (number : String) (d : Deal) : Bool :=
  d.tenantId == tenantId && d.bookingNumber == number

theorem clash_of_isFor {tenantId : UUID} {number : String} {d d' : Deal}
    (h : d.isFor tenantId number = true) (h' : d'.isFor tenantId number = true) :
    clash d d' = true := by
  simp only [Deal.isFor, Bool.and_eq_true, beq_iff_eq] at h h'
  simp [clash, sameKey, h, h']

omit [DecidableEq ι] in
/-- The unique index over the rows of all transactions. -/
theorem rows_isFor_le_one (h : Heap ι Deal) (tenantId : UUID) (number : String) :
    (h.rows.filter fun v => v.row.isFor tenantId number).length ≤ 1 :=
  Table.filter_length_le_one h fun _ _ ha hb => clash_of_isFor ha hb

omit [DecidableEq ι] in
/-- What is committed for a booking is one row. -/
theorem committed_isFor {s : SessionShared ι} {x : DealFacts} (hx : (x, none) ∈ s.dealFacts) :
    ∃ d, s.committed.deals.rows.filter (Deal.isFor x.tenantId x.bookingNumber) = [d] ∧
      d.facts = x := by
  obtain ⟨d, hd, rfl⟩ := Heap.exists_committed.mpr hx
  have hfor : Deal.isFor d.facts.tenantId d.facts.bookingNumber d = true := by
    simp [Deal.isFor, Deal.facts]
  exact ⟨d, Table.filter_eq_singleton (fun _ _ => clash_of_isFor) hd hfor, rfl⟩

/-- In every run of overlapping transactions a booking number has at most one deal, committed or
not; once a run has committed the create branch or the exact branch of the booking, it has one
that is committed, and all such runs have it; and no run fails on a unique index or for want of
its deal. -/
theorem one_deal_per_booking (env : Env) {db : Db} {as : List (SessionStatement ι)}
    {c : SessionTasks ι} (tenantId : UUID) (number : String)
    (hrun : run (sessionTaskStep env) (sessionTasksStart ι db) as = some c) :
    (c.shared.deals.rows.filter fun v => v.row.isFor tenantId number).length ≤ 1 ∧
      (∀ i tx dealId, c.phase i = .resolved tx dealId → tx.Books tenantId number →
        ∃ d, c.shared.committed.deals.rows.filter (Deal.isFor tenantId number) = [d] ∧
          ∀ j tx' dealId', c.phase j = .resolved tx' dealId' → tx'.Books tenantId number →
            dealId' = d.id) ∧
      ∀ i fault, c.phase i = .failed fault → fault ≠ .duplicateKey ∧ fault ≠ .dealMissing := by
  have hall := bookingsOk_run hrun
  -- What a run that has resolved the booking says of the committed deal.
  have hresolved : ∀ i tx dealId, c.phase i = .resolved tx dealId → tx.Books tenantId number →
      ∃ x, (x, none) ∈ c.shared.dealFacts ∧ x.id = dealId ∧ x.tenantId = tenantId ∧
        x.bookingNumber = number := by
    intro i tx dealId hphase hbooks
    have hok := hall i
    rw [hphase] at hok
    obtain ⟨x, hx, hid, htenant, hnumber⟩ := hok
    refine ⟨x, hx, hid, htenant.symm.trans hbooks.1, ?_⟩
    rw [hbooks.2] at hnumber
    exact (Except.ok.inj hnumber).symm
  refine ⟨rows_isFor_le_one _ _ _, ?_, ?_⟩
  · intro i tx dealId hphase hbooks
    obtain ⟨x, hx, hid, rfl, rfl⟩ := hresolved i tx dealId hphase hbooks
    obtain ⟨d, hrows, rfl⟩ := committed_isFor hx
    refine ⟨d, hrows, fun j tx' dealId' hphase' hbooks' => ?_⟩
    obtain ⟨x', hx', rfl, ht, hn⟩ := hresolved j tx' dealId' hphase' hbooks'
    exact congrArg DealFacts.id (SessionShared.dealFacts_unique hx' hx (Or.inr ⟨ht, hn⟩)).1
  · intro i fault hphase
    have hok := hall i
    rw [hphase] at hok
    exact hok

/-! ## Two sessions with one booking form -/

/-- The claimed sessions of two consultants. -/
def twoSessions : Db :=
  { idleDb with
    contacts := (boundDb.contacts.insert?
      ⟨6, "+919876543211", 7, 2, some 3, .active, .en, none, none, 0⟩).getD .empty
    sessions := (idleDb.sessions.insert? { idleSession with id := 8, contactId := 6 }).getD .empty }

/-- The row of a booking form with a number and flags. -/
def bookingForm (number : String) (flags : List (String × Json)) : RowMapping :=
  [(.state, .text "stored"), (.documentTypeKey, .text "BOOKING_FORM"),
    (.diFacts, .json (.obj (("BOOKING_NUMBER", .str number) :: flags)))]

/-- Generated ids for a run. -/
def racingInput (i : Nat) : SessionInput :=
  ⟨0, BitVec.ofNat 128 (10 + i), fun n => BitVec.ofNat 128 (100 * (i + 1) + n), 12, i + 1⟩

/-- A run up to its insert of the deal. -/
def lookups (i : Nat) (sessionId : UUID) (flags : List (String × Json)) :
    List (SessionStatement Nat) :=
  [.load i sessionId [bookingForm "BK-1" flags] (racingInput i), .search i, .compare i]

/-- The inserts of the items of a type, and the last step. -/
def checklistOf (i : Nat) (dealType : DealType) : List (SessionStatement Nat) :=
  List.replicate (defaultRequirements dealType).length (.list i) ++ [.finish i]

/-- Both runs have found no deal when the first one inserts it; the second one inserts after that
has committed. -/
def overlapping (flags₀ flags₁ : List (String × Json)) (type₀ type₁ : DealType) :
    List (SessionStatement Nat) :=
  lookups 0 7 flags₀ ++ lookups 1 8 flags₁ ++ .insert 0 :: checklistOf 0 type₀ ++
    .insert 1 :: .reselect 1 :: checklistOf 1 type₁

/-- The deal that a run has resolved to. -/
def SessionPhase.resolvedDeal : SessionPhase → Option UUID
  | .resolved _ dealId => some dealId
  | _ => none

/-- The second run resolves to the deal of the first one. -/
theorem one_deal_per_booking_overlapping :
    ∃ c, run (sessionTaskStep (.ofRecording "s" [])) (sessionTasksStart Nat twoSessions)
        (overlapping [] [] .retail .retail) = some c ∧
      ((c.phase 0).resolvedDeal, (c.phase 1).resolvedDeal) = (some 10, some 10) ∧
      (c.shared.deals.rows.filter fun v => v.row.isFor 2 "BK-1").length ≤ 1 := by
  have hruns : ((run (sessionTaskStep (.ofRecording "s" [])) (sessionTasksStart Nat twoSessions)
      (overlapping [] [] .retail .retail)).map fun c =>
        ((c.phase 0).resolvedDeal, (c.phase 1).resolvedDeal)) = some (some 10, some 10) := by
    decide +kernel
  obtain ⟨c, hc, hdeals⟩ := Option.map_eq_some_iff.mp hruns
  exact ⟨c, hc, hdeals, (one_deal_per_booking _ 2 "BK-1" hc).1⟩

end WaService
