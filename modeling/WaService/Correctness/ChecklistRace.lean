import WaService.Correctness.BookingRace

/-!
# The checklist of a deal that several sessions create

A run that finds the deal of another one in its way lists the requirements of the type that it has
inferred itself. The committed deals of the runs have the requirements of their types exactly when
every run that commits the create branch on a deal has inferred the type of that deal, or the plain
type whose requirements are part of every list.
-/

namespace WaService

open Python Relational Transition

/-! ## The lists of requirements -/

theorem defaultRequirements_nodup (dealType : DealType) : (defaultRequirements dealType).Nodup := by
  cases dealType with
  | _ => decide

/-- A document type is required in the same way wherever it is required. -/
theorem requirement_unique {a b : DealType} {typeKey : String} {r r' : Requirement}
    (h : (typeKey, r) ∈ defaultRequirements a) (h' : (typeKey, r') ∈ defaultRequirements b) :
    r = r' := by
  have hall : ∀ a b, ∀ p ∈ defaultRequirements a, ∀ q ∈ defaultRequirements b,
      p.1 = q.1 → p.2 = q.2 := by
    intro a b
    cases a with
    | _ =>
      cases b with
      | _ => decide
  exact hall a b _ h _ h' rfl

/-- The requirements of the plain type are part of every list. -/
theorem retail_requirement (dealType : DealType) {req : String × Requirement}
    (h : req ∈ defaultRequirements .retail) : req ∈ defaultRequirements dealType := by
  have hall : ∀ dealType, ∀ q ∈ defaultRequirements .retail, q ∈ defaultRequirements dealType := by
    intro dealType
    cases dealType with
    | _ => decide
  exact hall dealType req h

/-- Any other type requires a document that a different type does not. -/
theorem foreign_requirement {a b : DealType} (hne : a ≠ b) (hplain : a ≠ .retail) :
    ∃ req ∈ defaultRequirements a, ∀ q ∈ defaultRequirements b, q.1 ≠ req.1 := by
  have hall : ∀ a b, a ≠ b → a ≠ .retail →
      ∃ req ∈ defaultRequirements a, ∀ q ∈ defaultRequirements b, q.1 ≠ req.1 := by
    intro a b
    cases a with
    | _ =>
      cases b with
      | _ => decide
  exact hall a b hne hplain

/-! ## Checklists of the type of their deal -/

/-- The requirements that a deal's checklist holds. -/
def dealRequirements (db : Db) (dealId : UUID) : List (String × Requirement) :=
  (db.checklistItems.rows.filter fun it => it.dealId == dealId).map fun it =>
    (it.typeKey, it.requirement)

/-- Every deal that was not there at the start has exactly the requirements of its type. -/
def TypedChecklists (start db : Db) : Prop :=
  ∀ d ∈ db.deals.rows, (∀ old ∈ start.deals.rows, old.id ≠ d.id) →
    (dealRequirements db d.id).Perm (defaultRequirements d.dealType)

/-- The foreign key of the checklist items. -/
def ItemsOfDeals (db : Db) : Prop :=
  ∀ it ∈ db.checklistItems.rows, ∃ d ∈ db.deals.rows, d.id = it.dealId

theorem dealRequirements_nodup (db : Db) (dealId : UUID) : (dealRequirements db dealId).Nodup := by
  have hpairs := db.checklistItems.unique.filter fun it => it.dealId == dealId
  refine List.pairwise_map.mpr (hpairs.imp_of_mem fun {a b} ha hb hab heq => ?_)
  have hda : a.dealId = dealId := by simpa using (List.mem_filter.mp ha).2
  have hdb : b.dealId = dealId := by simpa using (List.mem_filter.mp hb).2
  have htype : a.typeKey = b.typeKey := congrArg Prod.fst heq
  simp [clash, sameKey, hda, hdb, htype] at hab

theorem mem_dealRequirements {db : Db} {dealId : UUID} {typeKey : String} {r : Requirement} :
    (typeKey, r) ∈ dealRequirements db dealId ↔
      ∃ it ∈ db.checklistItems.rows, it.facts = ⟨dealId, typeKey, r⟩ := by
  simp only [dealRequirements, List.mem_map, List.mem_filter, beq_iff_eq, Prod.mk.injEq,
    ChecklistItem.facts, ItemFacts.mk.injEq, and_assoc]

variable {ι : Type}

/-- The deal was not there at the start. -/
def NewDeal (start : Db) (dealId : UUID) : Prop := ∀ old ∈ start.deals.rows, old.id ≠ dealId

/-- What typed checklists are in terms of what is committed. -/
def TypedFacts (start : Db) (s : SessionShared ι) : Prop :=
  ∀ x, (x, none) ∈ s.dealFacts → NewDeal start x.id → ∀ typeKey r,
    ((⟨x.id, typeKey, r⟩, none) ∈ s.itemFacts ↔ (typeKey, r) ∈ defaultRequirements x.dealType)

theorem typedChecklists_iff (start : Db) (s : SessionShared ι) :
    TypedChecklists start s.committed ↔ TypedFacts start s := by
  have hitem : ∀ dealId typeKey r, (typeKey, r) ∈ dealRequirements s.committed dealId ↔
      (⟨dealId, typeKey, r⟩, none) ∈ s.itemFacts := fun dealId typeKey r =>
    mem_dealRequirements.trans Heap.exists_committed
  constructor
  · intro h x hx hnew typeKey r
    obtain ⟨d, hd, rfl⟩ := Heap.exists_committed.mpr hx
    rw [← hitem]
    exact (h d hd hnew).mem_iff
  · intro h d hd hnew
    refine (List.perm_ext_iff_of_nodup (dealRequirements_nodup _ _)
      (defaultRequirements_nodup _)).mpr fun req => ?_
    rw [hitem d.id req.1 req.2]
    exact h d.facts (Heap.exists_committed.mp ⟨d, hd, rfl⟩) hnew req.1 req.2

/-! ## What a run has written -/

/-- No row is the run's own. -/
def NoRows (s : SessionShared ι) (i : ι) : Prop :=
  (∀ x, (x, some i) ∉ s.dealFacts) ∧ ∀ y, (y, some i) ∉ s.itemFacts

/-- The run's own rows are a deal and items of it, all of the type that it has inferred. -/
def OwnRows (s : SessionShared ι) (i : ι) (dealId : UUID) (dealType : DealType) : Prop :=
  (∀ x, (x, some i) ∈ s.dealFacts → x.id = dealId ∧ x.dealType = dealType) ∧
    ∀ y, (y, some i) ∈ s.itemFacts →
      y.dealId = dealId ∧ (y.typeKey, y.requirement) ∈ defaultRequirements dealType

/-- What a run has written in each phase; while it lists, the requirements that it is past are in
the checklist. -/
def ListingOk (s : SessionShared ι) (i : ι) : SessionPhase → Prop
  | .listing tx deal _ rest =>
    OwnRows s i deal.dealId tx.dealType ∧
      ∃ done, defaultRequirements tx.dealType = done ++ rest ∧
        ∀ req ∈ done, ∃ y, s.SeesItem i y ∧ y.dealId = deal.dealId ∧ y.typeKey = req.1
  | _ => NoRows s i

theorem NoRows.own {s : SessionShared ι} {i : ι} (h : NoRows s i) (dealId : UUID)
    (dealType : DealType) : OwnRows s i dealId dealType :=
  ⟨fun x hx => absurd hx (h.1 x), fun y hy => absurd hy (h.2 y)⟩

theorem ListingOk.spared {s s' : SessionShared ι} {j : ι} {l : SessionPhase} (h : ListingOk s j l)
    (hs : s.Spares j s') : ListingOk s' j l := by
  have hnone : NoRows s j → NoRows s' j := fun hno =>
    ⟨fun x hx => hno.1 x ((hs.dealsOwn x).mp hx), fun y hy => hno.2 y ((hs.itemsOwn y).mp hy)⟩
  cases l with
  | listing tx deal n rest =>
    obtain ⟨hown, done, hdone, hlisted⟩ := h
    refine ⟨⟨fun x hx => hown.1 x ((hs.dealsOwn x).mp hx),
      fun y hy => hown.2 y ((hs.itemsOwn y).mp hy)⟩, done, hdone, fun req hreq => ?_⟩
    obtain ⟨y, hy, hitem⟩ := hlisted req hreq
    exact ⟨y, hs.seesItem hy, hitem⟩
  | _ => exact hnone h

/-- The same is committed as before. -/
def SameCommitted (s s' : SessionShared ι) : Prop :=
  (∀ x, (x, none) ∈ s'.dealFacts ↔ (x, none) ∈ s.dealFacts) ∧
    ∀ y, (y, none) ∈ s'.itemFacts ↔ (y, none) ∈ s.itemFacts

theorem TypedFacts.same {start : Db} {s s' : SessionShared ι} (h : TypedFacts start s)
    (hs : SameCommitted s s') : TypedFacts start s' := by
  intro x hx hnew typeKey r
  rw [hs.2]
  exact h x ((hs.1 x).mp hx) hnew typeKey r

/-- The items of a new deal have writers who see the deal. -/
def Belongs (start : Db) (s : SessionShared ι) : Prop :=
  ∀ y w, (y, w) ∈ s.itemFacts → NewDeal start y.dealId →
    ∃ x, x.id = y.dealId ∧ ((x, none) ∈ s.dealFacts ∨ (x, w) ∈ s.dealFacts)

theorem Belongs.moved {start : Db} {s s' : SessionShared ι} {i : ι} (h : Belongs start s)
    (hm : s.Moved i s') : Belongs start s' := by
  obtain ⟨hdeals, -⟩ := hm.committed
  intro y w hy hnew
  cases hm with
  | stays hd hi =>
    rw [hi] at hy
    rw [hd]
    exact h y w hy hnew
  | deal x hd hi =>
    rw [hi] at hy
    obtain ⟨z, hid, hz⟩ := h y w hy hnew
    rw [hd]
    exact ⟨z, hid, hz.imp (List.mem_append_left _) (List.mem_append_left _)⟩
  | item y' hseen hd hi =>
    rw [hi, List.mem_append] at hy
    rw [hd]
    rcases hy with hold | hown
    · exact h y w hold hnew
    · cases List.mem_singleton.mp hown
      obtain ⟨z, hz, hid⟩ := hseen
      exact ⟨z, hid, hz⟩
  | commits hd hi =>
    rcases (hi y w).mp hy with ⟨hne, hold⟩ | ⟨rfl, hown⟩
    · obtain ⟨z, hid, hz⟩ := h y w hold hnew
      exact ⟨z, hid, hz.imp (hdeals z) fun hz => (hd z w).mpr (Or.inl ⟨hne, hz⟩)⟩
    · obtain ⟨z, hid, hz⟩ := h y _ hown hnew
      refine ⟨z, hid, Or.inl ?_⟩
      rcases hz with hz | hz
      · exact hdeals z hz
      · exact (hd z none).mpr (Or.inr ⟨rfl, hz⟩)
  | rollsBack hd hi =>
    obtain ⟨hne, hold⟩ := (hi y w).mp hy
    obtain ⟨z, hid, hz⟩ := h y w hold hnew
    exact ⟨z, hid, hz.imp (hdeals z) fun hz => (hd z w).mpr ⟨hne, hz⟩⟩

variable [DecidableEq ι] {env : Env} {c c' : SessionTasks ι} {i : ι}

theorem noRows_rollback (s : SessionShared ι) (i : ι) : NoRows (s.rollback i) i :=
  ⟨fun _ hx => (Heap.mem_facts_rollback.mp hx).1 rfl,
    fun _ hy => (Heap.mem_facts_rollback.mp hy).1 rfl⟩

theorem noRows_commit (s : SessionShared ι) (i : ι) (db : Db) : NoRows (s.commit i db) i := by
  constructor
  · intro x hx
    rcases Heap.mem_facts_commit.mp hx with ⟨hne, -⟩ | ⟨hnone, -⟩
    · exact hne rfl
    · cases hnone
  · intro y hy
    rcases Heap.mem_facts_commit.mp hy with ⟨hne, -⟩ | ⟨hnone, -⟩
    · exact hne rfl
    · cases hnone

/-! ## The steps that commit nothing -/

/-- The step leaves the run with the rows that it should have, and commits nothing. -/
def ListsStep (c : SessionTasks ι) (i : ι) (c' : SessionTasks ι) : Prop :=
  ListingOk c'.shared i (c'.phase i) ∧ SameCommitted c.shared c'.shared

theorem ListsStep.advance {s : SessionShared ι} {l : SessionPhase} (h : ListingOk s i l)
    (hs : SameCommitted c.shared s) : ListsStep c i (c.advance i s l) := by
  refine ⟨?_, hs⟩
  rw [Processes.advance_phase_self]
  exact h

theorem ListsStep.stay {l : SessionPhase} (h : ListingOk c.shared i l) :
    ListsStep c i (c.advance i c.shared l) :=
  .advance h ⟨fun _ => Iff.rfl, fun _ => Iff.rfl⟩

theorem ListsStep.fail (c : SessionTasks ι) (i : ι) (fault : SessionFault) :
    ListsStep c i (c.fail i fault) :=
  .advance (noRows_rollback c.shared i)
    ⟨fun _ => Heap.mem_facts_rollback.trans (and_iff_right (by simp)),
      fun _ => Heap.mem_facts_rollback.trans (and_iff_right (by simp))⟩

/-- A run with no rows of its own begins to list. -/
theorem ListsStep.begin (h : NoRows c.shared i) (tx : SessionTx) (deal : DealCreated) :
    ListsStep c i
      (c.advance i c.shared (.listing tx deal 0 (defaultRequirements tx.dealType))) :=
  .stay ⟨h.own _ _, [], rfl, fun _ hreq => absurd hreq List.not_mem_nil⟩

omit [DecidableEq ι] in
theorem phaseOfSession_lists {s : SessionShared ι} (h : NoRows s i) (files : List RowMapping)
    (inp : SessionInput) (session : Option Session) :
    ListingOk s i (phaseOfSession env files inp session) := by
  unfold phaseOfSession
  split
  · exact h
  · split
    · exact h
    · split
      · exact h
      · exact h
      · exact h

theorem searchStep_lists (h : NoRows c.shared i) (tx : SessionTx) :
    ListsStep c i (searchStep c i tx) := by
  unfold searchStep
  split
  · exact .fail c i _
  · split
    · exact .stay h
    · exact .stay h

theorem compareStep_lists (h : NoRows c.shared i) (tx : SessionTx) :
    ListsStep c i (compareStep env c i tx) := by
  unfold compareStep
  split
  · exact .fail c i _
  · exact .stay h
  · exact .stay h

theorem insertStep_lists (hl : ListingOk c.shared i (c.phase i))
    (h : sessionTaskStep env c (.insert i) = some c') : ListsStep c i c' := by
  obtain ⟨tx, hphase, ⟨e, rfl⟩ | ⟨d, hd, -, hins⟩⟩ := SessionTasks.insert_inv h
  · exact .fail c i _
  · rw [hphase] at hl
    have hno : NoRows c.shared i := hl
    rcases hins with ⟨deals, hins, rfl⟩ | ⟨-, ⟨old, -, rfl⟩ | ⟨-, rfl⟩⟩
    · obtain ⟨-, -, -, -, htype, -⟩ := newDeal_ok hd
      have hfacts := Heap.facts_insertBy (g := Deal.facts) hins
      have hown : OwnRows { c.shared with deals := deals } i d.id tx.dealType := by
        refine ⟨fun x hx => ?_, fun y hy => absurd hy (hno.2 y)⟩
        unfold SessionShared.dealFacts at hx
        rw [hfacts, List.mem_append] at hx
        rcases hx with hold | hnew
        · exact absurd hold (hno.1 x)
        · cases List.mem_singleton.mp hnew
          exact ⟨rfl, htype⟩
      refine .advance ⟨hown, [], rfl, fun _ hreq => absurd hreq List.not_mem_nil⟩
        ⟨fun x => ?_, fun _ => Iff.rfl⟩
      unfold SessionShared.dealFacts
      simp [hfacts]
    · exact .stay hno
    · exact .fail c i _

theorem reselectStep_lists (h : NoRows c.shared i) (tx : SessionTx) (number : String) :
    ListsStep c i (reselectStep c i tx number) := by
  unfold reselectStep
  split
  · exact .begin h tx _
  · exact .fail c i _

theorem listStep_lists (hl : ListingOk c.shared i (c.phase i))
    (h : sessionTaskStep env c (.list i) = some c') : ListsStep c i c' := by
  obtain ⟨tx, deal, n, req, rest, hphase, -, hins⟩ := SessionTasks.list_inv h
  rw [hphase] at hl
  obtain ⟨hown, done, hdone, hlisted⟩ := hl
  have hnext : defaultRequirements tx.dealType = (done ++ [req]) ++ rest := by
    rw [hdone, List.append_assoc]
    rfl
  have hreq : req ∈ defaultRequirements tx.dealType := by simp [hdone]
  rcases hins with
    ⟨items, hins, ⟨-, rfl⟩ | ⟨-, rfl⟩⟩ | ⟨-, ⟨⟨it, hit, hdeal, htype⟩, rfl⟩ | ⟨-, rfl⟩⟩
  · have hfacts := Heap.facts_insertBy (g := ChecklistItem.facts) hins
    have hmem : ∀ y w, (y, w) ∈ SessionShared.itemFacts { c.shared with items := items } ↔
        (y, w) ∈ c.shared.itemFacts ∨ (y, w) = ((tx.newItem deal n req).facts, some i) := by
      intro y w
      unfold SessionShared.itemFacts
      simp [hfacts]
    refine .advance ⟨⟨hown.1, fun y hy => ?_⟩, done ++ [req], hnext, fun q hq => ?_⟩
      ⟨fun _ => Iff.rfl, fun y => by simp [hmem]⟩
    · rcases (hmem y _).mp hy with hold | hnew
      · exact hown.2 y hold
      · cases hnew
        exact ⟨rfl, hreq⟩
    · rcases List.mem_append.mp hq with hq | hq
      · obtain ⟨y, hy, hitem⟩ := hlisted q hq
        refine ⟨y, ?_, hitem⟩
        exact hy.imp (fun hy => (hmem y _).mpr (Or.inl hy)) fun hy => (hmem y _).mpr (Or.inl hy)
      · cases List.mem_singleton.mp hq
        exact ⟨_, Or.inr ((hmem _ _).mpr (Or.inr rfl)), rfl, rfl⟩
  · exact .fail c i _
  · refine .stay ⟨hown, done ++ [req], hnext, fun q hq => ?_⟩
    rcases List.mem_append.mp hq with hq | hq
    · exact hlisted q hq
    · cases List.mem_singleton.mp hq
      exact ⟨it.facts, SessionShared.seesItem_iff.mpr ⟨it, hit, rfl⟩, hdeal, htype⟩
  · exact .fail c i _

/-! ## The step that commits the create branch -/

/-- What holds along the runs. -/
structure ChecklistsOk (start : Db) (c : SessionTasks ι) : Prop where
  bookings : BookingsOk c
  listing : ∀ i, ListingOk c.shared i (c.phase i)
  belongs : Belongs start c.shared
  typed : TypedFacts start c.shared

section Commit

variable {start : Db} {s s' : SessionShared ι} {x : DealFacts} {y : ItemFacts}

/-- Committed are the deals that the run saw. -/
theorem mem_commit_deals (hd : s'.dealFacts = s.dealFacts) (db : Db) :
    (x, none) ∈ (s'.commit i db).dealFacts ↔ s.SeesDeal i x := by
  unfold SessionShared.SeesDeal
  rw [← hd]
  exact Heap.mem_facts_commit.trans (by simp [SessionShared.dealFacts])

/-- Committed are the items that the run saw. -/
theorem mem_commit_items (hi : s'.itemFacts = s.itemFacts) (db : Db) :
    (y, none) ∈ (s'.commit i db).itemFacts ↔ s.SeesItem i y := by
  unfold SessionShared.SeesItem
  rw [← hi]
  exact Heap.mem_facts_commit.trans (by simp [SessionShared.itemFacts])

variable {tx : SessionTx} {deal : DealCreated} {n : Nat}

/-- The run has inferred the type of its deal, or the plain type. -/
def InfersType (start : Db) (s : SessionShared ι) (i : ι) (tx : SessionTx) (deal : DealCreated) :
    Prop :=
  ∀ x, s.SeesDeal i x → x.id = deal.dealId → NewDeal start x.id →
    tx.dealType = x.dealType ∨ tx.dealType = .retail

omit [DecidableEq ι] in
/-- At the end of its list the run sees exactly the requirements of its deal's type. -/
theorem seesItem_own_deal (h : ChecklistsOk start c) (hphase : c.phase i = .listing tx deal n [])
    (htype : InfersType start c.shared i tx deal) (hx : c.shared.SeesDeal i x)
    (hid : x.id = deal.dealId) (hnew : NewDeal start x.id) (typeKey : String) (r : Requirement) :
    c.shared.SeesItem i ⟨x.id, typeKey, r⟩ ↔ (typeKey, r) ∈ defaultRequirements x.dealType := by
  have hl := h.listing i
  rw [hphase] at hl
  obtain ⟨hown, done, hdone, hlisted⟩ := hl
  rw [List.append_nil] at hdone
  rcases hx with hcommitted | hmine
  · -- The deal of another run: its list is complete, and the run has added nothing to it.
    have hold := h.typed x hcommitted hnew typeKey r
    constructor
    · rintro (hy | hy)
      · exact hold.mp hy
      · have hreq := (hown.2 _ hy).2
        rcases htype x (Or.inl hcommitted) hid hnew with heq | hplain
        · rwa [heq] at hreq
        · rw [hplain] at hreq
          exact retail_requirement x.dealType hreq
    · exact fun hreq => Or.inl (hold.mpr hreq)
  · -- The run's own deal: no other run sees it, so all its items are the run's own.
    obtain ⟨-, htx⟩ := hown.1 x hmine
    have hnone : ∀ y, y.dealId = x.id → (y, none) ∉ c.shared.itemFacts := by
      intro y hyd hy
      obtain ⟨x', hid', hx'⟩ := h.belongs y none hy (hyd ▸ hnew)
      have hx' : (x', none) ∈ c.shared.dealFacts := hx'.elim id id
      have hwriter := (SessionShared.dealFacts_unique hx' hmine (Or.inl (hid'.trans hyd))).2
      cases hwriter
    rw [htx]
    constructor
    · rintro (hy | hy)
      · exact absurd hy (hnone _ rfl)
      · exact (hown.2 _ hy).2
    · intro hreq
      obtain ⟨y, hy, hyd, hyt⟩ := hlisted (typeKey, r) (hdone ▸ hreq)
      rcases hy with hy | hy
      · exact absurd hy (hnone y (hyd.trans hid.symm))
      · obtain ⟨dealId, typeKey', r'⟩ := y
        cases hyt
        have hkind := requirement_unique (hown.2 _ hy).2 hreq
        rw [hid, ← hkind, ← hyd]
        exact Or.inr hy

theorem typed_commit (h : ChecklistsOk start c) (hphase : c.phase i = .listing tx deal n [])
    (hd : s.dealFacts = c.shared.dealFacts) (hi : s.itemFacts = c.shared.itemFacts) (db : Db)
    (htype : InfersType start c.shared i tx deal) : TypedFacts start (s.commit i db) := by
  intro x hx hnew typeKey r
  rw [mem_commit_deals hd] at hx
  rw [mem_commit_items hi]
  by_cases hid : x.id = deal.dealId
  · exact seesItem_own_deal h hphase htype hx hid hnew typeKey r
  · -- Another deal was committed before, and none of its items is the run's own.
    have hl := h.listing i
    rw [hphase] at hl
    obtain ⟨hown, -⟩ := hl
    rcases hx with hcommitted | hmine
    · rw [← h.typed x hcommitted hnew typeKey r]
      exact or_iff_left fun hy => hid (hown.2 _ hy).1
    · exact absurd (hown.1 x hmine).1 hid

/-- Typed checklists after the commit tell that the run has inferred the type. -/
theorem infersType_of_typed_commit (h : ChecklistsOk start c)
    (hphase : c.phase i = .listing tx deal n []) (hd : s.dealFacts = c.shared.dealFacts)
    (hi : s.itemFacts = c.shared.itemFacts) {db : Db} (htyped : TypedFacts start (s.commit i db)) :
    InfersType start c.shared i tx deal := by
  intro x hx hid hnew
  by_contra hother
  obtain ⟨hne, hplain⟩ := not_or.mp hother
  obtain ⟨req, hreq, hforeign⟩ := foreign_requirement hne hplain
  have hl := h.listing i
  rw [hphase] at hl
  obtain ⟨-, done, hdone, hlisted⟩ := hl
  rw [List.append_nil] at hdone
  obtain ⟨⟨dealId, typeKey, r⟩, hy, hyd, hyt⟩ := hlisted req (hdone ▸ hreq)
  have hx' := (mem_commit_deals hd db).mpr hx
  have hy' := (mem_commit_items hi db).mpr hy
  obtain rfl : dealId = x.id := hyd.trans hid.symm
  exact hforeign _ ((htyped x hx' hnew typeKey r).mp hy') hyt

end Commit

/-! ## The condition -/

/-- The last statements of the create branch raise nothing. -/
def linksDeal (env : Env) (c : SessionTasks ι) (i : ι) (tx : SessionTx) (deal : DealCreated) :
    Bool :=
  (linkDeal env (c.shared.view i) tx.inp tx.session tx.files deal).isOk

/-- The run has inferred the type that its deal's row has, or the plain type; a deal that was there
at the start does not matter. -/
def infersType (start : Db) (s : SessionShared ι) (i : ι) (tx : SessionTx) (deal : DealCreated) :
    Bool :=
  (s.deals.visible i).rows.all fun d => d.id != deal.dealId ||
    start.deals.rows.any (·.id == d.id) || tx.dealType == d.dealType || tx.dealType == .retail

/-- A step that commits the create branch on a deal has inferred its type, or the plain type. -/
def keepsType (env : Env) (start : Db) (c : SessionTasks ι) : SessionStatement ι → Bool
  | .finish i =>
    match c.phase i with
    | .listing tx deal _ [] => !linksDeal env c i tx deal || infersType start c.shared i tx deal
    | _ => true
  | _ => true

theorem infersType_iff {start : Db} {s : SessionShared ι} {tx : SessionTx} {deal : DealCreated} :
    infersType start s i tx deal = true ↔ InfersType start s i tx deal := by
  have hnew : ∀ dealId, start.deals.rows.any (·.id == dealId) = true ↔ ¬ NewDeal start dealId := by
    intro dealId
    simp [NewDeal]
  simp only [infersType, List.all_eq_true, Bool.or_eq_true, bne_iff_ne, beq_iff_eq, hnew]
  constructor
  · intro h x hx hid hnew
    obtain ⟨d, hd, rfl⟩ := SessionShared.seesDeal_iff.mp hx
    rcases h d hd with ((hother | hold) | htype) | hplain
    · exact absurd hid hother
    · exact absurd hnew hold
    · exact Or.inl htype
    · exact Or.inr hplain
  · intro h d hd
    by_cases hid : d.id = deal.dealId
    · by_cases hnew : NewDeal start d.id
      · rcases h d.facts (SessionShared.seesDeal_iff.mpr ⟨d, hd, rfl⟩) hid hnew with htype | hplain
        · exact Or.inl (Or.inr htype)
        · exact Or.inr hplain
      · exact Or.inl (Or.inl (Or.inr hnew))
    · exact Or.inl (Or.inl (Or.inl hid))

/-- The commit of a run with no rows of its own commits nothing. -/
theorem closeStep_lists {s : SessionShared ι} {result : Except Error Db} {next : SessionPhase}
    (hno : NoRows c.shared i) (hd : s.dealFacts = c.shared.dealFacts)
    (hi : s.itemFacts = c.shared.itemFacts) (hnext : ∀ s', NoRows s' i → ListingOk s' i next) :
    ListsStep c i (closeStep c i s result next) := by
  unfold closeStep
  split
  · exact .fail c i _
  · rename_i db
    refine .advance (hnext _ (noRows_commit s i db)) ⟨fun x => ?_, fun y => ?_⟩
    · rw [mem_commit_deals hd]
      exact or_iff_left (hno.1 x)
    · rw [mem_commit_items hi]
      exact or_iff_left (hno.2 y)

theorem finishMatched_lists (hno : NoRows c.shared i) (tx : SessionTx) (found : DealMatch) :
    ListsStep c i (finishMatched env c i tx found) := by
  unfold finishMatched
  split
  · obtain ⟨hd, hi⟩ := SessionShared.satisfyConfirmedFiles_facts
      (c.shared.confirmDeal i tx.inp.now tx.session.tenantId found.dealId tx.session.contactId) i
      tx.inp.now found.dealId tx.files
    exact closeStep_lists hno (hd.trans (SessionShared.confirmDeal_facts ..)) hi fun _ h => h
  · exact closeStep_lists hno rfl rfl fun _ h => h

variable {start : Db}

/-- The end of the create branch leaves typed checklists if and only if the condition holds. -/
theorem finishCreated_typed (h : ChecklistsOk start c) {tx : SessionTx}
    {deal : DealCreated} {n : Nat}
    (hphase : c.phase i = .listing tx deal n []) :
    ListingOk (finishCreated env c i tx deal).shared i ((finishCreated env c i tx deal).phase i) ∧
      (TypedFacts start (finishCreated env c i tx deal).shared ↔
        keepsType env start c (.finish i) = true) := by
  obtain ⟨hd, hi⟩ := SessionShared.satisfyConfirmedFiles_facts c.shared i tx.inp.now deal.dealId
    tx.files
  have hkeeps : keepsType env start c (.finish i) =
      (!linksDeal env c i tx deal || infersType start c.shared i tx deal) := by
    simp only [keepsType, hphase]
  rw [hkeeps]
  unfold finishCreated closeStep linksDeal
  cases linkDeal env (c.shared.view i) tx.inp tx.session tx.files deal with
  | error e =>
    obtain ⟨hlisting, hsame⟩ := ListsStep.fail c i (faultOf e)
    exact ⟨hlisting, fun _ => rfl, fun _ => h.typed.same hsame⟩
  | ok db =>
    have hcommit : ListingOk ((c.shared.satisfyConfirmedFiles i tx.inp.now deal.dealId
        tx.files).commit i db) i (.resolved tx deal.dealId) := noRows_commit _ i db
    refine ⟨?_, ?_⟩
    · rw [Processes.advance_phase_self]
      exact hcommit
    · refine Iff.trans ?_ infersType_iff.symm
      exact ⟨infersType_of_typed_commit h hphase hd hi, typed_commit h hphase hd hi db⟩

/-- A step that commits nothing keeps typed checklists. -/
theorem ListsStep.typed {a : SessionStatement ι} (hs : ListsStep c i c') (h : ChecklistsOk start c)
    (hkeeps : keepsType env start c a = true) :
    ListingOk c'.shared i (c'.phase i) ∧
      (TypedFacts start c'.shared ↔ keepsType env start c a = true) :=
  ⟨hs.1, fun _ => hkeeps, fun _ => h.typed.same hs.2⟩

theorem finish_typed (h : ChecklistsOk start c)
    (hstep : sessionTaskStep env c (.finish i) = some c') :
    ListingOk c'.shared i (c'.phase i) ∧
      (TypedFacts start c'.shared ↔ keepsType env start c (.finish i) = true) := by
  have hlisted : ∀ {l : SessionPhase}, c.phase i = l → ListingOk c.shared i l := fun hphase =>
    hphase ▸ h.listing i
  rcases SessionTasks.finish_inv hstep with
    ⟨s, note, hphase, rfl⟩ | ⟨tx, deal, n, hphase, hfinish⟩ | ⟨tx, found, hphase, hfinish⟩
  · have hkeeps : keepsType env start c (.finish i) = true := by simp only [keepsType, hphase]
    have hlists : ListsStep c i
        (closeStep c i c.shared (.ok (parkSession (c.shared.view i) s.id note)) .over) :=
      closeStep_lists (hlisted hphase) rfl rfl fun _ h => h
    exact hlists.typed h hkeeps
  · obtain ⟨-, ⟨-, rfl⟩ | ⟨hgone, -⟩⟩ := SessionTasks.finishStep_inv hfinish
    · exact finishCreated_typed h hphase
    · have hok := h.bookings i
      rw [hphase] at hok
      obtain ⟨x, hx, hid, hbooks⟩ := hok
      rw [SessionShared.holdsDeal_iff.mpr ⟨x, hx, hid, hbooks.1.symm⟩] at hgone
      contradiction
  · have hkeeps : keepsType env start c (.finish i) = true := by simp only [keepsType, hphase]
    obtain ⟨-, ⟨-, rfl⟩ | ⟨-, rfl⟩⟩ := SessionTasks.finishStep_inv hfinish
    · exact (finishMatched_lists (hlisted hphase) tx found).typed h hkeeps
    · exact (ListsStep.fail c i _).typed h hkeeps

/-! ## Runs -/

/-- The step of a run leaves it with the rows that it should have, and typed checklists exactly when
the condition holds. -/
theorem step_typed {a : SessionStatement ι} (h : ChecklistsOk start c) (ha : a.task = some i)
    (hstep : sessionTaskStep env c a = some c') :
    ListingOk c'.shared i (c'.phase i) ∧
      (TypedFacts start c'.shared ↔ keepsType env start c a = true) := by
  have hlisted : ∀ {l : SessionPhase}, c.phase i = l → ListingOk c.shared i l := fun hphase =>
    hphase ▸ h.listing i
  cases a with
  | load j sessionId files inp =>
    cases ha
    obtain ⟨hphase, rfl⟩ := SessionTasks.load_inv hstep
    exact (ListsStep.stay (phaseOfSession_lists (hlisted hphase) files inp _)).typed h rfl
  | search j =>
    cases ha
    obtain ⟨tx, hphase, rfl⟩ := SessionTasks.search_inv hstep
    exact (searchStep_lists (hlisted hphase) tx).typed h rfl
  | compare j =>
    cases ha
    obtain ⟨tx, hphase, rfl⟩ := SessionTasks.compare_inv hstep
    exact (compareStep_lists (hlisted hphase) tx).typed h rfl
  | insert j =>
    cases ha
    exact (insertStep_lists (h.listing i) hstep).typed h rfl
  | reselect j =>
    cases ha
    obtain ⟨tx, number, hphase, rfl⟩ := SessionTasks.reselect_inv hstep
    exact (reselectStep_lists (hlisted hphase) tx number).typed h rfl
  | list j =>
    cases ha
    exact (listStep_lists (h.listing i) hstep).typed h rfl
  | finish j =>
    cases ha
    exact finish_typed h hstep
  | cancel j =>
    cases ha
    obtain ⟨-, rfl⟩ := SessionTasks.cancel_inv hstep
    exact (ListsStep.fail c i _).typed h rfl
  | elsewhere db => cases ha

/-- A step that leaves typed checklists keeps everything that holds along the runs. -/
theorem ChecklistsOk.step {a : SessionStatement ι} (h : ChecklistsOk start c)
    (hstep : sessionTaskStep env c a = some c') (htyped : TypedFacts start c'.shared) :
    ChecklistsOk start c' := by
  have hbookings := bookingsOk_step h.bookings hstep
  rcases sessionTaskStep_takes h.bookings hstep with ⟨i, ha, htakes⟩ | ⟨db, -, rfl⟩
  · obtain ⟨hlisting, -⟩ := step_typed h ha hstep
    obtain ⟨s, l, rfl, hmoved, -⟩ := htakes
    refine ⟨hbookings, ?_, h.belongs.moved hmoved, htyped⟩
    rw [Processes.advance_phase_self] at hlisting
    exact Processes.forall_phase_advance (ListingOk s) hlisting fun j hj =>
      (h.listing j).spared (hmoved.spares hj)
  · exact ⟨hbookings, h.listing, h.belongs, htyped⟩

theorem step_typed_iff {a : SessionStatement ι} (h : ChecklistsOk start c)
    (hstep : sessionTaskStep env c a = some c') :
    TypedFacts start c'.shared ↔ keepsType env start c a = true := by
  rcases sessionTaskStep_takes h.bookings hstep with ⟨i, ha, -⟩ | ⟨db, rfl, rfl⟩
  · exact (step_typed h ha hstep).2
  · exact ⟨fun _ => rfl, fun _ => h.typed⟩

omit [DecidableEq ι] in
theorem checklistsOk_start {db : Db} (hrefs : ItemsOfDeals db) :
    ChecklistsOk db (sessionTasksStart ι db) := by
  have hwriter : ∀ {ρ β : Type} [UniqueKeys ρ] (t : Table ρ) (g : ρ → β) (b : β) (w : Option ι),
      (b, w) ∈ (Heap.ofTable t : Heap ι ρ).facts g → w = none ∧ ∃ r ∈ t.rows, g r = b := by
    intro ρ β _ t g b w hb
    obtain ⟨v, hv, hg, hw⟩ := Heap.mem_facts.mp hb
    obtain ⟨r, hr, rfl⟩ := List.mem_map.mp hv
    exact ⟨hw.symm, r, hr, hg⟩
  have hdeal : ∀ x w, (x, w) ∈ (sessionTasksStart ι db).shared.dealFacts → w = none ∧
      ∃ d ∈ db.deals.rows, d.facts = x := hwriter db.deals Deal.facts
  have hitem : ∀ y w, (y, w) ∈ (sessionTasksStart ι db).shared.itemFacts → w = none ∧
      ∃ it ∈ db.checklistItems.rows, it.facts = y := hwriter db.checklistItems ChecklistItem.facts
  refine ⟨fun _ => trivial, fun i => ⟨fun x hx => ?_, fun y hy => ?_⟩, ?_, ?_⟩
  · cases (hdeal x _ hx).1
  · cases (hitem y _ hy).1
  · intro y w hy hnew
    obtain ⟨-, it, hit, rfl⟩ := hitem y w hy
    obtain ⟨d, hd, hid⟩ := hrefs it hit
    exact absurd hid (hnew d hd)
  · intro x hx hnew
    obtain ⟨-, d, hd, rfl⟩ := hdeal x _ hx
    exact absurd rfl (hnew d hd)

/-- Every step of a run leaves the deals of the runs with the requirements of their types if and
only if every step that commits the create branch on a deal has inferred its type, or the plain
one. -/
theorem typed_checklists_iff (env : Env) {db : Db} (hrefs : ItemsOfDeals db)
    (as : List (SessionStatement ι)) :
    Meets (sessionTaskStep env)
        (fun c a => ∀ c', sessionTaskStep env c a = some c' →
          TypedChecklists db c'.shared.committed) (sessionTasksStart ι db) as ↔
      Meets (sessionTaskStep env)
        (fun c a => (sessionTaskStep env c a).isSome = true → keepsType env db c a = true)
        (sessionTasksStart ι db) as := by
  constructor
  · intro h
    refine h.imp_of_preserves (ChecklistsOk db) ?_ ?_ (checklistsOk_start hrefs)
    · exact fun c a c' hinv hkeeps hstep =>
        hinv.step hstep ((typedChecklists_iff db c'.shared).mp (hkeeps c' hstep))
    · intro c a hinv hkeeps hsome
      obtain ⟨c', hstep⟩ := Option.isSome_iff_exists.mp hsome
      exact (step_typed_iff hinv hstep).mp ((typedChecklists_iff db c'.shared).mp (hkeeps c' hstep))
  · intro h
    refine h.imp_of_preserves (ChecklistsOk db) ?_ ?_ (checklistsOk_start hrefs)
    · exact fun c a c' hinv hkeeps hstep =>
        hinv.step hstep ((step_typed_iff hinv hstep).mpr (hkeeps (by simp [hstep])))
    · intro c a hinv hkeeps c' hstep
      exact (typedChecklists_iff db c'.shared).mpr
        ((step_typed_iff hinv hstep).mpr (hkeeps (by simp [hstep])))

/-! ## Two sessions that read the booking form differently -/

/-- The deals that a run leaves with their types, and the length of the first session's list. -/
def racedChecklist (flags₀ flags₁ : List (String × Json)) (type₀ type₁ : DealType) :
    Option (List (UUID × DealType) × Nat) :=
  (run (sessionTaskStep (.ofRecording "s" [])) (sessionTasksStart Nat twoSessions)
    (overlapping flags₀ flags₁ type₀ type₁)).map fun c =>
      (c.shared.committed.deals.rows.map fun d => (d.id, d.dealType),
        (dealRequirements c.shared.committed 10).length)

theorem itemsOfDeals_twoSessions : ItemsOfDeals twoSessions :=
  fun _ hit => absurd hit List.not_mem_nil

/-- Two sessions of the same type leave the list of that type. -/
theorem typed_checklists_same_type :
    racedChecklist [("FINANCE_FLAG", .str "yes")] [("FINANCE_FLAG", .str "yes")] .retailFinanced
        .retailFinanced = some ([(10, .retailFinanced)], 11) ∧
      Meets (sessionTaskStep (.ofRecording "s" []))
        (fun c a => ∀ c', sessionTaskStep (.ofRecording "s" []) c a = some c' →
          TypedChecklists twoSessions c'.shared.committed) (sessionTasksStart Nat twoSessions)
        (overlapping [("FINANCE_FLAG", .str "yes")] [("FINANCE_FLAG", .str "yes")] .retailFinanced
          .retailFinanced) :=
  ⟨by decide +kernel, (typed_checklists_iff _ itemsOfDeals_twoSessions _).mpr (by decide +kernel)⟩

/-- A financed deal whose second session takes it for a corporate one has the requirements of both
types. -/
theorem checklist_of_two_types :
    ItemsOfDeals twoSessions ∧
      ∃ c, run (sessionTaskStep (.ofRecording "s" [])) (sessionTasksStart Nat twoSessions)
          (overlapping [("FINANCE_FLAG", .str "yes")] [("CORPORATE_FLAG", .str "yes")]
            .retailFinanced .corporate) = some c ∧
        ¬ TypedChecklists twoSessions c.shared.committed := by
  have hruns : racedChecklist [("FINANCE_FLAG", .str "yes")] [("CORPORATE_FLAG", .str "yes")]
      .retailFinanced .corporate = some ([(10, .retailFinanced)], 13) := by decide +kernel
  obtain ⟨c, hc, hlist⟩ := Option.map_eq_some_iff.mp hruns
  refine ⟨itemsOfDeals_twoSessions, c, hc, fun htyped => ?_⟩
  obtain ⟨hdeals, hlength⟩ := Prod.mk.inj hlist
  obtain ⟨d, hrows, hd⟩ := List.map_eq_singleton_iff.mp hdeals
  obtain ⟨hid, htype⟩ := Prod.mk.inj hd
  have hperm := htyped d (by simp [hrows]) fun old hold => absurd hold List.not_mem_nil
  rw [hid, htype] at hperm
  have hsame := hperm.length_eq
  rw [hlength] at hsame
  exact absurd hsame (by decide)

end WaService
