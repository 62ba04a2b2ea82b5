import Mathlib.Data.Fintype.Basic
import WaService.System.Drains

/-!
# One accepted send per outbox row

A drain holds the rows of its batch until each result is recorded, and for good a row
whose acceptance by Meta could not be recorded. As long as no claim expires or takes a
row that a drain holds, holding is exclusive, held rows are pending, an accepted send
is followed by the state `sent`, and no row comes back to `pending`.
-/

namespace WaService

open Python Relational Transition

variable {ι : Type} [DecidableEq ι] {env : Env} {c c' : Drains ι}

/-! ## Holding rows -/

/-- The rows that a drain has claimed and not yet concluded. -/
def DrainPhase.held : DrainPhase → List Nat
  | .draining rest => rest.map (·.id)
  | .sending row _ rest => row.id :: rest.map (·.id)
  | .marking row _ rest => row.id :: rest.map (·.id)
  | .lost outboxId => [outboxId]
  | .idle | .ended => []

/-- Meta has accepted the send of the row and the row does not say so. -/
def DrainPhase.unrecorded : DrainPhase → Nat → Prop
  | .marking row (.answered (.ok _)) _, id => row.id = id
  | .lost outboxId, id => outboxId = id
  | _, _ => False

theorem DrainPhase.held_of_unrecorded {l : DrainPhase} {id : Nat} (h : l.unrecorded id) :
    id ∈ l.held := by
  unfold DrainPhase.unrecorded at h
  split at h
  · simp [DrainPhase.held, h]
  · simp [DrainPhase.held, h]
  · contradiction

/-- A row of the table that a drain holds. -/
def Held (c : Drains ι) (id : Nat) : Prop :=
  ∃ j, id ∈ (c.phase j).held

instance [Fintype ι] (id : Nat) : Decidable (Held c id) :=
  inferInstanceAs (Decidable (∃ j, id ∈ (c.phase j).held))

/-- No claim expires or takes a row that a drain has claimed and not yet concluded. -/
def NoReclaim (c : Drains ι) : DrainAction ι → Prop
  | .claim _ now locked => ∀ o ∈ c.shared.db.outbox.rows,
      windowMissed now o = true ∨ claimed (expireOutbox c.shared.db now) now locked 20 o = true →
        ¬ Held c o.id
  | _ => True

instance NoReclaim.decidable [Fintype ι] (c : Drains ι) :
    (a : DrainAction ι) → Decidable (NoReclaim c a)
  | .claim _ now locked => inferInstanceAs (Decidable (∀ o ∈ c.shared.db.outbox.rows,
      windowMissed now o = true ∨ claimed (expireOutbox c.shared.db now) now locked 20 o = true →
        ¬ Held c o.id))
  | .lookup _ => inferInstanceAs (Decidable True)
  | .answer _ _ _ => inferInstanceAs (Decidable True)
  | .mark _ _ => inferInstanceAs (Decidable True)
  | .enqueue _ _ _ _ _ _ _ _ _ => inferInstanceAs (Decidable True)
  | .api _ _ _ => inferInstanceAs (Decidable True)

/-- The row exists and is in this state. -/
def RowIn (db : Db) (id : Nat) (state : OutboxState) : Prop :=
  ∃ o, outboxById db id = some o ∧ o.state = state

/-- What holds in every state of a run without reclaims. -/
structure DrainInv (c : Drains ι) : Prop where
  /-- A row has at most one holder. -/
  exclusive : Processes.Exclusive (fun l id => id ∈ DrainPhase.held l) c
  /-- A batch holds a row once. -/
  distinct : ∀ i, (c.phase i).held.Nodup
  /-- A held row is pending. -/
  pending : ∀ i, ∀ id ∈ (c.phase i).held, RowIn c.shared.db id .pending
  /-- An accepted send is on record as sent, or its drain still has to write it. -/
  settled : ∀ p ∈ c.shared.sends,
    RowIn c.shared.db p.2 .sent ∨ (c.phase p.1).unrecorded p.2
  /-- No row has two accepted sends. -/
  once : (c.shared.sends.map Prod.snd).Nodup

/-! ## The statements on the outbox -/

/-- A claim leaves a row alone that it neither expires nor takes. -/
theorem outboxById_claimPending_of_spared {db : Db} {now : Timestamp} {locked : List Nat}
    {limit : Nat} {id : Nat} {o : Outbox} (ho : outboxById db id = some o)
    (hmiss : windowMissed now o = false)
    (hclaim : claimed (expireOutbox db now) now locked limit o = false) :
    outboxById (claimPending db now locked limit).2 id = some o := by
  rw [outboxById_claimPending, ho, Option.map_some, Option.map_some, patch_of_neg hmiss,
    patch_of_neg hclaim]

/-- A claim leaves a row alone that is not pending. -/
theorem outboxById_claimPending_of_final {db : Db} {now : Timestamp} {locked : List Nat}
    {limit : Nat} {id : Nat} {o : Outbox} (ho : outboxById db id = some o)
    (hfinal : o.state ≠ .pending) : outboxById (claimPending db now locked limit).2 id = some o :=
  outboxById_claimPending_of_spared ho (by simp [windowMissed, hfinal])
    (by simp [claimed, claimable, hfinal])

/-- A row that a claim returns was in the table before, taken and not expired. -/
theorem claimPending_source {db : Db} {now : Timestamp} {locked : List Nat} {limit : Nat}
    {row : Outbox} (h : row ∈ (claimPending db now locked limit).1) :
    ∃ o ∈ db.outbox.rows, row = raiseAttempts o ∧ o.state = .pending ∧ windowMissed now o = false ∧
      claimed (expireOutbox db now) now locked limit o = true := by
  obtain ⟨o, ho, rfl⟩ := List.mem_map.mp h
  obtain ⟨hexpired, hclaim⟩ := List.mem_filter.mp ho
  have hpending : o.state = .pending := by
    simp only [claimed, claimable, Bool.and_eq_true, beq_iff_eq] at hclaim
    exact hclaim.1.1.1.1
  -- The expiry leaves no expired row pending, so this row was not expired by it.
  simp only [expireOutbox, Db.updateOutbox] at hexpired
  obtain ⟨o₀, ho₀, he⟩ := Table.mem_update.mp hexpired
  cases hmiss : windowMissed now o₀ with
  | true =>
    rw [patch_of_pos hmiss] at he
    rw [← he] at hpending
    contradiction
  | false =>
    rw [patch_of_neg hmiss] at he
    subst he
    exact ⟨o₀, ho₀, rfl, hpending, hmiss, hclaim⟩

/-- A row that a claim returns is pending after it. -/
theorem claimPending_pending {db : Db} {now : Timestamp} {locked : List Nat}
    {limit id : Nat}
    (h : id ∈ (claimPending db now locked limit).1.map (·.id)) :
    RowIn (claimPending db now locked limit).2 id .pending := by
  obtain ⟨row, hrow, rfl⟩ := List.mem_map.mp h
  obtain ⟨o, ho, rfl, hpending, hmiss, hclaim⟩ := claimPending_source hrow
  refine ⟨raiseAttempts o, ?_, hpending⟩
  have hfind : outboxById db (raiseAttempts o).id = some o := outboxById_eq_some.mpr ⟨ho, rfl⟩
  rw [outboxById_claimPending, hfind, Option.map_some, Option.map_some, patch_of_neg hmiss,
    patch_of_pos hclaim]

/-- A claim returns a row once. -/
theorem claimPending_nodup (db : Db) (now : Timestamp) (locked : List Nat) (limit : Nat) :
    ((claimPending db now locked limit).1.map (·.id)).Nodup := by
  have hids : ((expireOutbox db now).outbox.rows.map (·.id)).Nodup := by
    refine List.pairwise_map.mpr ((expireOutbox db now).outbox.unique.imp fun {a b} h he => ?_)
    simp [clash, sameKey, he] at h
  have hfilter := hids.sublist
    ((List.filter_sublist (p := claimed (expireOutbox db now) now locked limit)).map _)
  have hmap : ∀ l : List Outbox, (l.map raiseAttempts).map (·.id) = l.map (·.id) := by
    intro l
    rw [List.map_map]
    rfl
  simp only [claimPending, Table.returning, hmap]
  exact hfilter

/-- Recording a result updates the row alone, to `sent` when Meta accepted its send; it never sets
the row aside and leaves its attempts. -/
theorem markConclusion_cases {db db' : Db} {now : Timestamp} {id : Nat} {conclusion : Conclusion}
    (h : markConclusion env db now id conclusion = .ok db') :
    ∃ f, ∃ hf : ∀ o, (f o).id = o.id, db' = db.updateOutbox (fun o => o.id == id) f hf ∧
      ((∃ wamid, conclusion = .answered (.ok wamid)) → ∀ o, (f o).state = .sent) ∧
      (∀ o, (f o).state ≠ .skippedWindow) ∧ ∀ o, (f o).attempts = o.attempts := by
  cases conclusion with
  | refused error =>
    cases h
    exact ⟨Outbox.failed (some error), fun _ => rfl, rfl, nofun, fun _ => by simp [Outbox.failed],
      fun _ => rfl⟩
  | answered outcome =>
    cases outcome with
    | raised => contradiction
    | ok wamid =>
      obtain ⟨text, -, hdb⟩ := bind_eq_ok.mp h
      cases hdb
      exact ⟨Outbox.sent now text, fun _ => rfl, rfl, fun _ _ => rfl,
        fun _ => by simp [Outbox.sent], fun _ => rfl⟩
    | failed code message retryable =>
      obtain ⟨text, -, hdb⟩ := bind_eq_ok.mp h
      cases hdb
      cases retryable with
      | true =>
        exact ⟨Outbox.rescheduled now text, fun _ => rfl, rfl, nofun,
          fun _ => by simp [Outbox.rescheduled], fun _ => rfl⟩
      | false =>
        exact ⟨Outbox.failed text, fun _ => rfl, rfl, nofun, fun _ => by simp [Outbox.failed],
          fun _ => rfl⟩

/-! ## Steps -/

/-- A step keeps the invariant when it takes only free rows, leaves the rows that others
hold pending, and accounts for every accepted send. -/
theorem DrainInv.advance (hc : DrainInv c) {i : ι} {s : DrainShared ι} {l : DrainPhase}
    (hnew : ∀ id ∈ l.held, id ∈ (c.phase i).held ∨ ∀ j, id ∉ (c.phase j).held)
    (hdistinct : l.held.Nodup) (hheld : ∀ id ∈ l.held, RowIn s.db id .pending)
    (hkeep : ∀ j, j ≠ i → ∀ id ∈ (c.phase j).held, RowIn s.db id .pending)
    (hlog : ∀ p ∈ s.sends, RowIn s.db p.2 .sent ∨ ((c.advance i s l).phase p.1).unrecorded p.2)
    (honce : (s.sends.map Prod.snd).Nodup) : DrainInv (c.advance i s l) where
  exclusive := hc.exclusive.advance hnew
  distinct := Processes.forall_phase_advance (fun _ l => (DrainPhase.held l).Nodup) hdistinct
    fun j _ => hc.distinct j
  pending := Processes.forall_phase_advance
    (fun _ l => ∀ id ∈ DrainPhase.held l, RowIn s.db id .pending) hheld hkeep
  settled := hlog
  once := honce

/-- The account of an accepted send survives a step of a drain that had nothing
unrecorded, if sent rows survive it. -/
theorem DrainInv.account (hc : DrainInv c) {i : ι} {s : DrainShared ι} {l : DrainPhase}
    (hi : ∀ id, ¬ (c.phase i).unrecorded id) {p : ι × Nat} (hp : p ∈ c.shared.sends)
    (hrow : RowIn c.shared.db p.2 .sent → RowIn s.db p.2 .sent) :
    RowIn s.db p.2 .sent ∨ ((c.advance i s l).phase p.1).unrecorded p.2 := by
  apply (hc.settled p hp).imp hrow
  intro hu
  have hne : p.1 ≠ i := by
    intro he
    rw [he] at hu
    exact hi p.2 hu
  rwa [Processes.advance_phase_of_ne hne]

/-- A step that claims nothing, writes nothing and has nothing to write. -/
theorem DrainInv.shrink (hc : DrainInv c) {i : ι} {l : DrainPhase}
    (hi : ∀ id, ¬ (c.phase i).unrecorded id) (hl : l.held.Sublist (c.phase i).held) :
    DrainInv (c.advance i c.shared l) :=
  hc.advance (fun _ hid => Or.inl (hl.subset hid)) ((hc.distinct i).sublist hl)
    (fun id hid => hc.pending i id (hl.subset hid)) (fun j _ id hid => hc.pending j id hid)
    (fun _ hp => hc.account hi hp id) hc.once

omit [DecidableEq ι] in
/-- A row that a claim neither expires nor takes keeps its state. -/
theorem rowIn_claim_of_notReclaimed {i : ι} {now : Timestamp} {locked : List Nat}
    (hfree : NoReclaim c (.claim i now locked)) {id : Nat} (hid : Held c id)
    {state : OutboxState} (h : RowIn c.shared.db id state) :
    RowIn (claimPending c.shared.db now locked 20).2 id state := by
  obtain ⟨o, ho, hstate⟩ := h
  obtain ⟨hmem, rfl⟩ := outboxById_eq_some.mp ho
  have hspared : ¬ (windowMissed now o = true ∨
      claimed (expireOutbox c.shared.db now) now locked 20 o = true) :=
    fun hor => hfree o hmem hor hid
  simp only [not_or, Bool.not_eq_true] at hspared
  exact ⟨o, outboxById_claimPending_of_spared ho hspared.1 hspared.2, hstate⟩

theorem DrainInv.claim (hc : DrainInv c) {i : ι} (hi : c.phase i = .idle) {now : Timestamp}
    {locked : List Nat} (hfree : NoReclaim c (.claim i now locked)) :
    DrainInv (c.advance i { c.shared with db := (claimPending c.shared.db now locked 20).2 }
      (.draining (claimPending c.shared.db now locked 20).1)) := by
  refine hc.advance ?_ (claimPending_nodup c.shared.db now locked 20)
    (fun id hid => claimPending_pending hid) ?_ ?_ hc.once
  · intro id hid
    obtain ⟨row, hrow, rfl⟩ := List.mem_map.mp hid
    obtain ⟨o, ho, rfl, -, -, hclaim⟩ := claimPending_source hrow
    exact Or.inr fun j hj => hfree o ho (Or.inr hclaim) ⟨j, hj⟩
  · intro j _ id hid
    exact rowIn_claim_of_notReclaimed hfree ⟨j, hid⟩ (hc.pending j id hid)
  · intro p hp
    refine hc.account (by simp [hi, DrainPhase.unrecorded]) hp fun ⟨o, ho, hsent⟩ => ?_
    exact ⟨o, outboxById_claimPending_of_final ho (by simp [hsent]), hsent⟩

theorem DrainInv.lookup (hc : DrainInv c) {i : ι} {row : Outbox} {rest : List Outbox}
    (hi : c.phase i = .draining (row :: rest)) (plan : RowPlan) :
    DrainInv (c.advance i c.shared (phaseOfPlan row rest plan)) := by
  apply hc.shrink (by simp [hi, DrainPhase.unrecorded])
  rw [hi]
  cases plan with
  | skip => exact List.sublist_cons_self _ _
  | refuse error => exact List.Sublist.refl _
  | send call => exact List.Sublist.refl _
  | raise => exact List.nil_sublist _

omit [DecidableEq ι] in
/-- No accepted send is on the log for a row that is about to be sent. -/
theorem DrainInv.notMem_of_sending (hc : DrainInv c) {i : ι} {row : Outbox} {call : SendRequest}
    {rest : List Outbox} (hi : c.phase i = .sending row call rest) :
    row.id ∉ c.shared.sends.map Prod.snd := by
  intro hmem
  obtain ⟨p, hp, he⟩ := List.mem_map.mp hmem
  have hheld : p.2 ∈ (c.phase i).held := by simp [hi, DrainPhase.held, he]
  rcases hc.settled p hp with ⟨o, ho, hsent⟩ | hu
  · obtain ⟨o', ho', hpending⟩ := hc.pending i p.2 hheld
    rw [ho] at ho'
    cases ho'
    rw [hsent] at hpending
    contradiction
  · have hpi := hc.exclusive p.1 i p.2 (DrainPhase.held_of_unrecorded hu) hheld
    rw [hpi, hi] at hu
    exact hu

theorem DrainInv.answer (hc : DrainInv c) {i : ι} {row : Outbox} {call : SendRequest}
    {rest : List Outbox} (hi : c.phase i = .sending row call rest) {outcome : SendOutcome}
    {accepted : Bool} (hallow : outcome.allows accepted = true) :
    DrainInv (c.advance i
      ⟨c.shared.db, if accepted then (i, row.id) :: c.shared.sends else c.shared.sends⟩
      (phaseOfSend row rest outcome accepted)) := by
  have hsub : (phaseOfSend row rest outcome accepted).held.Sublist (c.phase i).held := by
    rw [hi]
    unfold phaseOfSend
    split
    · exact List.singleton_sublist.mpr List.mem_cons_self
    · exact List.nil_sublist _
    · exact List.Sublist.refl _
  have hidle : ∀ id, ¬ (c.phase i).unrecorded id := by simp [hi, DrainPhase.unrecorded]
  refine hc.advance (fun _ hid => Or.inl (hsub.subset hid)) ((hc.distinct i).sublist hsub)
    (fun id hid => hc.pending i id (hsub.subset hid)) (fun j _ id hid => hc.pending j id hid) ?_ ?_
  · intro p hp
    cases accepted with
    | false => exact hc.account hidle hp id
    | true =>
      rcases List.mem_cons.mp hp with rfl | hp
      · apply Or.inr
        rw [Processes.advance_phase_self]
        cases outcome with
        | ok wamid => rfl
        | failed code message retryable => simp [SendOutcome.allows] at hallow
        | raised => rfl
      · exact hc.account hidle hp id
  · cases accepted with
    | false => exact hc.once
    | true =>
      rw [if_pos rfl, List.map_cons, List.nodup_cons]
      exact ⟨hc.notMem_of_sending hi, hc.once⟩

/-- An update of one row leaves the states of the others. -/
theorem rowIn_update_of_ne {db : Db} {f : Outbox → Outbox} (hf : ∀ o, (f o).id = o.id)
    {id id' : Nat} (hne : id' ≠ id) {state : OutboxState} (h : RowIn db id' state) :
    RowIn (db.updateOutbox (fun o => o.id == id) f hf) id' state := by
  obtain ⟨o, ho, hstate⟩ := h
  have hid := (outboxById_eq_some.mp ho).2
  refine ⟨o, ?_, hstate⟩
  rw [outboxById_update, ho, Option.map_some, patch_of_neg (by simp [hid, hne])]

/-- The updated row is in the state that the update sets. -/
theorem rowIn_update_self {db : Db} {f : Outbox → Outbox} (hf : ∀ o, (f o).id = o.id) {id : Nat}
    {o : Outbox} (ho : outboxById db id = some o) {state : OutboxState} (h : (f o).state = state) :
    RowIn (db.updateOutbox (fun o => o.id == id) f hf) id state := by
  have hid := (outboxById_eq_some.mp ho).2
  refine ⟨f o, ?_, h⟩
  rw [outboxById_update, ho, Option.map_some, patch_of_pos (by simp [hid])]

theorem DrainInv.mark (hc : DrainInv c) {i : ι} {row : Outbox} {conclusion : Conclusion}
    {rest : List Outbox} (hi : c.phase i = .marking row conclusion rest) {now : Timestamp} {db : Db}
    (h : markConclusion env c.shared.db now row.id conclusion = .ok db) :
    DrainInv (c.advance i { c.shared with db := db } (.draining rest)) := by
  obtain ⟨f, hf, rfl, hsent, -⟩ := markConclusion_cases h
  have hheld : (c.phase i).held = row.id :: rest.map (·.id) := by rw [hi]; rfl
  have hrow : row.id ∈ (c.phase i).held := by simp [hheld]
  obtain ⟨hnotMem, hnodup⟩ := List.nodup_cons.mp (hheld ▸ hc.distinct i)
  have hrest : ∀ id ∈ rest.map (·.id), id ∈ (c.phase i).held ∧ id ≠ row.id := by
    intro id hid
    exact ⟨by rw [hheld]; exact List.mem_cons_of_mem _ hid, fun he => hnotMem (he ▸ hid)⟩
  refine hc.advance (fun id hid => Or.inl (hrest id hid).1) hnodup ?_ ?_ ?_ hc.once
  · intro id hid
    exact rowIn_update_of_ne hf (hrest id hid).2 (hc.pending i id (hrest id hid).1)
  · intro j hj id hid
    refine rowIn_update_of_ne hf (fun he => hj ?_) (hc.pending j id hid)
    rw [he] at hid
    exact hc.exclusive j i row.id hid hrow
  · intro p hp
    by_cases hpid : p.2 = row.id
    · -- The only accepted send of this row is the one being recorded.
      obtain ⟨o, ho, hpending⟩ := hc.pending i row.id hrow
      have hu : (c.phase p.1).unrecorded p.2 := by
        refine (hc.settled p hp).resolve_left fun ⟨o', ho', hstate⟩ => ?_
        rw [hpid, ho] at ho'
        cases ho'
        rw [hpending] at hstate
        contradiction
      rw [hpid] at hu ⊢
      have hpi := hc.exclusive p.1 i row.id (DrainPhase.held_of_unrecorded hu) hrow
      rw [hpi, hi] at hu
      have hok : ∃ wamid, conclusion = .answered (.ok wamid) := by
        unfold DrainPhase.unrecorded at hu
        split at hu <;> simp_all
      exact Or.inl (rowIn_update_self hf ho (hsent hok o))
    · apply (hc.settled p hp).imp (rowIn_update_of_ne hf hpid)
      intro hu
      have hpi : p.1 ≠ i := by
        intro he
        rw [he, hi] at hu
        unfold DrainPhase.unrecorded at hu
        split at hu <;> simp_all
      rwa [Processes.advance_phase_of_ne hpi]

/-- When the result cannot be recorded, an accepted send stays to be written. -/
theorem DrainInv.markError (hc : DrainInv c) {i : ι} {row : Outbox} {conclusion : Conclusion}
    {rest : List Outbox} (hi : c.phase i = .marking row conclusion rest) :
    DrainInv (c.advance i c.shared (phaseOfMarkError row.id conclusion)) := by
  have hsub : (phaseOfMarkError row.id conclusion).held.Sublist (c.phase i).held := by
    rw [hi]
    unfold phaseOfMarkError
    split
    · exact List.singleton_sublist.mpr List.mem_cons_self
    · exact List.nil_sublist _
  refine hc.advance (fun _ hid => Or.inl (hsub.subset hid)) ((hc.distinct i).sublist hsub)
    (fun id hid => hc.pending i id (hsub.subset hid)) (fun j _ id hid => hc.pending j id hid) ?_
    hc.once
  intro p hp
  apply (hc.settled p hp).imp_right
  intro hu
  by_cases hpi : p.1 = i
  · rw [hpi, Processes.advance_phase_self]
    rw [hpi, hi] at hu
    unfold DrainPhase.unrecorded at hu
    split at hu <;> simp_all [phaseOfMarkError, DrainPhase.unrecorded]
  · rwa [Processes.advance_phase_of_ne hpi]

omit [DecidableEq ι] in
/-- What happens between the steps of the drains keeps the rows that are there. -/
theorem DrainInv.outside (hc : DrainInv c) {db : Db}
    (hdb : ∀ id o, outboxById c.shared.db id = some o → outboxById db id = some o) :
    DrainInv { c with shared := { c.shared with db := db } } where
  exclusive := hc.exclusive
  distinct := hc.distinct
  pending i id hid := by
    obtain ⟨o, ho, hstate⟩ := hc.pending i id hid
    exact ⟨o, hdb id o ho, hstate⟩
  settled p hp := (hc.settled p hp).imp_left fun ⟨o, ho, hstate⟩ => ⟨o, hdb p.2 o ho, hstate⟩
  once := hc.once

/-- Enqueueing a reply keeps the rows that are there. -/
theorem outboxById_enqueueReply {db db' : Db} {newId : Nat} {now : Timestamp}
    {tenantId contactId : UUID} {sessionId : Option UUID} {kind : OutboxKind}
    {payload : List (String × Json)} {dedupKey : Option String} {sendAfter : Option Timestamp}
    {newOrOld : Nat} (h : enqueueReply db newId now tenantId contactId sessionId kind payload
      dedupKey sendAfter = .ok (newOrOld, db')) {id : Nat} {o : Outbox}
    (ho : outboxById db id = some o) : outboxById db' id = some o := by
  rcases enqueueReply_rows h with rfl | ⟨new, outbox, hins, rfl, -⟩
  · exact ho
  · obtain ⟨hmem, hid⟩ := outboxById_eq_some.mp ho
    exact outboxById_eq_some.mpr ⟨(Table.mem_of_insert? hins).mpr (Or.inl hmem), hid⟩

/-- The API keeps the outbox. -/
theorem outboxById_handle (env : Env) (db : Db) (inp : ApiInput) (tenantId : UUID) (op : Operation)
    (id : Nat) : outboxById (handle env db inp tenantId op).db id = outboxById db id := by
  rw [handle_tables]
  rfl

/-- Every step without a reclaim keeps the invariant. -/
theorem drainStep_inv {a : DrainAction ι} (hc : DrainInv c) (hfree : NoReclaim c a)
    (h : drainStep env c a = some c') : DrainInv c' := by
  cases drainStep_moves h with
  | claim i now locked hi => exact hc.claim hi hfree
  | close i hi => exact hc.shrink (by simp [hi, DrainPhase.unrecorded]) (List.nil_sublist _)
  | lookup i row rest hi => exact hc.lookup hi _
  | answer i outcome accepted hi hallow => exact hc.answer hi hallow
  | mark i now hi hmark => exact hc.mark hi hmark
  | markError i now hi hmark => exact hc.markError hi
  | enqueue henq => exact hc.outside fun id o ho => outboxById_enqueueReply henq ho
  | api inp tenantId op =>
    exact hc.outside fun id o ho => (outboxById_handle env _ inp tenantId op id).trans ho

/-- A row that is not pending keeps its state in a step, because held rows are pending. -/
theorem drainStep_final {a : DrainAction ι} (hc : DrainInv c) (h : drainStep env c a = some c')
    {id : Nat} {state : OutboxState} (hfinal : state ≠ .pending)
    (hrow : RowIn c.shared.db id state) : RowIn c'.shared.db id state := by
  cases drainStep_moves h with
  | claim i now locked hi =>
    obtain ⟨o, ho, hstate⟩ := hrow
    exact ⟨o, outboxById_claimPending_of_final ho (hstate ▸ hfinal), hstate⟩
  | close i hi => exact hrow
  | lookup i row rest hi => exact hrow
  | answer i outcome accepted hi hallow => exact hrow
  | @mark i now row conclusion rest db hi hmark =>
    obtain ⟨f, hf, rfl, -⟩ := markConclusion_cases hmark
    refine rowIn_update_of_ne hf ?_ hrow
    rintro rfl
    obtain ⟨o, ho, hpending⟩ := hc.pending i row.id (by simp [hi, DrainPhase.held])
    obtain ⟨o', ho', hstate⟩ := hrow
    rw [ho] at ho'
    cases ho'
    exact hfinal (hstate.symm.trans hpending)
  | markError i now hi hmark => exact hrow
  | enqueue henq =>
    obtain ⟨o, ho, hstate⟩ := hrow
    exact ⟨o, outboxById_enqueueReply henq ho, hstate⟩
  | api inp tenantId op =>
    obtain ⟨o, ho, hstate⟩ := hrow
    exact ⟨o, (outboxById_handle env _ inp tenantId op id).trans ho, hstate⟩

/-! ## Runs -/

omit [DecidableEq ι] in
/-- Nothing is held or sent when the drains start. -/
theorem drainStart_inv (db : Db) : DrainInv (drainStart db : Drains ι) where
  exclusive _ _ _ h := absurd h List.not_mem_nil
  distinct _ := List.nodup_nil
  pending _ _ h := absurd h List.not_mem_nil
  settled _ h := absurd h List.not_mem_nil
  once := List.nodup_nil

/-- What the queue promises, between two states of a run: a row is successfully sent at
most once, and a row that is sent, failed or skipped never comes back to pending. -/
structure DeliversOnce (c c' : Drains ι) : Prop where
  once : (c'.shared.sends.map Prod.snd).Nodup
  final : ∀ id state, state ≠ .pending → RowIn c.shared.db id state → RowIn c'.shared.db id state

/-- In every run whose claims never expire or take a row that another drain holds, each
row is successfully sent at most once and final states are final. -/
theorem delivers_once_without_reclaim (env : Env) {db : Db} {before after : List (DrainAction ι)}
    (h : run (drainStep env) (drainStart db) before = some c)
    (h' : run (drainStep env) c after = some c')
    (hfree : Meets (drainStep env) NoReclaim (drainStart db : Drains ι) (before ++ after)) :
    DeliversOnce c c' := by
  have hstep : ∀ (s : Drains ι) a s', DrainInv s → NoReclaim s a → drainStep env s a = some s' →
      DrainInv s' :=
    fun _ _ _ hs hf ha => drainStep_inv hs hf ha
  have hc := run_preserves_of_meets DrainInv hstep h hfree.append_left (drainStart_inv db)
  have hafter := hfree.append_right h
  have hc' := run_preserves_of_meets DrainInv hstep h' hafter hc
  refine ⟨hc'.once, fun id state hfinal hrow => ?_⟩
  have hkeep : DrainInv c' ∧ RowIn c'.shared.db id state :=
    run_preserves_of_meets (fun s => DrainInv s ∧ RowIn s.shared.db id state)
      (fun s a s' hs hf ha => ⟨hstep s a s' hs.1 hf ha, drainStep_final hs.1 ha hfinal hs.2⟩)
      h' hafter ⟨hc, hrow⟩
  exact hkeep.2

/-! ## Runs of two drains -/

/-- A pending text message for contact 5 of tenant 2. -/
def queuedRow : Outbox where
  id := 1
  tenantId := 2
  contactId := 5
  sessionId := none
  kind := .text
  payload := .obj [("body", .str "hi")]
  state := .pending
  attempts := 0
  sendAfter := 0
  sentAt := none
  wamid := none
  lastError := none

/-- One queued message, with its contact and an active route. -/
def queuedDb : Db :=
  { Db.empty with
    routes := .singleton ⟨1, 2, "PN1", "+91 99999 00000", true, none, 0⟩
    contacts := .singleton ⟨5, "+919876543210", 6, 2, some 3, .active, .en, none, none, 0⟩
    outbox := .singleton queuedRow }

/-- An accepted send. -/
def metaAccepts : SendOutcome := .ok (.str "wamid.1")

/-- A send that Meta rejects for now. -/
def metaBusy : SendOutcome := .failed "NETWORK_ERROR" (.str "timed out") true

/-- One drain after the other keeps the promise: the first send fails, the second is
accepted, and a third drain finds nothing to send. -/
theorem delivers_once_without_reclaim_retry :
    ∃ c c' : Drains (Fin 3),
      c'.shared.sends = [(1, 1)] ∧ DeliversOnce c c' := by
  have hrun : ((run (drainStep (.ofRecording "s" [])) (drainStart queuedDb : Drains (Fin 3))
      [.claim 0 0 [], .lookup 0, .answer 0 metaBusy false, .mark 0 1, .claim 1 (seconds 120) [],
        .lookup 1, .answer 1 metaAccepts true, .mark 1 (seconds 121)]).bind fun c =>
      (run (drainStep (.ofRecording "s" [])) c [.claim 2 (seconds 180) [], .lookup 2]).map
        fun c' : Drains (Fin 3) => c'.shared.sends) =
      some [(1, 1)] := by decide
  obtain ⟨c, hc, hrest⟩ := Option.bind_eq_some_iff.mp hrun
  obtain ⟨c', hc', hlog⟩ := Option.map_eq_some_iff.mp hrest
  exact ⟨c, c', hlog, delivers_once_without_reclaim (.ofRecording "s" []) hc hc' (by decide)⟩

/-- A second drain claims the row while the first is still sending it: both sends are
accepted. When the second one fails instead, the sent row comes back to pending. -/
theorem overlapping_drains_send_twice :
    (∃ c : Drains (Fin 2),
      run (drainStep (.ofRecording "s" [])) (drainStart queuedDb : Drains (Fin 2))
        [.claim 0 0 [], .lookup 0, .claim 1 (seconds 60) [], .lookup 1,
          .answer 0 metaAccepts true, .answer 1 metaAccepts true] = some c ∧
        c.shared.sends.map Prod.snd = [1, 1]) ∧
      ∃ c c' : Drains (Fin 2),
        run (drainStep (.ofRecording "s" [])) (drainStart queuedDb)
          [.claim 0 0 [], .lookup 0, .claim 1 (seconds 60) [], .lookup 1,
            .answer 0 metaAccepts true, .mark 0 (seconds 61)] = some c ∧
        (outboxById c.shared.db 1).map (·.state) = some .sent ∧
        run (drainStep (.ofRecording "s" [])) c
          [.answer 1 metaBusy false, .mark 1 (seconds 75)] = some c' ∧
        (outboxById c'.shared.db 1).map (·.state) = some .pending := by
  constructor
  · exact Option.map_eq_some_iff.mp (by decide :
      (run (drainStep (.ofRecording "s" [])) (drainStart queuedDb : Drains (Fin 2))
        [.claim 0 0 [], .lookup 0, .claim 1 (seconds 60) [], .lookup 1,
          .answer 0 metaAccepts true, .answer 1 metaAccepts true]).map
        (fun c : Drains (Fin 2) =>
          c.shared.sends.map Prod.snd) = some [1, 1])
  · have hrun : ((run (drainStep (.ofRecording "s" [])) (drainStart queuedDb : Drains (Fin 2))
        [.claim 0 0 [], .lookup 0, .claim 1 (seconds 60) [], .lookup 1,
          .answer 0 metaAccepts true, .mark 0 (seconds 61)]).bind fun c =>
        (run (drainStep (.ofRecording "s" [])) c
          [.answer 1 metaBusy false, .mark 1 (seconds 75)]).map
          fun c' : Drains (Fin 2) =>
            ((outboxById c.shared.db 1).map (·.state),
              (outboxById c'.shared.db 1).map (·.state))) =
        some (some .sent, some .pending) := by decide
    obtain ⟨c, hc, hrest⟩ := Option.bind_eq_some_iff.mp hrun
    obtain ⟨c', hc', hstates⟩ := Option.map_eq_some_iff.mp hrest
    exact ⟨c, c', hc, congrArg Prod.fst hstates, hc', congrArg Prod.snd hstates⟩

end WaService
