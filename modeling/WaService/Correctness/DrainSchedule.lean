import WaService.Correctness.BlankDeals
import WaService.Correctness.FlushSchedule

/-!
# When a message is taken from the outbox

A drain takes twenty messages at most, earliest due time first, and passes over those that
other drains hold. A message that it takes may stay where it is when the drain breaks off,
but has one attempt less. The attempts that are left ahead of a due message are the
work that drains do before it, and nothing adds to them.
-/

namespace WaService

open Python Relational Transition

variable {env : Env} {a : Action} {db db' : Db} {outboxId : Nat} {t : Timestamp}

/-! ## Attempts ahead of a message -/

/-- Another pending message that is not due later. -/
def Outbox.overtakes (outboxId : Nat) (t : Timestamp) (o : Outbox) : Bool :=
  o.state == .pending && o.id != outboxId && decide (o.sendAfter ≤ t)

/-- The attempts that it has left. -/
def Outbox.attemptsLeft (outboxId : Nat) (t : Timestamp) (o : Outbox) : Nat :=
  if o.overtakes outboxId t then maxOutboxAttempts - o.attempts else 0

/-- The attempts that all of them have left. -/
def attemptsAhead (db : Db) (outboxId : Nat) (t : Timestamp) : Nat :=
  db.outbox.weight (Outbox.attemptsLeft outboxId t)

theorem attemptsLeft_of_not_pending {o : Outbox} (h : o.state ≠ .pending) :
    o.attemptsLeft outboxId t = 0 := by
  simp [Outbox.attemptsLeft, Outbox.overtakes, h]

theorem attemptsLeft_of_later {o : Outbox} (h : t < o.sendAfter) :
    o.attemptsLeft outboxId t = 0 := by
  have hlater : ¬ o.sendAfter ≤ t := Int.not_le.mpr h
  simp [Outbox.attemptsLeft, Outbox.overtakes, hlater]

theorem attemptsLeft_raiseAttempts (o : Outbox) : (raiseAttempts o).attemptsLeft outboxId t =
    if o.overtakes outboxId t then maxOutboxAttempts - (o.attempts + 1) else 0 := rfl

/-- A message that is queued is due now. -/
theorem OutboxNew.attemptsLeft {o : Outbox} (h : OutboxNew env db a o) (hclock : a.After t) :
    o.attemptsLeft outboxId t = 0 := by
  cases h with
  | @reply inp => exact attemptsLeft_of_later (hclock inp.now rfl)

/-- A drain leaves a message fewer attempts, or has it wait behind. -/
theorem OutboxChange.attemptsLeft_le {o o' : Outbox} (h : OutboxChange db a o o')
    (hclock : a.After t) : o'.attemptsLeft outboxId t ≤ o.attemptsLeft outboxId t := by
  have hended : o'.state ≠ .pending → o'.attemptsLeft outboxId t ≤ o.attemptsLeft outboxId t :=
    fun hstate => (attemptsLeft_of_not_pending hstate).le.trans (Nat.zero_le _)
  cases h with
  | expire => exact hended nofun
  | claim =>
    rw [attemptsLeft_raiseAttempts, Outbox.attemptsLeft]
    split
    · omega
    · exact Nat.le_refl 0
  | sent => exact hended nofun
  | fail => exact hended nofun
  | @reschedule calls =>
    have hbackoff : 0 < seconds 30 * 2 ^ o.attempts :=
      Int.mul_pos (by decide) (Int.pow_pos (by decide))
    have hlater : t < calls.now + seconds 30 * 2 ^ o.attempts :=
      (hclock calls.now rfl).trans (Int.lt_add_of_pos_right _ hbackoff)
    exact (attemptsLeft_of_later hlater).le.trans (Nat.zero_le _)

/-- No step adds attempts ahead. -/
theorem Writes.attemptsAhead_le (h : Writes env a db db') (hclock : a.After t) :
    attemptsAhead db' outboxId t ≤ attemptsAhead db outboxId t := by
  refine preserved_of_steps (fun d => attemptsAhead d outboxId t ≤ attemptsAhead db outboxId t)
    ?_ h (Nat.le_refl _)
  intro d d' hd hwrite
  refine Nat.le_trans ?_ hd
  cases hwrite with
  | outbox h =>
    exact h.weight_le (fun _ hnew => hnew.attemptsLeft hclock)
      fun _ _ hchange => hchange.attemptsLeft_le hclock
  | _ => exact Nat.le_refl _

/-! ## A drain -/

/-- A due message is claimed, or twenty messages ahead of it lose an attempt. -/
theorem claim_or_attempts {o : Outbox} {now : Timestamp} {locked : List Nat}
    (ho : o ∈ db.outbox.rows) (hclaimable : claimable now locked o = true) :
    claimed db now locked 20 o = true ∨
      attemptsAhead (db.updateOutbox (claimed db now locked 20) raiseAttempts fun _ => rfl) o.id
        o.sendAfter + 20 ≤ attemptsAhead db o.id o.sendAfter := by
  have hready : o ∈ db.outbox.rows.filter (claimable now locked) :=
    List.mem_filter.mpr ⟨ho, hclaimable⟩
  have hbatch : claimBatch db now locked 20 = (batch Outbox.sendAfter 20
      (db.outbox.rows.filter (claimable now locked))).map (·.id) := rfl
  by_cases hmem : o.id ∈ claimBatch db now locked 20
  · left
    simp [claimed, hclaimable, hmem]
  · right
    have hnot : o ∉ batch Outbox.sendAfter 20 (db.outbox.rows.filter (claimable now locked)) := by
      intro h
      rw [hbatch] at hmem
      exact hmem (List.mem_map_of_mem h)
    obtain ⟨hlength, hahead⟩ := batch_of_not_mem hready hnot
    have hselected : 20 ≤ (db.outbox.rows.filter (claimed db now locked 20)).length := by
      have hle := length_batch_le_selected Outbox.sendAfter 20 (claimable now locked) Outbox.id
        (Table.nodup_rows db.outbox fun a => by simp [clash, sameKey])
      rw [hlength] at hle
      exact hle
    refine Nat.le_trans (Nat.add_le_add_left hselected _) (Table.weight_patch ?_)
    intro r hr hsel
    obtain ⟨hr', hin⟩ := Bool.and_eq_true_iff.mp hsel
    rw [List.contains_iff_mem] at hin
    have hother : r.id ≠ o.id := fun he => hmem (he ▸ hin)
    rw [hbatch] at hin
    obtain ⟨b, hb, hid⟩ := List.mem_map.mp hin
    have hbr : b = r := by
      have hstored := outboxById_eq_some.mpr ⟨List.mem_of_mem_filter (mem_of_mem_batch hb), hid⟩
      have hfound := outboxById_eq_some.mpr ⟨hr, rfl⟩
      exact Option.some.inj (hstored.symm.trans hfound)
    have hkey := hahead b hb
    subst hbr
    simp only [claimable, Bool.and_eq_true, decide_eq_true_eq] at hr'
    have hleft : b.attempts < maxOutboxAttempts := hr'.1.2
    have hovertakes : b.overtakes o.id o.sendAfter = true := by
      simp [Outbox.overtakes, hother, hkey, hr'.1.1.1]
    rw [attemptsLeft_raiseAttempts, Outbox.attemptsLeft, if_pos hovertakes, if_pos hovertakes]
    omega

/-- The message is taken by the drain, or set aside because its window has passed. -/
def DrainTakes (o : Outbox) (w : World) (calls : DrainCalls) : Prop :=
  windowMissed calls.now o = true ∨
    o.id ∈ (claimPending w.db calls.now calls.locked 20).1.map (·.id)

/-- A drain that does not take a message leaves it as it is. -/
theorem sendOutbox_keeps {o : Outbox} {calls : DrainCalls} (ho : o ∈ db.outbox.rows)
    (hmiss : windowMissed calls.now o = false)
    (hclaim : claimed (expireOutbox db calls.now) calls.now calls.locked 20 o = false)
    (hnot : o.id ∉ (claimPending db calls.now calls.locked 20).1.map (·.id)) :
    o ∈ (sendOutbox env db calls).1.outbox.rows := by
  have hstored := outboxById_claimPending_of_spared (outboxById_eq_some.mpr ⟨ho, rfl⟩) hmiss hclaim
  rw [← sendOutboxBy_client]
  have hkept : outboxById (sendOutboxBy env db calls.now calls.locked fun _ => calls.client).1
      o.id = some o := (outboxById_drainRowsBy hnot).trans hstored
  exact (outboxById_eq_some.mp hkept).1

/-- A step that is not a drain leaves every message as it is. -/
theorem Writes.outbox_kept (h : Writes env a db db') (hdrain : ∀ calls, a ≠ .drain calls)
    {o : Outbox} (ho : o ∈ db.outbox.rows) : o ∈ db'.outbox.rows := by
  refine preserved_of_steps (fun d => o ∈ d.outbox.rows) ?_ h ho
  intro d d' hd hwrite
  cases hwrite with
  | outbox h =>
    obtain ⟨o', ho', rfl | hchange⟩ := h.kept hd
    · exact ho'
    · cases hchange with
      | expire => exact absurd rfl (hdrain _)
      | claim => exact absurd rfl (hdrain _)
      | sent => exact absurd rfl (hdrain _)
      | fail => exact absurd rfl (hdrain _)
      | reschedule => exact absurd rfl (hdrain _)
  | _ => exact hd

/-- A drain takes a message that is due and not locked, or works off twenty attempts ahead. -/
theorem drain_takes_or_works (env : Env) {o : Outbox} {calls : DrainCalls} {w : World}
    (ho : o ∈ w.db.outbox.rows) (hpending : o.state = .pending)
    (hleft : o.attempts < maxOutboxAttempts) (hdue : o.sendAfter < calls.now) :
    DrainTakes o w calls ∨ o ∈ (sendOutbox env w.db calls).1.outbox.rows ∧
      (calls.locked.contains o.id = false →
        attemptsAhead (sendOutbox env w.db calls).1 o.id o.sendAfter + 20 ≤
          attemptsAhead w.db o.id o.sendAfter) := by
  cases hmiss : windowMissed calls.now o with
  | true => exact Or.inl (Or.inl hmiss)
  | false =>
    have hexpire : Writes env (.drain calls) w.db (expireOutbox w.db calls.now) :=
      .updateOutbox _ fun _ _ hsel => .expire hsel
    have hclock : Action.After o.sendAfter (.drain calls) := by
      intro now hnow
      cases hnow
      exact hdue
    have hstored : o ∈ (expireOutbox w.db calls.now).outbox.rows :=
      List.mem_map.mpr ⟨o, ho, patch_of_neg hmiss⟩
    cases hclaim : claimed (expireOutbox w.db calls.now) calls.now calls.locked 20 o with
    | true =>
      refine Or.inl (Or.inr ?_)
      have hmem : raiseAttempts o ∈ (claimPending w.db calls.now calls.locked 20).1 :=
        List.mem_map_of_mem (List.mem_filter.mpr ⟨hstored, hclaim⟩)
      exact List.mem_map.mpr ⟨raiseAttempts o, hmem, rfl⟩
    | false =>
      by_cases htaken : o.id ∈ (claimPending w.db calls.now calls.locked 20).1.map (·.id)
      · exact Or.inl (Or.inr htaken)
      · refine Or.inr ⟨sendOutbox_keeps ho hmiss hclaim htaken, fun hfree => ?_⟩
        have hclaimable : claimable calls.now calls.locked o = true := by
          simp only [claimable, hpending, hfree, beq_self_eq_true, Bool.true_and, Bool.not_false,
            Bool.and_true, Bool.and_eq_true, decide_eq_true_eq]
          exact ⟨Int.le_of_lt hdue, hleft⟩
        have hworked := (claim_or_attempts hstored hclaimable).resolve_left (by simp [hclaim])
        have hbefore : attemptsAhead (expireOutbox w.db calls.now) o.id o.sendAfter ≤
            attemptsAhead w.db o.id o.sendAfter := hexpire.attemptsAhead_le hclock
        have hafter : attemptsAhead (sendOutbox env w.db calls).1 o.id o.sendAfter ≤
            attemptsAhead (claimPending w.db calls.now calls.locked 20).2 o.id o.sendAfter := by
          have hheld : ∀ row ∈ (claimPending w.db calls.now calls.locked 20).1,
              HeldRow (claimPending w.db calls.now calls.locked 20).2 row := by
            intro row hrow
            obtain ⟨hstored, hrowPending, -⟩ := claimPending_stored hrow
            obtain ⟨r, -, rfl, -⟩ := claimPending_source hrow
            exact ⟨hstored, hrowPending, Nat.succ_pos _⟩
          have hdrain : Writes env (.drain calls) (claimPending w.db calls.now calls.locked 20).2
              (sendOutbox env w.db calls).1 :=
            drainRows_writes (claimPending_nodup w.db calls.now calls.locked 20) hheld
          exact hdrain.attemptsAhead_le hclock
        exact (Nat.add_le_add_right hafter 20).trans (hworked.trans hbefore)

/-! ## Runs -/

/-- The step is a drain that no other one keeps from a message. -/
def Action.drainsPast (outboxId : Nat) : Action → Bool
  | .drain calls => !calls.locked.contains outboxId
  | _ => false

/-- A due message with an attempt left is taken, or has its window pass, when there are more than a
twentieth as many drains as there were attempts left ahead of it. -/
theorem due_messages_taken (env : Env) {w w' : World} {as : List Action} {o : Outbox}
    (ho : o ∈ w.db.outbox.rows) (hpending : o.state = .pending)
    (hleft : o.attempts < maxOutboxAttempts) (h : run (worldStep env) w as = some w')
    (hclock : ∀ a ∈ as, a.After o.sendAfter)
    (hdrains : attemptsAhead w.db o.id o.sendAfter < 20 * as.countP (Action.drainsPast o.id)) :
    ∃ e ∈ trace (worldStep env) w as, ∃ calls, e.2 = .drain calls ∧ DrainTakes o e.1 calls := by
  refine exists_served (fun w : World => o ∈ w.db.outbox.rows)
    (fun w a => ∃ calls, a = .drain calls ∧ DrainTakes o w calls)
    (fun w => attemptsAhead w.db o.id o.sendAfter) ?_ h hclock ho hdrains
  intro w a w' hafter ho hstep
  have hnone : attemptsAhead w'.db o.id o.sendAfter ≤ attemptsAhead w.db o.id o.sendAfter :=
    (worldStep_writes hstep).attemptsAhead_le hafter
  by_cases hdrain : ∃ calls, a = .drain calls
  · obtain ⟨calls, rfl⟩ := hdrain
    cases hstep
    obtain htakes | ⟨hkept, hworks⟩ :=
      drain_takes_or_works env ho hpending hleft (hafter calls.now rfl)
    · exact Or.inl ⟨calls, rfl, htakes⟩
    · refine Or.inr ⟨hkept, ?_⟩
      cases hlocked : calls.locked.contains o.id with
      | true =>
        rw [if_neg (by simpa [Action.drainsPast] using hlocked)]
        exact hnone
      | false =>
        rw [if_pos (by simpa [Action.drainsPast] using hlocked)]
        exact hworks hlocked
  · have hother : ∀ calls, a ≠ .drain calls := fun calls he => hdrain ⟨calls, he⟩
    refine Or.inr ⟨(worldStep_writes hstep).outbox_kept hother ho, ?_⟩
    cases a with
    | drain calls => exact absurd rfl (hother calls)
    | webhook | api | execute | flush => exact hnone

/-- The question about the deal of a text message is taken by the first drain. -/
theorem due_messages_taken_text :
    ∃ w o, run (worldStep textEnv) ⟨.empty, []⟩ textAnswered = some w ∧
      w.db.outbox.rows = [o] ∧ o.kind = .interactive ∧
      ∃ e ∈ trace (worldStep textEnv) w [.drain ⟨seconds 1, [], fun _ => .raised⟩],
        ∃ calls, e.2 = .drain calls ∧ DrainTakes o e.1 calls := by
  have hrun : ((run (worldStep textEnv) ⟨.empty, []⟩ textAnswered).map fun w =>
      w.db.outbox.rows.map fun o => (o.kind, o.state, o.attempts, o.sendAfter)) =
      some [(.interactive, .pending, 0, 0)] := by decide +kernel
  obtain ⟨w, hw, hmessages⟩ := Option.map_eq_some_iff.mp hrun
  obtain ⟨o, hrows, ho⟩ := List.map_eq_singleton_iff.mp hmessages
  obtain ⟨hkind, hstate, hattempts, hdue⟩ : o.kind = .interactive ∧ o.state = .pending ∧
      o.attempts = 0 ∧ o.sendAfter = 0 := by
    simpa using ho
  have hmem : o ∈ w.db.outbox.rows := by rw [hrows]; exact List.mem_singleton_self o
  have hclock : ∀ a ∈ [Action.drain ⟨seconds 1, [], fun _ => .raised⟩], a.After o.sendAfter := by
    intro a ha now hnow
    obtain rfl := List.mem_singleton.mp ha
    cases hnow
    rw [hdue]
    decide
  have hahead : attemptsAhead w.db o.id o.sendAfter < 20 := by
    simp [attemptsAhead, Table.weight, hrows, Outbox.attemptsLeft, Outbox.overtakes]
  exact ⟨w, o, hw, hrows, hkind,
    due_messages_taken textEnv hmem hstate (by rw [hattempts]; decide) rfl hclock hahead⟩

end WaService
