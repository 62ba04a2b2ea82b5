import WaService.Correctness.DrainOnce
import WaService.System.AttemptLog

/-!
# At most three attempts

The counter of a row is raised at the claim, so the attempts that claims return are
distinct, and the limit of the claim bounds their numbers. A drain holds the attempts
it has not handed over, no two drains hold the same one, and each is handed over once:
three hand-overs of a row at most. The state after the third failure is another matter,
because `mark_failed` does not look at the counter.
-/

namespace WaService

open Python Relational Transition

variable {ι : Type} [DecidableEq ι] {env : Env} {c c' : Drains ι}

/-! ## Counters -/

/-- The counters of the rows only grow. -/
def CountersGrow (db db' : Db) : Prop :=
  ∀ id o, outboxById db id = some o →
    ∃ o', outboxById db' id = some o' ∧ o.attempts ≤ o'.attempts

theorem CountersGrow.of_kept {db db' : Db}
    (h : ∀ id o, outboxById db id = some o → outboxById db' id = some o) : CountersGrow db db' :=
  fun id o ho => ⟨o, h id o ho, Nat.le_refl o.attempts⟩

theorem CountersGrow.refl (db : Db) : CountersGrow db db := .of_kept fun _ _ ho => ho

/-- A claim raises some counters and expires some rows. -/
theorem claimPending_counters (db : Db) (now : Timestamp) (locked : List Nat) (limit : Nat) :
    CountersGrow db (claimPending db now locked limit).2 := by
  intro id o ho
  rw [outboxById_claimPending, ho]
  refine ⟨_, rfl, ?_⟩
  have hskip : ∀ o, windowMissed now o = true → (skipWindow o).attempts = o.attempts :=
    fun _ _ => rfl
  have hexpired : (patch (windowMissed now) skipWindow o).attempts = o.attempts :=
    patch_proj hskip o
  rcases patch_eq_or (claimed (expireOutbox db now) now locked limit) raiseAttempts
    (patch (windowMissed now) skipWindow o) with h | h
  · rw [h, ← hexpired]
    exact Nat.le_succ _
  · rw [h, hexpired]

/-- A recorded result leaves the counters. -/
theorem markConclusion_counters {db db' : Db} {now : Timestamp} {id : Nat} {conclusion : Conclusion}
    (h : markConclusion env db now id conclusion = .ok db') : CountersGrow db db' := by
  obtain ⟨f, hf, rfl, -, -, hattempts⟩ := markConclusion_cases h
  intro id' o ho
  rw [outboxById_update, ho]
  refine ⟨_, rfl, ?_⟩
  rw [patch_proj (g := Outbox.attempts) (fun o _ => hattempts o)]

/-- The attempt was counted: its number is one to three, and the row's counter has reached it. -/
def Counted (db : Db) (k : Nat × Nat) : Prop :=
  1 ≤ k.2 ∧ k.2 ≤ maxOutboxAttempts ∧ ∃ o, outboxById db k.1 = some o ∧ k.2 ≤ o.attempts

theorem Counted.mono {db db' : Db} {k : Nat × Nat} (h : Counted db k)
    (hgrow : CountersGrow db db') :
    Counted db' k := by
  obtain ⟨hpos, hmax, o, ho, hle⟩ := h
  obtain ⟨o', ho', hle'⟩ := hgrow k.1 o ho
  exact ⟨hpos, hmax, o', ho', hle.trans hle'⟩

/-- The attempts that a claim returns are counted, and were not before. -/
theorem claimPending_attempt {db : Db} {now : Timestamp} {locked : List Nat} {limit : Nat}
    {row : Outbox} (h : row ∈ (claimPending db now locked limit).1) :
    Counted (claimPending db now locked limit).2 row.attempt ∧ ¬ Counted db row.attempt := by
  obtain ⟨o, ho, rfl, -, hmiss, hclaim⟩ := claimPending_source h
  have hfind : outboxById db o.id = some o := outboxById_eq_some.mpr ⟨ho, rfl⟩
  constructor
  · have hlimit : o.attempts < maxOutboxAttempts := by
      simp only [claimed, claimable, Bool.and_eq_true, decide_eq_true_eq] at hclaim
      exact hclaim.1.1.2
    refine ⟨Nat.succ_le_succ (Nat.zero_le _), hlimit, raiseAttempts o, ?_, Nat.le_refl _⟩
    have hid : (raiseAttempts o).attempt.1 = o.id := rfl
    rw [hid, outboxById_claimPending, hfind, Option.map_some, Option.map_some, patch_of_neg hmiss,
      patch_of_pos hclaim]
  · rintro ⟨-, -, o', ho', hle⟩
    have hsame : outboxById db o.id = some o' := ho'
    rw [hfind] at hsame
    cases hsame
    exact absurd hle (Nat.not_succ_le_self o.attempts)

/-! ## Holding attempts -/

/-- The rows that a drain has claimed and not yet concluded. -/
def DrainPhase.rows : DrainPhase → List Outbox
  | .draining rest => rest
  | .sending row _ rest | .marking row _ rest => row :: rest
  | .idle | .lost _ | .ended => []

/-- The attempts that a drain has claimed and not yet handed over. -/
def DrainPhase.waiting : DrainPhase → List (Nat × Nat)
  | .draining rest | .sending _ _ rest | .marking _ _ rest => rest.map Outbox.attempt
  | .idle | .lost _ | .ended => []

/-- What holds of the drains and their log in every state of a run. -/
structure AttemptInv (s : LoggedDrains ι) : Prop where
  /-- An attempt has at most one holder. -/
  exclusive : Processes.Exclusive (fun l k => k ∈ DrainPhase.waiting l) s.drains
  /-- A batch holds an attempt once. -/
  distinct : ∀ i, (s.drains.phase i).waiting.Nodup
  /-- The rows of a batch are counted. -/
  counted : ∀ i, ∀ row ∈ (s.drains.phase i).rows, Counted s.drains.shared.db row.attempt
  /-- An attempt that waits has not been handed over. -/
  fresh : ∀ i, ∀ k ∈ (s.drains.phase i).waiting, k ∉ s.handed
  /-- The attempts that were handed over are counted. -/
  handed : ∀ k ∈ s.handed, Counted s.drains.shared.db k
  /-- No attempt was handed over twice. -/
  once : s.handed.Nodup

variable {s s' : LoggedDrains ι}

omit [DecidableEq ι] in
/-- An attempt that waits is counted. -/
theorem AttemptInv.counted_waiting (hs : AttemptInv s) {i : ι} {k : Nat × Nat}
    (hk : k ∈ (s.drains.phase i).waiting) : Counted s.drains.shared.db k := by
  have hrow : ∃ row ∈ (s.drains.phase i).rows, row.attempt = k := by
    cases hphase : s.drains.phase i <;> rw [hphase] at hk
    case draining rest => exact List.mem_map.mp hk
    case sending row call rest =>
      obtain ⟨r, hr, he⟩ := List.mem_map.mp hk
      exact ⟨r, List.mem_cons_of_mem row hr, he⟩
    case marking row conclusion rest =>
      obtain ⟨r, hr, he⟩ := List.mem_map.mp hk
      exact ⟨r, List.mem_cons_of_mem row hr, he⟩
    case idle => exact absurd hk List.not_mem_nil
    case lost => exact absurd hk List.not_mem_nil
    case ended => exact absurd hk List.not_mem_nil
  obtain ⟨row, hmem, rfl⟩ := hrow
  exact hs.counted i row hmem

/-- A step of one drain that hands nothing over: what it holds was its own or is new. -/
theorem AttemptInv.advance (hs : AttemptInv s) {i : ι} {t : DrainShared ι} {l : DrainPhase}
    {exhausted : List Nat} (hgrow : CountersGrow s.drains.shared.db t.db)
    (hnew : ∀ k ∈ l.waiting,
      k ∈ (s.drains.phase i).waiting ∨ ¬ Counted s.drains.shared.db k)
    (hdistinct : l.waiting.Nodup) (hcounted : ∀ row ∈ l.rows, Counted t.db row.attempt) :
    AttemptInv ⟨s.drains.advance i t l, s.handed, exhausted⟩ where
  exclusive := hs.exclusive.advance fun k hk =>
    (hnew k hk).imp_right fun hnot j hj => hnot (hs.counted_waiting hj)
  distinct := Processes.forall_phase_advance (fun _ l => (DrainPhase.waiting l).Nodup) hdistinct
    fun j _ => hs.distinct j
  counted := Processes.forall_phase_advance
    (fun _ l => ∀ row ∈ DrainPhase.rows l, Counted t.db row.attempt) hcounted
    fun j _ row hrow => (hs.counted j row hrow).mono hgrow
  fresh := by
    refine Processes.forall_phase_advance (fun _ l => ∀ k ∈ DrainPhase.waiting l, k ∉ s.handed) ?_
      fun j _ => hs.fresh j
    intro k hk hhanded
    rcases hnew k hk with hold | hnot
    · exact hs.fresh i k hold hhanded
    · exact hnot (hs.handed k hhanded)
  handed k hk := (hs.handed k hk).mono hgrow
  once := hs.once

/-- A step of one drain that neither claims nor hands over. -/
theorem AttemptInv.shrink (hs : AttemptInv s) {i : ι} {t : DrainShared ι} {l : DrainPhase}
    {exhausted : List Nat} (hgrow : CountersGrow s.drains.shared.db t.db)
    (hwaiting : l.waiting.Sublist (s.drains.phase i).waiting)
    (hrows : ∀ row ∈ l.rows, row ∈ (s.drains.phase i).rows) :
    AttemptInv ⟨s.drains.advance i t l, s.handed, exhausted⟩ :=
  hs.advance hgrow (fun _ hk => Or.inl (hwaiting.subset hk)) ((hs.distinct i).sublist hwaiting)
    fun row hrow => (hs.counted i row (hrows row hrow)).mono hgrow

/-- A claim takes attempts that nobody has counted. -/
theorem AttemptInv.claim (hs : AttemptInv s) {i : ι} {now : Timestamp} {locked : List Nat} :
    AttemptInv ⟨s.drains.advance i
      { s.drains.shared with db := (claimPending s.drains.shared.db now locked 20).2 }
      (.draining (claimPending s.drains.shared.db now locked 20).1), s.handed, s.exhausted⟩ := by
  refine hs.advance (claimPending_counters _ now locked 20) ?_ ?_ ?_
  · intro k hk
    obtain ⟨row, hrow, rfl⟩ := List.mem_map.mp hk
    exact Or.inr (claimPending_attempt hrow).2
  · have hids := claimPending_nodup s.drains.shared.db now locked 20
    have hfst : ((claimPending s.drains.shared.db now locked 20).1.map (·.id)) =
        ((claimPending s.drains.shared.db now locked 20).1.map Outbox.attempt).map Prod.fst := by
      rw [List.map_map]
      rfl
    rw [hfst] at hids
    exact hids.of_map
  · exact fun row hrow => (claimPending_attempt hrow).1

/-- The next row of a batch is handed over. -/
theorem AttemptInv.hand (hs : AttemptInv s) {i : ι} {row : Outbox} {rest : List Outbox}
    (hi : s.drains.phase i = .draining (row :: rest)) {call : SendRequest} :
    AttemptInv ⟨s.drains.advance i s.drains.shared (.sending row call rest),
      row.attempt :: s.handed, s.exhausted⟩ := by
  have hheld : (s.drains.phase i).waiting = row.attempt :: rest.map Outbox.attempt := by
    rw [hi]
    rfl
  have hrow : row.attempt ∈ (s.drains.phase i).waiting := by simp [hheld]
  obtain ⟨hnotMem, hnodup⟩ := List.nodup_cons.mp (hheld ▸ hs.distinct i)
  have hsub : (DrainPhase.sending row call rest).waiting.Sublist (s.drains.phase i).waiting := by
    rw [hheld]
    exact List.sublist_cons_self _ _
  have hkept : AttemptInv ⟨s.drains.advance i s.drains.shared (.sending row call rest), s.handed,
      s.exhausted⟩ :=
    hs.shrink (.refl _) hsub fun r hr => by rwa [hi]
  refine ⟨hkept.exclusive, hkept.distinct, hkept.counted, ?_, ?_, ?_⟩
  · -- What still waits, here or elsewhere, is another attempt.
    have hother : ∀ j, row.attempt ∉
        ((s.drains.advance i s.drains.shared (.sending row call rest)).phase j).waiting := by
      refine Processes.forall_phase_advance
        (fun _ l => row.attempt ∉ DrainPhase.waiting l) hnotMem ?_
      exact fun j hj hmem => hj (hs.exclusive j i row.attempt hmem hrow)
    intro j k hk hmem
    rcases List.mem_cons.mp hmem with rfl | hmem
    · exact hother j hk
    · exact hkept.fresh j k hk hmem
  · intro k hk
    rcases List.mem_cons.mp hk with rfl | hk
    · exact hs.counted_waiting hrow
    · exact hs.handed k hk
  · exact List.nodup_cons.mpr ⟨hs.fresh i row.attempt hrow, hs.once⟩

omit [DecidableEq ι] in
/-- What happens between the steps of the drains keeps the counters. -/
theorem AttemptInv.outside (hs : AttemptInv s) {db : Db}
    (hgrow : CountersGrow s.drains.shared.db db) :
    AttemptInv ⟨{ s.drains with shared := { s.drains.shared with db := db } }, s.handed,
      s.exhausted⟩ where
  exclusive := hs.exclusive
  distinct := hs.distinct
  counted i row hrow := (hs.counted i row hrow).mono hgrow
  fresh := hs.fresh
  handed k hk := (hs.handed k hk).mono hgrow
  once := hs.once

/-! ## Steps -/

/-- Every step keeps the invariant. -/
theorem logStep_inv {a : DrainAction ι} (hs : AttemptInv s) (h : logStep env s a = some s') :
    AttemptInv s' := by
  obtain ⟨after, hstep, rfl⟩ := Option.map_eq_some_iff.mp h
  cases drainStep_moves hstep with
  | claim i now locked hi => exact hs.claim
  | close i hi =>
    simp only [handedBy, Processes.advance_phase_self, DrainPhase.handing, List.nil_append]
    exact hs.shrink (.refl _) (List.nil_sublist _) fun _ hrow => absurd hrow List.not_mem_nil
  | lookup i row rest hi =>
    simp only [handedBy, Processes.advance_phase_self]
    have hrest : (rest.map Outbox.attempt).Sublist (s.drains.phase i).waiting := by
      rw [hi]
      exact List.sublist_cons_self _ _
    have htail : ∀ r ∈ rest, r ∈ (s.drains.phase i).rows := fun r hr => by
      rw [hi]
      exact List.mem_cons_of_mem row hr
    cases planRow env s.drains.shared.db row with
    | skip => exact hs.shrink (.refl _) hrest htail
    | refuse error =>
      refine hs.shrink (.refl _) hrest fun r hr => ?_
      rwa [hi]
    | send call => exact hs.hand hi
    | raise =>
      exact hs.shrink (.refl _) (List.nil_sublist _) fun _ hrow => absurd hrow List.not_mem_nil
  | answer i outcome accepted hi hallow =>
    refine hs.shrink (.refl _) ?_ ?_
    · rw [hi]
      unfold phaseOfSend
      split
      · exact List.nil_sublist _
      · exact List.nil_sublist _
      · exact List.Sublist.refl _
    · rw [hi]
      unfold phaseOfSend
      split
      · exact fun _ hrow => absurd hrow List.not_mem_nil
      · exact fun _ hrow => absurd hrow List.not_mem_nil
      · exact fun _ hrow => hrow
  | mark i now hi hmark =>
    refine hs.shrink (markConclusion_counters hmark) ?_ ?_
    · rw [hi]
      exact List.Sublist.refl _
    · rw [hi]
      exact fun r hr => List.mem_cons_of_mem _ hr
  | markError i now hi hmark =>
    refine hs.shrink (.refl _) ?_ ?_
    · unfold phaseOfMarkError
      split
      · exact List.nil_sublist _
      · exact List.nil_sublist _
    · unfold phaseOfMarkError
      split
      · exact fun _ hrow => absurd hrow List.not_mem_nil
      · exact fun _ hrow => absurd hrow List.not_mem_nil
  | enqueue henq => exact hs.outside (.of_kept fun id o ho => outboxById_enqueueReply henq ho)
  | api inp tenantId op =>
    exact hs.outside
      (.of_kept fun id o ho => (outboxById_handle env _ inp tenantId op id).trans ho)

/-! ## The state after the third failure -/

/-- A result that is recorded for the third attempt of a row, or for a row whose third attempt has
failed, is a permanent failure; the third attempt may also succeed. -/
def DrainPhase.concludes (exhausted : List Nat) : DrainPhase → Prop
  | .marking row conclusion _ =>
    row.attempts = maxOutboxAttempts ∧ conclusion.isFailure = true ∨ row.id ∈ exhausted →
      conclusion.isFinal = true
  | _ => True

/-- The step records no result that leaves an exhausted row in another state than `failed`. -/
def Concludes (s : LoggedDrains ι) : DrainAction ι → Prop
  | .mark i _ => (s.drains.phase i).concludes s.exhausted
  | _ => True

instance DrainPhase.decidableConcludes (exhausted : List Nat) :
    (l : DrainPhase) → Decidable (l.concludes exhausted)
  | .idle => inferInstanceAs (Decidable True)
  | .draining _ => inferInstanceAs (Decidable True)
  | .sending _ _ _ => inferInstanceAs (Decidable True)
  | .marking row conclusion _ => inferInstanceAs (Decidable
      (row.attempts = maxOutboxAttempts ∧ conclusion.isFailure = true ∨ row.id ∈ exhausted →
        conclusion.isFinal = true))
  | .lost _ => inferInstanceAs (Decidable True)
  | .ended => inferInstanceAs (Decidable True)

instance Concludes.decidable (s : LoggedDrains ι) : (a : DrainAction ι) → Decidable (Concludes s a)
  | .claim _ _ _ => inferInstanceAs (Decidable True)
  | .lookup _ => inferInstanceAs (Decidable True)
  | .answer _ _ _ => inferInstanceAs (Decidable True)
  | .mark i _ => inferInstanceAs (Decidable ((s.drains.phase i).concludes s.exhausted))
  | .enqueue _ _ _ _ _ _ _ _ _ => inferInstanceAs (Decidable True)
  | .api _ _ _ => inferInstanceAs (Decidable True)

/-- A final result is recorded by setting the row to `failed`. -/
theorem markConclusion_final (env : Env) (db : Db) (now : Timestamp) (id : Nat)
    {conclusion : Conclusion}
    (h : conclusion.isFinal = true) :
    ∃ text, ∃ hf : ∀ o, (Outbox.failed text o).id = o.id, markConclusion env db now id conclusion =
      .ok (db.updateOutbox (fun o => o.id == id) (Outbox.failed text) hf) := by
  cases conclusion with
  | refused error => exact ⟨some error, fun _ => rfl, rfl⟩
  | answered outcome =>
    cases outcome with
    | raised => contradiction
    | ok wamid => contradiction
    | failed code message retryable =>
      simp only [Conclusion.isFinal, Bool.and_eq_true, Bool.not_eq_true'] at h
      refine ⟨some code, fun _ => rfl, ?_⟩
      simp only [markConclusion, markOutcome, sqlText, h.1, h.2]
      rfl

/-- Rows whose third attempt has failed are failed. -/
def ExhaustedFailed (s : LoggedDrains ι) : Prop :=
  ∀ id ∈ s.exhausted, RowIn s.drains.shared.db id .failed

omit [DecidableEq ι] in
/-- When a result is recorded that concludes, its row is there, and an exhausted row is this one
with a final result or another one that was exhausted. -/
theorem AttemptInv.exhausted_cases (hs : AttemptInv s) {i : ι} {row : Outbox}
    {conclusion : Conclusion} {rest : List Outbox}
    (hi : s.drains.phase i = .marking row conclusion rest)
    (hconcludes : (s.drains.phase i).concludes s.exhausted) :
    ∃ o, outboxById s.drains.shared.db row.id = some o ∧
      ∀ id ∈ (s.drains.phase i).exhausting ++ s.exhausted,
        id = row.id ∧ conclusion.isFinal = true ∨ id ≠ row.id ∧ id ∈ s.exhausted := by
  have hrow : Counted s.drains.shared.db row.attempt := by
    apply hs.counted i row
    rw [hi]
    exact List.mem_cons_self
  obtain ⟨-, -, o, ho, -⟩ := hrow
  refine ⟨o, ho, fun id hid => ?_⟩
  simp only [DrainPhase.concludes, hi] at hconcludes
  rw [hi] at hid
  by_cases he : id = row.id
  · refine Or.inl ⟨he, hconcludes ?_⟩
    rcases List.mem_append.mp hid with hnew | hold
    · simp only [DrainPhase.exhausting] at hnew
      split at hnew
      · exact Or.inl ‹_›
      · exact absurd hnew List.not_mem_nil
    · exact Or.inr (he ▸ hold)
  · refine Or.inr ⟨he, ?_⟩
    rcases List.mem_append.mp hid with hnew | hold
    · simp only [DrainPhase.exhausting] at hnew
      split at hnew
      · exact absurd (List.mem_singleton.mp hnew) he
      · exact absurd hnew List.not_mem_nil
    · exact hold

/-- Every step that meets the condition leaves the exhausted rows failed. -/
theorem logStep_failed {a : DrainAction ι} (hs : AttemptInv s) (hfailed : ExhaustedFailed s)
    (hconcludes : Concludes s a) (h : logStep env s a = some s') : ExhaustedFailed s' := by
  obtain ⟨after, hstep, rfl⟩ := Option.map_eq_some_iff.mp h
  cases drainStep_moves hstep with
  | claim i now locked hi =>
    intro id hid
    obtain ⟨o, ho, hstate⟩ := hfailed id hid
    exact ⟨o, outboxById_claimPending_of_final ho (by simp [hstate]), hstate⟩
  | close i hi => exact hfailed
  | lookup i row rest hi => exact hfailed
  | answer i outcome accepted hi hallow => exact hfailed
  | mark i now hi hmark =>
    obtain ⟨o, ho, hexhausting⟩ := hs.exhausted_cases hi hconcludes
    intro id hid
    rcases hexhausting id hid with ⟨rfl, hfinal⟩ | ⟨hne, hold⟩
    · obtain ⟨text, hf, hok⟩ := markConclusion_final env s.drains.shared.db now _ hfinal
      cases hmark.symm.trans hok
      exact rowIn_update_self hf ho rfl
    · obtain ⟨f, hf, rfl, -⟩ := markConclusion_cases hmark
      exact rowIn_update_of_ne hf hne (hfailed id hold)
  | markError i now hi hmark =>
    obtain ⟨o, ho, hexhausting⟩ := hs.exhausted_cases hi hconcludes
    intro id hid
    rcases hexhausting id hid with ⟨rfl, hfinal⟩ | ⟨hne, hold⟩
    · obtain ⟨text, hf, hok⟩ := markConclusion_final env s.drains.shared.db now _ hfinal
      cases hmark.symm.trans hok
    · exact hfailed id hold
  | enqueue henq =>
    intro id hid
    obtain ⟨o, ho, hstate⟩ := hfailed id hid
    exact ⟨o, outboxById_enqueueReply henq ho, hstate⟩
  | api inp tenantId op =>
    intro id hid
    obtain ⟨o, ho, hstate⟩ := hfailed id hid
    exact ⟨o, (outboxById_handle env _ inp tenantId op id).trans ho, hstate⟩

/-! ## Runs -/

omit [DecidableEq ι] in
/-- Nothing is held or handed over when the drains start. -/
theorem logStart_inv (db : Db) : AttemptInv (logStart db : LoggedDrains ι) where
  exclusive _ _ _ h := absurd h List.not_mem_nil
  distinct _ := List.nodup_nil
  counted _ _ h := absurd h List.not_mem_nil
  fresh _ _ h := absurd h List.not_mem_nil
  handed _ h := absurd h List.not_mem_nil
  once := List.nodup_nil

/-- The attempts of one row that were handed over. -/
def handOvers (s : LoggedDrains ι) (id : Nat) : List (Nat × Nat) :=
  s.handed.filter fun k => k.1 == id

omit [DecidableEq ι] in
/-- Distinct attempts of one row, numbered one to three. -/
theorem AttemptInv.handOvers_le (hs : AttemptInv s) (id : Nat) :
    (handOvers s id).length ≤ maxOutboxAttempts := by
  have hrow : ∀ k ∈ handOvers s id, k.1 = id ∧ 1 ≤ k.2 ∧ k.2 ≤ maxOutboxAttempts := by
    intro k hk
    obtain ⟨hmem, hid⟩ := List.mem_filter.mp hk
    obtain ⟨hpos, hmax, -⟩ := hs.handed k hmem
    exact ⟨by simpa using hid, hpos, hmax⟩
  have hnumbers : ((handOvers s id).map Prod.snd).Nodup := by
    refine (hs.once.filter _).map_on fun k hk k' hk' he => Prod.ext ?_ he
    rw [(hrow k hk).1, (hrow k' hk').1]
  have hrange : (handOvers s id).map Prod.snd ⊆ List.range' 1 maxOutboxAttempts := by
    intro n hn
    obtain ⟨k, hk, rfl⟩ := List.mem_map.mp hn
    rw [List.mem_range'_1]
    have hbounds := (hrow k hk).2
    omega
  have hlength := (List.subperm_of_subset hnumbers hrange).length_le
  rwa [List.length_map, List.length_range'] at hlength

/-- In every run a row is handed to Meta at most three times. When the third failure of a row is
permanent and no other result of the row is recorded after it, except for a permanent failure,
the row is failed from then on. -/
theorem concludes_within_three (env : Env) {db : Db} {actions : List (DrainAction ι)}
    (h : run (logStep env) (logStart db) actions = some s) :
    (∀ id, (handOvers s id).length ≤ maxOutboxAttempts) ∧
      (Meets (logStep env) Concludes (logStart db : LoggedDrains ι) actions →
        ∀ id ∈ s.exhausted, RowIn s.drains.shared.db id .failed) := by
  constructor
  · have hs := run_preserves AttemptInv (fun _ _ _ hs ha => logStep_inv hs ha) h (logStart_inv db)
    exact hs.handOvers_le
  · intro hmeets
    have hboth : AttemptInv s ∧ ExhaustedFailed s :=
      run_preserves_of_meets (fun s => AttemptInv s ∧ ExhaustedFailed s)
        (fun _ _ _ hs hc ha => ⟨logStep_inv hs.1 ha, logStep_failed hs.1 hs.2 hc ha⟩) h hmeets
        ⟨logStart_inv db, fun _ hid => absurd hid List.not_mem_nil⟩
    exact hboth.2

/-! ## Runs of three attempts -/

/-- A send that Meta rejects for good. -/
def metaRefuses : SendOutcome := .failed "131026" (.str "Message undeliverable") false

/-- Two drains whose sends of the queued message fail for now. -/
def twoFailures : List (DrainAction (Nat)) :=
  [.claim 0 0 [], .lookup 0, .answer 0 metaBusy false, .mark 0 1, .claim 1 (seconds 120) [],
    .lookup 1, .answer 1 metaBusy false, .mark 1 (seconds 121)]

/-- A third drain whose send fails as well. -/
def thirdFailure (outcome : SendOutcome) : List (DrainAction (Nat)) :=
  [.claim 2 (seconds 300) [], .lookup 2, .answer 2 outcome false, .mark 2 (seconds 301)]

/-- The third failure is permanent, and the row is failed. -/
theorem concludes_within_three_permanent :
    ∃ s : LoggedDrains (Nat), s.exhausted = [1] ∧ (handOvers s 1).length = 3 ∧
      (∀ id, (handOvers s id).length ≤ maxOutboxAttempts) ∧
      ∀ id ∈ s.exhausted, RowIn s.drains.shared.db id .failed := by
  have hrun : (run (logStep (.ofRecording "s" [])) (logStart queuedDb : LoggedDrains (Nat))
      (twoFailures ++ thirdFailure metaRefuses)).map (fun s : LoggedDrains (Nat) =>
        (s.exhausted, (handOvers s 1).length)) = some ([1], 3) := by decide
  obtain ⟨s, hs, hlog⟩ := Option.map_eq_some_iff.mp hrun
  obtain ⟨hle, hfailed⟩ := concludes_within_three (.ofRecording "s" []) hs
  exact ⟨s, congrArg Prod.fst hlog, congrArg Prod.snd hlog, hle, hfailed (by decide)⟩

/-- After three failures that Meta reports as temporary the row is pending. A row that failed for
good at its third attempt is pending again when the second attempt ends after the third. -/
theorem exhausted_row_pending :
    (∃ s : LoggedDrains (Nat),
      run (logStep (.ofRecording "s" [])) (logStart queuedDb)
        (twoFailures ++ thirdFailure metaBusy) =
        some s ∧
      s.exhausted = [1] ∧ (outboxById s.drains.shared.db 1).map (·.state) = some .pending) ∧
    ∃ s : LoggedDrains (Nat),
      run (logStep (.ofRecording "s" [])) (logStart queuedDb)
        ([.claim 0 0 [], .lookup 0, .answer 0 metaBusy false, .mark 0 1, .claim 1 (seconds 120) [],
          .lookup 1] ++ thirdFailure metaRefuses ++
            [.answer 1 metaBusy false, .mark 1 (seconds 302)]) = some s ∧
      s.exhausted = [1] ∧ (outboxById s.drains.shared.db 1).map (·.state) = some .pending := by
  constructor
  · have hrun : (run (logStep (.ofRecording "s" [])) (logStart queuedDb : LoggedDrains (Nat))
        (twoFailures ++ thirdFailure metaBusy)).map (fun s : LoggedDrains (Nat) =>
          (s.exhausted, (outboxById s.drains.shared.db 1).map (·.state))) =
        some ([1], some .pending) := by decide
    obtain ⟨s, hs, hlog⟩ := Option.map_eq_some_iff.mp hrun
    exact ⟨s, hs, congrArg Prod.fst hlog, congrArg Prod.snd hlog⟩
  · have hrun : (run (logStep (.ofRecording "s" [])) (logStart queuedDb : LoggedDrains (Nat))
        ([.claim 0 0 [], .lookup 0, .answer 0 metaBusy false, .mark 0 1, .claim 1 (seconds 120) [],
          .lookup 1] ++ thirdFailure metaRefuses ++
            [.answer 1 metaBusy false, .mark 1 (seconds 302)])).map
          (fun s : LoggedDrains (Nat) =>
            (s.exhausted, (outboxById s.drains.shared.db 1).map (·.state))) =
        some ([1], some .pending) := by decide
    obtain ⟨s, hs, hlog⟩ := Option.map_eq_some_iff.mp hrun
    exact ⟨s, hs, congrArg Prod.fst hlog, congrArg Prod.snd hlog⟩

end WaService
