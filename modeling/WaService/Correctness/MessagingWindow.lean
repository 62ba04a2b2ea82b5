import WaService.Correctness.DrainOnce
import WaService.System.MessagingWindow

/-!
# The 24-hour messaging window

A claim sets rows aside by their due time, which is not the time when the contact has last written,
and templates with them. Where every ready row is within the 23-hour window at the claim and the
drain hands its rows over in the hour that is left as margin, no free-form message goes out late.
-/

namespace WaService

open Python Relational Transition

variable {ι : Type} [DecidableEq ι] {env : Env} {c c' : Windowed ι}

/-! ## What Meta demands, and when the drains do it -/

/-- The step hands no free-form row to Meta outside the window of its contact, a claim sets such a
row aside when it is due, and no step sets a template aside. -/
structure RespectsWindow (env : Env) (c : Windowed ι) (a : WindowAction ι) : Prop where
  handed : ∀ row ∈ c.handing a, row.kind.isFreeForm = true → c.WindowOpen row.contactId
  skipped : ∀ i now locked, a = .drain (.claim i now locked) → ∀ c', windowStep env c a = some c' →
    ∀ o ∈ c.outbox, o.state = .pending → o.kind.isFreeForm = true → o.sendAfter ≤ now →
      ¬ c.WindowOpen o.contactId → RowIn c'.drains.shared.db o.id .skippedWindow
  kept : ∀ c', windowStep env c a = some c' → ∀ o' ∈ c'.outbox, o'.kind = .template →
    o'.state = .skippedWindow → ∃ o ∈ c.outbox, o.id = o'.id ∧ o.state = .skippedWindow

/-- A row at a claim: a free-form row that can be taken is within the safe window, one that is due
outside the window has missed it by its due time, and a template has not. -/
structure Outbox.InTime (c : Windowed ι) (now : Timestamp) (locked : List Nat) (o : Outbox) :
    Prop where
  ready : o.kind.isFreeForm = true → claimable now locked o = true → windowMissed now o = false →
    withinWindow now (c.lastInbound o.contactId) = true
  due : o.kind.isFreeForm = true → o.state = .pending → o.sendAfter ≤ now →
    ¬ c.WindowOpen o.contactId → windowMissed now o = true
  template : o.kind = .template → windowMissed now o = false

/-- The rows are in time at every claim, and handed over at most an hour after it. -/
def InTime (c : Windowed ι) : WindowAction ι → Prop
  | .drain (.claim _ now locked) => ∀ o ∈ c.outbox, o.InTime c now locked
  | .drain (.answer i outcome accepted) =>
    ∀ row ∈ c.handing (.drain (.answer i outcome accepted)), row.kind.isFreeForm = true →
      c.clock ≤ c.claimedAt i + seconds 3600
  | _ => True

/-! ## The rows that a drain has taken -/

/-- The rows that a drain may still hand to Meta. -/
def DrainPhase.upcoming : DrainPhase → List Outbox
  | .draining rest | .marking _ _ rest => rest
  | .sending row _ rest => row :: rest
  | .idle | .lost _ | .ended => []

/-- The rows of every drain were within the safe window when it claimed them. -/
def TakenInTime (c : Windowed ι) : Prop :=
  ∀ i, ∀ row ∈ (c.drains.phase i).upcoming, row.kind.isFreeForm = true →
    c.claimedAt i ≤ c.clock ∧ withinWindow (c.claimedAt i) (c.lastInbound row.contactId) = true

theorem upcoming_phaseOfPlan (row : Outbox) (rest : List Outbox) (plan : RowPlan) :
    (phaseOfPlan row rest plan).upcoming ⊆ row :: rest := by
  cases plan with
  | skip => exact List.subset_cons_self row rest
  | refuse error => exact List.subset_cons_self row rest
  | raise => exact List.nil_subset _
  | send call => exact List.Subset.refl _

theorem upcoming_phaseOfSend (row : Outbox) (rest : List Outbox) (outcome : SendOutcome)
    (accepted : Bool) : (phaseOfSend row rest outcome accepted).upcoming ⊆ row :: rest := by
  cases outcome with
  | ok wamid => exact List.subset_cons_self row rest
  | failed code message retryable => exact List.subset_cons_self row rest
  | raised =>
    cases accepted with
    | true => exact List.nil_subset _
    | false => exact List.nil_subset _

theorem upcoming_phaseOfMarkError (outboxId : Nat) (conclusion : Conclusion) :
    (phaseOfMarkError outboxId conclusion).upcoming = [] := by
  unfold phaseOfMarkError
  split
  · rfl
  · rfl

/-- A step other than a claim takes no rows. -/
theorem drainStep_upcoming {d d' : Drains ι} {a : DrainAction ι}
    (hclaim : ∀ i now locked, a ≠ .claim i now locked) (h : drainStep env d a = some d') (j : ι) :
    (d'.phase j).upcoming ⊆ (d.phase j).upcoming := by
  have hmoved : ∀ {i : ι} {s : DrainShared ι} {l : DrainPhase}, l.upcoming ⊆ (d.phase i).upcoming →
      ((d.advance i s l).phase j).upcoming ⊆ (d.phase j).upcoming := fun {i} _ _ hl =>
    Processes.forall_phase_advance (fun j (l : DrainPhase) => l.upcoming ⊆ (d.phase j).upcoming) hl
      (fun _ _ => List.Subset.refl _) j
  cases drainStep_moves h with
  | claim i now locked hi => exact absurd rfl (hclaim i now locked)
  | close i hi => exact hmoved (List.nil_subset _)
  | lookup i row rest hi =>
    apply hmoved
    rw [hi]
    exact upcoming_phaseOfPlan row rest _
  | answer i outcome accepted hi hallow =>
    apply hmoved
    rw [hi]
    exact upcoming_phaseOfSend _ _ outcome accepted
  | mark i now hi hmark =>
    apply hmoved
    rw [hi]
    exact List.Subset.refl _
  | markError i now hi hmark =>
    apply hmoved
    rw [upcoming_phaseOfMarkError]
    exact List.nil_subset _
  | enqueue henq => exact List.Subset.refl _
  | api inp tenantId op => exact List.Subset.refl _

/-! ## One step -/

theorem windowStep_drain {a : DrainAction ι} (h : windowStep env c (.drain a) = some c') :
    (∀ time, a.time = some time → time = c.clock) ∧
      ∃ drains, drainStep env c.drains a = some drains ∧
        c' = { c with drains := drains, claimedAt := claimTimes c.claimedAt a } := by
  simp only [windowStep] at h
  split at h
  · rename_i htime
    obtain ⟨drains, hd, rfl⟩ := Option.map_eq_some_iff.mp h
    refine ⟨fun time ht => ?_, drains, hd, rfl⟩
    rw [ht] at htime
    simpa using htime
  · contradiction

theorem claimTimes_of_ne (claimedAt : ι → Timestamp) {a : DrainAction ι}
    (hclaim : ∀ i now locked, a ≠ .claim i now locked) : claimTimes claimedAt a = claimedAt := by
  cases a with
  | claim i now locked => exact absurd rfl (hclaim i now locked)
  | _ => rfl

/-- A claim in time takes rows that are within the safe window. -/
theorem TakenInTime.claim (h : TakenInTime c) {i : ι} {now : Timestamp} {locked : List Nat}
    (ht : InTime c (.drain (.claim i now locked)))
    (hstep : windowStep env c (.drain (.claim i now locked)) = some c') : TakenInTime c' := by
  obtain ⟨hclock, drains, hdrains, rfl⟩ := windowStep_drain hstep
  obtain rfl : now = c.clock := hclock now rfl
  cases drainStep_moves hdrains
  refine Processes.forall_phase_advance (fun j (l : DrainPhase) => ∀ row ∈ l.upcoming,
    row.kind.isFreeForm = true → Function.update c.claimedAt i c.clock j ≤ c.clock ∧
      withinWindow (Function.update c.claimedAt i c.clock j) (c.lastInbound row.contactId) = true)
    (fun row hrow hfree => ?_) fun j hj row hrow hfree => ?_
  · obtain ⟨o, ho, rfl, -, hmissed, hclaimed⟩ := claimPending_source hrow
    have hready : claimable c.clock locked o = true := (Bool.and_eq_true_iff.mp hclaimed).1
    rw [Function.update_self]
    exact ⟨le_refl _, (ht o ho).ready hfree hready hmissed⟩
  · rw [Function.update_of_ne hj]
    exact h j row hrow hfree

/-- A contact that writes opens its window again. -/
theorem TakenInTime.inbound (h : TakenInTime c) (contactId : UUID) :
    TakenInTime (c.heard contactId) := by
  intro i row hrow hfree
  obtain ⟨hclaimed, hwithin⟩ := h i row hrow hfree
  refine ⟨hclaimed, ?_⟩
  by_cases hcontact : row.contactId = contactId
  · have hheard : (c.heard contactId).lastInbound row.contactId = some c.clock := by
      simp [Windowed.heard, hcontact]
    rw [hheard]
    have hpast : c.claimedAt i - c.clock ≤ 0 := Int.sub_nonpos_of_le hclaimed
    exact decide_eq_true (lt_of_le_of_lt hpast (by decide))
  · have hheard : (c.heard contactId).lastInbound row.contactId = c.lastInbound row.contactId := by
      simp [Windowed.heard, hcontact]
    rw [hheard]
    exact hwithin

theorem TakenInTime.step {a : WindowAction ι} (h : TakenInTime c) (ht : InTime c a)
    (hstep : windowStep env c a = some c') : TakenInTime c' := by
  cases a with
  | tick elapsed =>
    cases hstep
    intro i row hrow hfree
    obtain ⟨hclaimed, hwithin⟩ := h i row hrow hfree
    have hlater : c.clock ≤ c.clock + elapsed :=
      Int.le_add_of_nonneg_right (Int.natCast_nonneg elapsed)
    exact ⟨hclaimed.trans hlater, hwithin⟩
  | inbound contactId =>
    cases hstep
    exact h.inbound contactId
  | drain a =>
    by_cases hclaim : ∃ i now locked, a = .claim i now locked
    · obtain ⟨i, now, locked, rfl⟩ := hclaim
      exact h.claim ht hstep
    · have hother : ∀ i now locked, a ≠ .claim i now locked :=
        fun i now locked he => hclaim ⟨i, now, locked, he⟩
      obtain ⟨-, drains, hdrains, rfl⟩ := windowStep_drain hstep
      intro i row hrow hfree
      have htaken := h i row (drainStep_upcoming hother hdrains i hrow) hfree
      rwa [← claimTimes_of_ne c.claimedAt hother] at htaken

/-- The safe window and the hour that it leaves make up the window. -/
theorem le_of_safe_window {now claimedAt last : Int} (h : claimedAt - last < seconds (23 * 3600))
    (hhour : now ≤ claimedAt + seconds 3600) : now ≤ last + seconds (24 * 3600) := by
  simp only [seconds] at h hhour ⊢
  omega

omit [DecidableEq ι] in
/-- In the hour after the claim the window is open. -/
theorem TakenInTime.handed (h : TakenInTime c) {a : WindowAction ι} (ht : InTime c a) {row : Outbox}
    (hrow : row ∈ c.handing a) (hfree : row.kind.isFreeForm = true) :
    c.WindowOpen row.contactId := by
  unfold Windowed.handing at hrow
  rw [Option.mem_def] at hrow
  split at hrow
  · rename_i i outcome accepted
    have hhour : c.clock ≤ c.claimedAt i + seconds 3600 := ht row hrow hfree
    split at hrow
    · rename_i call rest hi
      cases hrow
      have hmem : row ∈ (c.drains.phase i).upcoming := by
        rw [hi]
        exact List.mem_cons_self
      obtain ⟨-, hwithin⟩ := h i row hmem hfree
      unfold withinWindow at hwithin
      split at hwithin
      · contradiction
      · rename_i last hlast
        exact ⟨last, hlast, le_of_safe_window (of_decide_eq_true hwithin) hhour⟩
    · contradiction
  · contradiction

/-- An expired row is set aside. -/
theorem rowIn_claimPending_of_missed {db : Db} {now : Timestamp} {locked : List Nat} {o : Outbox}
    (ho : o ∈ db.outbox.rows) (hmissed : windowMissed now o = true) :
    RowIn (claimPending db now locked 20).2 o.id .skippedWindow := by
  have hunclaimed : claimed (expireOutbox db now) now locked 20 (skipWindow o) = false := by
    simp [claimed, claimable, skipWindow]
  refine ⟨skipWindow o, ?_, rfl⟩
  rw [outboxById_claimPending, outboxById_eq_some.mpr ⟨ho, rfl⟩, Option.map_some, Option.map_some,
    patch_of_pos hmissed, patch_of_neg hunclaimed]

/-- A row that a claim leaves, as the table had it. -/
theorem claimPending_leaves {db : Db} {now : Timestamp} {locked : List Nat} {o' : Outbox}
    (h : o' ∈ (claimPending db now locked 20).2.outbox.rows) :
    ∃ o ∈ db.outbox.rows, o.id = o'.id ∧ o.kind = o'.kind ∧
      (o.state = o'.state ∨ windowMissed now o = true) := by
  have hupdate : (claimPending db now locked 20).2 = (expireOutbox db now).updateOutbox
      (claimed (expireOutbox db now) now locked 20) raiseAttempts fun _ => rfl := rfl
  rw [hupdate] at h
  obtain ⟨o₁, ho₁, rfl⟩ := (mem_updateOutbox _).mp h
  obtain ⟨o, ho, rfl⟩ := (mem_updateOutbox _).mp ho₁
  have hraised : ∀ o : Outbox,
      (patch (claimed (expireOutbox db now) now locked 20) raiseAttempts o).id = o.id ∧
      (patch (claimed (expireOutbox db now) now locked 20) raiseAttempts o).kind = o.kind ∧
      (patch (claimed (expireOutbox db now) now locked 20) raiseAttempts o).state = o.state := by
    intro o
    rcases patch_eq_or (claimed (expireOutbox db now) now locked 20) raiseAttempts o with h | h
    · rw [h]
      exact ⟨rfl, rfl, rfl⟩
    · rw [h]
      exact ⟨rfl, rfl, rfl⟩
  obtain ⟨hid, hkind, hstate⟩ := hraised (patch (windowMissed now) skipWindow o)
  rw [hid, hkind, hstate]
  cases hmissed : windowMissed now o with
  | true =>
    rw [patch_of_pos hmissed]
    exact ⟨o, ho, rfl, rfl, Or.inr hmissed⟩
  | false =>
    rw [patch_of_neg hmissed]
    exact ⟨o, ho, rfl, rfl, Or.inl rfl⟩

/-- No step sets a template aside, when no claim finds one overdue. -/
theorem InTime.template_kept {a : WindowAction ι} (ht : InTime c a)
    (hstep : windowStep env c a = some c') {o' : Outbox} (ho' : o' ∈ c'.outbox)
    (hkind : o'.kind = .template) (hstate : o'.state = .skippedWindow) :
    ∃ o ∈ c.outbox, o.id = o'.id ∧ o.state = .skippedWindow := by
  have hsame : c'.outbox = c.outbox → ∃ o ∈ c.outbox, o.id = o'.id ∧ o.state = .skippedWindow := by
    intro he
    rw [he] at ho'
    exact ⟨o', ho', rfl, hstate⟩
  cases a with
  | tick elapsed =>
    cases hstep
    exact hsame rfl
  | inbound contactId =>
    cases hstep
    exact hsame rfl
  | drain a =>
    obtain ⟨-, drains, hdrains, rfl⟩ := windowStep_drain hstep
    cases drainStep_moves hdrains with
    | claim i now locked hi =>
      obtain ⟨o, ho, hid, hsort, hkept | hmissed⟩ := claimPending_leaves ho'
      · exact ⟨o, ho, hid, hkept.trans hstate⟩
      · have hspared := (ht o ho).template (hsort.trans hkind)
        rw [hmissed] at hspared
        cases hspared
    | close i hi => exact hsame rfl
    | lookup i row rest hi => exact hsame rfl
    | answer i outcome accepted hi hallow => exact hsame rfl
    | @mark i now row conclusion rest db hi hmark =>
      obtain ⟨f, hf, rfl, -, hnever, -⟩ := markConclusion_cases hmark
      obtain ⟨o, ho, rfl⟩ := (mem_updateOutbox hf).mp ho'
      rcases patch_eq_or (fun o => o.id == row.id) f o with hwritten | hother
      · rw [hwritten] at hstate
        exact absurd hstate (hnever o)
      · rw [hother] at hstate ⊢
        exact ⟨o, ho, rfl, hstate⟩
    | markError i now hi hmark => exact hsame rfl
    | enqueue henqueue =>
      rcases enqueueReply_rows henqueue with rfl | ⟨o, outbox, hins, rfl, -, hpending⟩
      · exact hsame rfl
      · rcases (Table.mem_of_insert? hins).mp ho' with hold | rfl
        · exact ⟨o', hold, rfl, hstate⟩
        · rw [hpending] at hstate
          cases hstate
    | api inp tenantId op =>
      apply hsame
      unfold Windowed.outbox
      simp only
      rw [handle_tables]

/-! ## Runs -/

omit [DecidableEq ι] in
theorem takenInTime_of_idle (hidle : ∀ i, c.drains.phase i = .idle) : TakenInTime c := by
  intro i row hrow
  rw [hidle i] at hrow
  cases hrow

/-- One step in time respects the window. -/
theorem TakenInTime.respects {a : WindowAction ι} (h : TakenInTime c) (ht : InTime c a) :
    RespectsWindow env c a where
  handed _ hrow hfree := h.handed ht hrow hfree
  skipped := by
    rintro i now locked rfl c' hstep o ho hpending hfree hdue hclosed
    obtain ⟨-, drains, hdrains, rfl⟩ := windowStep_drain hstep
    cases drainStep_moves hdrains
    exact rowIn_claimPending_of_missed ho ((ht o ho).due hfree hpending hdue hclosed)
  kept _ hstep _ ho' hkind hstate := ht.template_kept hstep ho' hkind hstate

/-- Over every run whose steps are in time, however long, each step respects the window. -/
theorem window_respected (env : Env) {start : Windowed ι}
    (hidle : ∀ i, start.drains.phase i = .idle) {as : List (WindowAction ι)}
    (ht : Meets (windowStep env) InTime start as) :
    Meets (windowStep env) (RespectsWindow env) start as :=
  ht.imp_of_preserves TakenInTime (fun _ _ _ h hc hs => h.step hc hs)
    (fun _ _ h hc => h.respects hc)
    (takenInTime_of_idle hidle)

/-! ## A reply in time, a late retry and a template -/

instance Outbox.InTime.decidable (c : Windowed ι) (now : Timestamp) (locked : List Nat)
    (o : Outbox) :
    Decidable (o.InTime c now locked) :=
  decidable_of_iff
    ((o.kind.isFreeForm = true → claimable now locked o = true → windowMissed now o = false →
      withinWindow now (c.lastInbound o.contactId) = true) ∧
    (o.kind.isFreeForm = true → o.state = .pending → o.sendAfter ≤ now →
      ¬ c.WindowOpen o.contactId → windowMissed now o = true) ∧
    (o.kind = .template → windowMissed now o = false))
    ⟨fun h => ⟨h.1, h.2.1, h.2.2⟩, fun h => ⟨h.ready, h.due, h.template⟩⟩

instance InTime.decidable (c : Windowed ι) : (a : WindowAction ι) → Decidable (InTime c a)
  | .drain (.claim _ now locked) =>
    inferInstanceAs (Decidable (∀ o ∈ c.outbox, o.InTime c now locked))
  | .drain (.answer i outcome accepted) => inferInstanceAs (Decidable
      (∀ row ∈ c.handing (.drain (.answer i outcome accepted)), row.kind.isFreeForm = true →
        c.clock ≤ c.claimedAt i + seconds 3600))
  | .drain (.lookup _) | .drain (.mark _ _) | .drain (.enqueue _ _ _ _ _ _ _ _ _)
  | .drain (.api _ _ _) | .tick _ | .inbound _ => inferInstanceAs (Decidable True)

/-- Microseconds of some hours. -/
def hours (n : Nat) : Nat := n * 3600 * 1000000

/-- The contact wrote at time 0, when its row was queued. -/
def freshStart : Windowed (Fin 2) := windowStart queuedDb 0 fun _ => some 0

/-- The row is handed to Meta after a minute. -/
def promptRun : List (WindowAction (Fin 2)) :=
  [.tick 60000000, .drain (.claim 0 (seconds 60) []), .drain (.lookup 0),
    .drain (.answer 0 metaAccepts true)]

theorem window_respected_prompt :
    ∃ c, run (windowStep (.ofRecording "s" [])) freshStart promptRun = some c ∧
      c.drains.shared.sends = [(0, 1)] ∧
      Meets (windowStep (.ofRecording "s" [])) (RespectsWindow (.ofRecording "s" [])) freshStart
        promptRun := by
  have hrun : (run (windowStep (.ofRecording "s" [])) freshStart promptRun).map
      (fun c => c.drains.shared.sends) = some [(0, 1)] := by decide
  obtain ⟨c, hc, hsends⟩ := Option.map_eq_some_iff.mp hrun
  exact ⟨c, hc, hsends, window_respected (.ofRecording "s" []) (fun _ => rfl) (by decide)⟩

/-- The first send fails after 22 hours, and the row is claimed again 22 hours later. -/
def lateRetry : List (WindowAction (Fin 2)) :=
  [.tick (hours 22), .drain (.claim 0 (hours 22) []), .drain (.lookup 0),
    .drain (.answer 0 metaBusy false), .drain (.mark 0 (hours 22)), .tick (hours 22),
    .drain (.claim 1 (hours 44) []), .drain (.lookup 1)]

def templateRow : Outbox :=
  { queuedRow with kind := .template, payload := .obj [("name", .str "welcome")] }

/-- A day after the template was queued, the drains come back. -/
def templateStart : Windowed (Fin 2) :=
  windowStart { queuedDb with outbox := .singleton templateRow } (hours 24) fun _ => none

/-- A text message goes out 44 hours after its contact has last written, and a template is set
aside. -/
theorem late_retry_sent :
    (∃ c, run (windowStep (.ofRecording "s" [])) freshStart lateRetry = some c ∧
      c.clock = hours 44 ∧ c.lastInbound 5 = some 0 ∧
      ¬ RespectsWindow (.ofRecording "s" []) c (.drain (.answer 1 metaAccepts true))) ∧
    ¬ RespectsWindow (.ofRecording "s" []) templateStart (.drain (.claim 0 (hours 24) [])) := by
  constructor
  · have hrun : (run (windowStep (.ofRecording "s" [])) freshStart lateRetry).map (fun c =>
        (c.clock, c.lastInbound 5, (c.handing (.drain (.answer 1 metaAccepts true))).map
          fun row => (row.kind, row.contactId))) =
        some ((hours 44 : Int), some 0, some (OutboxKind.text, 5)) := by decide
    obtain ⟨c, hc, hview⟩ := Option.map_eq_some_iff.mp hrun
    obtain ⟨hclock, hview⟩ := Prod.mk.inj hview
    obtain ⟨hlast, hhanded⟩ := Prod.mk.inj hview
    refine ⟨c, hc, hclock, hlast, fun hrespects => ?_⟩
    obtain ⟨row, hrow, hkind⟩ := Option.map_eq_some_iff.mp hhanded
    obtain ⟨hkind, hcontact⟩ := Prod.mk.inj hkind
    obtain ⟨last, hl, hopen⟩ := hrespects.handed row hrow (by rw [hkind]; rfl)
    rw [hcontact, hlast] at hl
    cases hl
    rw [hclock] at hopen
    exact absurd hopen (by decide)
  · intro hrespects
    have hrun : (windowStep (.ofRecording "s" []) templateStart
        (.drain (.claim 0 (hours 24) []))).map
          (fun c => c.outbox.map fun o => (o.id, o.kind, o.state)) =
        some [(1, OutboxKind.template, OutboxState.skippedWindow)] := by decide
    obtain ⟨c, hc, hview⟩ := Option.map_eq_some_iff.mp hrun
    obtain ⟨o', houtbox, hfacts⟩ := List.map_eq_singleton_iff.mp hview
    obtain ⟨-, hsort⟩ := Prod.mk.inj hfacts
    obtain ⟨hkind, hstate⟩ := Prod.mk.inj hsort
    have hmem : o' ∈ c.outbox := houtbox ▸ List.mem_cons_self
    obtain ⟨o, ho, -, hskipped⟩ := hrespects.kept c hc o' hmem hkind hstate
    obtain rfl : o = templateRow := List.mem_singleton.mp ho
    cases hskipped

end WaService
