import WaService.Core.Run
import WaService.Correctness.SessionOutcome
import WaService.System.DealRuns

/-!
# Review tasks of ambiguous sessions

A fuzzy match parks the session and raises a review task that names it, but a deal has one task for
a reason and the second insert is ignored. The session parked by a run is named by an open task
exactly when the insert goes through or an open task names it already.
-/

namespace WaService

open Python Relational Transition

/-! ## The system -/

/-- The task as a reviewer leaves it. -/
def ReviewTask.settled (dismissed : Bool) (t : ReviewTask) : ReviewTask :=
  { t with state := if dismissed then .dismissed else .resolved }

theorem ReviewTask.settled_keeps (p : ReviewTask → Bool) (dismissed : Bool) :
    Table.Keeps p (settled dismissed) :=
  Table.keeps_of fun _ _ => ⟨Or.inl rfl, Or.inl rfl⟩

/-- A reviewer resolves or dismisses a task. -/
def settleReview (db : Db) (taskId : UUID) (dismissed : Bool) : Db :=
  { db with
    reviewTasks := db.reviewTasks.update (fun t => t.id == taskId) (.settled dismissed)
      (ReviewTask.settled_keeps _ dismissed) }

/-- A run of `process_session` or another step of the service, or a reviewer at work. -/
inductive ReviewAction where
  | deal (a : DealAction)
  | settle (taskId : UUID) (dismissed : Bool)

/-- The steps of the service and of its reviewers. -/
def reviewStep (env : Env) (c : DealRuns) : ReviewAction → Option DealRuns
  | .deal a => dealStep env c a
  | .settle taskId dismissed =>
    some { c with world := { c.world with db := settleReview c.world.db taskId dismissed } }

/-! ## What a run of the session comes to -/

/-- The fuzzy match that the deal decision of the session comes to. -/
def ambiguousMatch (env : Env) (db : Db) (s : Session) (files : List RowMapping) :
    Option DealMatch :=
  match s.orgUnitId, sessionGate env files with
  | some _, .ok (.ready fields) =>
    match findExistingDeal env db s.tenantId (orElse fields.bookingNumber (fallbackNumber s.id))
      fields.customerName fields.model fields.bookingDate with
    | .ok (some found) => if found.isExact then none else some found
    | _ => none
  | _, _ => none

/-- An open review task names the session. -/
def NamedByOpenTask (db : Db) (sessionId : UUID) : Prop :=
  ∃ t ∈ db.reviewTasks.rows, t.state = .open ∧ t.detail = some ("session:" ++ uuidStr sessionId)

/-- The session is parked with note `deal_ambiguous`. -/
def AwaitsReview (db : Db) (sessionId : UUID) : Prop :=
  ∃ s ∈ sessionById db sessionId, s.state = .parked ∧ s.note = some "deal_ambiguous"

section Runs

variable (env : Env) (db : Db) (inp : SessionInput) (sessionId : UUID) (files : List RowMapping)

/-- The run comes to a fuzzy match and parks the session for it. -/
def ParksAmbiguous : Prop :=
  (∃ s ∈ sessionById db sessionId, (ambiguousMatch env db s files).isSome = true) ∧
    AwaitsReview (processSessionOn env db inp sessionId files).db sessionId

/-- When the session is one that can be parked and its match is fuzzy, the matched deal has no
review task for an ambiguous match yet and the generated id is new, or an open task names the
session already. -/
def TaskRaisable : Prop :=
  ∀ s found, sessionById db sessionId = some s → s.state ≠ .complete → s.state ≠ .cancelled →
    ambiguousMatch env db s files = some found →
      (∀ t ∈ db.reviewTasks.rows, t.id ≠ inp.reviewId ∧
        ¬ (t.dealId = some found.dealId ∧ t.reason = "deal_ambiguous")) ∨
      NamedByOpenTask db sessionId

end Runs

/-- The session that the step parks as ambiguous is named by an open review task. -/
def NamesParked (env : Env) (c : DealRuns) : ReviewAction → Prop
  | .deal (.session sessionId files inp _) =>
    ParksAmbiguous env c.world.db inp sessionId files →
      NamedByOpenTask (processSessionOn env c.world.db inp sessionId files).db sessionId
  | _ => True

/-- The review task of the step can be raised where it is needed. -/
def RaisesTask (env : Env) (c : DealRuns) : ReviewAction → Prop
  | .deal (.session sessionId files inp _) => TaskRaisable env c.world.db inp sessionId files
  | _ => True

section Law

variable {env : Env} {db : Db} {inp : SessionInput} {s : Session} {files : List RowMapping}
  {found : DealMatch} {sessionId : UUID}

/-- A fuzzy match ends the transaction in its branch. -/
theorem sessionTransactionOn_ambiguous (h : ambiguousMatch env db s files = some found) :
    sessionTransactionOn env db inp s files = .ok (ambiguousBranch db inp s found) := by
  unfold ambiguousMatch at h
  split at h
  · rename_i orgUnitId fields horg hgate
    split at h
    · rename_i m hfound
      split at h
      · cases h
      · rename_i hfuzzy
        cases h
        simp only [sessionTransactionOn, horg]
        apply bind_eq_ok.mpr
        refine ⟨.ready fields, hgate, ?_⟩
        apply bind_eq_ok.mpr
        exact ⟨some found, hfound, if_neg hfuzzy⟩
    · cases h
  · cases h

theorem processSessionOn_ambiguous (hs : sessionById db sessionId = some s)
    (h : ambiguousMatch env db s files = some found) :
    processSessionOn env db inp sessionId files = ⟨ambiguousBranch db inp s found, [], false⟩ := by
  unfold processSessionOn
  rw [hs]
  simp only [sessionTransactionOn_ambiguous h]

/-! ## One run -/

theorem sessionById_id (h : sessionById db sessionId = some s) : s.id = sessionId := by
  simpa using List.find?_some h

theorem raiseAmbiguousReview_sessions (newId tenantId : UUID) (found : DealMatch)
    (detail : String) : (raiseAmbiguousReview db newId tenantId found detail).sessions =
      db.sessions := by
  unfold raiseAmbiguousReview
  split
  · rfl
  · rfl

/-- The branch parks the session unless it is complete or cancelled. -/
theorem ambiguousBranch_awaitsReview (hs : sessionById db sessionId = some s) :
    AwaitsReview (ambiguousBranch db inp s found) sessionId ↔
      s.state ≠ .complete ∧ s.state ≠ .cancelled := by
  have hid := sessionById_id hs
  have hraised : sessionById (raiseAmbiguousReview db inp.reviewId s.tenantId found
      ("session:" ++ uuidStr s.id)) sessionId = some s :=
    (sessionById_congr (raiseAmbiguousReview_sessions _ _ _ _)).trans hs
  unfold AwaitsReview ambiguousBranch parkSession
  rw [sessionById_updateSessions, hraised, Option.map_some]
  constructor
  · rintro ⟨s', hs', hstate, -⟩
    cases hs'
    constructor
    · intro hcomplete
      rw [patch_of_neg (by simp [hcomplete]), hcomplete] at hstate
      cases hstate
    · intro hcancelled
      rw [patch_of_neg (by simp [hcancelled]), hcancelled] at hstate
      cases hstate
  · rintro ⟨hcomplete, hcancelled⟩
    refine ⟨_, rfl, ?_⟩
    rw [patch_of_pos (by simp [hid, hcomplete, hcancelled])]
    exact ⟨rfl, rfl⟩

/-- The new task is stored unless its id or the deal's reason is taken. -/
theorem raiseAmbiguousReview_named {newId tenantId : UUID} :
    NamedByOpenTask
        (raiseAmbiguousReview db newId tenantId found ("session:" ++ uuidStr sessionId)) sessionId ↔
      (∀ t ∈ db.reviewTasks.rows, t.id ≠ newId ∧
        ¬ (t.dealId = some found.dealId ∧ t.reason = "deal_ambiguous")) ∨
      NamedByOpenTask db sessionId := by
  have hclash : ∀ t : ReviewTask,
      clash t ⟨newId, tenantId, some found.dealId, "deal_ambiguous",
          some ("session:" ++ uuidStr sessionId), .open⟩ = false ↔
        t.id ≠ newId ∧ ¬ (t.dealId = some found.dealId ∧ t.reason = "deal_ambiguous") := by
    intro t
    rw [← Bool.not_eq_true]
    simp only [clash, Bool.or_eq_true, sameKey_iff, not_or]
    apply and_congr
    · simpa using ne_comm
    · cases t.dealId with
      | none => simp
      | some d => simp [eq_comm]
  unfold raiseAmbiguousReview
  split
  · rename_i tasks hins
    have hfree := (Table.insert?_eq_some.mp hins).1
    constructor
    · intro
      exact Or.inl fun t ht => (hclash t).mp (hfree t ht)
    · intro
      exact ⟨_, (Table.mem_of_insert? hins).mpr (Or.inr rfl), rfl, rfl⟩
  · rename_i hins
    obtain ⟨t, ht, hclashes⟩ := Table.insert?_eq_none.mp hins
    constructor
    · exact Or.inr
    · rintro (hfree | hnamed)
      · rw [(hclash t).mpr (hfree t ht)] at hclashes
        cases hclashes
      · exact hnamed

theorem ambiguousBranch_named (hid : s.id = sessionId) :
    NamedByOpenTask (ambiguousBranch db inp s found) sessionId ↔
      (∀ t ∈ db.reviewTasks.rows, t.id ≠ inp.reviewId ∧
        ¬ (t.dealId = some found.dealId ∧ t.reason = "deal_ambiguous")) ∨
      NamedByOpenTask db sessionId := by
  subst hid
  exact raiseAmbiguousReview_named

/-- A run names the session that it parks exactly when its task can be raised. -/
theorem named_iff_raisable (env : Env) (db : Db) (inp : SessionInput) (sessionId : UUID)
    (files : List RowMapping) :
    (ParksAmbiguous env db inp sessionId files →
      NamedByOpenTask (processSessionOn env db inp sessionId files).db sessionId) ↔
    TaskRaisable env db inp sessionId files := by
  constructor
  · intro h s found hs hcomplete hcancelled hmatch
    have hrun : processSessionOn env db inp sessionId files =
        ⟨ambiguousBranch db inp s found, [], false⟩ :=
      processSessionOn_ambiguous hs hmatch
    have hparks : ParksAmbiguous env db inp sessionId files := by
      refine ⟨⟨s, hs, by rw [hmatch, Option.isSome_some]⟩, ?_⟩
      rw [hrun]
      exact (ambiguousBranch_awaitsReview hs).mpr ⟨hcomplete, hcancelled⟩
    have hnamed := h hparks
    rw [hrun] at hnamed
    exact (ambiguousBranch_named (sessionById_id hs)).mp hnamed
  · rintro h ⟨⟨s, hs, hfuzzy⟩, hparked⟩
    obtain ⟨found, hmatch⟩ := Option.isSome_iff_exists.mp hfuzzy
    rw [processSessionOn_ambiguous hs hmatch] at hparked ⊢
    obtain ⟨hcomplete, hcancelled⟩ := (ambiguousBranch_awaitsReview hs).mp hparked
    exact (ambiguousBranch_named (sessionById_id hs)).mpr (h s found hs hcomplete hcancelled hmatch)

/-! ## Runs -/

theorem namesParked_iff_raisesTask {c : DealRuns} {a : ReviewAction} :
    NamesParked env c a ↔ RaisesTask env c a := by
  cases a with
  | settle taskId dismissed => exact Iff.rfl
  | deal a =>
    cases a with
    | other a => exact Iff.rfl
    | session sessionId files inp redelivered =>
      exact named_iff_raisable env c.world.db inp sessionId files

/-- Along a run of sessions, reviewers and other steps, every session parked as ambiguous is named
by an open review task at that moment exactly when, at each fuzzy match, the matched deal has no
task of the kind or an open task names the session already. -/
theorem ambiguities_reviewed_iff (env : Env) (c : DealRuns) (as : List ReviewAction) :
    Meets (reviewStep env) (NamesParked env) c as ↔
      Meets (reviewStep env) (RaisesTask env) c as := by
  constructor
  · intro h
    exact h.imp fun _ _ => namesParked_iff_raisesTask.mp
  · intro h
    exact h.imp fun _ _ => namesParked_iff_raisesTask.mpr

end Law

/-! ## Two sessions and one deal -/

/-- A deal of the tenant, for the customer whom both booking forms name. -/
def raoDeal : Deal :=
  { numberedDeal with
    tenantId := 1
    bookingNumber := "BK-1"
    customerName := some "Asha Rao"
    model := some "Nexon" }

/-- A session of another consultant. -/
def secondSession : Session := { claimedSession with id := 8, contactId := 12 }

/-- Both sessions are claimed, and the deal exists. -/
def raoDb : Db :=
  { Db.empty with
    sessions := ⟨[claimedSession, secondSession], by decide⟩
    deals := .singleton raoDeal }

/-- The row of a booking form with a number of its own. -/
def raoForm (number : String) : RowMapping :=
  let facts : Json := .obj [("BOOKING_NUMBER", .str number), ("CUSTOMER_NAME", .str "Asha Rao"),
    ("MODEL", .str "Nexon")]
  { polledBookingForm with diFacts := some facts }.select [.id, .state, .documentTypeKey, .diFacts]

/-- The run of one session on its booking form. -/
def raoRun (sessionId reviewId : UUID) (number : String) : ReviewAction :=
  .deal (.session sessionId [raoForm number] { idleInput with reviewId := reviewId } false)

/-- The sessions match the same deal, one after the other. -/
def raoRuns : List ReviewAction := [raoRun 7 21 "BK-7", raoRun 8 22 "BK-8"]

def raoStart : DealRuns := ⟨⟨raoDb, [.processSession 7, .processSession 8]⟩, [], []⟩

instance (db : Db) (sessionId : UUID) : Decidable (NamedByOpenTask db sessionId) :=
  inferInstanceAs (Decidable (∃ t ∈ db.reviewTasks.rows, t.state = .open ∧
    t.detail = some ("session:" ++ uuidStr sessionId)))

instance (db : Db) (sessionId : UUID) : Decidable (AwaitsReview db sessionId) :=
  inferInstanceAs (Decidable (∃ s ∈ sessionById db sessionId, s.state = .parked ∧
    s.note = some "deal_ambiguous"))

instance (env : Env) (db : Db) (inp : SessionInput) (sessionId : UUID) (files : List RowMapping) :
    Decidable (ParksAmbiguous env db inp sessionId files) :=
  inferInstanceAs (Decidable (_ ∧ _))

instance (env : Env) : (c : DealRuns) → (a : ReviewAction) → Decidable (NamesParked env c a)
  | _, .deal (.session ..) => inferInstanceAs (Decidable (_ → _))
  | _, .deal (.other _) => inferInstanceAs (Decidable True)
  | _, .settle .. => inferInstanceAs (Decidable True)

/-- The second session is parked without a review task. -/
theorem second_session_unreviewed :
    ((run (reviewStep (.ofRecording "s" [])) raoStart raoRuns).map fun c =>
        (c.world.db.sessions.rows.map fun s => (s.state, s.note),
          c.world.db.reviewTasks.rows.map fun t => (t.dealId, t.detail))) =
      some ([(.parked, some "deal_ambiguous"), (.parked, some "deal_ambiguous")],
        [(some 10, some ("session:" ++ uuidStr 7))]) ∧
      ¬ Meets (reviewStep (.ofRecording "s" [])) (NamesParked (.ofRecording "s" [])) raoStart
        raoRuns := by
  constructor
  · decide +kernel
  · decide +kernel

end WaService
