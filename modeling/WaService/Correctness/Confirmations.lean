import WaService.Correctness.PollEndings
import WaService.Correctness.SessionOutcome
import WaService.System.DealRuns
import WaService.System.Transactions

/-!
# Who confirms a deal

`process_session` confirms every deal whose booking number it finds, whoever created it and whether
or not a consultant has replied. A provisional deal waits for its reply exactly as long as no run
of a session finds it.
-/

namespace WaService

open Python Relational Transition

variable {env : Env} {db : Db} {c c' : DealRuns}

/-! ## Steps that leave the deals alone -/

theorem processInboxRow_deals (inp : InboxInput) (inboxId : Nat) :
    (processInboxRow env db inp inboxId).db.deals = db.deals := by
  refine processInboxRow_preserves (P := fun d => d.deals = db.deals) ?_ ?_ ?_ ?_ rfl inboxId
  · exact fun d tenantId contactId orgUnitId sessions hd _ => hd
  · exact fun d f files hd _ _ => hd
  · exact fun d sessionId hd => hd
  · exact fun d inboxId state hd => hd

theorem pollDiDocument_deals (calls : PollCalls) (job : PollJob) :
    (pollDiDocument env db calls job).db.deals = db.deals := by
  cases hrecorded : recordedAnswer env calls job with
  | none =>
    rw [pollDiDocument_unrecorded db hrecorded]
    split
    · rfl
    · rfl
  | some answer =>
    obtain ⟨result, typeKey, facts⟩ := answer
    rw [pollDiDocument_recorded db hrecorded]
    split
    · rfl
    · rename_i satisfied hsatisfied
      obtain ⟨items, rfl⟩ := satisfyLinkedDeal_frame hsatisfied
      exact nudgeFlush_deals _ _ _

/-- Only the session task writes deals. -/
theorem worldStep_deals {w w' : World} {a : Action} (ha : a.isSession = false)
    (h : worldStep env w a = some w') : w'.db.deals = w.db.deals := by
  obtain hkept | ⟨now, deferOk, -, hdb⟩ | ⟨e, redelivered, rfl, hdb⟩ := worldStep_cases h
  · exact hkept.deals
  · rw [hdb]
    rfl
  · rw [hdb]
    cases e with
    | processInboxRow inboxId inp => exact processInboxRow_deals inp inboxId
    | fetchAndStoreFile args calls =>
      obtain ⟨files, hfiles⟩ := fetchAndStoreFile_frame w.db calls args
      simp only [Execution.result, hfiles]
    | pollDiDocument args calls => exact pollDiDocument_deals calls args
    | processSession sessionId inp => cases ha

/-! ## The law -/

/-- The reply that confirms the deal of the session has been processed. -/
def DealRuns.Replied (c : DealRuns) (sessionId : UUID) : Prop := confirmButton sessionId ∈ c.replies

/-- A deal that a session has created is provisional until the session's reply is processed. -/
def ConfirmedByReply (c : DealRuns) : Prop :=
  ∀ dealId sessionId, (dealId, sessionId) ∈ c.created → ∀ d ∈ c.world.db.deals.rows,
    d.id = dealId → d.state = .provisional ∨ c.Replied sessionId

/-- A session does not find a provisional deal by its booking number while the reply of the session
that created the deal is missing. -/
def FindsNoUnconfirmed (env : Env) (c : DealRuns) : DealAction → Prop
  | .session sessionId files _ _ => ∀ s d creator, sessionById c.world.db sessionId = some s →
      ExactMatch env c.world.db s files d → d.state = .provisional → (d.id, creator) ∈ c.created →
        c.Replied creator
  | .other _ => True

theorem ExactMatch.mem {s : Session} {files : List RowMapping} {d : Deal}
    (h : ExactMatch env db s files d) : d ∈ db.deals.rows := by
  obtain ⟨fields, number, -, -, hd⟩ := h
  exact (dealOfBooking_some hd).1

theorem deal_eq_of_id {d e : Deal} (hd : d ∈ db.deals.rows) (he : e ∈ db.deals.rows)
    (h : d.id = e.id) : d = e :=
  Table.eq_of_clash hd he (by simp [clash, sameKey, h])

/-- The deals that a run has inserted are new rows. -/
theorem mem_insertedDeals {before after : Db} {dealId : UUID} :
    dealId ∈ insertedDeals before after ↔
      (∃ d ∈ after.deals.rows, d.id = dealId) ∧ ∀ d ∈ before.deals.rows, d.id ≠ dealId := by
  unfold insertedDeals
  simp only [List.mem_map, List.mem_filter, Bool.not_eq_true', List.any_eq_false, beq_iff_eq]
  constructor
  · rintro ⟨d, ⟨hd, hnew⟩, rfl⟩
    exact ⟨⟨d, hd, rfl⟩, fun old hold => by simpa using hnew old hold⟩
  · rintro ⟨⟨d, hd, rfl⟩, hnew⟩
    exact ⟨d, ⟨hd, fun old hold => by simpa using hnew old hold⟩, rfl⟩

/-- A deal after a confirmation was there before, or is the provisional one that is confirmed. -/
theorem confirmDeal_source {now : Timestamp} {tenantId dealId confirmedBy : UUID} {d' : Deal}
    (h : d' ∈ (confirmDeal db now tenantId dealId confirmedBy).deals.rows) :
    d' ∈ db.deals.rows ∨ ∃ d ∈ db.deals.rows, d.id = dealId ∧ d.state = .provisional ∧
      d'.id = d.id := by
  simp only [confirmDeal, Db.updateDeals, Table.mem_update] at h
  obtain ⟨d, hd, hpatch⟩ := h
  unfold patch at hpatch
  split at hpatch
  · rename_i hselected
    simp only [Bool.and_eq_true, beq_iff_eq] at hselected
    subst hpatch
    exact Or.inr ⟨d, hd, hselected.1.2, hselected.2, rfl⟩
  · subst hpatch
    exact Or.inl hd

/-- After a run each deal is provisional or as it was, or it is the deal that the run has found. -/
theorem processSessionOn_confirms (env : Env) (db : Db) (inp : SessionInput) (sessionId : UUID)
    (files : List RowMapping) :
    ∀ d' ∈ (processSessionOn env db inp sessionId files).db.deals.rows,
      d'.state = .provisional ∨ d' ∈ db.deals.rows ∨
        ∃ s d, sessionById db sessionId = some s ∧ ExactMatch env db s files d ∧
          d.state = .provisional ∧ d.id = d'.id := by
  intro d' hd'
  obtain hsame | ⟨d, hprovisional, hins⟩ | ⟨s, d, hs, hmatch, hconfirmed⟩ :=
    processSessionOn_deals env db inp sessionId files
  · rw [hsame] at hd'
    exact Or.inr (Or.inl hd')
  · rcases (Table.mem_of_insert? hins).mp hd' with hold | rfl
    · exact Or.inr (Or.inl hold)
    · exact Or.inl hprovisional
  · rw [hconfirmed] at hd'
    rcases confirmDeal_source hd' with hold | ⟨old, hold, hid, hprovisional, hsame⟩
    · exact Or.inr (Or.inl hold)
    · obtain rfl : old = d := deal_eq_of_id hold hmatch.mem hid
      exact Or.inr (Or.inr ⟨s, old, hs, hmatch, hprovisional, hsame.symm⟩)

theorem dealStep_confirmed {a : DealAction} (hinv : ConfirmedByReply c)
    (hfinds : FindsNoUnconfirmed env c a) (h : dealStep env c a = some c') :
    ConfirmedByReply c' := by
  cases a with
  | other a =>
    simp only [dealStep] at h
    split at h
    · cases h
    · rename_i hother
      obtain ⟨w, hw, rfl⟩ := Option.map_eq_some_iff.mp h
      have hdeals := worldStep_deals (Bool.eq_false_of_not_eq_true hother) hw
      intro dealId sessionId hcreated d hd hid
      simp only [hdeals] at hd
      exact (hinv dealId sessionId hcreated d hd hid).imp id (List.mem_append_right _)
  | session sessionId files inp redelivered =>
    simp only [dealStep] at h
    split at h
    · cases h
      intro dealId creator hcreated d' hd' hid
      -- A deal that was there before the run was created before it.
      have hbefore : ∀ d ∈ c.world.db.deals.rows, d.id = dealId →
          (dealId, creator) ∈ c.created := by
        intro d hd hsame
        rcases List.mem_append.mp hcreated with hnew | hold
        · obtain ⟨dealId', hinserted, heq⟩ := List.mem_map.mp hnew
          cases heq
          exact absurd hsame ((mem_insertedDeals.mp hinserted).2 d hd)
        · exact hold
      obtain hprovisional | hold | ⟨s, d, hs, hmatch, hprovisional, hsame⟩ :=
        processSessionOn_confirms env c.world.db inp sessionId files d' hd'
      · exact Or.inl hprovisional
      · exact hinv dealId creator (hbefore d' hold hid) d' hold hid
      · have hdeal : d.id = dealId := hsame.trans hid
        exact Or.inr (hfinds s d creator hs hmatch hprovisional
          (hdeal ▸ hbefore d hmatch.mem hdeal))
    · cases h

/-- In every run in which no session finds an unconfirmed deal, the deals that sessions have created
are provisional until the replies of their sessions are processed. -/
theorem deals_confirmed_by_reply (env : Env) {w : World} {replies : List String} {c : DealRuns}
    {as : List DealAction} (h : run (dealStep env) ⟨w, [], replies⟩ as = some c)
    (hfinds : Meets (dealStep env) (FindsNoUnconfirmed env) ⟨w, [], replies⟩ as) :
    ∀ dealId sessionId, (dealId, sessionId) ∈ c.created → ∀ d ∈ c.world.db.deals.rows,
      d.id = dealId → d.state = .provisional ∨ c.Replied sessionId := by
  have hstart : ConfirmedByReply ⟨w, [], replies⟩ :=
    fun dealId sessionId hcreated => absurd hcreated List.not_mem_nil
  exact run_preserves_of_meets ConfirmedByReply (fun c a c' => dealStep_confirmed) h hfinds hstart

/-! ## A session that runs twice -/

/-- The session task of the consultant is in the queue. -/
def idleWorld : World := ⟨idleDb, [.processSession 7]⟩

/-- A run of the task on the files of the session. -/
def idleSessionRun (inp : SessionInput) (redelivered : Bool) : DealAction :=
  .session 7 (getSessionFiles idleDb 7) inp redelivered

/-- One run creates a deal that waits for its reply. -/
theorem first_run_awaits_reply :
    ∃ c, run (dealStep (.ofRecording "s" [])) ⟨idleWorld, [], []⟩
        [idleSessionRun idleInput false] = some c ∧
      ∀ dealId sessionId, (dealId, sessionId) ∈ c.created → ∀ d ∈ c.world.db.deals.rows,
        d.id = dealId → d.state = .provisional ∨ c.Replied sessionId := by
  have hruns : (run (dealStep (.ofRecording "s" [])) ⟨idleWorld, [], []⟩
      [idleSessionRun idleInput false]).isSome = true := by decide +kernel
  obtain ⟨c, hc⟩ := Option.isSome_iff_exists.mp hruns
  refine ⟨c, hc, deals_confirmed_by_reply _ hc ⟨?_, fun _ _ => trivial⟩⟩
  intro s d creator _ hmatch
  exact absurd hmatch.mem List.not_mem_nil

/-- The second run finds the deal of the first one and confirms it, with no reply processed. -/
theorem rerun_confirms_deal :
    (run (dealStep (.ofRecording "s" [])) ⟨idleWorld, [], []⟩
      [idleSessionRun idleInput true,
        idleSessionRun { idleInput with outboxId := 2 } false]).map
        (fun c => (c.created, c.world.db.deals.rows.map fun d => (d.id, d.state), c.replies)) =
      some ([(11, 7)], [(11, .confirmed)], []) := by
  decide +kernel

end WaService
