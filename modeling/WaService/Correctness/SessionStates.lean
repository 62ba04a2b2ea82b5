import WaService.Core.Run
import WaService.Correctness.Evolution
import WaService.Correctness.SessionOutcome
import WaService.System.SessionOps

/-!
# The session state machine

Claiming, confirming, parking and escalating a session are guarded by its state. Marking it
complete and parking it after a poll are not. As long as no poll parks a session that is complete
or cancelled, and no session is completed that is neither processing nor waiting for documents,
every change of a state is one of the state flow.
-/

namespace WaService

open Python Relational Transition

variable {env : Env} {db db' : Db}

/-- Complete and cancelled sessions are not worked on any more. -/
def SessionState.isTerminal : SessionState → Bool
  | .complete | .cancelled => true
  | _ => false

theorem SessionState.isTerminal_eq (s : SessionState) :
    s.isTerminal = (s == .complete || s == .cancelled) := by
  cases s with
  | _ => rfl

/-- The state flow. -/
inductive SessionState.Flows : SessionState → SessionState → Prop where
  | claim : Flows .collecting .processing
  | await : Flows .processing .confirmingDeal
  | confirm : Flows .confirmingDeal .gapsPending
  | complete {s : SessionState} (h : s = .processing ∨ s = .gapsPending) : Flows s .complete
  | setAside {s s' : SessionState} (h : s.isTerminal = false)
      (h' : s' = .parked ∨ s' = .escalated) : Flows s s'

/-- The same session, in its state or in one that follows it. -/
def Session.Moves (a b : Session) : Prop :=
  b.id = a.id ∧ (b.state = a.state ∨ a.state.Flows b.state)

/-- Every session lives on, and its state is kept or follows the flow. -/
def StatesFlow (db db' : Db) : Prop :=
  ∀ s ∈ db.sessions.rows, ∃ s' ∈ db'.sessions.rows, s.Moves s'

theorem SessionState.Flows.not_terminal {s s' : SessionState} (h : s.Flows s') :
    s.isTerminal = false := by
  cases h with
  | claim | await | confirm => rfl
  | complete h =>
    rcases h with rfl | rfl
    · rfl
    · rfl
  | setAside h => exact h

theorem SessionState.Flows.to_complete {s : SessionState} (h : s.Flows .complete) :
    s = .processing ∨ s = .gapsPending := by
  cases h with
  | complete h => exact h
  | setAside _ h' =>
    rcases h' with h' | h'
    · cases h'
    · cases h'

theorem Session.Moves.refl (s : Session) : s.Moves s := ⟨rfl, Or.inl rfl⟩

/-! ## Statements -/

theorem statesFlow_of_sessions (h : db'.sessions = db.sessions) : StatesFlow db db' :=
  fun s hs => ⟨s, h ▸ hs, .refl s⟩

theorem statesFlow_of_frame {db₁ : Db} (h : db' = db₁) (hs : db₁.sessions = db.sessions) :
    StatesFlow db db' := statesFlow_of_sessions (h ▸ hs)

/-- An update moves the sessions that it selects. -/
theorem updateSessions_flow {p : Session → Bool} {f : Session → Session}
    (hf : ∀ s, p s = true → (f s).id = s.id ∧ (f s).contactId = s.contactId ∧
      ((f s).state.isOpen = true → s.state.isOpen = true))
    (h : ∀ s ∈ db.sessions.rows, p s = true → s.Moves (f s)) :
    StatesFlow db (db.updateSessions p f hf) := by
  intro s hs
  refine ⟨patch p f s, List.mem_map.mpr ⟨s, hs, rfl⟩, ?_⟩
  unfold patch
  split
  · exact h s hs ‹_›
  · exact .refl s

theorem parkSession_flow (sessionId : UUID) (note : String) :
    StatesFlow db (parkSession db sessionId note) := by
  refine updateSessions_flow _ fun s _ hsel => ⟨rfl, Or.inr (.setAside ?_ (Or.inl rfl))⟩
  rw [SessionState.isTerminal_eq]
  simpa using (Bool.and_eq_true_iff.mp hsel).2

theorem escalateSession_flow (sessionId : UUID) (note : String) :
    StatesFlow db (escalateSession db sessionId note) := by
  refine updateSessions_flow _ fun s _ hsel => ⟨rfl, Or.inr (.setAside ?_ (Or.inr rfl))⟩
  have hguard := (Bool.and_eq_true_iff.mp hsel).2
  rw [Bool.not_eq_true', Bool.or_eq_false_iff] at hguard
  rw [SessionState.isTerminal_eq]
  exact hguard.1

theorem confirmSessionDeal_flow (now : Timestamp) (sessionId : UUID) :
    StatesFlow db (confirmSessionDeal db now sessionId) := by
  refine updateSessions_flow _ fun s _ hsel => ⟨rfl, Or.inr ?_⟩
  have hstate : s.state = .confirmingDeal := by simpa using (Bool.and_eq_true_iff.mp hsel).2
  rw [hstate]
  exact .confirm

theorem parkOnDiSla_flow {sessionId : UUID} {note : String}
    (h : ∀ s ∈ db.sessions.rows, s.id = sessionId → s.state.isTerminal = false) :
    StatesFlow db (parkOnDiSla db sessionId note) :=
  updateSessions_flow _ fun s hs hsel =>
    ⟨rfl, Or.inr (.setAside (h s hs (by simpa using hsel)) (Or.inl rfl))⟩

theorem markComplete_flow (db : Db) {now : Timestamp} {s : Session} (hs : s ∈ db.sessions.rows)
    (h : s.state = .processing ∨ s.state = .gapsPending ∨ s.state = .complete) :
    StatesFlow db (markComplete db now s.id) := by
  refine updateSessions_flow _ fun t ht hsel => ⟨rfl, ?_⟩
  obtain rfl : t = s := session_eq_of_id ht hs (by simpa using hsel)
  rcases h with hprocessing | hgaps | hcomplete
  · exact Or.inr (.complete (Or.inl hprocessing))
  · exact Or.inr (.complete (Or.inr hgaps))
  · exact Or.inl hcomplete.symm

theorem transitionToConfirming_flow (db : Db) (now : Timestamp) (sessionId dealId : UUID) :
    StatesFlow db (transitionToConfirming db now sessionId dealId) := by
  refine updateSessions_flow _ fun s _ hsel => ⟨rfl, Or.inr ?_⟩
  have hstate : s.state = .processing := by simpa using (Bool.and_eq_true_iff.mp hsel).2
  rw [hstate]
  exact .await

theorem claimSessionsForFlush_flow (now : Timestamp) (limit : Nat) :
    StatesFlow db (claimSessionsForFlush db now limit).2 := by
  simp only [claimSessionsForFlush]
  refine updateSessions_flow _ fun s _ hsel => ⟨rfl, Or.inr ?_⟩
  have hstate : s.state = .collecting := by
    simp only [flushable, Bool.and_eq_true, beq_iff_eq] at hsel
    exact hsel.1.1
  rw [hstate]
  exact .claim

/-! ## Tasks -/

/-- The columns of a session that an inbox task leaves alone. -/
def Session.standing (s : Session) : UUID × SessionState := (s.id, s.state)

theorem processInboxRow_flow (inp : InboxInput) (inboxId : Nat) :
    StatesFlow db (processInboxRow env db inp inboxId).db := by
  have hkept : Table.Evolves (Keeping Session.standing) (fun _ => True) db.sessions
      (processInboxRow env db inp inboxId).db.sessions := by
    refine processInboxRow_preserves
      (P := fun d =>
        Table.Evolves (Keeping Session.standing) (fun _ => True) db.sessions d.sessions)
      ?_ (fun _ _ _ hd _ _ => hd) ?_ (fun _ _ _ hd => hd) (.refl_keeping _) inboxId
    · intro d tenantId contactId orgUnitId sessions hd hins
      exact hd.trans_keeping (.insert (fun _ => rfl) hins trivial) fun _ _ _ _ => trivial
    · intro d sessionId hd
      have hkeeps : Table.Keeps (collects sessionId) (Session.arrive inp.now 0) :=
        Session.keeps fun _ _ => ⟨rfl, rfl, id⟩
      have harrived : Table.Evolves (Keeping Session.standing) (fun _ => True) d.sessions
          (recordFileArrival d inp.now sessionId 0).sessions :=
        .update_keeping hkeeps (fun _ => rfl) d.sessions
      exact hd.trans_keeping harrived fun _ _ _ _ => trivial
  intro s hs
  obtain ⟨s', hs', hsame⟩ := hkept.kept s hs
  have hid : s'.id = s.id := congrArg Prod.fst hsame
  have hstate : s'.state = s.state := congrArg Prod.snd hsame
  exact ⟨s', hs', hid, Or.inl hstate⟩

/-- The poll ends its chain without a terminal status. -/
def PollCalls.parks (calls : PollCalls) (job : PollJob) : Bool :=
  job.scheduleIn.isNone &&
    match calls.pollEvidenceStatus with
    | .raised => false
    | .failed _ retryable => !retryable || decide (maxDiPollAttempts - 1 ≤ job.attempt)
    | .ok result => !result.isTerminal && decide (maxDiPollAttempts - 1 ≤ job.attempt)

theorem nudgeFlush_flow (db : Db) (now : Timestamp) (sessionId : UUID) :
    StatesFlow db (nudgeFlush db now sessionId) := by
  unfold nudgeFlush
  split
  · exact updateSessions_flow _ fun s _ _ => ⟨rfl, Or.inl rfl⟩
  · exact statesFlow_of_sessions rfl

theorem concludePoll_flow (calls : PollCalls) (job : PollJob) (result : DiPollResult) :
    StatesFlow db (concludePoll env db calls job result).db := by
  obtain hsame | ⟨typeKey, facts, htyped | ⟨satisfied, hsat, hnudged⟩⟩ :=
    concludePoll_cases env db calls job result
  · rw [hsame]
    exact statesFlow_of_sessions rfl
  · rw [htyped]
    exact statesFlow_of_sessions rfl
  · obtain ⟨items, rfl⟩ := satisfyLinkedDeal_frame hsat
    rw [hnudged]
    exact nudgeFlush_flow { recordType db job.fileId typeKey facts with checklistItems := items }
      calls.now job.sessionId

/-- A poll parks its session or keeps every state. -/
theorem pollDiDocument_flow {calls : PollCalls} {job : PollJob}
    (h : calls.parks job = true →
      ∀ s ∈ db.sessions.rows, s.id = job.sessionId → s.state.isTerminal = false) :
    StatesFlow db (pollDiDocument env db calls job).db := by
  have hsame : StatesFlow db db := statesFlow_of_sessions rfl
  unfold PollCalls.parks at h
  unfold pollDiDocument
  split
  · exact hsame
  · rename_i hfresh
    simp only [hfresh, Option.isNone_none, Bool.true_and] at h
    simp only
    split
    · exact hsame
    · rename_i code retryable hpoll
      simp only [hpoll] at h
      split
      · exact parkOnDiSla_flow (h ‹_›)
      · rw [reschedulePoll_db]
        exact hsame
    · rename_i result hpoll
      simp only [hpoll] at h
      split
      · exact concludePoll_flow calls job result
      · rename_i hrunning
        split
        · rename_i hexhausted
          exact parkOnDiSla_flow (h (Bool.and_eq_true_iff.mpr ⟨by simp [hrunning], hexhausted⟩))
        · rw [reschedulePoll_db]
          exact hsame

/-- The run completes the session when it commits: the session has no files, and the deal that has
its number has a complete checklist. -/
def Completes (db : Db) (s : Session) : Prop :=
  getSessionFiles db s.id = [] ∧ ∃ d, dealOfSession db s = some d ∧ ChecklistComplete db d.id

theorem processSession_flow {inp : SessionInput} {sessionId : UUID}
    (h : ∀ s, sessionById db sessionId = some s → Completes db s →
      s.state = .processing ∨ s.state = .gapsPending ∨ s.state = .complete) :
    StatesFlow db (processSession env db inp sessionId).db := by
  obtain hsame | ⟨s, db', hs, htx, hdb⟩ := processSession_cases env db inp sessionId
  · rw [hsame]
    exact statesFlow_of_sessions rfl
  · rw [hdb]
    have hmem : s ∈ db.sessions.rows := List.mem_of_find?_eq_some hs
    obtain ⟨note, -, rfl⟩ | ⟨hfiles, ⟨d, hmatched⟩ | ⟨d, hcreated⟩⟩ :=
      sessionTransaction_cases htx
    · exact parkSession_flow s.id note
    · by_cases hcomplete : ChecklistComplete db d.id
      · obtain ⟨outbox, rfl⟩ := hmatched.completed hcomplete
        have hstate := h s hs ⟨hfiles, d, hmatched.found, hcomplete⟩
        exact markComplete_flow (confirmDeal db inp.now s.tenantId d.id s.contactId) hmem hstate
      · obtain ⟨outbox, rfl⟩ := hmatched.left hcomplete
        exact statesFlow_of_sessions rfl
    · obtain ⟨deals, items, outbox, -, -, rfl⟩ := hcreated.written
      exact transitionToConfirming_flow { db with deals := deals, checklistItems := items }
        inp.now s.id d.id

/-! ## Steps and runs -/

/-- No poll parks a session that is complete or cancelled, and no session is completed that is
neither processing nor waiting for documents. -/
def Guarded (w : World) : SessionAction → Prop
  | .world (.execute (.pollDiDocument args calls) _) => calls.parks args = true →
    ∀ s ∈ w.db.sessions.rows, s.id = args.sessionId → s.state.isTerminal = false
  | .world (.execute (.processSession sessionId _) _) =>
    ∀ s, sessionById w.db sessionId = some s → Completes w.db s →
      s.state = .processing ∨ s.state = .gapsPending ∨ s.state = .complete
  | _ => True

/-- Whatever the step changes of a state follows the flow. -/
def FollowsFlow (env : Env) (w : World) (a : SessionAction) : Prop :=
  ∀ w', sessionStep env w a = some w' → StatesFlow w.db w'.db

theorem worldStep_flow {w w' : World} {a : Action} (hg : Guarded w (.world a))
    (h : worldStep env w a = some w') : StatesFlow w.db w'.db := by
  obtain hkept | ⟨now, deferOk, -, hdb⟩ | ⟨e, redelivered, rfl, hdb⟩ := worldStep_cases h
  · exact statesFlow_of_sessions hkept.sessions
  · rw [hdb]
    exact claimSessionsForFlush_flow now 50
  · rw [hdb]
    cases e with
    | processInboxRow inboxId inp => exact processInboxRow_flow inp inboxId
    | fetchAndStoreFile args calls =>
      obtain ⟨files, hfiles⟩ := fetchAndStoreFile_frame w.db calls args
      exact statesFlow_of_frame hfiles rfl
    | pollDiDocument args calls => exact pollDiDocument_flow hg
    | processSession sessionId inp => exact processSession_flow hg

/-- A guarded step follows the flow. -/
theorem Guarded.followsFlow {w : World} {a : SessionAction} (hg : Guarded w a) :
    FollowsFlow env w a := by
  intro w' h
  cases a with
  | world a => exact worldStep_flow hg h
  | park sessionId note =>
    cases h
    exact parkSession_flow sessionId note
  | escalate sessionId note =>
    cases h
    exact escalateSession_flow sessionId note
  | confirm now sessionId =>
    cases h
    exact confirmSessionDeal_flow now sessionId

/-- The session is there, in a terminal state. -/
def EndedIn (sessionId : UUID) (state : SessionState) (w : World) : Prop :=
  ∃ s ∈ w.db.sessions.rows, s.id = sessionId ∧ s.state = state

theorem EndedIn.step {sessionId : UUID} {state : SessionState} (hterminal : state.isTerminal = true)
    {w w' : World} {a : SessionAction} (h : EndedIn sessionId state w) (hg : Guarded w a)
    (hs : sessionStep env w a = some w') : EndedIn sessionId state w' := by
  obtain ⟨s, hmem, hid, hstate⟩ := h
  obtain ⟨s', hmem', hid', hkept | hflow⟩ := hg.followsFlow w' hs s hmem
  · exact ⟨s', hmem', hid'.trans hid, hkept.trans hstate⟩
  · have hnot := hflow.not_terminal
    rw [hstate, hterminal] at hnot
    cases hnot

/-- In every run whose steps are guarded every change of a state follows the flow, and a session
that is complete or cancelled stays so. -/
theorem session_states_flow (env : Env) {start : World} {as : List SessionAction}
    (hg : Meets (sessionStep env) Guarded start as) :
    Meets (sessionStep env) (FollowsFlow env) start as ∧
      ∀ w, run (sessionStep env) start as = some w → ∀ s ∈ start.db.sessions.rows,
        s.state = .complete ∨ s.state = .cancelled →
          ∃ s' ∈ w.db.sessions.rows, s'.id = s.id ∧ s'.state = s.state := by
  refine ⟨hg.imp fun _ _ hstep => hstep.followsFlow, fun w hw s hs hended => ?_⟩
  have hterminal : s.state.isTerminal = true := by
    rcases hended with hcomplete | hcancelled
    · rw [hcomplete]
      rfl
    · rw [hcancelled]
      rfl
  exact run_preserves_of_meets (EndedIn s.id s.state)
    (fun _ _ _ h hstep hs => h.step hterminal hstep hs) hw hg ⟨s, hs, rfl, rfl⟩

/-! ## A session that is confirmed, and two that leave the flow -/

/-- The session without files gets its deal, the deal is confirmed, and the session escalated. -/
def confirmedRun : List SessionAction :=
  [.world (.execute (.processSession 7 idleInput) false), .confirm 5 7, .escalate 7 "idle"]

/-- The states of the sessions. -/
def World.standings (w : World) : List (UUID × SessionState) :=
  w.db.sessions.rows.map Session.standing

/-- Processing, confirming, waiting for documents, escalated: every change follows the flow. -/
theorem session_states_flow_confirmed :
    ∃ w, run (sessionStep (.ofRecording "s" [])) ⟨idleDb, [.processSession 7]⟩ confirmedRun =
        some w ∧
      w.standings = [(7, .escalated)] ∧
      Meets (sessionStep (.ofRecording "s" [])) (FollowsFlow (.ofRecording "s" []))
        ⟨idleDb, [.processSession 7]⟩ confirmedRun := by
  have hrun : (run (sessionStep (.ofRecording "s" [])) ⟨idleDb, [.processSession 7]⟩
      confirmedRun).map World.standings = some [(7, .escalated)] := by decide +kernel
  obtain ⟨w, hw, hview⟩ := Option.map_eq_some_iff.mp hrun
  have hg : Meets (sessionStep (.ofRecording "s" [])) Guarded ⟨idleDb, [.processSession 7]⟩
      confirmedRun := by
    have hfound : sessionById idleDb 7 = some idleSession := rfl
    refine ⟨fun s hs _ => Or.inl ?_, fun _ _ => ⟨trivial, fun _ _ => ⟨trivial, fun _ _ => trivial⟩⟩⟩
    obtain rfl : idleSession = s := Option.some.inj (hfound.symm.trans hs)
    rfl
  exact ⟨w, hw, hview, (session_states_flow (.ofRecording "s" []) hg).1⟩

theorem not_statesFlow {s : Session} {state : SessionState} {w : World}
    (hs : s ∈ db.sessions.rows) (hview : w.standings = [(s.id, state)]) (hne : state ≠ s.state)
    (hnot : ¬ s.state.Flows state) : ¬ StatesFlow db w.db := by
  intro hflow
  obtain ⟨s', hs', -, hmove⟩ := hflow s hs
  have hmem : s'.standing ∈ w.standings := List.mem_map.mpr ⟨s', hs', rfl⟩
  rw [hview, List.mem_singleton] at hmem
  have hstate : s'.state = state := congrArg Prod.snd hmem
  rw [hstate] at hmove
  rcases hmove with hkept | hflows
  · exact hne hkept
  · exact hnot hflows

/-- A completed session whose booking form has a poll left. -/
def completedSession : Session := { claimedSession with state := .complete }

/-- Its database. -/
def completedDb : Db := { extractedDb with sessions := .singleton completedSession }

/-- The late poll: audit-core does not know the evidence. -/
def lateJob : PollJob := ⟨8, 7, 1, 4, 9, 0, none⟩

/-- The late poll is executed. -/
def latePoll : SessionAction :=
  .world (.execute (.pollDiDocument lateJob ⟨0, .failed "EVIDENCE_NOT_FOUND" false, .raised, true⟩)
    false)

/-- A parked session without files, whose number a deal has that lacks nothing. -/
def setAsideSession : Session := { idleSession with state := .parked }

/-- Its database. -/
def setAsideDb : Db :=
  { numberedDb with
    sessions := .singleton setAsideSession
    checklistItems := .singleton ⟨30, 10, "PAN", .blocking, true, some 31, 0⟩ }

/-- The message of a complete checklist is empty. -/
def briefCopy : Env := { Env.ofRecording "s" [] with copy := fun _ => [("gaps_complete", "")] }

/-- The parked session is processed. -/
def setAsideProcessed : SessionAction := .world (.execute (.processSession 7 idleInput) false)

/-- The late poll parks the completed session, and the session task completes the parked one. -/
theorem ended_sessions_change :
    (∃ w, sessionStep (.ofRecording "s" []) ⟨completedDb, [.pollDiDocument lateJob]⟩ latePoll =
        some w ∧ w.standings = [(7, .parked)] ∧ ¬ StatesFlow completedDb w.db) ∧
      ∃ w, sessionStep briefCopy ⟨setAsideDb, [.processSession 7]⟩ setAsideProcessed = some w ∧
        w.standings = [(7, .complete)] ∧ ¬ StatesFlow setAsideDb w.db := by
  have hlate : (sessionStep (.ofRecording "s" []) ⟨completedDb, [.pollDiDocument lateJob]⟩
      latePoll).map World.standings = some [(7, .parked)] := by decide +kernel
  have hprocessed : (sessionStep briefCopy ⟨setAsideDb, [.processSession 7]⟩
      setAsideProcessed).map World.standings = some [(7, .complete)] := by decide +kernel
  constructor
  · obtain ⟨w, hw, hview⟩ := Option.map_eq_some_iff.mp hlate
    have hmem : completedSession ∈ completedDb.sessions.rows := List.mem_singleton.mpr rfl
    refine ⟨w, hw, hview, not_statesFlow hmem hview (by decide) fun hflow => ?_⟩
    cases hflow.not_terminal
  · obtain ⟨w, hw, hview⟩ := Option.map_eq_some_iff.mp hprocessed
    have hmem : setAsideSession ∈ setAsideDb.sessions.rows := List.mem_singleton.mpr rfl
    refine ⟨w, hw, hview, not_statesFlow hmem hview (by decide) fun hflow => ?_⟩
    rcases hflow.to_complete with hprocessing | hgaps
    · cases hprocessing
    · cases hgaps

end WaService
