import WaService.Correctness.DealReadiness
import WaService.System.PollChain

/-!
# How a chain of polls ends

A run that is not the last one defers the next poll with a keyword argument that the task does
not take, so a chain has one poll. It concludes when the first answer already decides: audit-core
refuses the evidence for good, or reports a terminal status that can be persisted.
-/

namespace WaService

open Python Relational

variable {env : Env} {answers : Nat → HttpAnswer} {now : Nat → Timestamp}

/-! ## Answers that decide -/

/-- The answer is neither a network error, nor a server error, nor a body to decode. -/
def HttpAnswer.Refuses : HttpAnswer → Prop
  | .networkError => False
  | .response status body => status < 500 ∧ (status = 200 → body = none)

/-- The answer gives the evidence a terminal status and a document type. -/
def HttpAnswer.Reports (status : String) (key : Json) : HttpAnswer → Prop
  | .response code (some body) => code = 200 ∧ status ∈ terminalStatuses ∧
    body.get "processingStatus" .null = .ok (.str status) ∧
    body.get "documentTypeKey" .null = .ok key
  | _ => False

/-- The body is a list. -/
def HttpAnswer.Lists : HttpAnswer → Prop
  | .response code (some (.arr _)) => code = 200
  | _ => False

/-- The answer reports a document type that can be stored; when it confirms a booking form, the
answer about its facts is not a list. -/
def HttpAnswer.Settles (env : Env) (a facts : HttpAnswer) : Prop :=
  ∃ status key, a.Reports status key ∧ (sqlText env key).isOk = true ∧
    ((key.eqStr "BOOKING_FORM" && isConfirmed (.str status)) = true → ¬ facts.Lists)

theorem HttpAnswer.Refuses.failed {a : HttpAnswer} (h : a.Refuses) :
    ∃ code, pollEvidenceStatus a = .failed code false := by
  cases a with
  | networkError => exact h.elim
  | response status body =>
    obtain ⟨hlt, hbody⟩ := h
    simp only [pollEvidenceStatus]
    split
    · rename_i hok
      rw [hbody hok]
      exact ⟨_, rfl⟩
    · split
      · exact ⟨_, rfl⟩
      · rw [decide_eq_false (Nat.not_le.mpr hlt)]
        exact ⟨_, rfl⟩

/-- The poll fails for good only when the answer refuses. -/
theorem HttpAnswer.refuses_of_failed {a : HttpAnswer} {code : String}
    (h : pollEvidenceStatus a = .failed code false) : a.Refuses := by
  cases a with
  | networkError => cases h
  | response status body =>
    simp only [pollEvidenceStatus] at h
    split at h
    · rename_i hok
      cases body with
      | none => exact ⟨by omega, fun _ => rfl⟩
      | some body =>
        have hbody : PollOutcome.ofBody (evidenceOf body) = .failed code false := h
        cases hread : evidenceOf body with
        | ok result =>
          rw [hread] at hbody
          cases hbody
        | error e =>
          rw [hread] at hbody
          rcases evidenceOf_error hread with rfl | rfl
          · cases hbody
          · cases hbody
    · rename_i hne
      split at h
      · exact ⟨by omega, fun hok => absurd hok hne⟩
      · have hlt : decide (500 ≤ status) = false := (PollOutcome.failed.inj h).2
        exact ⟨Nat.not_le.mp (of_decide_eq_false hlt), fun hok => absurd hok hne⟩

theorem HttpAnswer.Reports.polled {a : HttpAnswer} {status : String} {key : Json}
    (h : a.Reports status key) : pollEvidenceStatus a = .ok ⟨.str status, key, true⟩ := by
  cases a with
  | networkError => exact h.elim
  | response code body =>
    cases body with
    | none => exact h.elim
    | some body =>
      obtain ⟨rfl, hterminal, hstatus, hkey⟩ := h
      have htruthy : (Json.str status).truthy = true := by
        simp only [terminalStatuses, List.mem_cons, List.not_mem_nil, or_false] at hterminal
        rcases hterminal with rfl | rfl | rfl | rfl
        all_goals rfl
      have hin : inTerminalStatuses (.str status) = .ok true := by
        simp only [inTerminalStatuses, Except.ok.injEq, List.any_eq_true]
        exact ⟨status, hterminal, by simp [Json.eqStr]⟩
      have hread : evidenceOf body = .ok ⟨.str status, key, true⟩ := by
        refine bind_eq_ok.mpr ⟨.str status, hstatus, bind_eq_ok.mpr ⟨key, hkey, ?_⟩⟩
        rw [if_pos htruthy]
        exact bind_eq_ok.mpr ⟨true, hin, rfl⟩
      have hpoll : pollEvidenceStatus (.response 200 (some body)) =
          .ofBody (evidenceOf body) := rfl
      rw [hpoll, hread]
      rfl

/-- A terminal result comes from an answer that reports it. -/
theorem HttpAnswer.reports_of_polled {a : HttpAnswer} {result : DiPollResult}
    (h : pollEvidenceStatus a = .ok result) (hterminal : result.isTerminal = true) :
    ∃ status, result = ⟨.str status, result.documentTypeKey, true⟩ ∧
      a.Reports status result.documentTypeKey := by
  cases a with
  | networkError => cases h
  | response code body =>
    simp only [pollEvidenceStatus] at h
    split at h
    · rename_i hok
      cases body with
      | none => cases h
      | some body =>
        have hbody : PollOutcome.ofBody (evidenceOf body) = .ok result := h
        cases hread : evidenceOf body with
        | error e =>
          rw [hread] at hbody
          rcases evidenceOf_error hread with rfl | rfl
          · cases hbody
          · cases hbody
        | ok read =>
          rw [hread] at hbody
          cases hbody
          obtain ⟨given, hgiven, hkey, hstatus, hin⟩ := evidenceOf_ok hread
          rw [hterminal] at hin
          obtain ⟨status, hmem, hstr⟩ := inTerminalStatuses_true hin
          refine ⟨status, ?_, hok, hmem, ?_, hkey⟩
          · obtain ⟨processingStatus, key, terminal⟩ := result
            cases hterminal
            cases hstr
            rfl
          · rw [hstr] at hstatus
            split at hstatus
            · rw [hgiven, hstatus]
            · cases hstatus
              simp [terminalStatuses] at hmem
    · split at h
      · cases h
      · cases h

/-- The booking facts are empty or cannot be read, and they cannot be read from a list. -/
theorem fetchBookingFields_cases (a : HttpAnswer) :
    (fetchBookingFields a = .raised ∧ a.Lists) ∨ ¬ a.Lists ∧
      (fetchBookingFields a = .ok .empty ∨ ∃ code retryable,
        fetchBookingFields a = .failed code retryable) := by
  cases a with
  | networkError => exact Or.inr ⟨id, Or.inr ⟨_, _, rfl⟩⟩
  | response status body =>
    have hlists : (HttpAnswer.response status body).Lists → status = 200 := by
      intro h
      cases body with
      | none => exact h.elim
      | some body =>
        cases body with
        | arr items => exact h
        | _ => exact h.elim
    simp only [fetchBookingFields]
    split
    · rename_i hnot
      refine Or.inr ⟨fun h => ?_, Or.inl rfl⟩
      have hok := hlists h
      omega
    · split
      · rename_i hok
        cases body with
        | none => exact Or.inr ⟨id, Or.inl rfl⟩
        | some body =>
          cases body with
          | arr items => exact Or.inl ⟨rfl, hok⟩
          | _ => exact Or.inr ⟨id, Or.inl rfl⟩
      · rename_i hne
        exact Or.inr ⟨fun h => hne (hlists h), Or.inr ⟨_, _, rfl⟩⟩

/-! ## The endings of a run -/

/-- The run persists the terminal answer on the file. -/
def Persists (env : Env) (calls : PollCalls) (fileId : UUID) (r : TaskResult) : Prop :=
  ∃ result, calls.pollEvidenceStatus = .ok result ∧ result.isTerminal = true ∧
    ∃ f, fileById r.db fileId = some f ∧
      sqlText env result.documentTypeKey = .ok f.documentTypeKey ∧
      f.diFacts.isSome = true ∧ f.diFacts = terminalFacts calls result

/-- The run parks the session without a terminal answer. -/
def Parks (calls : PollCalls) (sessionId : UUID) (r : TaskResult) : Prop :=
  (∀ result, calls.pollEvidenceStatus = .ok result → result.isTerminal = false) ∧
    r.raised = false ∧ r.jobs = [] ∧
    ∃ s ∈ r.db.sessions.rows, s.id = sessionId ∧ s.state = .parked

variable {calls : PollCalls} {fileId sessionId : UUID} {r : TaskResult}

theorem Persists.not_parks (h : Persists env calls fileId r) : ¬ Parks calls sessionId r := by
  obtain ⟨result, hpoll, hterminal, -⟩ := h
  rintro ⟨hnot, -⟩
  rw [hnot result hpoll] at hterminal
  cases hterminal

/-- What is persisted of the facts. -/
theorem terminalFacts_cases (answers : Nat → HttpAnswer) (now : Nat → Timestamp) (n : Nat)
    (result : DiPollResult) :
    ((result.documentTypeKey.eqStr "BOOKING_FORM" && isConfirmed result.processingStatus) = true ∧
      (answers (n + 1)).Lists ∧ terminalFacts (chainCalls answers now n) result = none) ∨
    (((result.documentTypeKey.eqStr "BOOKING_FORM" && isConfirmed result.processingStatus) = true →
      ¬ (answers (n + 1)).Lists) ∧
      terminalFacts (chainCalls answers now n) result = some (.obj [])) := by
  unfold terminalFacts
  split
  · rename_i hbooking
    simp only [chainCalls]
    rcases fetchBookingFields_cases (answers (n + 1)) with ⟨hraised, hlists⟩ | ⟨hnot, hread⟩
    · rw [hraised]
      exact Or.inl ⟨hbooking, hlists, rfl⟩
    · refine Or.inr ⟨fun _ => hnot, ?_⟩
      rcases hread with hok | ⟨code, retryable, hfailed⟩
      · rw [hok]
        rfl
      · rw [hfailed]
  · rename_i hother
    exact Or.inr ⟨fun hbooking => absurd hbooking hother, rfl⟩

theorem fileById_congr {db db' : Db} {fileId : UUID} (h : db'.files = db.files) :
    fileById db' fileId = fileById db fileId := by
  unfold fileById
  rw [h]

variable {db : Db} {job : PollJob} {result : DiPollResult}

/-- What a run with a terminal answer leaves of the files. -/
theorem concludePoll_files {facts : Json} {typeKey : Option String}
    (hfacts : terminalFacts calls result = some facts) (hstorable : facts.storable = true)
    (hkey : sqlText env result.documentTypeKey = .ok typeKey) :
    (concludePoll env db calls job result).db.files =
      (recordType db job.fileId typeKey facts).files := by
  simp only [concludePoll, hfacts, hkey, hstorable]
  split
  · rfl
  · rename_i satisfied hsatisfied
    obtain ⟨items, rfl⟩ := satisfyLinkedDeal_frame hsatisfied
    exact nudgeFlush_files _ _ _

theorem pollDiDocument_terminal (hfresh : job.scheduleIn = none)
    (hpoll : calls.pollEvidenceStatus = .ok result) (hterminal : result.isTerminal = true) :
    pollDiDocument env db calls job = concludePoll env db calls job result := by
  simp only [pollDiDocument, hfresh, hpoll, hterminal, if_true]

/-- A run persists the answer when it settles the evidence. -/
theorem pollDiDocument_persists {f : File} {n : Nat} (hfresh : job.scheduleIn = none)
    (hfile : fileById db job.fileId = some f) :
    Persists env (chainCalls answers now n) job.fileId
        (pollDiDocument env db (chainCalls answers now n) job) ↔
      (answers n).Settles env (answers (n + 1)) := by
  constructor
  · rintro ⟨result, hpoll, hterminal, f', hf', hkey, hsome, hfacts⟩
    obtain ⟨status, hresult, hreports⟩ := HttpAnswer.reports_of_polled hpoll hterminal
    refine ⟨status, result.documentTypeKey, hreports, by rw [hkey]; rfl, fun hbooking => ?_⟩
    obtain ⟨-, -, hnone⟩ | ⟨hreadable, -⟩ := terminalFacts_cases answers now n result
    · rw [hfacts, hnone] at hsome
      cases hsome
    · exact hreadable (by rw [hresult]; exact hbooking)
  · rintro ⟨status, key, hreports, hstored, hreadable⟩
    have hpoll : (chainCalls answers now n).pollEvidenceStatus =
        .ok ⟨.str status, key, true⟩ := hreports.polled
    obtain ⟨typeKey, hkey⟩ : ∃ typeKey, sqlText env key = .ok typeKey := by
      cases hkey : sqlText env key with
      | ok typeKey => exact ⟨typeKey, rfl⟩
      | error e =>
        rw [hkey] at hstored
        cases hstored
    have hfacts : terminalFacts (chainCalls answers now n) ⟨.str status, key, true⟩ =
        some (.obj []) := by
      obtain ⟨hbooking, hlists, -⟩ | ⟨-, hfacts⟩ :=
        terminalFacts_cases answers now n ⟨.str status, key, true⟩
      · exact absurd hlists (hreadable hbooking)
      · exact hfacts
    refine ⟨_, hpoll, rfl, { f with documentTypeKey := typeKey, diFacts := some (.obj []) }, ?_,
      hkey, rfl, hfacts.symm⟩
    have hid : f.id = job.fileId := by simpa using List.find?_some hfile
    rw [pollDiDocument_terminal hfresh hpoll rfl,
      fileById_congr (concludePoll_files hfacts rfl hkey), recordType, fileById_updateFiles, hfile]
    exact congrArg some (if_pos (by simp [hid]))

/-- Another poll is deferred after an answer that does not decide. -/
theorem reschedulePoll_jobs_ne (db : Db) (answers : Nat → HttpAnswer) (now : Nat → Timestamp)
    (n : Nat) (job : PollJob) :
    (reschedulePoll db (chainCalls answers now n) job).jobs ≠ [] := nofun

/-- A run parks the session, when a further attempt is left, if the answer refuses. -/
theorem pollDiDocument_parks {n : Nat} (hfresh : job.scheduleIn = none)
    (hleft : job.attempt + 1 < maxDiPollAttempts) :
    Parks (chainCalls answers now n) job.sessionId
        (pollDiDocument env db (chainCalls answers now n) job) ↔
      (answers n).Refuses ∧ ∃ s ∈ db.sessions.rows, s.id = job.sessionId := by
  have hexhausted : decide (maxDiPollAttempts - 1 ≤ job.attempt) = false :=
    decide_eq_false (by omega)
  have hpoll : (chainCalls answers now n).pollEvidenceStatus = pollEvidenceStatus (answers n) := rfl
  constructor
  · rintro ⟨hnot, hraised, hjobs, s', hs', hid, -⟩
    cases hanswer : pollEvidenceStatus (answers n) with
    | raised =>
      simp only [pollDiDocument, hfresh, hpoll, hanswer] at hraised
      cases hraised
    | ok result =>
      have hrunning : result.isTerminal = false := hnot result (hpoll.trans hanswer)
      simp only [pollDiDocument, hfresh, hpoll, hanswer, hrunning, hexhausted, Bool.false_eq_true,
        if_false] at hjobs
      exact absurd hjobs (reschedulePoll_jobs_ne db answers now n job)
    | failed code retryable =>
      cases retryable with
      | true =>
        simp only [pollDiDocument, hfresh, hpoll, hanswer, hexhausted, Bool.not_true,
          Bool.or_self, Bool.false_eq_true, if_false] at hjobs
        exact absurd hjobs (reschedulePoll_jobs_ne db answers now n job)
      | false =>
        refine ⟨HttpAnswer.refuses_of_failed hanswer, ?_⟩
        simp only [pollDiDocument, hfresh, hpoll, hanswer, Bool.not_false, Bool.true_or,
          if_true] at hs'
        obtain ⟨s, hs, rfl⟩ := List.mem_map.mp hs'
        refine ⟨s, hs, ?_⟩
        rw [← hid]
        unfold patch
        split
        · rfl
        · rfl
  · rintro ⟨hrefuses, s, hs, hid⟩
    obtain ⟨code, hanswer⟩ := hrefuses.failed
    have hrun : pollDiDocument env db (chainCalls answers now n) job =
        ⟨parkOnDiSla db job.sessionId ("DI poll error: " ++ code), [], false⟩ := by
      simp only [pollDiDocument, hfresh, hpoll, hanswer, Bool.not_false, Bool.true_or, if_true]
    rw [hrun]
    refine ⟨fun result hok => ?_, rfl, rfl, { s with
      state := .parked, note := some ("DI poll error: " ++ code) }, ?_, hid, rfl⟩
    · rw [hpoll, hanswer] at hok
      cases hok
    · exact List.mem_map.mpr ⟨s, hs, if_pos (by simp [hid])⟩

/-! ## Chains -/

/-- The chain makes at most seven polls and has at most one job outstanding, and its last run
asks audit-core and either persists a terminal answer or parks the session. -/
structure PollChain.Concludes (env : Env) (answers : Nat → HttpAnswer) (now : Nat → Timestamp)
    (start : PollChain) : Prop where
  bounded : ∀ n, ((PollChain.step env answers now)^[n] start).polls ≤ 7
  single : ∀ n, ((PollChain.step env answers now)^[n] start).jobs.length ≤ 1
  ends : ∃ n job, let c := (PollChain.step env answers now)^[n] start
    let r := pollDiDocument env c.db (chainCalls answers now c.polls) job
    c.jobs = [job] ∧ (c.step env answers now).jobs = [] ∧
      (c.step env answers now).polls = c.polls + 1 ∧
      Xor (Persists env (chainCalls answers now c.polls) job.fileId r)
        (Parks (chainCalls answers now c.polls) job.sessionId r)

/-- The chain that the download task starts. -/
def chainStart (db : Db) (job : PollJob) : PollChain := ⟨db, [job], 0⟩

theorem chainStart_counted (hattempt : job.attempt = 0) : (chainStart db job).Counted :=
  ⟨Nat.zero_le _, Or.inr ⟨job, rfl, hattempt, by rw [hattempt]; decide⟩⟩

/-- Every poll that another one defers carries its delay. -/
theorem PollChain.Counted.delayed {c : PollChain} (h : c.Counted) :
    ∀ job ∈ (c.step env answers now).jobs, job.scheduleIn ≠ none := by
  obtain ⟨-, hjobs | ⟨job, hjobs, -⟩⟩ := h
  · rw [PollChain.step_nil hjobs, hjobs]
    nofun
  · rw [PollChain.step_single hjobs]
    obtain hnone | ⟨-, -, delay, hsome⟩ :=
      pollDiDocument_jobs env c.db (chainCalls answers now c.polls) job
    · rw [hnone]
      nofun
    · rw [hsome]
      intro next hnext
      rw [List.mem_singleton.mp hnext]
      nofun

/-- Only the first run of a chain asks audit-core: a job that carries a delay does not start. -/
theorem PollChain.Counted.polls_once {start : PollChain} (h : start.Counted) {n : Nat}
    {last : PollJob} (hjobs : ((PollChain.step env answers now)^[n] start).jobs = [last])
    (hpolls : (((PollChain.step env answers now)^[n] start).step env answers now).polls =
      ((PollChain.step env answers now)^[n] start).polls + 1) : n = 0 := by
  cases n with
  | zero => rfl
  | succ n =>
    have hdelayed : last.scheduleIn ≠ none := by
      rw [Function.iterate_succ_apply'] at hjobs
      exact (h.iterate n).delayed last (by rw [hjobs]; exact List.mem_singleton.mpr rfl)
    rw [PollChain.step_single hjobs] at hpolls
    cases hschedule : last.scheduleIn with
    | none => exact absurd hschedule hdelayed
    | some delay =>
      simp only [hschedule, Option.isNone_some, Bool.false_eq_true, if_false] at hpolls
      omega

/-- The download task defers the first poll of the chain of its file, which is there. -/
theorem fetchAndStoreFile_defers {file : FileCalls} {fetch : FetchJob}
    (h : .pollDiDocument job ∈ (fetchAndStoreFile db file fetch).jobs) :
    job.attempt = 0 ∧ job.scheduleIn = none ∧
      ∃ f, fileById (fetchAndStoreFile db file fetch).db job.fileId = some f := by
  unfold fetchAndStoreFile at h ⊢
  split at h
  · cases h
  · split at h
    · cases h
    · rename_i row hrow
      simp only at h ⊢
      split at h
      · cases h
      · cases h
      · unfold storeFetched at h ⊢
        simp only at h ⊢
        split at h
        · cases h
        · cases h
        · split at h
          · rename_i haccepted
            cases List.mem_singleton.mp h
            rw [if_pos haccepted]
            refine ⟨rfl, rfl, ?_⟩
            simp only [recordStored, setFileState, fileById_updateFiles, hrow, Option.map_some]
            exact ⟨_, rfl⟩
          · cases h

/-- The chain that a download starts concludes exactly when the first answer refuses the evidence
and the session is there to be parked, or reports a terminal status that can be persisted. -/
theorem poll_chain_concludes_iff (env : Env) (answers : Nat → HttpAnswer) (now : Nat → Timestamp)
    {db : Db} {file : FileCalls} {fetch : FetchJob} {job : PollJob}
    (h : .pollDiDocument job ∈ (fetchAndStoreFile db file fetch).jobs) :
    (chainStart (fetchAndStoreFile db file fetch).db job).Concludes env answers now ↔
      ((answers 0).Refuses ∧
        ∃ s ∈ (fetchAndStoreFile db file fetch).db.sessions.rows, s.id = job.sessionId) ∨
      (answers 0).Settles env (answers 1) := by
  obtain ⟨hattempt, hfresh, f, hfile⟩ := fetchAndStoreFile_defers h
  have hleft : job.attempt + 1 < maxDiPollAttempts := by rw [hattempt]; decide
  generalize (fetchAndStoreFile db file fetch).db = stored at hfile ⊢
  have hcounted : (chainStart stored job).Counted := chainStart_counted hattempt
  have hparks : Parks (chainCalls answers now 0) job.sessionId
      (pollDiDocument env stored (chainCalls answers now 0) job) ↔ _ :=
    pollDiDocument_parks hfresh hleft
  have hpersists : Persists env (chainCalls answers now 0) job.fileId
      (pollDiDocument env stored (chainCalls answers now 0) job) ↔ _ :=
    pollDiDocument_persists hfresh hfile
  constructor
  · rintro ⟨-, -, n, last, hjobs, -, hpolls, hends⟩
    obtain rfl := hcounted.polls_once hjobs hpolls
    obtain rfl : job = last := by simpa [chainStart] using hjobs
    rcases hends with ⟨hpersist, -⟩ | ⟨hpark, -⟩
    · exact Or.inr (hpersists.mp hpersist)
    · exact Or.inl (hparks.mp hpark)
  · intro hcond
    have hbounded : ∀ n, ((PollChain.step env answers now)^[n] (chainStart stored job)).polls ≤ 7 :=
      fun n => (hcounted.iterate n).1
    have hsingle : ∀ n,
        ((PollChain.step env answers now)^[n] (chainStart stored job)).jobs.length ≤ 1 := by
      intro n
      obtain ⟨-, hnone | ⟨last, hlast, -⟩⟩ := hcounted.iterate n
      · rw [hnone]
        exact Nat.zero_le _
      · rw [hlast]
        exact Nat.le_refl _
    have hover : (pollDiDocument env stored (chainCalls answers now 0) job).jobs = [] := by
      rcases hcond with hpark | hpersist
      · exact (hparks.mpr hpark).2.2.1
      · obtain ⟨result, hpoll, hterminal, -⟩ := hpersists.mpr hpersist
        rw [pollDiDocument_terminal hfresh hpoll hterminal]
        exact concludePoll_jobs env stored _ job result
    refine ⟨hbounded, hsingle, 0, job, rfl, ?_, ?_, ?_⟩
    · rw [Function.iterate_zero_apply, PollChain.step_single rfl]
      exact congrArg (List.filterMap Job.pollArgs) hover
    · rw [Function.iterate_zero_apply, PollChain.step_single rfl, hfresh]
      rfl
    · rcases hcond with hpark | hpersist
      · exact Or.inr ⟨hparks.mpr hpark, fun h => h.not_parks (hparks.mpr hpark)⟩
      · exact Or.inl ⟨hpersists.mpr hpersist, (hpersists.mpr hpersist).not_parks⟩

/-! ## A document that is still being processed -/

/-- A registered booking form, in a session that is collecting. -/
def registeredDb : Db :=
  { Db.empty with
    sessions := .singleton { claimedSession with state := .collecting }
    files := .singleton { polledBookingForm with
      state := .pending, diDocumentId := none, documentTypeKey := none, diFacts := none } }

/-- The booking form is downloaded and stored. -/
def formStored : TaskResult :=
  fetchAndStoreFile registeredDb ⟨0, fun _ => .ok ⟨[], "", 0, "application/pdf"⟩, fun _ => .ok 9,
    true⟩ ⟨8, 7, 1, 6, 3, .en, some 4⟩

/-- The first poll of the booking form. -/
def firstPoll : PollJob := ⟨8, 7, 1, 4, 9, 0, none⟩

/-- The evidence item has a status and a type. -/
def evidenceAnswer (status : String) (documentTypeKey : Json) : HttpAnswer :=
  .response 200 (some (.obj [("processingStatus", .str status),
    ("documentTypeKey", documentTypeKey)]))

/-- Confirmed at once, the document gets its type. -/
theorem poll_chain_concludes_iff_confirmed :
    .pollDiDocument firstPoll ∈ formStored.jobs ∧
      (chainStart formStored.db firstPoll).Concludes (.ofRecording "s" [])
        (fun _ => evidenceAnswer "CONFIRMED" (.str "PAN")) fun _ => 0 := by
  have hjob : .pollDiDocument firstPoll ∈ formStored.jobs := by decide
  refine ⟨hjob, (poll_chain_concludes_iff _ _ _ hjob).mpr (Or.inr ?_)⟩
  exact ⟨"CONFIRMED", .str "PAN", ⟨rfl, by decide, rfl, rfl⟩, rfl, fun hbooking =>
    absurd hbooking (by decide)⟩

/-- Still pending at the first poll, the document is not polled again, although the next answer
would confirm it: no job is left, the file has no type and the session is not parked. -/
theorem pending_document_abandoned :
    .pollDiDocument firstPoll ∈ formStored.jobs ∧
      let answers := fun n => evidenceAnswer (if n = 0 then "PENDING" else "CONFIRMED") (.str "PAN")
      let chain := fun n =>
        (PollChain.step (.ofRecording "s" []) answers fun _ => 0)^[n]
          (chainStart formStored.db firstPoll)
      ¬ (chainStart formStored.db firstPoll).Concludes (.ofRecording "s" []) answers (fun _ => 0) ∧
        (chain 2).jobs = [] ∧ (chain 2).polls = 1 ∧
        (chain 2).db.files.rows.map (·.documentTypeKey) = [none] ∧
        (chain 2).db.sessions.rows.map (·.state) = [.collecting] := by
  refine ⟨by decide, ?_, by decide, by decide, by decide, by decide⟩
  rintro ⟨-, -, n, last, hjobs, hover, hpolls, -⟩
  have hcounted : (chainStart formStored.db firstPoll).Counted := chainStart_counted rfl
  obtain rfl := hcounted.polls_once hjobs hpolls
  exact absurd hover (by decide)

end WaService
