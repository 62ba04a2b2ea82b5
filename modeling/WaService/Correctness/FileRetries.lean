import WaService.Core.Run
import WaService.System.FileRetries

/-!
# Which downloads are executed again

The task raises when a failed fetch may not be retried and returns when it may, and it returns
after every failed upload. A queue that repeats what raises so repeats exactly the failed fetches
that are final. Only a final refusal of audit-core is treated as its flag says.
-/

namespace WaService

open Python Relational Transition

variable {env : Env} {H : Hasher} {db : Db} {job : FetchJob} {answers : FileAnswers}

/-! ## Failures -/

/-- The `retryable` flag of the `MediaFetchError` or `StoreError` that an execution meets. -/
def failureFlag (H : Hasher) (row : File) (answers : FileAnswers) : Option Bool :=
  match (fetchMedia H answers.media row.fetchRequest).outcome with
  | .failed _ retryable _ => some retryable
  | .raised => none
  | .ok _ =>
    match storeViaAuditCore answers.auditCore with
    | .failed _ retryable => some retryable
    | _ => none

/-- A call that returns, or fails with a flag that allows a retry, had attempts left. -/
theorem attempt_lt_of_outcome {media : MetaAnswers} {req : FetchRequest}
    (h : (∃ result, (fetchMedia H media req).outcome = .ok result) ∨
      ∃ code quarantine, (fetchMedia H media req).outcome = .failed code true quarantine) :
    req.attempt < backoffBeforeMetaLimit := by
  by_contra hlimit
  have hused : fetchMedia H media req = ⟨[], .failed "MEDIA_ATTEMPT_LIMIT" false false⟩ := by
    unfold fetchMedia
    rw [if_pos (Nat.not_lt.mp hlimit)]
  rw [hused] at h
  obtain ⟨result, h⟩ | ⟨code, quarantine, h⟩ := h
  · cases h
  · cases h

/-- The execution of a row raises when its fetch fails for good, and at no `StoreError`. -/
theorem raised_of_failureFlag (H : Hasher) (answers : FileAnswers) {row : File}
    (hrow : downloadRow db job = some row) :
    (∀ code retryable quarantine,
      (fetchMedia H answers.media row.fetchRequest).outcome = .failed code retryable quarantine →
        (fetchAndStoreFile db (answers.calls H) job).raised = !retryable) ∧
    (∀ result code retryable, (fetchMedia H answers.media row.fetchRequest).outcome = .ok result →
      storeViaAuditCore answers.auditCore = .failed code retryable →
        (fetchAndStoreFile db (answers.calls H) job).raised = false) := by
  obtain ⟨journeyId, heq⟩ := fetchAndStoreFile_of_row hrow (answers.calls H)
  constructor
  · intro code retryable quarantine hfetch
    have hcall : (answers.calls H).fetchMedia row.fetchRequest =
        .failed code retryable quarantine :=
      hfetch
    rw [heq, hcall]
    rfl
  · intro result code retryable hfetch hstore
    have hcall : (answers.calls H).fetchMedia row.fetchRequest = .ok result := hfetch
    have hpost : ∀ req, (answers.calls H).storeViaAuditCore req = .failed code retryable :=
      fun _ => hstore
    rw [heq, hcall]
    simp only [afterFetch, storeFetched, hpost]

/-! ## The queue -/

/-- The job stays in the queue when the execution raises, and leaves it otherwise. -/
theorem retriedJobs_count (db : Db) {jobs : List Job} (hmem : .fetchAndStoreFile job ∈ jobs)
    (calls : FileCalls) :
    let r := fetchAndStoreFile db calls job
    (r.raised = true → (retriedJobs jobs job r).count (.fetchAndStoreFile job) =
        jobs.count (.fetchAndStoreFile job)) ∧
      (r.raised = false → (retriedJobs jobs job r).count (.fetchAndStoreFile job) + 1 =
        jobs.count (.fetchAndStoreFile job)) := by
  intro r
  have hpolls : r.jobs.count (.fetchAndStoreFile job) = 0 := by
    obtain hnone | ⟨poll, hpoll⟩ := fetchAndStoreFile_polls db calls job
    · simp [r, hnone]
    · simp [r, hpoll]
  have hpos : 0 < jobs.count (.fetchAndStoreFile job) := List.count_pos_iff.mpr hmem
  unfold retriedJobs
  rw [List.count_append, hpolls]
  constructor
  · intro hraised
    rw [if_pos hraised]
    omega
  · intro hraised
    rw [if_neg (by simp [hraised]), List.count_erase_self]
    omega

/-! ## The law -/

/-- After a failure that may be retried the job is still in the queue, and after any other failure
it has left the queue. -/
def RetriesExactly (env : Env) (H : Hasher) (c : Downloads) : DownloadAction → Prop
  | .execute job answers => ∀ c', downloadStep env H c (.execute job answers) = some c' →
      ∀ row, downloadRow c.world.db job = some row →
        (failureFlag H row answers = some true → row.attempts < backoffBeforeMetaLimit →
          c'.world.jobs.count (.fetchAndStoreFile job) =
            c.world.jobs.count (.fetchAndStoreFile job)) ∧
        (failureFlag H row answers = some false →
          c'.world.jobs.count (.fetchAndStoreFile job) + 1 =
            c.world.jobs.count (.fetchAndStoreFile job))
  | .other _ => True

/-- Meta does not refuse the file, and audit-core, if it is asked, answers without a server
error. -/
def ServesDownload (H : Hasher) (c : Downloads) : DownloadAction → Prop
  | .execute job answers => .fetchAndStoreFile job ∈ c.world.jobs →
      ∀ row, downloadRow c.world.db job = some row →
        ¬ MediaRefused H answers.media row.fetchRequest ∧
        ((∃ result, (fetchMedia H answers.media row.fetchRequest).outcome = .ok result) →
          ∃ status body, answers.auditCore = .response status body ∧ status < 500)
  | .other _ => True

theorem served_answer {answer : HttpAnswer} :
    (∃ status body, answer = .response status body ∧ status < 500) ↔
      ∀ code, storeViaAuditCore answer ≠ .failed code true := by
  constructor
  · rintro ⟨status, body, rfl, hlt⟩ code h
    obtain hnetwork | ⟨status', body', hresponse, hge⟩ := storeViaAuditCore_retryable.mp ⟨code, h⟩
    · cases hnetwork
    · cases hresponse
      omega
  · intro h
    cases answer with
    | networkError => exact absurd rfl (h "AUDIT_CORE_NETWORK_ERROR")
    | response status body =>
      refine ⟨status, body, rfl, Nat.lt_of_not_le fun hge => ?_⟩
      obtain ⟨code, hfailed⟩ := storeViaAuditCore_retryable.mpr (Or.inr ⟨status, body, rfl, hge⟩)
      exact h code hfailed

/-- The execution of a row raises as the flag of its failure asks exactly when Meta and audit-core
serve it. -/
theorem raised_iff_served {row : File} (hrow : downloadRow db job = some row) :
    ((failureFlag H row answers = some true → row.attempts < backoffBeforeMetaLimit →
        (fetchAndStoreFile db (answers.calls H) job).raised = true) ∧
      (failureFlag H row answers = some false →
        (fetchAndStoreFile db (answers.calls H) job).raised = false)) ↔
    ¬ MediaRefused H answers.media row.fetchRequest ∧
      ((∃ result, (fetchMedia H answers.media row.fetchRequest).outcome = .ok result) →
        ∃ status body, answers.auditCore = .response status body ∧ status < 500) := by
  obtain ⟨hfetchRaised, hstoreRaised⟩ := raised_of_failureFlag H answers hrow
  rw [← fetchMedia_failed_iff, served_answer]
  cases hfetch : (fetchMedia H answers.media row.fetchRequest).outcome with
  | raised =>
    have hflag : failureFlag H row answers = none := by simp only [failureFlag, hfetch]
    rw [hflag]
    refine iff_of_true ⟨fun h => ?_, fun h => ?_⟩ ⟨?_, ?_⟩
    · cases h
    · cases h
    · rintro ⟨code, retryable, quarantine, h⟩
      cases h
    · rintro ⟨result, h⟩
      cases h
  | failed code retryable quarantine =>
    have hflag : failureFlag H row answers = some retryable := by simp only [failureFlag, hfetch]
    have hraised := hfetchRaised code retryable quarantine hfetch
    rw [hflag, hraised]
    refine iff_of_false ?_ fun h => h.1 ⟨code, retryable, quarantine, rfl⟩
    rintro ⟨hretry, hfinal⟩
    cases retryable with
    | true => cases hretry rfl (attempt_lt_of_outcome (Or.inr ⟨code, quarantine, hfetch⟩))
    | false => cases hfinal rfl
  | ok result =>
    have hnot : ¬ ∃ code retryable quarantine,
        FetchOutcome.ok result = .failed code retryable quarantine := by
      rintro ⟨code, retryable, quarantine, h⟩
      cases h
    cases hstore : storeViaAuditCore answers.auditCore with
    | ok evidenceId =>
      have hflag : failureFlag H row answers = none := by simp only [failureFlag, hfetch, hstore]
      rw [hflag]
      refine iff_of_true ⟨fun h => ?_, fun h => ?_⟩ ⟨hnot, fun _ code h => ?_⟩
      · cases h
      · cases h
      · cases h
    | raised =>
      have hflag : failureFlag H row answers = none := by simp only [failureFlag, hfetch, hstore]
      rw [hflag]
      refine iff_of_true ⟨fun h => ?_, fun h => ?_⟩ ⟨hnot, fun _ code h => ?_⟩
      · cases h
      · cases h
      · cases h
    | failed code retryable =>
      have hflag : failureFlag H row answers = some retryable := by
        simp only [failureFlag, hfetch, hstore]
      have hraised := hstoreRaised result code retryable hfetch hstore
      rw [hflag, hraised]
      cases retryable with
      | true =>
        refine iff_of_false ?_ fun h => h.2 ⟨result, rfl⟩ code rfl
        rintro ⟨hretry, -⟩
        cases hretry rfl (attempt_lt_of_outcome (Or.inl ⟨result, hfetch⟩))
      | false =>
        refine iff_of_true ⟨fun h => ?_, fun _ => rfl⟩ ⟨hnot, fun _ code' h => ?_⟩
        · cases h
        · cases h

theorem retriesExactly_iff (c : Downloads) (a : DownloadAction) :
    RetriesExactly env H c a ↔ ServesDownload H c a := by
  cases a with
  | other a => exact Iff.rfl
  | execute job answers =>
    by_cases hmem : .fetchAndStoreFile job ∈ c.world.jobs
    · obtain ⟨hstays, hleaves⟩ := retriedJobs_count c.world.db hmem (answers.calls H)
      have hcount : ∀ c', downloadStep env H c (.execute job answers) = some c' → c'.world.jobs =
          retriedJobs c.world.jobs job (fetchAndStoreFile c.world.db (answers.calls H) job) := by
        intro c' h
        simp only [downloadStep, if_pos hmem] at h
        cases h
        rfl
      have hstep : ∃ c', downloadStep env H c (.execute job answers) = some c' := by
        simp only [downloadStep, if_pos hmem]
        exact ⟨_, rfl⟩
      simp only [RetriesExactly, ServesDownload, hmem, forall_const]
      constructor
      · intro hlaw row hrow
        obtain ⟨c', hc'⟩ := hstep
        obtain ⟨hretry, hfinal⟩ := hlaw c' hc' row hrow
        rw [hcount c' hc'] at hretry hfinal
        refine (raised_iff_served hrow).mp ⟨fun hflag hlt => ?_, fun hflag => ?_⟩
        · by_contra hraised
          have hleft := hleaves (Bool.eq_false_of_not_eq_true hraised)
          have hkept := hretry hflag hlt
          omega
        · by_contra hraised
          have hkept := hstays (Bool.eq_true_of_not_eq_false hraised)
          have hleft := hfinal hflag
          omega
      · intro hserved c' hc' row hrow
        obtain ⟨hretry, hfinal⟩ := (raised_iff_served hrow).mpr (hserved row hrow)
        rw [hcount c' hc']
        exact ⟨fun hflag hlt => hstays (hretry hflag hlt), fun hflag => hleaves (hfinal hflag)⟩
    · refine iff_of_true (fun c' h => ?_) fun h => absurd h hmem
      simp only [downloadStep, if_neg hmem] at h
      cases h

/-- Over every run, exactly the failures that may be retried are retried if and only if Meta and
audit-core serve every download that is executed. -/
theorem downloads_retried_iff (env : Env) (H : Hasher) (start : Downloads)
    (as : List DownloadAction) :
    Meets (downloadStep env H) (RetriesExactly env H) start as ↔
      Meets (downloadStep env H) (ServesDownload H) start as :=
  ⟨fun h => h.imp fun c a => (retriesExactly_iff c a).mp,
    fun h => h.imp fun c a => (retriesExactly_iff c a).mpr⟩

/-! ## A download the wrong way round -/

/-- Meta serves another content than the declared one. -/
def corrupted : FileAnswers := answersOf givenUrl (served [11])

/-- Meta answers the resolution with a server error. -/
def unavailable : FileAnswers := answersOf (.response 503 none) (served [10])

/-- The flag of the failure, and the jobs of the download that are left after the execution. -/
def endingOf (answers : FileAnswers) : Option Bool × Option Nat :=
  (failureFlag plainHasher arrivedFile answers,
    (downloadStep (.ofRecording "s" []) plainHasher ⟨arrivedWorld, []⟩
      (.execute arrivedJob answers)).map fun c =>
        c.world.jobs.count (.fetchAndStoreFile arrivedJob))

/-- A content with a wrong hash is fetched again, and a file that Meta could not serve is not. -/
theorem mismatch_retried_outage_dropped :
    endingOf corrupted = (some false, some 1) ∧ endingOf unavailable = (some true, some 0) ∧
      ¬ RetriesExactly (.ofRecording "s" []) plainHasher ⟨arrivedWorld, []⟩
          (.execute arrivedJob corrupted) ∧
      ¬ RetriesExactly (.ofRecording "s" []) plainHasher ⟨arrivedWorld, []⟩
          (.execute arrivedJob unavailable) := by
  have hrow : downloadRow arrivedWorld.db arrivedJob = some arrivedFile := rfl
  have hcorrupted : endingOf corrupted = (some false, some 1) := by decide
  have hunavailable : endingOf unavailable = (some true, some 0) := by decide
  obtain ⟨hfinal, hkept⟩ := Prod.mk.inj hcorrupted
  obtain ⟨hretry, hdropped⟩ := Prod.mk.inj hunavailable
  refine ⟨hcorrupted, hunavailable, fun hlaw => ?_, fun hlaw => ?_⟩
  · obtain ⟨c', hc', hcount⟩ := Option.map_eq_some_iff.mp hkept
    have hleft := (hlaw c' hc' arrivedFile hrow).2 hfinal
    have hone : arrivedWorld.jobs.count (.fetchAndStoreFile arrivedJob) = 1 := by decide
    simp only [hone] at hleft
    omega
  · obtain ⟨c', hc', hcount⟩ := Option.map_eq_some_iff.mp hdropped
    have hstays := (hlaw c' hc' arrivedFile hrow).1 hretry (by decide)
    have hone : arrivedWorld.jobs.count (.fetchAndStoreFile arrivedJob) = 1 := by decide
    simp only [hone] at hstays
    omega

end WaService
