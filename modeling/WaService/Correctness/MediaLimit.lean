import WaService.Correctness.FileFrames

/-!
# Failed media requests

A file is given up after four counted failures, but a call counts one failure whatever number of
its requests failed, and counts none when it ends with an exception of its own. Where a call makes
at most one failed request and counts it, no file has more than four of them.
-/

namespace WaService

open Python Relational Transition

variable {env : Env} {H : Hasher} {db : Db} {job : FetchJob} {answers : FileAnswers}

/-! ## The requests of one call -/

/-- The resolution is answered, and with an object if its status is 200. -/
def AnswersResolution : HttpAnswer → Prop
  | .networkError => False
  | .response status body => status = 200 → ∃ fields, body = some (.obj fields)

theorem resolveMediaUrl_answered {answer : HttpAnswer} (h : AnswersResolution answer) :
    (∃ code retryable quarantine,
      resolveMediaUrl answer = .error (.error code retryable quarantine)) ∨
      ∃ url, resolveMediaUrl answer = .ok url := by
  cases answer with
  | networkError => exact h.elim
  | response status body =>
    by_cases h404 : status = 404
    · exact Or.inl ⟨"MEDIA_NOT_FOUND", false, false, by simp only [resolveMediaUrl, if_pos h404]⟩
    · by_cases h200 : status = 200
      · obtain ⟨fields, rfl⟩ := h h200
        subst h200
        have hresolve : resolveMediaUrl (.response 200 (some (.obj fields))) =
            if ((fields.lookup "url").getD .null).truthy then .ok ((fields.lookup "url").getD .null)
            else .error (.error "MEDIA_URL_MISSING" true false) := rfl
        rw [hresolve]
        split
        · exact Or.inr ⟨_, rfl⟩
        · exact Or.inl ⟨_, _, _, rfl⟩
      · exact Or.inl ⟨_, _, _, by simp only [resolveMediaUrl, if_neg h404, if_neg h200]; rfl⟩

/-- A failed download of a URL ends with a `MediaFetchError`. -/
theorem streamDownload_of_failed {H : Hasher} {declared : Option String} {url : String}
    {answer : DownloadAnswer} (h : (MediaRequest.download answer).failed = true)
    (hvalid : answer ≠ .invalidUrl) :
    ∃ code retryable quarantine,
      streamDownload H declared (.str url) answer = .error (.error code retryable quarantine) := by
  apply (streamDownload_failed H declared url answer).1.mpr
  cases answer with
  | networkError => trivial
  | invalidUrl => exact absurd rfl hvalid
  | response status contentType chunks broken =>
    simp only [MediaRequest.failed, Bool.or_eq_true, bne_iff_ne] at h
    exact h.imp id Or.inl

/-- The requests of a list that failed. -/
def failedRequests (requests : List MediaRequest) : Nat :=
  (requests.filter MediaRequest.failed).length

/-- After a resolution that is answered at most one request fails, and the call ends with a
`MediaFetchError` if one does. -/
theorem fetchOnce_failedRequests (H : Hasher) (declared : Option String) {resolution : HttpAnswer}
    (download : DownloadAnswer) (h : AnswersResolution resolution) :
    failedRequests (fetchOnce H declared resolution download).1 = 0 ∨
      failedRequests (fetchOnce H declared resolution download).1 = 1 ∧
        ∃ code retryable quarantine, (fetchOnce H declared resolution download).2 =
          .error (.error code retryable quarantine) := by
  obtain ⟨code, retryable, quarantine, herror⟩ | ⟨url, hurl⟩ := resolveMediaUrl_answered h
  · refine Or.inr ⟨?_, code, retryable, quarantine, by simp only [fetchOnce, herror]⟩
    simp [failedRequests, fetchOnce, herror, MediaRequest.failed]
  · have hgiven : (MediaRequest.resolution resolution).failed = false := by
      simp only [MediaRequest.failed, hurl]
    have hrequests : failedRequests (fetchOnce H declared resolution download).1 =
        failedRequests (downloadRequests url download) := by
      simp [failedRequests, fetchOnce, hurl, hgiven]
    have hdownload : (fetchOnce H declared resolution download).2 =
        streamDownload H declared url download := by simp only [fetchOnce, hurl]
    rw [hrequests, hdownload]
    cases url with
    | str text =>
      by_cases hvalid : download = .invalidUrl
      · subst hvalid
        exact Or.inl rfl
      · have hone : downloadRequests (.str text) download = [.download download] := by
          cases download with
          | invalidUrl => exact absurd rfl hvalid
          | networkError => rfl
          | response status contentType chunks broken => rfl
        rw [hone]
        cases hfailed : (MediaRequest.download download).failed with
        | false => exact Or.inl (by simp [failedRequests, hfailed])
        | true =>
          exact Or.inr ⟨by simp [failedRequests, hfailed], streamDownload_of_failed hfailed hvalid⟩
    | null => exact Or.inl rfl
    | bool b => exact Or.inl rfl
    | int n => exact Or.inl rfl
    | float x => exact Or.inl rfl
    | arr items => exact Or.inl rfl
    | obj fields => exact Or.inl rfl

/-- A call that has the resolution answered and the URL not expired makes at most one failed
request, and ends with a `MediaFetchError` if it makes one. -/
theorem fetchMedia_failedRequests (H : Hasher) {media : MetaAnswers} (req : FetchRequest)
    (hanswered : AnswersResolution media.resolution)
    (hfresh : ¬ (Expires media.resolution media.download ∧ req.attempt < 3)) :
    failedRequests (fetchMedia H media req).requests = 0 ∨
      failedRequests (fetchMedia H media req).requests = 1 ∧
        ∃ code retryable quarantine,
          (fetchMedia H media req).outcome = .failed code retryable quarantine := by
  by_cases hlimit : backoffBeforeMetaLimit ≤ req.attempt
  · have hused : fetchMedia H media req = ⟨[], .failed "MEDIA_ATTEMPT_LIMIT" false false⟩ := by
      unfold fetchMedia
      rw [if_pos hlimit]
    rw [hused]
    exact Or.inl rfl
  · have hexpired := (fetchOnce_failed H req.declaredSha256 media.resolution media.download).2
    have hnot : ¬ (urlExpired (fetchOnce H req.declaredSha256 media.resolution
        media.download).2 && decide (req.attempt < 3)) = true := by
      intro h
      obtain ⟨hurl, hattempt⟩ := Bool.and_eq_true_iff.mp h
      exact hfresh ⟨hexpired.mp hurl, of_decide_eq_true hattempt⟩
    have honce : fetchMedia H media req =
        ⟨(fetchOnce H req.declaredSha256 media.resolution media.download).1,
          outcomeOf (fetchOnce H req.declaredSha256 media.resolution media.download).2⟩ := by
      unfold fetchMedia
      rw [if_neg hlimit]
      simp only [if_neg hnot]
    rw [honce]
    obtain hzero | ⟨hone, code, retryable, quarantine, herror⟩ :=
      fetchOnce_failedRequests H req.declaredSha256 media.download hanswered
    · exact Or.inl hzero
    · refine Or.inr ⟨hone, code, retryable, quarantine, ?_⟩
      rw [herror]
      rfl

/-- At the ceiling no request is made. -/
theorem fetchMedia_ceiling {H : Hasher} {media : MetaAnswers} {req : FetchRequest}
    (h : backoffBeforeMetaLimit ≤ req.attempt) : (fetchMedia H media req).requests = [] := by
  unfold fetchMedia
  rw [if_pos h]

/-! ## The attempts of a file -/

/-- The attempts counted for a file, none before it is stored. -/
def attemptsOf (db : Db) (fileId : UUID) : Nat :=
  ((fileById db fileId).map File.attempts).getD 0

theorem attemptsOf_of_row {fileId : UUID} {row : File} (h : fileById db fileId = some row) :
    attemptsOf db fileId = row.attempts := by
  simp only [attemptsOf, h, Option.map_some, Option.getD_some]

/-- An update of one file that takes no attempt back. -/
theorem attemptsOf_updateFiles (db : Db) (fileId : UUID) {f : File → File}
    (hf : ∀ r, (f r).id = r.id ∧ (f r).wamid = r.wamid) (h : ∀ r, r.attempts ≤ (f r).attempts)
    (other : UUID) :
    attemptsOf db other ≤ attemptsOf (db.updateFiles (fun r => r.id == fileId) f hf) other := by
  by_cases hother : other = fileId
  · subst hother
    unfold attemptsOf
    cases hrow : fileById db other with
    | none => exact Nat.zero_le _
    | some row =>
      rw [fileById_update_self f hf hrow]
      exact h row
  · unfold attemptsOf
    rw [fileById_update_other db f hf hother]

theorem setFileState_attempts (db : Db) (fileId : UUID) (state : FileState) (other : UUID) :
    attemptsOf db other ≤ attemptsOf (setFileState db fileId state) other := by
  unfold setFileState
  refine attemptsOf_updateFiles db fileId _ (fun r => ?_) other
  exact Nat.le_refl r.attempts

theorem failFile_attempts (db : Db) (fileId : UUID) (state : FileState) (code : String)
    (other : UUID) : attemptsOf db other ≤ attemptsOf (failFile db fileId state code) other := by
  unfold failFile
  refine attemptsOf_updateFiles db fileId _ (fun r => ?_) other
  exact Nat.le_succ r.attempts

theorem recordStored_attempts (db : Db) (now : Timestamp) (fileId : UUID) (result : FetchResult)
    (evidenceId other : UUID) :
    attemptsOf db other ≤ attemptsOf (recordStored db now fileId result evidenceId) other := by
  unfold recordStored
  refine attemptsOf_updateFiles db fileId _ (fun r => ?_) other
  exact Nat.le_refl r.attempts

theorem failWithoutJourney_attempts (db : Db) (fileId other : UUID) :
    attemptsOf db other ≤ attemptsOf (failWithoutJourney db fileId) other := by
  unfold failWithoutJourney
  refine attemptsOf_updateFiles db fileId _ (fun r => ?_) other
  exact Nat.le_refl r.attempts

theorem storeFetched_attempts (db : Db) (calls : FileCalls) (job : FetchJob) (journeyId : UUID)
    (row : File) (result : FetchResult) (other : UUID) :
    attemptsOf db other ≤ attemptsOf (storeFetched db calls job journeyId row result).db other := by
  have hstoring := setFileState_attempts db job.fileId .storing other
  unfold storeFetched
  simp only
  split
  · exact hstoring
  · exact hstoring.trans (failFile_attempts _ _ _ _ _)
  · split
    · exact hstoring.trans (recordStored_attempts _ _ _ _ _ _)
    · exact hstoring.trans (recordStored_attempts _ _ _ _ _ _)

/-- An execution takes no attempt back. -/
theorem fetchAndStoreFile_attempts (db : Db) (calls : FileCalls) (job : FetchJob) (other : UUID) :
    attemptsOf db other ≤ attemptsOf (fetchAndStoreFile db calls job).db other := by
  have hdownloading := setFileState_attempts db job.fileId .downloading other
  unfold fetchAndStoreFile
  split
  · exact failWithoutJourney_attempts db job.fileId other
  · split
    · exact Nat.le_refl _
    · simp only
      split
      · exact hdownloading
      · exact hdownloading.trans (failFile_attempts _ _ _ _ _)
      · exact hdownloading.trans (storeFetched_attempts _ _ _ _ _ _ _)

/-- An execution whose fetch fails counts an attempt. -/
theorem fetchAndStoreFile_counts {row : File} (hrow : downloadRow db job = some row)
    {calls : FileCalls} {code : String} {retryable quarantine : Bool}
    (hfailed : calls.fetchMedia row.fetchRequest = .failed code retryable quarantine) :
    attemptsOf (fetchAndStoreFile db calls job).db job.fileId = row.attempts + 1 := by
  obtain ⟨journeyId, heq⟩ := fetchAndStoreFile_of_row hrow calls
  obtain ⟨_, -, hfile⟩ := Option.bind_eq_some_iff.mp hrow
  have hmarked := setFileState_self .downloading hfile
  rw [heq, hfailed]
  exact attemptsOf_of_row (failFile_self _ code hmarked)

theorem FilesKept.attemptsOf {db' : Db} (h : FilesKept db db') (fileId : UUID) :
    WaService.attemptsOf db' fileId = WaService.attemptsOf db fileId := by
  obtain ⟨hkept, hnew⟩ := h.fileById fileId
  unfold WaService.attemptsOf
  cases hrow : WaService.fileById db fileId with
  | some row =>
    obtain ⟨row', hrow', hprogress⟩ := hkept row hrow
    rw [hrow']
    exact congrArg File.Progress.attempts hprogress
  | none =>
    cases hrow' : WaService.fileById db' fileId with
    | none => rfl
    | some row' => exact (hnew hrow row' hrow').attempts

/-! ## The bound -/

/-- Below the ceiling the resolution is answered, and the URL that it gives is not expired while
it would be resolved again. -/
def CountsFailures (c : Downloads) : DownloadAction → Prop
  | .execute job answers => ∀ row, downloadRow c.world.db job = some row →
      row.attempts < backoffBeforeMetaLimit →
        AnswersResolution answers.media.resolution ∧
          ¬ (Expires answers.media.resolution answers.media.download ∧ row.attempts < 3)
  | .other _ => True

/-- The failed requests for each file are counted in its attempts and within the ceiling. -/
def FailuresCounted (c : Downloads) : Prop :=
  ∀ fileId, c.failed.count fileId ≤ attemptsOf c.world.db fileId ∧
    c.failed.count fileId ≤ backoffBeforeMetaLimit

/-- The failed requests of an execution fit under the ceiling, and are counted. -/
theorem madeRequests_counted
    (hcounts : ∀ row, downloadRow db job = some row → row.attempts < backoffBeforeMetaLimit →
      AnswersResolution answers.media.resolution ∧
        ¬ (Expires answers.media.resolution answers.media.download ∧ row.attempts < 3)) :
    failedRequests (madeRequests H db job answers) = 0 ∨
      failedRequests (madeRequests H db job answers) = 1 ∧
        attemptsOf db job.fileId < backoffBeforeMetaLimit ∧
          attemptsOf (fetchAndStoreFile db (answers.calls H) job).db job.fileId =
            attemptsOf db job.fileId + 1 := by
  cases hrow : downloadRow db job with
  | none => exact Or.inl (by simp only [madeRequests, hrow]; rfl)
  | some row =>
    obtain ⟨_, -, hfile⟩ := Option.bind_eq_some_iff.mp hrow
    have hrequests : madeRequests H db job answers =
        (fetchMedia H answers.media row.fetchRequest).requests := by simp only [madeRequests, hrow]
    rw [hrequests, attemptsOf_of_row hfile]
    by_cases hlt : row.attempts < backoffBeforeMetaLimit
    · obtain ⟨hanswered, hfresh⟩ := hcounts row hrow hlt
      obtain hzero | ⟨hone, code, retryable, quarantine, hfailed⟩ :=
        fetchMedia_failedRequests H row.fetchRequest hanswered hfresh
      · exact Or.inl hzero
      · exact Or.inr ⟨hone, hlt, fetchAndStoreFile_counts hrow hfailed⟩
    · have hnone : (fetchMedia H answers.media row.fetchRequest).requests = [] :=
        fetchMedia_ceiling (Nat.le_of_not_lt hlt)
      rw [hnone]
      exact Or.inl rfl

theorem downloadStep_counted {c c' : Downloads} {a : DownloadAction} (hinv : FailuresCounted c)
    (hcounts : CountsFailures c a) (h : downloadStep env H c a = some c') : FailuresCounted c' := by
  cases a with
  | other a =>
    simp only [downloadStep] at h
    split at h
    · cases h
    · rename_i hother
      obtain ⟨w, hw, rfl⟩ := Option.map_eq_some_iff.mp h
      intro fileId
      have hkept := worldStep_filesKept (Bool.eq_false_of_not_eq_true hother) hw
      rw [hkept.attemptsOf fileId]
      exact hinv fileId
  | execute job answers =>
    simp only [downloadStep] at h
    split at h
    · cases h
      intro fileId
      obtain ⟨hattempts, hlimit⟩ := hinv fileId
      have hkept := fetchAndStoreFile_attempts c.world.db (answers.calls H) job fileId
      simp only [List.map_const', List.count_append, List.count_replicate, beq_iff_eq]
      change (if job.fileId = fileId then failedRequests (madeRequests H c.world.db job answers)
        else 0) + _ ≤ _ ∧ (if job.fileId = fileId then
          failedRequests (madeRequests H c.world.db job answers) else 0) + _ ≤ _
      by_cases hfile : job.fileId = fileId
      · subst hfile
        rw [if_pos rfl]
        obtain hzero | ⟨hone, hlt, hcounted⟩ := madeRequests_counted (H := H) hcounts
        · omega
        · omega
      · rw [if_neg hfile]
        omega
    · cases h

/-- In every run in which the failures are counted, at most four media requests fail for a file. -/
theorem media_failures_le_four {start c : Downloads} {as : List DownloadAction}
    (hstart : start.failed = []) (h : run (downloadStep env H) start as = some c)
    (hcounts : Meets (downloadStep env H) CountsFailures start as) (fileId : UUID) :
    c.failed.count fileId ≤ backoffBeforeMetaLimit := by
  have hinv : FailuresCounted start := by
    intro other
    rw [hstart]
    exact ⟨Nat.zero_le _, Nat.zero_le _⟩
  exact (run_preserves_of_meets FailuresCounted (fun s a s' => downloadStep_counted) h hcounts hinv
    fileId).2

/-- Meta answers the resolution with a server error. -/
def outage : FileAnswers := answersOf (.response 503 none) (served [10])

/-- One resolution that fails, and the download is over. -/
theorem outage_counted :
    ∃ c, run (downloadStep (.ofRecording "s" []) plainHasher) ⟨arrivedWorld, []⟩
        [.execute arrivedJob outage] = some c ∧
      c.failed.count arrivedFile.id ≤ backoffBeforeMetaLimit := by
  have hruns : (run (downloadStep (.ofRecording "s" []) plainHasher) ⟨arrivedWorld, []⟩
      [.execute arrivedJob outage]).isSome = true := by decide
  obtain ⟨c, hc⟩ := Option.isSome_iff_exists.mp hruns
  refine ⟨c, hc, media_failures_le_four rfl hc ⟨?_, fun _ _ => trivial⟩ arrivedFile.id⟩
  intro row _ _
  refine ⟨fun h200 => ?_, fun hexpired => ?_⟩
  · cases h200
  · cases hexpired.1.1.1

/-! ## An expired URL -/

/-- Meta gives a URL, and answers each download with a 404. -/
def expiring : FileAnswers := answersOf givenUrl (.response 404 none [] false)

/-- The first run and two retries make six failed requests for the file. -/
theorem three_runs_fail_six_requests :
    (run (downloadStep (.ofRecording "s" []) plainHasher) ⟨arrivedWorld, []⟩
      [.execute arrivedJob expiring, .execute arrivedJob expiring,
        .execute arrivedJob expiring]).map (fun c => c.failed.count arrivedFile.id) = some 6 ∧
      backoffBeforeMetaLimit < 6 := by
  decide

end WaService
