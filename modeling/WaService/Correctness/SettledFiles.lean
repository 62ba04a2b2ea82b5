import WaService.System.FileRetries

/-!
# Files that a download leaves in transit

A download moves its file to `downloading` and to `storing` before it calls Meta and audit-core.
Some answers end a call with an exception that the task does not handle; the file then stays where
it is and its attempt is not counted. Every other execution settles the file.
-/

namespace WaService

open Python Relational

/-! ## Answers that are understood -/

/-- The first request ends with a `MediaFetchError` or a URL that is text, and the second one is
made. -/
def FetchUnderstood (resolution : HttpAnswer) (download : DownloadAnswer) : Prop :=
  RefusesUrl resolution ∨ GivesUrl resolution ∧ download ≠ .invalidUrl

/-- The attempts are used up, or every pair of answers that counts is understood. -/
def MediaUnderstood (answers : MetaAnswers) (req : FetchRequest) : Prop :=
  backoffBeforeMetaLimit ≤ req.attempt ∨
    FetchUnderstood answers.resolution answers.download ∧
      (Expires answers.resolution answers.download → req.attempt < 3 →
        FetchUnderstood answers.secondResolution answers.secondDownload)

/-- The body is an object whose ids are text as far as they are read. -/
def IdsReadable (body : Json) : Prop :=
  ∃ fields, body = .obj fields ∧
    ∀ evidence, fields.lookup "evidenceId" = some evidence → ∃ s, evidence = .str s ∧
      ∀ u, uuidOfString s = some u →
        ∀ journey, fields.lookup "journeyId" = some journey → ∃ t, journey = .str t

/-- An answer that should carry ids is not JSON, or its ids can be read. -/
def StoreUnderstood : HttpAnswer → Prop
  | .networkError => True
  | .response status body => status = 201 ∨ status = 409 → ∀ j, body = some j → IdsReadable j

/-! ## Calls that raise -/

theorem streamDownload_raised (H : Hasher) (declared : Option String) (url : String)
    (answer : DownloadAnswer) :
    streamDownload H declared (.str url) answer = .error .raised ↔ answer = .invalidUrl := by
  constructor
  · intro h
    cases answer with
    | networkError => cases h
    | invalidUrl => rfl
    | response status contentType chunks broken =>
      simp only [streamDownload] at h
      split at h
      · cases h
      · split at h
        · split at h
          · cases h
          · split at h
            · cases h
            · cases h
        · cases h
  · rintro rfl
    rfl

/-- One resolution and one download raise exactly when they are not understood. -/
theorem fetchOnce_raised (H : Hasher) (declared : Option String) (resolution : HttpAnswer)
    (download : DownloadAnswer) :
    (fetchOnce H declared resolution download).2 = .error .raised ↔
      ¬ FetchUnderstood resolution download := by
  unfold FetchUnderstood
  obtain ⟨hrefuses, -, code, retryable, hresolve, -⟩ | ⟨hgives, hrefuses, url, hresolve⟩ |
    ⟨hrefuses, hgives, hresolve | ⟨url, hresolve, hurl⟩⟩ := resolveMediaUrl_cases resolution
  · simp only [fetchOnce, hresolve]
    refine iff_of_false ?_ fun h => h (Or.inl hrefuses)
    intro h
    cases h
  · simp only [fetchOnce, hresolve, streamDownload_raised]
    constructor
    · rintro rfl (h | ⟨-, h⟩)
      · exact hrefuses h
      · exact h rfl
    · intro h
      by_contra hne
      exact h (Or.inr ⟨hgives, hne⟩)
  · simp only [fetchOnce, hresolve]
    exact iff_of_true trivial fun h => h.elim hrefuses fun h => hgives h.1
  · simp only [fetchOnce, hresolve, streamDownload_of_not_text H declared hurl]
    exact iff_of_true trivial fun h => h.elim hrefuses fun h => hgives h.1

theorem outcomeOf_raised {r : Except FetchFailure FetchResult} :
    outcomeOf r = .raised ↔ r = .error .raised := by
  constructor
  · intro h
    rcases r with (⟨code, retryable, quarantine⟩ | _) | result
    · cases h
    · rfl
    · cases h
  · rintro rfl
    rfl

/-- `fetch_media` raises what the task does not handle exactly at answers that are not
understood. -/
theorem fetchMedia_raised_iff {H : Hasher} {answers : MetaAnswers} {req : FetchRequest} :
    (fetchMedia H answers req).outcome = .raised ↔ ¬ MediaUnderstood answers req := by
  unfold fetchMedia MediaUnderstood
  by_cases hlimit : backoffBeforeMetaLimit ≤ req.attempt
  · rw [if_pos hlimit]
    refine iff_of_false ?_ fun h => h (Or.inl hlimit)
    intro h
    cases h
  · rw [if_neg hlimit]
    have hfirst := fetchOnce_raised H req.declaredSha256 answers.resolution answers.download
    have hsecond :=
      fetchOnce_raised H req.declaredSha256 answers.secondResolution answers.secondDownload
    have hresolves := resolvesAgain_iff H answers req
    by_cases hagain : Expires answers.resolution answers.download ∧ req.attempt < 3
    · have hunderstood : FetchUnderstood answers.resolution answers.download := by
        obtain ⟨⟨hgives, contentType, chunks, broken, hresponse⟩, -⟩ := hagain
        refine Or.inr ⟨hgives, ?_⟩
        rw [hresponse]
        exact DownloadAnswer.noConfusion
      simp only [if_pos (hresolves.mpr hagain), outcomeOf_raised, hsecond]
      constructor
      · rintro h (hused | ⟨-, hboth⟩)
        · exact hlimit hused
        · exact h (hboth hagain.1 hagain.2)
      · exact fun h hsecond => h (Or.inr ⟨hunderstood, fun _ _ => hsecond⟩)
    · simp only [if_neg (hagain ∘ hresolves.mp), outcomeOf_raised, hfirst]
      constructor
      · rintro h (hused | ⟨hunderstood, -⟩)
        · exact hlimit hused
        · exact h hunderstood
      · exact fun h hunderstood =>
          h (Or.inr ⟨hunderstood, fun he ha => absurd ⟨he, ha⟩ hagain⟩)

/-! ### Reading the ids -/

/-- The exception passes `except (ValueError, KeyError)`. -/
def Uncaught (e : Error) : Prop := e ≠ .valueError ∧ e ≠ .keyError

/-- Subscripting fails uncaught on a value that is no object. -/
theorem getItem_uncaught {j : Json} {key : String} {e : Error} (he : Uncaught e)
    (h : j.getItem key = .error e) : ∀ fields, j ≠ .obj fields := by
  rintro fields rfl
  simp only [Json.getItem] at h
  split at h
  · cases h
  · cases h
    exact he.2 rfl

theorem getItem_ok {j value : Json} {key : String} (h : j.getItem key = .ok value) :
    ∃ fields, j = .obj fields ∧ fields.lookup key = some value := by
  cases j with
  | obj fields =>
    simp only [Json.getItem] at h
    split at h
    · cases h
      exact ⟨fields, rfl, ‹_›⟩
    · cases h
  | _ => cases h

/-- Parsing an id fails uncaught exactly on a value that is not text. -/
theorem uuidOfJson_uncaught {j : Json} :
    (∃ e, uuidOfJson j = .error e ∧ Uncaught e) ↔ ∀ s, j ≠ .str s := by
  cases j with
  | str s =>
    refine iff_of_false ?_ fun h => h s rfl
    rintro ⟨e, h, hvalue, -⟩
    simp only [uuidOfJson] at h
    split at h
    · cases h
    · cases h
      exact hvalue rfl
  | null => exact iff_of_true ⟨.typeError, rfl, by decide, by decide⟩ fun s h => by cases h
  | _ => exact iff_of_true ⟨.attributeError, rfl, by decide, by decide⟩ fun s h => by cases h

theorem uuidOfJson_ok {j : Json} {u : UUID} (h : uuidOfJson j = .ok u) :
    ∃ s, j = .str s ∧ uuidOfString s = some u := by
  cases j with
  | str s =>
    simp only [uuidOfJson] at h
    split at h
    · cases h
      exact ⟨s, rfl, ‹_›⟩
    · cases h
  | _ => cases h

/-- Reading the ids of a body fails uncaught exactly when they are not readable. -/
theorem evidenceIdOf_uncaught {body : Json} :
    (∃ e, evidenceIdOf body = .error e ∧ Uncaught e) ↔ ¬ IdsReadable body := by
  constructor
  · rintro ⟨e, h, he⟩ ⟨fields, rfl, hids⟩
    obtain hget | ⟨evidence, hevidence, h⟩ := bind_eq_error.mp h
    · exact getItem_uncaught he hget fields rfl
    · obtain ⟨fields', hfields, hlookup⟩ := getItem_ok hevidence
      cases hfields
      obtain ⟨s, rfl, hjourney⟩ := hids evidence hlookup
      obtain hparse | ⟨u, hu, h⟩ := bind_eq_error.mp h
      · exact uuidOfJson_uncaught.mp ⟨e, hparse, he⟩ s rfl
      · obtain ⟨s', hs', hu⟩ := uuidOfJson_ok hu
        cases hs'
        obtain hget | ⟨journey, hget, h⟩ := bind_eq_error.mp h
        · exact getItem_uncaught he hget fields rfl
        · obtain ⟨fields', hfields, hlookup⟩ := getItem_ok hget
          cases hfields
          obtain ⟨t, rfl⟩ := hjourney u hu journey hlookup
          obtain hparse | ⟨_, -, h⟩ := bind_eq_error.mp h
          · exact uuidOfJson_uncaught.mp ⟨e, hparse, he⟩ t rfl
          · cases h
  · intro hids
    by_contra hnone
    have hcaught : ∀ e, evidenceIdOf body = .error e → ¬ Uncaught e := fun e h he =>
      hnone ⟨e, h, he⟩
    apply hids
    cases body with
    | obj fields =>
      refine ⟨fields, rfl, ?_⟩
      intro evidence hevidence
      have hget : (Json.obj fields).getItem "evidenceId" = .ok evidence := by
        simp only [Json.getItem, hevidence]
      have htext : ∃ s, evidence = .str s := by
        by_contra hnot
        obtain ⟨e, hparse, he⟩ := uuidOfJson_uncaught.mpr fun s hs => hnot ⟨s, hs⟩
        exact hcaught e (bind_eq_error.mpr (Or.inr ⟨evidence, hget,
          bind_eq_error.mpr (Or.inl hparse)⟩)) he
      obtain ⟨s, rfl⟩ := htext
      refine ⟨s, rfl, ?_⟩
      intro u hu journey hjourney
      have hparse : uuidOfJson (.str s) = .ok u := by simp only [uuidOfJson, hu]
      have hget' : (Json.obj fields).getItem "journeyId" = .ok journey := by
        simp only [Json.getItem, hjourney]
      by_contra hnot
      obtain ⟨e, hparse', he⟩ := uuidOfJson_uncaught.mpr fun t ht => hnot ⟨t, ht⟩
      exact hcaught e (bind_eq_error.mpr (Or.inr ⟨_, hget, bind_eq_error.mpr (Or.inr ⟨u, hparse,
        bind_eq_error.mpr (Or.inr ⟨journey, hget', bind_eq_error.mpr (Or.inl hparse')⟩)⟩)⟩)) he
    | _ => exact absurd ⟨by decide, by decide⟩ (hcaught .typeError rfl)

theorem storeBody_raised {body : Option Json} {caught : StoreOutcome} (hcaught : caught ≠ .raised) :
    storeBody body caught = .raised ↔ ¬ ∀ j, body = some j → IdsReadable j := by
  have hread : ∀ e, (decodedBody body >>= evidenceIdOf) = .error e → Uncaught e →
      ¬ ∀ j, body = some j → IdsReadable j := by
    intro e h he hall
    cases body with
    | none =>
      cases h
      exact he.1 rfl
    | some j => exact evidenceIdOf_uncaught.mp ⟨e, h, he⟩ (hall j rfl)
  have hreadable : (∀ e, (decodedBody body >>= evidenceIdOf) = .error e → ¬ Uncaught e) →
      ∀ j, body = some j → IdsReadable j := by
    rintro h j rfl
    by_contra hnot
    obtain ⟨e, hj, he⟩ := evidenceIdOf_uncaught.mpr hnot
    exact h e hj he
  unfold storeBody
  generalize decodedBody body >>= evidenceIdOf = r at hread hreadable
  cases r with
  | ok evidenceId =>
    refine iff_of_false ?_ fun h => h (hreadable ?_)
    · intro h
      cases h
    · intro e h
      cases h
  | error e =>
    cases e with
    | valueError =>
      refine iff_of_false hcaught fun h => h (hreadable ?_)
      rintro e h ⟨hvalue, -⟩
      cases h
      exact hvalue rfl
    | keyError =>
      refine iff_of_false hcaught fun h => h (hreadable ?_)
      rintro e h ⟨-, hkey⟩
      cases h
      exact hkey rfl
    | _ => exact iff_of_true rfl (hread _ rfl ⟨by decide, by decide⟩)

/-- `store_via_audit_core` raises what the task does not handle exactly at an answer that is not
understood. -/
theorem storeViaAuditCore_raised_iff {answer : HttpAnswer} :
    storeViaAuditCore answer = .raised ↔ ¬ StoreUnderstood answer := by
  cases answer with
  | networkError =>
    refine iff_of_false ?_ fun h => h trivial
    intro h
    cases h
  | response status body =>
    simp only [storeViaAuditCore, StoreUnderstood]
    by_cases h201 : status = 201
    · rw [if_pos h201, storeBody_raised (by exact StoreOutcome.noConfusion)]
      exact not_congr ⟨fun h _ => h, fun h => h (Or.inl h201)⟩
    · rw [if_neg h201]
      by_cases h409 : status = 409
      · rw [if_pos h409, storeBody_raised (by exact StoreOutcome.noConfusion)]
        exact not_congr ⟨fun h _ => h, fun h => h (Or.inr h409)⟩
      · rw [if_neg h409]
        refine iff_of_false ?_ fun h => h fun hstatus => absurd hstatus ?_
        · intro h
          cases h
        · exact fun hstatus => hstatus.elim h201 h409

/-! ## The law -/

/-- The calls of an execution. An upload whose headers cannot be encoded is a `UnicodeEncodeError`
before any answer; `encodes` says which values can. -/
def FileAnswers.callsEncoding (H : Hasher) (encodes : String → Bool) (a : FileAnswers) :
    FileCalls where
  now := a.now
  fetchMedia req := (WaService.fetchMedia H a.media req).outcome
  storeViaAuditCore req :=
    if encodes req.wamid then WaService.storeViaAuditCore a.auditCore else .raised
  deferOk := a.deferOk

section Law

variable (H : Hasher) (encodes : String → Bool) (db : Db) (job : FetchJob) (answers : FileAnswers)

/-- The journey that the file is stored under. -/
def FetchJob.journey (db : Db) (job : FetchJob) : Option UUID :=
  job.intakeJourneyId.or (sessionJourney db job.sessionId)

/-- The execution fetches and does not end with stored evidence. -/
def FetchOrStoreFails (row : File) : Prop :=
  (job.journey db).isSome = true ∧
    ∀ result, (fetchMedia H answers.media row.fetchRequest).outcome = .ok result →
      ∀ evidenceId, ¬ (encodes row.wamid = true ∧
        storeViaAuditCore answers.auditCore = .ok evidenceId)

/-- The execution leaves the row settled, and counts a failed fetch or store. -/
def SettlesCounted (row : File) : Prop :=
  ∃ row', fileById (fetchAndStoreFile db (answers.callsEncoding H encodes) job).db job.fileId =
      some row' ∧
    (row'.state = .stored ∨ row'.state = .failed ∨ row'.state = .quarantined) ∧
    (FetchOrStoreFails H encodes db job answers row → row'.attempts = row.attempts + 1)

/-- There is no journey, or Meta's answers are understood, and audit-core's when it is asked. -/
def Understood (row : File) : Prop :=
  job.journey db = none ∨
    MediaUnderstood answers.media row.fetchRequest ∧
      (¬ MediaRefused H answers.media row.fetchRequest →
        encodes row.wamid = true ∧ StoreUnderstood answers.auditCore)

variable {H encodes db job answers} {row : File}

/-- The database after an upload. -/
def afterStore (db : Db) (now : Timestamp) (fileId : UUID) (result : FetchResult) :
    StoreOutcome → Db
  | .raised => setFileState db fileId .storing
  | .failed code _ => failFile (setFileState db fileId .storing) fileId .failed code
  | .ok evidenceId => recordStored (setFileState db fileId .storing) now fileId result evidenceId

/-- Whether the poll can be deferred makes no difference to the database. -/
theorem storeFetched_db (db : Db) (calls : FileCalls) (job : FetchJob) (journeyId : UUID)
    (row : File) (result : FetchResult) :
    (storeFetched db calls job journeyId row result).db =
      afterStore db calls.now job.fileId result (calls.storeViaAuditCore ⟨job.tenantId, journeyId,
        row.wamid, job.sessionId, result.content, row.declaredName, result.mime⟩) := by
  unfold storeFetched
  simp only
  split
  · rename_i hcall
    rw [hcall]
    rfl
  · rename_i hcall
    rw [hcall]
    rfl
  · rename_i hcall
    rw [hcall]
    split
    · rfl
    · rfl

variable (encodes answers row) in
/-- After the fetch: the upload raises exactly where it is not understood. -/
theorem upload_raised_iff :
    (if encodes row.wamid then storeViaAuditCore answers.auditCore else .raised) = .raised ↔
      ¬ (encodes row.wamid = true ∧ StoreUnderstood answers.auditCore) := by
  by_cases hencodes : encodes row.wamid = true
  · rw [if_pos hencodes, storeViaAuditCore_raised_iff]
    exact not_congr ⟨fun h => ⟨hencodes, h⟩, fun h => h.2⟩
  · rw [if_neg hencodes]
    exact iff_of_true rfl fun h => hencodes h.1

/-- What follows a fetched object settles the row exactly when the upload does not raise. -/
theorem storeFetched_settles {journeyId : UUID} {result : FetchResult} {downloading : Db}
    (hfetch : (fetchMedia H answers.media row.fetchRequest).outcome = .ok result)
    (hrow : fileById downloading job.fileId = some { row with state := .downloading }) :
    (∃ row', fileById (storeFetched downloading (answers.callsEncoding H encodes) job journeyId row
          result).db job.fileId = some row' ∧
        (row'.state = .stored ∨ row'.state = .failed ∨ row'.state = .quarantined) ∧
        (FetchOrStoreFails H encodes db job answers row → row'.attempts = row.attempts + 1)) ↔
      encodes row.wamid = true ∧ StoreUnderstood answers.auditCore := by
  have hstoring := setFileState_self .storing hrow
  have hraised := upload_raised_iff encodes answers row
  have hcall : (answers.callsEncoding H encodes).storeViaAuditCore ⟨job.tenantId, journeyId,
      row.wamid, job.sessionId, result.content, row.declaredName, result.mime⟩ =
      if encodes row.wamid then storeViaAuditCore answers.auditCore else .raised := rfl
  rw [storeFetched_db, hcall]
  cases hupload : (if encodes row.wamid then storeViaAuditCore answers.auditCore
      else StoreOutcome.raised) with
  | raised =>
    refine iff_of_false ?_ (hraised.mp hupload)
    rintro ⟨row', hrow', hstate, -⟩
    rw [afterStore, hstoring] at hrow'
    cases hrow'
    rcases hstate with h | h | h <;> cases h
  | failed code retryable =>
    refine iff_of_true ⟨_, failFile_self .failed code hstoring, Or.inr (Or.inl rfl),
      fun _ => rfl⟩ ?_
    by_contra hnot
    rw [hraised.mpr hnot] at hupload
    cases hupload
  | ok evidenceId =>
    have hstored := recordStored_self (answers.callsEncoding H encodes).now result evidenceId
      hstoring
    have hencoded : encodes row.wamid = true ∧
        storeViaAuditCore answers.auditCore = .ok evidenceId := by
      by_cases hencodes : encodes row.wamid = true
      · rw [if_pos hencodes] at hupload
        exact ⟨hencodes, hupload⟩
      · rw [if_neg hencodes] at hupload
        cases hupload
    refine iff_of_true ⟨_, hstored, Or.inl rfl, ?_⟩ ?_
    · exact fun hfails => absurd hencoded (hfails.2 result hfetch evidenceId)
    · by_contra hnot
      rw [hraised.mpr hnot] at hupload
      cases hupload

/-- An execution on an existing row settles it and counts its failure exactly when the answers
that count are understood. -/
theorem settlesCounted_iff (hrow : fileById db job.fileId = some row) :
    SettlesCounted H encodes db job answers row ↔ Understood H encodes db job answers row := by
  unfold SettlesCounted Understood
  cases hjourney : job.journey db with
  | none =>
    refine iff_of_true ?_ (Or.inl rfl)
    have hdb : (fetchAndStoreFile db (answers.callsEncoding H encodes) job).db =
        failWithoutJourney db job.fileId := by
      unfold FetchJob.journey at hjourney
      simp only [fetchAndStoreFile, hjourney]
    rw [hdb]
    refine ⟨_, fileById_update_self _ _ hrow, Or.inr (Or.inl rfl), ?_⟩
    rintro ⟨hsome, -⟩
    rw [hjourney] at hsome
    cases hsome
  | some journeyId =>
    have hdownloading := setFileState_self .downloading hrow
    have hcall : (answers.callsEncoding H encodes).fetchMedia row.fetchRequest =
        (fetchMedia H answers.media row.fetchRequest).outcome := rfl
    have hnone : ¬ (some journeyId = (none : Option UUID)) := Option.some_ne_none journeyId
    rw [fetchAndStoreFile_of_journey hjourney hrow, hcall]
    cases hfetch : (fetchMedia H answers.media row.fetchRequest).outcome with
    | raised =>
      refine iff_of_false ?_ ?_
      · rintro ⟨row', hrow', hstate, -⟩
        rw [afterFetch, hdownloading] at hrow'
        cases hrow'
        rcases hstate with h | h | h <;> cases h
      · rintro (h | ⟨hmedia, -⟩)
        · exact hnone h
        · exact fetchMedia_raised_iff.mp hfetch hmedia
    | failed code retryable quarantine =>
      have hrefused := fetchMedia_failed_iff.mp ⟨code, retryable, quarantine, hfetch⟩
      refine iff_of_true ⟨_, failFile_self _ code hdownloading, ?_, fun _ => rfl⟩ (Or.inr ⟨?_, ?_⟩)
      · cases quarantine
        · exact Or.inr (Or.inl rfl)
        · exact Or.inr (Or.inr rfl)
      · by_contra hnot
        rw [fetchMedia_raised_iff.mpr hnot] at hfetch
        cases hfetch
      · exact fun h => absurd hrefused h
    | ok result =>
      have hunderstood : MediaUnderstood answers.media row.fetchRequest := by
        by_contra hnot
        rw [fetchMedia_raised_iff.mpr hnot] at hfetch
        cases hfetch
      have hserved : ¬ MediaRefused H answers.media row.fetchRequest := by
        intro hrefused
        obtain ⟨code, retryable, quarantine, hfailed⟩ := fetchMedia_failed_iff.mpr hrefused
        rw [hfetch] at hfailed
        cases hfailed
      rw [afterFetch, storeFetched_settles hfetch hdownloading]
      constructor
      · exact fun h => Or.inr ⟨hunderstood, fun _ => h⟩
      · rintro (h | ⟨-, h⟩)
        · exact absurd h hnone
        · exact h hserved

end Law

/-! ## Witnesses -/

/-- A file that is fetched and stored ends settled. -/
theorem arrivedFile_settles : SettlesCounted plainHasher isAscii arrivedWorld.db arrivedJob
    (answersOf givenUrl (served [10])) arrivedFile := by
  apply (settlesCounted_iff rfl).mpr
  refine Or.inr ⟨Or.inr ⟨Or.inr ⟨?_, by simp [answersOf, served]⟩, ?_⟩, fun _ => ⟨by decide, ?_⟩⟩
  · exact ⟨rfl, _, "u", rfl, rfl, by decide⟩
  · rintro ⟨-, contentType, chunks, broken, h⟩
    cases h
  · rintro - j hj
    cases hj
    refine ⟨_, rfl, ?_⟩
    intro evidence hevidence
    cases hevidence
    refine ⟨_, rfl, ?_⟩
    intro u _ journey hjourney
    cases hjourney
    exact ⟨_, rfl⟩

/-- When Meta cannot be reached for the URL the file stays in `downloading`, and no attempt is
counted. An answer of audit-core that is a list leaves the file in `storing`. -/
theorem arrivedFile_stranded :
    ((fileById (fetchAndStoreFile arrivedWorld.db
        ((answersOf .networkError (served [10])).callsEncoding plainHasher isAscii)
        arrivedJob).db 7).map fun f => (f.state, f.attempts)) = some (.downloading, 0) ∧
      ((fileById (fetchAndStoreFile arrivedWorld.db
        ({ answersOf givenUrl (served [10]) with
          auditCore := .response 201 (some (.arr [])) }.callsEncoding plainHasher isAscii)
        arrivedJob).db 7).map fun f => (f.state, f.attempts)) = some (.storing, 0) ∧
      ¬ SettlesCounted plainHasher isAscii arrivedWorld.db arrivedJob
        (answersOf .networkError (served [10])) arrivedFile := by
  have hstranded : ((fileById (fetchAndStoreFile arrivedWorld.db
      ((answersOf .networkError (served [10])).callsEncoding plainHasher isAscii)
      arrivedJob).db 7).map fun f => (f.state, f.attempts)) = some (.downloading, 0) := by decide
  refine ⟨hstranded, by decide, ?_⟩
  rintro ⟨row', hrow', hstate, -⟩
  rw [show arrivedJob.fileId = 7 from rfl] at hrow'
  rw [hrow', Option.map_some, Option.some.injEq, Prod.mk.injEq] at hstranded
  rw [hstranded.1] at hstate
  rcases hstate with h | h | h <;> cases h

end WaService
