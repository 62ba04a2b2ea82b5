import WaService.Correctness.FileCounts
import WaService.Correctness.FileFrames
import WaService.System.PollLog

/-!
# The flush nudge

A terminal poll advances the flush timer of its session when no stored file of the session is
without a document type. A file that has a type has received a terminal answer, so as long as some
stored file waits for one there is no nudge, as it should be. After that the count goes wrong in
two ways: it does not see the files that are not stored yet, and it takes an answer without a type
for no answer at all.
-/

namespace WaService

open Python Relational Transition

/-! ## The law -/

/-- The file is on its way to being stored. -/
def FileState.inFlight : FileState → Bool
  | .pending | .downloading | .storing => true
  | _ => false

/-- No file of the session is in flight, and every stored one has received a terminal answer. -/
def SessionReady (db : Db) (answered : List UUID) (sessionId : UUID) : Prop :=
  ∀ f ∈ db.files.rows, f.sessionId = sessionId →
    f.state.inFlight = false ∧ (f.state = .stored → f.id ∈ answered)

/-- Whatever its clock says, the execution leaves that in the flush timer of the session. -/
def SetsFlushToNow (env : Env) (db : Db) (calls : PollCalls) (job : PollJob) : Prop :=
  ∀ now, ∀ s ∈ (pollDiDocument env db { calls with now := now } job).db.sessions.rows,
    s.id = job.sessionId → s.flushAt = some now

/-- The poll is for a file of its session, which is in a state that the nudge accepts. -/
def PollsOpenSession (db : Db) (job : PollJob) : Prop :=
  (∃ f ∈ db.files.rows, f.id = job.fileId ∧ f.sessionId = job.sessionId) ∧
    ∃ s ∈ db.sessions.rows, s.id = job.sessionId ∧ s.state.isOpen = true

/-- A terminal poll sets the flush timer to now exactly when it leaves the session ready. -/
def NudgesWhenReady (env : Env) (s : PollLog) : FileRunAction → Prop
  | .other (.execute (.pollDiDocument job calls) _) =>
    (terminalAnswer calls job).isSome = true → PollsOpenSession s.db job →
      (SetsFlushToNow env s.db calls job ↔
        SessionReady (pollDiDocument env s.db calls job).db (job.fileId :: s.answered)
          job.sessionId)
  | _ => True

/-- The execution raises before its count: the answer cannot be persisted, or its type cannot be
compared with the types of the checklist of the linked deal. -/
def RaisesBeforeCount (env : Env) (db : Db) (calls : PollCalls) (job : PollJob) : Prop :=
  ∀ answer ∈ recordedAnswer env calls job, answer.1.satisfies = true ∧
    (dealOfSessionId db job.sessionId).isSome = true ∧
    (selectText answer.1.documentTypeKey).toOption = none

/-- The type of a file after the answer is persisted. -/
def typeAfter (env : Env) (calls : PollCalls) (job : PollJob) (f : File) : Option String :=
  if f.id = job.fileId then (recordedAnswer env calls job).bind fun answer => answer.2.1
  else f.documentTypeKey

/-- Some stored file of the session has received no terminal answer yet. -/
def StillWaits (db : Db) (answered : List UUID) (sessionId : UUID) : Prop :=
  ∃ f ∈ db.files.rows, f.sessionId = sessionId ∧ f.state = .stored ∧ f.id ∉ answered

/-- Some stored file of the session has been answered and is without a document type. -/
def AnsweredUntyped (env : Env) (db : Db) (answered : List UUID) (calls : PollCalls)
    (job : PollJob) : Prop :=
  ∃ f ∈ db.files.rows, f.sessionId = job.sessionId ∧ f.state = .stored ∧ f.id ∈ answered ∧
    typeAfter env calls job f = none

/-- Some file of the session is in flight. -/
def SomeInFlight (db : Db) (sessionId : UUID) : Prop :=
  ∃ f ∈ db.files.rows, f.sessionId = sessionId ∧ f.state.inFlight = true

/-- Another stored file still waits for its answer; or else the count is prevented, or spoiled by an
answer without a type, exactly when some file is in flight. -/
def PollCountsRight (env : Env) (db : Db) (answered : List UUID) (calls : PollCalls)
    (job : PollJob) : Prop :=
  StillWaits db answered job.sessionId ∨
    (RaisesBeforeCount env db calls job ∨ AnsweredUntyped env db answered calls job ↔
      SomeInFlight db job.sessionId)

/-- The count of a terminal poll is right. -/
def CountIsRight (env : Env) (s : PollLog) : FileRunAction → Prop
  | .other (.execute (.pollDiDocument job calls) _) =>
    (terminalAnswer calls job).isSome = true → PollsOpenSession s.db job →
      PollCountsRight env s.db (job.fileId :: s.answered) calls job
  | _ => True

instance (db : Db) (job : PollJob) : Decidable (PollsOpenSession db job) :=
  inferInstanceAs (Decidable ((∃ f ∈ db.files.rows, f.id = job.fileId ∧
    f.sessionId = job.sessionId) ∧
    ∃ s ∈ db.sessions.rows, s.id = job.sessionId ∧ s.state.isOpen = true))

instance (env : Env) (db : Db) (calls : PollCalls) (job : PollJob) :
    Decidable (RaisesBeforeCount env db calls job) :=
  inferInstanceAs (Decidable (∀ answer ∈ recordedAnswer env calls job,
    answer.1.satisfies = true ∧ (dealOfSessionId db job.sessionId).isSome = true ∧
    (selectText answer.1.documentTypeKey).toOption = none))

instance (env : Env) (db : Db) (answered : List UUID) (calls : PollCalls) (job : PollJob) :
    Decidable (PollCountsRight env db answered calls job) :=
  inferInstanceAs (Decidable ((∃ f ∈ db.files.rows, f.sessionId = job.sessionId ∧
      f.state = .stored ∧ f.id ∉ answered) ∨
    (RaisesBeforeCount env db calls job ∨ (∃ f ∈ db.files.rows, f.sessionId = job.sessionId ∧
        f.state = .stored ∧ f.id ∈ answered ∧ typeAfter env calls job f = none) ↔
      ∃ f ∈ db.files.rows, f.sessionId = job.sessionId ∧ f.state.inFlight = true)))

/-! ## Types and answers -/

/-- The files that have a type are in the list. -/
def TypedIn (ids : List UUID) (db : Db) : Prop :=
  ∀ f ∈ db.files.rows, f.documentTypeKey ≠ none → f.id ∈ ids

variable {env : Env} {db db' : Db} {ids : List UUID}

theorem TypedIn.of_files (h : TypedIn ids db) (hfiles : db'.files = db.files) :
    TypedIn ids db' := by
  unfold TypedIn
  rw [hfiles]
  exact h

/-- An update of files that leaves their types alone. -/
theorem TypedIn.updateFiles (h : TypedIn ids db) {p : File → Bool} {f : File → File}
    (hf : ∀ r, (f r).id = r.id ∧ (f r).wamid = r.wamid)
    (htype : ∀ r, (f r).documentTypeKey = r.documentTypeKey) :
    TypedIn ids (db.updateFiles p f hf) := by
  intro r hr hne
  obtain ⟨r₀, hr₀, rfl⟩ := List.mem_map.mp (hr : r ∈ db.files.rows.map (patch p f))
  have hid : (patch p f r₀).id = r₀.id := patch_proj (fun r _ => (hf r).1) r₀
  rw [patch_proj (g := File.documentTypeKey) fun r _ => htype r] at hne
  rw [hid]
  exact h r₀ hr₀ hne

/-- A file as a persisted answer leaves it. -/
def File.typed (typeKey : Option String) (facts : Json) (f : File) : File :=
  { f with documentTypeKey := typeKey, diFacts := some facts }

theorem recordType_rows (db : Db) (fileId : UUID) (typeKey : Option String) (facts : Json) :
    (recordType db fileId typeKey facts).files.rows =
      db.files.rows.map (patch (fun f => f.id == fileId) (File.typed typeKey facts)) := rfl

/-- Beside type and facts the file keeps its columns. -/
theorem patch_typed {β : Type} {g : File → β} {typeKey : Option String} {facts : Json}
    (hg : ∀ f, g (File.typed typeKey facts f) = g f) (fileId : UUID) (f : File) :
    g (patch (fun f => f.id == fileId) (File.typed typeKey facts) f) = g f :=
  patch_proj (fun f _ => hg f) f

theorem patch_typed_documentTypeKey (fileId : UUID) (typeKey : Option String) (facts : Json)
    (f : File) :
    (patch (fun f => f.id == fileId) (File.typed typeKey facts) f).documentTypeKey =
      if f.id = fileId then typeKey else f.documentTypeKey := by
  unfold patch
  by_cases hid : f.id = fileId
  · rw [if_pos (beq_iff_eq.mpr hid), if_pos hid]
    rfl
  · rw [if_neg (by simpa using hid), if_neg hid]

theorem recordType_typedIn (h : TypedIn ids db) (fileId : UUID) (typeKey : Option String)
    (facts : Json) : TypedIn (fileId :: ids) (recordType db fileId typeKey facts) := by
  intro r hr hne
  rw [recordType_rows] at hr
  obtain ⟨r₀, hr₀, rfl⟩ := List.mem_map.mp hr
  rw [patch_typed (g := File.id) fun _ => rfl]
  rw [patch_typed_documentTypeKey] at hne
  by_cases hid : r₀.id = fileId
  · exact hid ▸ List.mem_cons_self
  · rw [if_neg hid] at hne
    exact List.mem_cons_of_mem fileId (h r₀ hr₀ hne)

theorem TypedIn.append (h : TypedIn ids db) (more : List UUID) : TypedIn (more ++ ids) db :=
  fun f hf hne => List.mem_append_right more (h f hf hne)

variable (env) in
/-- The files after an execution of the poll. -/
theorem pollDiDocument_files (db : Db) (calls : PollCalls) (job : PollJob) :
    (pollDiDocument env db calls job).db.files =
      match recordedAnswer env calls job with
      | none => db.files
      | some (_, typeKey, facts) => (recordType db job.fileId typeKey facts).files := by
  cases hrecorded : recordedAnswer env calls job with
  | none =>
    rw [pollDiDocument_unrecorded db hrecorded]
    split
    · rfl
    · rfl
  | some answer =>
    obtain ⟨result, typeKey, facts⟩ := answer
    rw [pollDiDocument_recorded db hrecorded]
    split
    · rfl
    · rename_i satisfied hsatisfied
      obtain ⟨items, rfl⟩ := satisfyLinkedDeal_frame hsatisfied
      exact nudgeFlush_files _ _ _

variable (env) in
theorem pollDiDocument_typedIn (h : TypedIn ids db) (calls : PollCalls) (job : PollJob) :
    TypedIn ((if (terminalAnswer calls job).isSome then [job.fileId] else []) ++ ids)
      (pollDiDocument env db calls job).db := by
  have hfiles := pollDiDocument_files env db calls job
  cases hrecorded : recordedAnswer env calls job with
  | none =>
    rw [hrecorded] at hfiles
    exact (h.append _).of_files hfiles
  | some answer =>
    obtain ⟨result, typeKey, facts⟩ := answer
    rw [hrecorded] at hfiles
    rw [terminalAnswer_of_recorded hrecorded]
    exact (recordType_typedIn h job.fileId typeKey facts).of_files hfiles

theorem processInboxRow_typedIn (h : TypedIn ids db) (inp : InboxInput) (inboxId : Nat) :
    TypedIn ids (processInboxRow env db inp inboxId).db := by
  refine processInboxRow_preserves (P := TypedIn ids) ?_ ?_ ?_ ?_ h inboxId
  · exact fun d tenantId contactId orgUnitId sessions hd _ => hd
  · intro d f files hd hnew hins r hr hne
    rcases (Table.mem_of_insert? hins).mp hr with hr | rfl
    · exact hd r hr hne
    · exact absurd hnew.documentTypeKey hne
  · exact fun d sessionId hd => hd
  · exact fun d inboxId state hd => hd

theorem setFileState_typedIn (h : TypedIn ids db) (fileId : UUID) (state : FileState) :
    TypedIn ids (setFileState db fileId state) := by
  unfold setFileState
  exact h.updateFiles _ fun _ => rfl

theorem failFile_typedIn (h : TypedIn ids db) (fileId : UUID) (state : FileState) (code : String) :
    TypedIn ids (failFile db fileId state code) := by
  unfold failFile
  exact h.updateFiles _ fun _ => rfl

theorem failWithoutJourney_typedIn (h : TypedIn ids db) (fileId : UUID) :
    TypedIn ids (failWithoutJourney db fileId) := by
  unfold failWithoutJourney
  exact h.updateFiles _ fun _ => rfl

theorem recordStored_typedIn (h : TypedIn ids db) (now : Timestamp) (fileId : UUID)
    (result : FetchResult) (evidenceId : UUID) :
    TypedIn ids (recordStored db now fileId result evidenceId) := by
  unfold recordStored
  exact h.updateFiles _ fun _ => rfl

/-- A statement of a download writes no type. -/
theorem fileStatement_typedIn {H : Hasher} {s s' : FileShared} {i : Nat} {answers : FileAnswers}
    {l l' : FilePhase} (h : fileStatement H s i answers l = some (s', l'))
    (ht : TypedIn ids s.world.db) : TypedIn ids s'.world.db := by
  cases l with
  | idle => cases h
  | ended raised => cases h
  | resolving job =>
    cases h
    exact ht
  | journeyless job =>
    cases h
    exact failWithoutJourney_typedIn ht job.fileId
  | reading job journeyId =>
    cases h
    exact ht
  | marking job journeyId row =>
    cases h
    exact setFileState_typedIn ht job.fileId .downloading
  | fetching job journeyId row =>
    cases h
    exact ht
  | failing job quarantine code raises =>
    cases h
    exact failFile_typedIn ht job.fileId _ code
  | fetched job journeyId row result =>
    cases h
    exact setFileState_typedIn ht job.fileId .storing
  | posting job journeyId row result =>
    cases h
    exact ht
  | recording job journeyId result evidenceId =>
    cases h
    exact recordStored_typedIn ht answers.now job.fileId result evidenceId
  | deferring job journeyId evidenceId =>
    simp only [fileStatement] at h
    split at h
    · cases h
      exact ht
    · cases h
      exact ht

/-- In every state of a run, the files that have a type have received a terminal answer. -/
theorem pollLogStep_typedIn {H : Hasher} {s s' : PollLog} {a : FileRunAction}
    (hs : TypedIn s.answered s.db) (h : pollLogStep env H s a = some s') :
    TypedIn s'.answered s'.db := by
  obtain ⟨c, hstep, rfl⟩ := Option.map_eq_some_iff.mp h
  cases a with
  | start i job redelivered =>
    obtain ⟨hdb, -⟩ := fileRunStep_start hstep
    exact hs.of_files (congrArg Db.files hdb)
  | statement i answers =>
    obtain ⟨hstatement, -⟩ := fileRunStep_statement hstep
    exact fileStatement_typedIn hstatement hs
  | other a =>
    simp only [fileRunStep] at hstep
    split at hstep
    · cases hstep
    · rename_i hother
      obtain ⟨w, hw, rfl⟩ := Option.map_eq_some_iff.mp hstep
      obtain hsame | ⟨inboxId, inp, redelivered, rfl, hdb⟩ | ⟨job, calls, redelivered, rfl, hdb⟩ :=
        worldStep_files (Bool.eq_false_of_not_eq_true hother) hw
      · exact (hs.append _).of_files hsame
      · have hinbox : TypedIn s.answered w.db := by
          rw [hdb]
          exact processInboxRow_typedIn hs inp inboxId
        exact hinbox
      · have hpolled := pollDiDocument_typedIn env hs calls job
        rw [PollLog.db, ← hdb] at hpolled
        exact hpolled

/-! ## What the nudge does -/

/-- The file's row after an execution of the poll keeps what readiness looks at. -/
theorem sessionReady_pollDiDocument (db : Db) (calls : PollCalls) (job : PollJob)
    (sessionId : UUID) :
    SessionReady (pollDiDocument env db calls job).db ids sessionId ↔
      SessionReady db ids sessionId := by
  unfold SessionReady
  rw [pollDiDocument_files]
  cases recordedAnswer env calls job with
  | none => rfl
  | some answer =>
    obtain ⟨result, typeKey, facts⟩ := answer
    simp only [recordType_rows, List.forall_mem_map, patch_typed (g := File.id) fun _ => rfl,
      patch_typed (g := File.sessionId) fun _ => rfl, patch_typed (g := File.state) fun _ => rfl]

theorem sessionReady_iff {sessionId : UUID} :
    SessionReady db ids sessionId ↔
      ¬ StillWaits db ids sessionId ∧ ¬ SomeInFlight db sessionId := by
  constructor
  · intro h
    constructor
    · rintro ⟨f, hf, hsession, hstored, hnot⟩
      exact hnot ((h f hf hsession).2 hstored)
    · rintro ⟨f, hf, hsession, hflight⟩
      rw [(h f hf hsession).1] at hflight
      cases hflight
  · rintro ⟨hwaits, hflight⟩ f hf hsession
    constructor
    · exact Bool.eq_false_of_not_eq_true fun h => hflight ⟨f, hf, hsession, h⟩
    · intro hstored
      by_contra hnot
      exact hwaits ⟨f, hf, hsession, hstored, hnot⟩

/-- Satisfying the checklist of the linked deal raises only on a type that cannot be compared. -/
theorem satisfyLinkedDeal_error_iff {now : Timestamp} {job : PollJob} {result : DiPollResult} :
    (∃ e, satisfyLinkedDeal db now job result = .error e) ↔
      result.satisfies = true ∧ (dealOfSessionId db job.sessionId).isSome = true ∧
        (selectText result.documentTypeKey).toOption = none := by
  unfold satisfyLinkedDeal DiPollResult.satisfies dealOfSessionId
  cases hsatisfies : result.documentTypeKey.truthy && isConfirmed result.processingStatus with
  | false => simp
  | true =>
    cases hdeal : (db.sessions.rows.find? fun s => s.id == job.sessionId).bind (·.dealId) with
    | none => simp
    | some dealId =>
      cases htext : selectText result.documentTypeKey with
      | error e => simp [bind, Except.bind, Except.toOption]
      | ok typeKey => simp [bind, Except.bind, pure, Except.pure, Except.toOption]

/-- The count after a persisted answer is zero when no stored file is without a type. -/
theorem untypedFiles_recordType {calls : PollCalls} {job : PollJob} {result : DiPollResult}
    {typeKey : Option String} {facts : Json}
    (h : recordedAnswer env calls job = some (result, typeKey, facts)) :
    (untypedFiles (recordType db job.fileId typeKey facts) job.sessionId).isEmpty = true ↔
      ∀ f ∈ db.files.rows, f.sessionId = job.sessionId → f.state = .stored →
        typeAfter env calls job f ≠ none := by
  unfold untypedFiles
  simp only [List.isEmpty_iff, List.filter_eq_nil_iff, recordType_rows, List.forall_mem_map,
    patch_typed (g := File.sessionId) fun _ => rfl, patch_typed (g := File.state) fun _ => rfl,
    patch_typed_documentTypeKey, typeAfter, h, Option.bind_some]
  simp

theorem parkingNote_of_terminal {calls : PollCalls} {job : PollJob}
    (h : (terminalAnswer calls job).isSome = true) : parkingNote calls job = none := by
  unfold terminalAnswer at h
  unfold parkingNote
  split at h
  · rename_i result hfresh hpoll
    split at h
    · rename_i hterminal
      simp only [hfresh, hpoll, hterminal, Bool.not_true, Bool.false_and, Bool.false_eq_true,
        if_false]
    · cases h
  · cases h

/-- An execution that leaves the sessions alone does not set the flush timer. -/
theorem not_setsFlush {calls : PollCalls} {job : PollJob} {s : Session}
    (hs : s ∈ db.sessions.rows) (hid : s.id = job.sessionId)
    (h : ∀ now, (pollDiDocument env db { calls with now := now } job).db.sessions = db.sessions) :
    ¬ SetsFlushToNow env db calls job := by
  intro hsets
  have hflush := hsets (s.flushAt.getD 0 + 1) s (by rw [h]; exact hs) hid
  cases hold : s.flushAt with
  | none =>
    rw [hold] at hflush
    cases hflush
  | some time =>
    rw [hold] at hflush
    exact absurd (Option.some.inj hflush) (Int.ne_of_lt (Int.lt_succ time))

/-- Advancing the timer of an open session leaves the clock in it. -/
theorem advanceFlush_flushAt {s : Session} (hs : s ∈ db.sessions.rows)
    (hopen : s.state.isOpen = true)
    (now : Timestamp) :
    ∀ s' ∈ (advanceFlush db now s.id).sessions.rows, s'.id = s.id → s'.flushAt = some now := by
  intro s' hs' hid
  obtain ⟨s₀, hs₀, rfl⟩ := List.mem_map.mp
    (hs' : s' ∈ db.sessions.rows.map (patch (fun r => r.id == s.id && r.state.isOpen)
      fun r => { r with flushAt := some now }))
  have hkept : ∀ r : Session, (patch (fun r => r.id == s.id && r.state.isOpen)
      (fun r => { r with flushAt := some now }) r).id = r.id := patch_proj fun _ _ => rfl
  have hsame : s₀ = s := session_eq_of_id hs₀ hs ((hkept s₀).symm.trans hid)
  subst hsame
  rw [patch_of_pos (by simp [hopen])]

/-- A terminal poll of an open session sets the timer exactly when it comes to its count and every
stored file of the session has a type then. -/
theorem setsFlushToNow_iff {calls : PollCalls} {job : PollJob}
    (hterminal : (terminalAnswer calls job).isSome = true)
    (hopen : ∃ s ∈ db.sessions.rows, s.id = job.sessionId ∧ s.state.isOpen = true) :
    SetsFlushToNow env db calls job ↔
      ¬ RaisesBeforeCount env db calls job ∧
        ∀ f ∈ db.files.rows, f.sessionId = job.sessionId → f.state = .stored →
          typeAfter env calls job f ≠ none := by
  obtain ⟨s, hs, hid, hstate⟩ := hopen
  cases hrecorded : recordedAnswer env calls job with
  | none =>
    have hraises : RaisesBeforeCount env db calls job := by
      intro answer ha
      rw [hrecorded] at ha
      cases ha
    refine iff_of_false (not_setsFlush hs hid fun now => ?_) fun h => h.1 hraises
    have hsame : recordedAnswer env { calls with now := now } job = none := hrecorded
    have hnote : parkingNote { calls with now := now } job = none :=
      parkingNote_of_terminal hterminal
    rw [pollDiDocument_unrecorded db hsame, hnote]
  | some answer =>
    obtain ⟨result, typeKey, facts⟩ := answer
    have hsame : ∀ now, recordedAnswer env { calls with now := now } job =
        some (result, typeKey, facts) := fun _ => hrecorded
    have hraises : ∀ now, RaisesBeforeCount env db calls job ↔
        ∃ e, satisfyLinkedDeal (recordType db job.fileId typeKey facts) now job result =
          .error e := by
      intro now
      rw [satisfyLinkedDeal_error_iff, RaisesBeforeCount, hrecorded]
      exact ⟨fun h => h _ rfl, fun h answer ha => by cases ha; exact h⟩
    rw [← untypedFiles_recordType hrecorded]
    by_cases hraised : RaisesBeforeCount env db calls job
    · refine iff_of_false (not_setsFlush hs hid fun now => ?_) fun h => h.1 hraised
      obtain ⟨e, he⟩ := (hraises now).mp hraised
      rw [pollDiDocument_recorded db (hsame now)]
      simp only [he]
      rfl
    · rw [and_iff_right hraised]
      have hdb : ∀ now, ∃ satisfied : Db, satisfied.sessions = db.sessions ∧
          satisfied.files = (recordType db job.fileId typeKey facts).files ∧
          (pollDiDocument env db { calls with now := now } job).db =
            nudgeFlush satisfied now job.sessionId := by
        intro now
        rw [pollDiDocument_recorded db (hsame now)]
        cases hsatisfied : satisfyLinkedDeal (recordType db job.fileId typeKey facts) now job
            result with
        | error e => exact absurd ((hraises now).mpr ⟨e, hsatisfied⟩) hraised
        | ok satisfied =>
          obtain ⟨items, rfl⟩ := satisfyLinkedDeal_frame hsatisfied
          exact ⟨{ recordType db job.fileId typeKey facts with checklistItems := items },
            rfl, rfl, rfl⟩
      have hcounted : ∀ satisfied : Db,
          satisfied.files = (recordType db job.fileId typeKey facts).files →
          untypedFiles satisfied job.sessionId =
            untypedFiles (recordType db job.fileId typeKey facts) job.sessionId := by
        intro satisfied hfiles
        unfold untypedFiles
        rw [hfiles]
      constructor
      · intro hsets
        by_contra hcount
        refine not_setsFlush hs hid (fun now => ?_) hsets
        obtain ⟨satisfied, hsessions, hfiles, hnow⟩ := hdb now
        rw [hnow, nudgeFlush, hcounted satisfied hfiles, if_neg hcount, hsessions]
      · intro hcount now s' hs' hid'
        obtain ⟨satisfied, hsessions, hfiles, hnow⟩ := hdb now
        rw [hnow, nudgeFlush, hcounted satisfied hfiles, if_pos hcount, ← hid] at hs'
        exact advanceFlush_flushAt (hsessions ▸ hs) hstate now s' hs' (hid'.trans hid.symm)

/-- Where a typed file has been answered, every stored file has a type after the answer exactly when
none waits for its first answer and none has been answered without a type. -/
theorem allTyped_iff {calls : PollCalls} {job : PollJob} (ht : TypedIn ids db) :
    (∀ f ∈ db.files.rows, f.sessionId = job.sessionId → f.state = .stored →
        typeAfter env calls job f ≠ none) ↔
      ¬ StillWaits db (job.fileId :: ids) job.sessionId ∧
        ¬ AnsweredUntyped env db (job.fileId :: ids) calls job := by
  constructor
  · intro h
    constructor
    · rintro ⟨f, hf, hsession, hstored, hnot⟩
      have htyped := h f hf hsession hstored
      rw [List.mem_cons, not_or] at hnot
      rw [typeAfter, if_neg hnot.1] at htyped
      exact hnot.2 (ht f hf htyped)
    · rintro ⟨f, hf, hsession, hstored, -, huntyped⟩
      exact h f hf hsession hstored huntyped
  · rintro ⟨hwaits, huntyped⟩ f hf hsession hstored hnone
    by_cases hanswered : f.id ∈ job.fileId :: ids
    · exact huntyped ⟨f, hf, hsession, hstored, hanswered, hnone⟩
    · exact hwaits ⟨f, hf, hsession, hstored, hanswered⟩

theorem nudgesWhenReady_iff {s : PollLog} (ht : TypedIn s.answered s.db) (a : FileRunAction) :
    NudgesWhenReady env s a ↔ CountIsRight env s a := by
  unfold NudgesWhenReady CountIsRight
  split
  · rename_i job calls redelivered
    refine imp_congr_right fun hterminal => imp_congr_right fun hpolls => ?_
    rw [setsFlushToNow_iff hterminal hpolls.2, allTyped_iff ht, sessionReady_pollDiDocument,
      sessionReady_iff, PollCountsRight]
    tauto
  · rfl

/-- In every run of the service, each terminal poll sets the flush timer to now exactly when it
leaves its session ready if and only if each terminal poll finds its count right. -/
theorem nudges_when_ready_iff (env : Env) (H : Hasher) (w : World) (actions : List FileRunAction) :
    Meets (pollLogStep env H) (NudgesWhenReady env) (pollLogStart w) actions ↔
      Meets (pollLogStep env H) (CountIsRight env) (pollLogStart w) actions := by
  have hstart : TypedIn (pollLogStart w).answered (pollLogStart w).db :=
    fun f hf => absurd hf List.not_mem_nil
  constructor
  · intro h
    exact h.imp_of_preserves (fun s => TypedIn s.answered s.db)
      (fun s a s' hs _ ha => pollLogStep_typedIn hs ha)
      (fun s a hs hc => (nudgesWhenReady_iff hs a).mp hc) hstart
  · intro h
    exact h.imp_of_preserves (fun s => TypedIn s.answered s.db)
      (fun s a s' hs _ ha => pollLogStep_typedIn hs ha)
      (fun s a hs hc => (nudgesWhenReady_iff hs a).mpr hc) hstart

/-! ## Two counts that go wrong -/

/-- A body with photos is received, its task is executed, and the file of a photo is downloaded. -/
def photoDownloaded (inboxId : Nat) (rawBody : List UInt8) (signature : String) (fileId : UUID) :
    List FileRunAction :=
  [.other (.webhook inboxId rawBody (some signature) true),
    .other (.execute (.processInboxRow inboxId
      ⟨0, 7, fun n => BitVec.ofNat 128 (100 * inboxId + n), fun _ => true⟩) false),
    .start 0 ⟨fileId, 7, 2, 6, 3, .en, some 9⟩ false] ++
  List.replicate 8 (.statement 0 (answersOf givenUrl (served [10])))

/-- The job of the poll that the download has deferred. -/
def photoPoll (fileId : UUID) : PollJob := ⟨fileId, 7, 2, 9, 17, 0, none⟩

/-- DI ends a document. -/
def documentEnds (status documentTypeKey : Json) : PollCalls :=
  ⟨1, .ok ⟨status, documentTypeKey, true⟩, .raised, true⟩

theorem not_nudgesWhenReady {env : Env} {H : Hasher} {w : World} {as : List FileRunAction}
    {calls : PollCalls} {job : PollJob}
    (h : (run (pollLogStep env H) (pollLogStart w) as).map (fun s =>
      decide ((terminalAnswer calls job).isSome = true ∧ PollsOpenSession s.db job ∧
        (.pollDiDocument job) ∈ s.runs.shared.world.jobs ∧
        ¬ PollCountsRight env s.db (job.fileId :: s.answered) calls job)) = some true) :
    ∃ s, run (pollLogStep env H) (pollLogStart w) as = some s ∧
      .pollDiDocument job ∈ s.runs.shared.world.jobs ∧
      ¬ NudgesWhenReady env s (.other (.execute (.pollDiDocument job calls) false)) := by
  obtain ⟨s, hs, hview⟩ := Option.map_eq_some_iff.mp h
  obtain ⟨hterminal, hpolls, hjob, hwrong⟩ := of_decide_eq_true hview
  have htyped : TypedIn s.answered s.db :=
    run_preserves (fun s => TypedIn s.answered s.db) (fun _ _ _ hs ha => pollLogStep_typedIn hs ha)
      hs fun f hf => absurd hf List.not_mem_nil
  exact ⟨s, hs, hjob, fun hnudges =>
    hwrong ((nudgesWhenReady_iff htyped _).mp hnudges hterminal hpolls)⟩

/-- The only file of a session fails without a type, and the timer is left alone; the first of two
photos is confirmed, and the timer is advanced although the second one is not downloaded yet. -/
theorem nudges_miscounted :
    (∃ s, run (pollLogStep photosEnv plainHasher) (pollLogStart ⟨boundDb, []⟩)
        (photoDownloaded 2 [2] "sha256=a2" 200) = some s ∧
      .pollDiDocument (photoPoll 200) ∈ s.runs.shared.world.jobs ∧
      ¬ NudgesWhenReady photosEnv s (.other (.execute (.pollDiDocument (photoPoll 200)
        (documentEnds (.str "FAILED") .null)) false))) ∧
    ∃ s, run (pollLogStep photosEnv plainHasher) (pollLogStart ⟨boundDb, []⟩)
        (photoDownloaded 1 [1] "sha256=a1" 100) = some s ∧
      .pollDiDocument (photoPoll 100) ∈ s.runs.shared.world.jobs ∧
      ¬ NudgesWhenReady photosEnv s (.other (.execute (.pollDiDocument (photoPoll 100)
        (documentEnds (.str "CONFIRMED") (.str "PAN"))) false)) := by
  constructor
  · exact not_nudgesWhenReady (by decide +kernel)
  · exact not_nudgesWhenReady (by decide +kernel)

end WaService
