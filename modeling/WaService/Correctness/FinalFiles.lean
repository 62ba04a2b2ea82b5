import WaService.Correctness.FileFrames

/-!
# Files that are stored or quarantined

No statement of the download task looks at the state of its file. A file keeps a final state exactly
as long as no execution comes to a statement that writes another one, and no execution does when
each starts on a file that is not final and that no other execution is still working on.
-/

namespace WaService

open Python Relational Transition

variable {env : Env} {H : Hasher} {c c' : FileRuns}

/-- The file is stored or quarantined. -/
def FileState.isFinal : FileState → Bool
  | .stored | .quarantined => true
  | _ => false

/-- A file that is found in a final state is found in it after the step. -/
def KeepsFinalStates (env : Env) (H : Hasher) (c : FileRuns) (a : FileRunAction) : Prop :=
  ∀ c', fileRunStep env H c a = some c' →
    ∀ fileId row, fileById c.shared.world.db fileId = some row → row.state.isFinal = true →
      ∃ row', fileById c'.shared.world.db fileId = some row' ∧ row'.state = row.state

/-- An execution does not come to a statement that writes a state over another, final one. -/
def FindsNotFinal (c : FileRuns) : FileRunAction → Prop
  | .statement i _ => ∀ fileId state row, (c.phase i).writes = some (fileId, state) →
      fileById c.shared.world.db fileId = some row → row.state.isFinal = true → row.state = state
  | _ => True

/-! ## One step -/

theorem keepsFinalStates_iff (c : FileRuns) (a : FileRunAction) :
    KeepsFinalStates env H c a ↔ FindsNotFinal c a := by
  cases a with
  | start i job redelivered =>
    refine iff_of_true (fun c' h fileId row hrow _ => ?_) trivial
    obtain ⟨hdb, -⟩ := fileRunStep_start h
    rw [hdb]
    exact ⟨row, hrow, rfl⟩
  | other a =>
    refine iff_of_true (fun c' h fileId row hrow _ => ?_) trivial
    obtain ⟨hkept, -⟩ := fileRunStep_other h
    obtain ⟨row', hrow', hprogress⟩ := (hkept.fileById fileId).1 row hrow
    exact ⟨row', hrow', congrArg File.Progress.state hprogress⟩
  | statement i answers =>
    constructor
    · intro hkeeps fileId state row hwrites hrow hfinal
      obtain ⟨s, l, hstatement⟩ := fileStatement_of_writes H c.shared i answers hwrites
      obtain ⟨row', hrow', hstate⟩ :=
        hkeeps _ (statement_step hstatement) fileId row hrow hfinal
      rw [Processes.advance_shared] at hrow'
      obtain ⟨hnone, -⟩ | ⟨fileId', state', hsome, hwritten⟩ := fileStatement_writes hstatement
      · rw [hwrites] at hnone
        cases hnone
      · rw [hwrites] at hsome
        cases hsome
        obtain ⟨row'', hrow'', hstate'', -⟩ := hwritten.target row hrow
        rw [hrow'] at hrow''
        cases hrow''
        rw [← hstate, hstate'']
    · intro hfinds c' h fileId row hrow hfinal
      obtain ⟨hstatement, -⟩ := fileRunStep_statement h
      obtain ⟨-, hdb⟩ | ⟨fileId', state, hwrites, hwritten⟩ := fileStatement_writes hstatement
      · rw [hdb]
        exact ⟨row, hrow, rfl⟩
      · by_cases hfile : fileId = fileId'
        · subst hfile
          obtain ⟨row', hrow', hstate, -⟩ := hwritten.target row hrow
          exact ⟨row', hrow', hstate.trans (hfinds fileId state row hwrites hrow hfinal).symm⟩
        · rw [hwritten.others fileId hfile]
          exact ⟨row, hrow, rfl⟩

/-! ## One execution at a time -/

/-- The file whose state an execution may still write. -/
def FilePhase.workingOn : FilePhase → Option UUID
  | .idle | .deferring _ _ _ | .ended _ => none
  | .resolving job | .journeyless job | .reading job _ | .marking job _ _ | .fetching job _ _
  | .failing job _ _ _ | .fetched job _ _ _ | .posting job _ _ _ | .recording job _ _ _ =>
    some job.fileId

/-- An execution starts on a file that is not final and that no other execution is working on. -/
def StartsAlone (c : FileRuns) : FileRunAction → Prop
  | .start _ job _ => (∀ row, fileById c.shared.world.db job.fileId = some row →
      row.state.isFinal = false) ∧ ∀ j, (c.phase j).workingOn ≠ some job.fileId
  | _ => True

/-- The execution is working on the file. -/
def FilePhase.Holds (l : FilePhase) (fileId : UUID) : Prop := l.workingOn = some fileId

/-- No two executions work on one file, and the files that are worked on are not final. -/
structure WorkedOnAlone (c : FileRuns) : Prop where
  exclusive : Processes.Exclusive FilePhase.Holds c
  notFinal : ∀ i fileId, (c.phase i).Holds fileId →
    ∀ row, fileById c.shared.world.db fileId = some row → row.state.isFinal = false

/-- A statement takes on no other file, and does not leave the file that it goes on with in a final
state. -/
theorem fileStatement_holds {s s' : FileShared} {i : Nat} {answers : FileAnswers}
    {l l' : FilePhase} (h : fileStatement H s i answers l = some (s', l')) :
    (∀ fileId, l'.Holds fileId → l.Holds fileId) ∧
      ∀ fileId state, l.writes = some (fileId, state) → l.Holds fileId ∧
        (l'.Holds fileId → state.isFinal = false) := by
  cases l with
  | idle => cases h
  | ended raised => cases h
  | resolving job =>
    cases h
    refine ⟨fun fileId hholds => ?_, fun fileId state hwrites => (by cases hwrites)⟩
    cases hjourney : job.intakeJourneyId.or (sessionJourney s.world.db job.sessionId) with
    | none =>
      rw [hjourney] at hholds
      exact hholds
    | some journeyId =>
      rw [hjourney] at hholds
      exact hholds
  | journeyless job =>
    cases h
    refine ⟨fun fileId hholds => (by cases hholds), fun fileId state hwrites => ?_⟩
    cases hwrites
    exact ⟨rfl, fun hholds => (by cases hholds)⟩
  | reading job journeyId =>
    cases h
    refine ⟨fun fileId hholds => ?_, fun fileId state hwrites => (by cases hwrites)⟩
    cases hrow : fileById s.world.db job.fileId with
    | none =>
      rw [hrow] at hholds
      cases hholds
    | some row =>
      rw [hrow] at hholds
      exact hholds
  | marking job journeyId row =>
    cases h
    refine ⟨fun fileId hholds => hholds, fun fileId state hwrites => ?_⟩
    cases hwrites
    exact ⟨rfl, fun _ => rfl⟩
  | fetching job journeyId row =>
    cases h
    refine ⟨fun fileId hholds => ?_, fun fileId state hwrites => (by cases hwrites)⟩
    cases hfetch : (fetchMedia H answers.media row.fetchRequest).outcome with
    | raised =>
      rw [hfetch] at hholds
      cases hholds
    | failed code retryable quarantine =>
      rw [hfetch] at hholds
      exact hholds
    | ok result =>
      rw [hfetch] at hholds
      exact hholds
  | failing job quarantine code raises =>
    cases h
    refine ⟨fun fileId hholds => (by cases hholds), fun fileId state hwrites => ?_⟩
    cases hwrites
    exact ⟨rfl, fun hholds => (by cases hholds)⟩
  | fetched job journeyId row result =>
    cases h
    refine ⟨fun fileId hholds => hholds, fun fileId state hwrites => ?_⟩
    cases hwrites
    exact ⟨rfl, fun _ => rfl⟩
  | posting job journeyId row result =>
    cases h
    refine ⟨fun fileId hholds => ?_, fun fileId state hwrites => (by cases hwrites)⟩
    cases hstore : storeViaAuditCore answers.auditCore with
    | raised =>
      rw [hstore] at hholds
      cases hholds
    | failed code retryable =>
      rw [hstore] at hholds
      exact hholds
    | ok evidenceId =>
      rw [hstore] at hholds
      exact hholds
  | recording job journeyId result evidenceId =>
    cases h
    refine ⟨fun fileId hholds => (by cases hholds), fun fileId state hwrites => ?_⟩
    cases hwrites
    exact ⟨rfl, fun hholds => (by cases hholds)⟩
  | deferring job journeyId evidenceId =>
    simp only [fileStatement] at h
    refine ⟨fun fileId hholds => ?_, fun fileId state hwrites => (by cases hwrites)⟩
    split at h
    · cases h
      cases hholds
    · cases h
      cases hholds

/-- An execution that starts takes on a file that is free and not final. -/
theorem WorkedOnAlone.start {i : Nat} {job : FetchJob} {redelivered : Bool}
    (hinv : WorkedOnAlone c) (hstart : StartsAlone c (.start i job redelivered))
    (h : fileRunStep env H c (.start i job redelivered) = some c') : WorkedOnAlone c' := by
  obtain ⟨hdb, hothers, hself, -, -, -⟩ := fileRunStep_start h
  obtain ⟨hnotFinal, hfree⟩ := hstart
  have hholds : ∀ fileId, (c'.phase i).Holds fileId → fileId = job.fileId := by
    intro fileId hheld
    rw [hself] at hheld
    exact (Option.some.inj hheld).symm
  constructor
  · intro j k fileId hj hk
    by_cases hji : j = i
    · by_cases hki : k = i
      · rw [hji, hki]
      · rw [hji] at hj
        rw [hothers k hki, hholds fileId hj] at hk
        exact absurd hk (hfree k)
    · by_cases hki : k = i
      · rw [hki] at hk
        rw [hothers j hji, hholds fileId hk] at hj
        exact absurd hj (hfree j)
      · rw [hothers j hji] at hj
        rw [hothers k hki] at hk
        exact hinv.exclusive j k fileId hj hk
  · intro j fileId hj row hrow
    rw [hdb] at hrow
    by_cases hji : j = i
    · rw [hji] at hj
      rw [hholds fileId hj] at hrow
      exact hnotFinal row hrow
    · rw [hothers j hji] at hj
      exact hinv.notFinal j fileId hj row hrow

/-- A step of the rest of the service leaves the states of the files alone. -/
theorem WorkedOnAlone.other {a : Action} (hinv : WorkedOnAlone c)
    (h : fileRunStep env H c (.other a) = some c') : WorkedOnAlone c' := by
  obtain ⟨hkept, hphase, -⟩ := fileRunStep_other h
  constructor
  · intro j k fileId hj hk
    rw [hphase] at hj hk
    exact hinv.exclusive j k fileId hj hk
  · intro j fileId hj row' hrow'
    rw [hphase] at hj
    obtain ⟨hold, hnew⟩ := hkept.fileById fileId
    cases hrow : fileById c.shared.world.db fileId with
    | some row =>
      obtain ⟨row'', hrow'', hprogress⟩ := hold row hrow
      rw [hrow'] at hrow''
      cases hrow''
      have hstate : row'.state = row.state := congrArg File.Progress.state hprogress
      rw [hstate]
      exact hinv.notFinal j fileId hj row hrow
    | none =>
      rw [(hnew hrow row' hrow').state]
      rfl

/-- A statement writes the state of the file that its own execution works on. -/
theorem WorkedOnAlone.statement {i : Nat} {answers : FileAnswers} (hinv : WorkedOnAlone c)
    (h : fileRunStep env H c (.statement i answers) = some c') : WorkedOnAlone c' := by
  obtain ⟨hstatement, hothers⟩ := fileRunStep_statement h
  obtain ⟨hheld, hwritten⟩ := fileStatement_holds hstatement
  have hbefore : ∀ j fileId, (c'.phase j).Holds fileId → (c.phase j).Holds fileId := by
    intro j fileId hj
    by_cases hji : j = i
    · rw [hji] at hj ⊢
      exact hheld fileId hj
    · rwa [hothers j hji] at hj
  constructor
  · intro j k fileId hj hk
    exact hinv.exclusive j k fileId (hbefore j fileId hj) (hbefore k fileId hk)
  · intro j fileId hj row' hrow'
    obtain ⟨-, hdb⟩ | ⟨target, state, hwrites, heffect⟩ := fileStatement_writes hstatement
    · rw [hdb] at hrow'
      exact hinv.notFinal j fileId (hbefore j fileId hj) row' hrow'
    · by_cases hfile : fileId = target
      · subst hfile
        -- Only the execution itself works on the file that it writes.
        obtain ⟨hself, hstate⟩ := hwritten fileId state hwrites
        obtain rfl := hinv.exclusive j i fileId (hbefore j fileId hj) hself
        cases hrow : fileById c.shared.world.db fileId with
        | none =>
          rw [heffect.absent hrow] at hrow'
          cases hrow'
        | some row =>
          obtain ⟨row'', hrow'', hstate'', -⟩ := heffect.target row hrow
          rw [hrow'] at hrow''
          cases hrow''
          rw [hstate'']
          exact hstate hj
      · rw [heffect.others fileId hfile] at hrow'
        exact hinv.notFinal j fileId (hbefore j fileId hj) row' hrow'

theorem workedOnAlone_step {a : FileRunAction} (hinv : WorkedOnAlone c) (hstart : StartsAlone c a)
    (h : fileRunStep env H c a = some c') : WorkedOnAlone c' := by
  cases a with
  | start i job redelivered => exact hinv.start hstart h
  | other a => exact hinv.other h
  | statement i answers => exact hinv.statement h

theorem findsNotFinal_of_workedOnAlone {a : FileRunAction} (hinv : WorkedOnAlone c) :
    FindsNotFinal c a := by
  cases a with
  | start i job redelivered => trivial
  | other a => trivial
  | statement i answers =>
    intro fileId state row hwrites hrow hfinal
    obtain ⟨s, l, hstatement⟩ := fileStatement_of_writes plainHasher c.shared i answers hwrites
    have hholds := ((fileStatement_holds hstatement).2 fileId state hwrites).1
    rw [hinv.notFinal i fileId hholds row hrow] at hfinal
    cases hfinal

/-! ## The run -/

/-- In every run final states are kept if and only if no statement of an execution writes over a
final state, and they are kept when every execution starts alone on a file that is not final. -/
theorem final_states_kept_iff (env : Env) (H : Hasher) (w : World) (as : List FileRunAction) :
    (Meets (fileRunStep env H) (KeepsFinalStates env H) (fileRunStart w) as ↔
      Meets (fileRunStep env H) FindsNotFinal (fileRunStart w) as) ∧
    (Meets (fileRunStep env H) StartsAlone (fileRunStart w) as →
      Meets (fileRunStep env H) (KeepsFinalStates env H) (fileRunStart w) as) := by
  have hiff : Meets (fileRunStep env H) (KeepsFinalStates env H) (fileRunStart w) as ↔
      Meets (fileRunStep env H) FindsNotFinal (fileRunStart w) as :=
    ⟨fun h => h.imp fun c a => (keepsFinalStates_iff c a).mp,
      fun h => h.imp fun c a => (keepsFinalStates_iff c a).mpr⟩
  have hidle : WorkedOnAlone (fileRunStart w) :=
    ⟨fun i j fileId hi _ => (by cases hi), fun i fileId hi => (by cases hi)⟩
  refine ⟨hiff, fun halone => hiff.mpr ?_⟩
  exact halone.imp_of_preserves WorkedOnAlone (fun c a c' => workedOnAlone_step)
    (fun c a hinv _ => findsNotFinal_of_workedOnAlone hinv) hidle

/-! ## A second execution -/

/-- An execution of the download, up to its statement `n`. -/
def downloadUpTo (i n : Nat) (answers : FileAnswers) : List FileRunAction :=
  .start i arrivedJob true :: List.replicate n (.statement i answers)

/-- The states of the files after a run. -/
def statesAfter (as : List FileRunAction) : Option (List FileState) :=
  (run (fileRunStep (.ofRecording "s" []) plainHasher) (fileRunStart arrivedWorld) as).map
    fun c => c.shared.world.db.files.rows.map File.state

/-- The download is served. -/
def servedOnce : FileAnswers := answersOf givenUrl (served [10])

/-- The content has not the declared hash. -/
def servedWrong : FileAnswers := answersOf givenUrl (served [11])

/-- A stored file and a quarantined one are downloading again once the job is repeated. -/
theorem final_files_downloaded_again :
    statesAfter (downloadUpTo 0 7 servedOnce) = some [.stored] ∧
      statesAfter (downloadUpTo 0 7 servedOnce ++ downloadUpTo 1 3 servedOnce) =
        some [.downloading] ∧
      statesAfter (downloadUpTo 0 5 servedWrong) = some [.quarantined] ∧
      statesAfter (downloadUpTo 0 5 servedWrong ++ downloadUpTo 1 3 servedWrong) =
        some [.downloading] := by
  decide

end WaService
