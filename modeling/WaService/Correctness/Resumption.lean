import WaService.Correctness.Provenance

/-!
# Parked sessions

`process_session` parks a session whose files are not ready, and the poll of the last
file is meant to bring it back. The flush claims collecting sessions only, and the
nudge of the poll changes the timer of open sessions only; no step makes a session
collecting again. A parked session is therefore never claimed, however its files end.
-/

namespace WaService

open Python Relational Transition

/-- Some flush would claim the session. -/
def Eligible (db : Db) (sessionId : UUID) : Prop :=
  ∃ now, ∃ s ∈ db.sessions.rows, s.id = sessionId ∧ flushable now s = true

/-- The session exists and is not collecting files. -/
def NotCollecting (db : Db) (sessionId : UUID) : Prop :=
  ∃ s ∈ db.sessions.rows, s.id = sessionId ∧ s.state ≠ .collecting

variable {env : Env} {w w' : World} {a : Action} {sessionId : UUID}

/-- A flush claims collecting sessions only. -/
theorem NotCollecting.not_eligible {db : Db} (h : NotCollecting db sessionId) :
    ¬ Eligible db sessionId := by
  rintro ⟨now, t, ht, htid, hflush⟩
  obtain ⟨s, hs, hsid, hstate⟩ := h
  have hsame : t = s := session_eq_of_id ht hs (htid.trans hsid.symm)
  rw [hsame] at hflush
  simp only [flushable, Bool.and_eq_true, beq_iff_eq] at hflush
  exact hstate hflush.1

/-- What a flush claims was eligible. -/
theorem eligible_of_claimed {db : Db} {now : Timestamp} {limit : Nat}
    (h : sessionId ∈ (claimSessionsForFlush db now limit).1) : Eligible db sessionId := by
  simp only [claimSessionsForFlush, List.mem_map, List.mem_filter, Bool.and_eq_true] at h
  obtain ⟨s, ⟨hs, hflush, -⟩, hid⟩ := h
  exact ⟨now, s, hs, hid, hflush⟩

/-- No step makes a session collecting again. -/
theorem NotCollecting.step (hn : NotCollecting w.db sessionId) (h : worldStep env w a = some w') :
    NotCollecting w'.db sessionId := by
  obtain ⟨s, hs, hid, hstate⟩ := hn
  obtain ⟨s', hs', hf⟩ := (worldStep_evolves h).sessions.kept s hs
  exact ⟨s', hs', hf.id.trans hid, fun hc => hstate (hf.collecting hc)⟩

/-- A parked session is eligible for no flush after any run. -/
theorem parked_session_never_resumes (env : Env) {as : List Action} {s : Session}
    (hs : s ∈ w.db.sessions.rows) (hparked : s.state = .parked)
    (h : run (worldStep env) w as = some w') : ¬ Eligible w'.db s.id := by
  have hstart : NotCollecting w.db s.id := ⟨s, hs, rfl, by simp [hparked]⟩
  have hlast : NotCollecting w'.db s.id :=
    run_preserves (fun w : World => NotCollecting w.db s.id)
      (fun _ _ _ hn ha => hn.step ha) h hstart
  exact hlast.not_eligible

/-! ## A photo that is polled too late -/

/-- Every file of the session is stored and has its terminal answer. -/
def filesReady (db : Db) (sessionId : UUID) : Bool :=
  (db.files.rows.filter fun f => f.sessionId == sessionId).all fun f =>
    f.state == .stored && f.documentTypeKey.isSome

/-- The arguments of the photo's download. -/
def photoFetch : FetchJob := ⟨100, 7, 2, 6, 3, .en, some 9⟩

/-- The photo is downloaded and stored. -/
def photoStored : Action :=
  .execute (.fetchAndStoreFile photoFetch ⟨0, fun _ => .ok ⟨[], "", 0, "image/jpeg"⟩,
    fun _ => .ok 200, true⟩) false

/-- The debounce expires and the session is processed. -/
def sessionProcessed : List Action :=
  [.flush (seconds 91) fun _ => true,
    .execute (.processSession 7 ⟨seconds 91, 0, fun _ => 0, 0, 0⟩) false]

/-- The poll finds the photo to be a confirmed PAN card. -/
def photoPolled : Action :=
  .execute (.pollDiDocument ⟨100, 7, 2, 9, 200, 0, none⟩
    ⟨seconds 95, .ok ⟨.str "CONFIRMED", .str "PAN", true⟩, .raised, true⟩) false

/-- The sessions with their states and notes. -/
def sessionNotes (w : World) : List (UUID × SessionState × Option String) :=
  w.db.sessions.rows.map fun s => (s.id, s.state, s.note)

/-- Parked before its photo is stored, the session is not eligible once the photo is
stored and polled. -/
theorem parked_session_never_resumes_filesNotReady :
    ∃ w w', run (worldStep photoEnv) ⟨.empty, []⟩ (firstPhoto ++ sessionProcessed) = some w ∧
      sessionNotes w = [(7, .parked, some "files_not_ready")] ∧
      run (worldStep photoEnv) w [photoStored, photoPolled] = some w' ∧
      filesReady w'.db 7 = true ∧ ¬ Eligible w'.db 7 := by
  have hrun : ((run (worldStep photoEnv) ⟨.empty, []⟩ (firstPhoto ++ sessionProcessed)).bind
      fun w => (run (worldStep photoEnv) w [photoStored, photoPolled]).map
        fun w' => (sessionNotes w, filesReady w'.db 7)) =
      some ([(7, .parked, some "files_not_ready")], true) := by decide
  obtain ⟨w, hw, hrest⟩ := Option.bind_eq_some_iff.mp hrun
  obtain ⟨w', hw', hlast⟩ := Option.map_eq_some_iff.mp hrest
  have hnotes : sessionNotes w = [(7, .parked, some "files_not_ready")] := congrArg Prod.fst hlast
  have hmem : (7, SessionState.parked, some "files_not_ready") ∈ sessionNotes w := by simp [hnotes]
  obtain ⟨s, hs, hsame⟩ := List.mem_map.mp hmem
  have hid : s.id = 7 := congrArg Prod.fst hsame
  have hparked : s.state = .parked := congrArg (fun p => p.2.1) hsame
  refine ⟨w, w', hw, hnotes, hw', congrArg Prod.snd hlast, ?_⟩
  rw [← hid]
  exact parked_session_never_resumes photoEnv hs hparked hw'

/-- Parked before its stored photo is polled, the session stays parked when the poll ends:
its files are ready, the queue is empty, and no flush claims it. -/
theorem parked_session_left_behind :
    ∃ w w', run (worldStep photoEnv) ⟨.empty, []⟩ (firstPhoto ++ photoStored :: sessionProcessed) =
        some w ∧
      sessionNotes w = [(7, .parked, some "awaiting_di")] ∧
      run (worldStep photoEnv) w [photoPolled] = some w' ∧
      filesReady w'.db 7 = true ∧ w'.jobs = [] ∧
      ∀ now limit, (claimSessionsForFlush w'.db now limit).1 = [] := by
  have hrun : ((run (worldStep photoEnv) ⟨.empty, []⟩
      (firstPhoto ++ photoStored :: sessionProcessed)).bind fun w =>
        (run (worldStep photoEnv) w [photoPolled]).map fun w' =>
          sessionNotes w == [(7, .parked, some "awaiting_di")] &&
          sessionNotes w' == sessionNotes w &&
            (filesReady w'.db 7 && w'.jobs.isEmpty)) = some true := by decide
  obtain ⟨w, hw, hrest⟩ := Option.bind_eq_some_iff.mp hrun
  obtain ⟨w', hw', hlast⟩ := Option.map_eq_some_iff.mp hrest
  simp only [Bool.and_eq_true, beq_iff_eq, List.isEmpty_iff] at hlast
  obtain ⟨⟨hnotes, hsame⟩, hready, hjobs⟩ := hlast
  refine ⟨w, w', hw, hnotes, hw', hready, hjobs, fun now limit => ?_⟩
  apply List.eq_nil_iff_forall_not_mem.mpr
  intro id hid
  obtain ⟨t, s, hs, -, hflush⟩ := eligible_of_claimed hid
  have hmem : (s.id, s.state, s.note) ∈ sessionNotes w' := List.mem_map.mpr ⟨s, hs, rfl⟩
  rw [hsame, hnotes, List.mem_singleton] at hmem
  have hstate : s.state = .parked := congrArg (fun p => p.2.1) hmem
  simp [flushable, hstate] at hflush

end WaService
