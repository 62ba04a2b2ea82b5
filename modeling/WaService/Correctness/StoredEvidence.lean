import WaService.Correctness.FileFrames

/-!
# Evidence that is stored

The hash and the size of a stored file are those of the bytes that the execution which recorded
them has posted to audit-core. An execution posts once, what it posts agrees with the hash that the
row declares, and no statement of the service changes a declared hash. The invariant follows every
interleaving of the executions.
-/

namespace WaService

open Python Relational Transition

variable {env : Env} {H : Hasher} {c c' : FileRuns} {s s' : FileShared} {db db' : Db}

/-- The row of the file declares the hash. -/
def Declares (db : Db) (fileId : UUID) (declared : Option String) : Prop :=
  ∃ row, fileById db fileId = some row ∧ row.metaSha256 = declared

/-- The execution has posted nothing. -/
def NotPosted (s : FileShared) (i : Nat) : Prop := ∀ p ∈ s.posts, p.run ≠ i

/-- A fetched content with its hash and its size, in agreement with what the row declares. -/
structure FetchedFor (H : Hasher) (db : Db) (fileId : UUID) (result : FetchResult) : Prop where
  sha256 : result.sha256 = H.hex result.content
  byteSize : result.byteSize = result.content.length
  agrees : ∃ declared, Declares db fileId declared ∧ hashAgrees declared result.sha256 = true

/-- What an execution carries, as far as it has come. -/
def PhaseKept (H : Hasher) (s : FileShared) (i : Nat) : FilePhase → Prop
  | .idle | .resolving _ | .journeyless _ | .reading _ _ => NotPosted s i
  | .marking job _ row | .fetching job _ row =>
    NotPosted s i ∧ Declares s.world.db job.fileId row.metaSha256
  | .fetched job _ _ result | .posting job _ _ result =>
    NotPosted s i ∧ FetchedFor H s.world.db job.fileId result
  | .recording job _ result _ => FetchedFor H s.world.db job.fileId result ∧
      ∃ p ∈ s.posts, p.run = i ∧ p.fileId = job.fileId ∧ p.request.content = result.content
  | .failing _ _ _ _ | .deferring _ _ _ | .ended _ => True

/-- The row has the hash and the size of what its last recorder has posted for the file. -/
def RecordedFrom (H : Hasher) (s : FileShared) (fileId : UUID) (row : File) : Prop :=
  ∃ p ∈ s.posts, s.recorder fileId = some p.run ∧ p.fileId = fileId ∧
    row.localSha256 = some (H.hex p.request.content) ∧
    row.byteSize = some (p.request.content.length : Int)

/-- The invariant of the executions. -/
structure EvidenceKept (H : Hasher) (c : FileRuns) : Prop where
  stored : ∀ fileId row, fileById c.shared.world.db fileId = some row → row.state = .stored →
    RecordedFrom H c.shared fileId row
  agrees : ∀ p ∈ c.shared.posts, ∃ declared, Declares c.shared.world.db p.fileId declared ∧
    hashAgrees declared (H.hex p.request.content) = true
  once : ∀ p ∈ c.shared.posts, ∀ q ∈ c.shared.posts, p.run = q.run → p = q
  phases : ∀ i, PhaseKept H c.shared i (c.phase i)

/-! ## What a step leaves alone -/

/-- No declared hash changes. -/
def KeepsDeclared (db db' : Db) : Prop :=
  ∀ fileId declared, Declares db fileId declared → Declares db' fileId declared

/-- What is stored afterwards was stored before, with the same hash and size. -/
def StoresNothing (db db' : Db) : Prop :=
  ∀ fileId row', fileById db' fileId = some row' → row'.state = .stored →
    ∃ row, fileById db fileId = some row ∧ row.state = .stored ∧
      row'.localSha256 = row.localSha256 ∧ row'.byteSize = row.byteSize

theorem FilesKept.keepsDeclared (h : FilesKept db db') : KeepsDeclared db db' := by
  rintro fileId declared ⟨row, hrow, rfl⟩
  obtain ⟨row', hrow', hprogress⟩ := (h.fileById fileId).1 row hrow
  exact ⟨row', hrow', congrArg File.Progress.metaSha256 hprogress⟩

theorem FilesKept.storesNothing (h : FilesKept db db') : StoresNothing db db' := by
  intro fileId row' hrow' hstate
  obtain ⟨hold, hnew⟩ := h.fileById fileId
  cases hrow : WaService.fileById db fileId with
  | none =>
    rw [(hnew hrow row' hrow').state] at hstate
    cases hstate
  | some row =>
    obtain ⟨row'', hrow'', hprogress⟩ := hold row hrow
    rw [hrow'] at hrow''
    cases hrow''
    have hsame : row'.state = row.state := congrArg File.Progress.state hprogress
    exact ⟨row, rfl, hsame ▸ hstate, congrArg File.Progress.localSha256 hprogress,
      congrArg File.Progress.byteSize hprogress⟩

theorem WritesState.keepsDeclared {fileId : UUID} {state : FileState}
    (h : WritesState db db' fileId state) : KeepsDeclared db db' := by
  rintro other declared ⟨row, hrow, rfl⟩
  by_cases hfile : other = fileId
  · subst hfile
    obtain ⟨row', hrow', -, hdeclared⟩ := h.target row hrow
    exact ⟨row', hrow', hdeclared⟩
  · exact ⟨row, (h.others other hfile).trans hrow, rfl⟩

theorem WritesState.storesNothing {fileId : UUID} {state : FileState}
    (h : WritesState db db' fileId state) (hne : state ≠ .stored) : StoresNothing db db' := by
  intro other row' hrow' hstored
  by_cases hfile : other = fileId
  · subst hfile
    cases hrow : fileById db other with
    | none =>
      rw [h.absent hrow] at hrow'
      cases hrow'
    | some row =>
      obtain ⟨row'', hrow'', hstate, -⟩ := h.target row hrow
      rw [hrow'] at hrow''
      cases hrow''
      exact absurd (hstate.symm.trans hstored) hne
  · rw [h.others other hfile] at hrow'
    exact ⟨row', hrow', hstored, rfl, rfl⟩

theorem FetchedFor.transfer {fileId : UUID} {result : FetchResult}
    (h : FetchedFor H db fileId result) (hdeclared : KeepsDeclared db db') :
    FetchedFor H db' fileId result := by
  obtain ⟨declared, hdeclares, hagrees⟩ := h.agrees
  exact ⟨h.sha256, h.byteSize, declared, hdeclared fileId declared hdeclares, hagrees⟩

/-- An execution keeps what it carries while the others post and write. -/
theorem PhaseKept.transfer {i : Nat} {l : FilePhase} (h : PhaseKept H s i l)
    (hdeclared : KeepsDeclared s.world.db s'.world.db) (hposts : ∀ p ∈ s.posts, p ∈ s'.posts)
    (hothers : ∀ p ∈ s'.posts, p ∈ s.posts ∨ p.run ≠ i) : PhaseKept H s' i l := by
  have hnotPosted : NotPosted s i → NotPosted s' i := by
    intro hnone p hp
    exact (hothers p hp).elim (hnone p) id
  cases l with
  | idle => exact hnotPosted h
  | resolving job => exact hnotPosted h
  | journeyless job => exact hnotPosted h
  | reading job journeyId => exact hnotPosted h
  | marking job journeyId row => exact ⟨hnotPosted h.1, hdeclared _ _ h.2⟩
  | fetching job journeyId row => exact ⟨hnotPosted h.1, hdeclared _ _ h.2⟩
  | failing job quarantine code raises => trivial
  | fetched job journeyId row result => exact ⟨hnotPosted h.1, h.2.transfer hdeclared⟩
  | posting job journeyId row result => exact ⟨hnotPosted h.1, h.2.transfer hdeclared⟩
  | recording job journeyId result evidenceId =>
    obtain ⟨hfetched, p, hp, hpost⟩ := h
    exact ⟨hfetched.transfer hdeclared, p, hposts p hp, hpost⟩
  | deferring job journeyId evidenceId => trivial
  | ended raised => trivial

/-- A step that posts and stores nothing. -/
theorem EvidenceKept.quiet (hinv : EvidenceKept H c)
    (hdeclared : KeepsDeclared c.shared.world.db s'.world.db)
    (hstored : StoresNothing c.shared.world.db s'.world.db) (hposts : s'.posts = c.shared.posts)
    (hrecorders : s'.recorders = c.shared.recorders) {phase : Nat → FilePhase}
    (hphases : ∀ i, PhaseKept H s' i (phase i)) : EvidenceKept H ⟨s', phase⟩ where
  stored fileId row' hrow' hstate := by
    obtain ⟨row, hrow, hbefore, hlocal, hsize⟩ := hstored fileId row' hrow' hstate
    obtain ⟨p, hp, hrecorder, hfile, hhash, hlength⟩ := hinv.stored fileId row hrow hbefore
    refine ⟨p, hposts ▸ hp, ?_, hfile, hlocal.trans hhash, hsize.trans hlength⟩
    unfold FileShared.recorder
    rw [hrecorders]
    exact hrecorder
  agrees p hp := by
    obtain ⟨declared, hdeclares, hagrees⟩ := hinv.agrees p (hposts ▸ hp)
    exact ⟨declared, hdeclared _ _ hdeclares, hagrees⟩
  once p hp q hq := hinv.once p (hposts ▸ hp) q (hposts ▸ hq)
  phases := hphases

/-- A statement of one execution that posts and stores nothing. -/
theorem EvidenceKept.quietStatement {i : Nat} {l : FilePhase} (hinv : EvidenceKept H c)
    (hdeclared : KeepsDeclared c.shared.world.db s'.world.db)
    (hstored : StoresNothing c.shared.world.db s'.world.db) (hposts : s'.posts = c.shared.posts)
    (hrecorders : s'.recorders = c.shared.recorders) (hphase : PhaseKept H s' i l) :
    EvidenceKept H (c.advance i s' l) := by
  apply hinv.quiet hdeclared hstored hposts hrecorders
  refine Processes.forall_phase_advance (s := s') (PhaseKept H s') hphase fun j _ => ?_
  exact (hinv.phases j).transfer hdeclared (fun p hp => hposts ▸ hp) fun p hp =>
    Or.inl (hposts ▸ hp)

/-! ## The statements -/

section Statements

variable {i : Nat} {job : FetchJob} {journeyId : UUID} {row : File} {result : FetchResult}

theorem KeepsDeclared.refl (db : Db) : KeepsDeclared db db := fun _ _ h => h

theorem StoresNothing.refl (db : Db) : StoresNothing db db :=
  fun _ row hrow hstate => ⟨row, hrow, hstate, rfl, rfl⟩

/-- What `fetch_media` returns is what the row declares, on either path. -/
theorem phaseOfFetch_kept (hnone : NotPosted s i)
    (hdeclares : Declares s.world.db job.fileId row.metaSha256) (media : MetaAnswers) :
    PhaseKept H s i (phaseOfFetch job journeyId row
      (fetchMedia H media row.fetchRequest).outcome) := by
  cases hfetch : (fetchMedia H media row.fetchRequest).outcome with
  | raised => trivial
  | failed code retryable quarantine => trivial
  | ok result =>
    obtain ⟨hsha256, hsize, hagrees⟩ := fetchMedia_ok hfetch
    exact ⟨hnone, hsha256, hsize, row.metaSha256, hdeclares, hagrees⟩

/-- The only post of an execution. -/
theorem evidenceKept_posting (hinv : EvidenceKept H c)
    (hphase : c.phase i = .posting job journeyId row result) (outcome : StoreOutcome) :
    EvidenceKept H (c.advance i { c.shared with
        posts := ⟨i, job.fileId, storeRequest job journeyId row result⟩ :: c.shared.posts }
      (phaseOfStore job journeyId result outcome)) := by
  have hkept := hinv.phases i
  rw [hphase] at hkept
  obtain ⟨hnone, hfetched⟩ := hkept
  constructor
  · intro fileId row' hrow' hstate
    obtain ⟨p, hp, hrecorded⟩ := hinv.stored fileId row' hrow' hstate
    exact ⟨p, List.mem_cons_of_mem _ hp, hrecorded⟩
  · intro p hp
    rcases List.mem_cons.mp hp with rfl | hp
    · obtain ⟨declared, hdeclares, hagrees⟩ := hfetched.agrees
      exact ⟨declared, hdeclares, hfetched.sha256 ▸ hagrees⟩
    · exact hinv.agrees p hp
  · intro p hp q hq hrun
    rcases List.mem_cons.mp hp with rfl | hp
    · rcases List.mem_cons.mp hq with rfl | hq
      · rfl
      · exact absurd hrun.symm (hnone q hq)
    · rcases List.mem_cons.mp hq with rfl | hq
      · exact absurd hrun (hnone p hp)
      · exact hinv.once p hp q hq hrun
  · refine Processes.forall_phase_advance _ ?_ fun j hj => ?_
    · cases outcome with
      | raised => trivial
      | failed code retryable => trivial
      | ok evidenceId => exact ⟨hfetched, _, List.mem_cons_self, rfl, rfl, rfl⟩
    · refine (hinv.phases j).transfer (KeepsDeclared.refl _)
        (fun p hp => List.mem_cons_of_mem _ hp) fun p hp => ?_
      rcases List.mem_cons.mp hp with rfl | hp
      · exact Or.inr fun hrun => hj hrun.symm
      · exact Or.inl hp

/-- The row is recorded from the post of the execution. -/
theorem evidenceKept_recording {evidenceId : UUID} (hinv : EvidenceKept H c)
    (hphase : c.phase i = .recording job journeyId result evidenceId) (now : Timestamp) :
    EvidenceKept H (c.advance i
      { c.shared.withDb (recordStored c.shared.world.db now job.fileId result evidenceId) with
        recorders := (job.fileId, i) :: c.shared.recorders }
      (.deferring job journeyId evidenceId)) := by
  have hkept := hinv.phases i
  rw [hphase] at hkept
  obtain ⟨hfetched, p, hp, rfl, hfile, hcontent⟩ := hkept
  have hwrites := recordStored_writes c.shared.world.db now job.fileId result evidenceId
  constructor
  · intro fileId row' hrow' hstate
    by_cases hsame : fileId = job.fileId
    · subst hsame
      cases hrow : fileById c.shared.world.db job.fileId with
      | none =>
        have hnone := hwrites.absent hrow
        rw [Processes.advance_shared] at hrow'
        cases hnone.symm.trans hrow'
      | some row =>
        have hrecorded := recordStored_self now result evidenceId hrow
        obtain rfl := Option.some.inj (hrecorded.symm.trans hrow')
        refine ⟨p, hp, List.lookup_cons_self, hfile, ?_, ?_⟩
        · rw [hcontent, ← hfetched.sha256]
        · rw [hcontent, ← hfetched.byteSize]
    · have hbefore := (hwrites.others fileId hsame).symm.trans hrow'
      obtain ⟨q, hq, hrecorder, hrest⟩ := hinv.stored fileId row' hbefore hstate
      refine ⟨q, hq, ?_, hrest⟩
      have hlookup : ((job.fileId, p.run) :: c.shared.recorders).lookup fileId =
          c.shared.recorders.lookup fileId := by
        rw [List.lookup_cons, beq_false_of_ne hsame]
      exact hlookup.trans hrecorder
  · intro q hq
    obtain ⟨declared, hdeclares, hagrees⟩ := hinv.agrees q hq
    exact ⟨declared, hwrites.keepsDeclared _ _ hdeclares, hagrees⟩
  · exact hinv.once
  · refine Processes.forall_phase_advance _ trivial fun j hj => ?_
    exact (hinv.phases j).transfer hwrites.keepsDeclared (fun q hq => hq) fun q hq => Or.inl hq

theorem evidenceKept_statement {answers : FileAnswers} {l : FilePhase} (hinv : EvidenceKept H c)
    (h : fileStatement H c.shared i answers (c.phase i) = some (s', l)) :
    EvidenceKept H (c.advance i s' l) := by
  have hkept := hinv.phases i
  have hdb := KeepsDeclared.refl c.shared.world.db
  have hsame := StoresNothing.refl c.shared.world.db
  cases hphase : c.phase i with
  | idle =>
    rw [hphase] at h
    cases h
  | ended raised =>
    rw [hphase] at h
    cases h
  | resolving job =>
    rw [hphase] at h hkept
    cases h
    apply hinv.quietStatement hdb hsame rfl rfl
    cases job.intakeJourneyId.or (sessionJourney c.shared.world.db job.sessionId) with
    | none => exact hkept
    | some journeyId => exact hkept
  | journeyless job =>
    rw [hphase] at h
    cases h
    have hwrites := failWithoutJourney_writes c.shared.world.db job.fileId
    exact hinv.quietStatement hwrites.keepsDeclared (hwrites.storesNothing (by decide)) rfl rfl
      trivial
  | reading job journeyId =>
    rw [hphase] at h hkept
    cases h
    apply hinv.quietStatement hdb hsame rfl rfl
    cases hrow : fileById c.shared.world.db job.fileId with
    | none => trivial
    | some row => exact ⟨hkept, row, hrow, rfl⟩
  | marking job journeyId row =>
    rw [hphase] at h hkept
    cases h
    have hwrites := setFileState_writes c.shared.world.db job.fileId .downloading
    exact hinv.quietStatement hwrites.keepsDeclared (hwrites.storesNothing (by decide)) rfl rfl
      ⟨hkept.1, hwrites.keepsDeclared _ _ hkept.2⟩
  | fetching job journeyId row =>
    rw [hphase] at h hkept
    cases h
    exact hinv.quietStatement hdb hsame rfl rfl (phaseOfFetch_kept hkept.1 hkept.2 answers.media)
  | failing job quarantine code raises =>
    rw [hphase] at h
    cases h
    have hwrites := failFile_writes c.shared.world.db job.fileId
      (if quarantine then .quarantined else .failed) code
    have hne : (if quarantine then FileState.quarantined else .failed) ≠ .stored := by
      cases quarantine with
      | true => exact fun h => by cases h
      | false => exact fun h => by cases h
    exact hinv.quietStatement hwrites.keepsDeclared (hwrites.storesNothing hne) rfl rfl trivial
  | fetched job journeyId row result =>
    rw [hphase] at h hkept
    cases h
    have hwrites := setFileState_writes c.shared.world.db job.fileId .storing
    exact hinv.quietStatement hwrites.keepsDeclared (hwrites.storesNothing (by decide)) rfl rfl
      ⟨hkept.1, hkept.2.transfer hwrites.keepsDeclared⟩
  | posting job journeyId row result =>
    rw [hphase] at h
    cases h
    exact evidenceKept_posting hinv hphase _
  | recording job journeyId result evidenceId =>
    rw [hphase] at h
    cases h
    exact evidenceKept_recording hinv hphase answers.now
  | deferring job journeyId evidenceId =>
    rw [hphase] at h
    simp only [fileStatement] at h
    split at h
    · cases h
      exact hinv.quietStatement hdb hsame rfl rfl trivial
    · cases h
      exact hinv.quietStatement hdb hsame rfl rfl trivial

end Statements

/-! ## The run -/

theorem evidenceKept_step {a : FileRunAction} (hinv : EvidenceKept H c)
    (h : fileRunStep env H c a = some c') : EvidenceKept H c' := by
  cases a with
  | start i job redelivered =>
    simp only [fileRunStep] at h
    split at h
    · rename_i hidle
      cases h
      have hkept := hinv.phases i
      refine hinv.quietStatement (KeepsDeclared.refl _) (StoresNothing.refl _) rfl rfl ?_
      cases hphase : c.phase i with
      | idle =>
        rw [hphase] at hkept
        exact hkept
      | _ =>
        rw [hphase] at hidle
        cases hidle.1
    · cases h
  | statement i answers =>
    obtain ⟨⟨s, l⟩, hstatement, rfl⟩ := Option.map_eq_some_iff.mp h
    exact evidenceKept_statement hinv hstatement
  | other a =>
    obtain ⟨hkept, hphase, hposts, hrecorders⟩ := fileRunStep_other h
    apply hinv.quiet hkept.keepsDeclared hkept.storesNothing hposts hrecorders
    intro i
    rw [hphase]
    exact (hinv.phases i).transfer hkept.keepsDeclared (fun p hp => hposts ▸ hp)
      fun p hp => Or.inl (hposts ▸ hp)

/-- In every state that the executions reach from a world in which no file is stored: a stored file
has the hash and the size of the only content that its last recorder has posted, and where it
declares a hash, every content that was posted for it has that hash, as the file has. -/
theorem stored_evidence_intact (env : Env) (H : Hasher) {w : World} {as : List FileRunAction}
    {c : FileRuns} (hstart : ∀ f ∈ w.db.files.rows, f.state ≠ .stored)
    (h : run (fileRunStep env H) (fileRunStart w) as = some c) :
    ∀ f ∈ c.shared.world.db.files.rows,
      (f.state = .stored → ∃ p ∈ c.shared.posts, c.shared.recorder f.id = some p.run ∧
        p.fileId = f.id ∧ (∀ q ∈ c.shared.posts, q.run = p.run → q = p) ∧
        f.localSha256 = some (H.hex p.request.content) ∧
        f.byteSize = some (p.request.content.length : Int)) ∧
      ∀ declared, f.metaSha256 = some declared → declared ≠ "" →
        (f.state = .stored → f.localSha256 = some (lower declared)) ∧
        ∀ p ∈ c.shared.posts, p.fileId = f.id → H.hex p.request.content = lower declared := by
  have hinit : EvidenceKept H (fileRunStart w) := by
    constructor
    · intro fileId row hrow hstate
      exact absurd hstate (hstart row (fileById_eq_some.mp hrow).1)
    · exact fun p hp => absurd hp List.not_mem_nil
    · exact fun p hp => absurd hp List.not_mem_nil
    · exact fun i p hp => absurd hp List.not_mem_nil
  have hinv := run_preserves (EvidenceKept H) (fun c a c' => evidenceKept_step) h hinit
  intro f hf
  have hrow := fileById_eq_some.mpr ⟨hf, rfl⟩
  have hposted : ∀ declared, f.metaSha256 = some declared → declared ≠ "" →
      ∀ p ∈ c.shared.posts, p.fileId = f.id → H.hex p.request.content = lower declared := by
    intro declared hdeclared hne p hp hfile
    obtain ⟨declared', ⟨row, hrow', rfl⟩, hagrees⟩ := hinv.agrees p hp
    rw [hfile, hrow] at hrow'
    cases hrow'
    rw [hdeclared] at hagrees
    exact hashAgrees_some hne hagrees
  refine ⟨fun hstate => ?_, fun declared hdeclared hne => ⟨fun hstate => ?_, ?_⟩⟩
  · obtain ⟨p, hp, hrecorder, hfile, hlocal, hsize⟩ := hinv.stored f.id f hrow hstate
    exact ⟨p, hp, hrecorder, hfile, fun q hq hrun => hinv.once q hq p hp hrun, hlocal, hsize⟩
  · obtain ⟨p, hp, -, hfile, hlocal, -⟩ := hinv.stored f.id f hrow hstate
    rw [hlocal, hposted declared hdeclared hne p hp hfile]
  · exact hposted declared hdeclared hne

/-- A download that is served ends with a file that has the hash of what was posted. -/
theorem served_evidence_intact :
    ∃ c, run (fileRunStep (.ofRecording "s" []) plainHasher) (fileRunStart arrivedWorld)
        (.start 0 arrivedJob false ::
          List.replicate 7 (.statement 0 (answersOf givenUrl (served [10])))) = some c ∧
      ∃ f ∈ c.shared.world.db.files.rows, f.state = .stored ∧
        ∃ p ∈ c.shared.posts, f.localSha256 = some (plainHasher.hex p.request.content) := by
  have hstates : (run (fileRunStep (.ofRecording "s" []) plainHasher) (fileRunStart arrivedWorld)
      (.start 0 arrivedJob false ::
        List.replicate 7 (.statement 0 (answersOf givenUrl (served [10]))))).map
          (fun c => c.shared.world.db.files.rows.map File.state) = some [.stored] := by decide
  obtain ⟨c, hc, hrows⟩ := Option.map_eq_some_iff.mp hstates
  obtain ⟨f, hf, hstate⟩ := List.map_eq_singleton_iff.mp hrows
  have hmem : f ∈ c.shared.world.db.files.rows := hf ▸ List.mem_singleton_self f
  have hnone : ∀ g ∈ arrivedWorld.db.files.rows, g.state ≠ .stored := by decide
  obtain ⟨p, hp, -, -, -, hlocal, -⟩ :=
    (stored_evidence_intact _ _ hnone hc f hmem).1 hstate
  exact ⟨c, hc, f, hmem, hstate, p, hp, hlocal⟩

end WaService
