import WaService.Correctness.IdleSessions
import WaService.System.SessionOps

/-!
# The file counter of a session

`record_file_arrival` raises the counter of a collecting session for every media message, and
`register_file` adds a row for every new wamid, whatever the state. The two agree exactly where a
task brings only new wamids to a collecting session, and only known ones to any other session.
-/

namespace WaService

open Python Relational Transition

variable {env : Env} {db db' db'' : Db}

/-! ## Counters and rows -/

/-- The counter of a session. -/
def Session.tally (s : Session) : UUID × Int := (s.id, s.fileCount)

/-- The counters of the sessions. -/
def Db.tallies (db : Db) : List (UUID × Int) := db.sessions.rows.map Session.tally

/-- The session and the wamid of a file. -/
def File.filing (f : File) : UUID × String := (f.sessionId, f.wamid)

/-- The sessions and the wamids of the files. -/
def Db.filings (db : Db) : List (UUID × String) := db.files.rows.map File.filing

/-- The files of a session. -/
def filesOf (db : Db) (sessionId : UUID) : Nat :=
  db.files.rows.countP fun f => f.sessionId == sessionId

/-- Every counter is the number of the session's files. -/
def FilesCounted (db : Db) : Prop := ∀ s ∈ db.sessions.rows, s.fileCount = filesOf db s.id

/-- Every file belongs to a session. -/
def FilesPlaced (db : Db) : Prop := ∀ f ∈ db.files.rows, ∃ s ∈ db.sessions.rows, s.id = f.sessionId

theorem filesOf_eq (db : Db) (sessionId : UUID) :
    filesOf db sessionId = db.filings.countP fun e => e.1 == sessionId := by
  unfold filesOf Db.filings
  rw [List.countP_map]
  rfl

/-- The counters and the filings are the same. -/
def CountsKept (db db' : Db) : Prop := db'.tallies = db.tallies ∧ db'.filings = db.filings

theorem CountsKept.trans (h : CountsKept db db') (h' : CountsKept db' db'') : CountsKept db db'' :=
  ⟨h'.1.trans h.1, h'.2.trans h.2⟩

theorem countsKept_of_tables (hs : db'.sessions = db.sessions) (hf : db'.files = db.files) :
    CountsKept db db' := by
  unfold CountsKept Db.tallies Db.filings
  rw [hs, hf]
  exact ⟨rfl, rfl⟩

/-- Whether the counters are right depends on the counters and the filings alone. -/
theorem filesCounted_iff : FilesCounted db ↔
    ∀ e ∈ db.tallies, e.2 = (db.filings.countP fun g => g.1 == e.1 : Nat) := by
  unfold FilesCounted Db.tallies
  simp only [List.forall_mem_map, filesOf_eq]
  rfl

theorem CountsKept.filesCounted (h : CountsKept db db') (hc : FilesCounted db) :
    FilesCounted db' := by
  rw [filesCounted_iff] at hc ⊢
  rwa [h.1, h.2]

theorem CountsKept.filesPlaced (h : CountsKept db db') (hp : FilesPlaced db) :
    FilesPlaced db' := by
  intro f hf
  have hfiling : f.filing ∈ db.filings := by
    rw [← h.2]
    exact List.mem_map.mpr ⟨f, hf, rfl⟩
  obtain ⟨g, hg, hsame⟩ := List.mem_map.mp hfiling
  obtain ⟨s, hs, hid⟩ := hp g hg
  have htally : s.tally ∈ db'.tallies := by
    rw [h.1]
    exact List.mem_map.mpr ⟨s, hs, rfl⟩
  obtain ⟨s', hs', hkept⟩ := List.mem_map.mp htally
  have hid' : s'.id = s.id := congrArg Prod.fst hkept
  have hsession : g.sessionId = f.sessionId := congrArg Prod.fst hsame
  exact ⟨s', hs', by rw [hid', hid, hsession]⟩

theorem updateSessions_countsKept {p : Session → Bool} {f : Session → Session}
    (hf : ∀ s, p s = true → (f s).id = s.id ∧ (f s).contactId = s.contactId ∧
      ((f s).state.isOpen = true → s.state.isOpen = true))
    (h : ∀ s, (f s).tally = s.tally) : CountsKept db (db.updateSessions p f hf) := by
  refine ⟨?_, rfl⟩
  simp only [Db.tallies, Db.updateSessions, Table.map_update db.sessions fun s _ => h s]

theorem updateFiles_countsKept {p : File → Bool} {f : File → File}
    (hf : ∀ r, (f r).id = r.id ∧ (f r).wamid = r.wamid) (h : ∀ r, (f r).filing = r.filing) :
    CountsKept db (db.updateFiles p f hf) := by
  refine ⟨rfl, ?_⟩
  simp only [Db.filings, Db.updateFiles, Table.map_update db.files fun r _ => h r]

/-! ## Tasks that do not count -/

theorem setFileState_countsKept (fileId : UUID) (state : FileState) :
    CountsKept db (setFileState db fileId state) := by
  unfold setFileState
  exact updateFiles_countsKept _ fun _ => rfl

theorem failFile_countsKept (fileId : UUID) (state : FileState) (code : String) :
    CountsKept db (failFile db fileId state code) := by
  unfold failFile
  exact updateFiles_countsKept _ fun _ => rfl

theorem failWithoutJourney_countsKept (fileId : UUID) :
    CountsKept db (failWithoutJourney db fileId) := by
  unfold failWithoutJourney
  exact updateFiles_countsKept _ fun _ => rfl

theorem recordStored_countsKept (now : Timestamp) (fileId : UUID) (result : FetchResult)
    (evidenceId : UUID) : CountsKept db (recordStored db now fileId result evidenceId) := by
  unfold recordStored
  exact updateFiles_countsKept _ fun _ => rfl

theorem nudgeFlush_countsKept (db : Db) (now : Timestamp) (sessionId : UUID) :
    CountsKept db (nudgeFlush db now sessionId) := by
  unfold nudgeFlush
  split
  · unfold advanceFlush
    exact updateSessions_countsKept _ fun _ => rfl
  · exact countsKept_of_tables rfl rfl

theorem parkSession_countsKept (sessionId : UUID) (note : String) :
    CountsKept db (parkSession db sessionId note) := by
  unfold parkSession
  exact updateSessions_countsKept _ fun _ => rfl

theorem markComplete_countsKept (now : Timestamp) (sessionId : UUID) :
    CountsKept db (markComplete db now sessionId) := by
  unfold markComplete
  exact updateSessions_countsKept _ fun _ => rfl

theorem transitionToConfirming_countsKept (now : Timestamp) (sessionId dealId : UUID) :
    CountsKept db (transitionToConfirming db now sessionId dealId) := by
  unfold transitionToConfirming
  exact updateSessions_countsKept _ fun _ => rfl

theorem claimSessionsForFlush_countsKept (now : Timestamp) (limit : Nat) :
    CountsKept db (claimSessionsForFlush db now limit).2 := by
  simp only [claimSessionsForFlush]
  exact updateSessions_countsKept _ fun _ => rfl

theorem escalateSession_countsKept (sessionId : UUID) (note : String) :
    CountsKept db (escalateSession db sessionId note) := by
  unfold escalateSession
  exact updateSessions_countsKept _ fun _ => rfl

theorem confirmSessionDeal_countsKept (now : Timestamp) (sessionId : UUID) :
    CountsKept db (confirmSessionDeal db now sessionId) := by
  unfold confirmSessionDeal
  exact updateSessions_countsKept _ fun _ => rfl

theorem fetchAndStoreFile_countsKept (calls : FileCalls) (job : FetchJob) :
    CountsKept db (fetchAndStoreFile db calls job).db := by
  unfold fetchAndStoreFile
  split
  · exact failWithoutJourney_countsKept job.fileId
  · split
    · exact countsKept_of_tables rfl rfl
    · have hdownloading : CountsKept db (setFileState db job.fileId .downloading) :=
        setFileState_countsKept job.fileId .downloading
      simp only
      split
      · exact hdownloading
      · exact hdownloading.trans (failFile_countsKept _ _ _)
      · have hstoring := hdownloading.trans (setFileState_countsKept job.fileId .storing)
        unfold storeFetched
        simp only
        split
        · exact hstoring
        · exact hstoring.trans (failFile_countsKept _ _ _)
        · split
          · exact hstoring.trans (recordStored_countsKept _ _ _ _)
          · exact hstoring.trans (recordStored_countsKept _ _ _ _)

theorem pollDiDocument_countsKept (calls : PollCalls) (job : PollJob) :
    CountsKept db (pollDiDocument env db calls job).db := by
  cases hanswer : recordedAnswer env calls job with
  | none =>
    rw [pollDiDocument_unrecorded db hanswer]
    split
    · unfold parkOnDiSla
      exact updateSessions_countsKept _ fun _ => rfl
    · exact countsKept_of_tables rfl rfl
  | some answer =>
    obtain ⟨result, typeKey, facts⟩ := answer
    rw [pollDiDocument_recorded db hanswer]
    have hrecorded : CountsKept db (recordType db job.fileId typeKey facts) := by
      unfold recordType
      exact updateFiles_countsKept _ fun _ => rfl
    split
    · exact hrecorded
    · rename_i satisfied hsatisfied
      obtain ⟨items, rfl⟩ := satisfyLinkedDeal_frame hsatisfied
      exact (hrecorded.trans (countsKept_of_tables rfl rfl)).trans (nudgeFlush_countsKept _ _ _)

theorem processSession_countsKept (inp : SessionInput) (sessionId : UUID) :
    CountsKept db (processSession env db inp sessionId).db := by
  obtain hsame | ⟨s, db', -, htx, hdb⟩ := processSession_cases env db inp sessionId
  · rw [hsame]
    exact countsKept_of_tables rfl rfl
  · rw [hdb]
    obtain ⟨note, -, rfl⟩ | ⟨-, ⟨d, hmatched⟩ | ⟨d, hcreated⟩⟩ := sessionTransaction_cases htx
    · exact parkSession_countsKept s.id note
    · by_cases hcomplete : ChecklistComplete db d.id
      · obtain ⟨outbox, rfl⟩ := hmatched.completed hcomplete
        exact markComplete_countsKept inp.now s.id
      · obtain ⟨outbox, rfl⟩ := hmatched.left hcomplete
        exact countsKept_of_tables rfl rfl
    · obtain ⟨deals, items, outbox, -, -, rfl⟩ := hcreated.written
      exact transitionToConfirming_countsKept inp.now s.id d.id

/-! ## The message loop -/

/-- The wamid that a media message is registered with. -/
def registeredWamid (env : Env) (msg : Json) : Option String :=
  match parseMedia msg with
  | .ok (some m) => (sqlTextNotNull env m.wamid).toOption
  | _ => none

/-- The wamids of the media messages of a payload, in message order. -/
def payloadWamids (env : Env) (payload : Json) : List String :=
  match payloadMessages payload with
  | .ok (some messages) => ((messages.iter).toOption.getD []).filterMap (registeredWamid env)
  | _ => []

/-- The wamids that are not stored, each of them once. -/
def freshWamids (stored : List String) : List String → List String
  | [] => []
  | w :: ws =>
    if stored.contains w then freshWamids stored ws else w :: freshWamids (stored ++ [w]) ws

theorem freshWamids_length_le (stored ws : List String) :
    (freshWamids stored ws).length ≤ ws.length := by
  induction ws generalizing stored with
  | nil => exact Nat.le_refl 0
  | cons w ws ih =>
    unfold freshWamids
    split
    · exact (ih stored).trans (Nat.le_succ _)
    · exact Nat.succ_le_succ (ih _)

/-- All wamids are new exactly when no two are the same and none is stored. -/
theorem freshWamids_all {stored ws : List String} :
    (freshWamids stored ws).length = ws.length ↔ ws.Nodup ∧ ∀ w ∈ ws, w ∉ stored := by
  induction ws generalizing stored with
  | nil => simp [freshWamids]
  | cons w ws ih =>
    unfold freshWamids
    by_cases hstored : w ∈ stored
    · rw [if_pos (by simpa using hstored)]
      have hle := freshWamids_length_le stored ws
      rw [List.length_cons]
      refine iff_of_false (by omega) ?_
      rintro ⟨-, hnew⟩
      exact hnew w List.mem_cons_self hstored
    · rw [if_neg (by simpa using hstored), List.length_cons, List.length_cons,
        Nat.add_right_cancel_iff, ih, List.nodup_cons]
      constructor
      · rintro ⟨hnodup, hnew⟩
        refine ⟨⟨?_, hnodup⟩, ?_⟩
        · intro hw
          exact hnew w hw (List.mem_append_right stored List.mem_cons_self)
        · intro v hv
          rcases List.mem_cons.mp hv with rfl | hv
          · exact hstored
          · exact fun h => hnew v hv (List.mem_append_left [w] h)
      · rintro ⟨⟨hw, hnodup⟩, hnew⟩
        refine ⟨hnodup, ?_⟩
        intro v hv h
        rcases List.mem_append.mp h with h | h
        · exact hnew v (List.mem_cons_of_mem w hv) h
        · rw [List.mem_singleton] at h
          subst h
          exact hw hv

/-- No wamid is new exactly when all are stored. -/
theorem freshWamids_none {stored ws : List String} :
    (freshWamids stored ws).length = 0 ↔ ∀ w ∈ ws, w ∈ stored := by
  induction ws generalizing stored with
  | nil => simp [freshWamids]
  | cons w ws ih =>
    unfold freshWamids
    by_cases hstored : w ∈ stored
    · rw [if_pos (by simpa using hstored), ih]
      simp only [List.mem_cons, forall_eq_or_imp, hstored, true_and]
    · rw [if_neg (by simpa using hstored)]
      refine iff_of_false (Nat.succ_ne_zero _) ?_
      exact fun h => hstored (h w List.mem_cons_self)

/-- The counter of a session after some arrivals. -/
def Session.tallyAfter (sessionId : UUID) (arrivals : Nat) (s : Session) : UUID × Int :=
  (s.id, if collects sessionId s then s.fileCount + arrivals else s.fileCount)

theorem tallyAfter_arrive (sessionId : UUID) (now : Timestamp) (byteSize : Int) (arrivals : Nat)
    (s : Session) :
    (patch (collects sessionId) (Session.arrive now byteSize) s).tallyAfter sessionId arrivals =
      s.tallyAfter sessionId (arrivals + 1) := by
  by_cases hcollects : collects sessionId s = true
  · have harrived : collects sessionId (s.arrive now byteSize) = true := hcollects
    rw [patch_of_pos hcollects]
    simp only [Session.tallyAfter, if_pos hcollects, if_pos harrived]
    refine Prod.ext rfl ?_
    simp only [Session.arrive]
    omega
  · rw [patch_of_neg (by simpa using hcollects)]
    simp only [Session.tallyAfter, if_neg hcollects]

/-- A wamid is filed exactly when a file has it. -/
theorem mem_filings_iff {w : String} :
    w ∈ db.filings.map Prod.snd ↔ fileOfWamid db w ≠ none := by
  unfold Db.filings fileOfWamid
  rw [List.map_map, Ne, List.find?_eq_none, List.mem_map]
  constructor
  · rintro ⟨g, hg, hw⟩ hnone
    exact hnone g hg (by simpa [File.filing] using hw)
  · intro hsome
    by_contra hnot
    apply hsome
    intro g hg hw
    exact hnot ⟨g, hg, by simpa [File.filing] using hw⟩

/-- A registered message is stored already, or its file is the last row. -/
theorem registerFile_filings {newId tenantId sessionId fileId : UUID} {seq : Int}
    {m : MediaMessage}
    (h : registerFile env db newId tenantId sessionId seq m = .ok (fileId, db')) :
    ∃ wamid, sqlTextNotNull env m.wamid = .ok wamid ∧ db'.sessions = db.sessions ∧
      db'.filings = db.filings ++
        (if (db.filings.map Prod.snd).contains wamid then [] else [(sessionId, wamid)]) := by
  obtain ⟨f, hf, hcases⟩ := registerFile_ok h
  obtain ⟨-, -, hsession, -, hwamid, -⟩ := newFile_ok hf
  refine ⟨f.wamid, hwamid, ?_⟩
  have hstored : (db.filings.map Prod.snd).contains f.wamid = true ↔
      fileOfWamid db f.wamid ≠ none := by
    rw [List.contains_iff_mem, mem_filings_iff]
  obtain ⟨old, hold, -, rfl⟩ | ⟨hnone, files, hins, -, rfl⟩ := hcases
  · rw [if_pos (hstored.mpr (by rw [hold]; exact Option.some_ne_none old)), List.append_nil]
    exact ⟨rfl, rfl⟩
  · rw [if_neg fun h => hstored.mp h hnone]
    refine ⟨rfl, ?_⟩
    unfold Db.filings
    rw [Table.rows_of_insert? hins, List.map_append, List.map_singleton]
    simp only [File.filing, hsession]

/-- A loop that ends raises the counter of a collecting session by the number of media messages,
and adds a row for each wamid that is new. -/
theorem processEach_counts {i : LoopInput} {st st' : LoopState} {msgs : List Json}
    (h : processEach env i st msgs = (st', none)) :
    let wamids := msgs.filterMap (registeredWamid env)
    st'.db.tallies = st.db.sessions.rows.map (Session.tallyAfter i.sessionId wamids.length) ∧
      st'.db.filings = st.db.filings ++
        (freshWamids (st.db.filings.map Prod.snd) wamids).map fun w => (i.sessionId, w) := by
  induction msgs generalizing st with
  | nil =>
    cases h
    refine ⟨List.map_congr_left fun s _ => ?_, (List.append_nil _).symm⟩
    simp [Session.tally, Session.tallyAfter]
  | cons msg rest ih =>
    unfold processEach processMessage at h
    cases hparse : parseMedia msg with
    | error e =>
      rw [hparse] at h
      cases h
    | ok found =>
      cases found with
      | none =>
        rw [hparse] at h
        have hskip : registeredWamid env msg = none := by simp only [registeredWamid, hparse]
        simp only [List.filterMap_cons, hskip]
        exact ih h
      | some m =>
        rw [hparse] at h
        cases hreg : registerFile env st.db (i.newIds st.used) i.ctx.tenantId i.sessionId
            (st.seq + 1) m with
        | error e =>
          simp only [hreg] at h
          cases h
        | ok registered =>
          obtain ⟨fileId, db₁⟩ := registered
          obtain ⟨wamid, hwamid, hsessions, hfilings⟩ := registerFile_filings hreg
          have hmedia : registeredWamid env msg = some wamid := by
            simp only [registeredWamid, hparse, hwamid]
            rfl
          simp only [hreg] at h
          by_cases hdefer : i.deferOk st.used = true
          · simp only [hdefer, if_true] at h
            obtain ⟨htallies, hrest⟩ := ih h
            simp only [List.filterMap_cons, hmedia, List.length_cons]
            have harrived : (recordFileArrival db₁ i.now i.sessionId 0).filings = db₁.filings := rfl
            rw [harrived, hfilings] at hrest
            constructor
            · rw [htallies]
              simp only [recordFileArrival, Db.updateSessions, Table.rows_update, List.map_map,
                hsessions]
              exact List.map_congr_left fun s _ => tallyAfter_arrive _ _ _ _ s
            · rw [hrest, freshWamids]
              split
              · rw [List.append_nil]
              · rw [List.map_append, List.map_singleton, List.map_cons, List.append_assoc,
                  List.singleton_append]
          · simp only [hdefer] at h
            cases h

/-! ## The inbox task -/

/-- The transaction counts the arrivals of the payload in its session. -/
theorem processMessages_counts {inp : InboxInput} {payload : Json} {ctx : ResolvedContext}
    {sessionId : UUID} {jobs : List Job}
    (h : processMessages env db inp payload ctx sessionId = ⟨jobs, .ok db'⟩) :
    let wamids := payloadWamids env payload
    db'.tallies = db.sessions.rows.map (Session.tallyAfter sessionId wamids.length) ∧
      db'.filings = db.filings ++
        (freshWamids (db.filings.map Prod.snd) wamids).map fun w => (sessionId, w) := by
  obtain ⟨hpayload, rfl⟩ | ⟨messages, msgs, st, hpayload, hiter, hloop, rfl⟩ :=
    processMessages_inv h
  · simp only [payloadWamids, hpayload]
    refine ⟨List.map_congr_left fun s _ => ?_, (List.append_nil _).symm⟩
    simp [Session.tally, Session.tallyAfter]
  · simp only [payloadWamids, hpayload, hiter]
    exact processEach_counts hloop

/-- After the arrivals the counters are right exactly when the session counts what it files. -/
theorem filesCounted_after {s : Session} {wamids : List String} (hc : FilesCounted db)
    (hs : s ∈ db.sessions.rows)
    (htallies : db'.tallies = db.sessions.rows.map (Session.tallyAfter s.id wamids.length))
    (hfilings : db'.filings = db.filings ++
      (freshWamids (db.filings.map Prod.snd) wamids).map fun w => (s.id, w)) :
    FilesCounted db' ↔ (freshWamids (db.filings.map Prod.snd) wamids).length =
      if s.state = .collecting then wamids.length else 0 := by
  have hfiled : ∀ t : Session, (db'.filings.countP fun g => g.1 == t.id) =
      filesOf db t.id +
        if t.id = s.id then (freshWamids (db.filings.map Prod.snd) wamids).length else 0 := by
    intro t
    rw [hfilings, List.countP_append, List.countP_map, filesOf_eq]
    congr 1
    split
    · rename_i hid
      rw [List.countP_eq_length]
      simp [hid]
    · rename_i hid
      rw [List.countP_eq_zero]
      simp [Ne.symm hid]
  have hself : ∀ t ∈ db.sessions.rows, t.id = s.id → t = s := fun t ht =>
    session_eq_of_id ht hs
  have hcollects : collects s.id s = true ↔ s.state = .collecting := by simp [collects]
  rw [filesCounted_iff, htallies]
  simp only [List.forall_mem_map, Session.tallyAfter, hfiled]
  constructor
  · intro hall
    have hown := hall s hs
    rw [if_pos rfl] at hown
    have hbefore := hc s hs
    by_cases hstate : s.state = .collecting
    · rw [if_pos (hcollects.mpr hstate)] at hown
      rw [if_pos hstate]
      omega
    · rw [if_neg fun h => hstate (hcollects.mp h)] at hown
      rw [if_neg hstate]
      omega
  · intro hfresh t ht
    have hbefore := hc t ht
    by_cases hid : t.id = s.id
    · obtain rfl := hself t ht hid
      rw [if_pos rfl, hfresh]
      by_cases hstate : t.state = .collecting
      · rw [if_pos hstate, if_pos (hcollects.mpr hstate)]
        omega
      · rw [if_neg hstate, if_neg fun h => hstate (hcollects.mp h)]
        omega
    · have hother : ¬ collects s.id t = true := by simp [collects, hid]
      rw [if_neg hid, if_neg hother]
      omega

/-- The open session of the contact collects files, or there is none and a new one will. -/
def CollectsFor (db : Db) (contactId : UUID) : Prop :=
  ∀ s, openSession db contactId = some s → s.state = .collecting

/-- A session that collects files gets new wamids only, no two the same, and any other session
gets known wamids only. -/
def CountableWamids (db : Db) (contactId : UUID) (wamids : List String) : Prop :=
  (CollectsFor db contactId → wamids.Nodup ∧ ∀ w ∈ wamids, fileOfWamid db w = none) ∧
    (¬ CollectsFor db contactId → ∀ w ∈ wamids, fileOfWamid db w ≠ none)

theorem countableWamids_iff {s : Session} {contactId : UUID} {wamids : List String}
    (h : CollectsFor db contactId ↔ s.state = .collecting) :
    CountableWamids db contactId wamids ↔
      (freshWamids (db.filings.map Prod.snd) wamids).length =
        if s.state = .collecting then wamids.length else 0 := by
  have hnew : (∀ w ∈ wamids, fileOfWamid db w = none) ↔
      ∀ w ∈ wamids, w ∉ db.filings.map Prod.snd := by
    simp only [mem_filings_iff, ne_eq, not_not]
  unfold CountableWamids
  by_cases hstate : s.state = .collecting
  · rw [if_pos hstate, freshWamids_all, hnew]
    exact ⟨fun hboth => hboth.1 (h.mpr hstate), fun hall => ⟨fun _ => hall,
      fun hnot => absurd (h.mpr hstate) hnot⟩⟩
  · rw [if_neg hstate, freshWamids_none]
    have hnot : ¬ CollectsFor db contactId := fun hc => hstate (h.mp hc)
    simp only [mem_filings_iff]
    exact ⟨fun hboth => hboth.2 hnot, fun hall => ⟨fun hc => absurd hc hnot, fun _ => hall⟩⟩

/-- A session that is created counts no file, and has none. -/
theorem filesCounted_of_insert {s : Session} {sessions : Table Session} (hc : FilesCounted db)
    (hp : FilesPlaced db) (hzero : s.fileCount = 0) (hins : db.sessions.insert? s = some sessions) :
    FilesCounted { db with sessions := sessions } := by
  intro t ht
  have hsame : filesOf { db with sessions := sessions } t.id = filesOf db t.id := rfl
  rw [hsame]
  rcases (Table.mem_of_insert? hins).mp ht with hold | rfl
  · exact hc t hold
  · have hnone : filesOf db t.id = 0 := by
      unfold filesOf
      rw [List.countP_eq_zero]
      intro f hf hid
      obtain ⟨old, hold, hplace⟩ := hp f hf
      have hclash := (Table.insert?_eq_some.mp hins).1 old hold
      rw [beq_iff_eq] at hid
      simp [clash, sameKey, hplace, hid] at hclash
    rw [hzero, hnone]
    rfl

/-- A committed transaction leaves the counters right exactly when its wamids can be counted. -/
theorem inboxTransaction_filesCounted {inp : InboxInput} {row : Inbox} {payload : Json}
    {ctx : ResolvedContext} {jobs : List Job} (hc : FilesCounted db) (hp : FilesPlaced db)
    (hctx : resolveFullContext db row.phoneNumberId payload = .ok ctx)
    (htx : inboxTransaction env db inp row payload = ⟨jobs, .ok db'⟩) :
    FilesCounted db' ↔ CountableWamids db ctx.contactId (payloadWamids env payload) := by
  obtain ⟨ctx', s, opened, hctx', hget, hmessages⟩ := inboxTransaction_inv htx
  obtain rfl : ctx = ctx' := Except.ok.inj (hctx.symm.trans hctx')
  obtain ⟨htallies, hfilings⟩ := processMessages_counts hmessages
  obtain ⟨hs, -, ⟨hopen, rfl⟩ | ⟨hnone, hnew, sessions, hins, rfl⟩⟩ := getOrCreateSession_ok hget
  · rw [filesCounted_after hc hs htallies hfilings]
    apply (countableWamids_iff ?_).symm
    unfold CollectsFor
    rw [hopen]
    exact ⟨fun h => h s rfl, fun h t ht => Option.some.inj ht ▸ h⟩
  · have hzero : s.fileCount = 0 := by rw [hnew]; rfl
    have hcollecting : s.state = .collecting := by rw [hnew]; rfl
    rw [filesCounted_after (filesCounted_of_insert hc hp hzero hins) hs htallies hfilings]
    have hcollects : CollectsFor db ctx.contactId ↔ s.state = .collecting := by
      unfold CollectsFor
      rw [hnone]
      exact ⟨fun _ => hcollecting, fun _ t ht => by cases ht⟩
    exact (countableWamids_iff hcollects).symm

/-- A transaction of the task that commits brings new wamids to a session that collects files, and
known wamids to any other. -/
def CountableInbox (env : Env) (db : Db) (inp : InboxInput) (inboxId : Nat) : Prop :=
  ∀ row payload ctx jobs db', inboxRow db inboxId = some row → row.signatureOk = true →
    decodePayload env row.payload = .ok payload →
    resolveFullContext db row.phoneNumberId payload = .ok ctx →
    inboxTransaction env db inp row payload = ⟨jobs, .ok db'⟩ →
      CountableWamids db ctx.contactId (payloadWamids env payload)

/-- The task leaves the counters right exactly when what it commits can be counted. -/
theorem processInboxRow_filesCounted {inp : InboxInput} {inboxId : Nat} (hc : FilesCounted db)
    (hp : FilesPlaced db) :
    FilesCounted (processInboxRow env db inp inboxId).db ↔ CountableInbox env db inp inboxId := by
  have hmark : ∀ d inboxId state, FilesCounted (markInbox d inboxId state) ↔ FilesCounted d :=
    fun d inboxId state => Iff.rfl
  constructor
  · intro h row payload ctx jobs db' hrow hsigned hpayload hctx htx
    have hdb : (processInboxRow env db inp inboxId).db = markInbox db' row.id .done := by
      simp only [processInboxRow, hrow, processRow, hsigned, if_true, hpayload, htx]
    rw [hdb, hmark] at h
    exact (inboxTransaction_filesCounted hc hp hctx htx).mp h
  · intro h
    obtain hsame | ⟨row, hrow, ⟨state, hmarked⟩ | ⟨payload, jobs, db', hsigned, hpayload, htx,
      hdone⟩⟩ := processInboxRow_cases env db inp inboxId
    · rwa [hsame]
    · rwa [hmarked, hmark]
    · obtain ⟨ctx, -, -, hctx, -, -⟩ := inboxTransaction_inv htx
      rw [hdone, hmark]
      exact (inboxTransaction_filesCounted hc hp hctx htx).mpr
        (h row payload ctx jobs db' hrow hsigned hpayload hctx htx)

/-! ## Runs -/

/-- After the step every counter is right. -/
def KeepsCounts (env : Env) (w : World) (a : SessionAction) : Prop :=
  ∀ w', sessionStep env w a = some w' → FilesCounted w'.db

/-- What an executed inbox task commits can be counted. -/
def CountsArrivals (env : Env) (w : World) : SessionAction → Prop
  | .world (.execute (.processInboxRow inboxId inp) _) =>
    .processInboxRow inboxId ∈ w.jobs → CountableInbox env w.db inp inboxId
  | _ => True

theorem Db.Evolves.filesPlaced {A : Arrival → Prop} {O : UUID → UUID → Prop}
    (h : db.Evolves A O db') (hp : FilesPlaced db) : FilesPlaced db' := by
  intro f hf
  rcases h.files.source f hf with ⟨old, hold, hkept⟩ | hnew
  · obtain ⟨s, hs, hid⟩ := hp old hold
    obtain ⟨s', hs', hfollows⟩ := h.sessions.kept s hs
    have hplace : f.sessionId = old.sessionId := congrArg (fun k => k.2.2.1) hkept
    exact ⟨s', hs', by rw [hfollows.id, hid, hplace]⟩
  · exact hnew

theorem sessionStep_filesPlaced {w w' : World} {a : SessionAction} (hp : FilesPlaced w.db)
    (h : sessionStep env w a = some w') : FilesPlaced w'.db := by
  cases a with
  | world a => exact (worldStep_evolves h).filesPlaced hp
  | park sessionId note =>
    cases h
    exact (parkSession_countsKept sessionId note).filesPlaced hp
  | escalate sessionId note =>
    cases h
    exact (escalateSession_countsKept sessionId note).filesPlaced hp
  | confirm now sessionId =>
    cases h
    exact (confirmSessionDeal_countsKept now sessionId).filesPlaced hp

/-- The step executes an inbox task. -/
def SessionAction.IsInbox (a : SessionAction) : Prop :=
  ∃ inboxId inp redelivered, a = .world (.execute (.processInboxRow inboxId inp) redelivered)

/-- Only an inbox task changes counters or files. -/
theorem sessionStep_countsKept {w w' : World} {a : SessionAction} (ha : ¬ a.IsInbox)
    (h : sessionStep env w a = some w') : CountsKept w.db w'.db := by
  cases a with
  | world a =>
    obtain hkept | ⟨now, deferOk, -, hdb⟩ | ⟨e, redelivered, rfl, hdb⟩ := worldStep_cases h
    · exact countsKept_of_tables hkept.sessions hkept.files
    · rw [hdb]
      exact claimSessionsForFlush_countsKept now 50
    · rw [hdb]
      cases e with
      | processInboxRow inboxId inp => exact absurd ⟨inboxId, inp, redelivered, rfl⟩ ha
      | fetchAndStoreFile args calls => exact fetchAndStoreFile_countsKept calls args
      | pollDiDocument args calls => exact pollDiDocument_countsKept calls args
      | processSession sessionId inp => exact processSession_countsKept inp sessionId
  | park sessionId note =>
    cases h
    exact parkSession_countsKept sessionId note
  | escalate sessionId note =>
    cases h
    exact escalateSession_countsKept sessionId note
  | confirm now sessionId =>
    cases h
    exact confirmSessionDeal_countsKept now sessionId

/-- A step leaves the counters right exactly when it counts its arrivals. -/
theorem keepsCounts_iff {w : World} {a : SessionAction} (hc : FilesCounted w.db)
    (hp : FilesPlaced w.db) : KeepsCounts env w a ↔ CountsArrivals env w a := by
  by_cases ha : a.IsInbox
  · obtain ⟨inboxId, inp, redelivered, rfl⟩ := ha
    have hcounts : FilesCounted (processInboxRow env w.db inp inboxId).db ↔
        CountableInbox env w.db inp inboxId := processInboxRow_filesCounted hc hp
    by_cases hjob : Job.processInboxRow inboxId ∈ w.jobs
    · have hstep : sessionStep env w
          (.world (.execute (.processInboxRow inboxId inp) redelivered)) = some (.afterTask
            (if redelivered then w.jobs else w.jobs.erase (.processInboxRow inboxId))
            (processInboxRow env w.db inp inboxId)) := if_pos hjob
      constructor
      · exact fun h _ => hcounts.mp (h _ hstep)
      · intro h w' hw'
        cases hstep.symm.trans hw'
        exact hcounts.mpr (h hjob)
    · refine iff_of_true ?_ fun h => absurd h hjob
      intro w' h
      simp [sessionStep, worldStep, Execution.job, hjob] at h
  · refine iff_of_true ?_ ?_
    · intro w' hstep
      exact (sessionStep_countsKept ha hstep).filesCounted hc
    · unfold CountsArrivals
      split
      · exact absurd ⟨_, _, _, rfl⟩ ha
      · trivial

/-- The counters are right in every state of a run exactly when every step counts its arrivals. -/
theorem file_counts_iff {start : World} {as : List SessionAction} (hc : FilesCounted start.db)
    (hp : FilesPlaced start.db) :
    Meets (sessionStep env) (KeepsCounts env) start as ↔
      Meets (sessionStep env) (CountsArrivals env) start as := by
  constructor
  · intro h
    refine h.imp_of_preserves (fun w => FilesCounted w.db ∧ FilesPlaced w.db) ?_ ?_ ⟨hc, hp⟩
    · exact fun w a w' hw hkeeps hstep => ⟨hkeeps w' hstep, sessionStep_filesPlaced hw.2 hstep⟩
    · exact fun w a hw => (keepsCounts_iff hw.1 hw.2).mp
  · intro h
    refine h.imp_of_preserves (fun w => FilesCounted w.db ∧ FilesPlaced w.db) ?_ ?_ ⟨hc, hp⟩
    · exact fun w a w' hw hcounts hstep => ⟨(keepsCounts_iff hw.1 hw.2).mpr hcounts w' hstep,
        sessionStep_filesPlaced hw.2 hstep⟩
    · exact fun w a hw => (keepsCounts_iff hw.1 hw.2).mpr

/-! ## Photos of one consultant -/

/-- The digests and the values of two bodies, with two photos and with one, are on record. -/
def photosEnv : Env :=
  .ofRecording "secret" [([1], "a1", webhookBody [entryOf [photoChange ["w1", "w2"]]]),
    ([2], "a2", webhookBody [entryOf [photoChange ["w3"]]])]

/-- The task of a received body is executed. -/
def photosTask (inboxId : Nat) (redelivered : Bool) : SessionAction :=
  .world (.execute (.processInboxRow inboxId
    ⟨0, 7, fun n => BitVec.ofNat 128 (100 * inboxId + n), fun _ => true⟩) redelivered)

/-- The body is received, and its task is executed. -/
def photosReceived (inboxId : Nat) (rawBody : List UInt8) (signature : String)
    (redelivered : Bool) : List SessionAction :=
  [.world (.webhook inboxId rawBody (some signature) true), photosTask inboxId redelivered]

/-- Two new photos are counted. -/
theorem photos_counted :
    Meets (sessionStep photosEnv) (KeepsCounts photosEnv) ⟨boundDb, []⟩
      (photosReceived 1 [1] "sha256=a1" false) := by
  apply (file_counts_iff (fun s hs => absurd hs List.not_mem_nil)
    (fun f hf => absurd hf List.not_mem_nil)).mpr
  refine ⟨trivial, fun w hw => ⟨fun _ row payload ctx jobs db' hrow _ hpayload _ _ => ?_,
    fun _ _ => trivial⟩⟩
  have hview : ((sessionStep photosEnv ⟨boundDb, []⟩
      (.world (.webhook 1 [1] (some "sha256=a1") true))).bind fun w =>
        (inboxRow w.db 1).map fun r =>
          (decodePayload photosEnv r.payload).toOption.map (payloadWamids photosEnv)) =
      some (some ["w1", "w2"]) := by decide +kernel
  rw [hw, Option.bind_some, hrow, Option.map_some, hpayload] at hview
  obtain hwamids : payloadWamids photosEnv payload = ["w1", "w2"] :=
    Option.some.inj (Option.some.inj hview)
  cases hw
  rw [hwamids]
  exact ⟨fun _ => ⟨by decide, fun _ _ => rfl⟩, fun hnot => absurd (fun s hs => by cases hs) hnot⟩

/-- The counters with the numbers of files. -/
def World.counts (w : World) : List (Int × Nat) :=
  w.db.sessions.rows.map fun s => (s.fileCount, filesOf w.db s.id)

theorem not_filesCounted {w : World} {counter : Int} {files : Nat}
    (h : w.counts = [(counter, files)]) (hne : counter ≠ files) : ¬ FilesCounted w.db := by
  intro hc
  obtain ⟨s, hs, hsame⟩ : ∃ s ∈ w.db.sessions.rows, (s.fileCount, filesOf w.db s.id) =
      (counter, files) := by
    apply List.mem_map.mp
    rw [show w.db.sessions.rows.map (fun s => (s.fileCount, filesOf w.db s.id)) = w.counts from rfl,
      h]
    exact List.mem_singleton.mpr rfl
  obtain ⟨hcounter, hfiles⟩ := Prod.mk.inj hsame
  exact hne (by rw [← hcounter, ← hfiles, hc s hs])

/-- A task that is executed twice counts its two files twice, and a photo that arrives while the
session is processing is filed without being counted. -/
theorem photos_miscounted :
    (∃ w, run (sessionStep photosEnv) ⟨boundDb, []⟩
        (photosReceived 1 [1] "sha256=a1" true ++ [photosTask 1 false]) =
          some w ∧ w.counts = [(4, 2)] ∧ ¬ FilesCounted w.db) ∧
      ∃ w, run (sessionStep photosEnv) ⟨boundDb, []⟩
        (photosReceived 1 [1] "sha256=a1" false ++ [.world (.flush (seconds 91) fun _ => true)] ++
          photosReceived 2 [2] "sha256=a2" false) =
          some w ∧ w.counts = [(2, 3)] ∧ ¬ FilesCounted w.db := by
  have htwice : (run (sessionStep photosEnv) ⟨boundDb, []⟩
      (photosReceived 1 [1] "sha256=a1" true ++ [photosTask 1 false])).map
        World.counts = some [(4, 2)] := by decide +kernel
  have hlate : (run (sessionStep photosEnv) ⟨boundDb, []⟩
      (photosReceived 1 [1] "sha256=a1" false ++ [.world (.flush (seconds 91) fun _ => true)] ++
        photosReceived 2 [2] "sha256=a2" false)).map World.counts = some [(2, 3)] := by
    decide +kernel
  obtain ⟨w, hw, hcounts⟩ := Option.map_eq_some_iff.mp htwice
  obtain ⟨w', hw', hcounts'⟩ := Option.map_eq_some_iff.mp hlate
  exact ⟨⟨w, hw, hcounts, not_filesCounted hcounts (by decide)⟩,
    ⟨w', hw', hcounts', not_filesCounted hcounts' (by decide)⟩⟩

end WaService
