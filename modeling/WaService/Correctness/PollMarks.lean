import WaService.Correctness.Evolution
import WaService.Correctness.PollEndings
import WaService.Correctness.Provenance
import WaService.Correctness.RunAlone
import WaService.Correctness.SenderIdentity
import WaService.Correctness.SessionOutcome

/-!
# Between the poll and the deal builder

The poll persists a type, reads the deal of the session and satisfies its item in three
transactions. The session task links a deal only to a session without files, and no file changes
its session. The deal that the poll has read, or found missing, is therefore the one that the
session has for the rest of the run, and an item that is satisfied stays so.
-/

namespace WaService

open Python Relational Transition

/-! ## What a transaction carries over -/

/-- Identity and session of a file. -/
def File.home (f : File) : UUID × UUID := (f.id, f.sessionId)

/-- Identity and deal of a session. -/
def Session.link (s : Session) : UUID × Option UUID := (s.id, s.dealId)

/-- The same item, satisfied if it was. -/
def ChecklistItem.Follows (a b : ChecklistItem) : Prop :=
  b.dealId = a.dealId ∧ b.typeKey = a.typeKey ∧ (a.satisfied = true → b.satisfied = true)

/-- The foreign keys of a session's deal and of an item's type. -/
structure Referential (db : Db) : Prop where
  deal : ∀ s ∈ db.sessions.rows, ∀ dealId, s.dealId = some dealId →
    ∃ d ∈ db.deals.rows, d.id = dealId
  type : ∀ i ∈ db.checklistItems.rows, (documentTypes.lookup i.typeKey).isSome = true

/-- Files keep their session and deals stay. A session keeps its deal, unless it has no file and
is linked to a deal that exists. Items stay satisfied, and new ones belong to new deals. -/
structure Carries (db db' : Db) : Prop where
  files : Table.Evolves (Keeping File.home) (fun _ => True) db.files db'.files
  deals : Table.Evolves (Keeping Deal.id) (fun _ => True) db.deals db'.deals
  sessions : ∀ s' ∈ db'.sessions.rows, ∀ dealId, s'.dealId = some dealId →
    (∃ s ∈ db.sessions.rows, s.id = s'.id ∧ s.dealId = some dealId) ∨
      (∀ f ∈ db.files.rows, f.sessionId ≠ s'.id) ∧ ∃ d ∈ db'.deals.rows, d.id = dealId
  items : ∀ i' ∈ db'.checklistItems.rows, (∃ i ∈ db.checklistItems.rows, i.Follows i') ∨
    (∀ d ∈ db.deals.rows, d.id ≠ i'.dealId) ∧ (documentTypes.lookup i'.typeKey).isSome = true

variable {env : Env} {db db' db'' : Db}

/-- A session that has a deal had it before. -/
theorem sessions_of_evolves
    (h : Table.Evolves (Keeping Session.link) (fun s => s.dealId = none) db.sessions db'.sessions)
    {s' : Session} (hs' : s' ∈ db'.sessions.rows) {dealId : UUID} (hd : s'.dealId = some dealId) :
    ∃ s ∈ db.sessions.rows, s.id = s'.id ∧ s.dealId = some dealId := by
  rcases h.source s' hs' with ⟨s, hs, hk⟩ | hnone
  · have hid : s'.id = s.id := congrArg Prod.fst hk
    have hdeal : s'.dealId = s.dealId := congrArg Prod.snd hk
    exact ⟨s, hs, hid.symm, hdeal ▸ hd⟩
  · rw [hnone] at hd
    cases hd

/-- A transaction that links no deal and lists no item. -/
theorem carries_of
    (hf : Table.Evolves (Keeping File.home) (fun _ => True) db.files db'.files)
    (hd : Table.Evolves (Keeping Deal.id) (fun _ => True) db.deals db'.deals)
    (hs : Table.Evolves (Keeping Session.link) (fun s => s.dealId = none) db.sessions db'.sessions)
    (hi : Table.Evolves ChecklistItem.Follows (fun _ => False) db.checklistItems
      db'.checklistItems) : Carries db db' where
  files := hf
  deals := hd
  sessions _ hs' _ hdeal := Or.inl (sessions_of_evolves hs hs' hdeal)
  items i' hi' := Or.inl ((hi.source i' hi').resolve_right id)

theorem ChecklistItem.Follows.refl (i : ChecklistItem) : i.Follows i := ⟨rfl, rfl, fun h => h⟩

theorem ChecklistItem.Follows.trans {a b c : ChecklistItem} (h : a.Follows b) (h' : b.Follows c) :
    a.Follows c :=
  ⟨h'.1.trans h.1, h'.2.1.trans h.2.1, fun hsatisfied => h'.2.2 (h.2.2 hsatisfied)⟩

/-- Nothing changes but the sessions, which keep their deals. -/
theorem carries_of_sessions (hf : db'.files = db.files) (hd : db'.deals = db.deals)
    (hi : db'.checklistItems = db.checklistItems)
    (hs : Table.Evolves (Keeping Session.link) (fun s => s.dealId = none) db.sessions
      db'.sessions) : Carries db db' :=
  carries_of (hf ▸ .refl_keeping _) (hd ▸ .refl_keeping _) hs
    (hi ▸ .refl ChecklistItem.Follows.refl _)

theorem carries_of_same (hf : db'.files = db.files) (hd : db'.deals = db.deals)
    (hi : db'.checklistItems = db.checklistItems) (hs : db'.sessions = db.sessions) :
    Carries db db' :=
  carries_of_sessions hf hd hi (hs ▸ .refl_keeping _)

theorem Carries.refl (db : Db) : Carries db db := carries_of_same rfl rfl rfl rfl

theorem Carries.trans (h : Carries db db') (h' : Carries db' db'') : Carries db db'' where
  files := h.files.trans_keeping h'.files fun _ _ _ _ => trivial
  deals := h.deals.trans_keeping h'.deals fun _ _ _ _ => trivial
  sessions s hs dealId hdeal := by
    rcases h'.sessions s hs dealId hdeal with ⟨s', hs', hid, hdeal'⟩ | ⟨hnone, hexists⟩
    · rcases h.sessions s' hs' dealId hdeal' with ⟨s₀, hs₀, hid₀, hdeal₀⟩ | ⟨hnone, d, hd, rfl⟩
      · exact Or.inl ⟨s₀, hs₀, hid₀.trans hid, hdeal₀⟩
      · obtain ⟨d', hd', hkept⟩ := h'.deals.kept d hd
        exact Or.inr ⟨hid ▸ hnone, d', hd', hkept⟩
    · refine Or.inr ⟨fun f hf hsession => ?_, hexists⟩
      obtain ⟨f', hf', hkept⟩ := h.files.kept f hf
      have hhome : f'.sessionId = f.sessionId := congrArg Prod.snd hkept
      exact hnone f' hf' (hhome.trans hsession)
  items i hi := by
    rcases h'.items i hi with ⟨i', hi', hfollows'⟩ | ⟨hnew, htype⟩
    · rcases h.items i' hi' with ⟨i₀, hi₀, hfollows⟩ | ⟨hnew, htype⟩
      · exact Or.inl ⟨i₀, hi₀, hfollows.trans hfollows'⟩
      · rw [← hfollows'.1, ← hfollows'.2.1] at *
        exact Or.inr ⟨hnew, htype⟩
    · refine Or.inr ⟨fun d hd hid => ?_, htype⟩
      obtain ⟨d', hd', hkept⟩ := h.deals.kept d hd
      exact hnew d' hd' (Eq.trans hkept hid)

/-! ## Statements and transactions -/

theorem updateSessions_carries {p : Session → Bool} {f : Session → Session}
    (hf : ∀ s, p s = true → (f s).id = s.id ∧ (f s).contactId = s.contactId ∧
      ((f s).state.isOpen = true → s.state.isOpen = true)) (h : ∀ s, (f s).link = s.link) :
    Carries db (db.updateSessions p f hf) :=
  carries_of_sessions rfl rfl rfl (.update_keeping (Session.keeps hf) h db.sessions)

theorem updateFiles_carries {p : File → Bool} {f : File → File}
    (hf : ∀ r, (f r).id = r.id ∧ (f r).wamid = r.wamid) (h : ∀ r, (f r).home = r.home) :
    Carries db (db.updateFiles p f hf) :=
  carries_of (.update_keeping (File.keeps hf) h db.files) (.refl_keeping _) (.refl_keeping _)
    (.refl ChecklistItem.Follows.refl _)

theorem updateDeals_carries {p : Deal → Bool} {f : Deal → Deal}
    (hf : ∀ d, (f d).id = d.id ∧ (f d).tenantId = d.tenantId ∧
      (f d).bookingNumber = d.bookingNumber) : Carries db (db.updateDeals p f hf) :=
  carries_of (.refl_keeping _) (.update_keeping (Deal.keeps hf) (fun d => (hf d).1) db.deals)
    (.refl_keeping _) (.refl ChecklistItem.Follows.refl _)

theorem updateItems_carries {p : ChecklistItem → Bool} {f : ChecklistItem → ChecklistItem}
    (hf : ∀ i, (f i).id = i.id ∧ (f i).dealId = i.dealId ∧ (f i).typeKey = i.typeKey)
    (h : ∀ i, ChecklistItem.Follows i (f i)) : Carries db (db.updateItems p f hf) :=
  carries_of (.refl_keeping _) (.refl_keeping _) (.refl_keeping _)
    (.update (ChecklistItem.keeps hf) ChecklistItem.Follows.refl (fun i _ => h i) db.checklistItems)

theorem markSatisfied_carries (now : Timestamp) (dealId : UUID) (typeKey : String)
    (documentId : UUID) : Carries db (markSatisfied db now dealId typeKey documentId) := by
  unfold markSatisfied
  exact updateItems_carries _ fun _ => ⟨rfl, rfl, fun _ => rfl⟩

theorem parkSession_carries (sessionId : UUID) (note : String) :
    Carries db (parkSession db sessionId note) := by
  unfold parkSession
  exact updateSessions_carries _ fun _ => rfl

theorem inboxTransaction_carries {inp : InboxInput} {row : Inbox} {payload : Json}
    {jobs : List Job} (h : inboxTransaction env db inp row payload = ⟨jobs, .ok db'⟩) :
    Carries db db' := by
  refine inboxTransaction_preserves (P := Carries db) ?_ ?_ ?_ (.refl db) h
  · intro d tenantId contactId orgUnitId sessions hd hins
    have hrefl : ∀ s : Session, Keeping Session.link s s := fun _ => rfl
    exact hd.trans (carries_of_sessions rfl rfl rfl (.insert hrefl hins rfl))
  · intro d f files hd _ hins
    have hrefl : ∀ f : File, Keeping File.home f f := fun _ => rfl
    exact hd.trans (carries_of (.insert hrefl hins trivial) (.refl_keeping _) (.refl_keeping _)
      (.refl ChecklistItem.Follows.refl _))
  · intro d sessionId hd
    unfold recordFileArrival
    exact hd.trans (updateSessions_carries _ fun _ => rfl)

theorem fetchAndStoreFile_carries (calls : FileCalls) (job : FetchJob) :
    Carries db (fetchAndStoreFile db calls job).db := by
  have hevolves : db.Evolves (fun _ => False) (fun _ _ => False)
      (fetchAndStoreFile db calls job).db :=
    fetchAndStoreFile_evolves calls job
  have hfiles := hevolves.files
  obtain ⟨files, hdb⟩ := fetchAndStoreFile_frame db calls job
  rw [hdb] at hfiles ⊢
  refine carries_of (hfiles.imp ?_ fun _ _ => trivial) (.refl_keeping _) (.refl_keeping _)
    (.refl ChecklistItem.Follows.refl _)
  intro f f' hplace
  have hid : f'.id = f.id := congrArg Prod.fst hplace
  have hsession : f'.sessionId = f.sessionId := congrArg (fun k => k.2.2.1) hplace
  exact Prod.ext hid hsession

theorem Matched.carries {inp : SessionInput} {s : Session} {d : Deal}
    (h : Matched db db' inp s d) : Carries db db' := by
  have hconfirmed : Carries db (confirmDeal db inp.now s.tenantId d.id s.contactId) := by
    unfold confirmDeal
    exact updateDeals_carries _
  have hqueued : ∀ (db₁ : Db) outbox, Carries db₁ { db₁ with outbox := outbox } :=
    fun _ _ => carries_of_same rfl rfl rfl rfl
  by_cases hcomplete : ChecklistComplete db d.id
  · obtain ⟨outbox, rfl⟩ := h.completed hcomplete
    refine (hconfirmed.trans ?_).trans (hqueued _ outbox)
    unfold markComplete
    exact updateSessions_carries _ fun _ => rfl
  · obtain ⟨outbox, rfl⟩ := h.left hcomplete
    exact hconfirmed.trans (hqueued _ outbox)

theorem getSessionFiles_nil {sessionId : UUID} (h : getSessionFiles db sessionId = []) :
    ∀ f ∈ db.files.rows, f.sessionId ≠ sessionId := by
  intro f hf hsession
  have hsorted := List.map_eq_nil_iff.mp h
  have hperm := List.perm_insertionSort (fun a b : File => a.receivedSeq ≤ b.receivedSeq)
    (db.files.rows.filter fun f => f.sessionId == sessionId)
  rw [hsorted] at hperm
  have hmem : f ∈ db.files.rows.filter fun f => f.sessionId == sessionId :=
    List.mem_filter.mpr ⟨hf, by simpa using hsession⟩
  rw [← hperm.nil_eq] at hmem
  cases hmem

/-- A deal is linked to a session without files. -/
theorem Created.carries {inp : SessionInput} {s : Session} {d : Deal}
    (h : Created env db db' inp s d) (hfiles : getSessionFiles db s.id = []) : Carries db db' := by
  have hfresh := h.fresh
  obtain ⟨deals, items, outbox, hins, hlist, rfl⟩ := h.written
  have hrefl : ∀ d : Deal, Keeping Deal.id d d := fun _ => rfl
  constructor
  · exact .refl_keeping _
  · exact .insert hrefl hins trivial
  · intro s' hs' dealId hdeal
    obtain ⟨s₀, hs₀, rfl⟩ := List.mem_map.mp hs'
    unfold patch at hdeal ⊢
    split at hdeal
    · rename_i hsel
      rw [if_pos hsel]
      have hid : s₀.id = s.id := by simpa using (Bool.and_eq_true_iff.mp hsel).1
      obtain rfl : d.id = dealId := Option.some.inj hdeal
      refine Or.inr ⟨fun f hf hsession => getSessionFiles_nil hfiles f hf (hsession.trans hid), ?_⟩
      exact ⟨d, (Table.mem_of_insert? hins).mpr (Or.inr rfl), rfl⟩
    · rename_i hsel
      rw [if_neg hsel]
      exact Or.inl ⟨s₀, hs₀, rfl, hdeal⟩
  · intro i hi
    rcases initialiseRequirements_items hlist i hi with hold | ⟨hdeal, r, hr, htype⟩
    · exact Or.inl ⟨i, hold, .refl i⟩
    · exact Or.inr ⟨hdeal ▸ hfresh, htype ▸ defaultRequirements_types hr⟩

theorem processSession_carries (inp : SessionInput) (sessionId : UUID) :
    Carries db (processSession env db inp sessionId).db := by
  obtain hsame | ⟨s, db', -, htx, hdb⟩ := processSession_cases env db inp sessionId
  · rw [hsame]
    exact .refl db
  · rw [hdb]
    obtain ⟨note, -, rfl⟩ | ⟨hfiles, ⟨d, hmatched⟩ | ⟨d, hcreated⟩⟩ :=
      sessionTransaction_cases htx
    · exact parkSession_carries s.id note
    · exact hmatched.carries
    · exact hcreated.carries hfiles

theorem parkOnDiSla_carries (sessionId : UUID) (note : String) :
    Carries db (parkOnDiSla db sessionId note) := by
  unfold parkOnDiSla
  exact updateSessions_carries _ fun _ => rfl

/-- A step that is a single transaction, or none. -/
theorem worldStep_carries {w w' : World} {a : Action} (hsingle : a.isSingle = true)
    (h : worldStep env w a = some w') : Carries w.db w'.db := by
  obtain hkept | ⟨now, deferOk, -, hdb⟩ | ⟨e, redelivered, rfl, hdb⟩ := worldStep_cases h
  · exact carries_of_same hkept.files hkept.deals hkept.checklistItems hkept.sessions
  · rw [hdb]
    simp only [claimSessionsForFlush]
    exact updateSessions_carries _ fun _ => rfl
  · rw [hdb]
    cases e with
    | processInboxRow | pollDiDocument => cases hsingle
    | fetchAndStoreFile args calls => exact fetchAndStoreFile_carries calls args
    | processSession sessionId inp => exact processSession_carries inp sessionId

theorem recordType_carries (fileId : UUID) (typeKey : Option String) (facts : Json) :
    Carries db (recordType db fileId typeKey facts) := by
  unfold recordType
  exact updateFiles_carries _ fun _ => rfl

theorem advanceFlush_carries (now : Timestamp) (sessionId : UUID) :
    Carries db (advanceFlush db now sessionId) := by
  unfold advanceFlush
  exact updateSessions_carries _ fun _ => rfl

/-- The first transaction of a poll. -/
theorem persistAnswer_carries (calls : PollCalls) (job : PollJob) :
    Carries db (persistAnswer env db calls job).db := by
  unfold persistAnswer
  split
  · exact recordType_carries _ _ _
  · rename_i hnone
    simp only [pollDiDocument_unrecorded db hnone]
    split
    · exact parkOnDiSla_carries job.sessionId _
    · exact .refl db

theorem commitMessages_carries (inp : InboxInput) (row : Inbox) (payload : Json) :
    Carries db (commitMessages env db inp row payload).db := by
  unfold commitMessages
  split
  · exact inboxTransaction_carries ‹_›
  · exact .refl db
  · exact .refl db

theorem txStep_carries {run : TaskRun} {phase : RunPhase} {t : TxStep}
    (h : txStep env db run phase = some t) : Carries db t.db := by
  cases run with
  | inbox inboxId inp =>
    cases phase with
    | waiting =>
      cases h
      rw [readInbox_db]
      exact .refl db
    | opened row payload =>
      cases h
      exact commitMessages_carries inp row payload
    | marking state =>
      cases h
      exact carries_of_same rfl rfl rfl rfl
    | typed | satisfying | counting | nudging | ended => cases h
  | poll job calls =>
    cases phase with
    | waiting =>
      cases h
      exact persistAnswer_carries calls job
    | typed result =>
      cases h
      exact .refl db
    | satisfying result dealId =>
      simp only [txStep] at h
      split at h
      · cases h
        exact markSatisfied_carries _ _ _ _
      · cases h
        exact .refl db
    | counting result =>
      cases h
      exact .refl db
    | nudging result =>
      cases h
      exact advanceFlush_carries _ _
    | opened | marking | ended => cases h

/-! ## What a poll has read or written stays -/

theorem Referential.carried (h : Referential db) (hc : Carries db db') : Referential db' where
  deal s' hs' dealId hdeal := by
    rcases hc.sessions s' hs' dealId hdeal with ⟨s, hs, -, hdeal⟩ | ⟨-, hexists⟩
    · obtain ⟨d, hd, rfl⟩ := h.deal s hs dealId hdeal
      obtain ⟨d', hd', hkept⟩ := hc.deals.kept d hd
      exact ⟨d', hd', hkept⟩
    · exact hexists
  type i' hi' := by
    rcases hc.items i' hi' with ⟨i, hi, -, htype, -⟩ | ⟨-, htype⟩
    · rw [htype]
      exact h.type i hi
    · exact htype

/-- The file of the job is there. -/
def PollJob.HasFile (db : Db) (job : PollJob) : Prop := ∃ f ∈ db.files.rows, f.id = job.fileId

/-- The file of the job is in the session of the job. -/
def PollJob.OwnsFile (db : Db) (job : PollJob) : Prop :=
  ∃ f ∈ db.files.rows, f.id = job.fileId ∧ f.sessionId = job.sessionId

/-- The session has no deal other than this one. -/
def OnlyDeal (db : Db) (sessionId dealId : UUID) : Prop :=
  ∀ s ∈ db.sessions.rows, s.id = sessionId → ∀ other, s.dealId = some other → other = dealId

/-- The item of this type of the session's deal is satisfied. -/
def Marked (db : Db) (sessionId : UUID) (typeKey : String) : Prop :=
  ∀ s ∈ db.sessions.rows, s.id = sessionId → ∀ i ∈ db.checklistItems.rows,
    s.dealId = some i.dealId → i.typeKey = typeKey → i.satisfied = true

/-- The answer of a poll is in the checklist. -/
def Settled (db : Db) (sessionId : UUID) (result : DiPollResult) : Prop :=
  isConfirmed result.processingStatus = true →
    ∀ typeKey, result.documentTypeKey = .str typeKey → Marked db sessionId typeKey

/-- What a poll has read or written in the phase. -/
def RunPhase.Sound (db : Db) (sessionId : UUID) : RunPhase → Prop
  | .satisfying _ dealId => OnlyDeal db sessionId dealId
  | .counting result | .nudging result | .ended (some result) => Settled db sessionId result
  | _ => True

theorem PollJob.HasFile.carried {job : PollJob} (h : job.HasFile db) (hc : Carries db db') :
    job.HasFile db' := by
  obtain ⟨f, hf, hid⟩ := h
  obtain ⟨f', hf', hkept⟩ := hc.files.kept f hf
  have hid' : f'.id = f.id := congrArg Prod.fst hkept
  exact ⟨f', hf', hid'.trans hid⟩

/-- A file that is in the session now, and was there before, was in the session before. -/
theorem PollJob.OwnsFile.before {job : PollJob} (h : job.OwnsFile db') (hfile : job.HasFile db)
    (hc : Carries db db') : job.OwnsFile db := by
  obtain ⟨f, hf, hid⟩ := hfile
  obtain ⟨f', hf', hkept⟩ := hc.files.kept f hf
  obtain ⟨g, hg, hgid, hsession⟩ := h
  have hid' : f'.id = f.id := congrArg Prod.fst hkept
  have hsession' : f'.sessionId = f.sessionId := congrArg Prod.snd hkept
  have hclash : clash g f' = true := by
    have hsame : g.id = f'.id := hgid.trans (hid'.trans hid).symm
    simp [clash, sameKey, hsame]
  obtain rfl : g = f' := Table.eq_of_clash hg hf' hclash
  exact ⟨f, hf, hid, hsession'.symm.trans hsession⟩

variable {job : PollJob}

/-- A session with a file has the deal that it had before. -/
theorem PollJob.OwnsFile.deal_before (h : job.OwnsFile db) (hc : Carries db db') {s' : Session}
    (hs' : s' ∈ db'.sessions.rows) (hid : s'.id = job.sessionId) {dealId : UUID}
    (hdeal : s'.dealId = some dealId) :
    ∃ s ∈ db.sessions.rows, s.id = job.sessionId ∧ s.dealId = some dealId := by
  obtain ⟨f, hf, -, hsession⟩ := h
  rcases hc.sessions s' hs' dealId hdeal with ⟨s, hs, hsame, hdeal⟩ | ⟨hnone, -⟩
  · exact ⟨s, hs, hsame.trans hid, hdeal⟩
  · exact absurd (hsession.trans hid.symm) (hnone f hf)

theorem OnlyDeal.carried {dealId : UUID} (h : OnlyDeal db job.sessionId dealId)
    (howns : job.OwnsFile db) (hc : Carries db db') : OnlyDeal db' job.sessionId dealId := by
  intro s' hs' hid other hdeal
  obtain ⟨s, hs, hid, hdeal⟩ := howns.deal_before hc hs' hid hdeal
  exact h s hs hid other hdeal

theorem Marked.carried {typeKey : String} (h : Marked db job.sessionId typeKey)
    (hr : Referential db) (howns : job.OwnsFile db) (hc : Carries db db') :
    Marked db' job.sessionId typeKey := by
  intro s' hs' hid i' hi' hdeal htype
  obtain ⟨s, hs, hid, hdeal⟩ := howns.deal_before hc hs' hid hdeal
  rcases hc.items i' hi' with ⟨i, hi, hdealId, htypeKey, hkept⟩ | ⟨hnew, -⟩
  · exact hkept (h s hs hid i hi (hdeal.trans (congrArg some hdealId)) (htypeKey.symm.trans htype))
  · -- A new item belongs to a deal that no session had.
    obtain ⟨d, hd, hdid⟩ := hr.deal s hs _ hdeal
    exact absurd hdid (hnew d hd)

theorem RunPhase.Sound.carried {phase : RunPhase} (h : phase.Sound db job.sessionId)
    (hr : Referential db) (howns : job.OwnsFile db) (hc : Carries db db') :
    phase.Sound db' job.sessionId := by
  have hsettled : ∀ result, Settled db job.sessionId result → Settled db' job.sessionId result :=
    fun _ hs hconfirmed key hkey => (hs hconfirmed key hkey).carried hr howns hc
  cases phase with
  | waiting | opened | marking | typed => trivial
  | satisfying result dealId => exact OnlyDeal.carried h howns hc
  | counting result => exact hsettled result h
  | nudging result => exact hsettled result h
  | ended result =>
    cases result with
    | none => trivial
    | some result => exact hsettled result h

/-! ## The transactions of a poll -/

theorem dealOfSessionId_eq {s : Session} (hs : s ∈ db.sessions.rows) :
    dealOfSessionId db s.id = s.dealId := by
  have hfound : db.sessions.rows.find? (fun t => t.id == s.id) = some s :=
    Table.find?_eq_some_of_mem hs (by simp) fun t hid => by
      have hsame : t.id = s.id := by simpa using hid
      simp [clash, sameKey, hsame]
  unfold dealOfSessionId
  rw [hfound]
  rfl

theorem markSatisfied_marks {dealId : UUID} (h : OnlyDeal db job.sessionId dealId)
    (now : Timestamp) (typeKey : String) (documentId : UUID) :
    Marked (markSatisfied db now dealId typeKey documentId) job.sessionId typeKey := by
  intro s hs hid i' hi' hdeal htype
  obtain ⟨i, hi, rfl⟩ := List.mem_map.mp hi'
  have hdealId := h s hs hid _ hdeal
  unfold patch at hdealId htype ⊢
  split at hdealId
  · rename_i hsel
    rw [if_pos hsel]
  · rename_i hsel
    rw [if_neg hsel] at htype
    exact absurd (by simp [hdealId, htype]) hsel

/-- An answer that satisfies nothing is in no checklist. -/
theorem settled_of_not_satisfies {result : DiPollResult} (hr : Referential db)
    (h : result.satisfies = false) (sessionId : UUID) : Settled db sessionId result := by
  intro hconfirmed typeKey hkey s hs hid i hi hdeal htype
  have hempty : typeKey = "" := by
    unfold DiPollResult.satisfies at h
    rw [hconfirmed, Bool.and_true, hkey] at h
    simpa [Json.truthy] using h
  have hlisted := hr.type i hi
  rw [htype, hempty] at hlisted
  cases hlisted

theorem txStep_sound {calls : PollCalls} {phase : RunPhase} {t : TxStep}
    (h : txStep env db (.poll job calls) phase = some t) (hs : phase.Sound db job.sessionId)
    (hr : Referential db) (howns : job.OwnsFile db) : t.phase.Sound t.db job.sessionId := by
  cases phase with
  | waiting =>
    cases h
    unfold persistAnswer
    split
    · split
      · trivial
      · rename_i hnot
        exact settled_of_not_satisfies (hr.carried (recordType_carries _ _ _))
          (Bool.eq_false_of_not_eq_true hnot) _
    · trivial
  | typed result =>
    cases h
    simp only
    split
    · rename_i dealId hdeal
      intro s hs hid other hother
      rw [← hid, dealOfSessionId_eq hs, hother] at hdeal
      exact Option.some.inj hdeal
    · rename_i hdeal
      intro _ typeKey _ s hs hid i hi hlinked
      rw [← hid, dealOfSessionId_eq hs, hlinked] at hdeal
      cases hdeal
  | satisfying result dealId =>
    simp only [txStep] at h
    split at h
    · rename_i key hkey
      cases h
      intro _ typeKey htype
      rw [htype] at hkey
      obtain rfl : key = typeKey := selectText_str hkey
      exact markSatisfied_marks hs calls.now key job.evidenceId
    · cases h
      trivial
  | counting result =>
    cases h
    simp only
    split
    · exact hs
    · exact hs
  | nudging result =>
    cases h
    have hended : (RunPhase.ended (some result)).Sound db job.sessionId := hs
    exact hended.carried hr howns (advanceFlush_carries _ _)
  | opened | marking | ended => cases h

/-! ## The jobs of polls -/

theorem inboxTransaction_defers {inp : InboxInput} {row : Inbox} {payload : Json}
    {args : PollJob} : .pollDiDocument args ∉ (inboxTransaction env db inp row payload).jobs := by
  obtain ⟨downloads, hjobs⟩ := inboxTransaction_downloads env db inp row payload
  rw [hjobs]
  intro hmem
  obtain ⟨download, -, hsame⟩ := List.mem_map.mp hmem
  cases hsame

theorem persistAnswer_defers {calls : PollCalls} {args : PollJob}
    (h : .pollDiDocument args ∈ (persistAnswer env db calls job).jobs) :
    args.fileId = job.fileId := by
  unfold persistAnswer at h
  split at h
  · cases h
  · simp only at h
    obtain hnone | ⟨-, -, delay, hsome⟩ := pollDiDocument_jobs env db calls job
    · rw [hnone] at h
      cases h
    · rw [hsome] at h
      cases List.mem_singleton.mp h
      rfl

/-- A transaction defers a poll only for the file of the poll that it begins. -/
theorem txStep_defers {run : TaskRun} {phase : RunPhase} {t : TxStep}
    (h : txStep env db run phase = some t) {args : PollJob} (hj : .pollDiDocument args ∈ t.jobs) :
    phase = .waiting ∧ ∃ job calls, run = .poll job calls ∧ args.fileId = job.fileId := by
  cases run with
  | inbox inboxId inp =>
    cases phase with
    | waiting =>
      cases h
      rw [readInbox_jobs] at hj
      cases hj
    | opened row payload =>
      cases h
      rw [commitMessages_jobs] at hj
      exact absurd hj inboxTransaction_defers
    | marking state =>
      cases h
      cases hj
    | typed | satisfying | counting | nudging | ended => cases h
  | poll job calls =>
    cases phase with
    | waiting =>
      cases h
      exact ⟨rfl, job, calls, rfl, persistAnswer_defers hj⟩
    | satisfying result dealId =>
      simp only [txStep] at h
      split at h
      · cases h
        cases hj
      · cases h
        cases hj
    | typed result | counting result | nudging result =>
      cases h
      cases hj
    | opened | marking | ended => cases h

/-- Every poll in the queue has its file. -/
def QueuedPolls (w : World) : Prop :=
  ∀ args, .pollDiDocument args ∈ w.jobs → PollJob.HasFile w.db args

theorem receiveWebhook_defers {newId : Nat} {rawBody : List UInt8} {hubSignature : Option String}
    {dispatched : Bool} {args : PollJob} :
    .pollDiDocument args ∉ (receiveWebhook env db newId rawBody hubSignature dispatched).jobs := by
  unfold receiveWebhook
  split
  · exact List.not_mem_nil
  · split
    · exact List.not_mem_nil
    · exact List.not_mem_nil
    · simp only
      split
      · simp
      · exact List.not_mem_nil

theorem processSession_jobs (inp : SessionInput) (sessionId : UUID) :
    (processSession env db inp sessionId).jobs = [] := by
  unfold processSession
  split
  · rfl
  · split
    · rfl
    · rfl

/-- A step that is a single transaction defers a poll only for a file that is there. -/
theorem worldStep_defers {w w' : World} {a : Action} (hsingle : a.isSingle = true)
    (h : worldStep env w a = some w') {args : PollJob} (hj : .pollDiDocument args ∈ w'.jobs) :
    .pollDiDocument args ∈ w.jobs ∨ args.HasFile w'.db := by
  have hkept : ∀ redelivered (job : Job),
      .pollDiDocument args ∈ (if redelivered = true then w.jobs else w.jobs.erase job) →
      .pollDiDocument args ∈ w.jobs := by
    intro redelivered job hmem
    split at hmem
    · exact hmem
    · exact List.mem_of_mem_erase hmem
  cases a with
  | webhook newId rawBody hubSignature dispatched =>
    cases h
    exact Or.inl ((List.mem_append.mp hj).resolve_right receiveWebhook_defers)
  | api inp tenantId op =>
    cases h
    exact Or.inl hj
  | execute e redelivered =>
    simp only [worldStep] at h
    split at h
    · cases h
      rcases List.mem_append.mp hj with hj | hj
      · exact Or.inl (hkept _ _ hj)
      · cases e with
        | processInboxRow | pollDiDocument => cases hsingle
        | fetchAndStoreFile fetch calls =>
          obtain ⟨-, -, f, hf⟩ := fetchAndStoreFile_defers hj
          exact Or.inr ⟨f, List.mem_of_find?_eq_some hf, by simpa using List.find?_some hf⟩
        | processSession sessionId inp =>
          simp only [Execution.result, processSession_jobs] at hj
          cases hj
    · contradiction
  | flush now deferOk =>
    cases h
    refine Or.inl ((List.mem_append.mp hj).resolve_right fun hmem => ?_)
    obtain ⟨p, -, hp⟩ := List.mem_map.mp hmem
    cases hp
  | drain calls =>
    cases h
    exact Or.inl hj

/-! ## Runs -/

/-- The invariant of the system. -/
structure TaskRuns.Sound {ι : Type} (runs : ι → TaskRun) (c : TaskRuns ι) : Prop where
  referential : Referential c.shared.db
  queued : QueuedPolls c.shared
  begun : ∀ i job calls, runs i = .poll job calls → c.phase i ≠ .waiting → job.HasFile c.shared.db
  phases : ∀ i job calls, runs i = .poll job calls → job.OwnsFile c.shared.db →
    (c.phase i).Sound c.shared.db job.sessionId

variable {ι : Type} {runs : ι → TaskRun} {c c' : TaskRuns ι}

theorem taskRuns_start {w : World} (hr : Referential w.db) (hq : QueuedPolls w) :
    TaskRuns.Sound runs (taskRunsStart w) where
  referential := hr
  queued := hq
  begun _ _ _ _ h := absurd rfl h
  phases _ _ _ _ _ := trivial

/-- The executions that do not advance. -/
theorem TaskRuns.Sound.phase_carried (h : TaskRuns.Sound runs c) {i : ι} {calls : PollCalls}
    (hrun : runs i = .poll job calls) (hc : Carries c.shared.db db) (howns : job.OwnsFile db) :
    (c.phase i).Sound db job.sessionId := by
  by_cases hwaiting : c.phase i = .waiting
  · rw [hwaiting]
    trivial
  · have hbefore := howns.before (h.begun i job calls hrun hwaiting) hc
    exact (h.phases i job calls hrun hbefore).carried h.referential hbefore hc

theorem TaskRuns.Sound.other (h : TaskRuns.Sound runs c) {a : Action} {w : World}
    (hsingle : a.isSingle = true) (hs : worldStep env c.shared a = some w) :
    TaskRuns.Sound runs ⟨w, c.phase⟩ where
  referential := h.referential.carried (worldStep_carries hsingle hs)
  queued args hj := by
    rcases worldStep_defers hsingle hs hj with hj | hfile
    · exact (h.queued args hj).carried (worldStep_carries hsingle hs)
    · exact hfile
  begun i job calls hrun hphase :=
    (h.begun i job calls hrun hphase).carried (worldStep_carries hsingle hs)
  phases i job calls hrun howns :=
    h.phase_carried hrun (worldStep_carries hsingle hs) howns

/-- A first transaction takes a job of the queue. -/
theorem takeJob_mem {jobs jobs' : List Job} {run : TaskRun} {redelivered : Bool}
    {phase : RunPhase} (h : takeJob jobs run redelivered phase = some jobs') :
    (∀ j ∈ jobs', j ∈ jobs) ∧ (phase = .waiting → run.execution.job ∈ jobs) := by
  unfold takeJob at h
  split at h
  · split at h
    · rename_i hmem
      cases h
      refine ⟨fun j hj => ?_, fun _ => hmem⟩
      split at hj
      · exact hj
      · exact List.mem_of_mem_erase hj
    · cases h
  · rename_i hphase
    cases h
    exact ⟨fun _ hj => hj, fun hwaiting => absurd hwaiting hphase⟩

variable [DecidableEq ι]

theorem TaskRuns.Sound.transaction (h : TaskRuns.Sound runs c) {i : ι} {jobs : List Job}
    {t : TxStep} {redelivered : Bool}
    (hjobs : takeJob c.shared.jobs (runs i) redelivered (c.phase i) = some jobs)
    (ht : txStep env c.shared.db (runs i) (c.phase i) = some t) :
    TaskRuns.Sound runs (c.advance i ⟨t.db, jobs ++ t.jobs⟩ t.phase) := by
  have hc : Carries c.shared.db t.db := txStep_carries ht
  obtain ⟨hkept, htaken⟩ := takeJob_mem hjobs
  -- The poll that advances has its file: it has begun, or its job was in the queue.
  have hfile : ∀ job calls, runs i = .poll job calls → job.HasFile c.shared.db := by
    intro job calls hrun
    by_cases hwaiting : c.phase i = .waiting
    · have hjob := htaken hwaiting
      rw [hrun] at hjob
      exact h.queued job hjob
    · exact h.begun i job calls hrun hwaiting
  constructor
  · exact h.referential.carried hc
  · intro args hj
    rcases List.mem_append.mp hj with hj | hj
    · exact (h.queued args (hkept _ hj)).carried hc
    · obtain ⟨-, job, calls, hrun, hid⟩ := txStep_defers ht hj
      obtain ⟨f, hf, hfid⟩ := (hfile job calls hrun).carried hc
      exact ⟨f, hf, hfid.trans hid.symm⟩
  · intro j job calls hrun hphase
    by_cases hji : j = i
    · exact (hfile job calls (hji ▸ hrun)).carried hc
    · rw [Processes.advance_phase_of_ne hji] at hphase
      exact (h.begun j job calls hrun hphase).carried hc
  · intro j job calls hrun howns
    by_cases hji : j = i
    · rw [hji] at hrun ⊢
      rw [Processes.advance_phase_self]
      have hbefore := howns.before (hfile job calls hrun) hc
      rw [hrun] at ht
      exact txStep_sound ht (h.phases i job calls hrun hbefore) h.referential hbefore
    · rw [Processes.advance_phase_of_ne hji]
      exact h.phase_carried hrun hc howns

theorem TaskRuns.Sound.step {a : TxAction ι} (h : TaskRuns.Sound runs c)
    (hs : txSystemStep env runs c a = some c') : TaskRuns.Sound runs c' := by
  cases a with
  | transaction i redelivered =>
    obtain ⟨jobs, hjobs, hs⟩ := Option.bind_eq_some_iff.mp hs
    obtain ⟨t, ht, hs⟩ := Option.bind_eq_some_iff.mp hs
    cases hs
    exact h.transaction hjobs ht
  | other a =>
    simp only [txSystemStep] at hs
    split at hs
    · rename_i hsingle
      obtain ⟨w, hw, rfl⟩ := Option.map_eq_some_iff.mp hs
      exact h.other hsingle hw
    · contradiction

/-- Every document that a poll of its session has confirmed is satisfied in the checklist of the
session's deal, if it is listed there. -/
def DocumentsMarked {ι : Type} (runs : ι → TaskRun) (c : TaskRuns ι) : Prop :=
  ∀ i job calls result typeKey, runs i = .poll job calls → c.phase i = .ended (some result) →
    isConfirmed result.processingStatus = true → result.documentTypeKey = .str typeKey →
    ∀ f ∈ c.shared.db.files.rows, f.id = job.fileId → f.sessionId = job.sessionId →
      ∀ s ∈ c.shared.db.sessions.rows, s.id = f.sessionId →
        ∀ item ∈ c.shared.db.checklistItems.rows, s.dealId = some item.dealId →
          item.typeKey = typeKey → item.satisfied = true

theorem TaskRuns.Sound.marked {ι : Type} {runs : ι → TaskRun} {c : TaskRuns ι}
    (h : TaskRuns.Sound runs c) : DocumentsMarked runs c := by
  intro i job calls result typeKey hrun hended hconfirmed hkey f hf hid hsession s hs hsid
  have hsound := h.phases i job calls hrun ⟨f, hf, hid, hsession⟩
  rw [hended] at hsound
  exact hsound hconfirmed typeKey hkey s hs (hsid.trans hsession)

/-- In every run, no document that a poll has confirmed is lost to the deal of its session. -/
theorem confirmed_documents_marked (env : Env) (runs : ι → TaskRun) {start : World}
    (hr : Referential start.db) (hq : QueuedPolls start) {as : List (TxAction ι)} {c : TaskRuns ι}
    (h : Transition.run (txSystemStep env runs) (taskRunsStart start) as = some c) :
    DocumentsMarked runs c := by
  have hsound : TaskRuns.Sound runs c :=
    run_preserves (TaskRuns.Sound runs) (fun _ _ _ hc hs => hc.step hs) h (taskRuns_start hr hq)
  exact hsound.marked

/-! ## A photo that arrives after the deal -/

/-- A session without files is about to get its deal, and a photo of its consultant waits in the
inbox. -/
def awaitedPhoto : World :=
  ⟨{ idleDb with
      inbox := .singleton ⟨1, some "wamid.1", some "PN1", photoPayload, true, .pending⟩ },
    [.processSession 7, .processInboxRow 1]⟩

/-- The inbox task of the photo and its poll; audit-core confirms a PAN card. -/
def photoRuns : Bool → TaskRun
  | false => .inbox 1 batchInput
  | true => .poll ⟨100, 7, 2, 9, 31, 0, none⟩
    ⟨0, .ok ⟨.str "CONFIRMED", .str "PAN", true⟩, .raised, true⟩

/-- The deal is created between the transactions of the inbox task; the photo is stored and
polled. -/
def handedOver : List (TxAction Bool) :=
  [.transaction false false, .other (.execute (.processSession 7 idleInput) false),
    .transaction false false, .transaction false false,
    .other (.execute (.fetchAndStoreFile ⟨100, 7, 2, 6, 3, .en, some 9⟩
      ⟨0, fun _ => .ok ⟨[], "", 0, "image/jpeg"⟩, fun _ => .ok 31, true⟩) false),
    .transaction true false, .transaction true false, .transaction true false,
    .transaction true false, .transaction true false]

/-- The poll is over, the session has its deal, and the PAN card is the one satisfied item. -/
theorem confirmed_documents_marked_photo :
    ∃ c, Transition.run (txSystemStep photoEnv photoRuns) (taskRunsStart awaitedPhoto) handedOver =
        some c ∧ (c.phase true).toGo = 0 ∧
      c.shared.db.sessions.rows.map Session.link = [(7, some 11)] ∧
      ((c.shared.db.checklistItems.rows.filter (·.satisfied)).map fun i => (i.dealId, i.typeKey)) =
        [(11, "PAN")] ∧
      DocumentsMarked photoRuns c := by
  have hview : (Transition.run (txSystemStep photoEnv photoRuns) (taskRunsStart awaitedPhoto)
      handedOver).map (fun c => ((c.phase true).toGo, c.shared.db.sessions.rows.map Session.link,
        (c.shared.db.checklistItems.rows.filter (·.satisfied)).map
          fun i => (i.dealId, i.typeKey))) =
      some (0, [(7, some 11)], [(11, "PAN")]) := by decide +kernel
  obtain ⟨c, hc, hrows⟩ := Option.map_eq_some_iff.mp hview
  have hr : Referential awaitedPhoto.db := by
    constructor
    · intro s hs dealId hdeal
      obtain rfl := List.mem_singleton.mp hs
      cases hdeal
    · intro i hi
      cases hi
  have hq : QueuedPolls awaitedPhoto := by
    intro args hj
    simp [awaitedPhoto] at hj
  exact ⟨c, hc, congrArg Prod.fst hrows, congrArg (fun r => r.2.1) hrows,
    congrArg (fun r => r.2.2) hrows, confirmed_documents_marked photoEnv photoRuns hr hq hc⟩

end WaService
