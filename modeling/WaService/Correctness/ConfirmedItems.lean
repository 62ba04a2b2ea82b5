import WaService.Correctness.FlushNudge

/-!
# Items satisfied by confirmed documents

The poll satisfies an item of a linked deal when it receives a confirmed answer with the item's
type. When the deal is linked later, `_satisfy_confirmed_files` works from the rows of the files,
and a row keeps the type of a terminal answer and not its status. The two agree unless an open item
has files of its type and none of them was confirmed.
-/

namespace WaService

open Python Relational

/-! ## Polls of a session, before and after the link -/

/-- A terminal poll whose answer is persisted, with the columns that it writes. -/
structure PersistedPoll (env : Env) where
  job : PollJob
  calls : PollCalls
  result : DiPollResult
  typeKey : Option String
  facts : Json
  recorded : recordedAnswer env calls job = some (result, typeKey, facts)

/-- One terminal poll for each of some files of a session; a file that is polled has a document
id. -/
structure SessionPolls (env : Env) (db : Db) (sessionId : UUID) where
  polls : List (PersistedPoll env)
  session : ∃ s ∈ db.sessions.rows, s.id = sessionId
  jobs : ∀ p ∈ polls, p.job.sessionId = sessionId
  files : ∀ p ∈ polls, ∃ f, fileById db p.job.fileId = some f ∧ f.diDocumentId.isSome = true
  distinct : (polls.map fun p => p.job.fileId).Nodup

/-- The database with the deal of the session replaced. -/
def withSessionDeal (db : Db) (sessionId : UUID) (dealId : Option UUID) : Db :=
  db.updateSessions (fun s => s.id == sessionId) (fun s => { s with dealId := dealId })
    fun _ _ => ⟨rfl, rfl, id⟩

/-- The polls one after the other. -/
def runPolls {env : Env} (db : Db) (polls : List (PersistedPoll env)) : Db :=
  polls.foldl (fun db p => (pollDiDocument env db p.calls p.job).db) db

/-- Every column of a file. -/
def fileColumns : List FileColumn :=
  [.id, .tenantId, .sessionId, .wamid, .mediaId, .receivedSeq, .waTimestamp, .kind, .fidelity,
    .declaredMime, .declaredName, .caption, .metaSha256, .localSha256, .byteSize, .state, .attempts,
    .errorCode, .storageUri, .mediaExpiresAt, .storedAt, .diDocumentId, .documentTypeKey, .diFacts]

/-- The full rows of the files that were polled. -/
def polledRows {env : Env} (db : Db) (polls : List (PersistedPoll env)) : List RowMapping :=
  polls.filterMap fun p => (fileById db p.job.fileId).map (File.select fileColumns)

section Law

variable {env : Env} {db : Db} {sessionId : UUID} (b : SessionPolls env db sessionId)
  (dealId : UUID) (now : Timestamp)

/-- The files are polled while the session has no deal; their rows satisfy the deal afterwards. -/
def satisfiedLater : Db :=
  let polled := runPolls (withSessionDeal db sessionId none) b.polls
  satisfyConfirmedFiles polled now dealId (polledRows polled b.polls)

/-- The deal is linked first, and the polls satisfy it. -/
def satisfiedAtOnce : Db := runPolls (withSessionDeal db sessionId (some dealId)) b.polls

/-- The deal has a satisfied item of this type. -/
def ItemSatisfied (db : Db) (dealId : UUID) (typeKey : String) : Prop :=
  ∃ i ∈ db.checklistItems.rows, i.dealId = dealId ∧ i.typeKey = typeKey ∧ i.satisfied = true

/-- The later path satisfies an item only for a confirmed file of its type, and satisfies the items
that the polls would have satisfied. -/
structure SatisfiesAlike : Prop where
  confirmed : ∀ typeKey, ItemSatisfied (satisfiedLater b dealId now) dealId typeKey →
    ItemSatisfied db dealId typeKey ∨
      ∃ p ∈ b.polls, p.typeKey = some typeKey ∧ isConfirmed p.result.processingStatus = true
  same : ∀ typeKey, ItemSatisfied (satisfiedLater b dealId now) dealId typeKey ↔
    ItemSatisfied (satisfiedAtOnce b dealId) dealId typeKey

/-- An open item of the deal that has files of its type has a confirmed one among them, whose answer
gave the type as text. -/
def OpenItemsConfirmed : Prop :=
  ∀ i ∈ db.checklistItems.rows, i.dealId = dealId → i.satisfied = false → i.typeKey ≠ "" →
    (∃ p ∈ b.polls, p.typeKey = some i.typeKey) →
    ∃ p ∈ b.polls, p.result.documentTypeKey = .str i.typeKey ∧
      isConfirmed p.result.processingStatus = true

end Law

/-! ## Items -/

/-- The deal has an item of this type. -/
def HasItem (db : Db) (dealId : UUID) (typeKey : String) : Prop :=
  ∃ i ∈ db.checklistItems.rows, i.dealId = dealId ∧ i.typeKey = typeKey

variable {env : Env} {db db' : Db} {dealId sessionId : UUID} {typeKey : String}

/-- An item as `mark_satisfied` leaves it. -/
def ChecklistItem.mark (now : Timestamp) (documentId : UUID) (i : ChecklistItem) : ChecklistItem :=
  { i with satisfied := true, documentId := some documentId, updatedAt := now }

/-- The items that `mark_satisfied` selects. -/
def ChecklistItem.isFor (dealId : UUID) (typeKey : String) (i : ChecklistItem) : Bool :=
  i.dealId == dealId && i.typeKey == typeKey

theorem ChecklistItem.isFor_iff {i : ChecklistItem} :
    i.isFor dealId typeKey = true ↔ i.dealId = dealId ∧ i.typeKey = typeKey := by
  simp [isFor]

theorem markSatisfied_rows (db : Db) (now : Timestamp) (dealId : UUID) (typeKey : String)
    (documentId : UUID) : (markSatisfied db now dealId typeKey documentId).checklistItems.rows =
      db.checklistItems.rows.map
        (patch (ChecklistItem.isFor dealId typeKey) (ChecklistItem.mark now documentId)) := rfl

theorem patch_mark_key (key : String) (now : Timestamp) (documentId : UUID) (i : ChecklistItem) :
    (patch (ChecklistItem.isFor dealId key) (ChecklistItem.mark now documentId) i).dealId =
        i.dealId ∧
      (patch (ChecklistItem.isFor dealId key) (ChecklistItem.mark now documentId) i).typeKey =
        i.typeKey := by
  have hmark : ∀ j : ChecklistItem, (j.mark now documentId).dealId = j.dealId ∧
      (j.mark now documentId).typeKey = j.typeKey := fun _ => ⟨rfl, rfl⟩
  exact ⟨patch_proj (fun j _ => (hmark j).1) i, patch_proj (fun j _ => (hmark j).2) i⟩

theorem markSatisfied_hasItem (db : Db) (dealId : UUID) (typeKey : String) (now : Timestamp)
    (key : String) (documentId : UUID) :
    HasItem (markSatisfied db now dealId key documentId) dealId typeKey ↔
      HasItem db dealId typeKey := by
  unfold HasItem
  simp only [markSatisfied_rows, List.mem_map, exists_exists_and_eq_and, patch_mark_key]

theorem markSatisfied_itemSatisfied (db : Db) (dealId : UUID) (typeKey : String) (now : Timestamp)
    (key : String) (documentId : UUID) :
    ItemSatisfied (markSatisfied db now dealId key documentId) dealId typeKey ↔
      ItemSatisfied db dealId typeKey ∨ HasItem db dealId typeKey ∧ key = typeKey := by
  unfold ItemSatisfied HasItem
  simp only [markSatisfied_rows, List.mem_map, exists_exists_and_eq_and, patch_mark_key]
  constructor
  · rintro ⟨i, hi, hdeal, htype, hsatisfied⟩
    by_cases hfor : i.isFor dealId key = true
    · exact Or.inr ⟨⟨i, hi, hdeal, htype⟩,
        (ChecklistItem.isFor_iff.mp hfor).2.symm.trans htype⟩
    · rw [patch_of_neg (eq_false_of_ne_true hfor)] at hsatisfied
      exact Or.inl ⟨i, hi, hdeal, htype, hsatisfied⟩
  · rintro (⟨i, hi, hdeal, htype, hsatisfied⟩ | ⟨⟨i, hi, hdeal, htype⟩, hkey⟩)
    · refine ⟨i, hi, hdeal, htype, ?_⟩
      rcases patch_eq_or (ChecklistItem.isFor dealId key) (ChecklistItem.mark now documentId) i
        with h | h
      · rw [h]
        rfl
      · rw [h]
        exact hsatisfied
    · refine ⟨i, hi, hdeal, htype, ?_⟩
      rw [patch_of_pos (ChecklistItem.isFor_iff.mpr ⟨hdeal, htype.trans hkey.symm⟩)]
      rfl

/-- An item with the type of a satisfied one of the deal is satisfied. -/
theorem ItemSatisfied.of_item {i : ChecklistItem} (h : ItemSatisfied db i.dealId i.typeKey)
    (hi : i ∈ db.checklistItems.rows) : i.satisfied = true := by
  obtain ⟨j, hj, hdeal, htype, hsatisfied⟩ := h
  have hsame : j = i :=
    Table.eq_of_clash hj hi (by simp [clash, sameKey, hdeal, htype])
  exact hsame ▸ hsatisfied

/-! ## What a poll and what a row satisfies -/

/-- The type of the item that the poll satisfies on a linked deal. -/
def PersistedPoll.Marks (p : PersistedPoll env) (typeKey : String) : Prop :=
  p.result.satisfies = true ∧ selectText p.result.documentTypeKey = .ok typeKey

/-- The type that a persisted answer writes. -/
theorem sqlText_of_recorded {calls : PollCalls} {job : PollJob} {result : DiPollResult}
    {stored : Option String} {facts : Json}
    (h : recordedAnswer env calls job = some (result, stored, facts)) :
    sqlText env result.documentTypeKey = .ok stored := by
  unfold recordedAnswer at h
  split at h
  · split at h
    · split at h
      · cases h
      · split at h
        · rename_i hkey _
          cases h
          exact hkey
        · cases h
    · cases h
  · cases h

/-- A type that the answer gives as a text stands in the row. -/
theorem PersistedPoll.typeKey_of_str {p : PersistedPoll env}
    (h : p.result.documentTypeKey = .str typeKey) : p.typeKey = some typeKey := by
  have hstored := sqlText_of_recorded p.recorded
  rw [h] at hstored
  exact sqlText_str hstored

/-- A poll satisfies the type that a confirmed answer names as a text that is not empty. -/
theorem PersistedPoll.marks_iff (p : PersistedPoll env) :
    p.Marks typeKey ↔ p.result.documentTypeKey = .str typeKey ∧
      isConfirmed p.result.processingStatus = true ∧ typeKey ≠ "" := by
  have hstored := sqlText_of_recorded p.recorded
  unfold PersistedPoll.Marks DiPollResult.satisfies
  constructor
  · rintro ⟨hsatisfies, htext⟩
    rw [Bool.and_eq_true] at hsatisfies
    cases hkey : p.result.documentTypeKey with
    | str s =>
      rw [hkey] at htext hsatisfies
      obtain rfl := selectText_str htext
      exact ⟨rfl, hsatisfies.2, by simpa [Json.truthy] using hsatisfies.1⟩
    | null | bool b | int n | float q | arr items | obj fields =>
      rw [hkey] at htext
      cases htext
  · rintro ⟨hkey, hconfirmed, hne⟩
    rw [hkey] at hstored ⊢
    refine ⟨by simp [Json.truthy, hne, hconfirmed], ?_⟩
    simp only [sqlText] at hstored
    unfold selectText
    split at hstored
    · cases hstored
    · rename_i hnul
      exact if_neg hnul

/-! ## The two paths -/

/-- Advancing the timer leaves the deal of every session. -/
theorem dealOfSessionId_nudgeFlush (db : Db) (now : Timestamp) (nudged sessionId : UUID) :
    dealOfSessionId (nudgeFlush db now nudged) sessionId = dealOfSessionId db sessionId := by
  have hkept : ∀ s : Session, (patch (fun s => s.id == nudged && s.state.isOpen)
      (fun s => { s with flushAt := some now }) s).dealId = s.dealId := patch_proj fun _ _ => rfl
  have hadvance : (sessionById (advanceFlush db now nudged) sessionId).bind (·.dealId) =
      (sessionById db sessionId).bind (·.dealId) := by
    unfold advanceFlush
    rw [sessionById_updateSessions]
    cases sessionById db sessionId with
    | none => rfl
    | some s => exact hkept s
  unfold nudgeFlush
  split
  · exact hadvance
  · rfl

theorem pollDiDocument_deal (db : Db) (p : PersistedPoll env) (sessionId : UUID) :
    dealOfSessionId (pollDiDocument env db p.calls p.job).db sessionId =
      dealOfSessionId db sessionId := by
  rw [pollDiDocument_recorded db p.recorded]
  split
  · rfl
  · rename_i satisfied hsatisfied
    obtain ⟨items, rfl⟩ := satisfyLinkedDeal_frame hsatisfied
    exact dealOfSessionId_nudgeFlush _ _ _ _

theorem satisfyLinkedDeal_unlinked {now : Timestamp} {job : PollJob} {result : DiPollResult}
    (h : dealOfSessionId db job.sessionId = none) :
    satisfyLinkedDeal db now job result = .ok db := by
  have hnone : (db.sessions.rows.find? fun s => s.id == job.sessionId).bind (·.dealId) = none := h
  unfold satisfyLinkedDeal
  rw [hnone]
  split
  · rfl
  · rfl

theorem satisfyLinkedDeal_linked {now : Timestamp} {job : PollJob} {result : DiPollResult}
    (h : dealOfSessionId db job.sessionId = some dealId) :
    satisfyLinkedDeal db now job result =
      if result.satisfies then
        (selectText result.documentTypeKey).map fun key =>
          markSatisfied db now dealId key job.evidenceId
      else .ok db := by
  have hsome : (db.sessions.rows.find? fun s => s.id == job.sessionId).bind (·.dealId) =
      some dealId := h
  unfold satisfyLinkedDeal DiPollResult.satisfies
  rw [hsome]
  split
  · rfl
  · rfl

/-- Without a deal the poll leaves the items alone. -/
theorem pollDiDocument_items_unlinked {p : PersistedPoll env}
    (hdeal : dealOfSessionId db p.job.sessionId = none) :
    (pollDiDocument env db p.calls p.job).db.checklistItems = db.checklistItems := by
  have hnone : dealOfSessionId (recordType db p.job.fileId p.typeKey p.facts) p.job.sessionId =
      none := hdeal
  rw [pollDiDocument_recorded db p.recorded, satisfyLinkedDeal_unlinked hnone]
  exact nudgeFlush_items _ _ _

/-- On a linked deal the poll leaves the items alone, or marks the one of its type. -/
theorem pollDiDocument_items {p : PersistedPoll env}
    (hdeal : dealOfSessionId db p.job.sessionId = some dealId) :
    (pollDiDocument env db p.calls p.job).db.checklistItems = db.checklistItems ∧
        (∀ typeKey, ¬ p.Marks typeKey) ∨
      ∃ key, (pollDiDocument env db p.calls p.job).db.checklistItems =
          (markSatisfied db p.calls.now dealId key p.job.evidenceId).checklistItems ∧
        ∀ typeKey, p.Marks typeKey ↔ key = typeKey := by
  have hsome : dealOfSessionId (recordType db p.job.fileId p.typeKey p.facts) p.job.sessionId =
      some dealId := hdeal
  unfold PersistedPoll.Marks
  rw [pollDiDocument_recorded db p.recorded, satisfyLinkedDeal_linked hsome]
  cases p.result.satisfies with
  | false => exact Or.inl ⟨nudgeFlush_items _ _ _, by simp⟩
  | true =>
    cases selectText p.result.documentTypeKey with
    | error e => exact Or.inl ⟨rfl, by simp⟩
    | ok key => exact Or.inr ⟨key, nudgeFlush_items _ _ _, by simp⟩

variable (typeKey) in
/-- On a linked deal the poll satisfies the item of its type. -/
theorem pollDiDocument_itemSatisfied {p : PersistedPoll env}
    (hdeal : dealOfSessionId db p.job.sessionId = some dealId) :
    (HasItem (pollDiDocument env db p.calls p.job).db dealId typeKey ↔
        HasItem db dealId typeKey) ∧
      (ItemSatisfied (pollDiDocument env db p.calls p.job).db dealId typeKey ↔
        ItemSatisfied db dealId typeKey ∨ HasItem db dealId typeKey ∧ p.Marks typeKey) := by
  obtain ⟨hitems, hmarks⟩ | ⟨key, hitems, hmarks⟩ := pollDiDocument_items hdeal
  · unfold HasItem ItemSatisfied
    rw [hitems]
    exact ⟨Iff.rfl, (or_iff_left fun h => hmarks typeKey h.2).symm⟩
  · have hhas := markSatisfied_hasItem db dealId typeKey p.calls.now key p.job.evidenceId
    have hsatisfied := markSatisfied_itemSatisfied db dealId typeKey p.calls.now key
      p.job.evidenceId
    rw [hmarks]
    unfold HasItem ItemSatisfied at *
    rw [hitems]
    exact ⟨hhas, hsatisfied⟩

/-! ## Runs of polls -/

theorem runPolls_deal (polls : List (PersistedPoll env)) (sessionId : UUID) :
    dealOfSessionId (runPolls db polls) sessionId = dealOfSessionId db sessionId := by
  induction polls generalizing db with
  | nil => rfl
  | cons p rest ih =>
    have hrest : dealOfSessionId (runPolls (pollDiDocument env db p.calls p.job).db rest)
        sessionId = _ := ih
    exact hrest.trans (pollDiDocument_deal db p sessionId)

/-- While the session has no deal, polls leave the items alone. -/
theorem runPolls_items_unlinked {polls : List (PersistedPoll env)}
    (hjobs : ∀ p ∈ polls, p.job.sessionId = sessionId)
    (hdeal : dealOfSessionId db sessionId = none) :
    (runPolls db polls).checklistItems = db.checklistItems := by
  induction polls generalizing db with
  | nil => rfl
  | cons p rest ih =>
    have hfirst : (pollDiDocument env db p.calls p.job).db.checklistItems = db.checklistItems := by
      apply pollDiDocument_items_unlinked
      rw [hjobs p List.mem_cons_self]
      exact hdeal
    have hrest := ih (fun q hq => hjobs q (List.mem_cons_of_mem p hq))
      ((pollDiDocument_deal db p sessionId).trans hdeal)
    exact hrest.trans hfirst

/-- On a linked deal, polls satisfy the items of their types. -/
theorem runPolls_itemSatisfied {polls : List (PersistedPoll env)}
    (hjobs : ∀ p ∈ polls, p.job.sessionId = sessionId)
    (hdeal : dealOfSessionId db sessionId = some dealId) :
    ItemSatisfied (runPolls db polls) dealId typeKey ↔ ItemSatisfied db dealId typeKey ∨
      HasItem db dealId typeKey ∧ ∃ p ∈ polls, p.Marks typeKey := by
  induction polls generalizing db with
  | nil => simp [runPolls]
  | cons p rest ih =>
    have hown : dealOfSessionId db p.job.sessionId = some dealId := by
      rw [hjobs p List.mem_cons_self]
      exact hdeal
    obtain ⟨hhas, hsatisfied⟩ := pollDiDocument_itemSatisfied typeKey hown
    have hrest := ih (fun q hq => hjobs q (List.mem_cons_of_mem p hq))
      ((pollDiDocument_deal db p sessionId).trans hdeal)
    rw [hhas, hsatisfied] at hrest
    simp only [List.mem_cons, exists_eq_or_imp]
    rw [and_or_left, ← or_assoc]
    exact hrest

/-! ## Rows -/

theorem pollDiDocument_fileById (db : Db) (p : PersistedPoll env) (fileId : UUID) :
    fileById (pollDiDocument env db p.calls p.job).db fileId =
      (fileById db fileId).map
        (patch (fun f => f.id == p.job.fileId) (File.typed p.typeKey p.facts)) := by
  have hfiles := pollDiDocument_files env db p.calls p.job
  rw [p.recorded] at hfiles
  have hsame : fileById (pollDiDocument env db p.calls p.job).db fileId =
      fileById (recordType db p.job.fileId p.typeKey p.facts) fileId := by
    unfold fileById
    rw [hfiles]
  rw [hsame]
  exact fileById_updateFiles db _ (File.typed p.typeKey p.facts) (fun _ => ⟨rfl, rfl⟩) fileId

/-- A file that is not polled keeps its row. -/
theorem runPolls_fileById_other {polls : List (PersistedPoll env)} {fileId : UUID}
    (h : fileId ∉ polls.map fun p => p.job.fileId) :
    fileById (runPolls db polls) fileId = fileById db fileId := by
  induction polls generalizing db with
  | nil => rfl
  | cons p rest ih =>
    rw [List.map_cons, List.mem_cons, not_or] at h
    have hrest : fileById (runPolls (pollDiDocument env db p.calls p.job).db rest) fileId = _ :=
      ih h.2
    refine hrest.trans ?_
    rw [pollDiDocument_fileById]
    cases hf : fileById db fileId with
    | none => rfl
    | some f =>
      obtain ⟨-, hid⟩ := fileById_eq_some.mp hf
      exact congrArg some (patch_of_neg (by simpa [hid] using h.1))

/-- A file that is polled once ends with the type of its answer. -/
theorem runPolls_fileById {polls : List (PersistedPoll env)}
    (hdistinct : (polls.map fun p => p.job.fileId).Nodup) {p : PersistedPoll env}
    (hp : p ∈ polls) {f : File} (hf : fileById db p.job.fileId = some f) :
    fileById (runPolls db polls) p.job.fileId = some (f.typed p.typeKey p.facts) := by
  induction polls generalizing db f with
  | nil => cases hp
  | cons q rest ih =>
    rw [List.map_cons, List.nodup_cons] at hdistinct
    obtain ⟨-, hid⟩ := fileById_eq_some.mp hf
    have hstep := pollDiDocument_fileById db q p.job.fileId
    rw [hf, Option.map_some] at hstep
    rcases List.mem_cons.mp hp with rfl | hp
    · rw [patch_of_pos (by simpa using hid)] at hstep
      exact (runPolls_fileById_other hdistinct.1).trans hstep
    · have hne : f.id ≠ q.job.fileId := by
        intro heq
        exact hdistinct.1 (List.mem_map.mpr ⟨p, hp, hid.symm.trans heq⟩)
      rw [patch_of_neg (by simpa using hne)] at hstep
      exact ih hdistinct.2 hp hstep

/-- The row gives a type that `_satisfy_confirmed_files` looks for. -/
def RowMapping.Names (row : RowMapping) (typeKey : String) : Prop :=
  row.get .documentTypeKey = .text typeKey ∧ typeKey ≠ "" ∧
    ∃ documentId, row.get .diDocumentId = .uuid documentId

theorem File.select_names {f : File} (hdocument : f.diDocumentId.isSome = true) :
    (f.select fileColumns).Names typeKey ↔ f.documentTypeKey = some typeKey ∧ typeKey ≠ "" := by
  have htype : (f.select fileColumns).get .documentTypeKey = f.cell .documentTypeKey :=
    File.select_get_of_mem f (by decide)
  have hid : (f.select fileColumns).get .diDocumentId = f.cell .diDocumentId :=
    File.select_get_of_mem f (by decide)
  obtain ⟨documentId, hsome⟩ := Option.isSome_iff_exists.mp hdocument
  unfold RowMapping.Names
  rw [htype, hid, File.cell, File.cell, hsome]
  cases f.documentTypeKey with
  | none => simp [Cell.ofOption]
  | some key => simp [Cell.ofOption]

/-- `_satisfy_confirmed_files` satisfies the items of the types that the rows give. -/
theorem satisfyConfirmedFiles_itemSatisfied (now : Timestamp) (rows : List RowMapping) :
    ItemSatisfied (satisfyConfirmedFiles db now dealId rows) dealId typeKey ↔
      ItemSatisfied db dealId typeKey ∨
        HasItem db dealId typeKey ∧ ∃ row ∈ rows, row.Names typeKey := by
  unfold satisfyConfirmedFiles
  induction rows generalizing db with
  | nil => simp
  | cons row rest ih =>
    rw [List.foldl_cons, ih]
    simp only [List.mem_cons, exists_eq_or_imp]
    split
    · rename_i key documentId htype hid
      split
      · rename_i hempty
        have hnames : ¬ row.Names typeKey := by
          rintro ⟨hkey, hne, -⟩
          rw [htype] at hkey
          cases hkey
          exact hne (by simpa using hempty)
        simp only [hnames, false_or]
      · rename_i hne
        have hnames : row.Names typeKey ↔ key = typeKey := by
          constructor
          · rintro ⟨hkey, -, -⟩
            rw [htype] at hkey
            cases hkey
            rfl
          · rintro rfl
            exact ⟨htype, by simpa using hne, documentId, hid⟩
        rw [markSatisfied_hasItem, markSatisfied_itemSatisfied, hnames]
        rw [or_assoc, and_or_left]
    · rename_i hnot
      have hnames : ¬ row.Names typeKey := by
        rintro ⟨hkey, -, documentId, hid⟩
        exact hnot typeKey documentId hkey hid
      simp only [hnames, false_or]

/-! ## The law -/

section Law

variable {b : SessionPolls env db sessionId} {now : Timestamp}

theorem withSessionDeal_deal (h : ∃ s ∈ db.sessions.rows, s.id = sessionId) (deal : Option UUID) :
    dealOfSessionId (withSessionDeal db sessionId deal) sessionId = deal := by
  obtain ⟨s, hs, rfl⟩ := h
  have hfind : sessionById db s.id = some s := by
    refine Table.find?_eq_some_of_mem hs (by simp) fun r hr => ?_
    simp only [clash, sameKey, Bool.or_eq_true, beq_iff_eq] at hr ⊢
    exact Or.inl hr
  have hlinked : (sessionById (withSessionDeal db s.id deal) s.id).bind (·.dealId) = deal := by
    unfold withSessionDeal
    rw [sessionById_updateSessions, hfind, Option.map_some, patch_of_pos (by simp)]
    rfl
  exact hlinked

/-- The rows give the types that the answers were persisted with. -/
theorem exists_polledRows_names :
    (∃ row ∈ polledRows (runPolls (withSessionDeal db sessionId none) b.polls) b.polls,
        row.Names typeKey) ↔
      typeKey ≠ "" ∧ ∃ p ∈ b.polls, p.typeKey = some typeKey := by
  have hrow : ∀ p ∈ b.polls, ∃ f : File, f.diDocumentId.isSome = true ∧
      f.documentTypeKey = p.typeKey ∧
      fileById (runPolls (withSessionDeal db sessionId none) b.polls) p.job.fileId = some f := by
    intro p hp
    obtain ⟨f, hf, hdocument⟩ := b.files p hp
    exact ⟨f.typed p.typeKey p.facts, hdocument, rfl, runPolls_fileById b.distinct hp hf⟩
  unfold polledRows
  simp only [List.mem_filterMap, Option.map_eq_some_iff]
  constructor
  · rintro ⟨row, ⟨p, hp, f, hf, rfl⟩, hnames⟩
    obtain ⟨f', hdocument, htype, hf'⟩ := hrow p hp
    rw [hf] at hf'
    cases hf'
    obtain ⟨hkey, hne⟩ := (File.select_names hdocument).mp hnames
    exact ⟨hne, p, hp, htype.symm.trans hkey⟩
  · rintro ⟨hne, p, hp, hkey⟩
    obtain ⟨f, hdocument, htype, hf⟩ := hrow p hp
    exact ⟨_, ⟨p, hp, f, hf, rfl⟩, (File.select_names hdocument).mpr ⟨htype.trans hkey, hne⟩⟩

/-- The types satisfied later are those that the answers were persisted with. -/
theorem satisfiedLater_iff : ItemSatisfied (satisfiedLater b dealId now) dealId typeKey ↔
    ItemSatisfied db dealId typeKey ∨ HasItem db dealId typeKey ∧ typeKey ≠ "" ∧
      ∃ p ∈ b.polls, p.typeKey = some typeKey := by
  have hitems : (runPolls (withSessionDeal db sessionId none) b.polls).checklistItems =
      db.checklistItems :=
    runPolls_items_unlinked b.jobs (withSessionDeal_deal b.session none)
  unfold satisfiedLater
  rw [satisfyConfirmedFiles_itemSatisfied, exists_polledRows_names]
  unfold ItemSatisfied HasItem
  rw [hitems]

/-- The types satisfied at once are those of the confirmed answers. -/
theorem satisfiedAtOnce_iff : ItemSatisfied (satisfiedAtOnce b dealId) dealId typeKey ↔
    ItemSatisfied db dealId typeKey ∨ HasItem db dealId typeKey ∧
      ∃ p ∈ b.polls, p.Marks typeKey :=
  runPolls_itemSatisfied b.jobs (withSessionDeal_deal b.session (some dealId))

/-- Satisfying a linked deal from the rows of polled files satisfies items for confirmed files only,
and the items that the polls would have satisfied, exactly when each open item with files of its
type has a confirmed one among them. -/
theorem satisfied_alike_iff (b : SessionPolls env db sessionId) (dealId : UUID) (now : Timestamp) :
    SatisfiesAlike b dealId now ↔ OpenItemsConfirmed b dealId := by
  constructor
  · rintro ⟨-, hsame⟩ i hi hdeal hopen hne hnamed
    have hlater : ItemSatisfied (satisfiedLater b dealId now) dealId i.typeKey :=
      satisfiedLater_iff.mpr (Or.inr ⟨⟨i, hi, hdeal, rfl⟩, hne, hnamed⟩)
    rcases satisfiedAtOnce_iff.mp ((hsame i.typeKey).mp hlater) with hbefore | ⟨-, p, hp, hmarks⟩
    · subst hdeal
      rw [hbefore.of_item hi] at hopen
      cases hopen
    · obtain ⟨hkey, hconfirmed, -⟩ := p.marks_iff.mp hmarks
      exact ⟨p, hp, hkey, hconfirmed⟩
  · intro h
    have hlater : ∀ typeKey, ItemSatisfied (satisfiedLater b dealId now) dealId typeKey →
        ItemSatisfied db dealId typeKey ∨ HasItem db dealId typeKey ∧
          ∃ p ∈ b.polls, p.Marks typeKey := by
      intro typeKey hsatisfied
      rcases satisfiedLater_iff.mp hsatisfied with hbefore | ⟨hhas, hne, hnamed⟩
      · exact Or.inl hbefore
      · obtain ⟨i, hi, hdeal, rfl⟩ := hhas
        by_cases hopen : i.satisfied = true
        · exact Or.inl ⟨i, hi, hdeal, rfl, hopen⟩
        · obtain ⟨p, hp, hkey, hconfirmed⟩ :=
            h i hi hdeal (eq_false_of_ne_true hopen) hne hnamed
          exact Or.inr ⟨⟨i, hi, hdeal, rfl⟩, p, hp, p.marks_iff.mpr ⟨hkey, hconfirmed, hne⟩⟩
    constructor
    · intro typeKey hsatisfied
      rcases hlater typeKey hsatisfied with hbefore | ⟨-, p, hp, hmarks⟩
      · exact Or.inl hbefore
      · obtain ⟨hkey, hconfirmed, -⟩ := p.marks_iff.mp hmarks
        exact Or.inr ⟨p, hp, PersistedPoll.typeKey_of_str hkey, hconfirmed⟩
    · intro typeKey
      constructor
      · intro hsatisfied
        exact satisfiedAtOnce_iff.mpr (hlater typeKey hsatisfied)
      · intro hsatisfied
        rcases satisfiedAtOnce_iff.mp hsatisfied with hbefore | ⟨hhas, p, hp, hmarks⟩
        · exact satisfiedLater_iff.mpr (Or.inl hbefore)
        · obtain ⟨hkey, -, hne⟩ := p.marks_iff.mp hmarks
          exact satisfiedLater_iff.mpr
            (Or.inr ⟨hhas, hne, p, hp, PersistedPoll.typeKey_of_str hkey⟩)

end Law

/-! ## A document that was not confirmed -/

/-- A stored file of the session that waits for its answer, and a deal that needs a PAN card. -/
def panDb : Db :=
  { Db.empty with
    sessions := .singleton claimedSession
    files := .singleton { polledBookingForm with documentTypeKey := none, diFacts := none }
    checklistItems := .singleton ⟨30, 10, "PAN", .blocking, false, none, 0⟩ }

/-- DI ends the document as a PAN card. -/
def panPoll (status : Json) : PersistedPoll (.ofRecording "s" []) where
  job := ⟨polledBookingForm.id, 7, 1, 4, 9, 0, none⟩
  calls := documentEnds status (.str "PAN")
  result := ⟨status, .str "PAN", true⟩
  typeKey := some "PAN"
  facts := .obj []
  recorded := rfl

def panPolls (status : Json) : SessionPolls (.ofRecording "s" []) panDb 7 where
  polls := [panPoll status]
  session := ⟨claimedSession, List.mem_singleton.mpr rfl, rfl⟩
  jobs := by
    intro p hp
    rw [List.mem_singleton.mp hp]
    rfl
  files := by
    intro p hp
    rw [List.mem_singleton.mp hp]
    exact ⟨_, rfl, rfl⟩
  distinct := List.nodup_singleton _

instance (db : Db) (dealId : UUID) (typeKey : String) :
    Decidable (ItemSatisfied db dealId typeKey) :=
  inferInstanceAs (Decidable (∃ i ∈ db.checklistItems.rows, i.dealId = dealId ∧
    i.typeKey = typeKey ∧ i.satisfied = true))

/-- A PAN card that DI refused satisfies the deal that is linked afterwards. -/
theorem refused_pan_satisfies :
    ItemSatisfied (satisfiedLater (panPolls (.str "FAILED")) 10 0) 10 "PAN" ∧
      ¬ ItemSatisfied (satisfiedAtOnce (panPolls (.str "FAILED")) 10) 10 "PAN" ∧
      ¬ SatisfiesAlike (panPolls (.str "FAILED")) 10 0 := by
  have hlater : ItemSatisfied (satisfiedLater (panPolls (.str "FAILED")) 10 0) 10 "PAN" := by
    decide
  have hatOnce : ¬ ItemSatisfied (satisfiedAtOnce (panPolls (.str "FAILED")) 10) 10 "PAN" := by
    decide
  exact ⟨hlater, hatOnce, fun h => hatOnce ((h.same "PAN").mp hlater)⟩

end WaService
