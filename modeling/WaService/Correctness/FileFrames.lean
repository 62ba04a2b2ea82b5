import WaService.Core.Evolution
import WaService.Correctness.PollEndings
import WaService.Correctness.SessionOutcome
import WaService.System.FileRuns
import WaService.System.Transactions

/-!
# Files between downloads

Only the download task changes how far a file is downloaded. Every other step of the service leaves
the columns of the download alone in each row, and the rows that it adds are new.
-/

namespace WaService

open Python Relational

/-- The columns that the download task reads before its calls or writes after them. -/
structure File.Progress where
  id : UUID
  metaSha256 : Option String
  localSha256 : Option String
  byteSize : Option Int
  state : FileState
  attempts : Nat

/-- The columns of the download in a row. -/
def File.progress (f : File) : File.Progress :=
  ⟨f.id, f.metaSha256, f.localSha256, f.byteSize, f.state, f.attempts⟩

/-- Each file keeps the columns of the download, and the other files are new. -/
def FilesKept (db db' : Db) : Prop :=
  Table.Evolves (Keeping File.progress) File.IsNew db.files db'.files

variable {env : Env} {db db' db'' : Db}

theorem filesKept_of_files (h : db'.files = db.files) : FilesKept db db' := by
  unfold FilesKept
  rw [h]
  exact .refl_keeping _

theorem FilesKept.trans (h : FilesKept db db') (h' : FilesKept db' db'') : FilesKept db db'' := by
  apply h.trans_keeping h'
  intro a b ha hab
  have hstate : b.state = a.state := congrArg File.Progress.state hab
  have hattempts : b.attempts = a.attempts := congrArg File.Progress.attempts hab
  have hlocal : b.localSha256 = a.localSha256 := congrArg File.Progress.localSha256 hab
  have hsize : b.byteSize = a.byteSize := congrArg File.Progress.byteSize hab
  exact ⟨hstate.trans ha.state, hattempts.trans ha.attempts, hlocal.trans ha.localSha256,
    hsize.trans ha.byteSize⟩

/-- An update of files that leaves the columns of the download alone. -/
theorem updateFiles_filesKept {p : File → Bool} {f : File → File}
    (hf : ∀ r, (f r).id = r.id ∧ (f r).wamid = r.wamid) (h : ∀ r, (f r).progress = r.progress) :
    FilesKept db (db.updateFiles p f hf) :=
  .update_keeping (File.keeps hf) h db.files

theorem recordType_filesKept (db : Db) (fileId : UUID) (typeKey : Option String) (facts : Json) :
    FilesKept db (recordType db fileId typeKey facts) := by
  unfold recordType
  exact updateFiles_filesKept _ fun _ => rfl

theorem processInboxRow_filesKept (inp : InboxInput) (inboxId : Nat) :
    FilesKept db (processInboxRow env db inp inboxId).db := by
  refine processInboxRow_preserves (P := FilesKept db) ?_ ?_ ?_ ?_ (filesKept_of_files rfl) inboxId
  · exact fun d tenantId contactId orgUnitId sessions hd _ => hd
  · intro d f files hd hnew hins
    have hrefl : ∀ f : File, Keeping File.progress f f := fun _ => rfl
    have hinsert : FilesKept d { d with files := files } := .insert hrefl hins hnew.toIsNew
    exact hd.trans hinsert
  · exact fun d sessionId hd => hd
  · exact fun d inboxId state hd => hd

theorem pollDiDocument_filesKept (calls : PollCalls) (job : PollJob) :
    FilesKept db (pollDiDocument env db calls job).db := by
  cases hrecorded : recordedAnswer env calls job with
  | none =>
    rw [pollDiDocument_unrecorded db hrecorded]
    split
    · exact filesKept_of_files rfl
    · exact filesKept_of_files rfl
  | some answer =>
    obtain ⟨result, typeKey, facts⟩ := answer
    rw [pollDiDocument_recorded db hrecorded]
    have htyped := recordType_filesKept db job.fileId typeKey facts
    split
    · exact htyped
    · rename_i satisfied hsatisfied
      obtain ⟨items, rfl⟩ := satisfyLinkedDeal_frame hsatisfied
      exact htyped.trans (filesKept_of_files (nudgeFlush_files _ _ _))

theorem processSession_files (inp : SessionInput) (sessionId : UUID) :
    (processSession env db inp sessionId).db.files = db.files := by
  obtain hsame | ⟨s, db', -, htx, hdb⟩ := processSession_cases env db inp sessionId
  · rw [hsame]
  · rw [hdb]
    obtain ⟨note, -, rfl⟩ | ⟨-, ⟨d, hmatched⟩ | ⟨d, hcreated⟩⟩ := sessionTransaction_cases htx
    · rfl
    · by_cases hcomplete : ChecklistComplete db d.id
      · obtain ⟨outbox, rfl⟩ := hmatched.completed hcomplete
        rfl
      · obtain ⟨outbox, rfl⟩ := hmatched.left hcomplete
        rfl
    · obtain ⟨deals, items, outbox, -, -, rfl⟩ := hcreated.written
      rfl

/-- Only an inbox task, a poll or a download writes files. -/
theorem worldStep_files {w w' : World} {a : Action} (ha : a.isDownload = false)
    (h : worldStep env w a = some w') :
    w'.db.files = w.db.files ∨
      (∃ inboxId inp redelivered, a = .execute (.processInboxRow inboxId inp) redelivered ∧
        w'.db = (processInboxRow env w.db inp inboxId).db) ∨
      ∃ job calls redelivered, a = .execute (.pollDiDocument job calls) redelivered ∧
        w'.db = (pollDiDocument env w.db calls job).db := by
  obtain hkept | ⟨now, deferOk, -, hdb⟩ | ⟨e, redelivered, rfl, hdb⟩ := worldStep_cases h
  · exact Or.inl hkept.files
  · left
    rw [hdb]
    rfl
  · cases e with
    | processInboxRow inboxId inp => exact Or.inr (Or.inl ⟨inboxId, inp, redelivered, rfl, hdb⟩)
    | fetchAndStoreFile args calls => cases ha
    | pollDiDocument args calls => exact Or.inr (Or.inr ⟨args, calls, redelivered, rfl, hdb⟩)
    | processSession sessionId inp =>
      left
      rw [hdb]
      exact processSession_files inp sessionId

/-- A step that executes no download. -/
theorem worldStep_filesKept {w w' : World} {a : Action} (ha : a.isDownload = false)
    (h : worldStep env w a = some w') : FilesKept w.db w'.db := by
  obtain hsame | ⟨inboxId, inp, -, -, hdb⟩ | ⟨job, calls, -, -, hdb⟩ := worldStep_files ha h
  · exact filesKept_of_files hsame
  · rw [hdb]
    exact processInboxRow_filesKept inp inboxId
  · rw [hdb]
    exact pollDiDocument_filesKept calls job

theorem fileRunStep_other {H : Hasher} {c c' : FileRuns} {a : Action}
    (h : fileRunStep env H c (.other a) = some c') :
    FilesKept c.shared.world.db c'.shared.world.db ∧ c'.phase = c.phase ∧
      c'.shared.posts = c.shared.posts ∧ c'.shared.recorders = c.shared.recorders := by
  simp only [fileRunStep] at h
  split at h
  · cases h
  · rename_i hother
    obtain ⟨w, hw, rfl⟩ := Option.map_eq_some_iff.mp h
    exact ⟨worldStep_filesKept (Bool.eq_false_of_not_eq_true hother) hw, rfl, rfl, rfl⟩

/-! ## One file -/

theorem fileById_eq_some {fileId : UUID} {f : File} :
    fileById db fileId = some f ↔ f ∈ db.files.rows ∧ f.id = fileId := by
  constructor
  · intro h
    exact ⟨List.mem_of_find?_eq_some h, by simpa using List.find?_some h⟩
  · rintro ⟨hf, rfl⟩
    refine Table.find?_eq_some_of_mem hf (by simp) fun b hb => ?_
    simp only [clash, sameKey, Bool.or_eq_true, beq_iff_eq] at hb ⊢
    exact Or.inl hb

/-- A file is found again with the columns of its download, and a file found for the first time is
new. -/
theorem FilesKept.fileById (h : FilesKept db db') (fileId : UUID) :
    (∀ f, fileById db fileId = some f →
      ∃ f', WaService.fileById db' fileId = some f' ∧ f'.progress = f.progress) ∧
    (fileById db fileId = none → ∀ f', WaService.fileById db' fileId = some f' → f'.IsNew) := by
  constructor
  · intro f hf
    obtain ⟨hmem, rfl⟩ := fileById_eq_some.mp hf
    obtain ⟨f', hf', hkept⟩ := h.kept f hmem
    exact ⟨f', fileById_eq_some.mpr ⟨hf', congrArg File.Progress.id hkept⟩, hkept⟩
  · intro hnone f' hf'
    obtain ⟨hmem', rfl⟩ := fileById_eq_some.mp hf'
    rcases h.source f' hmem' with ⟨f, hf, hkept⟩ | hnew
    · have hid : f'.id = f.id := congrArg File.Progress.id hkept
      rw [fileById_eq_some.mpr ⟨hf, hid.symm⟩] at hnone
      cases hnone
    · exact hnew

end WaService
