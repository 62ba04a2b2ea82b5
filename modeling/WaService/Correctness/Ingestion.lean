import WaService.Core.Best
import WaService.Correctness.Evolution

/-!
# What a payload adds to the files

The message loop, seen from outside: it goes through the messages of the first change
with the set of wamids that already have a file, and adds a file for every media
message with a new wamid. The inbox task commits exactly when this succeeds, and the
files it adds are exactly these.
-/

namespace WaService

open Python Relational

variable {env : Env} {db db' : Db}

/-! ## New wamids -/

/-- The messages of the first change of the first entry. -/
def inboundMessages (payload : Json) : Except Error (List Json) := do
  match ← payloadMessages payload with
  | none => return []
  | some messages => messages.iter

/-- The row of a media message, up to its ids and its position. -/
def draftFile (env : Env) (m : MediaMessage) : Except Error File := newFile env 0 0 0 0 m

/-- The wamid that a message adds to the known ones, if it is a media message and its
wamid is new. -/
def newWamid (env : Env) (known : List String) (msg : Json) : Except Error (Option String) := do
  match ← parseMedia msg with
  | none => return none
  | some m =>
    let draft ← draftFile env m
    if draft.wamid ∈ known then do
      let _ ← selectText m.wamid
      return none
    else return some draft.wamid

/-- The messages that get a file, in order, each with its wamid. -/
def newMedia (env : Env) : List String → List Json → Except Error (List (Json × String))
  | _, [] => .ok []
  | known, msg :: rest => do
    match ← newWamid env known msg with
    | none => newMedia env known rest
    | some wamid => do
      let media ← newMedia env (known ++ [wamid]) rest
      return (msg, wamid) :: media

/-- The wamids that have a file. -/
def fileWamids (db : Db) : List String := db.files.rows.map (·.wamid)

theorem mem_fileWamids {wamid : String} :
    wamid ∈ fileWamids db ↔ ∃ f ∈ db.files.rows, f.wamid = wamid := by
  simp [fileWamids]

theorem fileOfWamid_eq_none {wamid : String} :
    fileOfWamid db wamid = none ↔ wamid ∉ fileWamids db := by
  simp [fileOfWamid, mem_fileWamids]

theorem fileOfWamid_of_mem {wamid : String} (h : wamid ∈ fileWamids db) :
    ∃ old, fileOfWamid db wamid = some old ∧ old.wamid = wamid := by
  cases hf : fileOfWamid db wamid with
  | none => exact absurd h (fileOfWamid_eq_none.mp hf)
  | some old => exact ⟨old, rfl, by simpa using List.find?_some hf⟩

/-- A draft in its place. -/
def File.placed (newId tenantId sessionId : UUID) (seq : Int) (f : File) : File :=
  { f with id := newId, tenantId := tenantId, sessionId := sessionId, receivedSeq := seq }

@[simp] theorem File.placed_wamid (newId tenantId sessionId : UUID) (seq : Int) (f : File) :
    (f.placed newId tenantId sessionId seq).wamid = f.wamid := rfl

/-- The row that an insert writes is the draft in its place. -/
theorem newFile_eq (newId tenantId sessionId : UUID) (seq : Int) (m : MediaMessage) :
    newFile env newId tenantId sessionId seq m =
      (draftFile env m).map (File.placed newId tenantId sessionId seq) := by
  unfold draftFile newFile
  rcases sqlTextNotNull env m.wamid with _ | wamid
  · rfl
  rcases sqlTextNotNull env m.mediaId with _ | mediaId
  · rfl
  rcases sqlText env m.declaredMime with _ | declaredMime
  · rfl
  rcases sqlText env m.declaredName with _ | declaredName
  · rfl
  rcases sqlText env m.caption with _ | caption
  · rfl
  rcases sqlText env m.metaSha256 with _ | metaSha256
  · rfl
  · rfl

/-! ## Messages that carry media -/

/-- The value of a field, or null. -/
def fieldOf (j : Json) (key : String) : Json :=
  match j with
  | .obj fields => (fields.lookup key).getD .null
  | _ => .null

/-- The wamid of a message of type image or document. -/
def carriedWamid (msg : Json) : Option String :=
  if (fieldOf msg "type").eqStr "image" || (fieldOf msg "type").eqStr "document" then
    match fieldOf msg "id" with
    | .str wamid => some wamid
    | _ => none
  else none

/-- A media message that parses keeps its wamid. -/
theorem parseMedia_carried {msg : Json} {media : Option MediaMessage} {wamid : String}
    (h : parseMedia msg = .ok media) (hw : carriedWamid msg = some wamid) :
    ∃ m, media = some m ∧ m.wamid = .str wamid := by
  cases msg with
  | obj fields =>
    unfold carriedWamid at hw
    split at hw
    · rename_i htype
      have hid : fields.lookup "id" = some (.str wamid) := by
        cases hl : fields.lookup "id" with
        | none => simp [fieldOf, hl] at hw
        | some v => cases v <;> simp_all [fieldOf]
      obtain ⟨t, ht, h⟩ := bind_eq_ok.mp h
      have hsame : t = fieldOf (.obj fields) "type" := by
        cases hl : fields.lookup "type" with
        | none => simp [fieldOf, hl, Json.eqStr] at htype
        | some v =>
          simp only [Json.get, hl] at ht
          cases ht
          simp [fieldOf, hl]
      have hkind : ∃ kind, mediaKind t = some kind := by
        rw [hsame, mediaKind]
        rcases Bool.or_eq_true_iff.mp htype with himage | hdoc
        · exact ⟨.image, if_pos himage⟩
        · split
          · exact ⟨.image, rfl⟩
          · exact ⟨.document, rfl⟩
      obtain ⟨kind, hkind⟩ := hkind
      simp only [hkind] at h
      obtain ⟨block, -, h⟩ := bind_eq_ok.mp h
      obtain ⟨w, hwamid, h⟩ := bind_eq_ok.mp h
      simp only [Json.get, hid, Option.getD_some] at hwamid
      cases hwamid
      obtain ⟨_, -, h⟩ := bind_eq_ok.mp h
      obtain ⟨_, -, h⟩ := bind_eq_ok.mp h
      obtain ⟨_, -, h⟩ := bind_eq_ok.mp h
      obtain ⟨_, -, h⟩ := bind_eq_ok.mp h
      obtain ⟨_, -, h⟩ := bind_eq_ok.mp h
      obtain ⟨_, -, h⟩ := bind_eq_ok.mp h
      obtain ⟨_, -, h⟩ := bind_eq_ok.mp h
      obtain ⟨_, -, h⟩ := bind_eq_ok.mp h
      cases h
      exact ⟨_, rfl, rfl⟩
    · contradiction
  | _ => simp [carriedWamid, fieldOf, Json.eqStr] at hw

/-! ## One message -/

/-- The generated ids at the positions from `used` up to `count` are unused, and those up
to `count` are distinct. -/
structure FreshIds (db : Db) (newIds : Nat → UUID) (used count : Nat) : Prop where
  unused : ∀ n, used ≤ n → n < count → ∀ f ∈ db.files.rows, f.id ≠ newIds n
  distinct : ∀ n m, n < count → m < count → newIds n = newIds m → n = m

/-- A pass that adds no file. -/
theorem FreshIds.later {newIds : Nat → UUID} {used used' count : Nat}
    (h : FreshIds db newIds used count) (hfiles : db'.files = db.files) (hused : used ≤ used') :
    FreshIds db' newIds used' count where
  unused n hn := by
    rw [hfiles]
    exact h.unused n (le_trans hused hn)
  distinct := h.distinct

/-- A pass that adds a file with the id at its position. -/
theorem FreshIds.next {newIds : Nat → UUID} {used count : Nat} {f : File}
    (h : FreshIds db newIds used count) (hfiles : db'.files.rows = db.files.rows ++ [f])
    (hid : f.id = newIds used) (hused : used < count) : FreshIds db' newIds (used + 1) count where
  unused n hn hcount g hg := by
    rw [hfiles, List.mem_append, List.mem_singleton] at hg
    rcases hg with hg | rfl
    · exact h.unused n (by omega) hcount g hg
    · intro heq
      have hsame : used = n := h.distinct used n hused hcount (hid.symm.trans heq)
      omega
  distinct := h.distinct

/-- A new row clashes with no file when its id and its wamid are new. -/
theorem insert_file (f : File) (hid : ∀ a ∈ db.files.rows, a.id ≠ f.id)
    (hwamid : f.wamid ∉ fileWamids db) : ∃ files, db.files.insert? f = some files := by
  cases hins : db.files.insert? f with
  | some files => exact ⟨files, rfl⟩
  | none =>
    obtain ⟨a, ha, hclash⟩ := Table.insert?_eq_none.mp hins
    simp only [clash, Bool.or_eq_true, sameKey, beq_iff_eq] at hclash
    rcases hclash with h | h
    · exact absurd h (hid a ha)
    · exact absurd (mem_fileWamids.mpr ⟨a, ha, h⟩) hwamid

/-- What one pass of the loop leaves behind, for each outcome of the message. -/
def PassSpec (i : LoopInput) (st : LoopState) (r : LoopState × Option Error) :
    Except Error (Option String) → Prop
  | .error e => r.2 = some e
  | .ok none => r.2 = none ∧ r.1.db.files = st.db.files ∧ st.used ≤ r.1.used ∧
      r.1.used ≤ st.used + 1
  | .ok (some wamid) => r.2 = none ∧ r.1.used = st.used + 1 ∧ ∃ f,
      r.1.db.files.rows = st.db.files.rows ++ [f] ∧ f.wamid = wamid ∧ f.sessionId = i.sessionId ∧
        f.id = i.newIds st.used

theorem processMessage_spec (i : LoopInput) (st : LoopState) (msg : Json)
    (hq : i.deferOk st.used = true) (hfresh : ∀ f ∈ st.db.files.rows, f.id ≠ i.newIds st.used) :
    PassSpec i st (processMessage env i st msg) (newWamid env (fileWamids st.db) msg) := by
  unfold processMessage newWamid
  cases hparse : parseMedia msg with
  | error e => rfl
  | ok media =>
    cases media with
    | none => exact ⟨rfl, rfl, le_refl _, Nat.le_succ _⟩
    | some m =>
      simp only [registerFile, newFile_eq, Except.map, bind, Except.bind]
      cases hdraft : draftFile env m with
      | error e => rfl
      | ok draft =>
        simp only [File.placed_wamid]
        by_cases hknown : draft.wamid ∈ fileWamids st.db
        · obtain ⟨old, hold, -⟩ := fileOfWamid_of_mem hknown
          simp only [hold, if_pos hknown]
          cases selectText m.wamid with
          | error e => rfl
          | ok text =>
            simp only [pure, Except.pure, hq, if_true]
            exact ⟨rfl, rfl, Nat.le_succ _, le_refl _⟩
        · have hnone := fileOfWamid_eq_none.mpr hknown
          simp only [hnone, if_neg hknown]
          obtain ⟨files, hins⟩ :=
            insert_file (draft.placed (i.newIds st.used) i.ctx.tenantId i.sessionId (st.seq + 1))
              hfresh hknown
          simp only [hins, pure, Except.pure, hq, if_true]
          refine ⟨rfl, rfl, _, Table.rows_of_insert? hins, rfl, rfl, rfl⟩

/-! ## The loop -/

/-- A file that stands for a message: it has the message's wamid and lies in the session. -/
def FiledIn (sessionId : UUID) (p : Json × String) (f : File) : Prop :=
  f.wamid = p.2 ∧ f.sessionId = sessionId

theorem fileWamids_append {f : File} (h : db'.files.rows = db.files.rows ++ [f]) :
    fileWamids db' = fileWamids db ++ [f.wamid] := by
  simp [fileWamids, h]

/-- What the loop leaves behind, from the files it started with. -/
def LoopSpec (sessionId : UUID) (old : List File) (r : LoopState × Option Error) :
    Except Error (List (Json × String)) → Prop
  | .error e => r.2 = some e
  | .ok media => r.2 = none ∧ ∃ files, r.1.db.files.rows = old ++ files ∧
      List.Forall₂ (FiledIn sessionId) media files

/-- A first new message, and then the rest of the loop. -/
theorem LoopSpec.cons {sessionId : UUID} {old : List File} {r : LoopState × Option Error}
    {rest : Except Error (List (Json × String))} {f : File} {p : Json × String}
    (hf : FiledIn sessionId p f) (h : LoopSpec sessionId (old ++ [f]) r rest) :
    LoopSpec sessionId old r (rest.map (p :: ·)) := by
  cases rest with
  | error e => exact h
  | ok media =>
    obtain ⟨he, files, hrows, hall⟩ := h
    exact ⟨he, f :: files, by rw [hrows, List.append_assoc, List.singleton_append], .cons hf hall⟩

/-- The loop adds the new media in order, or fails with the error of the first message
that fails. -/
theorem processEach_spec {i : LoopInput} {st : LoopState} {count : Nat} (msgs : List Json)
    (hq : ∀ n, n < count → i.deferOk n = true) (hfresh : FreshIds st.db i.newIds st.used count)
    (hcount : st.used + msgs.length ≤ count) :
    LoopSpec i.sessionId st.db.files.rows (processEach env i st msgs)
      (newMedia env (fileWamids st.db) msgs) := by
  induction msgs generalizing st with
  | nil => exact ⟨rfl, [], (List.append_nil _).symm, .nil⟩
  | cons msg rest ih =>
    rw [List.length_cons] at hcount
    have hpass : PassSpec i st (processMessage env i st msg)
        (newWamid env (fileWamids st.db) msg) :=
      processMessage_spec i st msg (hq st.used (by omega))
        (hfresh.unused st.used le_rfl (by omega))
    unfold processEach newMedia
    rcases hr : processMessage env i st msg with ⟨st₁, e⟩
    rw [hr] at hpass
    cases hone : newWamid env (fileWamids st.db) msg with
    | error e' =>
      rw [hone] at hpass
      cases hpass
      rfl
    | ok outcome =>
      rw [hone] at hpass
      cases outcome with
      | none =>
        obtain ⟨he, hfiles, hused, hused'⟩ := hpass
        cases he
        have hstep : st₁.used ≤ st.used + 1 := hused'
        have hrest := ih (hfresh.later hfiles hused) (by omega)
        rwa [fileWamids, hfiles] at hrest
      | some wamid =>
        obtain ⟨he, hnext, f, hfiles, hwamid, hsession, hid⟩ := hpass
        cases he
        have hused : st₁.used = st.used + 1 := hnext
        have hfresh' : FreshIds st₁.db i.newIds st₁.used count := by
          rw [hused]
          exact hfresh.next hfiles hid (by omega)
        have hrest := ih hfresh' (by omega)
        rw [fileWamids_append hfiles, hfiles, hwamid] at hrest
        have hfiled : FiledIn i.sessionId (msg, wamid) f := ⟨hwamid, hsession⟩
        have hcons := hrest.cons hfiled
        simp only [bind, Except.bind]
        cases hlater : newMedia env (fileWamids st.db ++ [wamid]) rest with
        | error e' =>
          rw [hlater] at hcons
          exact hcons
        | ok media =>
          rw [hlater] at hcons
          exact hcons

/-! ## The new media of a payload -/

/-- The wamid that a media message is filed under. -/
def mediaWamid (env : Env) (msg : Json) : Option String :=
  match parseMedia msg with
  | .ok (some m) =>
    match draftFile env m with
    | .ok draft => some draft.wamid
    | .error _ => none
  | _ => none

/-- A message adds the wamid it is filed under, unless that is known. -/
theorem newWamid_ok {known : List String} {msg : Json} {outcome : Option String}
    (h : newWamid env known msg = .ok outcome) :
    (outcome = none ∧ ∀ w, mediaWamid env msg = some w → w ∈ known) ∨
      ∃ w, outcome = some w ∧ w ∉ known ∧ mediaWamid env msg = some w := by
  unfold mediaWamid
  obtain ⟨media, hparse, h⟩ := bind_eq_ok.mp h
  rw [hparse]
  cases media with
  | none =>
    cases h
    exact Or.inl ⟨rfl, nofun⟩
  | some m =>
    obtain ⟨draft, hdraft, h⟩ := bind_eq_ok.mp h
    simp only [hdraft]
    split at h
    · rename_i hknown
      obtain ⟨_, -, h⟩ := bind_eq_ok.mp h
      cases h
      refine Or.inl ⟨rfl, fun w hw => ?_⟩
      cases hw
      exact hknown
    · rename_i hnew
      cases h
      exact Or.inr ⟨_, rfl, hnew, rfl⟩

/-- The message that a file with this wamid is registered for: the first one that carries it. -/
def messageOf (env : Env) (msgs : List Json) (wamid : String) : Option Json :=
  msgs.find? fun msg => mediaWamid env msg == some wamid

/-- The new media of a list of messages: each entry is the first message with its wamid,
the wamid was not known, and every other media message has a known wamid or one of these. -/
theorem newMedia_ok {known : List String} {msgs : List Json} {media : List (Json × String)}
    (h : newMedia env known msgs = .ok media) :
    (∀ p ∈ media, p.2 ∉ known ∧ messageOf env msgs p.2 = some p.1) ∧
      ∀ msg ∈ msgs, ∀ w, mediaWamid env msg = some w → w ∈ known ∨ w ∈ media.map Prod.snd := by
  induction msgs generalizing known media with
  | nil =>
    cases h
    exact ⟨fun p hp => absurd hp List.not_mem_nil, fun msg hmsg => absurd hmsg List.not_mem_nil⟩
  | cons msg rest ih =>
    obtain ⟨outcome, hone, h⟩ := bind_eq_ok.mp h
    rcases newWamid_ok hone with ⟨rfl, hold⟩ | ⟨w, rfl, hnew, hmsg⟩
    · obtain ⟨hfirst, hcover⟩ := ih h
      constructor
      · intro p hp
        obtain ⟨hfresh, hof⟩ := hfirst p hp
        refine ⟨hfresh, ?_⟩
        rw [messageOf, List.find?_cons_of_neg, ← messageOf, hof]
        -- The head has no wamid, or a known one.
        simp only [beq_iff_eq]
        exact fun heq => hfresh (hold p.2 heq)
      · intro m hm w' hw'
        rcases List.mem_cons.mp hm with rfl | hm
        · exact Or.inl (hold w' hw')
        · exact hcover m hm w' hw'
    · obtain ⟨later, hlater, h⟩ := bind_eq_ok.mp h
      cases h
      obtain ⟨hfirst, hcover⟩ := ih hlater
      constructor
      · intro p hp
        rcases List.mem_cons.mp hp with rfl | hp
        · exact ⟨hnew, by simp [messageOf, hmsg]⟩
        · obtain ⟨hfresh, hof⟩ := hfirst p hp
          rw [List.mem_append, List.mem_singleton, not_or] at hfresh
          refine ⟨hfresh.1, ?_⟩
          rw [messageOf, List.find?_cons_of_neg, ← messageOf, hof]
          simp only [hmsg, beq_iff_eq, Option.some.injEq]
          exact fun heq => hfresh.2 heq.symm
      · intro m hm w' hw'
        rcases List.mem_cons.mp hm with rfl | hm
        · have hsame : w = w' := Option.some.inj (hmsg.symm.trans hw')
          simp [hsame]
        · have hrest := hcover m hm w' hw'
          rw [List.mem_append, List.mem_singleton] at hrest
          rw [List.map_cons, List.mem_cons]
          tauto

/-! ## The transaction -/

/-- For a number of messages, the generated ids are new and the queue accepts the jobs. -/
structure InboxInput.Fresh (inp : InboxInput) (db : Db) (count : Nat) : Prop where
  session : ∀ s ∈ db.sessions.rows, s.id ≠ inp.sessionId
  files : FreshIds db inp.fileIds 0 count
  queue : ∀ n, n < count → inp.deferOk n = true

/-- The number of messages of a payload. -/
def messageCount (payload : Json) : Nat :=
  match inboundMessages payload with
  | .ok msgs => msgs.length
  | .error _ => 0

/-- The files that a payload adds to a database: its new media. -/
def ingestion (env : Env) (db : Db) (payload : Json) : Except Error (List (Json × String)) := do
  let msgs ← inboundMessages payload
  newMedia env (fileWamids db) msgs

/-- The database after the media were filed in a session. -/
structure Filed (sessionId : UUID) (db db' : Db) (media : List (Json × String)) : Prop where
  contacts : db'.contacts = db.contacts
  files : ∃ files, db'.files.rows = db.files.rows ++ files ∧
    List.Forall₂ (FiledIn sessionId) media files

/-- The outcome of a transaction: it commits a database when the ingestion succeeds, and
rolls back with its error otherwise. -/
def TxSpec (Done : Db → List (Json × String) → Prop) (r : TxResult) :
    Except Error (List (Json × String)) → Prop
  | .ok media => ∃ db', r.outcome = .ok db' ∧ Done db' media
  | .error e => r.outcome = .error (.python e)

theorem TxSpec.imp {Done Done' : Db → List (Json × String) → Prop} {r : TxResult}
    {media : Except Error (List (Json × String))} (h : TxSpec Done r media)
    (himp : ∀ db' l, r.outcome = .ok db' → Done db' l → Done' db' l) : TxSpec Done' r media := by
  cases media with
  | error e => exact h
  | ok l =>
    obtain ⟨db', hr, hdone⟩ := h
    exact ⟨db', hr, himp db' l hr hdone⟩

theorem openSession_fresh {newId tenantId contactId orgUnitId : UUID} {now : Timestamp}
    (hid : ∀ s ∈ db.sessions.rows, s.id ≠ newId) :
    ∃ s db', getOrCreateSession db newId now tenantId contactId orgUnitId = .ok (s, db') := by
  unfold getOrCreateSession
  cases hopen : openSession db contactId with
  | some s => exact ⟨s, db, rfl⟩
  | none =>
    simp only
    cases hins : db.sessions.insert? (newSession newId now tenantId contactId orgUnitId) with
    | some sessions => exact ⟨_, _, rfl⟩
    | none =>
      -- A clash would be a row with the new id, or an open session of the contact.
      obtain ⟨a, ha, hclash⟩ := Table.insert?_eq_none.mp hins
      simp only [clash, Bool.or_eq_true, sameKey_iff] at hclash
      rcases hclash with ⟨k, hk, hk'⟩ | ⟨k, hk, hk'⟩
      · cases hk
        cases hk'
        exact absurd rfl (hid a ha)
      · have hnone := List.find?_eq_none.mp hopen a ha
        unfold Session.openContact at hk hk'
        split at hk
        · rename_i hisopen
          cases hk
          cases hk'
          simp [hisopen] at hnone
        · cases hk

theorem processMessage_contacts (i : LoopInput) (st : LoopState) (msg : Json) :
    (processMessage env i st msg).1.db.contacts = st.db.contacts := by
  unfold processMessage
  split
  · rfl
  · rfl
  · split
    · rfl
    · rename_i fileId db' hreg
      have hfile : db'.contacts = st.db.contacts := by
        obtain ⟨f, -, ⟨_, -, -, rfl⟩ | ⟨-, files, -, -, rfl⟩⟩ := registerFile_ok hreg
        · rfl
        · rfl
      split
      · exact hfile
      · exact hfile

theorem processEach_contacts (i : LoopInput) (st : LoopState) (msgs : List Json) :
    (processEach env i st msgs).1.db.contacts = st.db.contacts := by
  induction msgs generalizing st with
  | nil => rfl
  | cons msg rest ih =>
    have hmsg : (processMessage env i st msg).1.db.contacts = st.db.contacts :=
      processMessage_contacts i st msg
    unfold processEach
    split
    · rename_i st₁ hr
      rw [ih st₁]
      rwa [hr] at hmsg
    · rename_i st₁ e hr
      rwa [hr] at hmsg

theorem processMessages_spec {inp : InboxInput} {payload : Json} {ctx : ResolvedContext}
    {sessionId : UUID} (hids : FreshIds db inp.fileIds 0 (messageCount payload))
    (hqueue : ∀ n, n < messageCount payload → inp.deferOk n = true) :
    TxSpec (Filed sessionId db) (processMessages env db inp payload ctx sessionId)
      (ingestion env db payload) := by
  unfold messageCount at hids hqueue
  unfold inboundMessages at hids hqueue
  unfold ingestion inboundMessages processMessages
  cases hmsgs : payloadMessages payload with
  | error e => rfl
  | ok found =>
    cases found with
    | none => exact ⟨db, rfl, rfl, [], (List.append_nil _).symm, .nil⟩
    | some messages =>
      simp only [hmsgs, bind, Except.bind] at hids hqueue ⊢
      cases hiter : messages.iter with
      | error e => rfl
      | ok msgs =>
        simp only [hiter] at hids hqueue ⊢
        generalize hi : LoopInput.mk inp.now ctx sessionId (sessionJourney db sessionId) inp.fileIds
          inp.deferOk = i
        generalize hst : LoopState.mk db (maxReceivedSeq db sessionId) [] 0 = st
        have hq : ∀ n, n < msgs.length → i.deferOk n = true := by rw [← hi]; exact hqueue
        have hfresh : FreshIds st.db i.newIds st.used msgs.length := by
          rw [← hi, ← hst]
          exact hids
        have hcount : st.used + msgs.length ≤ msgs.length := by rw [← hst, Nat.zero_add]
        have hloop : LoopSpec sessionId db.files.rows (processEach env i st msgs)
            (newMedia env (fileWamids db) msgs) := by
          have hspec : LoopSpec i.sessionId st.db.files.rows (processEach env i st msgs)
            (newMedia env (fileWamids st.db) msgs) := processEach_spec msgs hq hfresh hcount
          rwa [← hi, ← hst] at hspec ⊢
        have hcontacts : (processEach env i st msgs).1.db.contacts = db.contacts := by
          rw [processEach_contacts, ← hst]
        rcases hr : processEach env i st msgs with ⟨last, e⟩
        rw [hr] at hloop hcontacts
        cases hnew : newMedia env (fileWamids db) msgs with
        | error e' =>
          rw [hnew] at hloop
          cases hloop
          rfl
        | ok media =>
          rw [hnew] at hloop
          obtain ⟨he, hfiles⟩ := hloop
          cases he
          exact ⟨last.db, rfl, hcontacts, hfiles⟩

/-- The database after the media were filed in a session of the contact. -/
def Ingested (contactId : UUID) (db db' : Db) (media : List (Json × String)) : Prop :=
  ∃ s ∈ db'.sessions.rows, s.contactId = contactId ∧ Filed s.id db db' media

/-- With a resolved identity, the transaction commits when the ingestion succeeds. -/
theorem inboxTransaction_spec {inp : InboxInput} {row : Inbox} {payload : Json}
    {ctx : ResolvedContext} (hfresh : inp.Fresh db (messageCount payload))
    (hctx : resolveFullContext db row.phoneNumberId payload = .ok ctx) :
    TxSpec (Ingested ctx.contactId db) (inboxTransaction env db inp row payload)
      (ingestion env db payload) := by
  obtain ⟨s, db₁, hget⟩ : ∃ s db', getOrCreateSession db inp.sessionId inp.now ctx.tenantId
      ctx.contactId ctx.orgUnitId = .ok (s, db') := openSession_fresh hfresh.session
  obtain ⟨hmem, hcontact, hcase⟩ := getOrCreateSession_ok hget
  have htx : inboxTransaction env db inp row payload =
      processMessages env db₁ inp payload ctx s.id := by
    simp only [inboxTransaction, hctx, hget]
  have hsame : db₁.files = db.files ∧ db₁.contacts = db.contacts := by
    rcases hcase with ⟨-, rfl⟩ | ⟨-, -, sessions, -, rfl⟩
    · exact ⟨rfl, rfl⟩
    · exact ⟨rfl, rfl⟩
  obtain ⟨hfiles, hcontacts⟩ := hsame
  have hids : FreshIds db₁ inp.fileIds 0 (messageCount payload) :=
    hfresh.files.later hfiles (le_refl 0)
  have hmsgs : TxSpec (Filed s.id db₁) (processMessages env db₁ inp payload ctx s.id)
      (ingestion env db₁ payload) := processMessages_spec hids hfresh.queue
  have hknown : ingestion env db₁ payload = ingestion env db payload := by
    simp only [ingestion, fileWamids, hfiles]
  rw [hknown, ← htx] at hmsgs
  apply hmsgs.imp
  intro db' media hout hfiled
  -- The session is still there after the loop, with its contact.
  have heff : db₁.Evolves (fun _ => False) (fun _ _ => False) db' := by
    have hres : processMessages env db₁ inp payload ctx s.id =
        ⟨(processMessages env db₁ inp payload ctx s.id).jobs, .ok db'⟩ := by rw [← hout, htx]
    exact processMessages_evolves hres ⟨s, hmem, rfl⟩
  obtain ⟨s', hs', hf⟩ := heff.sessions.kept s hmem
  refine ⟨s', hs', hf.contactId.trans hcontact, ?_⟩
  rw [hf.id]
  exact ⟨hfiled.contacts.trans hcontacts, by rw [← hfiles]; exact hfiled.files⟩

/-! ## The task -/

/-- The payload of an inbox row. -/
def rowPayload (env : Env) (db : Db) (inboxId : Nat) : Option Json :=
  match inboxRow db inboxId with
  | none => none
  | some row => (decodePayload env row.payload).toOption

/-- The inbox row is signed, its payload identifies a contact, and its media can be filed. -/
structure Ingests (env : Env) (db : Db) (inboxId : Nat) (payload : Json) (contactId : UUID)
    (media : List (Json × String)) : Prop where
  row : ∃ row, inboxRow db inboxId = some row ∧ row.signatureOk = true ∧
    decodePayload env row.payload = .ok payload ∧ ∃ ctx,
      resolveFullContext db row.phoneNumberId payload = .ok ctx ∧ ctx.contactId = contactId
  media : ingestion env db payload = .ok media

/-- The generated ids of an execution are new, and the queue accepts its jobs. -/
def InboxInput.FreshFor (inp : InboxInput) (env : Env) (db : Db) (inboxId : Nat) : Prop :=
  ∀ payload ∈ rowPayload env db inboxId, inp.Fresh db (messageCount payload)

variable {inp : InboxInput} {inboxId : Nat} {payload : Json} {contactId : UUID}
  {media : List (Json × String)}

theorem rowPayload_eq {row : Inbox} (hrow : inboxRow db inboxId = some row)
    (hpayload : decodePayload env row.payload = .ok payload) :
    payload ∈ rowPayload env db inboxId := by
  simp [rowPayload, hrow, hpayload, Except.toOption]

/-- A row that ingests media leaves them filed. -/
theorem processInboxRow_ingests (hfresh : inp.FreshFor env db inboxId)
    (h : Ingests env db inboxId payload contactId media) :
    Ingested contactId db (processInboxRow env db inp inboxId).db media := by
  obtain ⟨⟨row, hrow, hsigned, hpayload, ctx, hctx, rfl⟩, hmedia⟩ := h
  have htx : TxSpec (Ingested ctx.contactId db) (inboxTransaction env db inp row payload)
      (ingestion env db payload) :=
    inboxTransaction_spec (hfresh payload (rowPayload_eq hrow hpayload)) hctx
  rw [hmedia] at htx
  obtain ⟨db', hout, hdone⟩ := htx
  have hres : inboxTransaction env db inp row payload =
      ⟨(inboxTransaction env db inp row payload).jobs, .ok db'⟩ := by rw [← hout]
  have hfinal : (processInboxRow env db inp inboxId).db = markInbox db' row.id .done := by
    unfold processInboxRow processRow
    simp only [hrow, hsigned, if_true, hpayload]
    rw [hres]
  obtain ⟨s, hs, hcontact, hfiled⟩ := hdone
  rw [hfinal]
  exact ⟨s, hs, hcontact, hfiled.contacts, hfiled.files⟩

/-- Any other row adds no file. -/
theorem processInboxRow_files (hfresh : inp.FreshFor env db inboxId) :
    (processInboxRow env db inp inboxId).db.files = db.files ∨
      ∃ payload contactId media, Ingests env db inboxId payload contactId media := by
  obtain hsame | ⟨row, hrow, ⟨state, hmarked⟩ |
      ⟨payload, jobs, db', hsigned, hpayload, htx, -⟩⟩ := processInboxRow_cases env db inp inboxId
  · rw [hsame]
    exact Or.inl rfl
  · rw [hmarked]
    exact Or.inl rfl
  · obtain ⟨ctx, -, -, hctx, -⟩ := inboxTransaction_inv htx
    have hspec : TxSpec (Ingested ctx.contactId db)
        (inboxTransaction env db inp row payload) (ingestion env db payload) :=
      inboxTransaction_spec (hfresh payload (rowPayload_eq hrow hpayload)) hctx
    cases hmedia : ingestion env db payload with
    | error e =>
      rw [hmedia, htx] at hspec
      cases hspec
    | ok media =>
      exact Or.inr ⟨payload, ctx.contactId, media,
        ⟨row, hrow, hsigned, hpayload, ctx, hctx, rfl⟩, hmedia⟩

end WaService
