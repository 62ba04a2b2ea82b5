import WaService.Correctness.AmbiguousReviews
import WaService.Correctness.Confirmations

/-!
# Deals that a session leaves alone

A run of `process_session` writes to one deal, the one with the tenant and the booking number of the
session: an exact match, a new row, or the row that the insert ran into. A fuzzy match writes to no
deal at all.
-/

namespace WaService

open Python Relational

/-- The item is one of the deal. -/
def ChecklistItem.belongsTo (dealId : UUID) (i : ChecklistItem) : Bool := i.dealId == dealId

/-- A deal is as it was: its row, its checklist items, and no session is newly linked to it. -/
structure DealKept (d : Deal) (db db' : Db) : Prop where
  row : d ∈ db'.deals.rows
  items : Table.SameOn (ChecklistItem.belongsTo d.id) db'.checklistItems db.checklistItems
  links : ∀ s' ∈ db'.sessions.rows, s'.dealId = some d.id →
    ∃ s ∈ db.sessions.rows, s.id = s'.id ∧ s.dealId = some d.id

section Kept

variable {d : Deal} {db db' db'' : Db}

theorem DealKept.refl (hd : d ∈ db.deals.rows) : DealKept d db db where
  row := hd
  items := rfl
  links s hs hlink := ⟨s, hs, rfl, hlink⟩

theorem DealKept.trans (h : DealKept d db db') (h' : DealKept d db' db'') :
    DealKept d db db'' where
  row := h'.row
  items := h'.items.trans h.items
  links s'' hs'' hlink := by
    obtain ⟨s', hs', hid', hlink'⟩ := h'.links s'' hs'' hlink
    obtain ⟨s, hs, hid, hlinked⟩ := h.links s' hs' hlink'
    exact ⟨s, hs, hid.trans hid', hlinked⟩

/-- An update of items outside the selected ones leaves those as they are. -/
theorem updateItems_sameOn {p q : ChecklistItem → Bool} {f : ChecklistItem → ChecklistItem}
    (h : ∀ i, (f i).id = i.id ∧ (f i).dealId = i.dealId ∧ (f i).typeKey = i.typeKey)
    (hout : ∀ i, p i = true → q i = false ∧ q (f i) = false) :
    Table.SameOn q (db.updateItems p f h).checklistItems db.checklistItems :=
  @Table.filter_update _ _ p f (ChecklistItem.keeps h) q db.checklistItems fun i _ => hout i

/-- What writes other tables than the three keeps every deal. -/
theorem DealKept.of_tables (hd : d ∈ db.deals.rows) (hdeals : db'.deals = db.deals)
    (hitems : db'.checklistItems = db.checklistItems) (hsessions : db'.sessions = db.sessions) :
    DealKept d db db' where
  row := by rwa [hdeals]
  items := by rw [hitems]; rfl
  links s' hs' hlink := ⟨s', by rwa [hsessions] at hs', rfl, hlink⟩

/-- An update of sessions links none of them to the deal. -/
theorem DealKept.of_sessions (hd : d ∈ db.deals.rows) {p : Session → Bool} {f : Session → Session}
    (hf : ∀ s, p s = true → (f s).id = s.id ∧ (f s).contactId = s.contactId ∧
      ((f s).state.isOpen = true → s.state.isOpen = true))
    (hlink : ∀ s, p s = true → (f s).dealId = some d.id → s.dealId = some d.id) :
    DealKept d db (db.updateSessions p f hf) where
  row := hd
  items := rfl
  links s' hs' hlinked := by
    obtain ⟨s, hs, rfl⟩ := List.mem_map.mp hs'
    by_cases hp : p s = true
    · rw [patch_of_pos hp] at hlinked ⊢
      exact ⟨s, hs, (hf s hp).1.symm, hlink s hp hlinked⟩
    · rw [patch_of_neg (by simpa using hp)] at hlinked ⊢
      exact ⟨s, hs, rfl, hlinked⟩

/-! ## The writes to another deal -/

section Other

variable {dealId : UUID} (hd : d ∈ db.deals.rows) (hne : d.id ≠ dealId)

include hd hne

theorem markSatisfied_kept (now : Timestamp) (typeKey : String) (documentId : UUID) :
    DealKept d db (markSatisfied db now dealId typeKey documentId) where
  row := hd
  items := by
    refine updateItems_sameOn _ fun i hi => ?_
    simp only [Bool.and_eq_true, beq_iff_eq] at hi
    have hother : (i.dealId == d.id) = false := by simpa [hi.1] using hne.symm
    exact ⟨hother, hother⟩
  links s hs hlink := ⟨s, hs, rfl, hlink⟩

theorem satisfyConfirmedFiles_kept (now : Timestamp) (files : List RowMapping) :
    DealKept d db (satisfyConfirmedFiles db now dealId files) := by
  unfold satisfyConfirmedFiles
  induction files generalizing db with
  | nil => exact .refl hd
  | cons f rest ih =>
    rw [List.foldl_cons]
    split
    · split
      · exact ih hd
      · have hmark := markSatisfied_kept hd hne now ‹_› ‹_›
        exact hmark.trans (ih hmark.row)
    · exact ih hd

theorem insertRequirement_kept {newId : UUID} {now : Timestamp} {typeKey : String}
    {requirement : Requirement}
    (h : insertRequirement db newId now dealId typeKey requirement = .ok db') :
    DealKept d db db' := by
  unfold insertRequirement at h
  split at h
  · cases h
    exact .refl hd
  · split at h
    · rename_i items hins
      cases h
      refine ⟨hd, ?_, fun s hs hlink => ⟨s, hs, rfl, hlink⟩⟩
      have hother : (dealId == d.id) = false := by simpa using hne.symm
      unfold Table.SameOn
      rw [Table.rows_of_insert? hins, List.filter_append, List.filter_singleton]
      simp [ChecklistItem.belongsTo, hother]
    · cases h

theorem initialiseRequirements_kept {now : Timestamp} {newIds : Nat → UUID}
    {reqs : List (String × Requirement)} {n : Nat}
    (h : initialiseRequirements now dealId newIds reqs n db = .ok db') : DealKept d db db' := by
  induction reqs generalizing n db with
  | nil =>
    cases h
    exact .refl hd
  | cons req rest ih =>
    obtain ⟨db₁, hone, h⟩ := bind_eq_ok.mp h
    have hkept := insertRequirement_kept hd hne hone
    exact hkept.trans (ih hkept.row h)

theorem transitionToConfirming_kept (now : Timestamp) (sessionId : UUID) :
    DealKept d db (transitionToConfirming db now sessionId dealId) :=
  .of_sessions hd _ fun _ _ hlink => absurd (Option.some.inj hlink).symm hne

theorem confirmDeal_kept (now : Timestamp) (tenantId confirmedBy : UUID) :
    DealKept d db (confirmDeal db now tenantId dealId confirmedBy) where
  row := by
    refine List.mem_map.mpr ⟨d, hd, patch_of_neg ?_⟩
    simp [hne]
  items := rfl
  links s hs hlink := ⟨s, hs, rfl, hlink⟩

end Other

theorem enqueueReply_kept (hd : d ∈ db.deals.rows) {newId id : Nat} {now : Timestamp}
    {tenantId contactId : UUID} {sessionId : Option UUID} {kind : OutboxKind}
    {payload : List (String × Json)} {dedupKey : Option String} {sendAfter : Option Timestamp}
    (h : enqueueReply db newId now tenantId contactId sessionId kind payload dedupKey sendAfter =
      .ok (id, db')) : DealKept d db db' := by
  obtain ⟨outbox, rfl⟩ := enqueueReply_frame h
  exact .of_tables hd rfl rfl rfl

theorem markComplete_kept (hd : d ∈ db.deals.rows) (now : Timestamp) (sessionId : UUID) :
    DealKept d db (markComplete db now sessionId) :=
  .of_sessions hd _ fun _ _ hlink => hlink

theorem parkSession_kept (hd : d ∈ db.deals.rows) (sessionId : UUID) (note : String) :
    DealKept d db (parkSession db sessionId note) :=
  .of_sessions hd _ fun _ _ hlink => hlink

end Kept

/-! ## The branches of the deal decision -/

/-- The booking number that the session uses, as it is stored. -/
def UsesNumber (env : Env) (s : Session) (files : List RowMapping) (number : String) : Prop :=
  ∃ fields, sessionGate env files = .ok (.ready fields) ∧
    sqlText env (orElse fields.bookingNumber (fallbackNumber s.id)) = .ok (some number)

/-- The deal has the tenant of the session and the number that it uses. -/
def Deal.BookedBy (env : Env) (s : Session) (files : List RowMapping) (d : Deal) : Prop :=
  d.tenantId = s.tenantId ∧ UsesNumber env s files d.bookingNumber

/-- Text that is compared can be stored. -/
theorem sqlText_of_select {env : Env} {j : Json} {number : String}
    (h : selectText j = .ok number) : sqlText env j = .ok (some number) := by
  cases j with
  | str s =>
    obtain rfl := selectText_str h
    by_cases hnul : Json.hasNul number = true
    · simp [selectText, hnul] at h
    · simp [sqlText, hnul]
  | _ => cases h

section Branches

variable {env : Env} {db db' : Db} {inp : SessionInput} {s : Session} {files : List RowMapping}
  {d : Deal}

/-- A creation writes to the deal of its number, which is new or has been there, and to no other. -/
theorem createBranch_kept {orgUnitId : UUID} {fields : BookingFields}
    (hgate : sessionGate env files = .ok (.ready fields))
    (h : createBranch env db inp s orgUnitId files fields = .ok db') (hd : d ∈ db.deals.rows) :
    DealKept d db db' ∨ d.BookedBy env s files := by
  obtain ⟨deal, created, listed, id, payload, hcreate, hlist, hqueued⟩ := createBranch_inv h
  obtain ⟨new, hnew, hcases⟩ := createProvisionalDeal_ok hcreate
  obtain ⟨-, htenant, -, hnumber, -, -⟩ := newDeal_ok hnew
  by_cases hsame : d.id = deal.dealId
  · -- The deal with the id of the result has the number, or has just been inserted.
    obtain ⟨old, hold, rfl, -⟩ | ⟨-, deals, hins, rfl, -⟩ := hcases
    · obtain ⟨hmem, holdTenant, holdNumber⟩ := dealOfBooking_some hold
      obtain rfl := deal_eq_of_id hd hmem hsame
      exact Or.inr ⟨holdTenant, fields, hgate, by rw [hnumber, holdNumber]⟩
    · have hfree := (Table.insert?_eq_some.mp hins).1 d hd
      simp only [DealCreated.ofDeal] at hsame
      simp [clash, sameKey, hsame] at hfree
  · have hcreated : DealKept d db created := by
      obtain ⟨old, -, -, rfl⟩ | ⟨-, deals, hins, -, rfl⟩ := hcases
      · exact .refl hd
      · refine ⟨(Table.mem_of_insert? hins).mpr (Or.inl hd), rfl, ?_⟩
        exact fun s' hs' hlink => ⟨s', hs', rfl, hlink⟩
    have hlisted := initialiseRequirements_kept hcreated.row hsame hlist
    have hlinked := transitionToConfirming_kept hlisted.row hsame inp.now s.id
    have hsatisfied := satisfyConfirmedFiles_kept hlinked.row hsame inp.now files
    have hreplied := enqueueReply_kept hsatisfied.row hqueued
    exact Or.inl (hcreated.trans (hlisted.trans (hlinked.trans (hsatisfied.trans hreplied))))

/-- An exact match writes to the deal it found. -/
theorem exactBranch_kept {found : DealMatch} (h : exactBranch env db inp s files found = .ok db')
    (hd : d ∈ db.deals.rows) (hne : d.id ≠ found.dealId) : DealKept d db db' := by
  obtain ⟨checklist, body, id, queued, -, hqueued, rfl⟩ := sendGapMessage_inv h
  have hconfirmed := confirmDeal_kept hd hne inp.now s.tenantId s.contactId
  have hsatisfied := satisfyConfirmedFiles_kept hconfirmed.row hne inp.now files
  have hreplied := enqueueReply_kept hsatisfied.row hqueued
  have hkept := hconfirmed.trans (hsatisfied.trans hreplied)
  split
  · exact hkept.trans (markComplete_kept hkept.row inp.now s.id)
  · exact hkept

/-- The rows that a fuzzy match leaves as they are. -/
theorem ambiguousBranch_tables (found : DealMatch) :
    (ambiguousBranch db inp s found).deals = db.deals ∧
      (ambiguousBranch db inp s found).checklistItems = db.checklistItems ∧
      (ambiguousBranch db inp s found).outbox = db.outbox := by
  unfold ambiguousBranch raiseAmbiguousReview
  split
  · exact ⟨rfl, rfl, rfl⟩
  · exact ⟨rfl, rfl, rfl⟩

theorem ambiguousBranch_kept (hd : d ∈ db.deals.rows) (found : DealMatch) :
    DealKept d db (ambiguousBranch db inp s found) := by
  have hraised : DealKept d db
      (raiseAmbiguousReview db inp.reviewId s.tenantId found ("session:" ++ uuidStr s.id)) := by
    unfold raiseAmbiguousReview
    split
    · exact .of_tables hd rfl rfl rfl
    · exact .refl hd
  exact hraised.trans (parkSession_kept hraised.row s.id "deal_ambiguous")

/-- The decision keeps every deal but the one that the session books. -/
theorem decideDeal_kept {orgUnitId : UUID} {fields : BookingFields}
    (hgate : sessionGate env files = .ok (.ready fields))
    (h : decideDeal env db inp s orgUnitId files fields = .ok db') (hd : d ∈ db.deals.rows) :
    DealKept d db db' ∨ d.BookedBy env s files := by
  obtain ⟨found, hfound, h⟩ := bind_eq_ok.mp h
  cases found with
  | none => exact createBranch_kept hgate h hd
  | some m =>
    simp only at h
    split at h
    · rename_i hexact
      obtain ⟨number, e, hnumber, he, hid⟩ := findExistingDeal_exact hfound hexact
      obtain ⟨hmem, htenant, hbooked⟩ := dealOfBooking_some he
      by_cases hsame : d.id = m.dealId
      · obtain rfl := deal_eq_of_id hd hmem (hsame.trans hid)
        exact Or.inr ⟨htenant, fields, hgate, by rw [sqlText_of_select hnumber, hbooked]⟩
      · exact Or.inl (exactBranch_kept h hd hsame)
    · cases h
      exact Or.inl (ambiguousBranch_kept hd m)

/-- So does a run on any rows. -/
theorem processSessionOn_kept (hs : sessionById db s.id = some s) (hd : d ∈ db.deals.rows) :
    DealKept d db (processSessionOn env db inp s.id files).db ∨ d.BookedBy env s files := by
  unfold processSessionOn
  rw [hs]
  simp only
  cases htx : sessionTransactionOn env db inp s files with
  | error e => exact Or.inl (.refl hd)
  | ok db' =>
    unfold sessionTransactionOn at htx
    cases horg : s.orgUnitId with
    | none =>
      rw [horg] at htx
      cases htx
    | some orgUnitId =>
      rw [horg] at htx
      obtain ⟨gate, hgate, htx⟩ := bind_eq_ok.mp htx
      cases gate with
      | parked note =>
        cases htx
        exact Or.inl (parkSession_kept hd s.id note)
      | ready fields => exact decideDeal_kept hgate htx hd

end Branches

/-! ## The frame -/

/-- The session is parked, and no deal, no checklist item and no message is written. -/
def ParkedAlone (db db' : Db) (sessionId : UUID) : Prop :=
  db'.deals = db.deals ∧ db'.checklistItems = db.checklistItems ∧ db'.outbox = db.outbox ∧
    ∃ s ∈ sessionById db' sessionId, s.state = .parked

/-- A run of a session keeps every deal but the one with its tenant and the booking number it uses.
So does a creation on any other database, where the deal may have come up since the lookup. A fuzzy
match parks the session and writes no deal, no item and no message. -/
theorem process_session_frame (env : Env) (db : Db) (inp : SessionInput) (s : Session)
    (files : List RowMapping) (hs : sessionById db s.id = some s) (hstate : s.state = .processing) :
    (∀ d ∈ db.deals.rows, DealKept d db (processSessionOn env db inp s.id files).db ∨
      d.BookedBy env s files) ∧
    (∀ later orgUnitId fields db', sessionGate env files = .ok (.ready fields) →
      createBranch env later inp s orgUnitId files fields = .ok db' →
      ∀ d ∈ later.deals.rows, DealKept d later db' ∨ d.BookedBy env s files) ∧
    ∀ found, ambiguousMatch env db s files = some found →
      processSessionOn env db inp s.id files = ⟨ambiguousBranch db inp s found, [], false⟩ ∧
      ParkedAlone db (ambiguousBranch db inp s found) s.id := by
  refine ⟨fun d hd => processSessionOn_kept hs hd,
    fun later orgUnitId fields db' hgate h d hd => createBranch_kept hgate h hd, ?_⟩
  intro found hfuzzy
  obtain ⟨hdeals, hitems, houtbox⟩ := @ambiguousBranch_tables db inp s found
  obtain ⟨s', hs', hparked, -⟩ := (@ambiguousBranch_awaitsReview db inp s found s.id hs).mpr
    ⟨by simp [hstate], by simp [hstate]⟩
  exact ⟨processSessionOn_ambiguous hs hfuzzy, hdeals, hitems, houtbox, s', hs', hparked⟩

/-- A session whose booking form resembles a deal of another number parks and leaves it alone. -/
theorem rao_deal_kept :
    (ambiguousMatch (.ofRecording "s" []) raoDb claimedSession [raoForm "BK-7"]).isSome = true ∧
      DealKept raoDeal raoDb
        (processSessionOn (.ofRecording "s" []) raoDb idleInput 7 [raoForm "BK-7"]).db ∧
      ParkedAlone raoDb
        (processSessionOn (.ofRecording "s" []) raoDb idleInput 7 [raoForm "BK-7"]).db 7 := by
  have hfuzzy : (ambiguousMatch (.ofRecording "s" []) raoDb claimedSession
      [raoForm "BK-7"]).isSome = true := by
    decide +kernel
  have hs : sessionById raoDb claimedSession.id = some claimedSession := by decide
  obtain ⟨hkept, -, hparked⟩ := process_session_frame (.ofRecording "s" []) raoDb idleInput
    claimedSession [raoForm "BK-7"] hs rfl
  obtain ⟨found, hfound⟩ := Option.isSome_iff_exists.mp hfuzzy
  obtain ⟨hrun, halone⟩ := hparked found hfound
  refine ⟨hfuzzy, (hkept raoDeal (by decide)).resolve_right ?_, ?_⟩
  · rintro ⟨-, fields, hgate, hnumber⟩
    cases hgate
    exact absurd (Option.some.inj (Except.ok.inj hnumber)) (by decide)
  · exact (congrArg (fun r => ParkedAlone raoDb r.db 7) hrun).mpr halone

end WaService
