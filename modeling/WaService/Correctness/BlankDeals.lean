import WaService.Correctness.IdleSessions
import WaService.Correctness.Provenance
import WaService.Correctness.Writes

/-!
# Deals without documents

The deal decision is reached by sessions without files only, so nothing that a booking
form says reaches a deal: in every database that a run reaches, a deal holds the number
that is made of the id of its session and placeholders. The fuzzy lookup has no customer
to look for, and no reviewer is ever asked.
-/

namespace WaService

open Python Relational Transition

/-- The deal holds the number of the session and placeholders for the rest. -/
structure Deal.BlankOf (d : Deal) (s : Session) : Prop where
  tenantId : d.tenantId = s.tenantId
  orgUnitId : d.orgUnitId = s.orgUnitId
  bookingNumber : d.bookingNumber = fallbackNumber s.id
  createdBy : d.createdBy = some s.contactId
  customer : d.customerName = some "(pending)" ∧ d.customerMobile = none
  vehicle : d.model = none ∧ d.variant = none ∧ d.bookingDate = none
  dealType : d.dealType = .retail
  flags : d.isFinanced = false ∧ d.hasExchange = false ∧ d.isCorporate = false

/-- The session is linked to a deal of its tenant that has its own number. -/
def Session.LinksOwn (db : Db) (s : Session) : Prop :=
  ∀ dealId, s.dealId = some dealId → ∃ d ∈ db.deals.rows, d.id = dealId ∧
    d.tenantId = s.tenantId ∧ d.bookingNumber = fallbackNumber s.id

/-- Deals are blank, sessions are linked to deals of their own number, and nothing was ever
ambiguous. -/
structure Db.Blank (db : Db) : Prop where
  deals : ∀ d ∈ db.deals.rows, ∃ s ∈ db.sessions.rows, d.BlankOf s
  links : ∀ s ∈ db.sessions.rows, s.LinksOwn db
  notes : ∀ s ∈ db.sessions.rows, s.note ≠ some "deal_ambiguous"
  reviewTasks : db.reviewTasks.rows = []

variable {env : Env} {a : Action} {db db' : Db}

/-! ## Statements -/

/-- A change of a session leaves alone whom the session belongs to. -/
theorem SessionChange.owner {s s' : Session} (h : SessionChange db a s s') :
    s'.id = s.id ∧ s'.tenantId = s.tenantId ∧ s'.contactId = s.contactId ∧
      s'.orgUnitId = s.orgUnitId := by
  cases h with
  | _ => exact ⟨rfl, rfl, rfl, rfl⟩

theorem SessionChange.blankOf {s s' : Session} (h : SessionChange db a s s') {d : Deal}
    (hd : d.BlankOf s) : d.BlankOf s' := by
  obtain ⟨hid, htenant, hcontact, horg⟩ := h.owner
  exact ⟨by rw [hd.tenantId, htenant], by rw [hd.orgUnitId, horg],
    by rw [hd.bookingNumber, hid], by rw [hd.createdBy, hcontact], hd.customer, hd.vehicle,
    hd.dealType, hd.flags⟩

/-- Only the task of a session links it, to the deal of its own number. -/
theorem SessionChange.linksOwn {s s' : Session} (h : SessionChange db a s s')
    (hs : s.LinksOwn db) : s'.LinksOwn db := by
  cases h with
  | link hstate hd hfiles =>
    intro dealId hdeal
    cases hdeal
    obtain ⟨hmem, htenant, hnumber⟩ := dealOfBooking_some hd
    exact ⟨_, hmem, rfl, htenant, hnumber⟩
  | _ => exact hs

theorem SessionChange.note {s s' : Session} (h : SessionChange db a s s')
    (hs : s.note ≠ some "deal_ambiguous") : s'.note ≠ some "deal_ambiguous" := by
  cases h with
  | park hfiles hstate hnote =>
    obtain rfl | rfl := hnote <;> simp
  | parkOnDiSla hid hnote =>
    obtain rfl | ⟨code, rfl⟩ := hnote
    · simp
    · intro he
      have hchars := congrArg (fun s : String => s.toList.head?) (Option.some.inj he)
      simp at hchars
  | _ => exact hs

theorem DealNew.blank {d : Deal} (h : DealNew db a d) : ∃ s ∈ db.sessions.rows, d.BlankOf s := by
  cases h with
  | @create inp redelivered s orgUnitId hs horg hempty hnone =>
    exact ⟨s, hs, rfl, horg.symm, rfl, rfl, ⟨rfl, rfl⟩, ⟨rfl, rfl, rfl⟩, rfl, ⟨rfl, rfl, rfl⟩⟩

/-- A confirmation changes the state of a deal, who confirmed it and when. -/
theorem DealChange.blank {d d' : Deal} (h : DealChange db a d d') {s : Session}
    (hd : d.BlankOf s) : d'.BlankOf s := by
  cases h with
  | confirm => exact ⟨hd.1, hd.2, hd.3, hd.4, hd.5, hd.6, hd.7, hd.8⟩

theorem DealChange.named {d d' : Deal} (h : DealChange db a d d') :
    d'.id = d.id ∧ d'.tenantId = d.tenantId ∧ d'.bookingNumber = d.bookingNumber := by
  cases h with
  | confirm => exact ⟨rfl, rfl, rfl⟩

theorem Write.blank (h : Write env a db db') (hdb : db.Blank) : db'.Blank := by
  cases h with
  | sessions h =>
    constructor
    · intro d hd
      exact h.exists_row (fun _ _ hchange => hchange.blankOf) (hdb.deals d hd)
    · refine h.forall_rows ?_ (fun _ _ hchange => hchange.linksOwn) hdb.links
      intro s hnew
      cases hnew with
      | enter => exact nofun
    · refine h.forall_rows ?_ (fun _ _ hchange => hchange.note) hdb.notes
      intro s hnew
      cases hnew with
      | enter => exact nofun
    · exact hdb.reviewTasks
  | deals h =>
    constructor
    · refine h.forall_rows (fun _ hnew => hnew.blank) ?_ hdb.deals
      rintro d d' hchange ⟨s, hs, hd⟩
      exact ⟨s, hs, hchange.blank hd⟩
    · intro s hs dealId hdeal
      refine h.exists_row ?_ (hdb.links s hs dealId hdeal)
      rintro d d' hchange ⟨hid, htenant, hnumber⟩
      obtain ⟨hid', htenant', hnumber'⟩ := hchange.named
      exact ⟨hid'.trans hid, htenant'.trans htenant, hnumber'.trans hnumber⟩
    · exact hdb.notes
    · exact hdb.reviewTasks
  | _ => exact ⟨hdb.deals, hdb.links, hdb.notes, hdb.reviewTasks⟩

/-! ## Runs -/

theorem Db.Blank.empty : Db.empty.Blank where
  deals := List.forall_mem_nil _
  links := List.forall_mem_nil _
  notes := List.forall_mem_nil _
  reviewTasks := rfl

/-- Whatever documents a run receives and whatever audit-core says about them, its deals are blank,
and no lookup was ever ambiguous. -/
theorem documents_reach_no_deal (env : Env) {jobs : List Job} {as : List Action} {w : World}
    (h : run (worldStep env) ⟨.empty, jobs⟩ as = some w) : w.db.Blank :=
  run_of_writes Db.Blank (fun _ _ _ hdb hwrite => hwrite.blank hdb) h .empty

/-- The number and the consultant are registered, and a text message is answered with a deal. -/
def textAnswered : List Action := firstPhoto.take 2 ++ textReceived ++ textFlushed

/-- The deal of the text message is blank. -/
theorem documents_reach_no_deal_text :
    ∃ w, run (worldStep textEnv) ⟨.empty, []⟩ textAnswered = some w ∧
      w.db.deals.rows.map (fun d => (d.bookingNumber, d.customerName)) =
        [("WA-00000000", some "(pending)")] ∧
      w.db.sessions.rows.map (·.dealId) = [some 11] ∧ w.db.Blank := by
  have hrun : ((run (worldStep textEnv) ⟨.empty, []⟩ textAnswered).map fun w =>
      (w.db.deals.rows.map fun d => (d.bookingNumber, d.customerName),
        w.db.sessions.rows.map (·.dealId))) =
      some ([("WA-00000000", some "(pending)")], [some 11]) := by decide +kernel
  obtain ⟨w, hw, hrows⟩ := Option.map_eq_some_iff.mp hrun
  exact ⟨w, hw, congrArg Prod.fst hrows, congrArg Prod.snd hrows,
    documents_reach_no_deal textEnv hw⟩

end WaService
