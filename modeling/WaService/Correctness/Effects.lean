import WaService.Core.Evolution
import WaService.Worker.Poll
import WaService.Worker.Session

/-!
# Effects on the database

Rows keep who they belong to. A program may receive payloads, admit sessions for a
tenant and a contact, and add rows that belong to a session; this is its effect.
Effects compose, and every statement on one table has one.
-/

namespace WaService

open Python Relational

/-! ## Belonging -/

/-- An inbound payload as it arrived. -/
structure Arrival where
  id : Nat
  wamid : Option String
  phoneNumberId : Option String
  payload : Json
  signatureOk : Bool

/-- The columns of an inbox row that nothing changes. -/
def Inbox.arrival (r : Inbox) : Arrival :=
  ⟨r.id, r.wamid, r.phoneNumberId, r.payload, r.signatureOk⟩

/-- The same session, which does not return to collecting. -/
structure Session.Follows (a b : Session) : Prop where
  id : b.id = a.id
  tenantId : b.tenantId = a.tenantId
  contactId : b.contactId = a.contactId
  collecting : b.state = .collecting → a.state = .collecting

theorem Session.Follows.refl (s : Session) : s.Follows s := ⟨rfl, rfl, rfl, fun h => h⟩

theorem Session.Follows.trans {a b c : Session} (h : a.Follows b) (h' : b.Follows c) :
    a.Follows c :=
  ⟨h'.id.trans h.id, h'.tenantId.trans h.tenantId, h'.contactId.trans h.contactId,
    fun hc => h.collecting (h'.collecting hc)⟩

/-- The columns of a file that nothing changes. -/
def File.place (f : File) : UUID × UUID × UUID × String := (f.id, f.tenantId, f.sessionId, f.wamid)

/-- The columns of a deal that nothing changes. -/
def Deal.origin (d : Deal) : UUID × UUID × String × Option UUID :=
  (d.id, d.tenantId, d.bookingNumber, d.createdBy)

/-- The columns of a checklist item that nothing changes. -/
def ChecklistItem.place (i : ChecklistItem) : UUID × UUID × String := (i.id, i.dealId, i.typeKey)

/-- The columns of an outbox row that nothing changes. -/
def Outbox.address (o : Outbox) : Nat × UUID × UUID × Option UUID :=
  (o.id, o.tenantId, o.contactId, o.sessionId)

/-- The deal was created for the contact of the session. -/
def Deal.OfSession (d : Deal) (s : Session) : Prop :=
  d.tenantId = s.tenantId ∧ d.createdBy = some s.contactId

/-- The review task names the session. -/
def ReviewTask.OfSession (t : ReviewTask) (s : Session) : Prop :=
  t.tenantId = s.tenantId ∧ t.detail = some ("session:" ++ uuidStr s.id)

/-- The message is addressed to the contact of the session. -/
def Outbox.OfSession (o : Outbox) (s : Session) : Prop :=
  o.AddressedTo s.tenantId s.contactId (some s.id)

theorem Deal.OfSession.follow {d d' : Deal} {s s' : Session} (h : d.OfSession s)
    (hd : Keeping Deal.origin d d') (hs : s.Follows s') : d'.OfSession s' := by
  have ht : d'.tenantId = d.tenantId := congrArg (fun k => k.2.1) hd
  have hc : d'.createdBy = d.createdBy := congrArg (fun k => k.2.2.2) hd
  exact ⟨by rw [ht, h.1, hs.tenantId], by rw [hc, h.2, hs.contactId]⟩

theorem ReviewTask.OfSession.follow {t : ReviewTask} {s s' : Session} (h : t.OfSession s)
    (hs : s.Follows s') : t.OfSession s' :=
  ⟨by rw [h.1, hs.tenantId], by rw [h.2, hs.id]⟩

theorem Outbox.OfSession.follow {o o' : Outbox} {s s' : Session} (h : o.OfSession s)
    (ho : Keeping Outbox.address o o') (hs : s.Follows s') : o'.OfSession s' := by
  have ht : o'.tenantId = o.tenantId := congrArg (fun k => k.2.1) ho
  have hc : o'.contactId = o.contactId := congrArg (fun k => k.2.2.1) ho
  have hsid : o'.sessionId = o.sessionId := congrArg (fun k => k.2.2.2) ho
  exact ⟨by rw [ht, h.1, hs.tenantId], by rw [hc, h.2.1, hs.contactId], by rw [hsid, h.2.2, hs.id]⟩

/-! ## Effects -/

/-- The effect of a step: the rows of every table live on, new payloads have arrived, new
sessions are admitted, and the other new rows belong to a session or to a deal. -/
structure Db.Evolves (Arrived : Arrival → Prop) (Admitted : UUID → UUID → Prop) (db db' : Db) :
    Prop where
  inbox : Table.Evolves (Keeping Inbox.arrival) (fun r => Arrived r.arrival) db.inbox db'.inbox
  sessions : Table.Evolves Session.Follows (fun s => Admitted s.tenantId s.contactId)
    db.sessions db'.sessions
  files : Table.Evolves (Keeping File.place) (fun f => ∃ s ∈ db'.sessions.rows, s.id = f.sessionId)
    db.files db'.files
  deals : Table.Evolves (Keeping Deal.origin) (fun d => ∃ s ∈ db'.sessions.rows, d.OfSession s)
    db.deals db'.deals
  items : Table.Evolves (Keeping ChecklistItem.place)
    (fun i => ∃ d ∈ db'.deals.rows, d.id = i.dealId) db.checklistItems db'.checklistItems
  reviews : Table.Evolves Eq (fun t => ∃ s ∈ db'.sessions.rows, t.OfSession s)
    db.reviewTasks db'.reviewTasks
  outbox : Table.Evolves (Keeping Outbox.address) (fun o => ∃ s ∈ db'.sessions.rows, o.OfSession s)
    db.outbox db'.outbox

variable {A : Arrival → Prop} {O : UUID → UUID → Prop} {env : Env} {db db' db'' : Db}

theorem Db.Evolves.refl (db : Db) : db.Evolves A O db where
  inbox := .refl_keeping _
  sessions := .refl Session.Follows.refl _
  files := .refl_keeping _
  deals := .refl_keeping _
  items := .refl_keeping _
  reviews := .refl (fun _ => rfl) _
  outbox := .refl_keeping _

theorem Db.Evolves.trans (h : db.Evolves A O db') (h' : db'.Evolves A O db'') :
    db.Evolves A O db'' where
  inbox := h.inbox.trans_keeping h'.inbox fun a b ha hab => by rwa [hab]
  sessions := by
    apply h.sessions.trans h'.sessions (fun _ _ _ => Session.Follows.trans)
    intro a b ha hab
    rwa [hab.tenantId, hab.contactId]
  files := by
    refine h.files.trans_keeping h'.files fun a b ⟨s, hs, hid⟩ hab => ?_
    obtain ⟨s', hs', hf⟩ := h'.sessions.kept s hs
    have hsid : b.sessionId = a.sessionId := congrArg (fun k => k.2.2.1) hab
    exact ⟨s', hs', by rw [hf.id, hid, hsid]⟩
  deals := by
    refine h.deals.trans_keeping h'.deals fun a b ⟨s, hs, hd⟩ hab => ?_
    obtain ⟨s', hs', hf⟩ := h'.sessions.kept s hs
    exact ⟨s', hs', hd.follow hab hf⟩
  items := by
    refine h.items.trans_keeping h'.items fun a b ⟨d, hd, hid⟩ hab => ?_
    obtain ⟨d', hd', hk⟩ := h'.deals.kept d hd
    have hdid : d'.id = d.id := congrArg (fun k => k.1) hk
    have hbid : b.dealId = a.dealId := congrArg (fun k => k.2.1) hab
    exact ⟨d', hd', by rw [hdid, hid, hbid]⟩
  reviews := by
    refine h.reviews.trans h'.reviews (fun _ _ _ => Eq.trans) fun a b ⟨s, hs, ht⟩ hab => ?_
    obtain ⟨s', hs', hf⟩ := h'.sessions.kept s hs
    exact ⟨s', hs', hab ▸ ht.follow hf⟩
  outbox := by
    refine h.outbox.trans_keeping h'.outbox fun a b ⟨s, hs, ho⟩ hab => ?_
    obtain ⟨s', hs', hf⟩ := h'.sessions.kept s hs
    exact ⟨s', hs', ho.follow hab hf⟩

/-! ## Statements on one table -/

theorem Db.Evolves.onInbox {t : Table Inbox}
    (h : Table.Evolves (Keeping Inbox.arrival) (fun r => A r.arrival) db.inbox t) :
    db.Evolves A O { db with inbox := t } where
  inbox := h
  sessions := .refl Session.Follows.refl _
  files := .refl_keeping _
  deals := .refl_keeping _
  items := .refl_keeping _
  reviews := .refl (fun _ => rfl) _
  outbox := .refl_keeping _

theorem Db.Evolves.onSessions {t : Table Session}
    (h : Table.Evolves Session.Follows (fun s => O s.tenantId s.contactId) db.sessions t) :
    db.Evolves A O { db with sessions := t } where
  inbox := .refl_keeping _
  sessions := h
  files := .refl_keeping _
  deals := .refl_keeping _
  items := .refl_keeping _
  reviews := .refl (fun _ => rfl) _
  outbox := .refl_keeping _

theorem Db.Evolves.onFiles {t : Table File}
    (h : Table.Evolves (Keeping File.place)
      (fun f => ∃ s ∈ db.sessions.rows, s.id = f.sessionId) db.files t) :
    db.Evolves A O { db with files := t } where
  inbox := .refl_keeping _
  sessions := .refl Session.Follows.refl _
  files := h
  deals := .refl_keeping _
  items := .refl_keeping _
  reviews := .refl (fun _ => rfl) _
  outbox := .refl_keeping _

theorem Db.Evolves.onDeals {t : Table Deal}
    (h : Table.Evolves (Keeping Deal.origin)
      (fun d => ∃ s ∈ db.sessions.rows, d.OfSession s) db.deals t) :
    db.Evolves A O { db with deals := t } where
  inbox := .refl_keeping _
  sessions := .refl Session.Follows.refl _
  files := .refl_keeping _
  deals := h
  items := .refl_keeping _
  reviews := .refl (fun _ => rfl) _
  outbox := .refl_keeping _

theorem Db.Evolves.onItems {t : Table ChecklistItem}
    (h : Table.Evolves (Keeping ChecklistItem.place)
      (fun i => ∃ d ∈ db.deals.rows, d.id = i.dealId) db.checklistItems t) :
    db.Evolves A O { db with checklistItems := t } where
  inbox := .refl_keeping _
  sessions := .refl Session.Follows.refl _
  files := .refl_keeping _
  deals := .refl_keeping _
  items := h
  reviews := .refl (fun _ => rfl) _
  outbox := .refl_keeping _

theorem Db.Evolves.onReviews {t : Table ReviewTask}
    (h : Table.Evolves Eq (fun r => ∃ s ∈ db.sessions.rows, r.OfSession s)
      db.reviewTasks t) :
    db.Evolves A O { db with reviewTasks := t } where
  inbox := .refl_keeping _
  sessions := .refl Session.Follows.refl _
  files := .refl_keeping _
  deals := .refl_keeping _
  items := .refl_keeping _
  reviews := h
  outbox := .refl_keeping _

theorem Db.Evolves.onOutbox {t : Table Outbox}
    (h : Table.Evolves (Keeping Outbox.address)
      (fun o => ∃ s ∈ db.sessions.rows, o.OfSession s) db.outbox t) :
    db.Evolves A O { db with outbox := t } where
  inbox := .refl_keeping _
  sessions := .refl Session.Follows.refl _
  files := .refl_keeping _
  deals := .refl_keeping _
  items := .refl_keeping _
  reviews := .refl (fun _ => rfl) _
  outbox := h

theorem updateSessions_evolves {p : Session → Bool} {f : Session → Session}
    (hf : ∀ s, p s = true → (f s).id = s.id ∧ (f s).contactId = s.contactId ∧
      ((f s).state.isOpen = true → s.state.isOpen = true))
    (h : ∀ s, p s = true → s.Follows (f s)) : db.Evolves A O (db.updateSessions p f hf) :=
  .onSessions (.update _ Session.Follows.refl h _)

theorem updateFiles_evolves {p : File → Bool} {f : File → File}
    (hf : ∀ r, (f r).id = r.id ∧ (f r).wamid = r.wamid) (h : ∀ r, (f r).place = r.place) :
    db.Evolves A O (db.updateFiles p f hf) :=
  .onFiles (.update_keeping _ h _)

theorem updateOutbox_evolves {p : Outbox → Bool} {f : Outbox → Outbox} (hf : ∀ o, (f o).id = o.id)
    (h : ∀ o, (f o).address = o.address) : db.Evolves A O (db.updateOutbox p f hf) :=
  .onOutbox (.update_keeping _ h _)

theorem updateInbox_evolves {p : Inbox → Bool} {f : Inbox → Inbox}
    (hf : ∀ r, (f r).id = r.id ∧ (f r).wamid = r.wamid) (h : ∀ r, (f r).arrival = r.arrival) :
    db.Evolves A O (db.updateInbox p f hf) :=
  .onInbox (.update_keeping _ h _)

theorem updateDeals_evolves {p : Deal → Bool} {f : Deal → Deal}
    (hf : ∀ d, (f d).id = d.id ∧ (f d).tenantId = d.tenantId ∧
      (f d).bookingNumber = d.bookingNumber) (h : ∀ d, (f d).origin = d.origin) :
    db.Evolves A O (db.updateDeals p f hf) :=
  .onDeals (.update_keeping _ h _)

theorem updateItems_evolves {p : ChecklistItem → Bool} {f : ChecklistItem → ChecklistItem}
    (hf : ∀ i, (f i).id = i.id ∧ (f i).dealId = i.dealId ∧ (f i).typeKey = i.typeKey)
    (h : ∀ i, (f i).place = i.place) : db.Evolves A O (db.updateItems p f hf) :=
  .onItems (.update_keeping _ h _)

end WaService
