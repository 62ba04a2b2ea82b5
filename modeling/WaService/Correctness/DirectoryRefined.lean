import WaService.Core.Refinement
import WaService.Correctness.Provenance
import WaService.Correctness.Writes
import WaService.System.Directory

/-!
# The API refines the directory

The directory of a database is read off its contacts and routes. Every request of the API is a
request to the directory with the same answer, nothing else that the service does changes the
directory, and the router resolves to what the directory says. So a run of the service is a run of
the directory on the requests of the run.
-/

namespace WaService

open Python Relational Transition

/-! ## The directory of a database -/

/-- The directory that the tables hold. -/
def Db.directory (db : Db) : Directory where
  contacts phone := (contactOfPhone db phone).map Contact.out
  numbers := db.routes.view Route.phoneNumberId

variable {env : Env} {db : Db} {inp : ApiInput} {tenantId : UUID}

theorem indexed_phoneE164 : Table.Indexed Contact.phoneE164 := by
  intro a b h
  simp [clash, sameKey, h]

theorem indexed_phoneNumberId : Table.Indexed Route.phoneNumberId := by
  intro a b h
  simp [clash, sameKey, h]

/-- What is bound is what some row shows. -/
theorem bound_iff {o : ContactOut} :
    db.directory.Bound o ↔ ∃ c ∈ db.contacts.rows, c.out = o := by
  unfold Directory.Bound Db.directory
  rw [Option.map_eq_some_iff]
  constructor
  · rintro ⟨c, hc, hout⟩
    exact ⟨c, (contactOfPhone_eq_some.mp hc).1, hout⟩
  · rintro ⟨c, hc, rfl⟩
    exact ⟨c, contactOfPhone_eq_some.mpr ⟨hc, rfl⟩, rfl⟩

/-- What is registered is what the table holds. -/
theorem registered_iff {r : Route} : db.directory.Registered r ↔ r ∈ db.routes.rows := by
  unfold Directory.Registered Db.directory
  rw [Table.view_eq_some indexed_phoneNumberId]
  exact and_iff_left rfl

/-- The directory depends on two tables. -/
theorem directory_congr {db' : Db} (hcontacts : db'.contacts = db.contacts)
    (hroutes : db'.routes = db.routes) : db'.directory = db.directory := by
  unfold Db.directory contactOfPhone
  rw [hcontacts, hroutes]

/-- An insert binds the phone of its row. -/
theorem directory_insertContact {c : Contact} {contacts : Table Contact}
    (h : db.contacts.insert? c = some contacts) :
    { db with contacts := contacts }.directory = db.directory.bind c.out := by
  have hview : contacts.view Contact.phoneE164 =
      Function.update (db.contacts.view Contact.phoneE164) c.phoneE164 (some c) :=
    Table.view_insert? indexed_phoneE164 h
  have hmap : (fun phone => (contacts.view Contact.phoneE164 phone).map Contact.out) =
      Function.update (fun phone => (db.contacts.view Contact.phoneE164 phone).map Contact.out)
        c.phoneE164 (some c.out) := by
    rw [hview]
    exact Function.comp_update (Option.map Contact.out) _ _ _
  exact congrArg (Directory.mk · _) hmap

/-- An update of one contact binds its phone anew. -/
theorem directory_updateContact {p : Contact → Bool} {f : Contact → Contact}
    (hf : ∀ c, (f c).id = c.id ∧ (f c).phoneE164 = c.phoneE164) {c : Contact}
    (hc : c ∈ db.contacts.rows) (hp : p c = true)
    (hone : ∀ a ∈ db.contacts.rows, p a = true → a = c) :
    (db.updateContacts p f hf).directory = db.directory.bind (f c).out := by
  have hview : (db.updateContacts p f hf).contacts.view Contact.phoneE164 =
      Function.update (db.contacts.view Contact.phoneE164) c.phoneE164 (some (f c)) :=
    Table.view_update (Contact.keeps hf) indexed_phoneE164 hc hp hone fun a => (hf a).2
  have hmap : (fun phone =>
        ((db.updateContacts p f hf).contacts.view Contact.phoneE164 phone).map Contact.out) =
      Function.update (fun phone => (db.contacts.view Contact.phoneE164 phone).map Contact.out)
        (f c).out.phoneE164 (some (f c).out) := by
    have hphone : (f c).out.phoneE164 = c.phoneE164 := (hf c).2
    rw [hview, hphone]
    exact Function.comp_update (Option.map Contact.out) _ _ _
  exact congrArg (Directory.mk · _) hmap

/-- An update of one route registers its number anew. -/
theorem directory_updateRoute {p : Route → Bool} {f : Route → Route}
    (hf : ∀ r, (f r).id = r.id ∧ (f r).phoneNumberId = r.phoneNumberId) {r : Route}
    (hr : r ∈ db.routes.rows) (hp : p r = true)
    (hone : ∀ a ∈ db.routes.rows, p a = true → a = r) :
    (db.updateRoutes p f hf).directory = db.directory.register (f r) := by
  have hview : (db.updateRoutes p f hf).routes.view Route.phoneNumberId =
      Function.update (db.routes.view Route.phoneNumberId) (f r).phoneNumberId (some (f r)) := by
    rw [(hf r).2]
    exact Table.view_update (Route.keeps hf) indexed_phoneNumberId hr hp hone fun a => (hf a).2
  exact congrArg (Directory.mk _) hview

/-! ## Contacts -/

theorem putContact_answers (body : ContactIn) :
    db.directory.Answers inp tenantId (.putContact body) (putContact db inp tenantId body).2
      (putContact db inp tenantId body).1.directory := by
  unfold putContact
  split
  · rename_i htext
    exact .unbindable (Or.inl htext)
  · rename_i htext
    have htext : Json.hasNul body.phoneE164 = false := by simpa using htext
    cases hphone : contactOfPhone db body.phoneE164 with
    | none =>
      have hfree : db.directory.contacts body.phoneE164 = none := by simp [Db.directory, hphone]
      simp only
      split
      · rename_i contacts hins
        rw [directory_insertContact hins]
        refine .bind htext hfree fun o ho hid => ?_
        obtain ⟨c, hc, rfl⟩ := bound_iff.mp ho
        have hclash := (Table.insert?_eq_some.mp hins).1 c hc
        have hsame : c.id = (newContact inp.newId inp.now tenantId body).id := hid
        simp [clash, sameKey, hsame] at hclash
      · rename_i hins
        refine .unbindable (Or.inr ⟨hfree, ?_⟩)
        obtain ⟨c, hc, hclash⟩ := Table.insert?_eq_none.mp hins
        refine ⟨c.out, bound_iff.mpr ⟨c, hc, rfl⟩, ?_⟩
        simp only [clash, sameKey, Bool.or_eq_true, beq_iff_eq] at hclash
        refine hclash.resolve_right fun hsame => ?_
        have hbound : contactOfPhone db body.phoneE164 = some c :=
          contactOfPhone_eq_some.mpr ⟨hc, hsame⟩
        rw [hphone] at hbound
        contradiction
    | some old =>
      obtain ⟨hold, hsame⟩ := contactOfPhone_eq_some.mp hphone
      have hbound : db.directory.Bound old.out := bound_iff.mpr ⟨old, hold, rfl⟩
      simp only
      split
      · rename_i hown
        have hown : old.tenantId = tenantId := by simpa using hown
        have hone : ∀ c ∈ db.contacts.rows,
            (c.phoneE164 == body.phoneE164 && c.tenantId == tenantId) = true → c = old := by
          intro c hc hsel
          have hcphone : c.phoneE164 = body.phoneE164 :=
            beq_iff_eq.mp (Bool.and_eq_true_iff.mp hsel).1
          exact Table.eq_of_clash hc hold (indexed_phoneE164 c old (hcphone.trans hsame.symm))
        rw [directory_updateContact _ hold (by simp [hsame, hown]) hone]
        exact .rebind htext hbound hsame hown
      · rename_i hother
        have hother : old.tenantId ≠ tenantId := by simpa using hother
        exact .foreign htext hbound hsame hother

/-- An own contact that a statement finds is the only row that it selects. -/
theorem ownContact_some {contactId : UUID} {c : Contact}
    (h : db.contacts.rows.find? (ownContact tenantId contactId) = some c) :
    db.directory.Bound c.out ∧ c.id = contactId ∧ c.tenantId = tenantId ∧ c ∈ db.contacts.rows ∧
      ∀ a ∈ db.contacts.rows, ownContact tenantId contactId a = true → a = c := by
  have hc := List.mem_of_find?_eq_some h
  have hsel := List.find?_some h
  simp only [ownContact, Bool.and_eq_true, beq_iff_eq] at hsel
  refine ⟨bound_iff.mpr ⟨c, hc, rfl⟩, hsel.1, hsel.2, hc, fun a ha hown => ?_⟩
  simp only [ownContact, Bool.and_eq_true, beq_iff_eq] at hown
  exact contact_eq_of_id ha hc (hown.1.trans hsel.1.symm)

theorem ownContact_none {contactId : UUID}
    (h : db.contacts.rows.find? (ownContact tenantId contactId) = none) :
    ∀ o, db.directory.Bound o → o.id = contactId → o.tenantId ≠ tenantId := by
  intro o ho hid htenant
  obtain ⟨c, hc, rfl⟩ := bound_iff.mp ho
  have hnot := List.find?_eq_none.mp h c hc
  have hcid : c.id = contactId := hid
  have hctenant : c.tenantId = tenantId := htenant
  simp [ownContact, hcid, hctenant] at hnot

theorem getContact_answers (contactId : UUID) :
    db.directory.Answers inp tenantId (.getContact contactId) (getContact db tenantId contactId)
      db.directory := by
  unfold getContact
  split
  · rename_i c hfind
    obtain ⟨hbound, rfl, hown, -⟩ := ownContact_some hfind
    exact .get hbound hown
  · rename_i hfind
    exact .noContact (Or.inl rfl) (ownContact_none hfind)

theorem patchContact_answers (contactId : UUID) (body : ContactPatch) :
    db.directory.Answers inp tenantId (.patchContact contactId body)
      (patchContact db tenantId contactId body).2
      (patchContact db tenantId contactId body).1.directory := by
  unfold patchContact
  split
  · rename_i hbody
    exact .noFields hbody
  · rename_i hbody
    have hbody : body.isEmpty = false := by simpa using hbody
    split
    · rename_i hfind
      exact .noContact (Or.inr (Or.inl ⟨body, hbody, rfl⟩)) (ownContact_none hfind)
    · rename_i c hfind
      obtain ⟨hbound, rfl, hown, hc, hone⟩ := ownContact_some hfind
      rw [directory_updateContact _ hc (List.find?_some hfind) hone]
      exact .patch hbody hbound hown

theorem revokeContact_answers (contactId : UUID) :
    db.directory.Answers inp tenantId (.revokeContact contactId)
      (revokeContact db tenantId contactId).2
      (revokeContact db tenantId contactId).1.directory := by
  unfold revokeContact
  split
  · rename_i hfind
    exact .noContact (Or.inr (Or.inr rfl)) (ownContact_none hfind)
  · rename_i c hfind
    obtain ⟨hbound, rfl, hown, hc, hone⟩ := ownContact_some hfind
    rw [directory_updateContact _ hc (List.find?_some hfind) hone]
    exact .revoke hbound hown

/-! ## Listings -/

section Order

variable {t t' t'' : Timestamp} {i i' i'' : UUID}

theorem olderFirst_iff :
    olderFirst t i t' i' = true ↔ t < t' ∨ t = t' ∧ i.toNat ≤ i'.toNat := by
  simp [olderFirst]

theorem olderFirst_total (t : Timestamp) (i : UUID) (t' : Timestamp) (i' : UUID) :
    olderFirst t i t' i' = true ∨ olderFirst t' i' t i = true := by
  rw [olderFirst_iff, olderFirst_iff]
  rcases Int.lt_trichotomy t t' with hlt | heq | hgt
  · exact Or.inl (Or.inl hlt)
  · rcases Nat.le_total i.toNat i'.toNat with hle | hle
    · exact Or.inl (Or.inr ⟨heq, hle⟩)
    · exact Or.inr (Or.inr ⟨heq.symm, hle⟩)
  · exact Or.inr (Or.inl hgt)

theorem olderFirst_trans (h : olderFirst t i t' i' = true) (h' : olderFirst t' i' t'' i'' = true) :
    olderFirst t i t'' i'' = true := by
  rw [olderFirst_iff] at h h' ⊢
  rcases h with hlt | ⟨rfl, hle⟩
  · rcases h' with hlt' | ⟨rfl, -⟩
    · exact Or.inl (Int.lt_trans hlt hlt')
    · exact Or.inl hlt
  · rcases h' with hlt' | ⟨rfl, hle'⟩
    · exact Or.inl hlt'
    · exact Or.inr ⟨rfl, hle.trans hle'⟩

end Order

instance : DecidableRel fun a b : Contact => ContactOut.before a.out b.out := fun a b =>
  inferInstanceAs (Decidable (olderFirst a.createdAt a.id b.createdAt b.id = true))

instance : DecidableRel fun a b : Route => Route.before (id a) (id b) := fun a b =>
  inferInstanceAs (Decidable (olderFirst a.createdAt a.id b.createdAt b.id = true))

/-- A page of what is shown shows a page. -/
theorem Page.slice_map {α β : Type} (page : Page) (f : α → β) (rows : List α) :
    page.slice (rows.map f) = (page.slice rows).map (List.map f) := by
  unfold Page.slice
  split
  · simp [List.map_drop, List.map_take]
  · rfl

/-- The selection of a listing, sorted, lists what is bound. -/
theorem listing_contacts (status : Option ContactStatus) (userId : Option UUID) :
    Listing (fun o => db.directory.Bound o ∧ o.tenantId = tenantId ∧
        (∀ s ∈ status, o.status = s) ∧ ∀ u ∈ userId, o.userId = u) ContactOut.before
      (((db.contacts.rows.filter fun c => c.tenantId == tenantId &&
        status.all (· == c.status) && userId.all (· == c.userId)).insertionSort
          fun a b => olderFirst a.createdAt a.id b.createdAt b.id = true).map Contact.out) := by
  refine Listing.congr (listing_insertionSort db.contacts (fun c => c.tenantId == tenantId &&
    status.all (· == c.status) && userId.all (· == c.userId)) (g := Contact.out)
    (fun a b => olderFirst_total _ _ _ _) (fun a b c => olderFirst_trans)
    (fun c => by simp [clash, sameKey]) fun a b hab => ?_) fun o => ?_
  · have hphone : a.out.phoneE164 = b.out.phoneE164 := by rw [hab]
    exact indexed_phoneE164 a b hphone
  · rw [bound_iff]
    constructor
    · rintro ⟨c, hc, hsel, rfl⟩
      simp only [Bool.and_eq_true, beq_iff_eq, Option.all_eq_true] at hsel
      obtain ⟨⟨htenant, hstatus⟩, huser⟩ := hsel
      exact ⟨⟨c, hc, rfl⟩, htenant, fun s hs => (hstatus s hs).symm, fun u hu => (huser u hu).symm⟩
    · rintro ⟨⟨c, hc, rfl⟩, htenant, hstatus, huser⟩
      refine ⟨c, hc, ?_, rfl⟩
      simp only [Bool.and_eq_true, beq_iff_eq, Option.all_eq_true]
      exact ⟨⟨htenant, fun s hs => (hstatus s hs).symm⟩, fun u hu => (huser u hu).symm⟩

theorem listContacts_answers (status : Option ContactStatus) (userId : Option UUID) (page : Page) :
    db.directory.Answers inp tenantId (.listContacts status userId page)
      (listContacts db tenantId status userId page) db.directory := by
  unfold listContacts
  simp only
  split
  · rename_i rows hrows
    refine .list (listing_contacts status userId) ?_
    rw [Page.slice_map, hrows, Option.map_some]
  · rename_i hnone
    refine .beyond ?_
    unfold Page.slice at hnone
    split at hnone
    · contradiction
    · omega


/-! ## Routes -/

theorem listRoutes_answers :
    db.directory.Answers inp tenantId .listRoutes (listRoutes db tenantId) db.directory := by
  have hall : Listing (fun r => db.directory.Registered r ∧ r.tenantId = tenantId) Route.before
      (((db.routes.rows.filter fun r => r.tenantId == tenantId).insertionSort
        fun a b => olderFirst a.createdAt a.id b.createdAt b.id = true).map id) := by
    refine Listing.congr (listing_insertionSort db.routes (fun r => r.tenantId == tenantId)
      (g := id) (fun a b => olderFirst_total _ _ _ _) (fun a b c => olderFirst_trans)
      (fun r => by simp [clash, sameKey]) fun a b hab => ?_) fun r => ?_
    · exact indexed_phoneNumberId a b (congrArg Route.phoneNumberId hab)
    · rw [registered_iff]
      simp
  rw [List.map_id] at hall
  exact .listRoutes hall

/-- An own route that a statement finds is the only row that it selects. -/
theorem ownRoute_some {routeId : UUID} {r : Route}
    (h : db.routes.rows.find? (ownRoute tenantId routeId) = some r) :
    r ∈ db.routes.rows ∧ r.id = routeId ∧ r.tenantId = tenantId ∧
      ∀ a ∈ db.routes.rows, ownRoute tenantId routeId a = true → a = r := by
  have hr := List.mem_of_find?_eq_some h
  have hsel := List.find?_some h
  simp only [ownRoute, Bool.and_eq_true, beq_iff_eq] at hsel
  refine ⟨hr, hsel.1, hsel.2, fun a ha hown => ?_⟩
  simp only [ownRoute, Bool.and_eq_true, beq_iff_eq] at hown
  exact Table.eq_of_clash ha hr (by simp [clash, sameKey, hown.1, hsel.1])

theorem ownRoute_none {routeId : UUID}
    (h : db.routes.rows.find? (ownRoute tenantId routeId) = none) :
    ∀ r, db.directory.Registered r → r.id = routeId → r.tenantId ≠ tenantId := by
  intro r hr hid htenant
  have hnot := List.find?_eq_none.mp h r (registered_iff.mp hr)
  simp [ownRoute, hid, htenant] at hnot

theorem createRoute_answers (body : RouteIn) :
    db.directory.Answers inp tenantId (.createRoute body) (createRoute db inp tenantId body).2
      (createRoute db inp tenantId body).1.directory := by
  unfold createRoute
  split
  · rename_i htext
    simp only
    split
    · rename_i routes hins
      have hview : routes.view Route.phoneNumberId = Function.update
          (db.routes.view Route.phoneNumberId) body.phoneNumberId
          (some (newRoute inp.newId inp.now tenantId body)) :=
        Table.view_insert? indexed_phoneNumberId hins
      have hbound : { db with routes := routes }.directory =
          db.directory.register (newRoute inp.newId inp.now tenantId body) :=
        congrArg (Directory.mk _) hview
      obtain ⟨hfree, -⟩ := Table.insert?_eq_some.mp hins
      rw [hbound]
      refine .register htext (Table.view_eq_none.mpr fun r hr hsame => ?_) fun r hr hid => ?_
      · have hclash := hfree r hr
        simp [clash, sameKey, newRoute, hsame] at hclash
      · have hclash := hfree r (registered_iff.mp hr)
        simp [clash, sameKey, newRoute, hid] at hclash
    · rename_i hins
      obtain ⟨r, hr, hclash⟩ := Table.insert?_eq_none.mp hins
      refine .taken htext (registered_iff.mpr hr) ?_
      simpa [clash, sameKey, newRoute, or_comm] using hclash
  · rename_i htext
    exact .unregistrable (by simpa using htext)

theorem patchRoute_answers (routeId : UUID) (body : RoutePatch) :
    db.directory.Answers inp tenantId (.patchRoute routeId body)
      (patchRoute db tenantId routeId body).2
      (patchRoute db tenantId routeId body).1.directory := by
  unfold patchRoute
  split
  · rename_i hbody
    exact .noRouteFields hbody
  · rename_i hbody
    have hbody : body.isEmpty = false := by simpa using hbody
    split
    · rename_i htext
      exact .unamendable hbody htext
    · rename_i htext
      have htext : body.displayNumber.any Json.hasNul = false := by simpa using htext
      split
      · rename_i hfind
        exact .noRoute hbody htext (ownRoute_none hfind)
      · rename_i r hfind
        obtain ⟨hr, rfl, hown, hone⟩ := ownRoute_some hfind
        rw [directory_updateRoute _ hr (List.find?_some hfind) hone]
        exact .amend hbody htext (registered_iff.mpr hr) hown

/-! ## Requests -/

/-- A request of the API is a request to the directory, with the same answer. -/
theorem handle_answers (env : Env) (op : Operation) :
    db.directory.Answers inp tenantId op (handle env db inp tenantId op).response
      (handle env db inp tenantId op).db.directory := by
  have hsend : ∀ request, (handle env db inp tenantId (.sendMessage request)).db.directory =
      db.directory := by
    intro request
    simp only [handle]
    rw [sendMessage_tables]
    rfl
  cases op with
  | putContact body => exact putContact_answers body
  | listContacts status userId page => exact listContacts_answers status userId page
  | getContact contactId => exact getContact_answers contactId
  | patchContact contactId body => exact patchContact_answers contactId body
  | revokeContact contactId => exact revokeContact_answers contactId
  | createRoute body => exact createRoute_answers body
  | listRoutes => exact listRoutes_answers
  | patchRoute routeId body => exact patchRoute_answers routeId body
  | sendMessage request =>
    rw [hsend request]
    exact .sendMessage
  | getMessage messageId => exact .getMessage
  | listSessions state contactId dealId page => exact .listSessions
  | getSession sessionId => exact .getSession

/-- What a request asks of the directory, and the answer that it gets. -/
def directoryEvent (env : Env) : World × Action → Option DirectoryEvent
  | (w, .api inp tenantId op) =>
    some ⟨inp, tenantId, op, (handle env w.db inp tenantId op).response⟩
  | _ => none

/-- A step that is no request leaves the directory alone. -/
theorem directory_silent {w w' : World} {a : Action} (h : worldStep env w a = some w')
    (hevent : directoryEvent env (w, a) = none) : w'.db.directory = w.db.directory := by
  have hnone : ∀ inp tenantId op, a ≠ .api inp tenantId op := by
    rintro inp tenantId op rfl
    cases hevent
  have hsame : w'.db.contacts = w.db.contacts ∧ w'.db.routes = w.db.routes := by
    refine preserved_of_steps (fun db => db.contacts = w.db.contacts ∧ db.routes = w.db.routes)
      ?_ (worldStep_writes h) ⟨rfl, rfl⟩
    rintro db db' ⟨hcontacts, hroutes⟩ hwrite
    cases hwrite with
    | contacts h =>
      refine ⟨(h.unchanged ?_ ?_).trans hcontacts, hroutes⟩
      · rintro c ⟨⟩
        exact hnone _ _ _ rfl
      · rintro c c' hchange
        cases hchange with
        | _ => exact hnone _ _ _ rfl
    | routes h =>
      refine ⟨hcontacts, (h.unchanged ?_ ?_).trans hroutes⟩
      · rintro r ⟨⟩
        exact hnone _ _ _ rfl
      · rintro r r' ⟨⟩
        exact hnone _ _ _ rfl
    | _ => exact ⟨hcontacts, hroutes⟩
  exact directory_congr hsame.1 hsame.2

/-! ## The router -/

theorem resolveRoute_iff {phoneNumberId : Option String} {routeId : UUID} :
    resolveRoute db phoneNumberId = .ok (routeId, tenantId) ↔
      ∃ number r, phoneNumberId = some number ∧ number ≠ "" ∧
        db.directory.numbers number = some r ∧ r.active = true ∧ r.id = routeId ∧
        r.tenantId = tenantId := by
  have hactive : ∀ number r, activeRoute db number = some r ↔
      db.directory.numbers number = some r ∧ r.active = true := by
    intro number r
    unfold activeRoute
    have hview : db.directory.numbers number = some r ↔
        r ∈ db.routes.rows ∧ r.phoneNumberId = number := Table.view_eq_some indexed_phoneNumberId
    rw [hview]
    constructor
    · intro h
      have hsel := List.find?_some h
      simp only [Bool.and_eq_true, beq_iff_eq] at hsel
      exact ⟨⟨List.mem_of_find?_eq_some h, hsel.1⟩, hsel.2⟩
    · rintro ⟨⟨hr, rfl⟩, hact⟩
      refine Table.find?_eq_some_of_mem hr (by simp [hact]) fun b hb => ?_
      simp only [Bool.and_eq_true, beq_iff_eq] at hb
      exact indexed_phoneNumberId b r hb.1
  constructor
  · intro h
    unfold resolveRoute at h
    split at h
    · cases h
    · rename_i number
      split at h
      · cases h
      · rename_i hgiven
        split at h
        · rename_i r hr
          cases h
          obtain ⟨hr, hact⟩ := (hactive number r).mp hr
          exact ⟨number, r, rfl, by simpa using hgiven, hr, hact, rfl, rfl⟩
        · cases h
  · rintro ⟨number, r, rfl, hgiven, hr, hact, rfl, rfl⟩
    have hfound : activeRoute db number = some r := (hactive number r).mpr ⟨hr, hact⟩
    simp [resolveRoute, hgiven, hfound]

theorem resolveContact_iff {phone : String} {c : Contact} :
    resolveContact db phone tenantId = .ok c ↔
      contactOfPhone db phone = some c ∧ c.tenantId = tenantId ∧ c.status = .active := by
  constructor
  · intro h
    obtain ⟨hc, hphone, htenant, hactive⟩ := resolveContact_ok h
    exact ⟨contactOfPhone_eq_some.mpr ⟨hc, hphone⟩, htenant, hactive⟩
  · rintro ⟨hfound, htenant, hactive⟩
    obtain ⟨hc, hphone⟩ := contactOfPhone_eq_some.mp hfound
    have hfind : db.contacts.rows.find?
        (fun c => c.phoneE164 == phone && c.tenantId == tenantId) = some c := by
      refine Table.find?_eq_some_of_mem hc (by simp [hphone, htenant]) fun b hb => ?_
      simp only [Bool.and_eq_true, beq_iff_eq] at hb
      exact indexed_phoneE164 b c (hb.1.trans hphone.symm)
    unfold resolveContact
    simp [hfind, hactive]

/-- The router resolves a payload to what the directory says. -/
theorem resolveFullContext_iff {phoneNumberId : Option String} {payload : Json}
    {ctx : ResolvedContext} : resolveFullContext db phoneNumberId payload = .ok ctx ↔
      db.directory.Identity phoneNumberId payload ctx := by
  constructor
  · intro h
    obtain ⟨⟨routeId, tenantId⟩, hroute, h⟩ := bind_eq_ok.mp h
    obtain ⟨sender, hsender, h⟩ := bind_eq_ok.mp h
    obtain ⟨number, r, hnumber, hnonempty, hr, hactive, rfl, rfl⟩ := resolveRoute_iff.mp hroute
    have hphone : extractSenderPhone payload = .ok sender := by
      cases hs : extractSenderPhone payload with
      | error e =>
        rw [hs] at hsender
        cases hsender
      | ok p =>
        rw [hs] at hsender
        cases hsender
        rfl
    split at h
    · cases h
    · rename_i phone
      split at h
      · cases h
      · rename_i hgiven
        obtain ⟨c, hcontact, h⟩ := bind_eq_ok.mp h
        obtain ⟨hbound, htenant, hstatus⟩ := resolveContact_iff.mp hcontact
        split at h
        · cases h
        · rename_i orgUnitId horg
          cases h
          refine ⟨number, r, phone, c.out, orgUnitId, hnumber, hnonempty, hr, hactive, hphone,
            by simpa using hgiven, ?_, htenant, hstatus, horg, rfl⟩
          simp [Db.directory, hbound]
  · rintro ⟨number, r, phone, o, orgUnitId, rfl, hnonempty, hr, hactive, hphone, hgiven, hbound,
      htenant, hstatus, horg, rfl⟩
    obtain ⟨c, hc, rfl⟩ := Option.map_eq_some_iff.mp hbound
    have hroute : resolveRoute db (some number) = .ok (r.id, r.tenantId) :=
      resolveRoute_iff.mpr ⟨number, r, rfl, hnonempty, hr, hactive, rfl, rfl⟩
    have hcontact : resolveContact db phone r.tenantId = .ok c :=
      resolveContact_iff.mpr ⟨hc, htenant, hstatus⟩
    have horg : c.orgUnitId = some orgUnitId := horg
    unfold resolveFullContext
    simp [hroute, hphone, hgiven, hcontact, horg, bind, Except.bind, Except.mapError, pure,
      Except.pure, Contact.out]

/-! ## Runs -/

/-- A run of the service, whatever else it does, is a run of the directory on its requests, with the
same answers; no phone is taken from its contact on the way, and at the end the router resolves
every payload to what the directory says. -/
theorem directory_refined (env : Env) {w w' : World} {as : List Action}
    (h : run (worldStep env) w as = some w') :
    Serves Directory.Step w.db.directory
        ((trace (worldStep env) w as).filterMap (directoryEvent env)) w'.db.directory ∧
      (∀ phone id tenantId, w.db.directory.Holds phone id tenantId →
        w'.db.directory.Holds phone id tenantId) ∧
      ∀ phoneNumberId payload ctx, resolveFullContext w'.db phoneNumberId payload = .ok ctx ↔
        w'.db.directory.Identity phoneNumberId payload ctx := by
  have hserves : Serves Directory.Step w.db.directory
      ((trace (worldStep env) w as).filterMap (directoryEvent env)) w'.db.directory := by
    refine serves_of_run (fun w : World => w.db.directory) (directoryEvent env)
      (fun _ _ _ => directory_silent) ?_ h
    intro w a w' e hstep hevent
    cases a with
    | api inp tenantId op =>
      cases hevent
      cases hstep
      exact handle_answers env op
    | _ => cases hevent
  refine ⟨hserves, fun phone id tenantId hheld => ?_, fun _ _ _ => resolveFullContext_iff⟩
  exact hserves.preserves (Directory.Holds phone id tenantId)
    (fun _ _ _ hd hstep => hstep.holds hd) hheld

/-- The number and the consultant of the photo are entered by two requests. -/
theorem directory_refined_firstPhoto :
    ∃ w, run (worldStep photoEnv) ⟨.empty, []⟩ firstPhoto = some w ∧
      ((trace (worldStep photoEnv) ⟨.empty, []⟩ firstPhoto).filterMap
        (directoryEvent photoEnv)).length = 2 ∧
      (w.db.directory.contacts "+919876543210").isSome = true ∧
      Serves Directory.Step Db.empty.directory
        ((trace (worldStep photoEnv) ⟨.empty, []⟩ firstPhoto).filterMap (directoryEvent photoEnv))
        w.db.directory := by
  have hrun : ((run (worldStep photoEnv) ⟨.empty, []⟩ firstPhoto).map fun w =>
      (w.db.directory.contacts "+919876543210").isSome) = some true := by decide
  obtain ⟨w, hw, hbound⟩ := Option.map_eq_some_iff.mp hrun
  exact ⟨w, hw, by decide, hbound, (directory_refined photoEnv hw).1⟩

end WaService
