import WaService.Core.Evolution
import WaService.Correctness.SendOnce
import WaService.System.SendLog

/-!
# What a sent record says of its send

A record is inserted with the route that its first send goes out through, and a retry
updates its state and wamid alone. So the record tells the number of the accepted send
as long as retries of failed records go out through the route that was recorded; a
retry after the tenant's first active route has changed leaves the old route beside the
wamid of the new one.
-/

namespace WaService

open Python Relational Transition

/-! ## The property and its condition -/

/-- The route with this id has this number. -/
def HasNumber (db : Db) (routeId : UUID) (phoneNumberId : String) : Prop :=
  ∃ r ∈ db.routes.rows, r.id = routeId ∧ r.phoneNumberId = phoneNumberId

/-- A logged send for this record has its wamid and went out through the number of its
route. -/
def ApiMessage.Truthful (env : Env) (db : Db) (accepted : List AcceptedSend) (m : ApiMessage) :
    Prop :=
  ∃ a ∈ accepted, a.messageId = m.id ∧ sqlText env a.wamid = .ok m.wamid ∧
    HasNumber db m.routeId a.phoneNumberId

instance (env : Env) (db : Db) (accepted : List AcceptedSend) (m : ApiMessage) :
    Decidable (m.Truthful env db accepted) :=
  inferInstanceAs (Decidable (∃ a ∈ accepted, a.messageId = m.id ∧
    sqlText env a.wamid = .ok m.wamid ∧
    ∃ r ∈ db.routes.rows, r.id = m.routeId ∧ r.phoneNumberId = a.phoneNumberId))

/-- Every sent record tells the truth about its send. -/
def SentTruthfully {ι : Type} (env : Env) (s : SendLog ι) : Prop :=
  ∀ m ∈ s.db.apiMessages.rows, m.state = .sent → m.Truthful env s.db s.accepted

instance {ι : Type} (env : Env) (s : SendLog ι) : Decidable (SentTruthfully env s) :=
  inferInstanceAs (Decidable (∀ m ∈ s.db.apiMessages.rows, m.state = .sent →
    m.Truthful env s.db s.accepted))

/-- The route of the failed record that a request retries, and the route it is retried on. -/
def retriedRoutes (env : Env) (db : Db) (tenantId : UUID) (rq : SendMessage) :
    Option (UUID × UUID) :=
  match reserveSelect db tenantId rq with
  | .ok (route, some m) =>
    match decideSend env rq (.existing m route.phoneNumberId) with
    | .send _ _ => some (m.routeId, route.id)
    | .answer _ => none
  | .ok (_, none) | .error _ => none

/-- When the request retries a failed record, the oldest active route of the tenant is the route
of the record. -/
def RetriesOnItsRoute (env : Env) (db : Db) (tenantId : UUID) (rq : SendMessage) : Prop :=
  (retriedRoutes env db tenantId rq).all (fun routes => routes.1 == routes.2) = true

instance (env : Env) (db : Db) (tenantId : UUID) (rq : SendMessage) :
    Decidable (RetriesOnItsRoute env db tenantId rq) :=
  inferInstanceAs (Decidable (_ = true))

/-- The request whose record a step looks up. -/
def lookedUp {ι : Type} (posts : ι → Post) : AuditAction ι → Option (UUID × SendMessage)
  | .send (.select i) => some ((posts i).tenantId, (posts i).message)
  | .request _ tenantId (.sendMessage rq) => some (tenantId, rq)
  | _ => none

/-- A step that looks up the record of a request retries it on its route only. -/
def KeepsRecordedRoute {ι : Type} (env : Env) (posts : ι → Post) (s : SendLog ι)
    (a : AuditAction ι) : Prop :=
  ∀ request ∈ lookedUp posts a, RetriesOnItsRoute env s.db request.1 request.2

instance {ι : Type} (env : Env) (posts : ι → Post) (s : SendLog ι) (a : AuditAction ι) :
    Decidable (KeepsRecordedRoute env posts s a) :=
  inferInstanceAs (Decidable (∀ request ∈ lookedUp posts a,
    RetriesOnItsRoute env s.db request.1 request.2))

/-! ## What the statements keep -/

/-- What identifies a route for the records and for Meta. -/
def Route.number (r : Route) : UUID × String := (r.id, r.phoneNumberId)

/-- What links a record to its route. -/
def ApiMessage.link (m : ApiMessage) : UUID × UUID := (m.id, m.routeId)

/-- Between the two databases routes keep their numbers and records their routes, and a record
that is sent was sent with this wamid before, or is one of the records `Sent`. -/
structure RecordsFollow (Sent : ApiMessage → Prop) (db db' : Db) : Prop where
  routes : ∀ r ∈ db.routes.rows, ∃ r' ∈ db'.routes.rows, r'.number = r.number
  links : ∀ m ∈ db.apiMessages.rows, ∃ m' ∈ db'.apiMessages.rows, m'.link = m.link
  sent : ∀ m' ∈ db'.apiMessages.rows, m'.state = .sent →
    Sent m' ∨ ∃ m ∈ db.apiMessages.rows, m.state = .sent ∧ m'.link = m.link ∧ m'.wamid = m.wamid

/-- The statements send no record. -/
abbrev RecordsStay (db db' : Db) : Prop := RecordsFollow (fun _ => False) db db'

variable {Sent : ApiMessage → Prop} {db db' : Db} {env : Env}

theorem RecordsFollow.of_eq (hr : db'.routes = db.routes) (hm : db'.apiMessages = db.apiMessages) :
    RecordsFollow Sent db db' := by
  constructor
  · intro r hmem
    exact ⟨r, hr ▸ hmem, rfl⟩
  · intro m hmem
    exact ⟨m, hm ▸ hmem, rfl⟩
  · intro m hmem hsent
    exact Or.inr ⟨m, hm ▸ hmem, hsent, rfl, rfl⟩

theorem RecordsFollow.refl (db : Db) : RecordsFollow Sent db db := .of_eq rfl rfl

theorem RecordsStay.refl (db : Db) : RecordsStay db db := RecordsFollow.refl db

/-- After statements that send nothing, the effect of the next ones is the whole effect. -/
theorem RecordsStay.trans {db'' : Db} (h : RecordsStay db db')
    (h' : RecordsFollow Sent db' db'') : RecordsFollow Sent db db'' := by
  constructor
  · intro r hr
    obtain ⟨r', hr', hnumber⟩ := h.routes r hr
    obtain ⟨r'', hr'', hnumber'⟩ := h'.routes r' hr'
    exact ⟨r'', hr'', hnumber'.trans hnumber⟩
  · intro m hm
    obtain ⟨m', hm', hlink⟩ := h.links m hm
    obtain ⟨m'', hm'', hlink'⟩ := h'.links m' hm'
    exact ⟨m'', hm'', hlink'.trans hlink⟩
  · intro m'' hm'' hsent
    rcases h'.sent m'' hm'' hsent with hnew | ⟨m', hm', hsent', hlink', hwamid'⟩
    · exact Or.inl hnew
    · rcases h.sent m' hm' hsent' with hfalse | ⟨m, hm, hstate, hlink, hwamid⟩
      · exact hfalse.elim
      · exact Or.inr ⟨m, hm, hstate, hlink'.trans hlink, hwamid'.trans hwamid⟩

/-- An update of records that keeps their routes; what it makes sent is `Sent`. -/
theorem updateApiMessages_follow {p : ApiMessage → Bool} (f : ApiMessage → ApiMessage)
    (h : ∀ m, (f m).id = m.id ∧ (f m).tenantId = m.tenantId ∧
      (f m).idempotencyKey = m.idempotencyKey) (hroute : ∀ m, (f m).routeId = m.routeId)
    (hsent : ∀ m, p m = true → (f m).state = .sent → Sent (f m)) :
    RecordsFollow Sent db (db.updateApiMessages p f h) := by
  have hlink : ∀ m, (patch p f m).link = m.link :=
    patch_proj fun m _ => Prod.ext (h m).1 (hroute m)
  constructor
  · exact fun r hr => ⟨r, hr, rfl⟩
  · intro m hm
    have hmem : patch p f m ∈ (db.updateApiMessages p f h).apiMessages.rows :=
      List.mem_map_of_mem hm
    exact ⟨patch p f m, hmem, hlink m⟩
  · intro m' hm' hstate
    obtain ⟨m, hm, rfl⟩ := List.mem_map.mp (hm' : m' ∈ db.apiMessages.rows.map (patch p f))
    by_cases hp : p m = true
    · rw [patch_of_pos hp] at hstate ⊢
      exact Or.inl (hsent m hp hstate)
    · have hsame : patch p f m = m := patch_of_neg (eq_false_of_ne_true hp)
      rw [hsame] at hstate ⊢
      exact Or.inr ⟨m, hm, hstate, rfl, rfl⟩

/-- The record is the one that the outcome makes sent. -/
def ApiMessage.SentBy (env : Env) (messageId : UUID) (outcome : SendOutcome) (m : ApiMessage) :
    Prop :=
  ∃ wamid, outcome = .ok wamid ∧ m.id = messageId ∧ sqlText env wamid = .ok m.wamid

/-- Writing an outcome sends the record that it is written to, with the wamid of the outcome. -/
theorem concludeSend_follow (env : Env) (db : Db) (now : Timestamp) (messageId : UUID)
    (outcome : SendOutcome) : RecordsFollow (ApiMessage.SentBy env messageId outcome) db
      (concludeSend env db now messageId outcome).1 := by
  obtain hdb | ⟨texts, retryable, hdb⟩ | ⟨wamid, text, hok, htext, hdb⟩ :=
    concludeSend_db env db now messageId outcome
  · rw [hdb]
    exact .refl db
  · rw [hdb]
    exact updateApiMessages_follow (ApiMessage.fail texts retryable) (fun _ => ⟨rfl, rfl, rfl⟩)
      (fun _ => rfl) fun _ _ hsent => MessageState.noConfusion hsent
  · rw [hdb]
    apply updateApiMessages_follow (ApiMessage.succeed text now) (fun _ => ⟨rfl, rfl, rfl⟩)
      fun _ => rfl
    intro m hm _
    exact ⟨wamid, hok, beq_iff_eq.mp hm, htext⟩

/-- The record has a route with this number. -/
def RecordedNumber (db : Db) (messageId : UUID) (phoneNumberId : String) : Prop :=
  ∃ m ∈ db.apiMessages.rows, m.id = messageId ∧ HasNumber db m.routeId phoneNumberId

theorem HasNumber.follow {routeId : UUID} {phoneNumberId : String}
    (hn : HasNumber db routeId phoneNumberId) (h : RecordsFollow Sent db db') :
    HasNumber db' routeId phoneNumberId := by
  obtain ⟨r, hr, hid, hphone⟩ := hn
  obtain ⟨r', hr', hnumber⟩ := h.routes r hr
  exact ⟨r', hr', (congrArg Prod.fst hnumber).trans hid, (congrArg Prod.snd hnumber).trans hphone⟩

theorem RecordedNumber.follow {messageId : UUID} {phoneNumberId : String}
    (hn : RecordedNumber db messageId phoneNumberId) (h : RecordsFollow Sent db db') :
    RecordedNumber db' messageId phoneNumberId := by
  obtain ⟨m, hm, hid, hnumber⟩ := hn
  obtain ⟨m', hm', hlink⟩ := h.links m hm
  have hid' : m'.id = m.id := congrArg Prod.fst hlink
  have hroute : m'.routeId = m.routeId := congrArg Prod.snd hlink
  refine ⟨m', hm', hid'.trans hid, ?_⟩
  rw [hroute]
  exact hnumber.follow h

/-- Statements that make only records of logged sends sent keep the promise. -/
theorem truthful_follow {accepted accepted' : List AcceptedSend}
    (hold : ∀ m ∈ db.apiMessages.rows, m.state = .sent → m.Truthful env db accepted)
    (h : RecordsFollow Sent db db') (hlog : ∀ a ∈ accepted, a ∈ accepted')
    (hsent : ∀ m ∈ db'.apiMessages.rows, Sent m → ∃ a ∈ accepted',
      a.messageId = m.id ∧ sqlText env a.wamid = .ok m.wamid ∧
      RecordedNumber db' m.id a.phoneNumberId) :
    ∀ m ∈ db'.apiMessages.rows, m.state = .sent → m.Truthful env db' accepted' := by
  intro m' hm' hstate
  rcases h.sent m' hm' hstate with hnew | ⟨m, hm, hstate', hlink, hwamid⟩
  · obtain ⟨a, ha, hid, hwamid, m, hm, hsame, hnumber⟩ := hsent m' hm' hnew
    have heq : m = m' := Table.eq_of_clash hm hm' (by simp [clash, sameKey, hsame])
    exact ⟨a, ha, hid, hwamid, heq ▸ hnumber⟩
  · obtain ⟨a, ha, hid, hwamid', hnumber⟩ := hold m hm hstate'
    have hid' : m'.id = m.id := congrArg Prod.fst hlink
    have hroute : m'.routeId = m.routeId := congrArg Prod.snd hlink
    refine ⟨a, hlog a ha, hid.trans hid'.symm, hwamid ▸ hwamid', ?_⟩
    rw [hroute]
    exact hnumber.follow h

/-! ## What a reservation leaves -/

theorem firstActiveRoute_mem {tenantId : UUID} {route : Route}
    (h : firstActiveRoute db tenantId = some route) : route ∈ db.routes.rows := by
  have hmem := List.mem_of_mem_head? (Option.mem_def.mpr h)
  rw [List.mem_insertionSort] at hmem
  exact (List.mem_filter.mp hmem).1

/-- The route of the lookups is a route with its number. -/
theorem reserveSelect_number {tenantId : UUID} {rq : SendMessage} {route : Route}
    {found : Option ApiMessage} (h : reserveSelect db tenantId rq = .ok (route, found)) :
    HasNumber db route.id route.phoneNumberId :=
  ⟨route, firstActiveRoute_mem (reserveSelect_eq_ok h).1, rfl, rfl⟩

/-- The insert of `_reserve` sends nothing, and its record has the route it was made with. -/
theorem reserveInsert_follow {newId : UUID} {now : Timestamp} {tenantId : UUID}
    {route : Route} {rq : SendMessage} {kind : MessageKind} {res : Reservation}
    (hroute : HasNumber db route.id route.phoneNumberId)
    (h : reserveInsert db newId now tenantId route rq kind = .ok (res, db')) :
    RecordsStay db db' ∧ ∀ messageId phoneNumberId,
      decideSend env rq res = .send messageId phoneNumberId →
        RecordedNumber db' messageId phoneNumberId := by
  obtain ⟨messages, hins, rfl, rfl⟩ := reserveInsert_eq_ok h
  refine ⟨⟨fun r hr => ⟨r, hr, rfl⟩, ?_, ?_⟩, ?_⟩
  · intro m hm
    exact ⟨m, (Table.mem_of_insert? hins).mpr (Or.inl hm), rfl⟩
  · intro m hm hstate
    rcases (Table.mem_of_insert? hins).mp hm with hm | rfl
    · exact Or.inr ⟨m, hm, hstate, rfl, rfl⟩
    · exact MessageState.noConfusion hstate
  · intro messageId phoneNumberId hsend
    cases hsend
    exact ⟨_, (Table.mem_of_insert? hins).mpr (Or.inr rfl), rfl, hroute⟩

/-- A retry on the route of its record goes out through the number of that route. -/
theorem RetriesOnItsRoute.number {tenantId : UUID} {rq : SendMessage}
    (hc : RetriesOnItsRoute env db tenantId rq) {route : Route} {m : ApiMessage}
    (h : reserveSelect db tenantId rq = .ok (route, some m)) {messageId : UUID}
    {phoneNumberId : String}
    (hsend : decideSend env rq (.existing m route.phoneNumberId) =
      .send messageId phoneNumberId) : RecordedNumber db messageId phoneNumberId := by
  obtain ⟨hid, hnumber⟩ : m.id = messageId ∧ route.phoneNumberId = phoneNumberId := by
    simp only [decideSend] at hsend
    split at hsend
    · contradiction
    · split at hsend
      · split at hsend <;> cases hsend
        exact ⟨rfl, rfl⟩
      · contradiction
  subst hid hnumber
  have hroute : m.routeId = route.id := by
    have hretried : retriedRoutes env db tenantId rq = some (m.routeId, route.id) := by
      simp only [retriedRoutes, h, hsend]
    simpa [RetriesOnItsRoute, hretried] using hc
  have hm : m ∈ db.apiMessages.rows := (existingRecord_eq_some (reserveSelect_eq_ok h).2).1
  refine ⟨m, hm, rfl, ?_⟩
  rw [hroute]
  exact reserveSelect_number h

/-- The reservation of a request sends nothing, and what it decides to send goes out through the
number of the record. -/
theorem reserve_follow {newId : UUID} {now : Timestamp} {tenantId : UUID} {rq : SendMessage}
    {kind : MessageKind} {res : Reservation} (hc : RetriesOnItsRoute env db tenantId rq)
    (h : reserve db newId now tenantId rq kind = .ok (res, db')) :
    RecordsStay db db' ∧ ∀ messageId phoneNumberId,
      decideSend env rq res = .send messageId phoneNumberId →
        RecordedNumber db' messageId phoneNumberId := by
  unfold reserve at h
  split at h
  · contradiction
  · rename_i hs
    cases h
    exact ⟨.refl db, fun _ _ hsend => hc.number hs hsend⟩
  · rename_i hs
    exact reserveInsert_follow (reserveSelect_number hs) h

/-- Writing the outcome of a send whose acceptance is logged keeps the promise. -/
theorem concludeSend_truthful {now : Timestamp} {messageId : UUID} {phoneNumberId : String}
    {outcome : SendOutcome} {accepted accepted' : List AcceptedSend}
    (hold : ∀ m ∈ db.apiMessages.rows, m.state = .sent → m.Truthful env db accepted)
    (hnumber : RecordedNumber db messageId phoneNumberId)
    (hlog : ∀ a ∈ accepted, a ∈ accepted')
    (hlogged : ∀ wamid, outcome = .ok wamid → ⟨messageId, phoneNumberId, wamid⟩ ∈ accepted') :
    ∀ m ∈ (concludeSend env db now messageId outcome).1.apiMessages.rows, m.state = .sent →
      m.Truthful env (concludeSend env db now messageId outcome).1 accepted' := by
  have hfollow := concludeSend_follow env db now messageId outcome
  apply truthful_follow hold hfollow hlog
  rintro m - ⟨wamid, houtcome, rfl, hwamid⟩
  exact ⟨⟨m.id, phoneNumberId, wamid⟩, hlogged wamid houtcome, rfl, hwamid, hnumber.follow hfollow⟩

theorem createRoute_stay (inp : ApiInput) (tenantId : UUID) (body : RouteIn) :
    RecordsStay db (createRoute db inp tenantId body).1 := by
  unfold createRoute
  split
  · simp only
    split
    · rename_i hins
      refine ⟨fun r hr => ⟨r, (Table.mem_of_insert? hins).mpr (Or.inl hr), rfl⟩,
        fun m hm => ⟨m, hm, rfl⟩, fun m hm hstate => Or.inr ⟨m, hm, hstate, rfl, rfl⟩⟩
    · exact .refl db
  · exact .refl db

/-- A patch and a deactivation keep the identity and the number of the route. -/
theorem patchRoute_stay (tenantId routeId : UUID) (body : RoutePatch) :
    RecordsStay db (patchRoute db tenantId routeId body).1 := by
  unfold patchRoute
  split
  · exact .refl db
  · split
    · exact .refl db
    · split
      · exact .refl db
      · refine ⟨fun r hr => ?_, fun m hm => ⟨m, hm, rfl⟩,
          fun m hm hstate => Or.inr ⟨m, hm, hstate, rfl, rfl⟩⟩
        have hnumber : ∀ r, (patch (ownRoute tenantId routeId) (Route.patched body) r).number =
            r.number := patch_proj fun r _ => rfl
        exact ⟨_, List.mem_map_of_mem hr, hnumber r⟩

/-- A whole request: its accepted send is logged, and its record has the number of the send. -/
theorem sendMessage_follow (inp : ApiInput) {tenantId : UUID} {rq : SendMessage}
    (hc : RetriesOnItsRoute env db tenantId rq) {accepted : List AcceptedSend}
    (hold : ∀ m ∈ db.apiMessages.rows, m.state = .sent → m.Truthful env db accepted) :
    (∃ Sent, RecordsFollow Sent db (sendMessage env db inp tenantId rq).db) ∧
      ∀ m ∈ (sendMessage env db inp tenantId rq).db.apiMessages.rows, m.state = .sent →
        m.Truthful env (sendMessage env db inp tenantId rq).db
          (acceptedInRequest env db inp tenantId (.sendMessage rq) ++ accepted) := by
  have hidle : (∃ Sent, RecordsFollow Sent db db) ∧
      ∀ m ∈ db.apiMessages.rows, m.state = .sent → m.Truthful env db accepted :=
    ⟨⟨fun _ => False, .refl db⟩, hold⟩
  unfold sendMessage
  simp only [acceptedInRequest]
  cases hkind : rq.body.kind with
  | none => exact hidle
  | some kind =>
    simp only
    cases hres : reserve db inp.newId inp.now tenantId rq kind with
    | error response => exact hidle
    | ok reserved =>
      obtain ⟨res, db'⟩ := reserved
      obtain ⟨hstay, hnumber⟩ := reserve_follow hc hres
      have hreserved := truthful_follow hold hstay (fun a ha => ha) fun _ _ hfalse => hfalse.elim
      simp only
      cases hd : decideSend env rq res with
      | answer response => exact ⟨⟨_, hstay⟩, hreserved⟩
      | send messageId phoneNumberId =>
        refine ⟨⟨_, hstay.trans (concludeSend_follow env db' inp.sentAt messageId _)⟩, ?_⟩
        apply concludeSend_truthful hreserved (hnumber messageId phoneNumberId hd)
        · intro a ha
          exact List.mem_append_right _ ha
        · intro wamid houtcome
          simp only [houtcome, acceptedBy]
          exact List.mem_append_left _ List.mem_cons_self

/-- The requests that send nothing keep numbers, links and sent records. -/
theorem handle_stay (env : Env) (db : Db) (inp : ApiInput) (tenantId : UUID) {op : Operation}
    (h : ∀ rq, op ≠ .sendMessage rq) : RecordsStay db (handle env db inp tenantId op).db := by
  cases op with
  | sendMessage rq => exact absurd rfl (h rq)
  | putContact body =>
    have htables := putContact_tables db inp tenantId body
    exact .of_eq (congrArg Db.routes htables :) (congrArg Db.apiMessages htables :)
  | patchContact contactId body =>
    have htables := patchContact_tables db tenantId contactId body
    exact .of_eq (congrArg Db.routes htables :) (congrArg Db.apiMessages htables :)
  | revokeContact contactId =>
    have htables := revokeContact_tables db tenantId contactId
    exact .of_eq (congrArg Db.routes htables :) (congrArg Db.apiMessages htables :)
  | createRoute body => exact createRoute_stay inp tenantId body
  | patchRoute routeId body => exact patchRoute_stay tenantId routeId body
  | listContacts _ _ _ => exact .refl db
  | getContact _ => exact .refl db
  | listRoutes => exact .refl db
  | getMessage _ => exact .refl db
  | listSessions _ _ _ _ => exact .refl db
  | getSession _ => exact .refl db

/-! ## Runs -/

section Runs

variable {ι : Type} [DecidableEq ι] {posts : ι → Post} {s s' : SendLog ι}

/-- A request in flight goes out through the number of its record's route, and an accepted send
that is about to be recorded is logged with it. -/
def SendPhase.Numbered (db : Db) (accepted : List AcceptedSend) : SendPhase → Prop
  | .inserting _ route => HasNumber db route.id route.phoneNumberId
  | .sending messageId phoneNumberId => RecordedNumber db messageId phoneNumberId
  | .recording messageId outcome => ∃ phoneNumberId, RecordedNumber db messageId phoneNumberId ∧
      ∀ wamid, outcome = .ok wamid → ⟨messageId, phoneNumberId, wamid⟩ ∈ accepted
  | .idle | .lost _ | .done _ => True

/-- What holds of the API and its log in every state of a run. -/
structure AuditInv (env : Env) (s : SendLog ι) : Prop where
  truthful : SentTruthfully env s
  numbered : ∀ i, (s.sends.phase i).Numbered s.db s.accepted

/-- What a request in flight knows survives what other requests do. -/
theorem SendPhase.Numbered.follow {l : SendPhase} {accepted accepted' : List AcceptedSend}
    (hl : l.Numbered db accepted) (h : RecordsFollow Sent db db')
    (hlog : ∀ a ∈ accepted, a ∈ accepted') : l.Numbered db' accepted' := by
  cases l with
  | inserting kind route => exact HasNumber.follow hl h
  | sending messageId phoneNumberId => exact RecordedNumber.follow hl h
  | recording messageId outcome =>
    obtain ⟨phoneNumberId, hnumber, hlogged⟩ := hl
    exact ⟨phoneNumberId, hnumber.follow h, fun wamid hw => hlog _ (hlogged wamid hw)⟩
  | idle => trivial
  | lost messageId => trivial
  | done response => trivial

/-- A step of one request. -/
theorem AuditInv.advance (hs : AuditInv env s) {i : ι} {shared : SendShared ι} {l : SendPhase}
    {accepted : List AcceptedSend} (hfollow : RecordsFollow Sent s.db shared.db)
    (hlog : ∀ a ∈ s.accepted, a ∈ accepted)
    (htruthful : ∀ m ∈ shared.db.apiMessages.rows, m.state = .sent →
      m.Truthful env shared.db accepted)
    (hl : l.Numbered shared.db accepted) :
    AuditInv env ⟨s.sends.advance i shared l, accepted⟩ where
  truthful := htruthful
  numbered := Processes.forall_phase_advance
    (fun _ l => SendPhase.Numbered shared.db accepted l) hl
    fun j _ => (hs.numbered j).follow hfollow hlog

/-- The phase after a reservation that decides to send. -/
theorem phaseOfDecision_numbered {d : Decision} {accepted : List AcceptedSend}
    (h : ∀ messageId phoneNumberId, d = .send messageId phoneNumberId →
      RecordedNumber db messageId phoneNumberId) : (phaseOfDecision d).Numbered db accepted := by
  cases d with
  | answer response => trivial
  | send messageId phoneNumberId => exact h messageId phoneNumberId rfl

/-- The phase after the lookups of a request that keeps to its route. -/
theorem phaseOfSelect_numbered {p : Post} (hc : RetriesOnItsRoute env db p.tenantId p.message)
    (accepted : List AcceptedSend) : (phaseOfSelect env db p).Numbered db accepted := by
  unfold phaseOfSelect
  split
  · trivial
  · split
    · trivial
    · rename_i route hs
      exact reserveSelect_number hs
    · rename_i route m hs
      apply phaseOfDecision_numbered
      intro messageId phoneNumberId hsend
      exact hc.number hs hsend

/-- The phase after an answer of Meta whose acceptance is logged. -/
theorem phaseOfAnswer_numbered {messageId : UUID} {phoneNumberId : String} {outcome : SendOutcome}
    {flag : Bool} {accepted : List AcceptedSend}
    (hnumber : RecordedNumber db messageId phoneNumberId) :
    (phaseOfAnswer messageId outcome flag).Numbered db
      (acceptedBy messageId phoneNumberId outcome ++ accepted) := by
  cases outcome with
  | raised => cases flag <;> trivial
  | failed code message retryable =>
    exact ⟨phoneNumberId, hnumber, fun _ h => SendOutcome.noConfusion h⟩
  | ok wamid =>
    refine ⟨phoneNumberId, hnumber, fun wamid' h => ?_⟩
    cases h
    exact List.mem_append_left _ List.mem_cons_self

theorem phaseOfRecord_numbered {messageId : UUID} {outcome : SendOutcome} {response : Response}
    {accepted : List AcceptedSend} :
    (phaseOfRecord messageId outcome response).Numbered db accepted := by
  unfold phaseOfRecord
  split <;> trivial

/-- A step of a request that keeps to its route. -/
theorem sendStep_auditInv {a : SendAction ι} {c : Sends ι} (hs : AuditInv env s)
    (hc : KeepsRecordedRoute env posts s (.send a)) (h : sendStep env posts s.sends a = some c) :
    AuditInv env ⟨c, acceptedInStep s.sends a ++ s.accepted⟩ := by
  have hself : ∀ a ∈ s.accepted, a ∈ s.accepted := fun _ ha => ha
  cases sendStep_moves h with
  | select i hi =>
    exact hs.advance (RecordsStay.refl s.db) hself hs.truthful
      (phaseOfSelect_numbered (hc _ rfl) s.accepted)
  | refuse i newId now hi hres => exact hs.advance (RecordsStay.refl s.db) hself hs.truthful trivial
  | @insert i newId now kind route res db hi hres =>
    have hroute : HasNumber s.db route.id route.phoneNumberId := by
      have hnumbered := hs.numbered i
      rwa [hi] at hnumbered
    obtain ⟨hstay, hnumber⟩ := reserveInsert_follow hroute hres
    exact hs.advance hstay hself
      (truthful_follow hs.truthful hstay hself fun _ _ hfalse => hfalse.elim)
      (phaseOfDecision_numbered hnumber)
  | @answer i outcome accepted messageId number hi hallow =>
    have hnumber : RecordedNumber s.db messageId number := by
      have hnumbered := hs.numbered i
      rwa [hi] at hnumbered
    have hlog : ∀ a ∈ s.accepted, a ∈ acceptedBy messageId number outcome ++ s.accepted :=
      fun a ha => List.mem_append_right _ ha
    simp only [acceptedInStep, hi]
    refine hs.advance (RecordsStay.refl s.db) hlog ?_ (phaseOfAnswer_numbered hnumber)
    exact truthful_follow hs.truthful (RecordsStay.refl s.db) hlog fun _ _ hfalse => hfalse.elim
  | @record i now messageId outcome hi =>
    have hrecording := hs.numbered i
    rw [hi] at hrecording
    obtain ⟨number, hnumber, hlogged⟩ := hrecording
    exact hs.advance (concludeSend_follow env s.db now messageId outcome) hself
      (concludeSend_truthful hs.truthful hnumber hself hlogged) phaseOfRecord_numbered

/-- A step of the API whose retries keep to the routes of their records. -/
theorem auditStep_inv {a : AuditAction ι} (hs : AuditInv env s)
    (hc : KeepsRecordedRoute env posts s a) (h : auditStep env posts s a = some s') :
    AuditInv env s' := by
  cases a with
  | send a =>
    obtain ⟨c, hstep, rfl⟩ := Option.map_eq_some_iff.mp h
    exact sendStep_auditInv hs hc hstep
  | request inp tenantId op =>
    cases h
    have hlog : ∀ a ∈ s.accepted, a ∈ acceptedInRequest env s.db inp tenantId op ++ s.accepted :=
      fun a ha => List.mem_append_right _ ha
    by_cases hsend : ∃ rq, op = .sendMessage rq
    · obtain ⟨rq, rfl⟩ := hsend
      obtain ⟨⟨Sent, hfollow⟩, htruthful⟩ := sendMessage_follow inp (hc _ rfl) hs.truthful
      exact ⟨htruthful, fun i => (hs.numbered i).follow hfollow hlog⟩
    · have hstay := handle_stay env s.db inp tenantId fun rq heq => hsend ⟨rq, heq⟩
      exact ⟨truthful_follow hs.truthful hstay hlog fun _ _ hfalse => hfalse.elim,
        fun i => (hs.numbered i).follow hstay hlog⟩

omit [DecidableEq ι] in
theorem auditStart_inv (db : Db) : AuditInv env (auditStart db : SendLog ι) :=
  ⟨fun _ hm => absurd hm List.not_mem_nil, fun _ => trivial⟩

/-- In every run whose retries of failed records keep to the recorded routes, each sent record
has the wamid of an accepted send for it, and the route whose number that send went out
through. -/
theorem sent_records_truthful {db : Db} {actions : List (AuditAction ι)}
    (h : run (auditStep env posts) (auditStart db) actions = some s)
    (hc : Meets (auditStep env posts) (KeepsRecordedRoute env posts) (auditStart db) actions) :
    SentTruthfully env s :=
  (run_preserves_of_meets (AuditInv env) (fun _ _ _ hs hc ha => auditStep_inv hs hc ha) h hc
    (auditStart_inv db)).truthful

end Runs

/-! ## A retry after the first route was deactivated -/

/-- A request with a key fails, and after the steps between it is repeated and accepted. -/
def retryAfter (between : List (AuditAction (Fin 2))) : List (AuditAction (Fin 2)) :=
  .request ⟨3, 3, 10, fun _ => metaDown⟩ 2 (.sendMessage keyedPost.message) :: between ++
    [.request ⟨6, 6, 11, fun _ => .ok (.str "wamid.1")⟩ 2 (.sendMessage keyedPost.message)]

/-- The tenant gets a second number, and its first one is deactivated. -/
def firstDeactivated : List (AuditAction (Fin 2)) :=
  [.request ⟨4, 4, 20, fun _ => .raised⟩ 2 (.createRoute ⟨"PN2", "+91 99999 00002", none⟩),
    .request ⟨5, 5, 5, fun _ => .raised⟩ 2 (.patchRoute 1 ⟨some false, none, none⟩)]

/-- A retry through the same route, whose record tells the truth. -/
theorem retry_truthful :
    ∃ s, run (auditStep (.ofRecording "s" []) fun _ => keyedPost) (auditStart routedDb)
        (retryAfter []) = some s ∧ s.accepted.map (·.phoneNumberId) = ["PN1"] ∧
      SentTruthfully (.ofRecording "s" []) s := by
  have hview : (run (auditStep (.ofRecording "s" []) fun _ => keyedPost) (auditStart routedDb)
      (retryAfter [])).map (fun s => s.accepted.map (·.phoneNumberId)) = some ["PN1"] := by
    decide
  obtain ⟨s, hs, haccepted⟩ := Option.map_eq_some_iff.mp hview
  exact ⟨s, hs, haccepted, sent_records_truthful hs (by decide)⟩

/-- The repeated request goes out through the second number, and its record keeps the route of
the first. -/
theorem retry_untruthful :
    ∃ s, run (auditStep (.ofRecording "s" []) fun _ => keyedPost) (auditStart routedDb)
        (retryAfter firstDeactivated) = some s ∧ ¬ SentTruthfully (.ofRecording "s" []) s := by
  have hview : (run (auditStep (.ofRecording "s" []) fun _ => keyedPost) (auditStart routedDb)
      (retryAfter firstDeactivated)).map (fun s =>
        decide (SentTruthfully (.ofRecording "s" []) s)) = some false := by decide
  obtain ⟨s, hs, hfalse⟩ := Option.map_eq_some_iff.mp hview
  exact ⟨s, hs, of_decide_eq_false hfalse⟩

end WaService
