import Mathlib.Data.Fintype.Basic
import WaService.System.Sends

/-!
# One accepted send per idempotency key

A request holds a record from the moment it reserves it until the outcome is
written, and for good when Meta's acceptance could not be written. As long as no
request finds a record failed that another request holds, holding is exclusive, an
accepted send is followed by the state `sent`, and nothing leaves that state.
-/

namespace WaService

open Python Relational Transition

variable {ι : Type} [DecidableEq ι] {env : Env} {posts : ι → Post}
  {c c' : Sends ι}

/-! ## Holding a record -/

/-- The request has reserved the record and not yet written an outcome to it. -/
def SendPhase.holds : SendPhase → UUID → Prop
  | .sending messageId _, id => messageId = id
  | .recording messageId _, id => messageId = id
  | .lost messageId, id => messageId = id
  | _, _ => False

/-- Meta has accepted the request's send and the record does not say so. -/
def SendPhase.unrecorded : SendPhase → UUID → Prop
  | .recording messageId (.ok _), id => messageId = id
  | .lost messageId, id => messageId = id
  | _, _ => False

theorem SendPhase.holds_of_unrecorded {l : SendPhase} {id : UUID} (h : l.unrecorded id) :
    l.holds id := by
  unfold SendPhase.unrecorded at h
  split at h
  · exact h
  · exact h
  · contradiction

/-- No request holds the record that this phase is about to send for. -/
def NotHeld (c : Sends ι) : SendPhase → Prop
  | .sending messageId _ => ∀ j, ¬ (c.phase j).holds messageId
  | _ => True

instance SendPhase.decidableHolds : (l : SendPhase) → (id : UUID) → Decidable (l.holds id)
  | .idle, _ => inferInstanceAs (Decidable False)
  | .inserting _ _, _ => inferInstanceAs (Decidable False)
  | .sending m _, id => inferInstanceAs (Decidable (m = id))
  | .recording m _, id => inferInstanceAs (Decidable (m = id))
  | .lost m, id => inferInstanceAs (Decidable (m = id))
  | .done _, _ => inferInstanceAs (Decidable False)

instance NotHeld.decidable [Fintype ι] : (l : SendPhase) → Decidable (NotHeld c l)
  | .idle => inferInstanceAs (Decidable True)
  | .inserting _ _ => inferInstanceAs (Decidable True)
  | .sending m _ => inferInstanceAs (Decidable (∀ j, ¬ (c.phase j).holds m))
  | .recording _ _ => inferInstanceAs (Decidable True)
  | .lost _ => inferInstanceAs (Decidable True)
  | .done _ => inferInstanceAs (Decidable True)

/-- No lookup of `_reserve` takes a failed record for a retry while another request
holds that record. -/
def NoOverlap (env : Env) (posts : ι → Post) (c : Sends ι) :
    SendAction ι → Prop
  | .select i => NotHeld c (phaseOfSelect env c.shared.db (posts i))
  | _ => True

instance NoOverlap.decidable [Fintype ι] (c : Sends ι) :
    (a : SendAction ι) → Decidable (NoOverlap env posts c a)
  | .select i => inferInstanceAs (Decidable (NotHeld c (phaseOfSelect env c.shared.db (posts i))))
  | .insert _ _ _ => inferInstanceAs (Decidable True)
  | .answer _ _ _ => inferInstanceAs (Decidable True)
  | .record _ _ => inferInstanceAs (Decidable True)

/-- The idempotency key of a request within its tenant. -/
def Post.idempotencyIndex (p : Post) : Option (UUID × String) :=
  p.message.idempotencyKey.map fun k => (p.tenantId, k)

/-- What holds in every state of a run without overlaps. -/
structure SendInv (posts : ι → Post) (c : Sends ι) : Prop where
  /-- A record has at most one holder. -/
  exclusive : Processes.Exclusive SendPhase.holds c
  /-- A held record exists, carries the key of its holder, and is not sent. -/
  reserved : ∀ i id, (c.phase i).holds id → ∃ m, messageById c.shared.db id = some m ∧
    m.idempotencyIndex = (posts i).idempotencyIndex ∧ m.state ≠ .sent
  /-- An accepted send is on record as sent, or its request still has to write it. -/
  settled : ∀ p ∈ c.shared.accepted, ∃ m, messageById c.shared.db p.2 = some m ∧
    m.idempotencyIndex = (posts p.1).idempotencyIndex ∧
      (m.state = .sent ∨ (c.phase p.1).unrecorded p.2)
  /-- No record has two accepted sends. -/
  once : (c.shared.accepted.map Prod.snd).Nodup

/-! ## What one step does -/

/-- The lookups of `_reserve` end the request, lead to an insert, or take a failed record
of the same key for a retry. -/
theorem phaseOfSelect_cases (env : Env) (db : Db) (p : Post) :
    (∃ r, phaseOfSelect env db p = .done r) ∨
      (∃ kind route, phaseOfSelect env db p = .inserting kind route) ∨
      ∃ m number, phaseOfSelect env db p = .sending m.id number ∧
        messageById db m.id = some m ∧ m.idempotencyIndex = p.idempotencyIndex ∧
          m.state = .failed := by
  unfold phaseOfSelect
  split
  · exact Or.inl ⟨_, rfl⟩
  · split
    · exact Or.inl ⟨_, rfl⟩
    · exact Or.inr (Or.inl ⟨_, _, rfl⟩)
    · rename_i route m hs
      cases hd : decideSend env p.message (.existing m route.phoneNumberId) with
      | answer response => exact Or.inl ⟨_, rfl⟩
      | send messageId number =>
        obtain ⟨rfl, hfailed⟩ := decideSend_existing hd
        obtain ⟨hmem, ht, hk⟩ := existingRecord_eq_some (reserveSelect_eq_ok hs).2
        refine Or.inr (Or.inr ⟨m, number, rfl, messageById_eq_some.mpr ⟨hmem, rfl⟩, ?_, hfailed⟩)
        rw [ApiMessage.idempotencyIndex, Post.idempotencyIndex, ht, hk]

/-- An insert adds its row and changes no other lookup. -/
theorem messageById_insert {db : Db} {messages : Table ApiMessage} {new : ApiMessage}
    (h : db.apiMessages.insert? new = some messages) {id : UUID} :
    messageById { db with apiMessages := messages } id =
      (messageById db id).or (if new.id = id then some new else none) := by
  unfold messageById
  simp only [Table.rows_of_insert? h, List.find?_append, List.find?_singleton, beq_iff_eq]

/-- A new row has an id that no row had. -/
theorem messageById_new {db : Db} {messages : Table ApiMessage} {new : ApiMessage}
    (h : db.apiMessages.insert? new = some messages) : messageById db new.id = none := by
  cases hm : messageById db new.id with
  | none => rfl
  | some m =>
    obtain ⟨hmem, hid⟩ := messageById_eq_some.mp hm
    have hc := (Table.insert?_eq_some.mp h).1 m hmem
    simp [clash, sameKey, hid] at hc

/-- A step keeps the invariant when it takes only free records, leaves the rows of other
holders alone, and accounts for every accepted send. -/
theorem SendInv.advance (hc : SendInv posts c) {i : ι} {s : SendShared ι} {l : SendPhase}
    (hnew : ∀ id, l.holds id → (c.phase i).holds id ∨ ∀ j, ¬ (c.phase j).holds id)
    (hheld : ∀ id, l.holds id → ∃ m, messageById s.db id = some m ∧
      m.idempotencyIndex = (posts i).idempotencyIndex ∧ m.state ≠ .sent)
    (hkeep : ∀ j, j ≠ i → ∀ id, (c.phase j).holds id →
      messageById s.db id = messageById c.shared.db id)
    (hlog : ∀ p ∈ s.accepted, ∃ m, messageById s.db p.2 = some m ∧
      m.idempotencyIndex = (posts p.1).idempotencyIndex ∧
        (m.state = .sent ∨ ((c.advance i s l).phase p.1).unrecorded p.2))
    (hnodup : (s.accepted.map Prod.snd).Nodup) : SendInv posts (c.advance i s l) where
  exclusive := hc.exclusive.advance hnew
  reserved := by
    refine Processes.forall_phase_advance (fun j (l : SendPhase) => ∀ id, l.holds id →
      ∃ m, messageById s.db id = some m ∧
        m.idempotencyIndex = (posts j).idempotencyIndex ∧ m.state ≠ .sent) hheld ?_
    intro j hj id hid
    rw [hkeep j hj id hid]
    exact hc.reserved j id hid
  settled := hlog
  once := hnodup

/-- The account of an accepted send survives a step of a request that had nothing
unrecorded, if the row survives it. -/
theorem SendInv.account (hc : SendInv posts c) {i : ι} {s : SendShared ι} {l : SendPhase}
    (hi : ∀ id, ¬ (c.phase i).unrecorded id) {p : ι × UUID} (hp : p ∈ c.shared.accepted)
    (hrow : messageById s.db p.2 = messageById c.shared.db p.2) :
    ∃ m, messageById s.db p.2 = some m ∧
      m.idempotencyIndex = (posts p.1).idempotencyIndex ∧
        (m.state = .sent ∨ ((c.advance i s l).phase p.1).unrecorded p.2) := by
  obtain ⟨m, hm, hindex, hsent⟩ := hc.settled p hp
  refine ⟨m, hrow.trans hm, hindex, hsent.imp_right fun hu => ?_⟩
  have hne : p.1 ≠ i := by
    intro he
    rw [he] at hu
    exact hi p.2 hu
  rwa [Processes.advance_phase_of_ne hne]

/-- A step that reserves nothing and has nothing to write. -/
theorem SendInv.idle (hc : SendInv posts c) {i : ι} {l : SendPhase}
    (hi : ∀ id, ¬ (c.phase i).unrecorded id) (hl : ∀ id, ¬ l.holds id) :
    SendInv posts (c.advance i c.shared l) :=
  hc.advance (fun id h => absurd h (hl id)) (fun id h => absurd h (hl id)) (fun _ _ _ _ => rfl)
    (fun _ hp => hc.account hi hp rfl) hc.once

theorem SendInv.select (hc : SendInv posts c) {i : ι} (hi : c.phase i = .idle)
    (hfree : NoOverlap env posts c (.select i)) :
    SendInv posts (c.advance i c.shared (phaseOfSelect env c.shared.db (posts i))) := by
  rcases phaseOfSelect_cases env c.shared.db (posts i) with
    ⟨r, he⟩ | ⟨kind, route, he⟩ | ⟨m, number, he, hm, hindex, hfailed⟩
  · rw [he]
    exact hc.idle (by simp [hi, SendPhase.unrecorded]) fun _ => id
  · rw [he]
    exact hc.idle (by simp [hi, SendPhase.unrecorded]) fun _ => id
  · rw [NoOverlap, he] at hfree
    rw [he]
    refine hc.advance ?_ ?_ (fun _ _ _ _ => rfl) ?_ hc.once
    · rintro id rfl
      exact Or.inr hfree
    · rintro id rfl
      exact ⟨m, hm, hindex, by simp [hfailed]⟩
    · exact fun p hp => hc.account (by simp [hi, SendPhase.unrecorded]) hp rfl

theorem SendInv.insert (hc : SendInv posts c) {i : ι} {kind : MessageKind} {route : Route}
    (hi : c.phase i = .inserting kind route) {newId : UUID} {now : Timestamp} {number : String}
    {messages : Table ApiMessage}
    (hins : c.shared.db.apiMessages.insert?
      (newMessage newId now (posts i).tenantId route.id (posts i).message kind) = some messages) :
    SendInv posts (c.advance i { c.shared with db := { c.shared.db with apiMessages := messages } }
      (.sending newId number)) := by
  have hnone : messageById c.shared.db newId = none := messageById_new hins
  have hold : ∀ id m, messageById c.shared.db id = some m →
      messageById { c.shared.db with apiMessages := messages } id = some m := by
    intro id m hm
    rw [messageById_insert hins, hm]
    rfl
  refine hc.advance ?_ ?_ ?_ ?_ hc.once
  · rintro id rfl
    apply Or.inr
    intro j hj
    obtain ⟨m, hm, -⟩ := hc.reserved j newId hj
    rw [hnone] at hm
    contradiction
  · rintro id rfl
    refine ⟨newMessage newId now (posts i).tenantId route.id (posts i).message kind, ?_, rfl, nofun⟩
    rw [messageById_insert hins, hnone]
    exact if_pos rfl
  · intro j _ id hid
    obtain ⟨m, hm, -⟩ := hc.reserved j id hid
    exact (hold id m hm).trans hm.symm
  · intro p hp
    obtain ⟨m, hm, -⟩ := hc.settled p hp
    exact hc.account (by simp [hi, SendPhase.unrecorded]) hp ((hold p.2 m hm).trans hm.symm)

/-- What the phase after an answer holds is the record the request held. -/
theorem phaseOfAnswer_holds {messageId id : UUID} {outcome : SendOutcome} {accepted : Bool}
    (h : (phaseOfAnswer messageId outcome accepted).holds id) : messageId = id := by
  unfold phaseOfAnswer at h
  split at h
  · exact h
  · exact h.elim
  · exact h

/-- After an accepted answer the record is held with the acceptance still to be written. -/
theorem phaseOfAnswer_unrecorded {messageId : UUID} {outcome : SendOutcome}
    (h : outcome.allows true = true) :
    (phaseOfAnswer messageId outcome true).unrecorded messageId := by
  cases outcome with
  | ok wamid => rfl
  | failed code message retryable => simp [SendOutcome.allows] at h
  | raised => rfl

omit [DecidableEq ι] in
/-- No accepted send is on the log for a record that is about to be sent for. -/
theorem SendInv.notMem_of_sending (hc : SendInv posts c) {i : ι}
    {messageId : UUID} {number : String}
    (hi : c.phase i = .sending messageId number) :
    messageId ∉ c.shared.accepted.map Prod.snd := by
  intro hmem
  obtain ⟨p, hp, rfl⟩ := List.mem_map.mp hmem
  have hhold : (c.phase i).holds p.2 := by rw [hi]; rfl
  obtain ⟨m, hm, -, hnot⟩ := hc.reserved i p.2 hhold
  obtain ⟨m', hm', -, hsent | hu⟩ := hc.settled p hp
  · rw [hm] at hm'
    cases hm'
    exact hnot hsent
  · have he := hc.exclusive p.1 i p.2 (SendPhase.holds_of_unrecorded hu) hhold
    rw [he, hi] at hu
    exact hu

theorem SendInv.answer (hc : SendInv posts c) {i : ι} {messageId : UUID} {number : String}
    (hi : c.phase i = .sending messageId number) {outcome : SendOutcome} {accepted : Bool}
    (hallow : outcome.allows accepted = true) :
    SendInv posts (c.advance i
      ⟨c.shared.db, if accepted then (i, messageId) :: c.shared.accepted else c.shared.accepted⟩
      (phaseOfAnswer messageId outcome accepted)) := by
  have hhold : ∀ id, messageId = id → (c.phase i).holds id := by
    rintro id rfl
    rw [hi]
    rfl
  have hidle : ∀ id, ¬ (c.phase i).unrecorded id := by simp [hi, SendPhase.unrecorded]
  refine hc.advance ?_ ?_ (fun _ _ _ _ => rfl) ?_ ?_
  · exact fun id hid => Or.inl (hhold id (phaseOfAnswer_holds hid))
  · exact fun id hid => hc.reserved i id (hhold id (phaseOfAnswer_holds hid))
  · intro p hp
    cases accepted with
    | false => exact hc.account hidle hp rfl
    | true =>
      rcases List.mem_cons.mp hp with rfl | hp
      · obtain ⟨m, hm, hindex, -⟩ := hc.reserved i messageId (hhold messageId rfl)
        refine ⟨m, hm, hindex, Or.inr ?_⟩
        rw [Processes.advance_phase_self]
        exact phaseOfAnswer_unrecorded hallow
      · exact hc.account hidle hp rfl
  · cases accepted with
    | false => exact hc.once
    | true =>
      rw [if_pos rfl, List.map_cons, List.nodup_cons]
      exact ⟨hc.notMem_of_sending hi, hc.once⟩

/-! ## Writing the outcome -/

/-- What writing an outcome does for a stored record: nothing after an exception, and
otherwise one update of the record, to `sent` exactly when the send was accepted. -/
theorem concludeSend_cases (env : Env) {db : Db} (now : Timestamp) {messageId : UUID}
    (outcome : SendOutcome) {m : ApiMessage} (hm : messageById db messageId = some m) :
    ((concludeSend env db now messageId outcome).1 = db ∧
        (concludeSend env db now messageId outcome).2 = .raised) ∨
      ∃ f, ∃ hf : ∀ m, (f m).id = m.id ∧ (f m).tenantId = m.tenantId ∧
          (f m).idempotencyKey = m.idempotencyKey,
        (concludeSend env db now messageId outcome).1 =
            db.updateApiMessages (fun m => m.id == messageId) f hf ∧
          (concludeSend env db now messageId outcome).2 ≠ .raised ∧
          ((∃ wamid, outcome = .ok wamid) → ∀ m, (f m).state = .sent) := by
  cases outcome with
  | raised => exact Or.inl ⟨rfl, rfl⟩
  | failed code message retryable =>
    simp only [concludeSend, recordFail]
    cases failTexts env code message with
    | error e => exact Or.inl ⟨rfl, rfl⟩
    | ok texts =>
      refine Or.inr ⟨ApiMessage.fail texts retryable, fun _ => ⟨rfl, rfl, rfl⟩, rfl, ?_, ?_⟩
      · simp
      · rintro ⟨wamid, hok⟩
        contradiction
  | ok wamid =>
    simp only [concludeSend, recordOk]
    cases sqlText env wamid with
    | error e => exact Or.inl ⟨rfl, rfl⟩
    | ok text =>
      refine Or.inr ⟨ApiMessage.succeed text now, fun _ => ⟨rfl, rfl, rfl⟩, ?_⟩
      simp only [bind, Except.bind, pure, Except.pure]
      rw [messageById_update, hm]
      refine ⟨rfl, ?_, fun _ _ => rfl⟩
      simp

/-- Without an exception the record is given back. -/
theorem phaseOfRecord_done {messageId : UUID} {outcome : SendOutcome} {response : Response}
    (h : response ≠ .raised ∨ ¬ ∃ wamid, outcome = .ok wamid) :
    phaseOfRecord messageId outcome response = .done response := by
  unfold phaseOfRecord
  split
  · rename_i wamid
    rcases h with h | h
    · exact absurd rfl h
    · exact absurd ⟨wamid, rfl⟩ h
  · rfl

/-- A request that gives its record back has accounted for its send. -/
theorem SendInv.release (hc : SendInv posts c) {i : ι} {messageId : UUID} {outcome : SendOutcome}
    (hi : c.phase i = .recording messageId outcome) {db : Db} {r : Response}
    (hother : ∀ id, id ≠ messageId → messageById db id = messageById c.shared.db id)
    (hsent : (∃ wamid, outcome = .ok wamid) → ∃ m m', messageById c.shared.db messageId = some m ∧
      messageById db messageId = some m' ∧ m'.idempotencyIndex = m.idempotencyIndex ∧
        m'.state = .sent) :
    SendInv posts (c.advance i { c.shared with db := db } (.done r)) := by
  have hhold : (c.phase i).holds messageId := by
    rw [hi]
    rfl
  refine hc.advance (fun _ h => h.elim) (fun _ h => h.elim) ?_ ?_ hc.once
  · intro j hj id hid
    refine hother id fun he => hj ?_
    rw [he] at hid
    exact hc.exclusive j i messageId hid hhold
  · intro p hp
    obtain ⟨m, hm, hindex, hstate⟩ := hc.settled p hp
    by_cases hpid : p.2 = messageId
    · -- The acceptance of this record is either this request's own, or already on record.
      rw [hpid] at hm hstate
      obtain ⟨m₀, hm₀, -, hnot⟩ := hc.reserved i messageId hhold
      rw [hm] at hm₀
      cases hm₀
      have hu := hstate.resolve_left hnot
      have hpi := hc.exclusive p.1 i messageId (SendPhase.holds_of_unrecorded hu) hhold
      rw [hpi, hi] at hu
      have hok : ∃ wamid, outcome = .ok wamid := by
        unfold SendPhase.unrecorded at hu
        split at hu <;> simp_all
      obtain ⟨m₁, m', hm₁, hm', hindex', hsent'⟩ := hsent hok
      rw [hm] at hm₁
      cases hm₁
      exact ⟨m', by rw [hpid]; exact hm', hindex'.trans hindex, Or.inl hsent'⟩
    · refine ⟨m, (hother p.2 hpid).trans hm, hindex, hstate.imp_right fun hu => ?_⟩
      have hpi : p.1 ≠ i := by
        intro he
        rw [he, hi] at hu
        have hrec := SendPhase.holds_of_unrecorded hu
        exact hpid hrec.symm
      rwa [Processes.advance_phase_of_ne hpi]

theorem SendInv.record (hc : SendInv posts c) {i : ι} {messageId : UUID} {outcome : SendOutcome}
    (hi : c.phase i = .recording messageId outcome) (now : Timestamp) :
    SendInv posts (c.advance i
      { c.shared with db := (concludeSend env c.shared.db now messageId outcome).1 }
      (phaseOfRecord messageId outcome
        (concludeSend env c.shared.db now messageId outcome).2)) := by
  have hhold : (c.phase i).holds messageId := by
    rw [hi]
    rfl
  obtain ⟨m, hm, hindex, hnot⟩ := hc.reserved i messageId hhold
  rcases concludeSend_cases env now outcome hm with ⟨hdb, hresp⟩ | ⟨f, hf, hdb, hresp, hsent⟩
  · rw [hdb, hresp]
    by_cases hok : ∃ wamid, outcome = .ok wamid
    · -- The acceptance stays unrecorded, and the record stays held.
      obtain ⟨wamid, rfl⟩ := hok
      have hsame : ∀ id, (SendPhase.lost messageId).holds id → (c.phase i).holds id := by
        rintro id rfl
        exact hhold
      refine hc.advance (fun id hid => Or.inl (hsame id hid))
        (fun id hid => hc.reserved i id (hsame id hid)) (fun _ _ _ _ => rfl) ?_ hc.once
      intro p hp
      obtain ⟨m, hm, hindex, hstate⟩ := hc.settled p hp
      refine ⟨m, hm, hindex, hstate.imp_right fun hu => ?_⟩
      by_cases hpi : p.1 = i
      · rw [hpi, hi] at hu
        rw [hpi, Processes.advance_phase_self]
        exact hu
      · rwa [Processes.advance_phase_of_ne hpi]
    · rw [phaseOfRecord_done (Or.inr hok)]
      exact hc.release hi (fun _ _ => rfl) fun h => absurd h hok
  · rw [hdb, phaseOfRecord_done (Or.inl hresp)]
    refine hc.release hi (fun id hid => ?_) fun hok => ?_
    · rw [messageById_update, if_neg hid]
      exact Option.map_id'
    · refine ⟨m, f m, hm, ?_, ?_, hsent hok m⟩
      · rw [messageById_update, if_pos rfl, hm]
        rfl
      · rw [ApiMessage.idempotencyIndex, ApiMessage.idempotencyIndex, (hf m).2.1, (hf m).2.2]

/-! ## Runs -/

/-- Every step without an overlap keeps the invariant. -/
theorem sendStep_inv {a : SendAction ι} (hc : SendInv posts c) (hfree : NoOverlap env posts c a)
    (h : sendStep env posts c a = some c') : SendInv posts c' := by
  cases sendStep_moves h with
  | select i hi => exact hc.select hi hfree
  | refuse i newId now hi hres => exact hc.idle (by simp [hi, SendPhase.unrecorded]) fun _ => id
  | insert i newId now hi hres =>
    obtain ⟨messages, hins, rfl, rfl⟩ := reserveInsert_eq_ok hres
    exact hc.insert hi hins
  | answer i outcome accepted hi hallow => exact hc.answer hi hallow
  | record i now hi => exact hc.record hi now

/-- A record that is sent stays sent in a step, because no holder can write to it. -/
theorem sendStep_sent {a : SendAction ι} (hc : SendInv posts c)
    (h : sendStep env posts c a = some c') {id : UUID}
    (hsent : ∃ m, messageById c.shared.db id = some m ∧ m.state = .sent) :
    ∃ m, messageById c'.shared.db id = some m ∧ m.state = .sent := by
  obtain ⟨m, hm, hstate⟩ := hsent
  cases sendStep_moves h with
  | select i hi => exact ⟨m, hm, hstate⟩
  | refuse i newId now hi hres => exact ⟨m, hm, hstate⟩
  | insert i newId now hi hres =>
    obtain ⟨messages, hins, rfl, rfl⟩ := reserveInsert_eq_ok hres
    refine ⟨m, ?_, hstate⟩
    rw [Processes.advance_shared, messageById_insert hins, hm]
    rfl
  | answer i outcome accepted hi hallow => exact ⟨m, hm, hstate⟩
  | @record i now messageId outcome hi =>
    have hhold : (c.phase i).holds messageId := by
      rw [hi]
      rfl
    obtain ⟨m₀, hm₀, -, hnot⟩ := hc.reserved i messageId hhold
    have hne : id ≠ messageId := by
      rintro rfl
      rw [hm] at hm₀
      cases hm₀
      exact hnot hstate
    rw [Processes.advance_shared]
    rcases concludeSend_cases env now outcome hm₀ with ⟨hdb, -⟩ | ⟨f, hf, hdb, -⟩
    · exact ⟨m, by rw [hdb]; exact hm, hstate⟩
    · refine ⟨m, ?_, hstate⟩
      rw [hdb, messageById_update, if_neg hne, hm]
      rfl

omit [DecidableEq ι] in
/-- Nothing is held or sent when the requests start. -/
theorem sendStart_inv (db : Db) : SendInv posts (sendStart db) where
  exclusive _ _ _ h := h.elim
  reserved _ _ h := h.elim
  settled _ h := absurd h List.not_mem_nil
  once := List.nodup_nil

/-- The accepted sends of the requests that carry a key of a tenant. -/
def acceptedSends (posts : ι → Post) (accepted : List (ι × UUID)) (tenantId : UUID) (key : String) :
    List (ι × UUID) :=
  accepted.filter fun p => (posts p.1).idempotencyIndex == some (tenantId, key)

omit [DecidableEq ι] in
/-- Under the invariant a key has at most one accepted send. -/
theorem SendInv.acceptedSends_le (hc : SendInv posts c) (tenantId : UUID) (key : String) :
    (acceptedSends posts c.shared.accepted tenantId key).length ≤ 1 := by
  have hone : ∀ p ∈ acceptedSends posts c.shared.accepted tenantId key, ∃ m,
      messageById c.shared.db p.2 = some m ∧ m.idempotencyIndex = some (tenantId, key) := by
    intro p hp
    obtain ⟨hmem, hkey⟩ := List.mem_filter.mp hp
    obtain ⟨m, hm, hindex, -⟩ := hc.settled p hmem
    exact ⟨m, hm, hindex.trans (by simpa using hkey)⟩
  have hnodup : ((acceptedSends posts c.shared.accepted tenantId key).map Prod.snd).Nodup :=
    hc.once.sublist (List.filter_sublist.map _)
  match hl : acceptedSends posts c.shared.accepted tenantId key with
  | [] => simp
  | [_] => simp
  | p :: q :: rest =>
    -- Two entries would be sends of one record, the row with this key.
    rw [hl] at hone hnodup
    obtain ⟨m, hm, hkm⟩ := hone p (by simp)
    obtain ⟨n, hn, hkn⟩ := hone q (by simp)
    obtain ⟨hmem, hmid⟩ := messageById_eq_some.mp hm
    obtain ⟨hnem, hnid⟩ := messageById_eq_some.mp hn
    have heq : m = n := Table.eq_of_clash hmem hnem (by simp [clash, hkm, hkn, sameKey])
    have hid : p.2 = q.2 := by rw [← hmid, ← hnid, heq]
    simp [hid] at hnodup

/-- What an idempotency key promises, between two states of a run: Meta accepts at most
one send for it, and a record that is sent stays sent. -/
structure SendsOnce (posts : ι → Post) (c c' : Sends ι) : Prop where
  accepted : ∀ tenantId key, (acceptedSends posts c'.shared.accepted tenantId key).length ≤ 1
  sent : ∀ id m, messageById c.shared.db id = some m → m.state = .sent →
    ∃ m', messageById c'.shared.db id = some m' ∧ m'.state = .sent

/-- In every run whose lookups never take a held record for a retry, each key has at
most one accepted send and no record leaves the state `sent`. -/
theorem sends_once_without_overlap (env : Env) (posts : ι → Post) {db : Db}
    {before after : List (SendAction ι)}
    (h : run (sendStep env posts) (sendStart db) before = some c)
    (h' : run (sendStep env posts) c after = some c')
    (hfree : Meets (sendStep env posts) (NoOverlap env posts) (sendStart db) (before ++ after)) :
    SendsOnce posts c c' := by
  have hstep : ∀ s a s', SendInv posts s → NoOverlap env posts s a →
      sendStep env posts s a = some s' → SendInv posts s' :=
    fun s a s' hs hf ha => sendStep_inv hs hf ha
  have hc := run_preserves_of_meets (SendInv posts) hstep h hfree.append_left (sendStart_inv db)
  have hafter := hfree.append_right h
  have hc' := run_preserves_of_meets (SendInv posts) hstep h' hafter hc
  refine ⟨hc'.acceptedSends_le, fun id m hm hsent => ?_⟩
  have hkeep : SendInv posts c' ∧ ∃ m, messageById c'.shared.db id = some m ∧ m.state = .sent :=
    run_preserves_of_meets
      (fun s => SendInv posts s ∧ ∃ m, messageById s.shared.db id = some m ∧ m.state = .sent)
      (fun s a s' hs hf ha => ⟨hstep s a s' hs.1 hf ha, sendStep_sent hs.1 ha hs.2⟩)
      h' hafter ⟨hc, m, hm, hsent⟩
  exact hkeep.2

/-! ## Runs of one retried request -/

/-- A database with one active route of tenant 2. -/
def routedDb : Db :=
  { Db.empty with routes := .singleton ⟨1, 2, "PN1", "+91 99999 00000", true, none, 0⟩ }

/-- A text message with idempotency key `k9`. -/
def keyedPost : Post :=
  ⟨2, ⟨⟨"+919876543210", some "hi", none, none⟩, "audit-core", some "k9"⟩⟩

/-- Meta rejects a send for now. -/
def metaDown : SendOutcome := .failed "HTTP_ERROR" (.str "down") true

/-- The first request of the key fails and leaves its record failed. -/
def firstFails : List (SendAction (Fin 3)) :=
  [.select 0, .insert 0 10 5, .answer 0 metaDown false, .record 0 6]

/-- A failed send, a retry that succeeds and a replay keep the promise. -/
theorem sends_once_without_overlap_retry :
    ∃ c c' : Sends (Fin 3),
      c'.shared.accepted = [(1, 10)] ∧ SendsOnce (fun _ => keyedPost) c c' := by
  have hrun : ((run (sendStep (.ofRecording "s" []) fun _ => keyedPost) (sendStart routedDb)
      (firstFails ++ [.select 1, .answer 1 (.ok (.str "wamid.1")) true, .record 1 7])).bind fun c =>
        (run (sendStep (.ofRecording "s" []) fun _ => keyedPost) c [.select 2]).map
          fun c' => c'.shared.accepted) = some [(1, 10)] := by decide
  obtain ⟨c, hc, hrest⟩ := Option.bind_eq_some_iff.mp hrun
  obtain ⟨c', hc', hlog⟩ := Option.map_eq_some_iff.mp hrest
  exact ⟨c, c', hlog, sends_once_without_overlap (.ofRecording "s" []) (fun _ => keyedPost) hc hc'
    (by decide)⟩

/-- Two retries that find the record failed can both be accepted by Meta; and when the
second one is rejected, it sets the record of the accepted send back to failed. -/
theorem overlapping_retries_send_twice :
    (∃ c, run (sendStep (.ofRecording "s" []) fun _ => keyedPost) (sendStart routedDb)
        (firstFails ++ [.select 1, .select 2, .answer 1 (.ok (.str "wamid.1")) true,
          .answer 2 (.ok (.str "wamid.2")) true]) = some c ∧
        (acceptedSends (fun _ => keyedPost) c.shared.accepted 2 "k9").length = 2) ∧
      ∃ c c', run (sendStep (.ofRecording "s" []) fun _ => keyedPost) (sendStart routedDb)
          (firstFails ++ [.select 1, .select 2, .answer 1 (.ok (.str "wamid.1")) true,
            .record 1 7]) = some c ∧
        (messageById c.shared.db 10).map (·.state) = some .sent ∧
        run (sendStep (.ofRecording "s" []) fun _ => keyedPost) c
          [.answer 2 metaDown false, .record 2 8] = some c' ∧
        (messageById c'.shared.db 10).map (·.state) = some .failed := by
  constructor
  · exact Option.map_eq_some_iff.mp (by decide :
      (run (sendStep (.ofRecording "s" []) fun _ => keyedPost) (sendStart routedDb)
        (firstFails ++ [.select 1, .select 2, .answer 1 (.ok (.str "wamid.1")) true,
          .answer 2 (.ok (.str "wamid.2")) true])).map
        (fun c => (acceptedSends (fun _ => keyedPost) c.shared.accepted 2 "k9").length) = some 2)
  · have hrun : ((run (sendStep (.ofRecording "s" []) fun _ => keyedPost) (sendStart routedDb)
        (firstFails ++ [.select 1, .select 2, .answer 1 (.ok (.str "wamid.1")) true,
          .record 1 7])).bind fun c =>
            (run (sendStep (.ofRecording "s" []) fun _ => keyedPost) c
              [.answer 2 metaDown false, .record 2 8]).map fun c' =>
                ((messageById c.shared.db 10).map (·.state),
                  (messageById c'.shared.db 10).map (·.state))) =
        some (some .sent, some .failed) := by decide
    obtain ⟨c, hc, hrest⟩ := Option.bind_eq_some_iff.mp hrun
    obtain ⟨c', hc', hstates⟩ := Option.map_eq_some_iff.mp hrest
    exact ⟨c, c', hc, congrArg Prod.fst hstates, hc', congrArg Prod.snd hstates⟩

end WaService
