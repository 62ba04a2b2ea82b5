import WaService.Core.Run
import WaService.Wa.Session

/-!
# Sessions without their partial index

The operations of the session state machine on the rows of `wa.session` when the table has its
primary key only. With the index `wa_session_one_open_per_contact` they leave the same rows.
-/

namespace WaService

open Python Relational Transition

/-- An operation on sessions, with its arguments. -/
inductive SessionOp where
  | getOrCreateSession (newId : UUID) (now : Timestamp) (tenantId contactId orgUnitId : UUID)
  | recordFileArrival (now : Timestamp) (sessionId : UUID) (byteSize : Int)
  | claimSessionsForFlush (now : Timestamp) (limit : Nat)
  | transitionToConfirming (now : Timestamp) (sessionId dealId : UUID)
  | confirmDeal (now : Timestamp) (sessionId : UUID)
  | markComplete (now : Timestamp) (sessionId : UUID)
  | parkSession (sessionId : UUID) (note : String)
  | escalateSession (sessionId : UUID) (note : String)
  | parkOnDiSla (sessionId : UUID) (note : String)

/-- An open session of the contact. -/
def opensFor (contactId : UUID) (s : Session) : Bool := s.contactId == contactId && s.state.isOpen

/-- `INSERT INTO wa.session` under the primary key; a refused insert leaves the rows as they are. -/
def insertSession (rows : List Session) (s : Session) : List Session :=
  if rows.any fun r => r.id == s.id then rows else rows ++ [s]

/-- The sessions that a flush claims, oldest timer first. -/
def flushIds (rows : List Session) (now : Timestamp) (limit : Nat) : List UUID :=
  (((rows.filter (flushable now)).insertionSort
    fun a b => a.flushAt.getD 0 ≤ b.flushAt.getD 0).take limit).map (·.id)

/-- The rows after an operation. Several open sessions of a contact are a `MultipleResultsFound`
in `get_or_create_session`, which then changes nothing. -/
def SessionOp.apply (rows : List Session) : SessionOp → List Session
  | .getOrCreateSession newId now tenantId contactId orgUnitId =>
    match rows.filter (opensFor contactId) with
    | [] => insertSession rows (newSession newId now tenantId contactId orgUnitId)
    | _ :: _ => rows
  | .recordFileArrival now sessionId byteSize =>
    rows.map (patch (collects sessionId) (Session.arrive now byteSize))
  | .claimSessionsForFlush now limit =>
    rows.map (patch (fun s => flushable now s && (flushIds rows now limit).contains s.id)
      fun s => { s with state := .processing, submittedAt := some now })
  | .transitionToConfirming now sessionId dealId =>
    rows.map (patch (fun s => s.id == sessionId && s.state == .processing) fun s => { s with
      state := .confirmingDeal
      dealId := some dealId
      flushAt := some (now + seconds 86400) })
  | .confirmDeal now sessionId =>
    rows.map (patch (fun s => s.id == sessionId && s.state == .confirmingDeal) fun s => { s with
      state := .gapsPending
      flushAt := some (now + seconds 86400) })
  | .markComplete now sessionId =>
    rows.map (patch (fun s => s.id == sessionId)
      fun s => { s with state := .complete, completedAt := some now })
  | .parkSession sessionId note =>
    rows.map (patch
      (fun s => s.id == sessionId && !(s.state == .complete || s.state == .cancelled))
      fun s => { s with state := .parked, note := some note })
  | .escalateSession sessionId note =>
    rows.map (patch
      (fun s => s.id == sessionId &&
        !(s.state == .complete || s.state == .cancelled || s.state == .escalated))
      fun s => { s with state := .escalated, note := some note })
  | .parkOnDiSla sessionId note =>
    rows.map (patch (fun s => s.id == sessionId)
      fun s => { s with state := .parked, note := some note })

/-- One operation of a serial run. -/
def sessionRowStep (rows : List Session) (op : SessionOp) : Option (List Session) :=
  some (op.apply rows)

/-! ## With the index -/

/-- The operation on the database, where a failed `get_or_create_session` rolls back. -/
def SessionOp.perform (db : Db) : SessionOp → Db
  | .getOrCreateSession newId now tenantId contactId orgUnitId =>
    match WaService.getOrCreateSession db newId now tenantId contactId orgUnitId with
    | .ok (_, db') => db'
    | .error _ => db
  | .recordFileArrival now sessionId byteSize =>
    WaService.recordFileArrival db now sessionId byteSize
  | .claimSessionsForFlush now limit => (WaService.claimSessionsForFlush db now limit).2
  | .transitionToConfirming now sessionId dealId =>
    WaService.transitionToConfirming db now sessionId dealId
  | .confirmDeal now sessionId => confirmSessionDeal db now sessionId
  | .markComplete now sessionId => WaService.markComplete db now sessionId
  | .parkSession sessionId note => WaService.parkSession db sessionId note
  | .escalateSession sessionId note => WaService.escalateSession db sessionId note
  | .parkOnDiSla sessionId note => WaService.parkOnDiSla db sessionId note

/-- A contact without an open session meets no clash in the index. -/
theorem insertSession_of_none {db : Db} {s : Session}
    (hnone : openSession db s.contactId = none) :
    insertSession db.sessions.rows s =
      ((db.sessions.insert? s).map Table.rows).getD db.sessions.rows := by
  unfold insertSession
  cases hinsert : db.sessions.insert? s with
  | some sessions =>
    obtain ⟨hfree, hrows⟩ := Table.insert?_eq_some.mp hinsert
    have hid : (db.sessions.rows.any fun r => r.id == s.id) = false := by
      apply List.any_eq_false.mpr
      intro r hr hid
      have hclash := hfree r hr
      rw [beq_iff_eq] at hid
      simp [clash, sameKey, hid] at hclash
    rw [hid]
    exact hrows.symm
  | none =>
    obtain ⟨r, hr, hclash⟩ := Table.insert?_eq_none.mp hinsert
    simp only [clash, Bool.or_eq_true, sameKey_iff, Option.some.injEq] at hclash
    have hid : (db.sessions.rows.any fun r => r.id == s.id) = true := by
      obtain ⟨id, hid, hs⟩ | ⟨contact, hopen, hs⟩ := hclash
      · exact List.any_eq_true.mpr ⟨r, hr, by simp [hid, hs]⟩
      · have hkey : r.contactId = s.contactId ∧ r.state.isOpen = true := by
          unfold Session.openContact at hopen hs
          split at hopen
          · split at hs
            · exact ⟨(Option.some.inj hopen).trans (Option.some.inj hs).symm, by assumption⟩
            · cases hs
          · cases hopen
        have hmiss := List.find?_eq_none.mp hnone r hr
        simp [hkey.1, hkey.2] at hmiss
    rw [hid]
    rfl

/-- With the index an operation leaves the rows that it leaves without it. -/
theorem SessionOp.perform_rows (db : Db) (op : SessionOp) :
    (op.perform db).sessions.rows = op.apply db.sessions.rows := by
  cases op with
  | getOrCreateSession newId now tenantId contactId orgUnitId =>
    simp only [perform, apply, WaService.getOrCreateSession]
    cases hopen : openSession db contactId with
    | some s =>
      have hs : s ∈ db.sessions.rows.filter (opensFor contactId) :=
        List.mem_filter.mpr ⟨List.mem_of_find?_eq_some hopen, List.find?_some hopen⟩
      cases hfilter : db.sessions.rows.filter (opensFor contactId) with
      | nil =>
        rw [hfilter] at hs
        cases hs
      | cons => rfl
    | none =>
      have hfilter : db.sessions.rows.filter (opensFor contactId) = [] := by
        apply List.filter_eq_nil_iff.mpr
        exact List.find?_eq_none.mp hopen
      rw [hfilter]
      simp only
      rw [insertSession_of_none hopen]
      cases db.sessions.insert? (newSession newId now tenantId contactId orgUnitId) with
      | some sessions => rfl
      | none => rfl
  | _ => rfl

end WaService
