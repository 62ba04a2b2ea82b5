import WaService.Core.BatchQueue
import WaService.Correctness.IdleSessions
import WaService.Correctness.Provenance
import WaService.Correctness.Writes

/-!
# When a session is flushed

A flush claims fifty sessions at most, oldest timer first. Timers are set to the present
or later, so nothing gets ahead of a session whose timer has passed, and no session
starves. And no session is claimed within the debounce of a message, unless a poll has
told that its documents are known.
-/

namespace WaService

open Python Relational Transition

/-- The time that a step reads from the clock. -/
def Action.clock : Action → Option Timestamp
  | .webhook _ _ _ _ => none
  | .api inp _ _ => some inp.now
  | .execute (.processInboxRow _ inp) _ => some inp.now
  | .execute (.fetchAndStoreFile _ calls) _ => some calls.now
  | .execute (.pollDiDocument _ calls) _ => some calls.now
  | .execute (.processSession _ inp) _ => some inp.now
  | .flush now _ => some now
  | .drain calls => some calls.now

/-- The step is a tick of the flush. -/
def Action.isFlush : Action → Bool
  | .flush _ _ => true
  | _ => false

/-- The clock has passed a time. -/
def Action.After (t : Timestamp) (a : Action) : Prop := ∀ now, a.clock = some now → t < now

variable {env : Env} {a : Action} {db db' : Db} {sessionId : UUID} {t : Timestamp}

theorem lt_debounce (now : Timestamp) : now < now + seconds 90 :=
  Int.lt_add_of_pos_right now (by decide)

/-! ## Sessions ahead of a session -/

/-- Another collecting session whose timer is not later. -/
def Session.overtakes (sessionId : UUID) (t : Timestamp) (s : Session) : Bool :=
  s.state == .collecting && s.id != sessionId && decide (s.flushAt.getD 0 ≤ t)

/-- The weight of a session that may be claimed first. -/
def Session.weight (sessionId : UUID) (t : Timestamp) (s : Session) : Nat :=
  if s.overtakes sessionId t then 1 else 0

theorem weight_of_not_collecting {s : Session} (h : s.state ≠ .collecting) :
    s.weight sessionId t = 0 := by
  simp [Session.weight, Session.overtakes, h]

theorem weight_of_later {s : Session} {t' : Timestamp} (ht : s.flushAt = some t') (h : t < t') :
    s.weight sessionId t = 0 := by
  have hlater : ¬ t' ≤ t := Int.not_le.mpr h
  simp [Session.weight, Session.overtakes, ht, hlater]

/-- A session that is opened is behind. -/
theorem SessionNew.weight {s : Session} (h : SessionNew db a s) (hclock : a.After t) :
    s.weight sessionId t = 0 := by
  cases h with
  | @enter _ inp =>
    have hnow : t < inp.now := hclock _ rfl
    exact weight_of_later rfl (hnow.trans (lt_debounce inp.now))

/-- A session that a step changes is behind, or collects no longer. -/
theorem SessionChange.weight {s s' : Session} (h : SessionChange db a s s') (hclock : a.After t) :
    s'.weight sessionId t = 0 := by
  cases h with
  | @arrive _ inp =>
    have hnow : t < inp.now := hclock _ rfl
    exact weight_of_later rfl (hnow.trans (lt_debounce inp.now))
  | nudge => exact weight_of_later rfl (hclock _ rfl)
  | claim => exact weight_of_not_collecting nofun
  | link => exact weight_of_not_collecting nofun
  | complete => exact weight_of_not_collecting nofun
  | park => exact weight_of_not_collecting nofun
  | parkOnDiSla => exact weight_of_not_collecting nofun

/-- A step claims the session, or changes it otherwise: a message arrives in it, a poll advances its
timer, or it is parked. -/
def Serves (env : Env) (s : Session) (w : World) (a : Action) : Prop :=
  (∃ now deferOk, a = .flush now deferOk ∧ s.id ∈ (claimSessionsForFlush w.db now 50).1) ∨
    a.isFlush = false ∧ ∃ w', worldStep env w a = some w' ∧ s ∉ w'.db.sessions.rows

section Arrival

variable {i : LoopInput} {st st' : LoopState} {e : Option Error} {msgs : List Json}

/-- After one message the database is as before, or the arrival of a file of the loop's session has
been recorded in it last. -/
structure ArrivedLast (i : LoopInput) (db db' : Db) : Prop where
  last : db' = db ∨ ∃ d, db' = recordFileArrival d i.now i.sessionId 0
  files : ∀ f ∈ db'.files.rows, f ∈ db.files.rows ∨ f.sessionId = i.sessionId

theorem ArrivedLast.refl (db : Db) : ArrivedLast i db db := ⟨Or.inl rfl, fun _ h => Or.inl h⟩

theorem ArrivedLast.trans {db'' : Db} (h : ArrivedLast i db db') (h' : ArrivedLast i db' db'') :
    ArrivedLast i db db'' where
  last := by
    obtain rfl | hd := h'.last
    · exact h.last
    · exact Or.inr hd
  files f hf := by
    obtain hf | hid := h'.files f hf
    · exact h.files f hf
    · exact Or.inr hid

end Arrival

end WaService
