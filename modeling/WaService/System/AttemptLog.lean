import WaService.System.Drains

/-!
# A log of the attempts

Beside the drains, the log keeps each attempt that reached the call of Meta, and each
row whose third attempt has failed. An attempt is a row with the number that the claim
raised its counter to.
-/

namespace WaService

open Python

/-- The row and the number of the attempt that a claim returns. -/
def Outbox.attempt (o : Outbox) : Nat × Nat := (o.id, o.attempts)

/-- The send failed, or the row was refused before the call of Meta. -/
def Conclusion.isFailure : Conclusion → Bool
  | .refused _ | .answered (.failed _ _ _) => true
  | .answered _ => false

/-- A failure that is recorded as permanent; the code of a `WaApiError` can be stored when it
contains no NUL. -/
def Conclusion.isFinal : Conclusion → Bool
  | .refused _ => true
  | .answered (.failed code _ retryable) => !retryable && !Json.hasNul code
  | .answered _ => false

/-- The drains, and the log of their attempts. -/
structure LoggedDrains (ι : Type) where
  drains : Drains ι
  /-- The attempts that reached the call of Meta, whatever became of it. -/
  handed : List (Nat × Nat)
  /-- The rows whose third attempt has failed. -/
  exhausted : List Nat

/-- The attempts that a phase hands over to Meta. -/
def DrainPhase.handing : DrainPhase → List (Nat × Nat)
  | .sending row _ _ => [row.attempt]
  | _ => []

/-- The rows whose third attempt fails with the result that the phase is about to record. -/
def DrainPhase.exhausting : DrainPhase → List Nat
  | .marking row conclusion _ =>
    if row.attempts = maxOutboxAttempts ∧ conclusion.isFailure = true then [row.id] else []
  | _ => []

/-- A lookup that ends before the call of Meta hands the row over. -/
def handedBy {ι : Type} (after : Drains ι) : DrainAction ι → List (Nat × Nat)
  | .lookup i => (after.phase i).handing
  | _ => []

/-- An attempt has failed when its drain comes to record the failure. -/
def exhaustedBy {ι : Type} (before : Drains ι) : DrainAction ι → List Nat
  | .mark i _ => (before.phase i).exhausting
  | _ => []

/-- The steps of the drains with their log. -/
def logStep {ι : Type} [DecidableEq ι] (env : Env) (s : LoggedDrains ι) (a : DrainAction ι) :
    Option (LoggedDrains ι) :=
  (drainStep env s.drains a).map fun after =>
    ⟨after, handedBy after a ++ s.handed, exhaustedBy s.drains a ++ s.exhausted⟩

/-- Drains about to start on a database, with an empty log. -/
def logStart {ι : Type} (db : Db) : LoggedDrains ι := ⟨drainStart db, [], []⟩

end WaService
