import WaService.System.Drains

/-!
# Drains and the messaging window

The drains run beside a clock and the messages that the contacts send in. Meta takes free-form
messages to a contact until 24 hours after the most recent of these, and templates at any time.
The service reads the same clock as Meta; nothing in it reads when a contact has last written.
-/

namespace WaService

open Python Transition

/-- Messages that are not templates: the kinds 'text' and 'interactive'. -/
def OutboxKind.isFreeForm : OutboxKind → Bool
  | .text | .interactive => true
  | .template | .list | .audio => false

/-- The drains, the time, and what Meta knows of the contacts. -/
structure Windowed (ι : Type) where
  drains : Drains ι
  clock : Timestamp
  /-- The time of a contact's most recent message. -/
  lastInbound : UUID → Option Timestamp
  /-- The time of a drain's claim. -/
  claimedAt : ι → Timestamp

/-- Time passes, a contact writes, or a step of the drains is taken. -/
inductive WindowAction (ι : Type) where
  | tick (elapsed : Nat)
  | inbound (contactId : UUID)
  | drain (a : DrainAction ι)

variable {ι : Type}

/-- The time at which the database carries out the step. -/
def DrainAction.time : DrainAction ι → Option Timestamp
  | .claim _ now _ | .mark _ now | .enqueue _ now _ _ _ _ _ _ _ => some now
  | .lookup _ | .answer _ _ _ | .api _ _ _ => none

/-- The most recent messages after a contact has written. -/
def Windowed.heard [DecidableEq ι] (c : Windowed ι) (contactId : UUID) : Windowed ι :=
  { c with lastInbound := Function.update c.lastInbound contactId (some c.clock) }

/-- The claim times after a step of the drains. -/
def claimTimes [DecidableEq ι] (claimedAt : ι → Timestamp) : DrainAction ι → ι → Timestamp
  | .claim i now _ => Function.update claimedAt i now
  | _ => claimedAt

/-- The steps of the system. -/
def windowStep [DecidableEq ι] (env : Env) (c : Windowed ι) : WindowAction ι → Option (Windowed ι)
  | .tick elapsed => some { c with clock := c.clock + elapsed }
  | .inbound contactId => some (c.heard contactId)
  | .drain a =>
    if a.time.all (· == c.clock) then
      (drainStep env c.drains a).map fun drains =>
        { c with drains := drains, claimedAt := claimTimes c.claimedAt a }
    else none

namespace Windowed

/-- The outbox. -/
def outbox (c : Windowed ι) : List Outbox := c.drains.shared.db.outbox.rows

/-- The row that the step hands to Meta. -/
def handing (c : Windowed ι) : WindowAction ι → Option Outbox
  | .drain (.answer i _ _) =>
    match c.drains.phase i with
    | .sending row _ _ => some row
    | _ => none
  | _ => none

/-- The contact may be sent free-form messages. -/
def WindowOpen (c : Windowed ι) (contactId : UUID) : Prop :=
  ∃ last, c.lastInbound contactId = some last ∧ c.clock ≤ last + seconds (24 * 3600)

instance (c : Windowed ι) (contactId : UUID) : Decidable (c.WindowOpen contactId) :=
  match h : c.lastInbound contactId with
  | none => isFalse fun ⟨_, hlast, _⟩ => by rw [h] at hlast; cases hlast
  | some last =>
    decidable_of_iff (c.clock ≤ last + seconds (24 * 3600))
      ⟨fun hopen => ⟨last, h, hopen⟩, fun ⟨last', hlast, hopen⟩ => by
        rw [h] at hlast; cases hlast; exact hopen⟩

end Windowed

/-- Drains about to start on a database. -/
def windowStart (db : Db) (clock : Timestamp) (lastInbound : UUID → Option Timestamp) :
    Windowed ι :=
  ⟨drainStart db, clock, lastInbound, fun _ => clock⟩

end WaService
