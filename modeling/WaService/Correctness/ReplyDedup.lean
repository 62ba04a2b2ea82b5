import WaService.Correctness.DrainOnce
import WaService.System.Enqueues

/-!
# One pending reply for a key

No index stands behind the deduplication of replies. A session has at most one pending row of a
kind with a key as long as each row that becomes pending, by an insert or by a retry, finds no
other one of its session, kind and key.
-/

namespace WaService

open Python Relational Transition

/-! ## Keys -/

/-- The rows have the same session, kind and key. -/
structure Outbox.Twin (a b : Outbox) : Prop where
  session : a.sessionId = b.sessionId
  kind : a.kind = b.kind
  key : dedupOf a.payload = dedupOf b.payload
  hasSession : b.sessionId.isSome = true
  hasKey : (dedupOf b.payload).isSome = true

theorem Outbox.Twin.symm {a b : Outbox} (h : a.Twin b) : b.Twin a where
  session := h.session.symm
  kind := h.kind.symm
  key := h.key.symm
  hasSession := by
    rw [h.session]
    exact h.hasSession
  hasKey := by
    rw [h.key]
    exact h.hasKey

/-- At most one row of a session and a kind with a key is pending. -/
def KeysPendOnce (db : Db) : Prop :=
  ∀ sessionId kind key, (pendingDuplicates db sessionId kind key).length ≤ 1

/-- The row that the insert of a reply stores. -/
def Reply.row (r : Reply) (newId : Nat) (now : Timestamp) : Outbox where
  id := newId
  tenantId := r.tenantId
  contactId := r.contactId
  sessionId := r.sessionId
  kind := r.kind
  payload := .obj r.stamped
  state := .pending
  attempts := 0
  sendAfter := r.sendAfter.getD now
  sentAt := none
  wamid := none
  lastError := none

section Steps

variable {ι κ : Type} [DecidableEq ι] [DecidableEq κ]

end Steps

section Rows

variable {db : Db}

theorem Outbox.clash_iff {a b : Outbox} : clash a b = true ↔ a.id = b.id := by
  simp [clash, sameKey]

/-- The promise as a statement on pairs of rows. -/
theorem keysPendOnce_iff : KeysPendOnce db ↔
    ∀ a ∈ db.outbox.rows, ∀ b ∈ db.outbox.rows, a.state = .pending → b.state = .pending →
      a.Twin b → a = b := by
  unfold KeysPendOnce pendingDuplicates
  constructor
  · intro h a ha b hb hpa hpb htwin
    obtain ⟨sessionId, hsession⟩ := Option.isSome_iff_exists.mp htwin.hasSession
    obtain ⟨key, hkey⟩ := Option.isSome_iff_exists.mp htwin.hasKey
    have honce := (Table.filter_length_le_one_iff db.outbox fun o _ => Outbox.clash_iff.mpr rfl).mp
      (h sessionId b.kind key)
    apply honce a ha b hb
    · simp [hpa, htwin.session, htwin.kind, htwin.key, hsession, hkey]
    · simp [hpb, hsession, hkey]
  · intro h sessionId kind key
    apply (Table.filter_length_le_one_iff db.outbox fun o _ => Outbox.clash_iff.mpr rfl).mpr
    intro a ha b hb hsela hselb
    simp only [Bool.and_eq_true, beq_iff_eq] at hsela hselb
    obtain ⟨⟨⟨hsa, hka⟩, hpa⟩, hda⟩ := hsela
    obtain ⟨⟨⟨hsb, hkb⟩, hpb⟩, hdb⟩ := hselb
    refine h a ha b hb hpa hpb ⟨hsa.trans hsb.symm, hka.trans hkb.symm, hda.trans hdb.symm, ?_, ?_⟩
    · rw [hsb, Option.isSome_some]
    · rw [hdb, Option.isSome_some]

/-- The update leaves what the promise is about alone. -/
structure KeepsReply (f : Outbox → Outbox) : Prop where
  id : ∀ o, (f o).id = o.id
  session : ∀ o, (f o).sessionId = o.sessionId
  kind : ∀ o, (f o).kind = o.kind
  payload : ∀ o, (f o).payload = o.payload

theorem KeepsReply.patch {f : Outbox → Outbox} (hf : KeepsReply f) (p : Outbox → Bool) :
    KeepsReply (patch p f) where
  id := patch_proj fun o _ => hf.id o
  session := patch_proj fun o _ => hf.session o
  kind := patch_proj fun o _ => hf.kind o
  payload := patch_proj fun o _ => hf.payload o

theorem KeepsReply.twin_iff {f g : Outbox → Outbox} (hf : KeepsReply f) (hg : KeepsReply g)
    {a b : Outbox} : (f a).Twin (g b) ↔ a.Twin b := by
  constructor
  · rintro ⟨hs, hk, hd, hs', hd'⟩
    rw [hf.session, hg.session] at hs
    rw [hf.kind, hg.kind] at hk
    rw [hf.payload, hg.payload] at hd
    rw [hg.session] at hs'
    rw [hg.payload] at hd'
    exact ⟨hs, hk, hd, hs', hd'⟩
  · rintro ⟨hs, hk, hd, hs', hd'⟩
    rw [← hf.session a, ← hg.session b] at hs
    rw [← hf.kind a, ← hg.kind b] at hk
    rw [← hf.payload a, ← hg.payload b] at hd
    rw [← hg.session b] at hs'
    rw [← hg.payload b] at hd'
    exact ⟨hs, hk, hd, hs', hd'⟩

variable {p : Outbox → Bool} {f : Outbox → Outbox}

/-- An update that makes no row pending keeps the promise. -/
theorem KeysPendOnce.update (h : KeysPendOnce db) (hf : KeepsReply f)
    (hstate : ∀ o, p o = true → (f o).state = .pending → o.state = .pending) :
    KeysPendOnce (db.updateOutbox p f hf.id) := by
  have hpending : ∀ o, (patch p f o).state = .pending → o.state = .pending := by
    intro o ho
    by_cases hsel : p o = true
    · rw [patch_of_pos hsel] at ho
      exact hstate o hsel ho
    · rwa [patch_of_neg (eq_false_of_ne_true hsel)] at ho
  rw [keysPendOnce_iff] at h ⊢
  intro a' ha' b' hb' hpa hpb htwin
  obtain ⟨a, ha, rfl⟩ := (mem_updateOutbox hf.id).mp ha'
  obtain ⟨b, hb, rfl⟩ := (mem_updateOutbox hf.id).mp hb'
  rw [h a ha b hb (hpending a hpa) (hpending b hpb)
    (((hf.patch p).twin_iff (hf.patch p)).mp htwin)]

/-- A claim expires rows and counts attempts; no row becomes pending. -/
theorem KeysPendOnce.claim (h : KeysPendOnce db) (now : Timestamp) (locked : List Nat)
    (limit : Nat) : KeysPendOnce (claimPending db now locked limit).2 := by
  have hexpired : KeysPendOnce (expireOutbox db now) := by
    apply h.update (f := skipWindow) ⟨fun _ => rfl, fun _ => rfl, fun _ => rfl, fun _ => rfl⟩
    intro o hmissed _
    simp only [windowMissed, Bool.and_eq_true, beq_iff_eq] at hmissed
    exact hmissed.1
  apply hexpired.update (f := raiseAttempts)
    ⟨fun _ => rfl, fun _ => rfl, fun _ => rfl, fun _ => rfl⟩
  intro o _ hpending
  exact hpending

variable {env : Env} {now : Timestamp} {id : Nat} {conclusion : Conclusion} {db' : Db}

end Rows

/-! ## Steps and runs -/

section Law

variable {ι κ : Type} [DecidableEq ι] [DecidableEq κ] {env : Env} {c c' : Queue ι κ}

end Law

end WaService
