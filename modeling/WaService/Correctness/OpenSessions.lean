import WaService.System.SessionRows

/-!
# At most one open session for a contact

The operations on sessions keep it without the partial index. Each of them rewrites rows in place
and opens none that is closed, except for the insert of `get_or_create_session`, which looks for an
open session first.
-/

namespace WaService

open Python Relational Transition

/-- Each contact has at most one session that is open. -/
def AtMostOneOpen (rows : List Session) : Prop :=
  ∀ contactId, rows.countP (opensFor contactId) ≤ 1

/-- The row keeps its identity and its contact, and is not opened. -/
def Session.NotOpened (s s' : Session) : Prop :=
  s'.id = s.id ∧ s'.contactId = s.contactId ∧ (s'.state.isOpen = true → s.state.isOpen = true)

theorem Session.notOpened_patch {p : Session → Bool} {f : Session → Session}
    (h : ∀ s, p s = true → s.NotOpened (f s)) (s : Session) : s.NotOpened (patch p f s) := by
  unfold patch
  split
  · exact h s ‹_›
  · exact ⟨rfl, rfl, fun h => h⟩

/-- An operation rewrites the rows in place, opening none, or inserts a row for a contact that has
no open session. -/
theorem SessionOp.apply_cases (rows : List Session) (op : SessionOp) :
    (∃ g : Session → Session, op.apply rows = rows.map g ∧ ∀ s : Session, s.NotOpened (g s)) ∨
      ∃ newId now tenantId contactId orgUnitId,
        op = .getOrCreateSession newId now tenantId contactId orgUnitId ∧
        rows.filter (opensFor contactId) = [] ∧
        op.apply rows = rows ++ [newSession newId now tenantId contactId orgUnitId] := by
  have hclosed : ∀ {p : Session → Bool} {f : Session → Session},
      (∀ s, p s = true → s.NotOpened (f s)) →
      ∃ g : Session → Session, rows.map (patch p f) = rows.map g ∧
        ∀ s : Session, s.NotOpened (g s) :=
    fun h => ⟨_, rfl, Session.notOpened_patch h⟩
  have hidle : ∃ g : Session → Session, rows = rows.map g ∧ ∀ s : Session, s.NotOpened (g s) :=
    ⟨id, (List.map_id rows).symm, fun s => ⟨rfl, rfl, id⟩⟩
  cases op with
  | getOrCreateSession newId now tenantId contactId orgUnitId =>
    simp only [apply]
    cases hopen : rows.filter (opensFor contactId) with
    | cons => exact Or.inl hidle
    | nil =>
      simp only
      unfold insertSession
      split
      · exact Or.inl hidle
      · exact Or.inr ⟨newId, now, tenantId, contactId, orgUnitId, rfl, hopen, rfl⟩
  | recordFileArrival now sessionId byteSize =>
    exact Or.inl (hclosed fun s _ => ⟨rfl, rfl, id⟩)
  | claimSessionsForFlush now limit =>
    apply Or.inl
    apply hclosed
    intro s hs
    have hstate : s.state = .collecting := by
      simp only [flushable, Bool.and_eq_true, beq_iff_eq] at hs
      exact hs.1.1
    exact ⟨rfl, rfl, fun _ => by rw [hstate]; rfl⟩
  | transitionToConfirming now sessionId dealId =>
    apply Or.inl
    apply hclosed
    intro s hs
    have hstate : s.state = .processing := by simpa using (Bool.and_eq_true_iff.mp hs).2
    exact ⟨rfl, rfl, fun _ => by rw [hstate]; rfl⟩
  | _ => exact Or.inl (hclosed fun s _ => ⟨rfl, rfl, fun hopen => by cases hopen⟩)

/-- Rewriting rows without opening any does not raise the number of open sessions. -/
theorem countP_opensFor_map {g : Session → Session} (hg : ∀ s : Session, s.NotOpened (g s))
    (rows : List Session) (contactId : UUID) :
    (rows.map g).countP (opensFor contactId) ≤ rows.countP (opensFor contactId) := by
  rw [List.countP_map]
  apply List.countP_mono_left
  intro s _ hopen
  obtain ⟨-, hcontact, hstate⟩ := hg s
  simp only [Function.comp_apply, opensFor, Bool.and_eq_true, beq_iff_eq] at hopen ⊢
  exact ⟨hcontact ▸ hopen.1, hstate hopen.2⟩

/-- Every operation keeps the uniqueness. -/
theorem SessionOp.apply_atMostOneOpen {rows : List Session} (h : AtMostOneOpen rows)
    (op : SessionOp) : AtMostOneOpen (op.apply rows) := by
  intro other
  obtain ⟨g, happly, hg⟩ | ⟨newId, now, tenantId, contactId, orgUnitId, -, hnone, happly⟩ :=
    op.apply_cases rows
  · rw [happly]
    exact (countP_opensFor_map hg rows other).trans (h other)
  · rw [happly, List.countP_append, List.countP_singleton]
    by_cases hcontact : contactId = other
    · subst hcontact
      have hzero : rows.countP (opensFor contactId) = 0 := by
        rw [List.countP_eq_length_filter, hnone]
        rfl
      rw [hzero]
      split <;> omega
    · have hnot : ¬ opensFor other (newSession newId now tenantId contactId orgUnitId) = true := by
        simp [opensFor, newSession, hcontact]
      rw [if_neg hnot]
      exact h other

/-- The operation opens no row, and a row that it adds is the insert of `get_or_create_session`. -/
def OpensByInsertOnly (rows : List Session) (op : SessionOp) : Prop :=
  (∀ (i : Nat) (s s' : Session), rows[i]? = some s → (op.apply rows)[i]? = some s' →
    s.NotOpened s') ∧
    ∀ (i : Nat) (s' : Session), rows[i]? = none → (op.apply rows)[i]? = some s' →
      ∃ newId now tenantId contactId orgUnitId,
        op = .getOrCreateSession newId now tenantId contactId orgUnitId ∧
        s' = newSession newId now tenantId contactId orgUnitId

theorem opensByInsertOnly (rows : List Session) (op : SessionOp) : OpensByInsertOnly rows op := by
  obtain ⟨g, happly, hg⟩ | ⟨newId, now, tenantId, contactId, orgUnitId, hop, -, happly⟩ :=
    op.apply_cases rows
  · constructor
    · intro i s s' hs hs'
      rw [happly, List.getElem?_map, hs] at hs'
      cases hs'
      exact hg s
    · intro i s' hs hs'
      rw [happly, List.getElem?_map, hs] at hs'
      cases hs'
  · constructor
    · intro i s s' hs hs'
      rw [happly, List.getElem?_append_left (List.getElem?_eq_some_iff.mp hs).1, hs] at hs'
      cases hs'
      exact ⟨rfl, rfl, id⟩
    · intro i s' hs hs'
      have hlength : rows.length ≤ i := List.getElem?_eq_none_iff.mp hs
      rw [happly, List.getElem?_append_right hlength, List.getElem?_singleton] at hs'
      split at hs'
      · cases hs'
        exact ⟨newId, now, tenantId, contactId, orgUnitId, hop, rfl⟩
      · cases hs'

/-- In every serial run without the index each contact keeps at most one open session, and only
the insert of `get_or_create_session` adds to the open sessions. -/
theorem open_session_unique_without_index {start final : List Session} {ops : List SessionOp}
    (hstart : AtMostOneOpen start) (hrun : run sessionRowStep start ops = some final) :
    AtMostOneOpen final ∧ Meets sessionRowStep OpensByInsertOnly start ops := by
  constructor
  · refine run_preserves AtMostOneOpen ?_ hrun hstart
    intro rows op rows' hrows hstep
    cases hstep
    exact op.apply_atMostOneOpen hrows
  · exact Meets.of_forall opensByInsertOnly start ops

/-- A contact sends files, its session is flushed, and after it is parked a new one is created. -/
def twoBundles : List SessionOp :=
  [.getOrCreateSession 1 0 2 5 3, .recordFileArrival 0 1 0,
    .claimSessionsForFlush (seconds 91) 50, .getOrCreateSession 4 (seconds 92) 2 5 3,
    .parkSession 1 "awaiting_di", .getOrCreateSession 4 (seconds 93) 2 5 3]

theorem twoBundles_unique : AtMostOneOpen (twoBundles.foldl SessionOp.apply []) ∧
    Meets sessionRowStep OpensByInsertOnly [] twoBundles :=
  open_session_unique_without_index (fun _ => Nat.zero_le 1) rfl

example : (twoBundles.foldl SessionOp.apply []).map (fun s => (s.id, s.state)) =
    [(1, .parked), (4, .collecting)] := by decide

end WaService
