import Mathlib.Data.List.Basic

/-!
# Runs of a labelled transition function

A system is a partial step function: `step s a = none` when action `a` is not
enabled in state `s`. Runs follow a list of actions, every one of them enabled.
Three induction rules cover the ways an invariant is carried along a run:
unconditionally, under a condition that every step taken meets, and together
with the history of the states and actions passed so far.
-/

namespace Transition

universe u v

variable {σ : Type u} {α : Type v} (step : σ → α → Option σ)

/-- Follow a list of actions, each of which must be enabled. -/
def run : σ → List α → Option σ
  | s, [] => some s
  | s, a :: as => (step s a).bind fun s' => run s' as

/-- The states and actions passed along a run, each state before its action. -/
def trace : σ → List α → List (σ × α)
  | _, [] => []
  | s, a :: as => (s, a) :: ((step s a).map fun s' => trace s' as).getD []

/-- Every step taken along the run meets the condition in the state before it. -/
def Meets (C : σ → α → Prop) : σ → List α → Prop
  | _, [] => True
  | s, a :: as => C s a ∧ ∀ s', step s a = some s' → Meets C s' as

/-- The condition can be checked along a given list of actions. -/
instance Meets.decidable (C : σ → α → Prop) [∀ s a, Decidable (C s a)] :
    (s : σ) → (as : List α) → Decidable (Meets step C s as)
  | _, [] => inferInstanceAs (Decidable True)
  | s, a :: as =>
    match hs : step s a with
    | none => decidable_of_iff (C s a) ⟨fun h => ⟨h, fun s' h' => by simp [hs] at h'⟩, And.left⟩
    | some t =>
      have := Meets.decidable C t as
      decidable_of_iff (C s a ∧ Meets step C t as)
        ⟨fun h => ⟨h.1, fun s' h' => by rw [hs] at h'; cases h'; exact h.2⟩,
          fun h => ⟨h.1, h.2 t hs⟩⟩

variable {step}

@[simp] theorem run_nil (s : σ) : run step s [] = some s := rfl

theorem run_cons {s : σ} {a : α} {as : List α} {t : σ} :
    run step s (a :: as) = some t ↔ ∃ s', step s a = some s' ∧ run step s' as = some t := by
  simp [run, Option.bind_eq_some_iff]

theorem run_append {s : σ} {as bs : List α} {t : σ} :
    run step s (as ++ bs) = some t ↔ ∃ m, run step s as = some m ∧ run step m bs = some t := by
  induction as generalizing s with
  | nil => simp
  | cons a as ih =>
    simp only [List.cons_append, run_cons, ih]
    constructor
    · rintro ⟨s', hs, m, hm, ht⟩
      exact ⟨m, ⟨s', hs, hm⟩, ht⟩
    · rintro ⟨m, ⟨s', hs, hm⟩, ht⟩
      exact ⟨s', hs, m, hm, ht⟩

/-- A trace holds only the actions of its run. -/
theorem mem_of_mem_trace {s : σ} {as : List α} {e : σ × α} (h : e ∈ trace step s as) :
    e.2 ∈ as := by
  induction as generalizing s with
  | nil => exact absurd h List.not_mem_nil
  | cons a as ih =>
    rcases List.mem_cons.mp h with rfl | h
    · exact List.mem_cons_self
    · cases hs : step s a with
      | none => simp [hs] at h
      | some s' =>
        rw [hs] at h
        exact List.mem_cons_of_mem a (ih h)

/-- The trace of a run holds all its actions in order. -/
theorem trace_actions {s t : σ} {as : List α} (h : run step s as = some t) :
    (trace step s as).map Prod.snd = as := by
  induction as generalizing s with
  | nil => rfl
  | cons a as ih =>
    obtain ⟨s', ha, hr⟩ := run_cons.mp h
    simp only [trace, ha, Option.map_some, Option.getD_some, List.map_cons, ih hr]

/-- What every step preserves, every run preserves. -/
theorem run_preserves (I : σ → Prop) (hstep : ∀ s a s', I s → step s a = some s' → I s')
    {s t : σ} {as : List α} (h : run step s as = some t) (hs : I s) : I t := by
  induction as generalizing s with
  | nil =>
    cases h
    exact hs
  | cons a as ih =>
    obtain ⟨s', ha, hr⟩ := run_cons.mp h
    exact ih hr (hstep s a s' hs ha)

/-- What the steps of the given actions preserve, their run preserves. -/
theorem run_preserves_of_mem (I : σ → Prop) {s t : σ} {as : List α}
    (hstep : ∀ s, ∀ a ∈ as, ∀ s', I s → step s a = some s' → I s')
    (h : run step s as = some t) (hs : I s) : I t := by
  induction as generalizing s with
  | nil =>
    cases h
    exact hs
  | cons a as ih =>
    obtain ⟨s', ha, hr⟩ := run_cons.mp h
    exact ih (fun s b hb => hstep s b (List.mem_cons_of_mem a hb)) hr
      (hstep s a List.mem_cons_self s' hs ha)

/-- What every step that meets `C` preserves, every run of such steps preserves. -/
theorem run_preserves_of_meets {C : σ → α → Prop} (I : σ → Prop)
    (hstep : ∀ s a s', I s → C s a → step s a = some s' → I s')
    {s t : σ} {as : List α} (h : run step s as = some t) (hc : Meets step C s as)
    (hs : I s) : I t := by
  induction as generalizing s with
  | nil =>
    cases h
    exact hs
  | cons a as ih =>
    obtain ⟨s', ha, hr⟩ := run_cons.mp h
    exact ih hr (hc.2 s' ha) (hstep s a s' hs hc.1 ha)

/-- What `C` implies at every step in a state with an invariant that it preserves. -/
theorem Meets.imp_of_preserves {C D : σ → α → Prop} (I : σ → Prop)
    (hstep : ∀ s a s', I s → C s a → step s a = some s' → I s')
    (hcd : ∀ s a, I s → C s a → D s a) {s : σ} {as : List α} (h : Meets step C s as) (hs : I s) :
    Meets step D s as := by
  induction as generalizing s with
  | nil => trivial
  | cons a as ih =>
    exact ⟨hcd s a hs h.1, fun s' ha => ih (h.2 s' ha) (hstep s a s' hs h.1 ha)⟩

/-- What implies another condition at every step implies it along the run. -/
theorem Meets.imp {C D : σ → α → Prop} {s : σ} {as : List α} (h : Meets step C s as)
    (hcd : ∀ s a, C s a → D s a) : Meets step D s as :=
  h.imp_of_preserves (fun _ => True) (fun _ _ _ _ _ _ => trivial)
    (fun s a _ hc => hcd s a hc) trivial

/-- What holds at every step holds along every run. -/
theorem Meets.of_forall {C : σ → α → Prop} (h : ∀ s a, C s a) (s : σ) (as : List α) :
    Meets step C s as := by
  induction as generalizing s with
  | nil => trivial
  | cons a as ih => exact ⟨h s a, fun s' _ => ih s'⟩

theorem Meets.append_left {C : σ → α → Prop} {s : σ} {as bs : List α}
    (h : Meets step C s (as ++ bs)) : Meets step C s as := by
  induction as generalizing s with
  | nil => trivial
  | cons a as ih => exact ⟨h.1, fun s' hs => ih (h.2 s' hs)⟩

theorem Meets.append_right {C : σ → α → Prop} {s m : σ} {as bs : List α}
    (h : Meets step C s (as ++ bs)) (hm : run step s as = some m) : Meets step C m bs := by
  induction as generalizing s with
  | nil =>
    cases hm
    exact h
  | cons a as ih =>
    obtain ⟨s', ha, hr⟩ := run_cons.mp hm
    exact ih (h.2 s' ha) hr

/-- A statement about the history and the current state that each step extends
holds of the whole trace and the last state. -/
theorem run_history (I : List (σ × α) → σ → Prop)
    (hstep : ∀ h s a s', I h s → step s a = some s' → I (h ++ [(s, a)]) s')
    {s t : σ} {as : List α} (hr : run step s as = some t) {past : List (σ × α)}
    (hs : I past s) : I (past ++ trace step s as) t := by
  induction as generalizing s past with
  | nil =>
    cases hr
    simpa [trace] using hs
  | cons a as ih =>
    obtain ⟨s', ha, hr⟩ := run_cons.mp hr
    have hrest := ih hr (hstep past s a s' hs ha)
    simpa [trace, ha] using hrest

/-! ## Reaching a state -/

/-- Some run ends in a state with the property. -/
def Reaches (step : σ → α → Option σ) (s : σ) (P : σ → Prop) : Prop :=
  ∃ as t, run step s as = some t ∧ P t

variable {P Q : σ → Prop} {s s' : σ}

theorem Reaches.here (h : P s) : Reaches step s P := ⟨[], s, rfl, h⟩

theorem Reaches.imp (hr : Reaches step s P) (h : ∀ t, P t → Q t) : Reaches step s Q := by
  obtain ⟨as, t, ht, hP⟩ := hr
  exact ⟨as, t, ht, h t hP⟩

/-- One step first. -/
theorem Reaches.after {a : α} (h : step s a = some s') (hr : Reaches step s' P) :
    Reaches step s P := by
  obtain ⟨as, t, ht, hP⟩ := hr
  exact ⟨a :: as, t, run_cons.mpr ⟨s', h, ht⟩, hP⟩

/-- From every state that is reached, on to the next property. -/
theorem Reaches.bind (hr : Reaches step s P) (h : ∀ t, P t → Reaches step t Q) :
    Reaches step s Q := by
  obtain ⟨as, t, ht, hP⟩ := hr
  obtain ⟨bs, u, hu, hQ⟩ := h t hP
  exact ⟨as ++ bs, u, run_append.mpr ⟨t, ht, hu⟩, hQ⟩

end Transition
