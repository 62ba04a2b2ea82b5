import WaService.Core.Run

/-!
# Refinement of a specification

A specification is a relation between states, labelled with events. A system refines it along an
abstraction of its states when every action that shows an event takes a step of the specification,
and every other action leaves the abstract state alone. Its runs are then runs of the
specification, with the events that they show.
-/

namespace Transition

universe u v w x

variable {δ : Type u} {ε : Type v}

/-- The specification takes the events in order. -/
inductive Serves (Step : δ → ε → δ → Prop) : δ → List ε → δ → Prop
  | nil (d : δ) : Serves Step d [] d
  | cons {d d₁ d' : δ} {e : ε} {es : List ε} (h : Step d e d₁) (hs : Serves Step d₁ es d') :
      Serves Step d (e :: es) d'

variable {Step : δ → ε → δ → Prop}

/-- What every step of the specification keeps, it keeps whatever events it takes. -/
theorem Serves.preserves (I : δ → Prop) (hstep : ∀ d e d', I d → Step d e d' → I d') {d d' : δ}
    {es : List ε} (h : Serves Step d es d') (hd : I d) : I d' := by
  induction h with
  | nil d => exact hd
  | cons h _ ih => exact ih (hstep _ _ _ hd h)

variable {σ : Type w} {α : Type x} {step : σ → α → Option σ}

/-- A system that takes the steps of another one, or none, runs as the other does on the steps
taken. -/
theorem run_filterMap {β : Type u} {step' : σ → β → Option σ} {f : β → Option α}
    (h : ∀ s b, step' s b = (f b).elim (some s) (step s)) (s : σ) (bs : List β) :
    run step' s bs = run step s (bs.filterMap f) := by
  induction bs generalizing s with
  | nil => rfl
  | cons b bs ih =>
    rw [run, h]
    cases hf : f b with
    | none =>
      rw [List.filterMap_cons_none hf]
      exact ih s
    | some a =>
      rw [List.filterMap_cons_some hf, run]
      exact congrArg (step s a).bind (funext ih)

/-- A run of a system that refines the specification is a run of the specification. -/
theorem serves_of_run (abs : σ → δ) (event : σ × α → Option ε)
    (hsilent : ∀ s a s', step s a = some s' → event (s, a) = none → abs s' = abs s)
    (hshown : ∀ s a s' e, step s a = some s' → event (s, a) = some e → Step (abs s) e (abs s'))
    {s t : σ} {as : List α} (h : run step s as = some t) :
    Serves Step (abs s) ((trace step s as).filterMap event) (abs t) := by
  induction as generalizing s with
  | nil =>
    cases h
    exact .nil _
  | cons a as ih =>
    obtain ⟨s', ha, hr⟩ := run_cons.mp h
    have htrace : trace step s (a :: as) = (s, a) :: trace step s' as := by simp [trace, ha]
    rw [htrace]
    cases hevent : event (s, a) with
    | none =>
      rw [List.filterMap_cons_none hevent, ← hsilent s a s' ha hevent]
      exact ih hr
    | some e =>
      rw [List.filterMap_cons_some hevent]
      exact .cons (hshown s a s' e ha hevent) (ih hr)

end Transition
