import Mathlib.Logic.Function.Basic
import WaService.Core.Run

/-!
# Interleaved processes

Processes share a state and each has a phase of its own. A step advances one
process. Where a phase holds resources, exclusive holding is kept by every step
that takes no resource another process holds.
-/

namespace Transition

universe u v w

/-- A shared state and the phase of every process. -/
structure Processes (ι : Type u) (σ : Type v) (φ : Type w) where
  shared : σ
  phase : ι → φ

namespace Processes

variable {ι : Type u} {σ : Type v} {φ : Type w} [DecidableEq ι]

/-- One process moves to a new phase and leaves a new shared state. -/
def advance (c : Processes ι σ φ) (i : ι) (s : σ) (l : φ) : Processes ι σ φ :=
  ⟨s, Function.update c.phase i l⟩

variable {c : Processes ι σ φ} {i j : ι} {s : σ} {l : φ}

@[simp] theorem advance_shared : (c.advance i s l).shared = s := rfl

@[simp] theorem advance_phase_self : (c.advance i s l).phase i = l := by
  simp [advance]

theorem advance_phase_of_ne (h : j ≠ i) : (c.advance i s l).phase j = c.phase j := by
  simp [advance, Function.update_of_ne h]

/-- A statement about the phases after a step, from the new phase and the old others. -/
theorem forall_phase_advance (P : ι → φ → Prop) (hnew : P i l)
    (hold : ∀ j, j ≠ i → P j (c.phase j)) : ∀ j, P j ((c.advance i s l).phase j) := by
  intro j
  by_cases hj : j = i
  · subst hj
    rw [advance_phase_self]
    exact hnew
  · rw [advance_phase_of_ne hj]
    exact hold j hj

section Holding

variable {ρ : Type*} {holds : φ → ρ → Prop}

omit [DecidableEq ι] in
/-- No two processes hold the same resource. -/
def Exclusive (holds : φ → ρ → Prop) (c : Processes ι σ φ) : Prop :=
  ∀ i j r, holds (c.phase i) r → holds (c.phase j) r → i = j

/-- A step keeps exclusive holding when each resource that the new phase holds was
held by the same process before, or by none. -/
theorem Exclusive.advance (h : Exclusive holds c)
    (hnew : ∀ r, holds l r → holds (c.phase i) r ∨ ∀ j, ¬ holds (c.phase j) r) :
    Exclusive holds (c.advance i s l) := by
  -- A process that is not the one that moved cannot hold what the moved one holds.
  have hother : ∀ j r, j ≠ i → holds l r → ¬ holds (c.phase j) r := by
    intro j r hj hl hjr
    rcases hnew r hl with hi | hnone
    · exact hj (h j i r hjr hi)
    · exact hnone j hjr
  intro j k r hj hk
  by_cases hji : j = i
  · by_cases hki : k = i
    · rw [hji, hki]
    · rw [hji, advance_phase_self] at hj
      rw [advance_phase_of_ne hki] at hk
      exact absurd hk (hother k r hki hj)
  · rw [advance_phase_of_ne hji] at hj
    by_cases hki : k = i
    · rw [hki, advance_phase_self] at hk
      exact absurd hj (hother j r hji hk)
    · rw [advance_phase_of_ne hki] at hk
      exact h j k r hj hk

end Holding

end Processes

end Transition
