import WaService.Core.Run

/-!
# Causes in a run

Some actions of a system take a job that an earlier event has put into a queue. Along a
run that starts with an empty queue every event then ends a chain of causes, in the order
of the run, that begins with an action that needs no job.
-/

namespace Transition

universe u v w

variable {σ : Type u} {α : Type v} {ι : Type w} {step : σ → α → Option σ}

/-- An event of a trace starts in the state that the actions before it reach. -/
theorem run_of_trace_eq {s t : σ} {as : List α} (hr : run step s as = some t)
    {before after : List (σ × α)} {e : σ × α} (he : trace step s as = before ++ e :: after) :
    ∃ bs, run step s bs = some e.1 ∧ trace step s bs = before ∧ ∃ m, step e.1 e.2 = some m := by
  induction as generalizing s before with
  | nil => simp [trace] at he
  | cons a as ih =>
    obtain ⟨s', ha, hr⟩ := run_cons.mp hr
    simp only [trace, ha, Option.map_some, Option.getD_some] at he
    cases before with
    | nil =>
      obtain ⟨rfl, -⟩ := List.cons.inj he
      exact ⟨[], rfl, rfl, s', ha⟩
    | cons e₀ before =>
      rw [List.cons_append] at he
      obtain ⟨rfl, hrest⟩ := List.cons.inj he
      obtain ⟨bs, hbs, htrace, hm⟩ := ih hr hrest
      exact ⟨a :: bs, run_cons.mpr ⟨s', ha, hbs⟩, by simp [trace, ha, htrace], hm⟩

/-- A queue of jobs: what a state holds, what an event puts into it and what an action takes. -/
structure WorkQueue (step : σ → α → Option σ) (ι : Type w) where
  queued : σ → List ι
  defers : σ × α → List ι
  takes : α → Option ι
  stored : ∀ {s a s' j}, step s a = some s' → takes a = some j → j ∈ queued s
  source : ∀ {s a s' j}, step s a = some s' → j ∈ queued s' → j ∈ queued s ∨ j ∈ defers (s, a)

namespace WorkQueue

variable (q : WorkQueue step ι)

/-- The first event defers the job that the second takes. -/
def Causes (e e' : σ × α) : Prop := ∃ j ∈ q.defers e, q.takes e'.2 = some j

/-- Each event is caused by the one before it, and the first needs no job. -/
inductive Chain : List (σ × α) → σ × α → Prop
  | root {e : σ × α} (h : q.takes e.2 = none) : Chain [e] e
  | snoc {es : List (σ × α)} {e e' : σ × α} (hes : Chain es e) (h : q.Causes e e') :
      Chain (es ++ [e']) e'

variable {q} {s t : σ} {as : List α}

/-- Every event so far ends a chain of causes, and every queued job was deferred by one of them. -/
structure Traced (q : WorkQueue step ι) (past : List (σ × α)) (s : σ) : Prop where
  chains : ∀ e ∈ past, ∃ es, es.Sublist past ∧ q.Chain es e
  queued : ∀ j ∈ q.queued s, ∃ e ∈ past, j ∈ q.defers e

theorem Traced.extend {past : List (σ × α)} {a : α} {s' : σ} (h : q.Traced past s)
    (hs : step s a = some s') : q.Traced (past ++ [(s, a)]) s' := by
  constructor
  · intro e he
    rcases List.mem_append.mp he with he | he
    · obtain ⟨es, hes, hchain⟩ := h.chains e he
      exact ⟨es, hes.trans (List.sublist_append_left past _), hchain⟩
    · obtain rfl := List.mem_singleton.mp he
      cases htakes : q.takes a with
      | none => exact ⟨[(s, a)], List.sublist_append_right past _, .root htakes⟩
      | some j =>
        obtain ⟨e, he, hdefers⟩ := h.queued j (q.stored hs htakes)
        obtain ⟨es, hes, hchain⟩ := h.chains e he
        exact ⟨es ++ [(s, a)], hes.append_right _, hchain.snoc ⟨j, hdefers, htakes⟩⟩
  · intro j hj
    rcases q.source hs hj with hj | hj
    · obtain ⟨e, he, hdefers⟩ := h.queued j hj
      exact ⟨e, List.mem_append_left _ he, hdefers⟩
    · exact ⟨(s, a), List.mem_append_right _ (List.mem_singleton_self _), hj⟩

end WorkQueue

end Transition
