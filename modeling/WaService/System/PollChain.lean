import Mathlib.Logic.Function.Iterate
import WaService.Worker.Poll

/-!
# The chain of DI polls

The poll that the download task defers, and the polls that defer each other after it. Every run
reads the next answer of audit-core; the queue accepts every job and repeats none.
-/

namespace WaService

open Python

/-- The chain: its database, its outstanding jobs and the status polls made so far. -/
structure PollChain where
  db : Db
  jobs : List PollJob
  polls : Nat

/-- The arguments of a poll. -/
def Job.pollArgs : Job → Option PollJob
  | .pollDiDocument args => some args
  | _ => none

/-- The calls of a run: the status is the next answer, the booking facts are the one after it. -/
def chainCalls (answers : Nat → HttpAnswer) (now : Nat → Timestamp) (polls : Nat) : PollCalls :=
  ⟨now polls, pollEvidenceStatus (answers polls), fetchBookingFields (answers (polls + 1)), true⟩

/-- A worker takes the first job and runs it; a run that does not start asks nothing. -/
def PollChain.step (env : Env) (answers : Nat → HttpAnswer) (now : Nat → Timestamp)
    (c : PollChain) : PollChain :=
  match c.jobs with
  | [] => c
  | job :: others =>
    let r := pollDiDocument env c.db (chainCalls answers now c.polls) job
    { db := r.db
      jobs := others ++ r.jobs.filterMap Job.pollArgs
      polls := if job.scheduleIn.isNone then c.polls + 1 else c.polls }

variable {env : Env} {answers : Nat → HttpAnswer} {now : Nat → Timestamp} {c : PollChain}

/-- The chain is over. -/
theorem PollChain.step_nil (h : c.jobs = []) : c.step env answers now = c := by
  unfold PollChain.step
  rw [h]

theorem PollChain.step_single {job : PollJob} (h : c.jobs = [job]) :
    c.step env answers now =
      ⟨(pollDiDocument env c.db (chainCalls answers now c.polls) job).db,
        (pollDiDocument env c.db (chainCalls answers now c.polls) job).jobs.filterMap Job.pollArgs,
        if job.scheduleIn.isNone then c.polls + 1 else c.polls⟩ := by
  unfold PollChain.step
  rw [h]
  rfl

/-! ## What a run of the poll defers -/

/-- A run defers nothing, or the next attempt when one is left. -/
theorem pollDiDocument_jobs (env : Env) (db : Db) (calls : PollCalls) (job : PollJob) :
    (pollDiDocument env db calls job).jobs = [] ∨
      job.scheduleIn = none ∧ job.attempt + 1 < maxDiPollAttempts ∧ ∃ delay,
        (pollDiDocument env db calls job).jobs =
          [.pollDiDocument { job with attempt := job.attempt + 1, scheduleIn := some delay }] := by
  have hnext : decide (maxDiPollAttempts - 1 ≤ job.attempt) = false →
      job.attempt + 1 < maxDiPollAttempts := by
    intro h
    have hle := of_decide_eq_false h
    omega
  have hreschedule : (reschedulePoll db calls job).jobs = [] ∨ ∃ delay,
      (reschedulePoll db calls job).jobs =
        [.pollDiDocument { job with attempt := job.attempt + 1, scheduleIn := some delay }] := by
    unfold reschedulePoll
    simp only
    split
    · exact Or.inr ⟨_, rfl⟩
    · exact Or.inl rfl
  unfold pollDiDocument
  split
  · exact Or.inl rfl
  · rename_i hfresh
    simp only
    split
    · exact Or.inl rfl
    · split
      · exact Or.inl rfl
      · rename_i hleft
        have hexhausted := (Bool.or_eq_false_iff.mp (Bool.eq_false_of_not_eq_true hleft)).2
        exact hreschedule.imp_right fun h => ⟨hfresh, hnext hexhausted, h⟩
    · split
      · exact Or.inl (concludePoll_jobs env db calls job _)
      · split
        · exact Or.inl rfl
        · rename_i hleft
          have hexhausted := Bool.eq_false_of_not_eq_true hleft
          exact hreschedule.imp_right fun h => ⟨hfresh, hnext hexhausted, h⟩

/-! ## Every chain -/

/-- No job is left, or one whose attempt is the number of polls made. -/
def PollChain.Counted (c : PollChain) : Prop :=
  c.polls ≤ maxDiPollAttempts ∧ (c.jobs = [] ∨
    ∃ job, c.jobs = [job] ∧ job.attempt = c.polls ∧ job.attempt < maxDiPollAttempts)

theorem PollChain.Counted.step (h : c.Counted) : (c.step env answers now).Counted := by
  obtain ⟨hpolls, hjobs | ⟨job, hjobs, hattempt, hlt⟩⟩ := h
  · rw [PollChain.step_nil hjobs]
    exact ⟨hpolls, Or.inl hjobs⟩
  · rw [PollChain.step_single hjobs]
    have hcount : (if job.scheduleIn.isNone then c.polls + 1 else c.polls) ≤ maxDiPollAttempts := by
      split
      · omega
      · exact hpolls
    refine ⟨hcount, ?_⟩
    obtain hnone | ⟨hfresh, hnext, delay, hsome⟩ :=
      pollDiDocument_jobs env c.db (chainCalls answers now c.polls) job
    · rw [hnone]
      exact Or.inl rfl
    · rw [hsome, hfresh]
      exact Or.inr ⟨_, rfl, by simp [hattempt], hnext⟩

/-- A chain makes seven polls at most and never has two outstanding jobs. -/
theorem PollChain.Counted.iterate (h : c.Counted) (n : Nat) :
    ((PollChain.step env answers now)^[n] c).Counted := by
  induction n with
  | zero => exact h
  | succ n ih =>
    rw [Function.iterate_succ_apply']
    exact ih.step

end WaService
