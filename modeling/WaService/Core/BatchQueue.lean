import Mathlib.Data.List.Sort
import Mathlib.Algebra.Order.BigOperators.Group.List
import Mathlib.Algebra.Order.Ring.Nat
import WaService.Core.Run
import WaService.Core.Statement

/-!
# Queues that are served in batches

A tick serves the first rows of a table in the order of a key, a bounded number of them. The
work ahead of a row is a weight of the rows. Where nothing puts work ahead of it, and a
tick that passes over it does as much work as a batch has rows, it is served within a
number of ticks that its start determines.
-/

namespace Relational

/-! ## Batches -/

section Batch

variable {ρ κ : Type*} [LinearOrder κ] {key : ρ → κ} {rows : List ρ} {x y : ρ} {n : Nat}

/-- The first `n` rows in the order of their keys. -/
def batch (key : ρ → κ) (n : Nat) (rows : List ρ) : List ρ :=
  (rows.insertionSort fun a b => key a ≤ key b).take n

theorem mem_of_mem_batch (h : x ∈ batch key n rows) : x ∈ rows :=
  (List.mem_insertionSort _).mp (List.mem_of_mem_take h)

/-- A row that is not in the batch has a full batch ahead of it. -/
theorem batch_of_not_mem (hx : x ∈ rows) (hnot : x ∉ batch key n rows) :
    (batch key n rows).length = n ∧ ∀ y ∈ batch key n rows, key y ≤ key x := by
  have hsorted := List.pairwise_insertionSort (fun a b : ρ => key a ≤ key b) rows
  have hmem : x ∈ rows.insertionSort fun a b => key a ≤ key b := (List.mem_insertionSort _).mpr hx
  unfold batch at hnot ⊢
  generalize rows.insertionSort (fun a b => key a ≤ key b) = sorted at hsorted hmem hnot ⊢
  have hrest : x ∈ sorted.drop n := by
    rw [← List.take_append_drop n sorted] at hmem
    exact (List.mem_append.mp hmem).resolve_left hnot
  constructor
  · have hlength := List.length_pos_of_mem hrest
    rw [List.length_drop] at hlength
    rw [List.length_take]
    omega
  · rw [← List.take_append_drop n sorted, List.pairwise_append] at hsorted
    exact fun y hy => hsorted.2.2 y hy x hrest

theorem nodup_batch (h : rows.Nodup) : (batch key n rows).Nodup :=
  ((List.perm_insertionSort _ rows).nodup_iff.mpr h).sublist (List.take_sublist n _)

variable (key n) in
/-- A claim by the ids of the batch selects at least the batch. -/
theorem length_batch_le_selected {ι : Type*} [BEq ι] [LawfulBEq ι] (q : ρ → Bool) (id : ρ → ι)
    (h : rows.Nodup) : (batch key n (rows.filter q)).length ≤ (rows.filter fun r => q r &&
      ((batch key n (rows.filter q)).map id).contains (id r)).length := by
  refine (List.subperm_of_subset (nodup_batch (h.filter _)) fun r hr => ?_).length_le
  obtain ⟨hrow, hq⟩ := List.mem_filter.mp (mem_of_mem_batch hr)
  refine List.mem_filter.mpr ⟨hrow, ?_⟩
  simp only [hq, Bool.true_and, List.contains_iff_mem]
  exact List.mem_map_of_mem hr

end Batch

/-! ## Work in a table -/

namespace Table

variable {ρ : Type*} [UniqueKeys ρ] {g : ρ → Nat} {New : ρ → Prop} {Change : ρ → ρ → Prop}
  {t t' : Table ρ}

/-- The weight of the rows of a table. -/
def weight (g : ρ → Nat) (t : Table ρ) : Nat := (t.rows.map g).sum

omit [UniqueKeys ρ] in
/-- An update that takes something off every selected row takes off their number. -/
theorem weight_patch {p : ρ → Bool} {f : ρ → ρ} {rows : List ρ}
    (h : ∀ a ∈ rows, p a = true → g (f a) + 1 ≤ g a) :
    ((rows.map (patch p f)).map g).sum + (rows.filter p).length ≤ (rows.map g).sum := by
  induction rows with
  | nil => simp
  | cons a rest ih =>
    obtain ⟨ha, hrest⟩ := List.forall_mem_cons.mp h
    have hsum := ih hrest
    simp only [List.map_cons, List.sum_cons]
    cases hp : p a with
    | false =>
      rw [patch_of_neg hp, List.filter_cons_of_neg (by simp [hp])]
      omega
    | true =>
      have hless := ha hp
      rw [patch_of_pos hp, List.filter_cons_of_pos hp, List.length_cons]
      omega

/-- Statements whose new rows weigh nothing and whose changes add nothing do not add weight. -/
theorem Statement.weight_le (h : t.Statement New Change t') (hnew : ∀ a, New a → g a = 0)
    (hchange : ∀ a b, Change a b → g b ≤ g a) : t'.weight g ≤ t.weight g := by
  cases h with
  | insert hn hins => simp [weight, rows_of_insert? hins, hnew _ hn]
  | @update p f hk hc =>
    simp only [weight, rows_update, List.map_map]
    apply List.sum_le_sum
    intro a ha
    cases hp : p a with
    | false => rw [Function.comp_apply, patch_of_neg hp]
    | true =>
      rw [Function.comp_apply, patch_of_pos hp]
      exact hchange a _ (hc a ha hp)

end Table

end Relational

/-! ## Service within a bounded number of ticks -/

namespace Transition

variable {σ α : Type*} {step : σ → α → Option σ}

/-- What waits is served when the ticks of the run take more off its rank than there is. -/
theorem exists_served (Waits : σ → Prop) (Serves : σ → α → Prop) (rank : σ → Nat)
    {tick : α → Bool} {n : Nat} {C : α → Prop}
    (hstep : ∀ s a s', C a → Waits s → step s a = some s' →
      Serves s a ∨ (Waits s' ∧ rank s' + (if tick a then n else 0) ≤ rank s))
    {s t : σ} {as : List α} (hr : run step s as = some t) (hc : ∀ a ∈ as, C a) (hs : Waits s)
    (henough : rank s < n * as.countP tick) : ∃ e ∈ trace step s as, Serves e.1 e.2 := by
  induction as generalizing s with
  | nil => simp at henough
  | cons a as ih =>
    obtain ⟨s', ha, hr⟩ := run_cons.mp hr
    obtain ⟨hca, hcas⟩ := List.forall_mem_cons.mp hc
    have htrace : trace step s (a :: as) = (s, a) :: trace step s' as := by simp [trace, ha]
    rw [htrace]
    obtain hserved | ⟨hwaits, hrank⟩ := hstep s a s' hca hs ha
    · exact ⟨(s, a), List.mem_cons_self, hserved⟩
    · have hmore : rank s' < n * as.countP tick := by
        cases htick : tick a with
        | false =>
          rw [List.countP_cons_of_neg (by simp [htick])] at henough
          rw [htick] at hrank
          exact lt_of_le_of_lt hrank henough
        | true =>
          rw [List.countP_cons_of_pos htick, Nat.mul_succ] at henough
          simp only [htick, if_true] at hrank
          omega
      obtain ⟨e, he, hserved⟩ := ih hr hcas hwaits hmore
      exact ⟨e, List.mem_cons_of_mem _ he, hserved⟩

end Transition
