import Mathlib.Data.List.Sort
import Mathlib.Order.Filter.Extr

/-!
# Sorted rows

The rows of a query with `ORDER BY score DESC LIMIT 1`, and what becomes of a best row when a
threshold is applied to it afterwards: since it has the highest score, it passes whenever any row
does. Rows that correspond one to one, and compare alike, still correspond after both are sorted.
-/

namespace Relational

universe u v

section Best

variable {α : Type u} {β : Type v} [LinearOrder β] {score : α → β} {S T : Set α} {a : α} {t : β}

/-- A member of the set that no other one scores above. -/
def Best (score : α → β) (S : Set α) (a : α) : Prop := a ∈ S ∧ IsMaxOn score S a

/-- The members that reach a threshold. -/
def above (score : α → β) (S : Set α) (t : β) : Set α := {a ∈ S | t ≤ score a}

/-- A best member that reaches a threshold is a best one of those that do. -/
theorem Best.above (h : Best score S a) (ht : t ≤ score a) : Best score (above score S t) a :=
  ⟨⟨h.1, ht⟩, h.2.on_subset fun _ hb => hb.1⟩

/-- When a best member does not reach a threshold, no member does. -/
theorem Best.above_eq_empty (h : Best score S a) (ht : score a < t) :
    Relational.above score S t = ∅ := by
  apply Set.eq_empty_of_forall_notMem
  rintro b ⟨hb, hreach⟩
  exact absurd (hreach.trans (isMaxOn_iff.mp h.2 b hb)) (not_le.mpr ht)

/-- The first of the rows in descending order of their scores is a best one. -/
theorem best_of_head? {rows : List α}
    (h : (rows.insertionSort fun a b => score b ≤ score a).head? = some a) :
    Best score {b | b ∈ rows} a := by
  have : Std.Total fun a b : α => score b ≤ score a := ⟨fun a b => le_total (score b) (score a)⟩
  have : IsTrans α fun a b => score b ≤ score a := ⟨fun _ _ _ hab hbc => hbc.trans hab⟩
  have hsorted := List.pairwise_insertionSort (fun a b : α => score b ≤ score a) rows
  have hmem : ∀ b, b ∈ rows.insertionSort (fun a b => score b ≤ score a) ↔ b ∈ rows :=
    fun b => List.mem_insertionSort _
  cases hlist : rows.insertionSort fun a b => score b ≤ score a with
  | nil => simp [hlist] at h
  | cons first rest =>
    rw [hlist] at h hsorted hmem
    cases h
    refine ⟨(hmem a).mp List.mem_cons_self, isMaxOn_iff.mpr fun b hb => ?_⟩
    rcases List.mem_cons.mp ((hmem b).mpr hb) with rfl | hrest
    · exact le_refl _
    · exact List.rel_of_pairwise_cons hsorted hrest

/-- There is no first row exactly when there are no rows. -/
theorem head?_insertionSort_eq_none {r : α → α → Prop} [DecidableRel r] {rows : List α} :
    (rows.insertionSort r).head? = none ↔ rows = [] := by
  rw [List.head?_eq_none_iff, ← List.length_eq_zero_iff, List.length_insertionSort,
    List.length_eq_zero_iff]

end Best

section Correspond

variable {α : Type u} {β : Type v} {R : α → β → Prop} {r : α → α → Prop} {s : β → β → Prop}
  [DecidableRel r] [DecidableRel s]

/-- Every entry of the first list has its counterpart. -/
theorem exists_of_forall₂_left {l : List α} {l' : List β} (h : List.Forall₂ R l l') {a : α}
    (ha : a ∈ l) : ∃ b ∈ l', R a b := by
  induction h with
  | nil => exact absurd ha List.not_mem_nil
  | cons hab _ ih =>
    rcases List.mem_cons.mp ha with rfl | ha
    · exact ⟨_, List.mem_cons_self, hab⟩
    · obtain ⟨b, hb, hR⟩ := ih ha
      exact ⟨b, List.mem_cons_of_mem _ hb, hR⟩

/-- Every entry of the second list has its counterpart. -/
theorem exists_of_forall₂_right {l : List α} {l' : List β} (h : List.Forall₂ R l l') {b : β}
    (hb : b ∈ l') : ∃ a ∈ l, R a b := by
  have hflip : List.Forall₂ (flip R) l' l := h.flip
  exact exists_of_forall₂_left hflip hb

theorem forall₂_orderedInsert (h : ∀ a b a' b', R a a' → R b b' → (r a b ↔ s a' b')) {a : α}
    {a' : β} (ha : R a a') {l : List α} {l' : List β} (hl : List.Forall₂ R l l') :
    List.Forall₂ R (l.orderedInsert r a) (l'.orderedInsert s a') := by
  induction hl with
  | nil => exact .cons ha .nil
  | @cons b b' l l' hb hl ih =>
    rw [List.orderedInsert_cons, List.orderedInsert_cons]
    by_cases hr : r a b
    · rw [if_pos hr, if_pos ((h a b a' b' ha hb).mp hr)]
      exact .cons ha (.cons hb hl)
    · rw [if_neg hr, if_neg (mt (h a b a' b' ha hb).mpr hr)]
      exact .cons hb ih

/-- Rows that compare alike are sorted alike. -/
theorem forall₂_insertionSort (h : ∀ a b a' b', R a a' → R b b' → (r a b ↔ s a' b'))
    {l : List α} {l' : List β} (hl : List.Forall₂ R l l') :
    List.Forall₂ R (l.insertionSort r) (l'.insertionSort s) := by
  induction hl with
  | nil => exact .nil
  | cons ha _ ih => exact forall₂_orderedInsert h ha ih

end Correspond

end Relational
