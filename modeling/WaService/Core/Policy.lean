import WaService.Core.Table

/-!
# Row-level security

A policy is a predicate on rows. A statement sees the rows that satisfy it and may write only such
rows; unique indexes still hold all rows. The part of a table that is visible and the table that
results from a new visible part form a lens, in which an update of the visible part is the update
whose predicate has the policy added to it.
-/

namespace Relational

universe u

variable {ρ : Type u} {q p : ρ → Bool} {f : ρ → ρ}

/-- The rows that satisfy `q` are replaced in order by new ones; further new rows come last. -/
def mergeRows (q : ρ → Bool) : List ρ → List ρ → List ρ
  | [], new => new
  | a :: old, new =>
    if q a then
      match new with
      | [] => mergeRows q old []
      | b :: rest => b :: mergeRows q old rest
    else a :: mergeRows q old new

theorem mergeRows_map_filter (g : ρ → ρ) (rows : List ρ) :
    mergeRows q rows ((rows.filter q).map g) = rows.map (patch q g) := by
  induction rows with
  | nil => rfl
  | cons a rest ih =>
    by_cases ha : q a = true
    · rw [List.filter_cons_of_pos ha, List.map_cons, List.map_cons, patch_of_pos ha, ← ih]
      simp only [mergeRows, if_pos ha]
    · have hneg : q a = false := by simpa using ha
      rw [List.filter_cons_of_neg ha, List.map_cons, patch_of_neg hneg, ← ih]
      simp only [mergeRows, hneg, Bool.false_eq_true, if_false]

/-- Where every row is visible, the new rows take the place of all. -/
theorem mergeRows_all (h : ∀ a, q a = true) (old new : List ρ) : mergeRows q old new = new := by
  induction old generalizing new with
  | nil => rfl
  | cons a rest ih =>
    simp only [mergeRows, if_pos (h a)]
    cases new with
    | nil => exact ih []
    | cons b more => exact congrArg (List.cons b) (ih more)

/-- An update of the visible rows adds the policy to its predicate. -/
theorem patch_patch (a : ρ) : patch q (patch p f) a = patch (fun a => q a && p a) f a := by
  unfold patch
  by_cases hq : q a = true
  · simp [hq]
  · simp [hq]

namespace Table

variable [UniqueKeys ρ]

/-- The visible part of a table. -/
def visible (q : ρ → Bool) (t : Table ρ) : Table ρ := ⟨t.rows.filter q, t.unique.filter q⟩

/-- The table with a new visible part. Every new row must satisfy the policy, and no unique index
may hold its key for a hidden row. -/
def restore? (q : ρ → Bool) (old new : Table ρ) : Option (Table ρ) :=
  if new.rows.all q then
    if h : (mergeRows q old.rows new.rows).Pairwise fun a b => clash a b = false then
      some ⟨mergeRows q old.rows new.rows, h⟩
    else none
  else none

theorem restore?_eq_some {old new t : Table ρ} (hq : new.rows.all q = true)
    (ht : mergeRows q old.rows new.rows = t.rows) : old.restore? q new = some t := by
  unfold restore?
  rw [if_pos hq]
  have hunique : (mergeRows q old.rows new.rows).Pairwise fun a b => clash a b = false := by
    rw [ht]
    exact t.unique
  rw [dif_pos hunique]
  exact congrArg some (Table.ext ht)

theorem visible_all (h : ∀ a, q a = true) (t : Table ρ) : t.visible q = t :=
  Table.ext (List.filter_eq_self.mpr fun a _ => h a)

theorem visible_none (h : ∀ a, q a = false) (t : Table ρ) : t.visible q = empty := by
  refine Table.ext (List.filter_eq_nil_iff.mpr fun a _ => ?_)
  simp [h a]

theorem restore?_all (h : ∀ a, q a = true) (old new : Table ρ) : old.restore? q new = some new :=
  restore?_eq_some (List.all_eq_true.mpr fun a _ => h a) (mergeRows_all h old.rows new.rows)

/-- A predicate that selects fewer rows. -/
theorem Keeps.and (hk : Keeps p f) (q : ρ → Bool) : Keeps (fun a => q a && p a) f :=
  fun a b ha hc => hk a b (Bool.and_eq_true_iff.mp ha).2 hc

/-- `UPDATE` under a policy: the policy is added to the predicate. -/
theorem restore?_update (hk : Keeps p f) (hq : ∀ a, p a = true → q (f a) = q a) (t : Table ρ) :
    t.restore? q ((t.visible q).update p f hk) =
      some (t.update (fun a => q a && p a) f (hk.and q)) := by
  refine restore?_eq_some ?_ ?_
  · apply List.all_eq_true.mpr
    intro b hb
    obtain ⟨a, ha, rfl⟩ := mem_update.mp hb
    rw [patch_proj hq]
    exact (List.mem_filter.mp ha).2
  · apply (mergeRows_map_filter (patch p f) t.rows).trans
    exact List.map_congr_left fun a _ => patch_patch a

/-- A part that is written back unchanged. -/
theorem restore?_visible (t : Table ρ) : t.restore? q (t.visible q) = some t := by
  refine restore?_eq_some ?_ ?_
  · exact List.all_eq_true.mpr fun a ha => (List.mem_filter.mp ha).2
  · have hid : mergeRows q t.rows ((t.rows.filter q).map id) = t.rows.map (patch q id) :=
      mergeRows_map_filter id t.rows
    have hpatch : patch q id = id := funext fun a => patch_proj (g := id) (fun _ _ => rfl) a
    rwa [List.map_id, hpatch, List.map_id] at hid

end Table

end Relational
