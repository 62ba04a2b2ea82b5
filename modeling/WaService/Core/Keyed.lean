import Mathlib.Data.List.Sort
import Mathlib.Logic.Function.Basic
import WaService.Core.Table

/-!
# Tables as partial maps

Where a unique index has a key for every row, a table is a partial map from keys to rows: an insert
binds a free key, and an update of one row binds its key anew. The rows that a query selects, in
the order that it asks for, are a listing of what the map holds.
-/

namespace Relational

universe u

namespace Table

variable {ρ : Type u} [UniqueKeys ρ] {κ : Type*} [DecidableEq κ] {key : ρ → κ} {k : κ}
  {t t' : Table ρ} {r : ρ}

/-- The row with a key. -/
def view (t : Table ρ) (key : ρ → κ) (k : κ) : Option ρ := t.rows.find? fun r => key r == k

/-- A unique index holds the key of every row. -/
def Indexed (key : ρ → κ) : Prop := ∀ a b : ρ, key a = key b → clash a b = true

theorem view_eq_some (hkey : Indexed key) : t.view key k = some r ↔ r ∈ t.rows ∧ key r = k := by
  constructor
  · intro h
    exact ⟨List.mem_of_find?_eq_some h, by simpa using List.find?_some h⟩
  · rintro ⟨hr, rfl⟩
    exact find?_eq_some_of_mem hr (beq_self_eq_true _) fun b hb => hkey b r (beq_iff_eq.mp hb)

theorem view_eq_none : t.view key k = none ↔ ∀ r ∈ t.rows, key r ≠ k := by
  simp [view]

/-- An insert binds the key of the row. -/
theorem view_insert? (hkey : Indexed key) (h : t.insert? r = some t') :
    t'.view key = Function.update (t.view key) (key r) (some r) := by
  obtain ⟨hfree, hrows⟩ := insert?_eq_some.mp h
  funext k
  unfold view
  rw [hrows, List.find?_append]
  by_cases hk : k = key r
  · subst hk
    have hnone : t.rows.find? (fun a => key a == key r) = none := by
      refine List.find?_eq_none.mpr fun a ha => ?_
      rw [beq_iff_eq]
      intro hsame
      have hclash := hkey a r hsame
      rw [hfree a ha] at hclash
      contradiction
    simp [hnone]
  · rw [Function.update_of_ne hk]
    have hother : [r].find? (fun a => key a == k) = none := by simp [Ne.symm hk]
    rw [hother, Option.or_none]

/-- An update of one row binds its key anew. -/
theorem view_update {p : ρ → Bool} {f : ρ → ρ} (hk : Keeps p f) (hkey : Indexed key)
    (hr : r ∈ t.rows) (hp : p r = true) (hone : ∀ a ∈ t.rows, p a = true → a = r)
    (hf : ∀ a, key (f a) = key a) :
    (t.update p f hk).view key = Function.update (t.view key) (key r) (some (f r)) := by
  have hsel : ∀ k a, p a = true → (key (f a) == k) = (key a == k) := fun k a _ => by rw [hf a]
  funext k
  have hupdated : (t.update p f hk).view key k = (t.view key k).map (patch p f) :=
    find?_update t (hsel k)
  rw [hupdated]
  by_cases hkr : k = key r
  · subst hkr
    rw [(view_eq_some hkey).mpr ⟨hr, rfl⟩, Function.update_self, Option.map_some, patch_of_pos hp]
  · rw [Function.update_of_ne hkr]
    cases hview : t.view key k with
    | none => rfl
    | some a =>
      obtain ⟨ha, hak⟩ := (view_eq_some hkey).mp hview
      have hnot : p a = false := by
        rw [Bool.eq_false_iff]
        intro hpa
        rw [hone a ha hpa] at hak
        exact hkr hak.symm
      rw [Option.map_some, patch_of_neg hnot]

end Table

/-! ## Listings -/

/-- Everything with a property, once each, in order. -/
structure Listing {γ : Type*} (P : γ → Prop) (before : γ → γ → Prop) (all : List γ) : Prop where
  mem : ∀ c, c ∈ all ↔ P c
  nodup : all.Nodup
  sorted : all.Pairwise before

/-- Properties of the same things have the same listings. -/
theorem Listing.congr {γ : Type*} {P Q : γ → Prop} {before : γ → γ → Prop} {all : List γ}
    (h : Listing P before all) (hpq : ∀ c, P c ↔ Q c) : Listing Q before all :=
  ⟨fun c => (h.mem c).trans (hpq c), h.nodup, h.sorted⟩

/-- The selected rows of a table, sorted, list what the rows show. -/
theorem listing_insertionSort {ρ γ : Type*} [UniqueKeys ρ] (t : Table ρ) (q : ρ → Bool)
    {g : ρ → γ} {before : γ → γ → Prop} [DecidableRel fun a b => before (g a) (g b)]
    (htotal : ∀ a b, before a b ∨ before b a)
    (htrans : ∀ a b c, before a b → before b c → before a c)
    (hself : ∀ a : ρ, clash a a = true) (hg : ∀ a b : ρ, g a = g b → clash a b = true) :
    Listing (fun c => ∃ a ∈ t.rows, q a = true ∧ g a = c) before
      (((t.rows.filter q).insertionSort fun a b => before (g a) (g b)).map g) where
  mem c := by simp [List.mem_insertionSort, and_assoc]
  nodup := by
    have hnodup : ((t.rows.filter q).insertionSort fun a b => before (g a) (g b)).Nodup :=
      (List.perm_insertionSort _ _).nodup_iff.mpr ((t.nodup_rows hself).filter q)
    refine hnodup.map_on fun a ha b hb hab => ?_
    rw [List.mem_insertionSort, List.mem_filter] at ha hb
    exact Table.eq_of_clash ha.1 hb.1 (hg a b hab)
  sorted := by
    have : Std.Total fun a b => before (g a) (g b) := ⟨fun a b => htotal (g a) (g b)⟩
    have : IsTrans ρ fun a b => before (g a) (g b) := ⟨fun a b c => htrans (g a) (g b) (g c)⟩
    exact List.pairwise_map.mpr (List.pairwise_insertionSort _ _)

end Relational
