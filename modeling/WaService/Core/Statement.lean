import Mathlib.Logic.Relation
import WaService.Core.Evolution

/-!
# Statements on a table

One statement inserts a row or changes the rows that it selects. What a program may
insert and how it may change a row are a predicate and a relation, so a fact about
all rows, or about one row that lives on, needs a look at single rows only. Programs
are sequences of statements, and what every statement keeps, a program keeps.
-/

namespace Relational

universe u

namespace Table

variable {ρ : Type u} [UniqueKeys ρ]

/-- An insert of a row that `New` admits, or an update whose replacements `Change` allows. -/
inductive Statement (New : ρ → Prop) (Change : ρ → ρ → Prop) (t : Table ρ) : Table ρ → Prop
  | insert {r : ρ} {t' : Table ρ} (hnew : New r) (h : t.insert? r = some t') :
      Statement New Change t t'
  | update {p : ρ → Bool} {f : ρ → ρ} (hk : Keeps p f)
      (h : ∀ a ∈ t.rows, p a = true → Change a (f a)) : Statement New Change t (t.update p f hk)

namespace Statement

variable {New : ρ → Prop} {Change : ρ → ρ → Prop} {t t' : Table ρ}

/-- Every row lives on, as it is or changed. -/
theorem kept (h : Statement New Change t t') {a : ρ} (ha : a ∈ t.rows) :
    ∃ b ∈ t'.rows, b = a ∨ Change a b := by
  cases h with
  | insert hnew hins => exact ⟨a, (mem_of_insert? hins).mpr (Or.inl ha), Or.inl rfl⟩
  | @update p f hk hchange =>
    refine ⟨patch p f a, mem_update.mpr ⟨a, ha, rfl⟩, ?_⟩
    by_cases hp : p a = true
    · rw [patch_of_pos hp]
      exact Or.inr (hchange a ha hp)
    · rw [patch_of_neg (by simpa using hp)]
      exact Or.inl rfl

/-- Every row was there, follows a row that was there, or is new. -/
theorem source (h : Statement New Change t t') {b : ρ} (hb : b ∈ t'.rows) :
    b ∈ t.rows ∨ (∃ a ∈ t.rows, Change a b) ∨ New b := by
  cases h with
  | insert hnew hins =>
    rcases (mem_of_insert? hins).mp hb with hb | rfl
    · exact Or.inl hb
    · exact Or.inr (Or.inr hnew)
  | @update p f hk hchange =>
    obtain ⟨a, ha, rfl⟩ := mem_update.mp hb
    by_cases hp : p a = true
    · rw [patch_of_pos hp]
      exact Or.inr (Or.inl ⟨a, ha, hchange a ha hp⟩)
    · rw [patch_of_neg (by simpa using hp)]
      exact Or.inl ha

/-- What new rows have and changes keep, all rows have. -/
theorem forall_rows {P : ρ → Prop} (h : Statement New Change t t') (hnew : ∀ b, New b → P b)
    (hchange : ∀ a b, Change a b → P a → P b) (ht : ∀ a ∈ t.rows, P a) : ∀ b ∈ t'.rows, P b := by
  intro b hb
  obtain hold | ⟨a, ha, hab⟩ | hn := h.source hb
  · exact ht b hold
  · exact hchange a b hab (ht a ha)
  · exact hnew b hn

/-- A row with a property that changes keep lives on with it. -/
theorem exists_row {Q : ρ → Prop} (h : Statement New Change t t')
    (hchange : ∀ a b, Change a b → Q a → Q b) (ht : ∃ a ∈ t.rows, Q a) : ∃ b ∈ t'.rows, Q b := by
  obtain ⟨a, ha, hq⟩ := ht
  obtain ⟨b, hb, rfl | hab⟩ := h.kept ha
  · exact ⟨b, hb, hq⟩
  · exact ⟨b, hb, hchange a b hab hq⟩

/-- Where nothing is admitted or allowed, the table stays. -/
theorem unchanged (h : Statement New Change t t') (hnew : ∀ a, ¬ New a)
    (hchange : ∀ a b, ¬ Change a b) : t' = t := by
  cases h with
  | insert hn => exact absurd hn (hnew _)
  | @update p f hk hc =>
    refine update_of_none fun a ha => ?_
    rw [Bool.eq_false_iff]
    exact fun hp => hchange _ _ (hc a ha hp)

/-- What no change of a row touches stays as it is, with that of the new rows at the end. -/
theorem appends {κ : Type*} (h : Statement New Change t t') (key : ρ → κ)
    (hchange : ∀ a b, Change a b → key b = key a) :
    ∃ news, t'.rows.map key = t.rows.map key ++ news ∧ ∀ k ∈ news, ∃ r, New r ∧ key r = k := by
  cases h with
  | @insert r _ hnew hins =>
    obtain ⟨-, hrows⟩ := insert?_eq_some.mp hins
    refine ⟨[key r], by rw [hrows, List.map_append, List.map_singleton], ?_⟩
    rintro k hk
    obtain rfl := List.mem_singleton.mp hk
    exact ⟨r, hnew, rfl⟩
  | @update p f hk hc =>
    refine ⟨[], ?_, List.forall_mem_nil _⟩
    rw [List.append_nil, rows_update, List.map_map]
    refine List.map_congr_left fun a ha => ?_
    by_cases hp : p a = true
    · rw [Function.comp_apply, patch_of_pos hp, hchange a (f a) (hc a ha hp)]
    · rw [Function.comp_apply, patch_of_neg (by simpa using hp)]

end Statement

end Table

/-- What every statement of a program keeps, the program keeps. -/
theorem preserved_of_steps {δ : Type u} {Write : δ → δ → Prop} (I : δ → Prop)
    (hwrite : ∀ d d', I d → Write d d' → I d') {d d' : δ}
    (h : Relation.ReflTransGen Write d d') (hd : I d) : I d' := by
  induction h with
  | refl => exact hd
  | tail _ hlast ih => exact hwrite _ _ ih hlast

end Relational
