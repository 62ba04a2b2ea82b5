import Mathlib.Data.List.Basic
import Mathlib.Data.List.Pairwise

/-!
# Tables with unique keys

A relation declares which pairs of rows its unique indexes refuse to hold
together; a table is a list of rows no two of which clash. Inserts check the
indexes. An update must be shown to create no clash, so uniqueness never has to
be reproved for the states that a program reaches. Row order is heap order.
-/

namespace Relational

universe u

section Patch

variable {ρ : Type u} {p : ρ → Bool} {f : ρ → ρ}

/-- One row under an `UPDATE`. -/
def patch (p : ρ → Bool) (f : ρ → ρ) (a : ρ) : ρ := if p a = true then f a else a

theorem patch_of_pos {a : ρ} (h : p a = true) : patch p f a = f a := if_pos h

theorem patch_of_neg {a : ρ} (h : p a = false) : patch p f a = a := by simp [patch, h]

theorem patch_eq_or (p : ρ → Bool) (f : ρ → ρ) (a : ρ) : patch p f a = f a ∨ patch p f a = a := by
  unfold patch
  split
  · exact Or.inl rfl
  · exact Or.inr rfl

/-- A quantity that `f` leaves alone on the selected rows is left alone on every row. -/
theorem patch_proj {β : Type*} {g : ρ → β} (h : ∀ a, p a = true → g (f a) = g a) (a : ρ) :
    g (patch p f a) = g a := by
  unfold patch
  split
  · exact h a ‹_›
  · rfl

end Patch

/-- The unique indexes of a relation, read as the pairs of rows they exclude. -/
class UniqueKeys (ρ : Type u) where
  /-- Some unique index holds the same key for both rows. -/
  clash : ρ → ρ → Bool
  /-- Sharing a key does not depend on the order of the two rows. -/
  clash_symm : ∀ a b, clash a b = clash b a

export UniqueKeys (clash clash_symm)

/-- Index keys are equal only when both are present: NULLs are distinct, and a
partial index has no key for the rows outside its predicate. -/
def sameKey {κ : Type*} [BEq κ] : Option κ → Option κ → Bool
  | some x, some y => x == y
  | _, _ => false

theorem sameKey_iff {κ : Type*} [BEq κ] [LawfulBEq κ] {x y : Option κ} :
    sameKey x y = true ↔ ∃ k, x = some k ∧ y = some k := by
  cases x <;> cases y <;> simp [sameKey]
  exact eq_comm

theorem sameKey_comm {κ : Type*} [BEq κ] [LawfulBEq κ] (x y : Option κ) :
    sameKey x y = sameKey y x := by
  rw [Bool.eq_iff_iff, sameKey_iff, sameKey_iff]
  exact exists_congr fun k => and_comm

/-- The unique indexes of a relation with a primary key and one further key. -/
@[reducible] def UniqueKeys.of {ρ : Type u} {κ₁ κ₂ : Type*} [BEq κ₁] [LawfulBEq κ₁] [BEq κ₂]
    [LawfulBEq κ₂] (k₁ : ρ → Option κ₁) (k₂ : ρ → Option κ₂) : UniqueKeys ρ where
  clash a b := sameKey (k₁ a) (k₁ b) || sameKey (k₂ a) (k₂ b)
  clash_symm a b := by rw [sameKey_comm (k₁ a), sameKey_comm (k₂ a)]

/-- The stored rows of a relation, no two of them sharing a unique key. -/
structure Table (ρ : Type u) [UniqueKeys ρ] where
  /-- Rows in heap order. -/
  rows : List ρ
  /-- Every unique index holds. -/
  unique : rows.Pairwise fun a b => clash a b = false

namespace Table

variable {ρ : Type u} [UniqueKeys ρ]

@[ext] theorem ext {t u : Table ρ} (h : t.rows = u.rows) : t = u := by
  cases t
  cases u
  simpa using h

/-- The table with no rows. -/
def empty : Table ρ := ⟨[], List.Pairwise.nil⟩

instance : Inhabited (Table ρ) := ⟨empty⟩

/-- The table with one row. -/
def singleton (r : ρ) : Table ρ := ⟨[r], List.pairwise_singleton _ _⟩

/-- Two stored rows that share a unique key are one row. -/
theorem eq_of_clash {t : Table ρ} {a b : ρ} (ha : a ∈ t.rows) (hb : b ∈ t.rows)
    (h : clash a b = true) : a = b := by
  obtain ⟨i, hi, rfl⟩ := List.mem_iff_getElem.mp ha
  obtain ⟨j, hj, rfl⟩ := List.mem_iff_getElem.mp hb
  have hp := List.pairwise_iff_getElem.mp t.unique
  rcases Nat.lt_trichotomy i j with hij | rfl | hij
  · simp [hp i j hi hj hij] at h
  · rfl
  · rw [clash_symm, hp j i hj hi hij] at h
    contradiction

/-- Where a row shares a key with itself, no row is stored twice. -/
theorem nodup_rows (t : Table ρ) (hself : ∀ a : ρ, clash a a = true) : t.rows.Nodup := by
  refine t.unique.imp fun {a b} hfree => ?_
  rintro rfl
  rw [hself a] at hfree
  contradiction

/-- A selection holds at most one row exactly when any two rows that it selects are one. -/
theorem filter_length_le_one_iff (t : Table ρ) {p : ρ → Bool}
    (hself : ∀ a, p a = true → clash a a = true) :
    (t.rows.filter p).length ≤ 1 ↔
      ∀ a ∈ t.rows, ∀ b ∈ t.rows, p a = true → p b = true → a = b := by
  constructor
  · intro h a ha b hb hpa hpb
    have hmema : a ∈ t.rows.filter p := List.mem_filter.mpr ⟨ha, hpa⟩
    have hmemb : b ∈ t.rows.filter p := List.mem_filter.mpr ⟨hb, hpb⟩
    obtain ⟨r, hr⟩ := List.length_eq_one_iff.mp
      (Nat.le_antisymm h (List.length_pos_of_mem hmema))
    rw [hr, List.mem_singleton] at hmema hmemb
    rw [hmema, hmemb]
  · intro h
    have hfree := t.unique.filter p
    cases hrows : t.rows.filter p with
    | nil => exact Nat.zero_le 1
    | cons a rest =>
      cases rest with
      | nil => exact Nat.le_refl 1
      | cons b rest =>
        have hmem : ∀ r ∈ a :: b :: rest, r ∈ t.rows ∧ p r = true := by
          rw [← hrows]
          exact fun r hr => List.mem_filter.mp hr
        obtain ⟨ha, hpa⟩ := hmem a (by simp)
        obtain ⟨hb, hpb⟩ := hmem b (by simp)
        obtain rfl := h a ha b hb hpa hpb
        rw [hrows] at hfree
        have hclash := hself a hpa
        rw [List.rel_of_pairwise_cons hfree List.mem_cons_self] at hclash
        contradiction

/-- A selection by a unique key holds at most one row. -/
theorem filter_length_le_one (t : Table ρ) {p : ρ → Bool}
    (hkey : ∀ a b, p a = true → p b = true → clash a b = true) : (t.rows.filter p).length ≤ 1 := by
  apply (filter_length_le_one_iff t fun a ha => hkey a a ha ha).mpr
  intro a ha b hb hpa hpb
  exact eq_of_clash ha hb (hkey a b hpa hpb)

/-- It holds exactly the row that it finds. -/
theorem filter_eq_singleton {t : Table ρ} {p : ρ → Bool} {a : ρ}
    (hkey : ∀ a b, p a = true → p b = true → clash a b = true) (ha : a ∈ t.rows) (hp : p a = true) :
    t.rows.filter p = [a] := by
  have hmem : a ∈ t.rows.filter p := List.mem_filter.mpr ⟨ha, hp⟩
  have hlength := filter_length_le_one t hkey
  obtain ⟨b, hb⟩ := List.length_eq_one_iff.mp
    (Nat.le_antisymm hlength (List.length_pos_of_mem hmem))
  rw [hb] at hmem ⊢
  rw [List.mem_singleton.mp hmem]

/-- A lookup by a unique key finds the only row that carries it. -/
theorem find?_eq_some_of_mem {t : Table ρ} {p : ρ → Bool} {a : ρ} (ha : a ∈ t.rows)
    (hp : p a = true) (hkey : ∀ b, p b = true → clash b a = true) :
    t.rows.find? p = some a := by
  cases hf : t.rows.find? p with
  | none => simp [List.find?_eq_none.mp hf a ha] at hp
  | some b =>
    have hb := List.find?_some hf
    rw [eq_of_clash (List.mem_of_find?_eq_some hf) ha (hkey b hb)]

/-- A lookup that only selects rows of a part of the table is a lookup in that part. -/
theorem find?_filter_of_imp {p q : ρ → Bool} (t : Table ρ)
    (h : ∀ a, p a = true → q a = true) : (t.rows.filter q).find? p = t.rows.find? p := by
  rw [List.find?_filter]
  congr 1
  funext a
  by_cases hp : p a = true
  · simp [hp, h a hp]
  · simp [hp]

/-- A selection of rows of a part of the table is a selection in that part. -/
theorem filter_filter_of_imp {p q : ρ → Bool} (t : Table ρ)
    (h : ∀ a, p a = true → q a = true) : (t.rows.filter q).filter p = t.rows.filter p := by
  rw [List.filter_filter]
  refine List.filter_congr fun a _ => ?_
  by_cases hp : p a = true
  · simp [hp, h a hp]
  · simp [hp]

/-! ## Inserting -/

/-- `INSERT`: the row is appended unless a unique index already holds its key. -/
def insert? (t : Table ρ) (r : ρ) : Option (Table ρ) :=
  if h : ∀ a ∈ t.rows, clash a r = false then
    some ⟨t.rows ++ [r], by
      refine List.pairwise_append.mpr ⟨t.unique, List.pairwise_singleton _ _, ?_⟩
      simpa using h⟩
  else none

theorem insert?_eq_some {t t' : Table ρ} {r : ρ} :
    t.insert? r = some t' ↔ (∀ a ∈ t.rows, clash a r = false) ∧ t'.rows = t.rows ++ [r] := by
  unfold insert?
  split
  · rename_i h
    constructor
    · rintro ⟨⟩
      exact ⟨h, rfl⟩
    · rintro ⟨_, hr⟩
      exact congrArg some (Table.ext hr.symm)
  · rename_i h
    exact ⟨nofun, fun hr => absurd hr.1 h⟩

theorem insert?_eq_none {t : Table ρ} {r : ρ} :
    t.insert? r = none ↔ ∃ a ∈ t.rows, clash a r = true := by
  unfold insert?
  split
  · rename_i h
    refine ⟨nofun, fun ⟨a, ha, hc⟩ => ?_⟩
    simp [h a ha] at hc
  · rename_i h
    simpa using h

/-- The rows after a successful insert. -/
theorem rows_of_insert? {t t' : Table ρ} {r : ρ} (h : t.insert? r = some t') :
    t'.rows = t.rows ++ [r] :=
  (insert?_eq_some.mp h).2

theorem mem_of_insert? {t t' : Table ρ} {r a : ρ} (h : t.insert? r = some t') :
    a ∈ t'.rows ↔ a ∈ t.rows ∨ a = r := by
  rw [rows_of_insert? h]
  simp

/-! ## Updating -/

/-- Applying `f` to the rows that `p` selects makes no two rows share a key that
did not share one before. -/
def Keeps (p : ρ → Bool) (f : ρ → ρ) : Prop :=
  ∀ a b, p a = true → clash (f a) b = true → clash a b = true

theorem clash_of_clash_patch {p : ρ → Bool} {f : ρ → ρ} (hk : Keeps p f) {a b : ρ}
    (h : clash (patch p f a) (patch p f b) = true) : clash a b = true := by
  have hleft : clash a (patch p f b) = true := by
    unfold patch at h ⊢
    by_cases ha : p a = true
    · rw [if_pos ha] at h
      exact hk a _ ha h
    · rwa [if_neg ha] at h
  rw [clash_symm] at hleft ⊢
  unfold patch at hleft
  by_cases hb : p b = true
  · rw [if_pos hb] at hleft
    exact hk b a hb hleft
  · rwa [if_neg hb] at hleft

/-- An index key is left alone or taken out of the index. -/
def KeyKept {κ : Type*} (new old : Option κ) : Prop := new = old ∨ new = none

theorem sameKey_of_keyKept {κ : Type*} [BEq κ] {new old other : Option κ} (hk : KeyKept new old)
    (h : sameKey new other = true) : sameKey old other = true := by
  rcases hk with rfl | rfl
  · exact h
  · cases other <;> simp [sameKey] at h

omit [UniqueKeys ρ] in
/-- Updates that leave both index keys alone, or take rows out of an index, are safe. -/
theorem keeps_of {κ₁ κ₂ : Type*} [BEq κ₁] [LawfulBEq κ₁] [BEq κ₂] [LawfulBEq κ₂]
    {k₁ : ρ → Option κ₁} {k₂ : ρ → Option κ₂} {p : ρ → Bool} {f : ρ → ρ}
    (h : ∀ a, p a = true → KeyKept (k₁ (f a)) (k₁ a) ∧ KeyKept (k₂ (f a)) (k₂ a)) :
    @Keeps ρ (UniqueKeys.of k₁ k₂) p f := by
  intro a b ha hc
  simp only [clash, Bool.or_eq_true] at hc ⊢
  exact hc.imp (sameKey_of_keyKept (h a ha).1) (sameKey_of_keyKept (h a ha).2)

/-- `UPDATE`: the rows that `p` selects are replaced in place. -/
def update (t : Table ρ) (p : ρ → Bool) (f : ρ → ρ) (hk : Keeps p f) : Table ρ :=
  ⟨t.rows.map (patch p f), by
    refine List.pairwise_map.mpr (t.unique.imp fun {a b} hab => ?_)
    by_contra hne
    simp [clash_of_clash_patch hk (by simpa using hne)] at hab⟩

variable {p : ρ → Bool} {f : ρ → ρ} {hk : Keeps p f}

@[simp] theorem rows_update (t : Table ρ) : (t.update p f hk).rows = t.rows.map (patch p f) := rfl

theorem mem_update {t : Table ρ} {b : ρ} :
    b ∈ (t.update p f hk).rows ↔ ∃ a ∈ t.rows, patch p f a = b := by simp

/-- An update that selects no row. -/
theorem update_of_none {t : Table ρ} (h : ∀ a ∈ t.rows, p a = false) : t.update p f hk = t := by
  apply Table.ext
  have hkept : ∀ a ∈ t.rows, patch p f a = id a := fun a ha => patch_of_neg (h a ha)
  rw [rows_update, List.map_congr_left hkept, List.map_id]

/-- An update that changes nothing has selected only rows that it leaves as they are. -/
theorem update_eq_self (hk : Keeps p f) {t : Table ρ} :
    t.update p f hk = t ↔ ∀ a ∈ t.rows, p a = true → f a = a := by
  constructor
  · intro h a ha hp
    have hrows : t.rows.map (patch p f) = t.rows.map id := by
      rw [List.map_id]
      exact congrArg Table.rows h
    have hpatch := List.map_inj_left.mp hrows a ha
    rwa [patch_of_pos hp] at hpatch
  · intro h
    apply Table.ext
    rw [rows_update]
    conv_rhs => rw [← List.map_id t.rows]
    apply List.map_congr_left
    intro a ha
    unfold patch
    split
    · exact h a ha ‹_›
    · rfl

/-- Columns that the update leaves alone. -/
theorem map_update {β : Type*} {g : ρ → β} (t : Table ρ) (h : ∀ a, p a = true → g (f a) = g a) :
    (t.update p f hk).rows.map g = t.rows.map g := by
  rw [rows_update, List.map_map]
  exact List.map_congr_left fun a _ => patch_proj h a

/-- A lookup by something the update leaves alone finds the updated row. -/
theorem find?_update {sel : ρ → Bool} (t : Table ρ) (h : ∀ a, p a = true → sel (f a) = sel a) :
    (t.update p f hk).rows.find? sel = (t.rows.find? sel).map (patch p f) := by
  rw [rows_update, List.find?_map]
  congr 2
  funext a
  exact patch_proj h a

/-- Rows outside the selected part of the table are the same rows after the update. -/
theorem filter_update {q : ρ → Bool} (t : Table ρ)
    (h : ∀ a ∈ t.rows, p a = true → q a = false ∧ q (f a) = false) :
    (t.update p f hk).rows.filter q = t.rows.filter q := by
  rw [rows_update]
  generalize t.rows = rows at h
  induction rows with
  | nil => rfl
  | cons a as ih =>
    have htail := ih fun b hb => h b (List.mem_cons_of_mem a hb)
    rw [List.map_cons]
    by_cases ha : p a = true
    · obtain ⟨hold, hnew⟩ := h a List.mem_cons_self ha
      rw [patch_of_pos ha, List.filter_cons_of_neg (by simp [hnew]), htail,
        List.filter_cons_of_neg (by simp [hold])]
    · rw [patch_of_neg (by simpa using ha)]
      by_cases hq : q a = true
      · rw [List.filter_cons_of_pos hq, List.filter_cons_of_pos hq, htail]
      · rw [List.filter_cons_of_neg hq, List.filter_cons_of_neg hq, htail]

/-- An update that respects `q` acts on the rows of `q` alone. -/
theorem filter_update_of_respects {q : ρ → Bool} (t : Table ρ)
    (h : ∀ a, p a = true → q (f a) = q a) :
    (t.update p f hk).rows.filter q = (t.rows.filter q).map (patch p f) := by
  rw [rows_update, List.filter_map]
  congr 1
  exact List.filter_congr fun a _ => patch_proj h a

/-- `RETURNING`: the replaced rows, in heap order. -/
def returning (t : Table ρ) (p : ρ → Bool) (f : ρ → ρ) : List ρ := (t.rows.filter p).map f

/-! ## Agreement on a part -/

/-- Two tables have the same rows in the part that `q` selects. -/
def SameOn (q : ρ → Bool) (t u : Table ρ) : Prop := t.rows.filter q = u.rows.filter q

variable {q : ρ → Bool} {t u t' u' : Table ρ} {r : ρ}

theorem SameOn.trans (h : SameOn q t u) (h' : SameOn q u t') : SameOn q t t' := Eq.trans h h'

theorem SameOn.mem_iff (h : SameOn q t u) {a : ρ} (ha : q a = true) :
    a ∈ t.rows ↔ a ∈ u.rows := by
  have hfilter : a ∈ t.rows.filter q ↔ a ∈ u.rows.filter q := by rw [h]
  simpa [List.mem_filter, ha] using hfilter

/-- Lookups within the part give the same row. -/
theorem SameOn.find?_eq (h : SameOn q t u) (hp : ∀ a, p a = true → q a = true) :
    t.rows.find? p = u.rows.find? p := by
  rw [← find?_filter_of_imp t hp, h, find?_filter_of_imp u hp]

/-- Selections within the part give the same rows. -/
theorem SameOn.filter_eq (h : SameOn q t u) (hp : ∀ a, p a = true → q a = true) :
    t.rows.filter p = u.rows.filter p := by
  rw [← filter_filter_of_imp t hp, h, filter_filter_of_imp u hp]

/-- The same update, respecting the part, keeps the agreement. -/
theorem SameOn.update (hk : Keeps p f) (h : SameOn q t u) (hq : ∀ a, p a = true → q (f a) = q a) :
    SameOn q (t.update p f hk) (u.update p f hk) := by
  unfold SameOn
  rw [filter_update_of_respects t hq, filter_update_of_respects u hq, h]

/-- Inserting the same row keeps the agreement. -/
theorem SameOn.insert (h : SameOn q t u) (ht : t.insert? r = some t')
    (hu : u.insert? r = some u') : SameOn q t' u' := by
  unfold SameOn
  rw [rows_of_insert? ht, rows_of_insert? hu, List.filter_append, List.filter_append, h]

/-- When every row that shares a key with `r` lies in the part, inserting `r` into tables
that agree on the part fails in both or succeeds in both. -/
theorem SameOn.insert?_cases (h : SameOn q t u) (ht : ∀ a ∈ t.rows, clash a r = true → q a = true)
    (hu : ∀ a ∈ u.rows, clash a r = true → q a = true) :
    (t.insert? r = none ∧ u.insert? r = none) ∨
      ∃ t' u', t.insert? r = some t' ∧ u.insert? r = some u' ∧ SameOn q t' u' := by
  have hiff : t.insert? r = none ↔ u.insert? r = none := by
    rw [insert?_eq_none, insert?_eq_none]
    constructor
    · rintro ⟨a, ha, hc⟩
      exact ⟨a, (h.mem_iff (ht a ha hc)).mp ha, hc⟩
    · rintro ⟨a, ha, hc⟩
      exact ⟨a, (h.mem_iff (hu a ha hc)).mpr ha, hc⟩
  cases hti : t.insert? r with
  | none => exact Or.inl ⟨rfl, hiff.mp hti⟩
  | some t' =>
    cases hui : u.insert? r with
    | none => simp [hiff.mpr hui] at hti
    | some u' => exact Or.inr ⟨t', u', rfl, rfl, h.insert hti hui⟩

/-- An update outside the part leaves the part alone. -/
theorem sameOn_update (hk : Keeps p f)
    (h : ∀ a ∈ t.rows, p a = true → q a = false ∧ q (f a) = false) :
    SameOn q (t.update p f hk) t :=
  filter_update t h

/-- An insert outside the part leaves the part alone. -/
theorem sameOn_insert (ht : t.insert? r = some t') (hr : q r = false) : SameOn q t' t := by
  unfold SameOn
  rw [rows_of_insert? ht, List.filter_append, List.filter_cons_of_neg (by simp [hr]),
    List.filter_nil, List.append_nil]

end Table

end Relational
