import WaService.Core.Table

/-!
# How a table evolves

No row is deleted: between two states of a table every old row lives on in a row
that follows it, and every other row is new. What a program may do to the rows of a
table is then one relation and one predicate, and the effect of a program is
composed from the effects of its inserts and updates.
-/

namespace Relational

universe u v

/-- A row that carries the same `key` as the row it follows. -/
def Keeping {ρ : Type u} {κ : Type v} (key : ρ → κ) (a b : ρ) : Prop := key b = key a

namespace Table

variable {ρ : Type u} [UniqueKeys ρ]

/-- Every row of `t` lives on in `t'` as a row that follows it by `R`, and the other rows
of `t'` are new. -/
structure Evolves (R : ρ → ρ → Prop) (New : ρ → Prop) (t t' : Table ρ) : Prop where
  kept : ∀ a ∈ t.rows, ∃ b ∈ t'.rows, R a b
  source : ∀ b ∈ t'.rows, (∃ a ∈ t.rows, R a b) ∨ New b

variable {R : ρ → ρ → Prop} {New New' : ρ → Prop} {t t' t'' : Table ρ}

theorem Evolves.refl (hrefl : ∀ a, R a a) (t : Table ρ) : Evolves R New t t :=
  ⟨fun a ha => ⟨a, ha, hrefl a⟩, fun b hb => Or.inl ⟨b, hb, hrefl b⟩⟩

theorem Evolves.imp {R' : ρ → ρ → Prop} (h : Evolves R New t t') (hr : ∀ a b, R a b → R' a b)
    (hnew : ∀ b, New b → New' b) : Evolves R' New' t t' where
  kept a ha := by
    obtain ⟨b, hb, hab⟩ := h.kept a ha
    exact ⟨b, hb, hr a b hab⟩
  source b hb := by
    rcases h.source b hb with ⟨a, ha, hab⟩ | hn
    · exact Or.inl ⟨a, ha, hr a b hab⟩
    · exact Or.inr (hnew b hn)

/-- Effects compose when following is transitive and what follows a new row is new. -/
theorem Evolves.trans (h : Evolves R New t t') (h' : Evolves R New' t' t'')
    (htrans : ∀ a b c, R a b → R b c → R a c) (hnew : ∀ a b, New a → R a b → New' b) :
    Evolves R New' t t'' where
  kept a ha := by
    obtain ⟨b, hb, hab⟩ := h.kept a ha
    obtain ⟨c, hc, hbc⟩ := h'.kept b hb
    exact ⟨c, hc, htrans a b c hab hbc⟩
  source c hc := by
    rcases h'.source c hc with ⟨b, hb, hbc⟩ | hn
    · rcases h.source b hb with ⟨a, ha, hab⟩ | hn
      · exact Or.inl ⟨a, ha, htrans a b c hab hbc⟩
      · exact Or.inr (hnew b c hn hbc)
    · exact Or.inr hn

/-- An update whose replacements follow the rows they replace. -/
theorem Evolves.update {p : ρ → Bool} {f : ρ → ρ} (hk : Keeps p f) (hrefl : ∀ a, R a a)
    (h : ∀ a, p a = true → R a (f a)) (t : Table ρ) : Evolves R New t (t.update p f hk) := by
  have hpatch : ∀ a, R a (patch p f a) := by
    intro a
    unfold patch
    split
    · exact h a ‹_›
    · exact hrefl a
  constructor
  · intro a ha
    exact ⟨patch p f a, mem_update.mpr ⟨a, ha, rfl⟩, hpatch a⟩
  · intro b hb
    obtain ⟨a, ha, rfl⟩ := mem_update.mp hb
    exact Or.inl ⟨a, ha, hpatch a⟩

/-- An insert of a new row. -/
theorem Evolves.insert {r : ρ} (hrefl : ∀ a, R a a) (h : t.insert? r = some t') (hr : New r) :
    Evolves R New t t' := by
  constructor
  · intro a ha
    exact ⟨a, (mem_of_insert? h).mpr (Or.inl ha), hrefl a⟩
  · intro b hb
    rcases (mem_of_insert? h).mp hb with hb | rfl
    · exact Or.inl ⟨b, hb, hrefl b⟩
    · exact Or.inr hr

section Keeping

variable {κ : Type v} {key : ρ → κ}

theorem Evolves.refl_keeping (t : Table ρ) : Evolves (Keeping key) New t t := by
  have hrefl : ∀ a, Keeping key a a := fun _ => rfl
  exact Evolves.refl hrefl t

theorem Evolves.trans_keeping (h : Evolves (Keeping key) New t t')
    (h' : Evolves (Keeping key) New' t' t'') (hnew : ∀ a b, New a → key b = key a → New' b) :
    Evolves (Keeping key) New' t t'' :=
  h.trans h' (fun _ _ _ hab hbc => Eq.trans hbc hab) hnew

theorem Evolves.update_keeping {p : ρ → Bool} {f : ρ → ρ} (hk : Keeps p f)
    (h : ∀ a, key (f a) = key a) (t : Table ρ) : Evolves (Keeping key) New t (t.update p f hk) := by
  have hrefl : ∀ a, Keeping key a a := fun _ => rfl
  exact Evolves.update hk hrefl (fun a _ => h a) t

end Keeping

end Table

end Relational
