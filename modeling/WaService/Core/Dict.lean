import Mathlib.Data.List.Basic

/-!
# Dictionaries as lists of entries

Assignment to a key of a dictionary from text to text, which keeps the order of insertion.
-/

namespace WaService

/-- `raw[key] = value`: the entry of the key is replaced, or a new one is added at the end. -/
def setItem (key value : String) : List (String × String) → List (String × String)
  | [] => [(key, value)]
  | entry :: raw => if entry.1 == key then (key, value) :: raw else entry :: setItem key value raw

theorem lookup_setItem_self (key value : String) (raw : List (String × String)) :
    (setItem key value raw).lookup key = some value := by
  induction raw with
  | nil => simp [setItem]
  | cons entry raw ih =>
    unfold setItem
    split
    · simp
    · rename_i hne
      have hkey : (key == entry.1) = false := by
        rw [BEq.comm]
        simpa using hne
      rw [List.lookup_cons, hkey]
      exact ih

theorem lookup_setItem_of_ne {key other : String} (value : String) (hne : other ≠ key)
    (raw : List (String × String)) :
    (setItem key value raw).lookup other = raw.lookup other := by
  have hother : (other == key) = false := by simpa using hne
  induction raw with
  | nil => simp [setItem, List.lookup_cons, hother]
  | cons entry raw ih =>
    unfold setItem
    split
    · rename_i heq
      rw [beq_iff_eq] at heq
      rw [List.lookup_cons, List.lookup_cons, heq, hother]
    · rw [List.lookup_cons, List.lookup_cons, ih]

/-- The entries after an assignment are the one that was assigned and old ones. -/
theorem mem_setItem {key value : String} {raw : List (String × String)} {entry : String × String}
    (h : entry ∈ setItem key value raw) : entry = (key, value) ∨ entry ∈ raw := by
  induction raw with
  | nil => exact Or.inl (List.mem_singleton.mp h)
  | cons first raw ih =>
    unfold setItem at h
    split at h
    · exact (List.mem_cons.mp h).imp_right (List.mem_cons_of_mem first)
    · rcases List.mem_cons.mp h with rfl | h
      · exact Or.inr List.mem_cons_self
      · exact (ih h).imp_right (List.mem_cons_of_mem first)

/-- The keys after an assignment are the assigned one and the old ones. -/
theorem mem_keys_setItem {key value other : String} {raw : List (String × String)} :
    other ∈ (setItem key value raw).map Prod.fst ↔ other = key ∨ other ∈ raw.map Prod.fst := by
  induction raw with
  | nil => simp [setItem]
  | cons first raw ih =>
    unfold setItem
    split
    · rename_i hkey
      rw [beq_iff_eq] at hkey
      simp [hkey]
    · rw [List.map_cons, List.mem_cons, ih, List.map_cons, List.mem_cons]
      exact or_left_comm

/-- No key is entered twice. -/
theorem nodup_keys_setItem {key value : String} {raw : List (String × String)}
    (h : (raw.map Prod.fst).Nodup) : ((setItem key value raw).map Prod.fst).Nodup := by
  induction raw with
  | nil => simp [setItem]
  | cons first raw ih =>
    rw [List.map_cons, List.nodup_cons] at h
    unfold setItem
    split
    · rename_i hkey
      rw [beq_iff_eq] at hkey
      rw [List.map_cons, List.nodup_cons, ← hkey]
      exact h
    · rename_i hkey
      rw [List.map_cons, List.nodup_cons, mem_keys_setItem, not_or]
      exact ⟨⟨fun heq => hkey (by rw [heq, beq_self_eq_true]), h.1⟩, ih h.2⟩

/-- A new key is entered at the end. -/
theorem setItem_of_notMem {key value : String} {raw : List (String × String)}
    (h : key ∉ raw.map Prod.fst) : setItem key value raw = raw ++ [(key, value)] := by
  induction raw with
  | nil => rfl
  | cons first raw ih =>
    rw [List.map_cons, List.mem_cons, not_or] at h
    have hne : (first.1 == key) = false := by simpa using fun heq => h.1 (Eq.symm heq)
    rw [setItem, hne, ih h.2]
    rfl

/-- Entries with distinct keys are entered one after the other. -/
theorem setItem_of_nodup {entry : String × String} {read raw : List (String × String)}
    (h : ((read ++ entry :: raw).map Prod.fst).Nodup) :
    setItem entry.1 entry.2 read = read ++ [entry] := by
  rw [List.map_append, List.map_cons] at h
  have hnew : entry.1 ∉ read.map Prod.fst := by
    intro hmem
    exact (List.nodup_append.mp h).2.2 _ hmem _ List.mem_cons_self rfl
  exact setItem_of_notMem hnew

/-- With distinct keys, a lookup is membership. -/
theorem lookup_eq_some_iff_mem {raw : List (String × String)} (hkeys : (raw.map Prod.fst).Nodup)
    {key value : String} : raw.lookup key = some value ↔ (key, value) ∈ raw := by
  induction raw with
  | nil => simp
  | cons entry raw ih =>
    obtain ⟨known, other⟩ := entry
    rw [List.map_cons, List.nodup_cons] at hkeys
    by_cases hkey : key = known
    · subst hkey
      have hnone : (key, value) ∉ raw := fun hmem =>
        hkeys.1 (List.mem_map.mpr ⟨(key, value), hmem, rfl⟩)
      simp [hnone, eq_comm]
    · have hne : (key == known) = false := by simpa using hkey
      rw [List.lookup_cons, hne, List.mem_cons]
      simp [hkey, ih hkeys.2]

/-- The order of entries with distinct keys does not matter for a lookup. -/
theorem lookup_perm {stored raw : List (String × String)} (h : stored.Perm raw)
    (hkeys : (raw.map Prod.fst).Nodup) (key : String) : stored.lookup key = raw.lookup key := by
  have hstored : (stored.map Prod.fst).Nodup := (h.map Prod.fst).nodup_iff.mpr hkeys
  apply Option.ext
  intro value
  rw [lookup_eq_some_iff_mem hstored, lookup_eq_some_iff_mem hkeys, h.mem_iff]

end WaService
