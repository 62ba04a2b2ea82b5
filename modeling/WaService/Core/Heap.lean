import WaService.Core.Table

/-!
# Rows of open transactions

A heap holds the committed rows of a relation and the rows that open transactions have
inserted. A statement sees the committed rows and those of its own transaction. Unique
indexes cover every row of the heap: an insert fails when a visible row holds its key,
and waits when a row of another open transaction does.
-/

namespace Relational

universe u v

/-- A row, and the open transaction that inserted it, if that has not ended. -/
structure Version (ι : Type u) (ρ : Type v) where
  row : ρ
  writer : Option ι

variable {ι : Type u} {ρ : Type v} [UniqueKeys ρ]

instance : UniqueKeys (Version ι ρ) where
  clash a b := clash a.row b.row
  clash_symm a b := clash_symm a.row b.row

/-- The rows of a relation under open transactions of the indices `ι`. -/
abbrev Heap (ι : Type u) (ρ : Type v) [UniqueKeys ρ] := Table (Version ι ρ)

/-- How an insert ends. -/
inductive Insertion (ι : Type u) (ρ : Type v) [UniqueKeys ρ] where
  | inserted (h : Heap ι ρ)
  /-- A visible row holds a key of the new one. -/
  | conflict
  /-- Only rows of other open transactions hold a key of the new one. -/
  | waits

namespace Heap

/-- The committed rows of a table. -/
def ofTable (t : Table ρ) : Heap ι ρ :=
  ⟨t.rows.map fun r => ⟨r, none⟩, List.pairwise_map.mpr t.unique⟩

/-- The rows of the selected versions. -/
def select (h : Heap ι ρ) (p : Version ι ρ → Bool) : Table ρ :=
  ⟨(h.rows.filter p).map (·.row), List.pairwise_map.mpr (h.unique.filter p)⟩

/-- The committed rows. -/
def committed (h : Heap ι ρ) : Table ρ := h.select fun v => v.writer.isNone

variable {h h' : Heap ι ρ} {p : Version ι ρ → Bool} {r : ρ}

theorem mem_select : r ∈ (h.select p).rows ↔ ∃ v ∈ h.rows, p v = true ∧ v.row = r := by
  simp [select, and_assoc]

@[simp] theorem committed_ofTable (t : Table ρ) : (ofTable t : Heap ι ρ).committed = t := by
  apply Table.ext
  have hkept : (t.rows.map fun r => (⟨r, none⟩ : Version ι ρ)).filter (fun v => v.writer.isNone) =
      t.rows.map fun r => ⟨r, none⟩ := by
    apply List.filter_eq_self.mpr
    intro v hv
    obtain ⟨r, -, rfl⟩ := List.mem_map.mp hv
    rfl
  simp only [committed, select, ofTable, hkept, List.map_map]
  exact List.map_id _

section Transactions

variable [DecidableEq ι] {i j : ι}

/-- Whether a statement of the transaction sees the row. -/
def seenBy (i : ι) (v : Version ι ρ) : Bool := v.writer.isNone || v.writer == some i

/-- The rows that a statement of the transaction sees. -/
def visible (h : Heap ι ρ) (i : ι) : Table ρ := h.select (seenBy i)

/-- The rows that the open transaction has inserted, in the order of the inserts. -/
def written (h : Heap ι ρ) (i : ι) : Table ρ := h.select fun v => v.writer == some i

/-- `INSERT` by an open transaction. -/
def insertBy (h : Heap ι ρ) (i : ι) (r : ρ) : Insertion ι ρ :=
  match h.insert? ⟨r, some i⟩ with
  | some h' => .inserted h'
  | none => if h.rows.any fun v => clash v.row r && seenBy i v then .conflict else .waits

/-- A row after the end of the transaction. -/
def settle (i : ι) (v : Version ι ρ) : Version ι ρ :=
  ⟨v.row, if v.writer = some i then none else v.writer⟩

/-- `COMMIT`: the rows of the transaction become visible to all. -/
def commit (h : Heap ι ρ) (i : ι) : Heap ι ρ :=
  ⟨h.rows.map (settle i), List.pairwise_map.mpr h.unique⟩

/-- `ROLLBACK`: the rows of the transaction are gone. -/
def rollback (h : Heap ι ρ) (i : ι) : Heap ι ρ :=
  ⟨h.rows.filter fun v => v.writer != some i, h.unique.filter _⟩

/-- `UPDATE` of rows, in every version. -/
def updateRows (h : Heap ι ρ) (p : ρ → Bool) (f : ρ → ρ) (hk : Table.Keeps p f) : Heap ι ρ :=
  ⟨h.rows.map fun v => ⟨patch p f v.row, v.writer⟩, by
    refine List.pairwise_map.mpr (h.unique.imp fun {a b} hab => ?_)
    have hfree : clash a.row b.row = false := hab
    cases hpatched : clash (patch p f a.row) (patch p f b.row) with
    | false => rfl
    | true =>
      rw [Table.clash_of_clash_patch hk hpatched] at hfree
      contradiction⟩

/-- A version seen by the transaction whose row is selected. -/
def seenRow (i : ι) (p : ρ → Bool) (v : Version ι ρ) : Bool := seenBy i v && p v.row

/-- An update of rows acts on versions without a new clash. -/
theorem keeps_versions {q : ρ → Bool} {f : ρ → ρ} (hk : Table.Keeps q f) (i : ι) :
    Table.Keeps (seenRow i q) fun v : Version ι ρ => ⟨f v.row, v.writer⟩ :=
  fun a b ha hclash => hk a.row b.row (Bool.and_eq_true_iff.mp ha).2 hclash

/-- `UPDATE` by an open transaction, of the rows that it sees. -/
def updateBy (h : Heap ι ρ) (i : ι) (p : ρ → Bool) (f : ρ → ρ) (hk : Table.Keeps p f) : Heap ι ρ :=
  Table.update h (seenRow i p) (fun v => ⟨f v.row, v.writer⟩) (keeps_versions hk i)

/-! ## What statements see -/

theorem committed_subset (hr : r ∈ h.committed.rows) : r ∈ (h.visible i).rows := by
  obtain ⟨v, hv, hnone, rfl⟩ := mem_select.mp hr
  exact mem_select.mpr ⟨v, hv, Bool.or_eq_true_iff.mpr (Or.inl hnone), rfl⟩

theorem rows_of_insertBy (hins : h.insertBy i r = .inserted h') :
    h'.rows = h.rows ++ [⟨r, some i⟩] := by
  unfold insertBy at hins
  split at hins
  · rename_i g hg
    cases hins
    exact Table.rows_of_insert? hg
  · split at hins <;> cases hins

/-- The transaction sees what it inserts. -/
theorem visible_insertBy (hins : h.insertBy i r = .inserted h') :
    (h'.visible i).rows = (h.visible i).rows ++ [r] := by
  simp [visible, select, rows_of_insertBy hins, seenBy]

/-- No other transaction sees it. -/
theorem visible_insertBy_of_ne (hins : h.insertBy i r = .inserted h') (hij : j ≠ i) :
    h'.visible j = h.visible j := by
  have hunseen : seenBy j (⟨r, some i⟩ : Version ι ρ) = false := by
    simp [seenBy, hij.symm]
  apply Table.ext
  simp [visible, select, rows_of_insertBy hins, hunseen]

theorem committed_insertBy (hins : h.insertBy i r = .inserted h') : h'.committed = h.committed := by
  apply Table.ext
  simp [committed, select, rows_of_insertBy hins]

/-- An insert fails on a visible row that shares a key. -/
theorem clash_of_conflict (hins : h.insertBy i r = .conflict) :
    ∃ a ∈ (h.visible i).rows, clash a r = true := by
  unfold insertBy at hins
  split at hins
  · cases hins
  · split at hins
    · rename_i hany
      obtain ⟨v, hv, hclash⟩ := List.any_eq_true.mp hany
      obtain ⟨hrow, hseen⟩ := Bool.and_eq_true_iff.mp hclash
      exact ⟨v.row, mem_select.mpr ⟨v, hv, hseen, rfl⟩, hrow⟩
    · cases hins

/-- Such a row makes it fail. -/
theorem conflict_of_clash {a : ρ} (ha : a ∈ (h.visible i).rows) (hclash : clash a r = true) :
    h.insertBy i r = .conflict := by
  obtain ⟨v, hv, hseen, rfl⟩ := mem_select.mp ha
  have hnone : h.insert? ⟨r, some i⟩ = none := Table.insert?_eq_none.mpr ⟨v, hv, hclash⟩
  have hany : (h.rows.any fun v => clash v.row r && seenBy i v) = true :=
    List.any_eq_true.mpr ⟨v, hv, Bool.and_eq_true_iff.mpr ⟨hclash, hseen⟩⟩
  unfold insertBy
  rw [hnone]
  simp only [hany, if_true]

omit [UniqueKeys ρ] in
theorem settle_isNone (i : ι) (v : Version ι ρ) : (settle i v).writer.isNone = seenBy i v := by
  unfold settle seenBy
  by_cases hv : v.writer = some i
  · simp [hv]
  · simp [hv]

/-- Committed are exactly the rows that the transaction saw. -/
theorem committed_commit (h : Heap ι ρ) (i : ι) : (h.commit i).committed = h.visible i := by
  apply Table.ext
  have hseen : ((fun v : Version ι ρ => v.writer.isNone) ∘ settle i) = seenBy i :=
    funext (settle_isNone i)
  simp only [committed, visible, select, commit, List.filter_map, List.map_map, hseen]
  rfl

/-- A commit hides nothing. -/
theorem visible_commit (hr : r ∈ (h.visible j).rows) : r ∈ ((h.commit i).visible j).rows := by
  obtain ⟨v, hv, hseen, rfl⟩ := mem_select.mp hr
  refine mem_select.mpr ⟨settle i v, List.mem_map_of_mem hv, ?_, rfl⟩
  unfold settle
  split
  · rfl
  · exact hseen

theorem committed_rollback (h : Heap ι ρ) (i : ι) : (h.rollback i).committed = h.committed := by
  apply Table.ext
  simp only [committed, select, rollback, List.filter_filter]
  congr 1
  refine List.filter_congr fun v _ => ?_
  cases v.writer <;> simp

theorem visible_rollback_of_ne (h : Heap ι ρ) (hij : j ≠ i) :
    (h.rollback i).visible j = h.visible j := by
  apply Table.ext
  simp only [visible, select, rollback, List.filter_filter]
  congr 1
  refine List.filter_congr fun v _ => ?_
  cases hv : v.writer with
  | none => simp [seenBy, hv]
  | some k =>
    by_cases hk : k = i
    · simp [seenBy, hv, hk, hij.symm]
    · simp [seenBy, hv, hk]

/-- The transaction sees its own update. -/
theorem visible_updateBy {q : ρ → Bool} {f : ρ → ρ} (hk : Table.Keeps q f) (h : Heap ι ρ) (i : ι) :
    (h.updateBy i q f hk).visible i = (h.visible i).update q f hk := by
  apply Table.ext
  have hfilter : (h.updateBy i q f hk).rows.filter (seenBy i) =
      (h.rows.filter (seenBy i)).map (patch (seenRow i q) fun v => ⟨f v.row, v.writer⟩) :=
    Table.filter_update_of_respects h fun _ _ => rfl
  simp only [visible, select, hfilter, Table.rows_update, List.map_map]
  apply List.map_congr_left
  intro v hv
  have hseen : seenBy i v = true := (List.mem_filter.mp hv).2
  simp only [Function.comp_apply, patch, seenRow, hseen, Bool.true_and]
  split
  · rfl
  · rfl

/-! ## What a transaction has inserted -/

/-- A transaction sees what is committed and what it has inserted. -/
theorem mem_visible_iff :
    r ∈ (h.visible i).rows ↔ r ∈ h.committed.rows ∨ r ∈ (h.written i).rows := by
  simp only [visible, committed, written, mem_select, seenBy, Bool.or_eq_true]
  constructor
  · rintro ⟨v, hv, hseen, rfl⟩
    exact hseen.imp (fun hw => ⟨v, hv, hw, rfl⟩) fun hw => ⟨v, hv, hw, rfl⟩
  · rintro (⟨v, hv, hw, rfl⟩ | ⟨v, hv, hw, rfl⟩)
    · exact ⟨v, hv, Or.inl hw, rfl⟩
    · exact ⟨v, hv, Or.inr hw, rfl⟩

/-- What a transaction has inserted is not committed. -/
theorem not_committed_of_written (hself : clash r r = true) (hw : r ∈ (h.written i).rows) :
    r ∉ h.committed.rows := by
  intro hc
  obtain ⟨v, hv, hown, rfl⟩ := mem_select.mp hw
  obtain ⟨w, hw, hnone, hrow⟩ := mem_select.mp hc
  have hclash : clash w v = true := by
    change clash w.row v.row = true
    rw [hrow]
    exact hself
  rw [Table.eq_of_clash hw hv hclash, beq_iff_eq.mp hown] at hnone
  cases hnone

theorem written_insertBy (hins : h.insertBy i r = .inserted h') :
    (h'.written i).rows = (h.written i).rows ++ [r] := by
  simp [written, select, rows_of_insertBy hins]

theorem written_insertBy_of_ne (hins : h.insertBy i r = .inserted h') (hij : j ≠ i) :
    h'.written j = h.written j := by
  apply Table.ext
  simp [written, select, rows_of_insertBy hins, hij.symm]

/-- After the end of a transaction nothing is its own. -/
theorem written_commit_self (h : Heap ι ρ) (i : ι) : ((h.commit i).written i).rows = [] := by
  apply List.eq_nil_iff_forall_not_mem.mpr
  intro r hr
  obtain ⟨w, hw, hown, -⟩ := mem_select.mp hr
  obtain ⟨v, -, rfl⟩ := List.mem_map.mp hw
  unfold settle at hown
  by_cases hv : v.writer = some i
  · simp [hv] at hown
  · simp [hv] at hown

theorem written_commit_of_ne (h : Heap ι ρ) (hij : j ≠ i) :
    (h.commit i).written j = h.written j := by
  apply Table.ext
  have hown : ∀ v : Version ι ρ, ((settle i v).writer == some j) = (v.writer == some j) := by
    intro v
    unfold settle
    by_cases hv : v.writer = some i
    · simp [hv, hij.symm]
    · simp [hv]
  simp only [written, select, commit, List.filter_map, List.map_map, Function.comp_def, hown]
  rfl

theorem written_rollback_self (h : Heap ι ρ) (i : ι) : ((h.rollback i).written i).rows = [] := by
  apply List.eq_nil_iff_forall_not_mem.mpr
  intro r hr
  obtain ⟨v, hv, hown, -⟩ := mem_select.mp hr
  obtain ⟨-, hkept⟩ := List.mem_filter.mp hv
  simp [beq_iff_eq.mp hown] at hkept

theorem written_rollback_of_ne (h : Heap ι ρ) (hij : j ≠ i) :
    (h.rollback i).written j = h.written j := by
  apply Table.ext
  simp only [written, select, rollback, List.filter_filter]
  congr 1
  refine List.filter_congr fun v _ => ?_
  by_cases hv : v.writer = some j
  · simp [hv, hij]
  · simp [hv]

@[simp] theorem written_ofTable (t : Table ρ) (i : ι) :
    ((ofTable t : Heap ι ρ).written i).rows = [] := by
  apply List.eq_nil_iff_forall_not_mem.mpr
  intro r hr
  obtain ⟨v, hv, hown, -⟩ := mem_select.mp hr
  obtain ⟨r', -, rfl⟩ := List.mem_map.mp hv
  simp at hown

/-! ## What the versions say -/

section Facts

variable {β : Type*} {g : ρ → β} {b : β} {w : Option ι}

omit [DecidableEq ι] in
/-- What the versions say of their rows under `g`, with their writers. -/
def facts (g : ρ → β) (h : Heap ι ρ) : List (β × Option ι) :=
  h.rows.map fun v => (g v.row, v.writer)

omit [DecidableEq ι] in
theorem mem_facts : (b, w) ∈ h.facts g ↔ ∃ v ∈ h.rows, g v.row = b ∧ v.writer = w := by
  simp [facts]

omit [DecidableEq ι] in
theorem exists_committed : (∃ r ∈ h.committed.rows, g r = b) ↔ (b, none) ∈ h.facts g := by
  simp only [committed, mem_select, mem_facts, Option.isNone_iff_eq_none]
  constructor
  · rintro ⟨r, ⟨v, hv, hnone, rfl⟩, hb⟩
    exact ⟨v, hv, hb, hnone⟩
  · rintro ⟨v, hv, hb, hnone⟩
    exact ⟨v.row, ⟨v, hv, hnone, rfl⟩, hb⟩

theorem exists_visible :
    (∃ r ∈ (h.visible i).rows, g r = b) ↔ (b, none) ∈ h.facts g ∨ (b, some i) ∈ h.facts g := by
  simp only [visible, mem_select, mem_facts, seenBy, Bool.or_eq_true, Option.isNone_iff_eq_none,
    beq_iff_eq]
  constructor
  · rintro ⟨r, ⟨v, hv, hseen, rfl⟩, hb⟩
    exact hseen.imp (fun hw => ⟨v, hv, hb, hw⟩) fun hw => ⟨v, hv, hb, hw⟩
  · rintro (⟨v, hv, hb, hw⟩ | ⟨v, hv, hb, hw⟩)
    · exact ⟨v.row, ⟨v, hv, Or.inl hw, rfl⟩, hb⟩
    · exact ⟨v.row, ⟨v, hv, Or.inr hw, rfl⟩, hb⟩

theorem facts_insertBy (hins : h.insertBy i r = .inserted h') :
    h'.facts g = h.facts g ++ [(g r, some i)] := by
  simp [facts, rows_of_insertBy hins]

theorem mem_facts_commit : (b, w) ∈ (h.commit i).facts g ↔
    (w ≠ some i ∧ (b, w) ∈ h.facts g) ∨ (w = none ∧ (b, some i) ∈ h.facts g) := by
  simp only [mem_facts, commit, List.mem_map, settle]
  constructor
  · rintro ⟨_, ⟨v, hv, rfl⟩, hb, hw⟩
    by_cases hi : v.writer = some i
    · rw [if_pos hi] at hw
      exact Or.inr ⟨hw.symm, v, hv, hb, hi⟩
    · rw [if_neg hi] at hw
      exact Or.inl ⟨fun he => hi (hw.trans he), v, hv, hb, hw⟩
  · rintro (⟨hne, v, hv, hb, hw⟩ | ⟨rfl, v, hv, hb, hi⟩)
    · exact ⟨_, ⟨v, hv, rfl⟩, hb, by rw [if_neg (hw ▸ hne), hw]⟩
    · exact ⟨_, ⟨v, hv, rfl⟩, hb, if_pos hi⟩

theorem mem_facts_rollback :
    (b, w) ∈ (h.rollback i).facts g ↔ w ≠ some i ∧ (b, w) ∈ h.facts g := by
  simp only [mem_facts, rollback, List.mem_filter, bne_iff_ne]
  constructor
  · rintro ⟨v, ⟨hv, hne⟩, hb, hw⟩
    exact ⟨hw ▸ hne, v, hv, hb, hw⟩
  · rintro ⟨hne, v, hv, hb, hw⟩
    exact ⟨v, ⟨hv, hw ▸ hne⟩, hb, hw⟩

/-- An update that leaves `g` alone leaves what the versions say. -/
theorem facts_updateBy {q : ρ → Bool} {f : ρ → ρ} {hk : Table.Keeps q f}
    (hg : ∀ r, q r = true → g (f r) = g r) : (h.updateBy i q f hk).facts g = h.facts g :=
  Table.map_update h fun v hv => by rw [hg v.row (Bool.and_eq_true_iff.mp hv).2]

end Facts

/-! ## A transaction without others -/

@[simp] theorem visible_ofTable (t : Table ρ) (i : ι) : (ofTable t : Heap ι ρ).visible i = t := by
  apply Table.ext
  have hkept : (t.rows.map fun r => (⟨r, none⟩ : Version ι ρ)).filter (seenBy i) =
      t.rows.map fun r => ⟨r, none⟩ := by
    apply List.filter_eq_self.mpr
    intro v hv
    obtain ⟨r, -, rfl⟩ := List.mem_map.mp hv
    rfl
  simp only [visible, select, ofTable, hkept, List.map_map]
  exact List.map_id _

/-- Every row of the heap is committed or the transaction's own. -/
def OnlyBy (i : ι) (h : Heap ι ρ) : Prop := ∀ v ∈ h.rows, seenBy i v = true

theorem onlyBy_ofTable (t : Table ρ) (i : ι) : OnlyBy i (ofTable t) := by
  intro v hv
  obtain ⟨r, -, rfl⟩ := List.mem_map.mp hv
  rfl

theorem OnlyBy.visible_rows (ho : OnlyBy i h) : (h.visible i).rows = h.rows.map (·.row) := by
  have hall : h.rows.filter (seenBy i) = h.rows := List.filter_eq_self.mpr ho
  simp only [visible, select, hall]

theorem OnlyBy.insertBy (ho : OnlyBy i h) (hins : h.insertBy i r = .inserted h') : OnlyBy i h' := by
  intro v hv
  rw [rows_of_insertBy hins] at hv
  rcases List.mem_append.mp hv with hv | hv
  · exact ho v hv
  · rw [List.mem_singleton.mp hv]
    simp [seenBy]

/-- Without other transactions an insert never waits. -/
theorem OnlyBy.insertBy_of_some (ho : OnlyBy i h) {t : Table ρ}
    (hins : (h.visible i).insert? r = some t) :
    ∃ h', h.insertBy i r = .inserted h' ∧ h'.visible i = t := by
  have hfree : ∀ v ∈ h.rows, clash v ⟨r, some i⟩ = false := by
    intro v hv
    refine (Table.insert?_eq_some.mp hins).1 v.row ?_
    rw [ho.visible_rows]
    exact List.mem_map_of_mem hv
  have hsome : ∃ h', h.insert? ⟨r, some i⟩ = some h' := by
    cases hn : h.insert? ⟨r, some i⟩ with
    | some h' => exact ⟨h', rfl⟩
    | none =>
      obtain ⟨v, hv, hclash⟩ := Table.insert?_eq_none.mp hn
      rw [hfree v hv] at hclash
      contradiction
  obtain ⟨h', hh'⟩ := hsome
  have hinserted : h.insertBy i r = .inserted h' := by
    unfold Heap.insertBy
    rw [hh']
  refine ⟨h', hinserted, Table.ext ?_⟩
  rw [visible_insertBy hinserted, Table.rows_of_insert? hins]

end Transactions

theorem committed_updateRows {q : ρ → Bool} {f : ρ → ρ} (hk : Table.Keeps q f) (h : Heap ι ρ) :
    (h.updateRows q f hk).committed = h.committed.update q f hk := by
  apply Table.ext
  simp only [committed, select, updateRows, Table.rows_update, List.filter_map, List.map_map]
  rfl

end Heap

end Relational
