import Mathlib.Data.List.NodupEquivFin
import Mathlib.Data.List.Sort
import Mathlib.Order.WellFounded

/-!
# Walks through the pages of a listing

A client asks for one page after another until a page is short, and the listing may change between
the requests. As long as entries only join it, nothing that was there at the start is skipped; and
when they join at its end, the pages make up the listing of the last request.
-/

namespace Paging

universe u

variable {γ : Type u} {limit i k : Nat} {l : List γ} {all : Nat → List γ}

/-- The page at an offset of whole pages. -/
def page (limit i : Nat) (l : List γ) : List γ := (l.drop (i * limit)).take limit

theorem page_map {δ : Type*} (f : γ → δ) (limit i : Nat) (l : List γ) :
    page limit i (l.map f) = (page limit i l).map f := by
  rw [page, page, ← List.map_drop, ← List.map_take]

/-- A full page reaches up to the next one. -/
theorem le_length_of_full (h : (page limit i l).length = limit) : (i + 1) * limit ≤ l.length := by
  rw [page, List.length_take, List.length_drop] at h
  rw [Nat.succ_mul]
  rcases Nat.eq_zero_or_pos limit with rfl | hpos
  · simp
  · omega

/-- A short page is the last one. -/
theorem length_lt_of_short (h : (page limit i l).length < limit) : l.length < (i + 1) * limit := by
  rw [page, List.length_take, List.length_drop] at h
  rw [Nat.succ_mul]
  omega

/-- Page `i` is of the listing at the `i`th request; the last page, and no other, is short. -/
structure Walk (limit k : Nat) (all : Nat → List γ) : Prop where
  full : ∀ i < k, (page limit i (all i)).length = limit
  short : (page limit k (all k)).length < limit

/-- The full pages are the beginning of the listing at their end. -/
theorem Walk.flatMap_take (h : Walk limit k all) (hgrow : ∀ i < k, all i <+: all (i + 1)) {i : Nat}
    (hi : i ≤ k) :
    (List.range i).flatMap (fun j => page limit j (all j)) = (all i).take (i * limit) := by
  induction i with
  | zero => simp
  | succ i ih =>
    have hlt : i < k := hi
    obtain ⟨news, hnews⟩ := hgrow i hlt
    rw [List.range_succ, List.flatMap_append, List.flatMap_singleton, ih hlt.le, page,
      Nat.succ_mul, ← List.take_add, ← hnews, ← Nat.succ_mul,
      List.take_append_of_le_length (le_length_of_full (h.full i hlt))]

/-- When entries join at the end only, the pages make up the last listing. -/
theorem Walk.flatMap_eq (h : Walk limit k all) (hgrow : ∀ i < k, all i <+: all (i + 1)) :
    (List.range (k + 1)).flatMap (fun i => page limit i (all i)) = all k := by
  rw [List.range_succ, List.flatMap_append, List.flatMap_singleton, h.flatMap_take hgrow le_rfl,
    page, ← List.take_add, ← Nat.succ_mul]
  exact List.take_of_length_le (length_lt_of_short h.short).le

/-- The entries of a page, by their place in the listing. -/
theorem mem_page_of_getElem {x : γ} {p : Nat} (hle : i * limit ≤ p) (hlt : p < (i + 1) * limit)
    (hx : l[p]? = some x) : x ∈ page limit i l := by
  rw [Nat.succ_mul] at hlt
  have hindex : (page limit i l)[p - i * limit]? = some x := by
    rw [page, List.getElem?_take_of_lt (by omega), List.getElem?_drop, Nat.add_sub_cancel' hle, hx]
  exact List.mem_of_getElem? hindex

/-- An entry at or after a page is on that page or on a later one: whatever joins before it moves it
further back. -/
theorem Walk.exists_page_of_getElem (h : Walk limit k all)
    (hgrow : ∀ i < k, (all i).Sublist (all (i + 1))) {x : γ} (n : Nat) {i p : Nat} (hn : i + n = k)
    (hp : i * limit ≤ p) (hx : (all i)[p]? = some x) : ∃ j ≤ k, x ∈ page limit j (all j) := by
  induction n generalizing i p with
  | zero =>
    obtain rfl : i = k := hn
    obtain ⟨hlt, -⟩ := List.getElem?_eq_some_iff.mp hx
    exact ⟨i, le_rfl, mem_page_of_getElem hp (hlt.trans (length_lt_of_short h.short)) hx⟩
  | succ n ih =>
    have hi : i < k := by omega
    rcases Nat.lt_or_ge p ((i + 1) * limit) with hpage | hlater
    · exact ⟨i, hi.le, mem_page_of_getElem hp hpage hx⟩
    · obtain ⟨f, hf⟩ := List.sublist_iff_exists_orderEmbedding_getElem?_eq.mp (hgrow i hi)
      rw [hf p] at hx
      exact ih (by omega) (hlater.trans f.strictMono.le_apply) hx

/-- As long as entries only join, no entry of the first listing is skipped. -/
theorem Walk.covers (h : Walk limit k all) (hgrow : ∀ i < k, (all i).Sublist (all (i + 1))) {x : γ}
    (hx : x ∈ all 0) : ∃ i ≤ k, x ∈ page limit i (all i) := by
  obtain ⟨p, hp⟩ := List.mem_iff_getElem?.mp hx
  exact h.exists_page_of_getElem hgrow k (Nat.zero_add k) (by simp) hp

/-! ## Entries that join -/

/-- Entries with a property follow those that were there. -/
def Joined (P : γ → Prop) (l l' : List γ) : Prop := ∃ news, l' = l ++ news ∧ ∀ a ∈ news, P a

section Joined

variable {P : γ → Prop} {l' l'' : List γ}

theorem Joined.refl (l : List γ) : Joined P l l := ⟨[], (List.append_nil l).symm, List.forall_mem_nil _⟩

theorem Joined.trans (h : Joined P l l') (h' : Joined P l' l'') : Joined P l l'' := by
  obtain ⟨news, rfl, hnews⟩ := h
  obtain ⟨more, rfl, hmore⟩ := h'
  exact ⟨news ++ more, List.append_assoc l news more, List.forall_mem_append.mpr ⟨hnews, hmore⟩⟩

/-- They join every selection of the entries, under every view of them. -/
theorem Joined.map_filter {δ : Type*} {Q : δ → Prop} (h : Joined P l l') (q : γ → Bool) {f : γ → δ}
    (hf : ∀ a, P a → Q (f a)) : Joined Q ((l.filter q).map f) ((l'.filter q).map f) := by
  obtain ⟨news, rfl, hnews⟩ := h
  refine ⟨(news.filter q).map f, by rw [List.filter_append, List.map_append], ?_⟩
  rw [List.forall_mem_map]
  exact fun a ha => hf a (hnews a (List.mem_of_mem_filter ha))

end Joined

/-! ## Sorted listings -/

section Sorted

variable (r : γ → γ → Prop) [DecidableRel r] [Std.Total r] [IsTrans γ r] [Std.Antisymm r]

/-- New entries join a sorted listing. -/
theorem Joined.sublist {P : γ → Prop} {l' : List γ} (h : Joined P l l') :
    (l.insertionSort r).Sublist (l'.insertionSort r) := by
  obtain ⟨news, rfl, -⟩ := h
  exact List.sublist_insertionSort' (List.pairwise_insertionSort r l)
    ((List.perm_insertionSort r l).subperm.trans (List.sublist_append_left l news).subperm)

variable {r}

/-- New entries that come after all others join at the end. -/
theorem Joined.isPrefix {P : γ → Prop} {l' : List γ} (h : Joined P l l')
    (hafter : ∀ a ∈ l, ∀ b, P b → r a b) : l.insertionSort r <+: l'.insertionSort r := by
  obtain ⟨news, rfl, hnews⟩ := h
  refine ⟨news.insertionSort r, ?_⟩
  have hperm : (l.insertionSort r ++ news.insertionSort r).Perm ((l ++ news).insertionSort r) :=
    ((List.perm_insertionSort r l).append (List.perm_insertionSort r news)).trans
      (List.perm_insertionSort r _).symm
  refine hperm.eq_of_pairwise' ?_ (List.pairwise_insertionSort r _)
  refine List.pairwise_append.mpr
    ⟨List.pairwise_insertionSort r l, List.pairwise_insertionSort r news, fun a ha b hb => ?_⟩
  rw [List.mem_insertionSort] at ha hb
  exact hafter a ha b (hnews b hb)

end Sorted

end Paging
