import Mathlib.Data.List.TakeWhile
import WaService.Core.Python

/-!
# Text

`str.partition` on characters (`str.split` at one character is `List.splitOn`), and the bytes of a
text.
-/

namespace Python

/-- `cs.partition(sep)` for one character: what stands before its first occurrence, the occurrence,
and the rest. -/
def partition (sep : Char) (cs : List Char) : List Char × List Char × List Char :=
  match cs.dropWhile (· != sep) with
  | [] => (cs, [], [])
  | found :: rest => (cs.takeWhile (· != sep), [found], rest)

/-- A text without the character is not split. -/
theorem partition_of_notMem {sep : Char} {cs : List Char} (h : sep ∉ cs) :
    partition sep cs = (cs, [], []) := by
  have hdrop : cs.dropWhile (· != sep) = [] := by
    rw [List.dropWhile_eq_nil_iff]
    intro c hc
    have hne : c ≠ sep := by
      rintro rfl
      exact h hc
    simpa using hne
  rw [partition, hdrop]

/-- A text is split at the first occurrence. -/
theorem partition_append {sep : Char} {before : List Char} (h : sep ∉ before) (rest : List Char) :
    partition sep (before ++ sep :: rest) = (before, [sep], rest) := by
  have hall : ∀ c ∈ before, (c != sep) = true := by
    intro c hc
    have hne : c ≠ sep := by
      rintro rfl
      exact h hc
    simpa using hne
  have hdrop : (before ++ sep :: rest).dropWhile (· != sep) = sep :: rest := by
    rw [List.dropWhile_append_of_pos hall, List.dropWhile_cons_of_neg (by simp)]
  have htake : (before ++ sep :: rest).takeWhile (· != sep) = before := by
    rw [List.takeWhile_append_of_pos hall, List.takeWhile_cons_of_neg (by simp), List.append_nil]
  rw [partition, hdrop, htake]

/-- Every text has the character, and a first occurrence of it, or not. -/
theorem partition_cases (sep : Char) (cs : List Char) :
    sep ∉ cs ∧ partition sep cs = (cs, [], []) ∨ ∃ before rest, sep ∉ before ∧
      cs = before ++ sep :: rest ∧ partition sep cs = (before, [sep], rest) := by
  by_cases h : sep ∈ cs
  · obtain ⟨before, rest, rfl, hbefore⟩ := List.eq_append_cons_of_mem h
    exact Or.inr ⟨before, rest, hbefore, rfl, partition_append hbefore rest⟩
  · exact Or.inl ⟨h, partition_of_notMem h⟩

/-! ## Bytes -/

/-- The bytes from a position on. -/
theorem toList_loop (bs : ByteArray) (i : Nat) (r : List UInt8) :
    ByteArray.toList.loop bs i r = r.reverse ++ bs.data.toList.drop i := by
  fun_induction ByteArray.toList.loop bs i r with
  | case1 i r h ih =>
    have hi : i < bs.data.size := h
    have hget : bs.data.toList.drop i = bs.get! i :: bs.data.toList.drop (i + 1) := by
      rw [List.drop_eq_getElem_cons (by simpa using hi), Array.getElem_toList hi]
      exact congrArg (· :: _) (getElem!_pos bs.data i hi).symm
    rw [ih, hget, List.reverse_cons, List.append_assoc]
    rfl
  | case2 i r h =>
    have hi : bs.data.toList.length ≤ i := by simpa using h
    rw [List.drop_eq_nil_of_le hi, List.append_nil]

theorem toByteArray_toList (bs : ByteArray) : bs.toList.toByteArray = bs := by
  have hlist : bs.toList = bs.data.toList := toList_loop bs 0 []
  rw [hlist]
  apply ByteArray.ext
  apply Array.ext'
  exact List.toList_data_toByteArray

/-- A text is decoded from its bytes. -/
theorem fromUTF8?_toUTF8 (s : String) :
    String.fromUTF8? s.toUTF8.toList.toByteArray = some s := by
  have hvalid : s.toUTF8.IsValidUTF8 := s.isValidUTF8
  rw [toByteArray_toList, String.fromUTF8?, dif_pos hvalid]
  rfl

end Python
