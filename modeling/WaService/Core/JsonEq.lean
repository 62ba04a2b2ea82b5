import WaService.Core.Python

/-!
# JSON equality and Python's `==`

Two JSON values are the same when they agree up to the order of members, numbers being compared by
value. Python's `==` is coarser: to it `True` is `1` and `False` is `0`, at any depth. It is the
sameness of the values with their booleans read as numbers, so the two notions part exactly on the
values that are the same once read so and have, at some common place, a boolean against a number.
-/

namespace Python.Json

/-- The number that a value is; a boolean is none. -/
def numeral? : Json → Option Rat
  | int n => some n
  | float q => some q
  | _ => none

mutual
/-- The same JSON value. -/
def same : Json → Json → Bool
  | null, null => true
  | bool b, bool c => b == c
  | str s, str t => s == t
  | arr xs, arr ys => sameItems xs ys
  | obj fs, obj gs => fs.length == gs.length && sameFields fs gs
  | a, b =>
    match a.numeral?, b.numeral? with
    | some p, some q => p == q
    | _, _ => false

/-- The same items, in order. -/
def sameItems : List Json → List Json → Bool
  | [], [] => true
  | x :: xs, y :: ys => same x y && sameItems xs ys
  | _, _ => false

/-- The second object has every member of the first. -/
def sameFields : List (String × Json) → List (String × Json) → Bool
  | [], _ => true
  | (k, v) :: fs, gs =>
    (match gs.lookup k with
      | some w => same v w
      | none => false) && sameFields fs gs
end

mutual
/-- At some common place, one value has a boolean and the other a number. -/
def mixes : Json → Json → Bool
  | bool _, b => b.numeral?.isSome
  | int _, bool _ => true
  | float _, bool _ => true
  | arr xs, arr ys => mixesItems xs ys
  | obj fs, obj gs => mixesFields fs gs
  | _, _ => false

/-- Two items at one index mix. -/
def mixesItems : List Json → List Json → Bool
  | x :: xs, y :: ys => mixes x y || mixesItems xs ys
  | _, _ => false

/-- Two members of one name mix. -/
def mixesFields : List (String × Json) → List (String × Json) → Bool
  | [], _ => false
  | (k, v) :: fs, gs =>
    (match gs.lookup k with
      | some w => mixes v w
      | none => false) || mixesFields fs gs
end

mutual
/-- The value with its booleans read as numbers. -/
def numbered : Json → Json
  | bool b => int (if b then 1 else 0)
  | arr xs => arr (numberedItems xs)
  | obj fs => obj (numberedFields fs)
  | j => j

/-- The items with their booleans read as numbers. -/
def numberedItems : List Json → List Json
  | [] => []
  | x :: xs => numbered x :: numberedItems xs

/-- The members with their booleans read as numbers. -/
def numberedFields : List (String × Json) → List (String × Json)
  | [] => []
  | (k, v) :: fs => (k, numbered v) :: numberedFields fs
end

@[simp] theorem length_numberedFields (fs : List (String × Json)) :
    (numberedFields fs).length = fs.length := by
  induction fs with
  | nil => rfl
  | cons f fs ih => simp only [numberedFields, List.length_cons, ih]

@[simp] theorem lookup_numberedFields (fs : List (String × Json)) (k : String) :
    (numberedFields fs).lookup k = (fs.lookup k).map numbered := by
  induction fs with
  | nil => rfl
  | cons f fs ih =>
    obtain ⟨name, v⟩ := f
    rw [numberedFields, List.lookup_cons, List.lookup_cons, ih]
    cases k == name <;> rfl

mutual
/-- Python compares values as JSON does once their booleans are read as numbers. -/
theorem pyEq_eq_same_numbered (a b : Json) : a.pyEq b = a.numbered.same b.numbered := by
  cases a with
  | arr xs =>
    cases b with
    | arr ys => exact pyEqItems_eq xs ys
    | _ => rfl
  | obj fs =>
    cases b with
    | obj gs =>
      simp only [pyEq, numbered, same, length_numberedFields]
      rw [pyEqFields_eq fs gs]
    | _ => rfl
  | bool p =>
    cases b with
    | bool q => cases p <;> cases q <;> rfl
    | _ => cases p <;> rfl
  | int n =>
    cases b with
    | bool q => cases q <;> rfl
    | _ => rfl
  | float r =>
    cases b with
    | bool q => cases q <;> rfl
    | _ => rfl
  | _ => cases b <;> rfl

theorem pyEqItems_eq (xs ys : List Json) :
    pyEqItems xs ys = sameItems (numberedItems xs) (numberedItems ys) := by
  cases xs with
  | nil => cases ys <;> rfl
  | cons x xs =>
    cases ys with
    | nil => rfl
    | cons y ys =>
      rw [pyEqItems, numberedItems, numberedItems, sameItems, pyEq_eq_same_numbered x y,
        pyEqItems_eq xs ys]

theorem pyEqFields_eq (fs gs : List (String × Json)) :
    pyEqFields fs gs = sameFields (numberedFields fs) (numberedFields gs) := by
  cases fs with
  | nil => rfl
  | cons f fs =>
    obtain ⟨k, v⟩ := f
    rw [pyEqFields, numberedFields, sameFields, lookup_numberedFields, pyEqFields_eq fs gs]
    cases gs.lookup k with
    | none => rfl
    | some w =>
      simp only [Option.map_some]
      rw [pyEq_eq_same_numbered v w]
end

mutual
/-- The same values are equal to Python and mix no boolean with a number. -/
theorem same_eq_pyEq_not_mixes (a b : Json) : a.same b = (a.pyEq b && !a.mixes b) := by
  cases a with
  | arr xs =>
    cases b with
    | arr ys => exact sameItems_eq xs ys
    | _ => rfl
  | obj fs =>
    cases b with
    | obj gs =>
      simp only [same, pyEq, mixes]
      rw [sameFields_eq fs gs, Bool.and_assoc]
    | _ => rfl
  | bool p =>
    cases b with
    | bool q => cases p <;> cases q <;> rfl
    | int n => simp [same, mixes, numeral?]
    | float r => simp [same, mixes, numeral?]
    | _ => rfl
  | int n =>
    cases b with
    | bool q => simp [same, mixes, numeral?]
    | _ => simp [same, pyEq, mixes, numeral?, number?]
  | float r =>
    cases b with
    | bool q => simp [same, mixes, numeral?]
    | _ => simp [same, pyEq, mixes, numeral?, number?]
  | _ => cases b <;> simp [same, pyEq, mixes, numeral?, number?]

theorem sameItems_eq (xs ys : List Json) :
    sameItems xs ys = (pyEqItems xs ys && !mixesItems xs ys) := by
  cases xs with
  | nil => cases ys <;> rfl
  | cons x xs =>
    cases ys with
    | nil => rfl
    | cons y ys =>
      rw [sameItems, pyEqItems, mixesItems, same_eq_pyEq_not_mixes x y, sameItems_eq xs ys,
        Bool.not_or]
      ac_rfl

theorem sameFields_eq (fs gs : List (String × Json)) :
    sameFields fs gs = (pyEqFields fs gs && !mixesFields fs gs) := by
  cases fs with
  | nil => rfl
  | cons f fs =>
    obtain ⟨k, v⟩ := f
    rw [sameFields, pyEqFields, mixesFields, sameFields_eq fs gs, Bool.not_or]
    cases gs.lookup k with
    | none => rfl
    | some w =>
      simp only [same_eq_pyEq_not_mixes v w]
      ac_rfl
end

end Python.Json
