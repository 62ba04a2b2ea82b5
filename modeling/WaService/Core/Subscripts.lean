import WaService.Core.Python

/-!
# Chains of subscripts

`j[s₁][s₂]…` on a decoded value, each subscript a string key or `0`. A chain raises what its first
failing subscript raises: a lookup error where nothing is stored, a `TypeError` where the value
does not take the subscript at all. The two are told apart by the shape of the value alone.
-/

namespace Python

/-- One subscript. -/
inductive Subscript where
  | key (k : String)
  | first
  deriving DecidableEq, Repr

namespace Json

/-- `j[s]`. -/
def sub (j : Json) : Subscript → Except Error Json
  | .key k => j.getItem k
  | .first => j.item0

/-- The value takes the subscript, whether or not it holds anything there. -/
def takes : Json → Subscript → Bool
  | obj _, _ => true
  | arr _, .first => true
  | str _, .first => true
  | _, _ => false

/-- `j[s₁][s₂]…`. -/
def follow : Json → List Subscript → Except Error Json
  | j, [] => .ok j
  | j, s :: path => j.sub s >>= fun v => v.follow path

/-- The chain comes to no value that does not take its next subscript. -/
def fits : Json → List Subscript → Bool
  | _, [] => true
  | j, s :: path =>
    j.takes s &&
      match j.sub s with
      | .ok v => v.fits path
      | .error _ => true

/-- The text of the exception of one subscript, where it is a lookup error. -/
def lookupText : Json → Subscript → String
  | _, .key k => "'" ++ k ++ "'"
  | arr _, .first => "list index out of range"
  | str _, .first => "string index out of range"
  | _, .first => "0"

/-- The text of the lookup error of a chain. -/
def failureText : Json → List Subscript → String
  | _, [] => ""
  | j, s :: path =>
    match j.sub s with
    | .ok v => v.failureText path
    | .error _ => j.lookupText s

/-- A value that does not take a subscript raises a `TypeError`. -/
theorem sub_of_not_takes {j : Json} {s : Subscript} (h : j.takes s = false) :
    j.sub s = .error .typeError := by
  cases j with
  | obj fields => cases h
  | arr items =>
    cases s with
    | key k => rfl
    | first => cases h
  | str t =>
    cases s with
    | key k => rfl
    | first => cases h
  | _ => cases s <;> rfl

/-- A value that takes a subscript has something there or raises a lookup error. -/
theorem sub_of_takes {j : Json} {s : Subscript} (h : j.takes s = true) :
    (∃ v, j.sub s = .ok v) ∨ j.sub s = .error .keyError ∨ j.sub s = .error .indexError := by
  cases j with
  | obj fields =>
    cases s with
    | key k =>
      cases hlookup : fields.lookup k with
      | none => exact Or.inr (Or.inl (by simp only [sub, getItem, hlookup]))
      | some v => exact Or.inl ⟨v, by simp only [sub, getItem, hlookup]⟩
    | first => exact Or.inr (Or.inl rfl)
  | arr items =>
    cases s with
    | key k => cases h
    | first =>
      cases items with
      | nil => exact Or.inr (Or.inr rfl)
      | cons v rest => exact Or.inl ⟨v, rfl⟩
  | str t =>
    cases s with
    | key k => cases h
    | first =>
      cases ht : t.toList with
      | nil => exact Or.inr (Or.inr (by simp only [sub, item0, ht]))
      | cons c rest => exact Or.inl ⟨str (String.ofList [c]), by simp only [sub, item0, ht]⟩
  | _ => cases h

/-- A chain that does not fit raises a `TypeError`. -/
theorem follow_of_not_fits {j : Json} {path : List Subscript} (h : j.fits path = false) :
    j.follow path = .error .typeError := by
  induction path generalizing j with
  | nil => cases h
  | cons s path ih =>
    rw [follow]
    unfold fits at h
    cases htakes : j.takes s with
    | false =>
      rw [sub_of_not_takes htakes]
      rfl
    | true =>
      obtain ⟨v, hv⟩ | hmissing | hmissing := sub_of_takes htakes
      · rw [htakes, hv] at h
        rw [hv]
        exact ih h
      · simp [htakes, hmissing] at h
      · simp [htakes, hmissing] at h

/-- A chain that fits comes to a value or raises a lookup error. -/
theorem follow_of_fits {j : Json} {path : List Subscript} (h : j.fits path = true) :
    (∃ v, j.follow path = .ok v) ∨ j.follow path = .error .keyError ∨
      j.follow path = .error .indexError := by
  induction path generalizing j with
  | nil => exact Or.inl ⟨j, rfl⟩
  | cons s path ih =>
    rw [follow]
    unfold fits at h
    obtain ⟨htakes, h⟩ := Bool.and_eq_true_iff.mp h
    obtain ⟨v, hv⟩ | hmissing | hmissing := sub_of_takes htakes
    · rw [hv] at h ⊢
      exact ih h
    · rw [hmissing]
      exact Or.inr (Or.inl rfl)
    · rw [hmissing]
      exact Or.inr (Or.inr rfl)

end Json

end Python
