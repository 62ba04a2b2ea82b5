import WaService.Core.Python

/-!
# Python's `str.format` with named fields

Templates of literal text, doubled braces and plain replacement fields. A name the
arguments lack is a `KeyError`; an unbalanced brace is a `ValueError`, as is a
conversion or format specification, which no template of the program uses.
-/

namespace Python

/-- The text of a replacement field and what follows its closing brace. -/
def fieldName : List Char → List Char → Except Error (List Char × List Char)
  | _, [] => .error .valueError
  | name, '}' :: cs => .ok (name.reverse, cs)
  | name, c :: cs =>
    if c == '{' || c == '!' || c == ':' then .error .valueError else fieldName (c :: name) cs

/-- Expand a template; `fuel` bounds its length. -/
def formatChars (args : List (String × String)) : Nat → List Char → Except Error (List Char)
  | 0, _ => .ok []
  | _ + 1, [] => .ok []
  | fuel + 1, '{' :: '{' :: cs => do
    let rest ← formatChars args fuel cs
    return '{' :: rest
  | fuel + 1, '}' :: '}' :: cs => do
    let rest ← formatChars args fuel cs
    return '}' :: rest
  | _ + 1, '}' :: _ => .error .valueError
  | fuel + 1, '{' :: cs => do
    let (name, after) ← fieldName [] cs
    match args.lookup (String.ofList name) with
    | none => throw .keyError
    | some value =>
      let rest ← formatChars args fuel after
      return value.toList ++ rest
  | fuel + 1, c :: cs => do
    let rest ← formatChars args fuel cs
    return c :: rest

/-- `template.format(**args)`. -/
def format (template : String) (args : List (String × String)) : Except Error String := do
  let cs ← formatChars args (template.toList.length + 1) template.toList
  return String.ofList cs

/-! ## What expanding a template raises -/

theorem fieldName_error {name cs : List Char} {e : Error} (h : fieldName name cs = .error e) :
    e = .valueError := by
  induction cs generalizing name with
  | nil =>
    unfold fieldName at h
    cases h
    rfl
  | cons c cs ih =>
    unfold fieldName at h
    split at h
    · cases h
      rfl
    · cases h
    · split at h
      · cases h
        rfl
      · rename_i heq _
        cases heq
        exact ih h

/-- What follows a recursive call raises nothing of its own. -/
theorem error_of_bind_pure {α β : Type} {x : Except Error α} {f : α → β} {e : Error}
    (h : (do let a ← x; pure (f a)) = .error e) : x = .error e := by
  rcases bind_eq_error.mp h with h | ⟨_, -, h⟩
  · exact h
  · cases h

theorem formatChars_error {args : List (String × String)} {fuel : Nat} {cs : List Char} {e : Error}
    (h : formatChars args fuel cs = .error e) : e = .keyError ∨ e = .valueError := by
  fun_induction formatChars args fuel cs with
  | case1 => cases h
  | case2 => cases h
  | case3 fuel cs ih => exact ih (error_of_bind_pure h)
  | case4 fuel cs ih => exact ih (error_of_bind_pure h)
  | case5 =>
    cases h
    exact Or.inr rfl
  | case6 fuel cs hbrace ih =>
    rcases bind_eq_error.mp h with h | ⟨⟨name, after⟩, -, h⟩
    · exact Or.inr (fieldName_error h)
    · simp only at h
      split at h
      · cases h
        exact Or.inl rfl
      · exact ih after (error_of_bind_pure h)
  | case7 fuel c cs _ _ _ _ ih => exact ih (error_of_bind_pure h)

/-- A template raises a `KeyError` or a `ValueError`, if anything. -/
theorem format_error {template : String} {args : List (String × String)} {e : Error}
    (h : format template args = .error e) : e = .keyError ∨ e = .valueError := by
  rcases bind_eq_error.mp h with h | ⟨_, -, h⟩
  · exact formatChars_error h
  · cases h

end Python
