import Mathlib.Data.List.Basic

/-!
# Decoded JSON with Python's access rules

The values that `json.loads` yields, and the operations Python code performs on
them: subscripting, `dict.get`, iteration, truth testing, `int()`, equality. Each
operation fails with the exception Python raises there, so that a caller's
`except` clause can be checked against it. A decoded object holds a key once.
-/

namespace Python

/-- The exceptions that Python and the database driver raise. -/
inductive Error where
  | keyError
  | indexError
  | typeError
  | attributeError
  | valueError
  | integrityError
  | programmingError
  | dataError
  | noResultFound
  | multipleResultsFound
  deriving DecidableEq, Repr

/-- A value that `json.loads` can return. -/
inductive Json where
  | null
  | bool (b : Bool)
  | int (n : Int)
  | float (q : Rat)
  | str (s : String)
  | arr (items : List Json)
  | obj (fields : List (String × Json))
  deriving Repr, Inhabited

/-- Handle the two exceptions of a failed subscript with a value: the clause
`except (KeyError, IndexError)`. -/
def onLookupError {α : Type} (fallback : α) : Except Error α → Except Error α
  | .error .keyError | .error .indexError => .ok fallback
  | r => r

/-- A sequence of two computations succeeds when both do. -/
theorem bind_eq_ok {ε α β : Type} {x : Except ε α} {f : α → Except ε β} {b : β} :
    (x >>= f) = .ok b ↔ ∃ a, x = .ok a ∧ f a = .ok b := by
  cases x with
  | error e => exact ⟨nofun, nofun⟩
  | ok a => exact ⟨fun h => ⟨a, rfl, h⟩, fun ⟨_, ha, h⟩ => by cases ha; exact h⟩

theorem map_eq_ok {ε α β : Type} {x : Except ε α} {f : α → β} {b : β} :
    x.map f = .ok b ↔ ∃ a, x = .ok a ∧ f a = b := by
  cases x with
  | error e => exact ⟨nofun, nofun⟩
  | ok a => exact ⟨fun h => ⟨a, rfl, Except.ok.inj h⟩, fun ⟨_, ha, h⟩ => by cases ha; rw [← h]; rfl⟩

/-- A sequence of two computations raises what the first or the second one raises. -/
theorem bind_eq_error {ε α β : Type} {x : Except ε α} {f : α → Except ε β} {e : ε} :
    (x >>= f) = .error e ↔ x = .error e ∨ ∃ a, x = .ok a ∧ f a = .error e := by
  cases x with
  | error e' =>
    constructor
    · intro h
      cases h
      exact Or.inl rfl
    · rintro (h | ⟨a, ha, -⟩)
      · cases h
        rfl
      · cases ha
  | ok a =>
    constructor
    · exact fun h => Or.inr ⟨a, rfl, h⟩
    · rintro (h | ⟨a', ha, h⟩)
      · cases h
      · cases ha
        exact h

namespace Json

/-- `j[key]` for a string key. -/
def getItem (j : Json) (key : String) : Except Error Json :=
  match j with
  | obj fields =>
    match fields.lookup key with
    | some v => .ok v
    | none => .error .keyError
  | _ => .error .typeError

/-- `j[0]`; the keys of an object are strings, so `0` is never one of them. -/
def item0 : Json → Except Error Json
  | arr (x :: _) => .ok x
  | arr [] => .error .indexError
  | str s =>
    match s.toList with
    | c :: _ => .ok (str (String.ofList [c]))
    | [] => .error .indexError
  | obj _ => .error .keyError
  | _ => .error .typeError

/-- `j.get(key, default)`. -/
def get (j : Json) (key : String) (default : Json) : Except Error Json :=
  match j with
  | obj fields => .ok ((fields.lookup key).getD default)
  | _ => .error .attributeError

theorem get_error {j : Json} {key : String} {default : Json} {e : Error}
    (h : j.get key default = .error e) : e = .attributeError := by
  cases j with
  | obj fields => cases h
  | _ =>
    cases h
    rfl

/-- `bool(j)`. -/
def truthy : Json → Bool
  | null => false
  | bool b => b
  | int n => n != 0
  | float q => q != 0
  | str s => s != ""
  | arr items => !items.isEmpty
  | obj fields => !fields.isEmpty

/-- The values `for x in j` visits: items, keys or characters. -/
def iter : Json → Except Error (List Json)
  | arr items => .ok items
  | obj fields => .ok (fields.map fun f => str f.1)
  | str s => .ok (s.toList.map fun c => str (String.ofList [c]))
  | _ => .error .typeError

/-- `len(j)`. -/
def len : Json → Except Error Nat
  | arr items => .ok items.length
  | obj fields => .ok fields.length
  | str s => .ok s.toList.length
  | _ => .error .typeError

/-- `j == s` for a string `s`. -/
def eqStr (j : Json) (s : String) : Bool :=
  match j with
  | str t => t == s
  | _ => false

/-- The number that a bool, int or float compares as. -/
def number? : Json → Option Rat
  | bool b => some (if b then 1 else 0)
  | int n => some n
  | float q => some q
  | _ => none

mutual
/-- `a == b`: numbers and booleans by value, objects regardless of key order. -/
def pyEq : Json → Json → Bool
  | null, null => true
  | str s, str t => s == t
  | arr xs, arr ys => pyEqItems xs ys
  | obj fs, obj gs => fs.length == gs.length && pyEqFields fs gs
  | a, b =>
    match a.number?, b.number? with
    | some p, some q => p == q
    | _, _ => false

/-- Equality of two lists of items. -/
def pyEqItems : List Json → List Json → Bool
  | [], [] => true
  | x :: xs, y :: ys => pyEq x y && pyEqItems xs ys
  | _, _ => false

/-- Every field of the first object is found, with an equal value, in the second. -/
def pyEqFields : List (String × Json) → List (String × Json) → Bool
  | [], _ => true
  | (k, v) :: fs, gs =>
    (match gs.lookup k with
      | some w => pyEq v w
      | none => false) && pyEqFields fs gs
end

/-- A NUL character, which PostgreSQL refuses in `text` and `jsonb`. -/
def hasNul (s : String) : Bool := s.toList.contains '\x00'

mutual
/-- `CAST(json.dumps(j) AS jsonb)` accepts the value. -/
def storable : Json → Bool
  | str s => !hasNul s
  | arr xs => storableItems xs
  | obj fs => storableFields fs
  | _ => true

/-- Every item is storable. -/
def storableItems : List Json → Bool
  | [] => true
  | x :: xs => storable x && storableItems xs

/-- Every key and every value is storable. -/
def storableFields : List (String × Json) → Bool
  | [] => true
  | (k, v) :: fs => !hasNul k && storable v && storableFields fs
end

end Json

/-! ## Numbers and instants -/

/-- The code points of the digit zero in each of Unicode's decimal digit ranges. -/
def decimalZeros : List Nat :=
  [0x30, 0x660, 0x6F0, 0x7C0, 0x966, 0x9E6, 0xA66, 0xAE6, 0xB66, 0xBE6, 0xC66, 0xCE6, 0xD66,
    0xDE6, 0xE50, 0xED0, 0xF20, 0x1040, 0x1090, 0x17E0, 0x1810, 0x1946, 0x19D0, 0x1A80, 0x1A90,
    0x1B50, 0x1BB0, 0x1C40, 0x1C50, 0xA620, 0xA8D0, 0xA900, 0xA9D0, 0xA9F0, 0xAA50, 0xABF0,
    0xFF10, 0x104A0, 0x10D30, 0x11066, 0x110F0, 0x11136, 0x111D0, 0x112F0, 0x11450, 0x114D0,
    0x11650, 0x116C0, 0x11730, 0x118E0, 0x11950, 0x11C50, 0x11D50, 0x11DA0, 0x11F50, 0x16A60,
    0x16AC0, 0x16B50, 0x1D7CE, 0x1D7D8, 0x1D7E2, 0x1D7EC, 0x1D7F6, 0x1E140, 0x1E2F0, 0x1E4F0,
    0x1E950, 0x1FBF0]

/-- The value of a Unicode decimal digit. -/
def digitValue? (c : Char) : Option Nat :=
  decimalZeros.findSome? fun z =>
    if z ≤ c.toNat ∧ c.toNat < z + 10 then some (c.toNat - z) else none

/-- `str.isspace` of one character. -/
def isSpace (c : Char) : Bool :=
  let n := c.toNat
  (9 ≤ n && n ≤ 13) || (28 ≤ n && n ≤ 32) || n == 0x85 || n == 0xA0 || n == 0x1680 ||
    (0x2000 ≤ n && n ≤ 0x200A) || n == 0x2028 || n == 0x2029 || n == 0x202F || n == 0x205F ||
    n == 0x3000

/-- `str.strip` on characters. -/
def strip (cs : List Char) : List Char :=
  ((cs.dropWhile isSpace).reverse.dropWhile isSpace).reverse

/-- Digits with single underscores between them, read from the left. -/
def digits? (acc : Nat) : List Char → Option Nat
  | [] => some acc
  | '_' :: c :: cs =>
    match digitValue? c with
    | some d => digits? (acc * 10 + d) cs
    | none => none
  | c :: cs =>
    match digitValue? c with
    | some d => digits? (acc * 10 + d) cs
    | none => none

/-- A nonempty run of digits; an underscore may not come first. -/
def natural? : List Char → Option Nat
  | [] => none
  | c :: cs =>
    match digitValue? c with
    | some d => digits? d cs
    | none => none

/-- `int(s)` for a string. -/
def intOfString (s : String) : Except Error Int :=
  let value? : Option Int :=
    match strip s.toList with
    | '-' :: cs => (natural? cs).map fun n => -(n : Int)
    | '+' :: cs => (natural? cs).map fun n => (n : Int)
    | cs => (natural? cs).map fun n => (n : Int)
  match value? with
  | some n => .ok n
  | none => .error .valueError

/-- `int(j)`. -/
def toInt : Json → Except Error Int
  | .bool b => .ok (if b then 1 else 0)
  | .int n => .ok n
  | .float q => .ok (Int.tdiv q.num q.den)
  | .str s => intOfString s
  | _ => .error .typeError

/-- `datetime.fromtimestamp(n, tz=utc)`, which is defined for the years 1 to 9999. -/
def fromTimestamp (n : Int) : Except Error Int :=
  if -62135596800 ≤ n ∧ n ≤ 253402300799 then .ok n else .error .valueError

end Python
