import WaService.Core.Dict
import WaService.Core.Python

/-!
# JSON text of dictionaries from text to text

`json.dumps` escapes everything outside printable ASCII, characters beyond the basic plane as two
surrogates. The decoder takes any JSON text of such a dictionary: white space between the tokens,
every escape, hexadecimal digits of either case, and the last of two equal keys. A text with an
unpaired surrogate has no decoded form here.
-/

namespace Python

open WaService (setItem setItem_of_nodup)

/-! ## Encoding -/

/-- A hexadecimal digit in lower case. -/
def hexDigit (n : Nat) : Char := if n < 10 then Char.ofNat (48 + n) else Char.ofNat (87 + n)

/-- Four hexadecimal digits. -/
def hexUnit (n : Nat) : List Char :=
  [hexDigit (n / 4096), hexDigit (n / 256 % 16), hexDigit (n / 16 % 16), hexDigit (n % 16)]

/-- `\u` and four hexadecimal digits. -/
def escapeUnit (n : Nat) : List Char := '\\' :: 'u' :: hexUnit n

/-- The character as `json.dumps` writes it in a string. -/
def escapeChar (c : Char) : List Char :=
  if c = '"' then ['\\', '"']
  else if c = '\\' then ['\\', '\\']
  else if c = '\n' then ['\\', 'n']
  else if c = '\r' then ['\\', 'r']
  else if c = '\t' then ['\\', 't']
  else if c = '\x0c' then ['\\', 'f']
  else if c = '\x08' then ['\\', 'b']
  else if 0x20 ≤ c.toNat ∧ c.toNat ≤ 0x7E then [c]
  else if c.toNat < 0x10000 then escapeUnit c.toNat
  else escapeUnit (0xD800 + (c.toNat - 0x10000) / 1024) ++
    escapeUnit (0xDC00 + (c.toNat - 0x10000) % 1024)

/-- A string literal. -/
def dumpString (s : String) : List Char := '"' :: (s.toList.flatMap escapeChar ++ ['"'])

/-- `"key": "value"`. -/
def dumpEntry (entry : String × String) : List Char :=
  dumpString entry.1 ++ [':', ' '] ++ dumpString entry.2

/-- The entries after the first one, each after `, `, and the closing brace. -/
def dumpRest : List (String × String) → List Char
  | [] => ['}']
  | entry :: raw => [',', ' '] ++ dumpEntry entry ++ dumpRest raw

/-- `json.dumps` of a dictionary from text to text. -/
def dumpsStrings : List (String × String) → String
  | [] => "{}"
  | entry :: raw => String.ofList ('{' :: (dumpEntry entry ++ dumpRest raw))

/-! ## Decoding -/

/-- The value of a hexadecimal digit. -/
def hexValue? (c : Char) : Option Nat :=
  if '0' ≤ c ∧ c ≤ '9' then some (c.toNat - 48)
  else if 'a' ≤ c ∧ c ≤ 'f' then some (c.toNat - 87)
  else if 'A' ≤ c ∧ c ≤ 'F' then some (c.toNat - 55)
  else none

/-- The code unit of four hexadecimal digits, and what follows them. -/
def unit? : List Char → Option (Nat × List Char)
  | a :: b :: c :: d :: rest => do
    let a ← hexValue? a
    let b ← hexValue? b
    let c ← hexValue? c
    let d ← hexValue? d
    return (((a * 16 + b) * 16 + c) * 16 + d, rest)
  | _ => none

/-- The character that the letter after a backslash stands for. -/
def letterEscape? : Char → Option Char
  | '"' => some '"'
  | '\\' => some '\\'
  | '/' => some '/'
  | 'b' => some '\x08'
  | 'f' => some '\x0c'
  | 'n' => some '\n'
  | 'r' => some '\r'
  | 't' => some '\t'
  | _ => none

/-- The character of a `\u` escape, of which the first two characters are read; a high surrogate
takes the escape after it. -/
def unicodeEscape? (cs : List Char) : Option (Char × List Char) := do
  let (unit, rest) ← unit? cs
  if 0xD800 ≤ unit ∧ unit < 0xDC00 then
    match rest with
    | '\\' :: 'u' :: rest => do
      let (low, rest) ← unit? rest
      if 0xDC00 ≤ low ∧ low < 0xE000 then
        return (Char.ofNat (0x10000 + (unit - 0xD800) * 1024 + (low - 0xDC00)), rest)
      else none
    | _ => none
  else if 0xDC00 ≤ unit ∧ unit < 0xE000 then none
  else return (Char.ofNat unit, rest)

/-- The next character of a string literal; control characters are refused. -/
def nextChar? : List Char → Option (Char × List Char)
  | [] => none
  | '\\' :: 'u' :: rest => unicodeEscape? rest
  | '\\' :: letter :: rest => (letterEscape? letter).map fun c => (c, rest)
  | c :: rest => if c = '\\' ∨ c.toNat < 0x20 then none else some (c, rest)

/-- The characters of a literal up to its closing quote, and what follows it. -/
def scanString : Nat → List Char → Option (List Char × List Char)
  | 0, _ => none
  | fuel + 1, cs =>
    if cs.head? = some '"' then some ([], cs.tail)
    else do
      let (c, rest) ← nextChar? cs
      let (text, rest) ← scanString fuel rest
      return (c :: text, rest)

/-- JSON white space. -/
def skipBlank (cs : List Char) : List Char :=
  cs.dropWhile fun c => c == ' ' || c == '\t' || c == '\n' || c == '\r'

/-- A given token, after white space. -/
def token? (c : Char) (cs : List Char) : Option (List Char) :=
  if (skipBlank cs).head? = some c then some (skipBlank cs).tail else none

/-- A string literal, after white space. -/
def string? (cs : List Char) : Option (String × List Char) := do
  let rest ← token? '"' cs
  let (text, rest) ← scanString (rest.length + 1) rest
  return (String.ofList text, rest)

/-- A key and its value. -/
def entry? (cs : List Char) : Option ((String × String) × List Char) := do
  let (key, rest) ← string? cs
  let rest ← token? ':' rest
  let (value, rest) ← string? rest
  return ((key, value), rest)

/-- The entries up to the closing brace, and what follows it. -/
def entries? : Nat → List (String × String) → List Char →
    Option (List (String × String) × List Char)
  | 0, _, _ => none
  | fuel + 1, raw, cs => do
    let (entry, rest) ← entry? cs
    let raw := setItem entry.1 entry.2 raw
    match token? ',' rest with
    | some rest => entries? fuel raw rest
    | none => (token? '}' rest).map fun rest => (raw, rest)

/-- `json.loads` on the JSON text of a dictionary from text to text. -/
def loadsStrings (text : String) : Option (List (String × String)) := do
  let body ← token? '{' text.toList
  let (raw, rest) ← match token? '}' body with
    | some rest => some ([], rest)
    | none => entries? (body.length + 1) [] body
  if skipBlank rest = [] then return raw else none

/-! ## The decoder reads what the encoder writes -/

theorem hexValue?_hexDigit {n : Nat} (h : n < 16) : hexValue? (hexDigit n) = some n := by
  have hall : ∀ n < 16, hexValue? (hexDigit n) = some n := by decide
  exact hall n h

theorem unit?_hexUnit {n : Nat} (h : n < 0x10000) (rest : List Char) :
    unit? (hexUnit n ++ rest) = some (n, rest) := by
  have h₁ := hexValue?_hexDigit (n := n / 4096) (by omega)
  have h₂ := hexValue?_hexDigit (n := n / 256 % 16) (by omega)
  have h₃ := hexValue?_hexDigit (n := n / 16 % 16) (by omega)
  have h₄ := hexValue?_hexDigit (n := n % 16) (by omega)
  have hvalue : ((n / 4096 * 16 + n / 256 % 16) * 16 + n / 16 % 16) * 16 + n % 16 = n := by omega
  simp [hexUnit, unit?, h₁, h₂, h₃, h₄, hvalue]

/-- No character is a surrogate, and none lies beyond the last plane. -/
theorem toNat_valid (c : Char) : c.toNat < 0xD800 ∨ 0xDFFF < c.toNat ∧ c.toNat < 0x110000 := c.valid

/-- A character of the basic plane is one escape. -/
theorem unicodeEscape?_basic {c : Char} (h : c.toNat < 0x10000) (rest : List Char) :
    unicodeEscape? (hexUnit c.toNat ++ rest) = some (c, rest) := by
  have hvalid := toNat_valid c
  have hhigh : ¬ (0xD800 ≤ c.toNat ∧ c.toNat < 0xDC00) := by omega
  have hlow : ¬ (0xDC00 ≤ c.toNat ∧ c.toNat < 0xE000) := by omega
  simp [unicodeEscape?, unit?_hexUnit h, hhigh, hlow]

/-- Two surrogates are one character. -/
theorem unicodeEscape?_pair {high low : Nat} (hhigh : 0xD800 ≤ high ∧ high < 0xDC00)
    (hlow : 0xDC00 ≤ low ∧ low < 0xE000) (rest : List Char) :
    unicodeEscape? (hexUnit high ++ (escapeUnit low ++ rest)) =
      some (Char.ofNat (0x10000 + (high - 0xD800) * 1024 + (low - 0xDC00)), rest) := by
  have h₁ := unit?_hexUnit (n := high) (by omega) ('\\' :: 'u' :: (hexUnit low ++ rest))
  have h₂ := unit?_hexUnit (n := low) (by omega) rest
  simp [unicodeEscape?, escapeUnit, h₁, hhigh, h₂, hlow]

/-- A character beyond it is two. -/
theorem unicodeEscape?_surrogates {c : Char} (h : 0x10000 ≤ c.toNat) (rest : List Char) :
    unicodeEscape? (hexUnit (0xD800 + (c.toNat - 0x10000) / 1024) ++
      (escapeUnit (0xDC00 + (c.toNat - 0x10000) % 1024) ++ rest)) = some (c, rest) := by
  have hvalid := toNat_valid c
  have hvalue : 0x10000 + (0xD800 + (c.toNat - 0x10000) / 1024 - 0xD800) * 1024 +
      (0xDC00 + (c.toNat - 0x10000) % 1024 - 0xDC00) = c.toNat := by omega
  rw [unicodeEscape?_pair (by omega) (by omega), hvalue, Char.ofNat_toNat]

/-- The decoder reads an escaped character. -/
theorem nextChar?_escapeChar (c : Char) (rest : List Char) :
    nextChar? (escapeChar c ++ rest) = some (c, rest) := by
  unfold escapeChar
  split
  · subst c; rfl
  split
  · subst c; rfl
  split
  · subst c; rfl
  split
  · subst c; rfl
  split
  · subst c; rfl
  split
  · subst c; rfl
  split
  · subst c; rfl
  split
  · rename_i hslash _ _ _ _ _ hprint
    have hcontrol : ¬ (c = '\\' ∨ c.toNat < 0x20) := by
      rw [not_or]
      exact ⟨hslash, by omega⟩
    rw [List.singleton_append, nextChar?.eq_def]
    split
    · rename_i heq
      cases heq
    · rename_i heq
      exact absurd (List.cons.inj heq).1 hslash
    · rename_i heq
      exact absurd (List.cons.inj heq).1 hslash
    · rename_i heq
      obtain ⟨rfl, rfl⟩ := List.cons.inj heq
      rw [if_neg hcontrol]
  split
  · rename_i hbasic
    exact unicodeEscape?_basic hbasic rest
  · rename_i hbasic
    rw [List.append_assoc]
    exact unicodeEscape?_surrogates (by omega) rest

/-- An escaped character does not begin with a quote. -/
theorem head?_escapeChar (c : Char) (rest : List Char) :
    (escapeChar c ++ rest).head? ≠ some '"' := by
  unfold escapeChar
  split
  · simp
  rename_i hquote
  split
  · simp
  split
  · simp
  split
  · simp
  split
  · simp
  split
  · simp
  split
  · simp
  split
  · simpa using hquote
  split
  · simp [escapeUnit]
  · simp [escapeUnit]

/-- A literal is read up to its closing quote. -/
theorem scanString_escaped {cs : List Char} {fuel : Nat} (h : cs.length < fuel)
    (rest : List Char) :
    scanString fuel (cs.flatMap escapeChar ++ '"' :: rest) = some (cs, rest) := by
  induction cs generalizing fuel with
  | nil =>
    cases fuel with
    | zero => cases h
    | succ fuel => rfl
  | cons c cs ih =>
    cases fuel with
    | zero => cases h
    | succ fuel =>
      rw [List.flatMap_cons, List.append_assoc, scanString, if_neg (head?_escapeChar c _),
        nextChar?_escapeChar]
      simp [ih (Nat.lt_of_succ_lt_succ h)]

theorem length_le_flatMap_escapeChar (cs : List Char) :
    cs.length ≤ (cs.flatMap escapeChar).length := by
  induction cs with
  | nil => exact Nat.le_refl 0
  | cons c cs ih =>
    have hpos : 0 < (escapeChar c).length := by
      have hnext := nextChar?_escapeChar c []
      rw [List.length_pos_iff]
      intro hnil
      rw [hnil] at hnext
      cases hnext
    rw [List.flatMap_cons, List.length_append, List.length_cons]
    omega

/-- A character that is not white space is the next token. -/
theorem token?_cons {c : Char} (rest : List Char)
    (hc : (c == ' ' || c == '\t' || c == '\n' || c == '\r') = false) :
    token? c (c :: rest) = some rest := by
  have hskip : skipBlank (c :: rest) = c :: rest := by
    rw [skipBlank, List.dropWhile_cons_of_neg (by rw [hc]; exact nofun)]
  rw [token?, hskip]
  simp

/-- Another character is not the token. -/
theorem token?_of_ne {c d : Char} (rest : List Char) (hne : d ≠ c)
    (hd : (d == ' ' || d == '\t' || d == '\n' || d == '\r') = false) :
    token? c (d :: rest) = none := by
  have hskip : skipBlank (d :: rest) = d :: rest := by
    rw [skipBlank, List.dropWhile_cons_of_neg (by rw [hd]; exact nofun)]
  rw [token?, hskip]
  simp [hne]

/-- A space in front of a token is skipped. -/
theorem string?_space (rest : List Char) : string? (' ' :: rest) = string? rest := rfl

theorem entry?_space (rest : List Char) : entry? (' ' :: rest) = entry? rest := rfl

/-- A string is read back. -/
theorem string?_dumpString (s : String) (rest : List Char) :
    string? (dumpString s ++ rest) = some (s, rest) := by
  have hlen := length_le_flatMap_escapeChar s.toList
  have hscan : scanString ((s.toList.flatMap escapeChar ++ '"' :: rest).length + 1)
      (s.toList.flatMap escapeChar ++ '"' :: rest) = some (s.toList, rest) := by
    apply scanString_escaped
    rw [List.length_append]
    omega
  have htext : dumpString s ++ rest = '"' :: (s.toList.flatMap escapeChar ++ '"' :: rest) := by
    simp [dumpString]
  rw [htext, string?, token?_cons _ (by decide)]
  simp only [Option.bind_eq_bind, Option.bind_some, hscan, String.ofList_toList]
  rfl

/-- An entry is read back. -/
theorem entry?_dumpEntry (entry : String × String) (rest : List Char) :
    entry? (dumpEntry entry ++ rest) = some (entry, rest) := by
  have htext : dumpEntry entry ++ rest =
      dumpString entry.1 ++ (':' :: ' ' :: (dumpString entry.2 ++ rest)) := by
    simp [dumpEntry]
  rw [htext, entry?, string?_dumpString]
  simp [token?_cons (c := ':') _ (by decide), string?_space, string?_dumpString]

theorem entries?_space (fuel : Nat) (raw : List (String × String)) (rest : List Char) :
    entries? fuel raw (' ' :: rest) = entries? fuel raw rest := by
  cases fuel with
  | zero => rfl
  | succ fuel => rw [entries?, entries?, entry?_space]

/-- The entries are read back in their order. -/
theorem entries?_dumpRest {raw : List (String × String)} {fuel : Nat} (hfuel : raw.length < fuel)
    {read : List (String × String)} {entry : String × String}
    (hkeys : ((read ++ entry :: raw).map Prod.fst).Nodup) :
    entries? fuel read (dumpEntry entry ++ dumpRest raw) = some (read ++ entry :: raw, []) := by
  induction raw generalizing fuel read entry with
  | nil =>
    obtain ⟨fuel, rfl⟩ := Nat.exists_eq_succ_of_ne_zero (Nat.ne_of_gt hfuel)
    rw [entries?, entry?_dumpEntry]
    simp only [Option.bind_eq_bind, Option.bind_some, setItem_of_nodup hkeys, dumpRest,
      token?_of_ne (c := ',') (d := '}') [] (by decide) (by decide),
      token?_cons (c := '}') [] (by decide), Option.map_some]
  | cons next raw ih =>
    obtain ⟨fuel, rfl⟩ := Nat.exists_eq_succ_of_ne_zero (Nat.ne_of_gt (Nat.zero_lt_of_lt hfuel))
    have hkeys' : ((read ++ [entry] ++ next :: raw).map Prod.fst).Nodup := by
      rwa [List.append_assoc, List.singleton_append]
    have hrest := ih (Nat.lt_of_succ_lt_succ hfuel) hkeys'
    have htext : dumpRest (next :: raw) = ',' :: ' ' :: (dumpEntry next ++ dumpRest raw) := by
      simp [dumpRest]
    rw [entries?, entry?_dumpEntry, htext]
    simp only [Option.bind_eq_bind, Option.bind_some, setItem_of_nodup hkeys,
      token?_cons (c := ',') _ (by decide), entries?_space, hrest]
    rw [List.append_assoc, List.singleton_append]

/-- The entries are no longer than their text. -/
theorem length_le_dumpRest (raw : List (String × String)) : raw.length < (dumpRest raw).length := by
  induction raw with
  | nil => exact Nat.zero_lt_one
  | cons entry raw ih =>
    simp only [dumpRest, List.length_append, List.length_cons]
    omega

/-- The decoder reads a dictionary back, in its order. -/
theorem loadsStrings_dumpsStrings {raw : List (String × String)}
    (hkeys : (raw.map Prod.fst).Nodup) : loadsStrings (dumpsStrings raw) = some raw := by
  cases raw with
  | nil => rfl
  | cons entry raw =>
    have hlength := length_le_dumpRest raw
    have hentries : entries? ((dumpEntry entry ++ dumpRest raw).length + 1) []
        (dumpEntry entry ++ dumpRest raw) = some (entry :: raw, []) := by
      apply entries?_dumpRest
      · rw [List.length_append]
        omega
      · exact hkeys
    have hopen : token? '}' (dumpEntry entry ++ dumpRest raw) = none :=
      token?_of_ne (d := '"') _ (by decide) (by decide)
    rw [dumpsStrings, loadsStrings, String.toList_ofList, token?_cons _ (by decide)]
    simp only [Option.bind_eq_bind, Option.bind_some, hopen, hentries]
    rfl

end Python
