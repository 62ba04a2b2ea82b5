import WaService.Core.Regex

/-!
# Aadhaar redaction of text

`_AADHAAR_RE` and the replacement that `mask_aadhaar_text` makes, with the shape of what the
pattern matches.
-/

namespace WaService

open Python Regex

/-- `\d{4}`. -/
def fourDigits : Pattern := .rep isDecimal 4 (some 4)

/-- `\s*`. -/
def blanks : Pattern := .rep isSpace 0 none

/-- `_AADHAAR_RE`: `\b(\d{4})\s*(\d{4})\s*(\d{4})\b`. -/
def aadhaarRe (t : Alnum) : Pattern :=
  .seq (.boundary t.isWord) (.seq (.group fourDigits) (.seq blanks (.seq (.group fourDigits)
    (.seq blanks (.seq (.group fourDigits) (.boundary t.isWord))))))

/-- What stands for the first eight digits. -/
def crossedOut : List Char := ['X', 'X', 'X', 'X', ' ', 'X', 'X', 'X', 'X', ' ']

/-- `f"XXXX XXXX {m.group(3)}"`. -/
def maskNumber (groups : List (List Char)) : List Char := crossedOut ++ (groups[2]?).getD []

/-- `mask_aadhaar_text`. -/
def maskAadhaarText (t : Alnum) (text : String) : String :=
  String.ofList (sub (aadhaarRe t) maskNumber text.toList)

/-! ## What the pattern matches -/

/-- A text that `\d{4}` matches. -/
abbrev FourDigits (g : List Char) : Prop := Takes isDecimal 4 (some 4) g

/-- A text that `\s*` matches. -/
abbrev Blank (s : List Char) : Prop := Takes isSpace 0 none s

theorem FourDigits.length {g : List Char} (h : FourDigits g) : g.length = 4 :=
  Nat.le_antisymm (h.most 4 rfl) h.least

/-- Four digits begin with one. -/
theorem FourDigits.exists_cons {g : List Char} (h : FourDigits g) :
    ∃ d ds, g = d :: ds ∧ isDecimal d = true := by
  cases g with
  | nil => cases h.length
  | cons d ds => exact ⟨d, ds, rfl, h.all d List.mem_cons_self⟩

/-- Three groups of four digits with white space between them. -/
structure AadhaarNumber where
  first : List Char
  gap : List Char
  second : List Char
  gap' : List Char
  third : List Char
  first_digits : FourDigits first
  gap_blank : Blank gap
  second_digits : FourDigits second
  gap'_blank : Blank gap'
  third_digits : FourDigits third

namespace AadhaarNumber

/-- The number as it is written. -/
def text (n : AadhaarNumber) : List Char := n.first ++ (n.gap ++ (n.second ++ (n.gap' ++ n.third)))

/-- The groups of the match. -/
def groups (n : AadhaarNumber) : List (List Char) := [n.first, n.second, n.third]

/-- A number begins with a digit. -/
theorem text_eq_cons (n : AadhaarNumber) : ∃ d ds, n.text = d :: ds ∧ isDecimal d = true := by
  obtain ⟨d, ds, hfirst, hd⟩ := n.first_digits.exists_cons
  exact ⟨d, ds ++ (n.gap ++ (n.second ++ (n.gap' ++ n.third))), by rw [text, hfirst]; rfl, hd⟩

/-- Every character of a number is a digit or white space, so no `X`. -/
theorem x_notMem (n : AadhaarNumber) : 'X' ∉ n.text := by
  have hdigits : ∀ {g}, FourDigits g → 'X' ∉ g := fun h hx => absurd (h.all _ hx) (by decide)
  have hblank : ∀ {s}, Blank s → 'X' ∉ s := fun h hx => absurd (h.all _ hx) (by decide)
  simp only [text, List.mem_append, not_or]
  exact ⟨hdigits n.first_digits, hblank n.gap_blank, hdigits n.second_digits,
    hblank n.gap'_blank, hdigits n.third_digits⟩

/-- Its last four characters are the third group. -/
theorem drop_text (n : AadhaarNumber) : n.text.drop (n.text.length - 4) = n.third := by
  have hlen : n.text.length - 4 = (n.first ++ (n.gap ++ (n.second ++ n.gap'))).length := by
    simp only [text, List.length_append, n.third_digits.length]
    omega
  have htext : n.text = n.first ++ (n.gap ++ (n.second ++ n.gap')) ++ n.third := by
    simp only [text, List.append_assoc]
  rw [hlen, htext, List.drop_left]

end AadhaarNumber

variable {t : Alnum}

/-- Digits read backwards begin with a word character. -/
theorem headIs_reverse_digits {g : List Char} (hne : g ≠ []) (h : ∀ c ∈ g, isDecimal c = true)
    (before : List Char) : headIs t.isWord (g.reverse ++ before) = true := by
  cases hg : g.reverse with
  | nil => exact absurd (List.reverse_eq_nil_iff.mp hg) hne
  | cons d ds =>
    have hd : d ∈ g := List.mem_reverse.mp (by rw [hg]; exact List.mem_cons_self)
    exact t.isWord_decimal (h d hd)

theorem FourDigits.headIs_reverse {g : List Char} (h : FourDigits g) (before : List Char) :
    headIs t.isWord (g.reverse ++ before) = true := by
  obtain ⟨d, ds, rfl, -⟩ := h.exists_cons
  exact headIs_reverse_digits (List.cons_ne_nil d ds) h.all before

/-- A number read backwards begins with a word character. -/
theorem AadhaarNumber.headIs_reverse_text (n : AadhaarNumber) (before : List Char) :
    headIs t.isWord (n.text.reverse ++ before) = true := by
  simp only [text, List.reverse_append, List.append_assoc]
  exact n.third_digits.headIs_reverse _

/-- The pattern matches a number that has no word character on either side. -/
theorem mem_ends_aadhaarRe {before after : List Char} {e : Cursor} :
    e ∈ (aadhaarRe t).ends ⟨before, after, []⟩ ↔ ∃ (n : AadhaarNumber) (rest : List Char),
      after = n.text ++ rest ∧ headIs t.isWord before = false ∧ headIs t.isWord rest = false ∧
        e = ⟨n.text.reverse ++ before, rest, n.groups⟩ := by
  simp only [aadhaarRe, fourDigits, blanks, Pattern.mem_ends_seq, Pattern.mem_ends_boundary,
    Pattern.mem_ends_rep, Pattern.mem_ends_group_rep]
  constructor
  · rintro ⟨_, ⟨hstart, rfl⟩, _, ⟨g₁, r₁, hg₁, ha₁, rfl⟩, _, ⟨s₁, r₂, hs₁, ha₂, rfl⟩, _,
      ⟨g₂, r₃, hg₂, ha₃, rfl⟩, _, ⟨s₂, r₄, hs₂, ha₄, rfl⟩, _, ⟨g₃, rest, hg₃, ha₅, rfl⟩,
      hfinish, rfl⟩
    simp only at hstart ha₁ ha₂ ha₃ ha₄ ha₅ hfinish
    subst ha₁ ha₂ ha₃ ha₄ ha₅
    refine ⟨⟨g₁, s₁, g₂, s₂, g₃, hg₁, hs₁, hg₂, hs₂, hg₃⟩, rest, ?_, ?_, ?_, ?_⟩
    · simp only [AadhaarNumber.text, List.append_assoc]
    · obtain ⟨d, ds, hd, hdigit⟩ := FourDigits.exists_cons hg₁
      have hhead : headIs t.isWord (g₁ ++ (s₁ ++ (g₂ ++ (s₂ ++ (g₃ ++ rest))))) = true := by
        rw [hd]
        exact t.isWord_decimal hdigit
      rw [hhead] at hstart
      simpa using hstart
    · rw [FourDigits.headIs_reverse hg₃] at hfinish
      simpa using hfinish.symm
    · simp [AadhaarNumber.text, AadhaarNumber.groups, List.append_assoc]
  · rintro ⟨n, rest, hafter, hbefore, hrest, rfl⟩
    have hhead : headIs t.isWord after = true := by
      obtain ⟨d, ds, hd, hdigit⟩ := n.text_eq_cons
      rw [hafter, hd]
      exact t.isWord_decimal hdigit
    refine ⟨_, ⟨by rw [hbefore, hhead]; exact nofun, rfl⟩,
      _, ⟨n.first, _, n.first_digits, ?_, rfl⟩, _, ⟨n.gap, _, n.gap_blank, rfl, rfl⟩,
      _, ⟨n.second, _, n.second_digits, rfl, rfl⟩, _, ⟨n.gap', _, n.gap'_blank, rfl, rfl⟩,
      _, ⟨n.third, rest, n.third_digits, rfl, rfl⟩, ?_, ?_⟩
    · simp only [hafter, AadhaarNumber.text, List.append_assoc]
    · rw [n.third_digits.headIs_reverse, hrest]
      exact nofun
    · simp [AadhaarNumber.text, AadhaarNumber.groups, List.append_assoc]

end WaService
