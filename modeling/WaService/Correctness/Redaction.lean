import WaService.Media.Redact

/-!
# What masking leaves

A masked number keeps its third group. Nothing of the pattern is left in the output exactly when
no number of the input is followed, before the next one, by two more groups: the kept group and
these two read as a number again.
-/

namespace WaService

open Python Regex

variable {t : Alnum}

/-- The pattern matches nowhere in the text. -/
def LeavesNothing (t : Alnum) (out : String) : Prop :=
  ∀ before after, out.toList = before ++ after →
    (aadhaarRe t).matchAt before.reverse after = none

/-- A segment of the input in the output: a number keeps its last four characters. -/
def masked : Segment → List Char
  | .char c => [c]
  | .found text _ => crossedOut ++ text.drop (text.length - 4)

/-- Outside the numbers of the leftmost division every character is kept, and of each number its
last four digits, in their order. -/
def KeepsTheRest (t : Alnum) (text out : String) : Prop :=
  ∃ ps, Division (aadhaarRe t) [] text.toList ps ∧ out.toList = ps.flatMap masked

/-- No word character follows. -/
def NoWordNext (t : Alnum) : List Segment → Prop
  | [] => True
  | .char c :: _ => t.isWord c = false
  | .found _ _ :: _ => False

/-- Two groups of four digits follow outside of every number, up to a word boundary. -/
def TwoGroupsNext (t : Alnum) (ps : List Segment) : Prop :=
  ∃ gap first gap' second ps', Blank gap ∧ FourDigits first ∧ Blank gap' ∧ FourDigits second ∧
    ps = (gap ++ (first ++ (gap' ++ second))).map Segment.char ++ ps' ∧ NoWordNext t ps'

/-- No number among the segments is followed by two more groups. -/
def NoneFollowed (t : Alnum) (ps : List Segment) : Prop :=
  ∀ before m groups after, ps = before ++ .found m groups :: after → ¬ TwoGroupsNext t after

/-- In the leftmost division of the text, no number is followed by two more groups outside of every
number. -/
def NoTwoGroupsLeft (t : Alnum) (text : String) : Prop :=
  ∀ ps, Division (aadhaarRe t) [] text.toList ps → NoneFollowed t ps

/-! ## The search on a text -/

theorem matchAt_aadhaarRe_some {before after : List Char} {e : Cursor}
    (h : (aadhaarRe t).matchAt before after = some e) : ∃ n : AadhaarNumber,
      after = n.text ++ e.after ∧ headIs t.isWord before = false ∧
        headIs t.isWord e.after = false ∧ e.groups = n.groups := by
  obtain ⟨n, rest, hafter, hbefore, hrest, rfl⟩ := mem_ends_aadhaarRe.mp (Pattern.matchAt_mem h)
  exact ⟨n, hafter, hbefore, hrest, rfl⟩

/-- The pattern matches no empty text. -/
theorem matchAt_aadhaarRe_consumes (before after : List Char) (e : Cursor)
    (h : (aadhaarRe t).matchAt before after = some e) : e.after ≠ after := by
  obtain ⟨n, hafter, -⟩ := matchAt_aadhaarRe_some h
  obtain ⟨d, ds, htext, -⟩ := n.text_eq_cons
  intro hsame
  rw [hsame, htext] at hafter
  have hlen := congrArg List.length hafter
  rw [List.length_append, List.length_cons] at hlen
  omega

theorem matchAt_aadhaarRe_none {before after : List Char} :
    (aadhaarRe t).matchAt before after = none ↔ ∀ (n : AadhaarNumber) (rest : List Char),
      after = n.text ++ rest → headIs t.isWord before = false → headIs t.isWord rest ≠ false := by
  rw [Pattern.matchAt_eq_none]
  constructor
  · intro h n rest hafter hbefore hrest
    exact h _ (mem_ends_aadhaarRe.mpr ⟨n, rest, hafter, hbefore, hrest, rfl⟩)
  · intro h e he
    obtain ⟨n, rest, hafter, hbefore, hrest, -⟩ := mem_ends_aadhaarRe.mp he
    exact h n rest hafter hbefore hrest

theorem matchAt_aadhaarRe_nil {before : List Char} :
    (aadhaarRe t).matchAt before [] = none := by
  rw [matchAt_aadhaarRe_none]
  intro n rest hrest
  obtain ⟨d, ds, htext, -⟩ := n.text_eq_cons
  rw [htext] at hrest
  cases hrest

/-- A match begins with a digit. -/
theorem matchAt_aadhaarRe_of_not_decimal {before cs : List Char} {c : Char}
    (hc : isDecimal c = false) : (aadhaarRe t).matchAt before (c :: cs) = none := by
  rw [matchAt_aadhaarRe_none]
  intro n rest hafter
  obtain ⟨d, ds, htext, hd⟩ := n.text_eq_cons
  rw [htext, List.cons_append, List.cons.injEq] at hafter
  rw [hafter.1, hd] at hc
  cases hc

/-- No match starts after a word character. -/
theorem matchAt_aadhaarRe_of_word {before after : List Char}
    (h : headIs t.isWord before = true) : (aadhaarRe t).matchAt before after = none := by
  rw [matchAt_aadhaarRe_none]
  intro n rest _ hbefore
  rw [h] at hbefore
  cases hbefore

/-- A match that was found is a number. -/
theorem found_number {before m cs : List Char} {e : Cursor}
    (h : (aadhaarRe t).matchAt before (m ++ cs) = some e) (hafter : e.after = cs) :
    ∃ n : AadhaarNumber, m = n.text ∧ headIs t.isWord before = false ∧
      headIs t.isWord cs = false ∧ e.groups = n.groups := by
  obtain ⟨n, htext, hbefore, hrest, hgroups⟩ := matchAt_aadhaarRe_some h
  rw [hafter] at htext hrest
  exact ⟨n, List.append_cancel_right htext, hbefore, hrest, hgroups⟩

@[simp] theorem masked_number (n : AadhaarNumber) (groups : List (List Char)) :
    masked (.found n.text groups) = crossedOut ++ n.third := by
  rw [masked, n.drop_text]

/-- The search of the code divides a text. -/
theorem segments_aadhaarRe (t : Alnum) (before cs : List Char) :
    Division (aadhaarRe t) before cs (segments (aadhaarRe t) before 0 cs) :=
  segments_division matchAt_aadhaarRe_consumes before cs

/-- The replacement keeps the last four characters of each number. -/
theorem rendered_eq_masked {before cs : List Char} {ps : List Segment}
    (h : Division (aadhaarRe t) before cs ps) :
    ps.flatMap (Segment.rendered maskNumber) = ps.flatMap masked := by
  induction h with
  | nil => rfl
  | char _ _ ih => rw [List.flatMap_cons, List.flatMap_cons, ih]; rfl
  | found hmatch hafter _ _ ih =>
    obtain ⟨n, rfl, -, -, hgroups⟩ := found_number hmatch hafter
    rw [List.flatMap_cons, List.flatMap_cons, ih, masked_number, hgroups]
    rfl

theorem toList_maskAadhaarText (t : Alnum) (text : String) :
    (maskAadhaarText t text).toList =
      (segments (aadhaarRe t) [] 0 text.toList).flatMap masked := by
  rw [maskAadhaarText, String.toList_ofList, sub, rendered_eq_masked (segments_aadhaarRe t _ _)]

/-- Every character outside the numbers is kept, and so are the last four digits of each number. -/
theorem maskAadhaarText_keeps (t : Alnum) (text : String) :
    KeepsTheRest t text (maskAadhaarText t text) :=
  ⟨_, segments_aadhaarRe t [] text.toList, toList_maskAadhaarText t text⟩

/-! ## Texts that masking leaves as they are -/

/-- A text is its own masking exactly when the pattern matches nowhere in it. -/
theorem masked_eq_iff {before cs : List Char} {ps : List Segment}
    (h : Division (aadhaarRe t) before cs ps) :
    ps.flatMap masked = cs ↔ ∀ x a, cs = x ++ a →
      (aadhaarRe t).matchAt (x.reverse ++ before) a = none := by
  induction h with
  | nil =>
    refine ⟨fun _ x a hsplit => ?_, fun _ => rfl⟩
    obtain ⟨rfl, rfl⟩ := List.append_eq_nil_iff.mp hsplit.symm
    exact matchAt_aadhaarRe_nil
  | @char before cs c ps hnone hdiv ih =>
    have hcons : (Segment.char c :: ps).flatMap masked = c :: ps.flatMap masked := rfl
    rw [hcons, List.cons.injEq, eq_self, true_and, ih]
    constructor
    · intro hrest x a hsplit
      cases x with
      | nil =>
        subst hsplit
        exact hnone
      | cons d x =>
        obtain ⟨rfl, rfl⟩ := List.cons.inj hsplit
        rw [List.reverse_cons, List.append_assoc]
        exact hrest x a rfl
    · intro hall x a hsplit
      have hhere := hall (c :: x) a (by rw [hsplit]; rfl)
      rwa [List.reverse_cons, List.append_assoc] at hhere
  | @found before m cs e ps hmatch hafter hne hdiv ih =>
    constructor
    · intro hsame
      obtain ⟨n, rfl, -⟩ := found_number hmatch hafter
      obtain ⟨d, ds, htext, hd⟩ := n.text_eq_cons
      rw [List.flatMap_cons, masked_number, htext] at hsame
      obtain ⟨rfl, -⟩ := List.cons.inj hsame
      exact absurd hd (by decide)
    · intro hall
      have hhere := hall [] (m ++ cs) rfl
      rw [List.reverse_nil, List.nil_append, hmatch] at hhere
      cases hhere

/-- Masking leaves a text as it is exactly when the pattern matches nowhere in it. -/
theorem maskAadhaarText_eq_iff (t : Alnum) (text : String) :
    maskAadhaarText t text = text ↔ LeavesNothing t text := by
  have hdiv := masked_eq_iff (segments_aadhaarRe t [] text.toList)
  rw [← toList_maskAadhaarText, String.toList_inj] at hdiv
  rw [hdiv, LeavesNothing]
  simp only [List.append_nil]

/-! ## What the output holds -/

/-- A text without an `X` at the front of the output, up to a word boundary, is outside of every
number. -/
theorem masked_prefix {ps : List Segment} {m rest : List Char} (hm : 'X' ∉ m)
    (hrest : headIs t.isWord rest = false) (h : ps.flatMap masked = m ++ rest) :
    ∃ ps', ps = m.map Segment.char ++ ps' ∧ ps'.flatMap masked = rest ∧ NoWordNext t ps' := by
  induction m generalizing ps with
  | nil =>
    refine ⟨ps, rfl, h, ?_⟩
    rw [List.nil_append] at h
    subst h
    cases ps with
    | nil => exact trivial
    | cons p ps =>
      cases p with
      | char c => exact hrest
      | found text groups =>
        have hword : t.isWord 'X' = true := t.isWord_letter (by decide)
        exact absurd (hword.symm.trans hrest) (by decide)
  | cons c m ih =>
    cases ps with
    | nil => cases h
    | cons p ps =>
      cases p with
      | char d =>
        obtain ⟨rfl, hps⟩ := List.cons.inj h
        obtain ⟨ps', rfl, hmasked, hnext⟩ := ih (fun hx => hm (List.mem_cons_of_mem d hx)) hps
        exact ⟨ps', rfl, hmasked, hnext⟩
      | found text groups =>
        obtain ⟨rfl, -⟩ := List.cons.inj h
        exact absurd List.mem_cons_self hm

/-- What follows in the input and in the output begins with no word character. -/
theorem NoWordNext.headIs {ps : List Segment} (h : NoWordNext t ps) :
    headIs t.isWord (ps.flatMap Segment.source) = false ∧
      headIs t.isWord (ps.flatMap masked) = false := by
  cases ps with
  | nil => exact ⟨rfl, rfl⟩
  | cons p ps =>
    cases p with
    | char c => exact ⟨h, h⟩
    | found text groups => exact h.elim

/-- In front of no word character, the pattern matches the output where it matches the input, up
to the end of the match. -/
theorem number_of_masked {before : List Char} {cs : List Char} {ps : List Segment}
    {n : AadhaarNumber} {rest : List Char} (hdiv : Division (aadhaarRe t) before cs ps)
    (hrest : headIs t.isWord rest = false) (h : ps.flatMap masked = n.text ++ rest) :
    ∃ rest', cs = n.text ++ rest' ∧ headIs t.isWord rest' = false := by
  obtain ⟨ps', rfl, -, hnext⟩ := masked_prefix n.x_notMem hrest h
  refine ⟨ps'.flatMap Segment.source, ?_, hnext.headIs.1⟩
  rw [← hdiv.source, List.flatMap_append, List.flatMap_map]
  exact congrArg (· ++ _) (List.flatMap_singleton' n.text)

/-- The kept group and what follows in the output are a number only where two groups follow. -/
theorem twoGroups_of_number {ps : List Segment} {third : List Char} {n : AadhaarNumber}
    {rest : List Char} (hthird : FourDigits third) (hrest : headIs t.isWord rest = false)
    (h : third ++ ps.flatMap masked = n.text ++ rest) : TwoGroupsNext t ps := by
  rw [AadhaarNumber.text, List.append_assoc] at h
  obtain ⟨-, hps⟩ := List.append_inj h (by rw [hthird.length, n.first_digits.length])
  obtain ⟨ps', hsplit, -, hnext⟩ :=
    masked_prefix (fun hx => n.x_notMem (List.mem_append_right n.first hx)) hrest hps
  exact ⟨n.gap, n.second, n.gap', n.third, ps', n.gap_blank, n.second_digits, n.gap'_blank,
    n.third_digits, hsplit, hnext⟩

theorem NoneFollowed.tail {p : Segment} {ps : List Segment} (h : NoneFollowed t (p :: ps)) :
    NoneFollowed t ps :=
  fun before m groups after hsplit => h (p :: before) m groups after (by rw [hsplit]; rfl)

/-- In a number that is crossed out, a match can start at the kept group alone. -/
theorem matchAt_crossedOut {before x a third rest : List Char} (hthird : FourDigits third)
    (hsplit : crossedOut ++ (third ++ rest) = x ++ a)
    (hsome : (aadhaarRe t).matchAt (x.reverse ++ before) a ≠ none) :
    x = crossedOut ∧ a = third ++ rest ∨ ∃ y, x = crossedOut ++ (third ++ y) ∧ rest = y ++ a := by
  have hcrossed : ∀ c ∈ crossedOut, (!isDecimal c) = true := List.all_eq_true.mp (by decide)
  rcases List.append_eq_append_iff.mp hsplit with ⟨y, rfl, hrest⟩ | ⟨z, hz, rfl⟩
  · rcases List.append_eq_append_iff.mp hrest with ⟨w, rfl, hw⟩ | ⟨w, hw, rfl⟩
    · exact Or.inr ⟨w, rfl, hw⟩
    · by_cases hy : y = []
      · subst hy
        rw [List.nil_append] at hw
        exact Or.inl ⟨List.append_nil _, by rw [hw]⟩
      · -- Within the kept group, a digit stands before the position.
        have hword : headIs t.isWord ((crossedOut ++ y).reverse ++ before) = true := by
          rw [List.reverse_append, List.append_assoc]
          exact headIs_reverse_digits hy
            (fun c hc => hthird.all c (by rw [hw]; exact List.mem_append_left w hc)) _
        exact absurd (matchAt_aadhaarRe_of_word hword) hsome
  · cases z with
    | nil =>
      rw [List.append_nil] at hz
      exact Or.inl ⟨hz.symm, rfl⟩
    | cons c z =>
      have hc := hcrossed c (by rw [hz]; exact List.mem_append_right x List.mem_cons_self)
      exact absurd (matchAt_aadhaarRe_of_not_decimal (by simpa using hc)) hsome

/-- The pattern matches nowhere in the output when no number is followed by two groups. -/
theorem matchAt_masked {before cs : List Char} {ps : List Segment}
    (hdiv : Division (aadhaarRe t) before cs ps) (hps : NoneFollowed t ps) {out : List Char}
    (hout : headIs t.isWord out = headIs t.isWord before) :
    ∀ x a, ps.flatMap masked = x ++ a → (aadhaarRe t).matchAt (x.reverse ++ out) a = none := by
  induction hdiv generalizing out with
  | nil =>
    intro x a hsplit
    obtain ⟨rfl, rfl⟩ := List.append_eq_nil_iff.mp hsplit.symm
    exact matchAt_aadhaarRe_nil
  | @char before cs c ps hnone hdiv ih =>
    intro x a hsplit
    cases x with
    | nil =>
      rw [matchAt_aadhaarRe_none]
      rintro n rest rfl hbefore hrest
      obtain ⟨rest', hcs, hrest'⟩ := number_of_masked (.char hnone hdiv) hrest hsplit
      exact matchAt_aadhaarRe_none.mp hnone n rest' hcs (hout ▸ hbefore) hrest'
    | cons d x =>
      obtain ⟨rfl, hsplit'⟩ := List.cons.inj hsplit
      have hkept : headIs t.isWord (c :: out) = headIs t.isWord (c :: before) := rfl
      rw [List.reverse_cons, List.append_assoc]
      exact ih hps.tail hkept x a hsplit'
  | @found before m cs e ps hmatch hafter hne hdiv ih =>
    intro x a hsplit
    obtain ⟨n, rfl, -⟩ := found_number hmatch hafter
    rw [List.flatMap_cons, masked_number, List.append_assoc] at hsplit
    by_contra hsome
    rcases matchAt_crossedOut n.third_digits hsplit hsome with ⟨rfl, rfl⟩ | ⟨y, rfl, hy⟩
    · -- The kept group begins a number with the two groups that follow.
      refine hsome (matchAt_aadhaarRe_none.mpr ?_)
      intro n' rest hnumber _ hrest
      exact hps [] _ _ ps rfl (twoGroups_of_number n.third_digits hrest hnumber)
    · have hkept : headIs t.isWord ((crossedOut ++ n.third).reverse ++ out) =
          headIs t.isWord (n.text.reverse ++ before) := by
        rw [List.reverse_append, List.append_assoc, n.third_digits.headIs_reverse,
          n.headIs_reverse_text]
      have hrest := ih hps.tail hkept y a hy
      rw [← List.append_assoc, List.reverse_append, List.append_assoc] at hsome
      exact hsome hrest

/-- Each match among the segments is a number. -/
theorem exists_number_of_mem {before cs : List Char} {ps : List Segment}
    (hdiv : Division (aadhaarRe t) before cs ps) {m : List Char} {groups : List (List Char)}
    (hmem : Segment.found m groups ∈ ps) : ∃ n : AadhaarNumber, m = n.text := by
  induction hdiv with
  | nil => cases hmem
  | char _ _ ih =>
    rcases List.mem_cons.mp hmem with h | h
    · cases h
    · exact ih h
  | found hmatch hafter _ _ ih =>
    rcases List.mem_cons.mp hmem with h | h
    · obtain ⟨n, hn, -⟩ := found_number hmatch hafter
      cases h
      exact ⟨n, hn⟩
    · exact ih h

/-- The pattern matches the kept group of a number together with the two groups that follow. -/
theorem matchAt_kept_ne_none {out : List Char} {n : AadhaarNumber} {ps : List Segment}
    (h : TwoGroupsNext t ps) :
    (aadhaarRe t).matchAt (crossedOut.reverse ++ out) (n.third ++ ps.flatMap masked) ≠ none := by
  obtain ⟨gap, first, gap', second, ps', hgap, hfirst, hgap', hsecond, rfl, hnext⟩ := h
  intro hnone
  let kept : AadhaarNumber :=
    ⟨n.third, gap, first, gap', second, n.third_digits, hgap, hfirst, hgap', hsecond⟩
  have hspace : headIs t.isWord (crossedOut.reverse ++ out) = false :=
    t.isWord_space (c := ' ') (by decide)
  refine matchAt_aadhaarRe_none.mp hnone kept (ps'.flatMap masked) ?_ hspace hnext.headIs.2
  have hchars : ((gap ++ (first ++ (gap' ++ second))).map Segment.char).flatMap masked =
      gap ++ (first ++ (gap' ++ second)) := by
    rw [List.flatMap_map]
    exact List.flatMap_singleton' _
  rw [List.flatMap_append, hchars]
  simp only [kept, AadhaarNumber.text, List.append_assoc]

/-- The pattern matches nowhere in the output exactly when no number that the search finds is
followed, outside of every number, by two more groups. -/
theorem leavesNothing_iff (t : Alnum) (text : String) :
    LeavesNothing t (maskAadhaarText t text) ↔ NoTwoGroupsLeft t text := by
  have hdiv := segments_aadhaarRe t [] text.toList
  unfold LeavesNothing
  rw [toList_maskAadhaarText]
  constructor
  · intro h ps hps before m groups after hsplit htwo
    rw [hdiv.unique hps, hsplit] at h hdiv
    obtain ⟨n, rfl⟩ := exists_number_of_mem hdiv (List.mem_append_right before List.mem_cons_self)
    have hhere := h (before.flatMap masked ++ crossedOut) (n.third ++ after.flatMap masked) (by
      rw [List.flatMap_append, List.flatMap_cons, masked_number]
      simp only [List.append_assoc])
    rw [List.reverse_append] at hhere
    exact matchAt_kept_ne_none htwo hhere
  · intro h x a hsplit
    have hnone := matchAt_masked hdiv (h _ hdiv) rfl x a hsplit
    rwa [List.append_nil] at hnone

/-- Masking leaves nothing behind, is idempotent and keeps the rest of the text exactly when no
number that the search finds is followed, outside of every number, by two more groups. -/
theorem masking_right_iff (t : Alnum) (text : String) :
    (LeavesNothing t (maskAadhaarText t text) ∧
      maskAadhaarText t (maskAadhaarText t text) = maskAadhaarText t text ∧
      KeepsTheRest t text (maskAadhaarText t text)) ↔ NoTwoGroupsLeft t text := by
  rw [maskAadhaarText_eq_iff, leavesNothing_iff]
  exact ⟨fun h => h.1, fun h => ⟨h, h, maskAadhaarText_keeps t text⟩⟩

/-- The letters of ASCII. -/
def asciiAlnum : Alnum where
  other := Char.isAlpha
  letter _ h := h
  space c h := by
    by_contra hc
    have hletter : (decide (65 ≤ c.val ∧ c.val ≤ 90) || (decide (97 ≤ c.val) &&
        decide (c.val ≤ 122))) = true := by
      rwa [Bool.not_eq_false] at hc
    have hrange : 65 ≤ c.toNat ∧ c.toNat ≤ 90 ∨ 97 ≤ c.toNat ∧ c.toNat ≤ 122 := by
      simpa [UInt32.le_iff_toNat_le] using hletter
    simp only [isSpace, Bool.or_eq_true, Bool.and_eq_true, decide_eq_true_eq, beq_iff_eq] at h
    omega

/-- Two groups in front of a number leave all of its digits in the output. -/
theorem five_groups_left :
    maskAadhaarText asciiAlnum "2025 0042 9876 5432 1098" = "XXXX XXXX 9876 5432 1098" ∧
      ¬ LeavesNothing asciiAlnum (maskAadhaarText asciiAlnum "2025 0042 9876 5432 1098") ∧
      maskAadhaarText asciiAlnum (maskAadhaarText asciiAlnum "2025 0042 9876 5432 1098") ≠
        maskAadhaarText asciiAlnum "2025 0042 9876 5432 1098" := by
  have hmask : maskAadhaarText asciiAlnum "2025 0042 9876 5432 1098" =
      "XXXX XXXX 9876 5432 1098" := by decide
  have hagain : maskAadhaarText asciiAlnum "XXXX XXXX 9876 5432 1098" =
      "XXXX XXXX XXXX XXXX 1098" := by decide
  rw [hmask, ← maskAadhaarText_eq_iff, hagain]
  exact ⟨rfl, by decide, by decide⟩

end WaService
