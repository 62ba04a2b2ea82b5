import WaService.Core.Python

/-!
# Regular expressions over text

The part of `re` that needs no lookaround: classes of characters repeated between two bounds,
sequences, groups, word boundaries, `^` and `$`. A pattern gives the positions where a match from
one position can end, in the order in which the engine tries them, so its match is the first.
`sub` replaces the leftmost matches that do not overlap.
-/

namespace Python

/-- `\d` on text: a decimal digit of any script. -/
def isDecimal (c : Char) : Bool := (digitValue? c).isSome

/-- A decimal digit is no white space. -/
theorem isSpace_of_isDecimal {c : Char} (h : isDecimal c = true) : isSpace c = false := by
  have hfar : ∀ z ∈ decimalZeros, ¬ (z ≤ 13 ∧ 9 < z + 10) ∧ ¬ (z ≤ 32 ∧ 28 < z + 10) ∧
      ¬ (z ≤ 0x85 ∧ 0x85 < z + 10) ∧ ¬ (z ≤ 0xA0 ∧ 0xA0 < z + 10) ∧
      ¬ (z ≤ 0x1680 ∧ 0x1680 < z + 10) ∧ ¬ (z ≤ 0x200A ∧ 0x2000 < z + 10) ∧
      ¬ (z ≤ 0x205F ∧ 0x2028 < z + 10) ∧ ¬ (z ≤ 0x3000 ∧ 0x3000 < z + 10) := by decide
  obtain ⟨value, hvalue⟩ := Option.isSome_iff_exists.mp h
  obtain ⟨z, hz, hrange⟩ := List.exists_of_findSome?_eq_some hvalue
  split at hrange
  · rename_i hin
    have := hfar z hz
    simp only [isSpace, Bool.or_eq_false_iff, Bool.and_eq_false_iff, beq_eq_false_iff_ne,
      decide_eq_false_iff_not]
    omega
  · cases hrange

/-- The characters other than decimal digits that `str.isalnum` holds of, in the version of
Unicode at hand: letters and other numerics, never white space. -/
structure Alnum where
  other : Char → Bool
  letter : ∀ c : Char, c.isAlpha = true → other c = true
  space : ∀ c, isSpace c = true → other c = false

/-- `\w` on text. -/
def Alnum.isWord (t : Alnum) (c : Char) : Bool := c == '_' || isDecimal c || t.other c

theorem Alnum.isWord_decimal (t : Alnum) {c : Char} (h : isDecimal c = true) :
    t.isWord c = true := by
  simp [isWord, h]

theorem Alnum.isWord_letter (t : Alnum) {c : Char} (h : c.isAlpha = true) : t.isWord c = true := by
  simp [isWord, t.letter c h]

theorem Alnum.isWord_space (t : Alnum) {c : Char} (h : isSpace c = true) : t.isWord c = false := by
  have hdecimal : isDecimal c = false := by
    by_contra hc
    rw [Bool.not_eq_false] at hc
    rw [isSpace_of_isDecimal hc] at h
    cases h
  have hunder : c ≠ '_' := by
    rintro rfl
    exact absurd h (by decide)
  simp [isWord, hdecimal, hunder, t.space c h]

namespace Regex

/-- A position in a text: what stands before it, nearest first, what stands after it, and the
groups captured so far. -/
structure Cursor where
  before : List Char
  after : List Char
  groups : List (List Char)
  deriving DecidableEq, Repr

/-- A pattern. Repetition is of one class of characters, without an upper bound where `hi` is
`none`. -/
inductive Pattern where
  | rep (p : Char → Bool) (lo : Nat) (hi : Option Nat)
  | seq (r s : Pattern)
  | group (r : Pattern)
  | boundary (word : Char → Bool)
  | start
  | finish

/-- Whether the next character, if there is one, is of the class. -/
def headIs (p : Char → Bool) (cs : List Char) : Bool := cs.head?.any p

/-- The positions after each allowed number of characters of the class, the last one first. -/
def repeats (p : Char → Bool) : Nat → Option Nat → List Char → List Char →
    List (List Char × List Char)
  | 0, _, before, [] => [(before, [])]
  | _ + 1, _, _, [] => []
  | lo, hi, before, c :: cs =>
    (if p c = true ∧ hi ≠ some 0 then repeats p (lo - 1) (hi.map (· - 1)) (c :: before) cs
      else []) ++ if lo = 0 then [(before, c :: cs)] else []

namespace Pattern

/-- The positions where a match can end, in the order in which they are tried. -/
def ends : Pattern → Cursor → List Cursor
  | rep p lo hi, cur => (repeats p lo hi cur.before cur.after).map fun e =>
      ⟨e.1, e.2, cur.groups⟩
  | seq r s, cur => (r.ends cur).flatMap s.ends
  | group r, cur => (r.ends cur).map fun e =>
      { e with groups := e.groups ++ [cur.after.take (cur.after.length - e.after.length)] }
  | boundary word, cur => if headIs word cur.before != headIs word cur.after then [cur] else []
  | start, cur => if cur.before = [] then [cur] else []
  | finish, cur => if cur.after = [] ∨ cur.after = ['\n'] then [cur] else []

/-- The match at a position. -/
def matchAt (r : Pattern) (before after : List Char) : Option Cursor :=
  (r.ends ⟨before, after, []⟩).head?

end Pattern

/-! ## Where matches end -/

/-- A text that a repetition takes. -/
structure Takes (p : Char → Bool) (lo : Nat) (hi : Option Nat) (m : List Char) : Prop where
  all : ∀ c ∈ m, p c = true
  least : lo ≤ m.length
  most : ∀ n ∈ hi, m.length ≤ n

theorem takes_nil {p : Char → Bool} {lo : Nat} {hi : Option Nat} :
    Takes p lo hi [] ↔ lo = 0 := by
  constructor
  · intro h
    exact Nat.le_zero.mp h.least
  · intro h
    exact ⟨nofun, Nat.le_of_eq h, fun _ _ => Nat.zero_le _⟩

theorem takes_cons {p : Char → Bool} {lo : Nat} {hi : Option Nat} {c : Char} {m : List Char} :
    Takes p lo hi (c :: m) ↔
      (p c = true ∧ hi ≠ some 0) ∧ Takes p (lo - 1) (hi.map (· - 1)) m := by
  constructor
  · intro h
    have hleast := h.least
    refine ⟨⟨h.all c List.mem_cons_self, ?_⟩,
      fun d hd => h.all d (List.mem_cons_of_mem c hd), ?_, ?_⟩
    · intro hzero
      exact absurd (h.most 0 hzero) (by simp)
    · rw [List.length_cons] at hleast
      omega
    · intro n hn
      obtain ⟨k, hk, rfl⟩ := Option.map_eq_some_iff.mp hn
      have hmost := h.most k hk
      rw [List.length_cons] at hmost
      omega
  · rintro ⟨⟨hc, hzero⟩, h⟩
    have hleast := h.least
    refine ⟨?_, ?_, ?_⟩
    · intro d hd
      rcases List.mem_cons.mp hd with rfl | hd
      · exact hc
      · exact h.all d hd
    · rw [List.length_cons]
      omega
    · intro k hk
      have hmost := h.most (k - 1) (by rw [Option.mem_def.mp hk]; rfl)
      have hpos : k ≠ 0 := by
        rintro rfl
        exact hzero hk
      rw [List.length_cons]
      omega

theorem mem_repeats {p : Char → Bool} {lo : Nat} {hi : Option Nat} {before after : List Char}
    {e : List Char × List Char} :
    e ∈ repeats p lo hi before after ↔
      ∃ m, Takes p lo hi m ∧ after = m ++ e.2 ∧ e.1 = m.reverse ++ before := by
  induction after generalizing lo hi before with
  | nil =>
    have hnil : ∀ m, [] = m ++ e.2 ↔ m = [] ∧ e.2 = [] := by
      intro m
      rw [eq_comm, List.append_eq_nil_iff]
    cases lo with
    | zero =>
      simp only [repeats, List.mem_singleton, hnil]
      constructor
      · rintro rfl
        exact ⟨[], takes_nil.mpr rfl, ⟨rfl, rfl⟩, rfl⟩
      · rintro ⟨m, -, ⟨rfl, hafter⟩, hbefore⟩
        exact Prod.ext hbefore hafter
    | succ lo =>
      simp only [repeats, List.not_mem_nil, hnil, false_iff]
      rintro ⟨m, htakes, ⟨rfl, -⟩, -⟩
      cases takes_nil.mp htakes
  | cons c cs ih =>
    have hunfold : repeats p lo hi before (c :: cs) =
        (if p c = true ∧ hi ≠ some 0 then repeats p (lo - 1) (hi.map (· - 1)) (c :: before) cs
          else []) ++ if lo = 0 then [(before, c :: cs)] else [] := by
      cases lo <;> rfl
    rw [hunfold, List.mem_append]
    constructor
    · rintro (h | h)
      · split at h
        · rename_i hc
          obtain ⟨m, htakes, hafter, hbefore⟩ := ih.mp h
          exact ⟨c :: m, takes_cons.mpr ⟨hc, htakes⟩, by rw [hafter]; rfl, by simp [hbefore]⟩
        · cases h
      · split at h
        · rename_i hlo
          rw [List.mem_singleton] at h
          subst h
          exact ⟨[], takes_nil.mpr hlo, rfl, rfl⟩
        · cases h
    · rintro ⟨m, htakes, hafter, hbefore⟩
      cases m with
      | nil =>
        right
        rw [if_pos (takes_nil.mp htakes), List.mem_singleton]
        exact Prod.ext hbefore hafter.symm
      | cons d m =>
        rw [List.cons_append, List.cons.injEq] at hafter
        obtain ⟨rfl, hafter⟩ := hafter
        obtain ⟨hc, htakes⟩ := takes_cons.mp htakes
        left
        rw [if_pos hc]
        exact ih.mpr ⟨m, htakes, hafter, by simp [hbefore]⟩

namespace Pattern

theorem mem_ends_rep {p : Char → Bool} {lo : Nat} {hi : Option Nat} {cur e : Cursor} :
    e ∈ (rep p lo hi).ends cur ↔ ∃ m rest, Takes p lo hi m ∧ cur.after = m ++ rest ∧
      e = ⟨m.reverse ++ cur.before, rest, cur.groups⟩ := by
  simp only [ends, List.mem_map, Prod.exists, mem_repeats]
  constructor
  · rintro ⟨before, rest, ⟨m, htakes, hafter, rfl⟩, rfl⟩
    exact ⟨m, rest, htakes, hafter, rfl⟩
  · rintro ⟨m, rest, htakes, hafter, rfl⟩
    exact ⟨_, rest, ⟨m, htakes, hafter, rfl⟩, rfl⟩

theorem mem_ends_seq {r s : Pattern} {cur e : Cursor} :
    e ∈ (seq r s).ends cur ↔ ∃ mid ∈ r.ends cur, e ∈ s.ends mid := by
  simp only [ends, List.mem_flatMap]

/-- A group around a repetition captures what the repetition takes. -/
theorem mem_ends_group_rep {p : Char → Bool} {lo : Nat} {hi : Option Nat} {cur e : Cursor} :
    e ∈ (group (rep p lo hi)).ends cur ↔ ∃ m rest, Takes p lo hi m ∧ cur.after = m ++ rest ∧
      e = ⟨m.reverse ++ cur.before, rest, cur.groups ++ [m]⟩ := by
  have hcaptured : ∀ m rest, cur.after = m ++ rest →
      cur.after.take (cur.after.length - rest.length) = m := by
    intro m rest hafter
    rw [hafter, List.length_append, Nat.add_sub_cancel, List.take_left]
  rw [ends, List.mem_map]
  constructor
  · rintro ⟨e', he', rfl⟩
    obtain ⟨m, rest, htakes, hafter, rfl⟩ := mem_ends_rep.mp he'
    exact ⟨m, rest, htakes, hafter, by rw [hcaptured m rest hafter]⟩
  · rintro ⟨m, rest, htakes, hafter, rfl⟩
    exact ⟨_, mem_ends_rep.mpr ⟨m, rest, htakes, hafter, rfl⟩, by rw [hcaptured m rest hafter]⟩

theorem mem_ends_boundary {word : Char → Bool} {cur e : Cursor} :
    e ∈ (boundary word).ends cur ↔ headIs word cur.before ≠ headIs word cur.after ∧ e = cur := by
  rw [ends]
  by_cases h : headIs word cur.before = headIs word cur.after
  · simp [h]
  · simp [h]

theorem mem_ends_start {cur e : Cursor} :
    e ∈ start.ends cur ↔ cur.before = [] ∧ e = cur := by
  rw [ends]
  by_cases h : cur.before = []
  · simp [h]
  · simp [h]

theorem mem_ends_finish {cur e : Cursor} :
    e ∈ finish.ends cur ↔ (cur.after = [] ∨ cur.after = ['\n']) ∧ e = cur := by
  rw [ends]
  by_cases h : cur.after = [] ∨ cur.after = ['\n']
  · simp [h]
  · simp [h]

/-- A match takes a prefix of what follows. -/
theorem ends_advance {r : Pattern} {cur e : Cursor} (h : e ∈ r.ends cur) :
    ∃ m, cur.after = m ++ e.after ∧ e.before = m.reverse ++ cur.before := by
  induction r generalizing cur e with
  | rep p lo hi =>
    obtain ⟨m, rest, -, hafter, rfl⟩ := mem_ends_rep.mp h
    exact ⟨m, hafter, rfl⟩
  | seq r s ihr ihs =>
    obtain ⟨mid, hmid, he⟩ := mem_ends_seq.mp h
    obtain ⟨m, hafter, hbefore⟩ := ihr hmid
    obtain ⟨m', hafter', hbefore'⟩ := ihs he
    exact ⟨m ++ m', by rw [hafter, hafter', List.append_assoc],
      by rw [hbefore', hbefore, List.reverse_append, List.append_assoc]⟩
  | group r ih =>
    obtain ⟨e', he', rfl⟩ := List.mem_map.mp h
    obtain ⟨m, hafter, hbefore⟩ := ih he'
    exact ⟨m, hafter, hbefore⟩
  | boundary word =>
    obtain ⟨-, rfl⟩ := mem_ends_boundary.mp h
    exact ⟨[], rfl, rfl⟩
  | start =>
    obtain ⟨-, rfl⟩ := mem_ends_start.mp h
    exact ⟨[], rfl, rfl⟩
  | finish =>
    obtain ⟨-, rfl⟩ := mem_ends_finish.mp h
    exact ⟨[], rfl, rfl⟩

theorem matchAt_eq_none {r : Pattern} {before after : List Char} :
    r.matchAt before after = none ↔ ∀ e, e ∉ r.ends ⟨before, after, []⟩ := by
  rw [matchAt, List.head?_eq_none_iff, List.eq_nil_iff_forall_not_mem]

theorem matchAt_mem {r : Pattern} {before after : List Char} {e : Cursor}
    (h : r.matchAt before after = some e) : e ∈ r.ends ⟨before, after, []⟩ :=
  List.mem_of_head? h

end Pattern

/-! ## Replacing matches -/

/-- A segment of a searched text: a character outside the matches, or a match with its groups. -/
inductive Segment where
  | char (c : Char)
  | found (text : List Char) (groups : List (List Char))
  deriving DecidableEq, Repr

/-- The text of a segment. -/
def Segment.source : Segment → List Char
  | char c => [c]
  | found text _ => text

/-- The text that replaces a segment. -/
def Segment.rendered (repl : List (List Char) → List Char) : Segment → List Char
  | char c => [c]
  | found _ groups => repl groups

/-- The segments of a text, from the left, after `skip` characters of a match that was found; for
patterns that match no empty text. -/
def segments (r : Pattern) : List Char → Nat → List Char → List Segment
  | _, _, [] => []
  | before, skip + 1, c :: cs => segments r (c :: before) skip cs
  | before, 0, c :: cs =>
    match r.matchAt before (c :: cs) with
    | none => .char c :: segments r (c :: before) 0 cs
    | some e =>
      let text := (c :: cs).take ((c :: cs).length - e.after.length)
      .found text e.groups :: segments r (c :: before) (text.length - 1) cs

/-- `re.sub`, with the replacement given the groups. -/
def sub (r : Pattern) (repl : List (List Char) → List Char) (text : List Char) : List Char :=
  (segments r [] 0 text).flatMap (Segment.rendered repl)

/-- The leftmost division of what follows a position: a character where no match starts, or the
match that starts there. -/
inductive Division (r : Pattern) : List Char → List Char → List Segment → Prop where
  | nil {before : List Char} : Division r before [] []
  | char {before cs : List Char} {c : Char} {ps : List Segment} :
      r.matchAt before (c :: cs) = none → Division r (c :: before) cs ps →
      Division r before (c :: cs) (.char c :: ps)
  | found {before m cs : List Char} {e : Cursor} {ps : List Segment} :
      r.matchAt before (m ++ cs) = some e → e.after = cs → m ≠ [] →
      Division r (m.reverse ++ before) cs ps →
      Division r before (m ++ cs) (.found m e.groups :: ps)

theorem segments_skip (r : Pattern) (before m cs : List Char) :
    segments r before m.length (m ++ cs) = segments r (m.reverse ++ before) 0 cs := by
  induction m generalizing before with
  | nil => rfl
  | cons c m ih =>
    rw [List.length_cons, List.cons_append, segments, ih, List.reverse_cons, List.append_assoc]
    rfl

/-- A match is one segment, and the search goes on after it. -/
theorem segments_found {r : Pattern} {before m rest : List Char} {c : Char} {e : Cursor}
    (h : r.matchAt before (c :: m ++ rest) = some e) (hafter : e.after = rest) :
    segments r before 0 (c :: m ++ rest) =
      .found (c :: m) e.groups :: segments r ((c :: m).reverse ++ before) 0 rest := by
  have htext : (c :: m ++ rest).take ((c :: m ++ rest).length - e.after.length) = c :: m := by
    rw [hafter, List.length_append, Nat.add_sub_cancel, List.take_left]
  rw [List.cons_append] at h htext
  rw [List.cons_append, segments, h]
  simp only [htext]
  rw [List.length_cons, Nat.add_sub_cancel, segments_skip, List.reverse_cons, List.append_assoc]
  rfl

/-- The search divides the text. -/
theorem segments_division {r : Pattern}
    (hr : ∀ before after e, r.matchAt before after = some e → e.after ≠ after)
    (before cs : List Char) : Division r before cs (segments r before 0 cs) := by
  induction hlen : cs.length using Nat.strongRecOn generalizing before cs with
  | _ n ih =>
    cases cs with
    | nil => exact .nil
    | cons c cs =>
      subst hlen
      cases hmatch : r.matchAt before (c :: cs) with
      | none =>
        rw [segments, hmatch]
        exact .char hmatch (ih cs.length (by simp) _ cs rfl)
      | some e =>
        have hmem := Pattern.matchAt_mem hmatch
        obtain ⟨m, hafter, -⟩ := Pattern.ends_advance hmem
        cases m with
        | nil => exact absurd hafter.symm (hr _ _ e hmatch)
        | cons d m =>
          have htext : c :: cs = d :: m ++ e.after := hafter
          rw [htext] at hmatch ih ⊢
          rw [segments_found hmatch rfl]
          refine .found hmatch rfl nofun (ih e.after.length ?_ _ e.after rfl)
          rw [List.length_append, List.length_cons]
          omega

/-- The segments make up the text. -/
theorem Division.source {r : Pattern} {before cs : List Char} {ps : List Segment}
    (h : Division r before cs ps) : ps.flatMap Segment.source = cs := by
  induction h with
  | nil => rfl
  | char _ _ ih => rw [List.flatMap_cons, ih]; rfl
  | found _ _ _ _ ih => rw [List.flatMap_cons, ih]; rfl

/-- A text is divided in one way. -/
theorem Division.unique {r : Pattern} {before cs : List Char} {ps ps' : List Segment}
    (h : Division r before cs ps) (h' : Division r before cs ps') : ps = ps' := by
  induction h generalizing ps' with
  | nil =>
    generalize htext : ([] : List Char) = text at h'
    cases h' with
    | nil => rfl
    | char _ _ => cases htext
    | found _ _ hne' _ => exact absurd (List.append_eq_nil_iff.mp htext.symm).1 hne'
  | @char before cs c ps hnone hdiv ih =>
    generalize htext : c :: cs = text at h'
    cases h' with
    | nil => cases htext
    | char _ hdiv' =>
      cases htext
      rw [ih hdiv']
    | found hmatch' _ _ _ =>
      rw [← htext, hnone] at hmatch'
      cases hmatch'
  | @found before m cs e ps hmatch hafter hne hdiv ih =>
    generalize htext : m ++ cs = text at h'
    cases h' with
    | nil => exact absurd (List.append_eq_nil_iff.mp htext).1 hne
    | char hnone' _ =>
      rw [htext, hnone'] at hmatch
      cases hmatch
    | found hmatch' hafter' _ hdiv' =>
      rw [htext, hmatch', Option.some.injEq] at hmatch
      subst hmatch
      -- One match has one end, so what it takes is the same text.
      subst hafter hafter'
      obtain rfl := List.append_cancel_right htext
      rw [ih hdiv']

end Regex

end Python
