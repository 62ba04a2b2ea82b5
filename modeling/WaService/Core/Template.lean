import WaService.Core.Format

/-!
# Templates with named fields

A format string with named fields only is literal text, its braces doubled, and names between
braces. Expanding it gives the text with every field replaced by its argument, whatever characters
the text and the arguments hold: an argument is not expanded again.
-/

namespace Python

/-- Literal text, or a field to replace. -/
inductive Piece where
  | text (s : String)
  | field (name : String)
  deriving DecidableEq, Repr

/-- A literal character as a format string spells it. -/
def escape (c : Char) : List Char :=
  if c == '{' then ['{', '{'] else if c == '}' then ['}', '}'] else [c]

namespace Piece

/-- The piece as a format string spells it. -/
def source : Piece → List Char
  | text s => s.toList.flatMap escape
  | field name => '{' :: name.toList ++ ['}']

/-- The piece with its field replaced. -/
def fill (args : List (String × String)) : Piece → List Char
  | text s => s.toList
  | field name => ((args.lookup name).getD "").toList

/-- The name of a field. -/
def name? : Piece → Option String
  | text _ => none
  | field name => some name

end Piece

/-- A template, piece by piece. -/
structure Template where
  pieces : List Piece
  deriving DecidableEq, Repr

namespace Template

/-- The format string. -/
def source (t : Template) : String := String.ofList (t.pieces.flatMap Piece.source)

/-- The text with its fields replaced. -/
def fill (t : Template) (args : List (String × String)) : String :=
  String.ofList (t.pieces.flatMap (Piece.fill args))

/-- The names of the fields, in order. -/
def fields (t : Template) : List String := t.pieces.filterMap Piece.name?

end Template

/-- The name has no character that the format language reads. -/
def plainName (name : String) : Bool :=
  name.toList.all fun c => c != '{' && c != '}' && c != '!' && c != ':'

/-- The characters expand to the given ones. -/
def Expands (args : List (String × String)) (cs out : List Char) : Prop :=
  ∀ fuel, cs.length < fuel → formatChars args fuel cs = .ok out

variable {args : List (String × String)} {rest out : List Char}

theorem Expands.nil : Expands args [] [] := by
  intro fuel hfuel
  cases fuel with
  | zero => cases hfuel
  | succ fuel => rfl

/-- An escaped character expands to itself. -/
theorem Expands.escape (h : Expands args rest out) (c : Char) :
    Expands args (escape c ++ rest) (c :: out) := by
  intro fuel hfuel
  cases fuel with
  | zero => cases hfuel
  | succ fuel =>
    have hrest : rest.length < fuel := by
      have hpos : 0 < (Python.escape c).length := by
        unfold Python.escape
        split
        · exact Nat.zero_lt_succ _
        · split <;> exact Nat.zero_lt_succ _
      rw [List.length_append] at hfuel
      omega
    have hout := h fuel hrest
    unfold Python.escape
    by_cases hopen : c = '{'
    · simp only [hopen, beq_self_eq_true, if_true, List.cons_append, List.nil_append, formatChars,
        hout]
      rfl
    · by_cases hclose : c = '}'
      · simp only [hclose, Char.reduceBEq, Bool.false_eq_true, beq_self_eq_true, if_true, if_false,
          List.cons_append, List.nil_append, formatChars, hout]
        rfl
      · simp only [beq_iff_eq, hopen, hclose, if_false, List.cons_append, List.nil_append]
        rw [formatChars]
        · rw [hout]
          rfl
        all_goals simp [hopen, hclose]

/-- Text expands to itself. -/
theorem Expands.text (h : Expands args rest out) (cs : List Char) :
    Expands args (cs.flatMap Python.escape ++ rest) (cs ++ out) := by
  induction cs with
  | nil => exact h
  | cons c cs ih =>
    rw [List.flatMap_cons, List.append_assoc, List.cons_append]
    exact ih.escape c

/-- A plain name is read up to its closing brace. -/
theorem fieldName_plain (seen name rest : List Char)
    (h : name.all (fun c => c != '{' && c != '}' && c != '!' && c != ':') = true) :
    fieldName seen (name ++ '}' :: rest) = .ok (seen.reverse ++ name, rest) := by
  induction name generalizing seen with
  | nil => simp [fieldName]
  | cons c name ih =>
    simp only [List.all_cons, Bool.and_eq_true, bne_iff_ne] at h
    obtain ⟨⟨⟨⟨hopen, hclose⟩, hconversion⟩, hspec⟩, hname⟩ := h
    rw [List.cons_append, fieldName]
    · rw [if_neg (by simp [hopen, hconversion, hspec]), ih (c :: seen) hname]
      simp
    · exact hclose

/-- A field expands to its argument. -/
theorem Expands.field (h : Expands args rest out) {name value : String}
    (hname : plainName name = true) (hvalue : args.lookup name = some value) :
    Expands args ('{' :: name.toList ++ '}' :: rest) (value.toList ++ out) := by
  intro fuel hfuel
  cases fuel with
  | zero => cases hfuel
  | succ fuel =>
    have hrest : rest.length < fuel := by
      simp only [List.cons_append, List.length_cons, List.length_append] at hfuel
      omega
    have hread := fieldName_plain [] name.toList rest hname
    rw [List.reverse_nil, List.nil_append] at hread
    rw [List.cons_append, formatChars]
    · simp only [hread, bind, Except.bind, String.ofList_toList, hvalue, h fuel hrest]
      rfl
    · intro cs hcs
      cases hchars : name.toList with
      | nil => simp [hchars] at hcs
      | cons c rest' =>
        have hplain : c ≠ '{' := by
          unfold plainName at hname
          rw [hchars] at hname
          simp at hname
          exact hname.1.1.1.1
        rw [hchars, List.cons_append] at hcs
        exact hplain (List.cons.inj hcs).1

theorem Template.mem_fields {t : Template} {name : String} :
    name ∈ t.fields ↔ .field name ∈ t.pieces := by
  unfold Template.fields
  rw [List.mem_filterMap]
  constructor
  · rintro ⟨piece, hpiece, hname⟩
    cases piece with
    | text s => cases hname
    | field other =>
      cases hname
      exact hpiece
  · exact fun h => ⟨.field name, h, rfl⟩

/-- The pieces expand one after the other. -/
theorem expands_pieces {pieces : List Piece}
    (hplain : ∀ name, .field name ∈ pieces → plainName name = true)
    (hargs : ∀ name, .field name ∈ pieces → (args.lookup name).isSome = true) :
    Expands args (pieces.flatMap Piece.source) (pieces.flatMap (Piece.fill args)) := by
  induction pieces with
  | nil => exact .nil
  | cons piece pieces ih =>
    have htail := ih (fun name h => hplain name (List.mem_cons_of_mem piece h))
      fun name h => hargs name (List.mem_cons_of_mem piece h)
    simp only [List.flatMap_cons]
    cases piece with
    | text s => exact htail.text s.toList
    | field name =>
      have hname := hplain name List.mem_cons_self
      obtain ⟨value, hvalue⟩ := Option.isSome_iff_exists.mp (hargs name List.mem_cons_self)
      simpa [Piece.source, Piece.fill, hvalue] using htail.field hname hvalue

/-- A template whose fields are plain and have arguments expands to its text with the fields
replaced. -/
theorem format_source {t : Template} (hplain : ∀ name ∈ t.fields, plainName name = true)
    (hargs : ∀ name ∈ t.fields, (args.lookup name).isSome = true) :
    format t.source args = .ok (t.fill args) := by
  have hexpands := expands_pieces (fun name h => hplain name (Template.mem_fields.mpr h))
    fun name h => hargs name (Template.mem_fields.mpr h)
  unfold format Template.source Template.fill
  rw [String.toList_ofList, hexpands _ (Nat.lt_succ_self _)]
  rfl

/-! ## Literals -/

/-- The pieces are spelled as the characters say, no brace of which is literal. -/
inductive Spells : List Piece → List Char → Prop
  | nil : Spells [] []
  | text {pieces : List Piece} {rest : List Char} (cs : List Char)
      (hplain : cs.all (fun c => c != '{' && c != '}') = true) (h : Spells pieces rest) :
      Spells (.text (String.ofList cs) :: pieces) (cs ++ rest)
  | field {pieces : List Piece} {rest : List Char} (cs : List Char) (h : Spells pieces rest) :
      Spells (.field (String.ofList cs) :: pieces) ('{' :: cs ++ '}' :: rest)

theorem flatMap_escape_of_plain {cs : List Char}
    (h : cs.all (fun c => c != '{' && c != '}') = true) : cs.flatMap escape = cs := by
  induction cs with
  | nil => rfl
  | cons c cs ih =>
    simp only [List.all_cons, Bool.and_eq_true, bne_iff_ne] at h
    have hplain : escape c = [c] := by simp [escape, h.1]
    rw [List.flatMap_cons, hplain, ih (by simpa using h.2)]
    rfl

/-- The format string of pieces, spelled out. -/
theorem Spells.source {pieces : List Piece} {cs : List Char} (h : Spells pieces cs) :
    (Template.mk pieces).source = String.ofList cs := by
  unfold Template.source
  congr 1
  induction h with
  | nil => rfl
  | text cs hplain h ih =>
    rw [List.flatMap_cons, ih, Piece.source, String.toList_ofList, flatMap_escape_of_plain hplain]
  | field cs h ih =>
    rw [List.flatMap_cons, ih, Piece.source, String.toList_ofList]
    simp

/-- The argument of a field stands in the expanded text. -/
theorem Template.infix_fill {t : Template} {name value : String} (h : name ∈ t.fields)
    (hvalue : args.lookup name = some value) : value.toList <:+: (t.fill args).toList := by
  obtain ⟨before, after, hpieces⟩ := List.append_of_mem (Template.mem_fields.mp h)
  unfold Template.fill
  rw [hpieces, String.toList_ofList, List.flatMap_append, List.flatMap_cons]
  refine ⟨before.flatMap (Piece.fill args), after.flatMap (Piece.fill args), ?_⟩
  simp [Piece.fill, hvalue]

end Python
