import WaService.Core.Best
import WaService.Core.Template
import WaService.Correctness.ConfirmedItems

/-!
# The checklist and its message

`build_checklist` counts the blocking rows and collects the names of what was received and of what
is missing; `format_gap_message` writes the one text or the other from them. The counters and the
lists agree on every list of rows, and so does the text, under every copy whose templates have the
documented placeholders. Items are only ever satisfied, so nothing becomes missing again.
-/

namespace WaService

open Python Relational

/-! ## What the rows say -/

/-- A blocking row that is not satisfied. -/
def ChecklistRow.isOpen (row : ChecklistRow) : Bool := row.isBlocking && !row.satisfied

/-- The display names of the satisfied rows. -/
def receivedNames (rows : List ChecklistRow) : List String :=
  (rows.filter ChecklistRow.satisfied).map ChecklistRow.displayName

/-- The display names of the blocking rows that are not satisfied. -/
def missingNames (rows : List ChecklistRow) : List String :=
  (rows.filter ChecklistRow.isOpen).map ChecklistRow.displayName

/-- There is a blocking row, and none is unsatisfied. -/
def CompleteRows (rows : List ChecklistRow) : Prop :=
  (∃ row ∈ rows, row.isBlocking = true) ∧
    ∀ row ∈ rows, row.isBlocking = true → row.satisfied = true

/-- The names that the rows add to the two lists. -/
theorem foldl_add_names (rows : List ChecklistRow) (s : ChecklistState) :
    (rows.foldl ChecklistState.add s).received = s.received ++ receivedNames rows ∧
      (rows.foldl ChecklistState.add s).blockingMissing =
        s.blockingMissing ++ missingNames rows := by
  induction rows generalizing s with
  | nil => exact ⟨(List.append_nil _).symm, (List.append_nil _).symm⟩
  | cons row rest ih =>
    obtain ⟨hreceived, hmissing⟩ := ih (s.add row)
    rw [List.foldl_cons, hreceived, hmissing]
    obtain ⟨requirement, satisfied, displayName, sort⟩ := row
    cases requirement with
    | optional =>
      cases satisfied with
      | true => simp [ChecklistState.add, receivedNames, missingNames, ChecklistRow.isOpen,
          ChecklistRow.isBlocking]
      | false => simp [ChecklistState.add, receivedNames, missingNames, ChecklistRow.isOpen,
          ChecklistRow.isBlocking]
    | blocking =>
      cases satisfied with
      | true => simp [ChecklistState.add, receivedNames, missingNames, ChecklistRow.isOpen]
      | false => simp [ChecklistState.add, receivedNames, missingNames, ChecklistRow.isOpen,
          ChecklistRow.isBlocking]

/-- A blocking row is satisfied or open. -/
theorem countP_isBlocking (rows : List ChecklistRow) : rows.countP ChecklistRow.isBlocking =
    (rows.countP fun row => row.satisfied && row.isBlocking) + (missingNames rows).length := by
  unfold missingNames
  rw [List.length_map, ← List.countP_eq_length_filter]
  induction rows with
  | nil => rfl
  | cons row rest ih =>
    rw [List.countP_cons, List.countP_cons, List.countP_cons, ih, ChecklistRow.isOpen]
    obtain ⟨requirement, satisfied, displayName, sort⟩ := row
    cases requirement with
    | optional => cases satisfied <;> simp [ChecklistRow.isBlocking]
    | blocking =>
      cases satisfied with
      | true =>
        simp only [ChecklistRow.isBlocking, beq_self_eq_true, Bool.and_self, Bool.not_true,
          Bool.and_false, Bool.false_eq_true, if_true, if_false]
        omega
      | false =>
        simp only [ChecklistRow.isBlocking, beq_self_eq_true, Bool.and_true, Bool.not_false,
          Bool.false_eq_true, if_true, if_false]
        omega

section State

variable (dealId : UUID) (bookingNumber : String) (rows : List ChecklistRow)

theorem checklistOfRows_received :
    (checklistOfRows dealId bookingNumber rows).received = receivedNames rows :=
  (foldl_add_names rows _).1

theorem checklistOfRows_blockingMissing :
    (checklistOfRows dealId bookingNumber rows).blockingMissing = missingNames rows :=
  (foldl_add_names rows _).2

theorem checklistOfRows_counts : (checklistOfRows dealId bookingNumber rows).blockingTotal =
    (checklistOfRows dealId bookingNumber rows).blockingSatisfied +
      (checklistOfRows dealId bookingNumber rows).blockingMissing.length := by
  obtain ⟨htotal, hsatisfied⟩ :=
    foldl_add_counters rows ⟨dealId, bookingNumber, 0, 0, [], [], false⟩
  rw [checklistOfRows_blockingMissing]
  simp only [checklistOfRows, htotal, hsatisfied, Nat.zero_add]
  exact countP_isBlocking rows

end State

/-! ## The message -/

/-- A copy whose gap texts have the documented placeholders. -/
structure GapCopy where
  entries : List (String × String)
  complete : Template
  missing : Template
  complete_source : copyText entries "gaps_complete" "All required documents received." =
    complete.source
  complete_fields : ∀ name ∈ complete.fields, name = "booking_number"
  missing_source : entries.lookup "gaps_missing" = some missing.source
  missing_fields : ∀ name ∈ missing.fields, name = "received_list" ∨ name = "missing_list"
  received_list : "received_list" ∈ missing.fields
  missing_list : "missing_list" ∈ missing.fields

namespace GapCopy

variable (copy : GapCopy)

/-- The header of either text. -/
def header : String := copyText copy.entries "gaps_header" "Submission Summary"

/-- The completion text for a booking number. -/
def completion (bookingNumber : String) : String :=
  copy.complete.fill [("booking_number", bookingNumber)]

/-- The arguments of the other text: both lists, bulleted. -/
def lists (received missing : List String) : List (String × String) :=
  [("received_list", bullets received), ("missing_list", bullets missing)]

/-- The text that lists what was received and what is missing. -/
def summary (received missing : List String) : String :=
  copy.missing.fill (lists received missing)

theorem format_complete (bookingNumber : String) :
    format (copyText copy.entries "gaps_complete" "All required documents received.")
      [("booking_number", bookingNumber)] = .ok (copy.completion bookingNumber) := by
  rw [copy.complete_source]
  apply format_source
  · intro name h
    rw [copy.complete_fields name h]
    decide
  · intro name h
    rw [copy.complete_fields name h]
    rfl

theorem format_missing (received missing : List String) :
    format (copyText copy.entries "gaps_missing" "") (lists received missing) =
      .ok (copy.summary received missing) := by
  unfold copyText
  rw [copy.missing_source, Option.getD_some]
  apply format_source
  · intro name h
    rcases copy.missing_fields name h with rfl | rfl
    · decide
    · decide
  · intro name h
    rcases copy.missing_fields name h with rfl | rfl
    · rfl
    · rfl

/-- Both lists stand in the text. -/
theorem bullets_infix_summary (received missing : List String) :
    (bullets received).toList <:+: (copy.summary received missing).toList ∧
      (bullets missing).toList <:+: (copy.summary received missing).toList :=
  ⟨Template.infix_fill copy.received_list rfl, Template.infix_fill copy.missing_list rfl⟩

/-- The message of a checklist state. -/
theorem formatGapMessage_eq (s : ChecklistState) : formatGapMessage s copy.entries =
    .ok (copy.header, if s.isComplete then copy.completion s.bookingNumber
      else copy.summary s.received s.blockingMissing) := by
  unfold formatGapMessage
  cases s.isComplete with
  | true =>
    simp only [if_true, copy.format_complete]
    rfl
  | false =>
    have hformat := copy.format_missing s.received s.blockingMissing
    unfold lists at hformat
    simp only [Bool.false_eq_true, if_false, hformat]
    rfl

end GapCopy

/-- The checklist of some rows agrees with the rows and with its message. -/
structure GapsAgree (copy : GapCopy) (rows : List ChecklistRow) (s : ChecklistState) : Prop where
  counts : s.blockingTotal = s.blockingSatisfied + s.blockingMissing.length
  received : s.received = receivedNames rows
  missing : s.blockingMissing = missingNames rows
  complete : CompleteRows rows →
    formatGapMessage s copy.entries = .ok (copy.header, copy.completion s.bookingNumber)
  incomplete : ¬ CompleteRows rows → formatGapMessage s copy.entries =
    .ok (copy.header, copy.summary (receivedNames rows) (missingNames rows))
  bulleted : (bullets (receivedNames rows)).toList <:+:
      (copy.summary (receivedNames rows) (missingNames rows)).toList ∧
    (bullets (missingNames rows)).toList <:+:
      (copy.summary (receivedNames rows) (missingNames rows)).toList

theorem checklistOfRows_agrees (copy : GapCopy) (dealId : UUID) (bookingNumber : String)
    (rows : List ChecklistRow) :
    GapsAgree copy rows (checklistOfRows dealId bookingNumber rows) where
  counts := checklistOfRows_counts dealId bookingNumber rows
  received := checklistOfRows_received dealId bookingNumber rows
  missing := checklistOfRows_blockingMissing dealId bookingNumber rows
  complete h := by
    rw [copy.formatGapMessage_eq, if_pos (checklistOfRows_isComplete.mpr h)]
  incomplete h := by
    rw [copy.formatGapMessage_eq, if_neg (mt checklistOfRows_isComplete.mp h),
      checklistOfRows_received, checklistOfRows_blockingMissing]
  bulleted := copy.bullets_infix_summary _ _

/-! ## Satisfying items -/

/-- One call of `mark_satisfied`. -/
structure Mark where
  now : Timestamp
  dealId : UUID
  typeKey : String
  documentId : UUID

/-- The calls in order. -/
def markAll (db : Db) (marks : List Mark) : Db :=
  marks.foldl (fun db m => markSatisfied db m.now m.dealId m.typeKey m.documentId) db

/-- The same requirement, satisfied if it was before. -/
structure ChecklistRow.Raised (a b : ChecklistRow) : Prop where
  requirement : b.requirement = a.requirement
  displayName : b.displayName = a.displayName
  sort : b.sort = a.sort
  satisfied : a.satisfied = true → b.satisfied = true

/-- The same item, satisfied if it was before. -/
structure ChecklistItem.Raised (i j : ChecklistItem) : Prop where
  dealId : j.dealId = i.dealId
  typeKey : j.typeKey = i.typeKey
  requirement : j.requirement = i.requirement
  satisfied : i.satisfied = true → j.satisfied = true

variable {rows rows' : List ChecklistRow} {db : Db}

theorem ChecklistRow.Raised.before {a b a' b' : ChecklistRow} (ha : a.Raised a')
    (hb : b.Raised b') : a.before b = true ↔ a'.before b' = true := by
  unfold ChecklistRow.before
  rw [ha.requirement, hb.requirement, ha.sort, hb.sort]

/-- Nothing becomes missing. -/
theorem missingNames_sublist (h : List.Forall₂ ChecklistRow.Raised rows rows') :
    (missingNames rows').Sublist (missingNames rows) := by
  induction h with
  | nil => exact .slnil
  | @cons a b rows rows' hab _ ih =>
    have hblocking : b.isBlocking = a.isBlocking := by
      unfold ChecklistRow.isBlocking
      rw [hab.requirement]
    unfold missingNames at ih ⊢
    by_cases hopen : b.isOpen = true
    · -- An open row was open before, under the same name.
      have hbefore : a.isOpen = true := by
        unfold ChecklistRow.isOpen at hopen ⊢
        rw [hblocking, Bool.and_eq_true, Bool.not_eq_true'] at hopen
        rw [hopen.1, Bool.true_and, Bool.not_eq_true', ← Bool.not_eq_true]
        intro hsatisfied
        rw [hab.satisfied hsatisfied] at hopen
        exact Bool.noConfusion hopen.2
      rw [List.filter_cons_of_pos hopen, List.filter_cons_of_pos hbefore, List.map_cons,
        List.map_cons, hab.displayName]
      exact ih.cons_cons _
    · rw [List.filter_cons_of_neg hopen]
      by_cases hbefore : a.isOpen = true
      · rw [List.filter_cons_of_pos hbefore, List.map_cons]
        exact ih.cons _
      · rw [List.filter_cons_of_neg hbefore]
        exact ih

/-- A complete checklist stays complete. -/
theorem CompleteRows.raised (h : List.Forall₂ ChecklistRow.Raised rows rows')
    (hrows : CompleteRows rows) : CompleteRows rows' := by
  have hblocking : ∀ {a b : ChecklistRow}, a.Raised b → b.isBlocking = a.isBlocking := by
    intro a b hab
    unfold ChecklistRow.isBlocking
    rw [hab.requirement]
  obtain ⟨⟨row, hrow, hrowBlocking⟩, hall⟩ := hrows
  constructor
  · obtain ⟨row', hrow', hraised⟩ := exists_of_forall₂_left h hrow
    exact ⟨row', hrow', by rw [hblocking hraised, hrowBlocking]⟩
  · intro row' hrow' hrow'Blocking
    obtain ⟨a, ha, hraised⟩ := exists_of_forall₂_right h hrow'
    exact hraised.satisfied (hall a ha (by rw [← hblocking hraised, hrow'Blocking]))

theorem markSatisfied_raised (db : Db) (m : Mark) :
    List.Forall₂ ChecklistItem.Raised db.checklistItems.rows
      (markSatisfied db m.now m.dealId m.typeKey m.documentId).checklistItems.rows := by
  rw [markSatisfied_rows, List.forall₂_map_right_iff]
  refine List.forall₂_same.mpr fun i _ => ?_
  rcases patch_eq_or (ChecklistItem.isFor m.dealId m.typeKey)
    (ChecklistItem.mark m.now m.documentId) i with h | h
  · rw [h]
    exact ⟨rfl, rfl, rfl, fun _ => rfl⟩
  · rw [h]
    exact ⟨rfl, rfl, rfl, id⟩

/-- The rows of a checklist are raised with the items. -/
theorem checklistRows_raised {db db' : Db} (dealId : UUID)
    (h : List.Forall₂ ChecklistItem.Raised db.checklistItems.rows db'.checklistItems.rows) :
    List.Forall₂ ChecklistRow.Raised (checklistRows db dealId) (checklistRows db' dealId) := by
  have hdeal : Relator.LiftFun ChecklistItem.Raised (· ↔ ·)
      (fun i => (i.dealId == dealId) = true) fun i => (i.dealId == dealId) = true := by
    intro i j hij
    simp only [hij.dealId]
  have hrow : Relator.LiftFun ChecklistItem.Raised (Option.Rel ChecklistRow.Raised)
      ChecklistItem.row ChecklistItem.row := by
    intro i j hij
    unfold ChecklistItem.row
    rw [hij.typeKey]
    cases documentTypes.lookup i.typeKey with
    | none => exact .none
    | some t => exact .some ⟨hij.requirement, rfl, rfl, hij.satisfied⟩
  exact forall₂_insertionSort (fun _ _ _ _ ha hb => ha.before hb)
    (List.rel_filterMap hrow (List.rel_filter hdeal h))

/-- The checklist of a deal takes no step back: it stays complete, and nothing becomes missing. -/
def NoStepBack (db db' : Db) : Prop :=
  ∀ tenantId dealId s, buildChecklist db tenantId dealId = .ok s →
    ∃ s', buildChecklist db' tenantId dealId = .ok s' ∧
      (s.isComplete = true → s'.isComplete = true) ∧
      s'.blockingMissing.Sublist s.blockingMissing

theorem NoStepBack.refl (db : Db) : NoStepBack db db :=
  fun _ _ s h => ⟨s, h, id, .refl _⟩

theorem NoStepBack.trans {a b c : Db} (h : NoStepBack a b) (h' : NoStepBack b c) :
    NoStepBack a c := by
  intro tenantId dealId s hs
  obtain ⟨s', hs', hcomplete, hmissing⟩ := h tenantId dealId s hs
  obtain ⟨s'', hs'', hcomplete', hmissing'⟩ := h' tenantId dealId s' hs'
  exact ⟨s'', hs'', hcomplete' ∘ hcomplete, hmissing'.trans hmissing⟩

theorem buildChecklist_of_deal {db : Db} {tenantId dealId : UUID} {d : Deal}
    (h : db.deals.rows.find? (fun d => d.id == dealId && d.tenantId == tenantId) = some d) :
    buildChecklist db tenantId dealId =
      .ok (checklistOfRows dealId d.bookingNumber (checklistRows db dealId)) := by
  simp only [buildChecklist, h]

/-- Satisfying items takes no checklist back. -/
theorem markSatisfied_noStepBack (db : Db) (m : Mark) :
    NoStepBack db (markSatisfied db m.now m.dealId m.typeKey m.documentId) := by
  intro tenantId dealId s hs
  have hraised := checklistRows_raised dealId (markSatisfied_raised db m)
  cases hdeal : db.deals.rows.find? fun d => d.id == dealId && d.tenantId == tenantId with
  | none =>
    simp only [buildChecklist, hdeal] at hs
    contradiction
  | some d =>
    rw [buildChecklist_of_deal hdeal] at hs
    cases hs
    have hmarked : buildChecklist (markSatisfied db m.now m.dealId m.typeKey m.documentId) tenantId
        dealId = .ok (checklistOfRows dealId d.bookingNumber (checklistRows
          (markSatisfied db m.now m.dealId m.typeKey m.documentId) dealId)) :=
      buildChecklist_of_deal hdeal
    refine ⟨_, hmarked, ?_, ?_⟩
    · intro hcomplete
      have hrows : CompleteRows (checklistRows db dealId) :=
        checklistOfRows_isComplete.mp hcomplete
      exact checklistOfRows_isComplete.mpr (hrows.raised hraised)
    · rw [checklistOfRows_blockingMissing, checklistOfRows_blockingMissing]
      exact missingNames_sublist hraised

theorem markAll_noStepBack (db : Db) (marks : List Mark) : NoStepBack db (markAll db marks) := by
  induction marks generalizing db with
  | nil => exact .refl db
  | cons m marks ih => exact (markSatisfied_noStepBack db m).trans (ih _)

/-- On every list of rows, and under every copy with the documented placeholders, the checklist
agrees with the rows and with the message; and no calls of `mark_satisfied` take it back. -/
theorem checklist_agrees_with_message (copy : GapCopy) :
    (∀ dealId bookingNumber rows,
      GapsAgree copy rows (checklistOfRows dealId bookingNumber rows)) ∧
    ∀ db marks, NoStepBack db (markAll db marks) :=
  ⟨checklistOfRows_agrees copy, markAll_noStepBack⟩

/-- A text of the copy whose template is spelled out. -/
theorem lookup_source {entries : List (String × String)} {key : String} {pieces : List Piece}
    {cs : List Char} (hs : Spells pieces cs) (h : entries.lookup key = some (String.ofList cs)) :
    entries.lookup key = some (Template.mk pieces).source := by
  rw [hs.source, h]

theorem copyText_source {entries : List (String × String)} {key : String} {pieces : List Piece}
    {cs : List Char} (default : String) (hs : Spells pieces cs)
    (h : entries.lookup key = some (String.ofList cs)) :
    copyText entries key default = (Template.mk pieces).source := by
  unfold copyText
  rw [lookup_source hs h, Option.getD_some]

set_option maxRecDepth 2000 in
/-- The English copy. -/
def englishGaps : GapCopy where
  entries := [("gaps_header", "Submission Summary"),
    ("gaps_complete", "✅ All required documents received for booking {booking_number}.\n" ++
      "Your submission is complete.\n"),
    ("gaps_missing", "Documents received:\n{received_list}\n\n" ++
      "Still required:\n{missing_list}\n\nPlease send the missing documents when ready.\n")]
  complete := ⟨[.text "✅ All required documents received for booking ", .field "booking_number",
    .text ".\nYour submission is complete.\n"]⟩
  missing := ⟨[.text "Documents received:\n", .field "received_list",
    .text "\n\nStill required:\n", .field "missing_list",
    .text "\n\nPlease send the missing documents when ready.\n"]⟩
  complete_source := copyText_source _ (.text _ (by decide) (.field _ (.text _ (by decide)
    .nil))) rfl
  complete_fields := by decide +kernel
  missing_source := lookup_source (.text _ (by decide) (.field _ (.text _ (by decide)
    (.field _ (.text _ (by decide) .nil))))) rfl
  missing_fields := by decide +kernel
  received_list := by decide +kernel
  missing_list := by decide +kernel

end WaService
