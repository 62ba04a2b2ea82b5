import WaService.Correctness.ConfirmedItems
import WaService.Correctness.SessionOutcome
import WaService.System.DealRuns

/-!
# Booking forms that are sent again

The search for the booking form stops at the first row of that type, and a form that was rejected is
persisted with empty facts. So a form that is sent again after a rejected one is not read.
-/

namespace WaService

open Python Relational

/-- The file was typed as a booking form. -/
def File.isBookingForm (f : File) : Bool := f.documentTypeKey == some "BOOKING_FORM"

/-- The full row of a file. -/
def File.fullRow (f : File) : RowMapping := f.select fileColumns

/-- The facts of the file hold a booking number. -/
def File.Numbered (env : Env) (f : File) : Prop :=
  ∃ facts number, rawFactsOf env f.fullRow = .obj facts ∧
    facts.lookup "BOOKING_NUMBER" = some number ∧ number.truthy = true

/-- Some booking form holds a number. -/
def FormNumbered (env : Env) (files : List File) : Prop :=
  ∃ f ∈ files, f.isBookingForm = true ∧ f.Numbered env

/-- The fields are those of a booking form that holds a number, and the session uses that number in
place of a synthetic one. -/
def NumberUsed (env : Env) (files : List File) (fields : BookingFields) : Prop :=
  (∃ f ∈ files, f.isBookingForm = true ∧ f.Numbered env ∧
    bookingFieldsOfFacts (rawFactsOf env f.fullRow) = .ok fields) ∧
  ∀ sessionId, orElse fields.bookingNumber (fallbackNumber sessionId) = fields.bookingNumber

/-- A number that was extracted is used. -/
def ResentFormCounts (env : Env) (files : List File) : Prop :=
  FormNumbered env files → ∃ fields,
    extractBookingFields env (files.map File.fullRow) = .ok fields ∧ NumberUsed env files fields

/-- The first booking form holds a number whenever one does. -/
def FirstFormNumbered (env : Env) (files : List File) : Prop :=
  FormNumbered env files → ∀ f, files.find? File.isBookingForm = some f → f.Numbered env

section Rows

variable {env : Env} {files : List File}

/-- The type in the full row is the type of the file. -/
theorem File.fullRow_isBookingForm (f : File) :
    (f.fullRow.get .documentTypeKey).eqText "BOOKING_FORM" = f.isBookingForm := by
  have hcell : f.fullRow.get .documentTypeKey = f.cell .documentTypeKey :=
    File.select_get_of_mem f (by decide)
  unfold File.isBookingForm
  rw [hcell, File.cell]
  cases f.documentTypeKey with
  | none => rfl
  | some typeKey => rfl

/-- The search comes to the first booking form of the files. -/
theorem extractBookingFields_rows (env : Env) (files : List File) :
    extractBookingFields env (files.map File.fullRow) =
      match files.find? File.isBookingForm with
      | none => .ok .empty
      | some f => bookingFieldsOfFacts (rawFactsOf env f.fullRow) := by
  have hfind : (files.map File.fullRow).find?
      (fun row => (row.get .documentTypeKey).eqText "BOOKING_FORM") =
        (files.find? File.isBookingForm).map File.fullRow := by
    rw [List.find?_map]
    congr 2
    funext f
    exact f.fullRow_isBookingForm
  unfold extractBookingFields
  rw [hfind]
  cases files.find? File.isBookingForm with
  | none => rfl
  | some f => rfl

/-- The number of the fields is that of the facts. -/
theorem bookingFieldsOfFacts_number {raw : Json} {fields : BookingFields}
    (h : bookingFieldsOfFacts raw = .ok fields) :
    raw.get "BOOKING_NUMBER" .null = .ok fields.bookingNumber := by
  obtain ⟨number, hnumber, h⟩ := bind_eq_ok.mp h
  obtain ⟨_, -, h⟩ := bind_eq_ok.mp h
  obtain ⟨_, -, h⟩ := bind_eq_ok.mp h
  obtain ⟨_, -, h⟩ := bind_eq_ok.mp h
  obtain ⟨_, -, h⟩ := bind_eq_ok.mp h
  obtain ⟨_, -, h⟩ := bind_eq_ok.mp h
  obtain ⟨_, -, h⟩ := bind_eq_ok.mp h
  obtain ⟨_, -, h⟩ := bind_eq_ok.mp h
  cases h
  exact hnumber

/-- A file is numbered when its facts are read and give a number. -/
theorem File.numbered_iff {f : File} :
    f.Numbered env ↔ ∃ fields, bookingFieldsOfFacts (rawFactsOf env f.fullRow) = .ok fields ∧
      fields.bookingNumber.truthy = true := by
  unfold File.Numbered
  constructor
  · rintro ⟨facts, number, hfacts, hlookup, htruthy⟩
    rw [hfacts]
    refine ⟨_, rfl, ?_⟩
    simpa [hlookup] using htruthy
  · rintro ⟨fields, hfields, htruthy⟩
    have hnumber := bookingFieldsOfFacts_number hfields
    cases hraw : rawFactsOf env f.fullRow with
    | obj facts =>
      rw [hraw, Json.get, Except.ok.injEq] at hnumber
      rw [← hnumber] at htruthy
      cases hlookup : facts.lookup "BOOKING_NUMBER" with
      | none =>
        rw [hlookup] at htruthy
        cases htruthy
      | some number =>
        rw [hlookup] at htruthy
        exact ⟨facts, number, rfl, hlookup, htruthy⟩
    | _ =>
      rw [hraw] at hnumber
      cases hnumber

/-- A number that is there is used in place of the fallback. -/
theorem orElse_of_truthy {number : Json} (h : number.truthy = true) (fallback : String) :
    orElse number fallback = number := if_pos h

end Rows

/-- A number that was extracted is used exactly when the first booking form holds one. -/
theorem resent_form_counts_iff (env : Env) (files : List File) :
    ResentFormCounts env files ↔ FirstFormNumbered env files := by
  unfold ResentFormCounts FirstFormNumbered
  rw [extractBookingFields_rows]
  refine forall_congr' fun hnumbered => ?_
  -- Some file is a booking form, so the search comes to one.
  obtain ⟨f, hf, hform, -⟩ := id hnumbered
  obtain ⟨first, hfirst⟩ := Option.isSome_iff_exists.mp
    (List.find?_isSome.mpr ⟨f, hf, hform⟩)
  simp only [hfirst, Option.some.injEq, forall_eq']
  constructor
  · rintro ⟨fields, hfields, -, hused⟩
    refine File.numbered_iff.mpr ⟨fields, hfields, ?_⟩
    by_contra hfalsy
    have hfallback : orElse fields.bookingNumber (fallbackNumber 0) =
        .str (fallbackNumber 0) := if_neg hfalsy
    rw [hused 0] at hfallback
    exact hfalsy (by rw [hfallback]; decide)
  · intro hfirstNumbered
    obtain ⟨fields, hfields, htruthy⟩ := File.numbered_iff.mp hfirstNumbered
    exact ⟨fields, hfields, ⟨first, List.mem_of_find?_eq_some hfirst,
      List.find?_some hfirst, hfirstNumbered, hfields⟩, fun _ => orElse_of_truthy htruthy _⟩

/-! ## A form that is sent again -/

/-- A form that was rejected, as its poll persists it. -/
def rejectedForm : File := { polledBookingForm with diFacts := some (.obj []) }

/-- The form that the consultant sends after it. -/
def resentForm : File := { polledBookingForm with id := 12, wamid := "wamid_002", receivedSeq := 2 }

/-- The second form holds a number, the fields come from the first one, and the session creates a
deal under a synthetic number. -/
theorem resent_form_ignored :
    FormNumbered (.ofRecording "s" []) [rejectedForm, resentForm] ∧
      ¬ ResentFormCounts (.ofRecording "s" []) [rejectedForm, resentForm] ∧
      (processSessionOn (.ofRecording "s" []) idleDb idleInput 7
        ([rejectedForm, resentForm].map File.fullRow)).db.deals.rows.map (·.bookingNumber) =
          ["WA-00000000"] := by
  have hnumbered : FormNumbered (.ofRecording "s" []) [rejectedForm, resentForm] :=
    ⟨resentForm, by simp, by decide, _, _, rfl, rfl, by decide⟩
  refine ⟨hnumbered, ?_, by decide +kernel⟩
  intro hcounts
  obtain ⟨fields, hfields, -, hused⟩ := hcounts hnumbered
  cases hfields
  exact absurd (congrArg Json.truthy (hused 0)) (by decide)

end WaService
