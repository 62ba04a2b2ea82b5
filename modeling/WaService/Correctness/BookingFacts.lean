import WaService.Media.BookingFacts

/-!
# The two formats of booking facts

Facts are expected as a list, or as the field `fields` of an object. The conditional in the
selection binds after the `or`: a list is asked for a `get` that it does not have, and an object
gives no items. No list of facts is decoded in either format.
-/

namespace WaService

open Python

variable (upper : String → String) (str : Json → String)

/-- The answer whose body is the list itself. -/
def listAnswer (items : List Json) : HttpAnswer := .response 200 (some (.arr items))

/-- The answer whose body holds the list under `fields`. -/
def fieldsAnswer (items : List Json) : HttpAnswer :=
  .response 200 (some (.obj [("fields", .arr items)]))

/-- Both formats return the same fields, read from entries that hold the last value of each key. -/
def DecodesBoth (items : List Json) : Prop :=
  ∃ raw, readBookingFields upper str (listAnswer items) = .ok (.ofEntries raw) ∧
    readBookingFields upper str (fieldsAnswer items) = .ok (.ofEntries raw) ∧
    ∀ key, raw.lookup key = lastValue upper str key items

/-- A list raises. -/
theorem readBookingFields_list (items : List Json) :
    readBookingFields upper str (listAnswer items) = .raised := by
  rw [readBookingFields_eq]
  rfl

/-- An object gives empty fields, whatever it holds. -/
theorem readBookingFields_object (fields : List (String × Json)) :
    readBookingFields upper str (.response 200 (some (.obj fields))) = .ok .empty := by
  rw [readBookingFields_eq]
  rfl

/-- The object format is right for a list without facts alone. -/
theorem object_decoded_iff {items : List Json} :
    (∃ raw, readBookingFields upper str (fieldsAnswer items) = .ok (.ofEntries raw) ∧
      ∀ key, raw.lookup key = lastValue upper str key items) ↔
    ∀ key, lastValue upper str key items = none := by
  constructor
  · rintro ⟨raw, hread, hlookup⟩ key
    have hempty := (readBookingFields_object upper str [("fields", .arr items)]).symm.trans hread
    have hfacts : BookingFields.empty.rawFacts = (BookingFields.ofEntries raw).rawFacts := by
      injection hempty with hfields
      rw [hfields]
    have hraw : raw = [] := by
      injection hfacts with hentries
      exact List.map_eq_nil_iff.mp hentries.symm
    rw [← hlookup key, hraw]
    rfl
  · intro hnone
    refine ⟨[], readBookingFields_object upper str _, ?_⟩
    intro key
    rw [hnone key]
    rfl

/-- No list of facts is decoded in both formats: as a body it raises, and under `fields` it is
passed over. -/
theorem booking_facts_never_decoded (items : List Json) :
    ¬ DecodesBoth upper str items ∧
      readBookingFields upper str (listAnswer items) = .raised ∧
      readBookingFields upper str (fieldsAnswer items) = .ok .empty := by
  refine ⟨?_, readBookingFields_list upper str items, readBookingFields_object upper str _⟩
  rintro ⟨raw, hlist, -⟩
  rw [readBookingFields_list] at hlist
  cases hlist

/-- A fact item with a booking number. -/
def bookingNumberFact : Json :=
  .obj [("fieldKey", .str "booking_number"), ("currentValue", .str "B1")]

/-- The booking number raises in a list, and is lost in an object. -/
theorem booking_number_lost :
    let upper := fun s : String => String.ofList (s.toList.map Char.toUpper)
    let str := fun
      | Json.str s => s
      | _ => ""
    lastValue upper str "BOOKING_NUMBER" [bookingNumberFact] = some "B1" ∧
      readBookingFields upper str (listAnswer [bookingNumberFact]) = .raised ∧
      (∃ fields, readBookingFields upper str (fieldsAnswer [bookingNumberFact]) = .ok fields ∧
        fields.bookingNumber = .null) ∧
      ¬ DecodesBoth upper str [bookingNumberFact] := by
  refine ⟨by decide, readBookingFields_list _ _ _,
    ⟨.empty, readBookingFields_object _ _ _, rfl⟩, ?_⟩
  rintro ⟨raw, hlist, -⟩
  rw [readBookingFields_list] at hlist
  cases hlist

end WaService
