import WaService.Core.Dict
import WaService.Media.DiPoll

/-!
# Reading booking facts

`fetch_booking_fields` as a whole: the list of fact items is selected from the body, a loop enters
each fact under its upper-cased key, and the named fields are read from the entries. `str.upper`
and `str` are parameters, since nothing below depends on how they render a text or a value.
-/

namespace WaService

open Python

/-! ## The loop -/

/-- `a or b`. -/
def pyOr (a b : Json) : Json := if a.truthy then a else b

/-- The key and the value of an item that is an object. -/
def factCells (fields : List (String × Json)) : Json × Json :=
  let get := fun name => (fields.lookup name).getD .null
  (pyOr (pyOr (get "fieldKey") (get "field_key")) (.str ""),
    pyOr (get "currentValue") (get "value"))

section Loop

variable (upper : String → String) (str : Json → String)

/-- One pass of the loop: `raw[key.upper()] = str(value)` if there is a key and a value. -/
def readFact (raw : List (String × String)) (item : Json) :
    Except Error (List (String × String)) :=
  match item with
  | .obj fields =>
    match factCells fields with
    | (_, .null) => .ok raw
    | (.str key, value) => .ok (if key == "" then raw else setItem (upper key) (str value) raw)
    | (key, _) => if key.truthy then .error .attributeError else .ok raw
  | _ => .ok raw

/-- The loop over the items. -/
def readFacts : List (String × String) → List Json → Except Error (List (String × String))
  | raw, [] => .ok raw
  | raw, item :: items => readFact upper str raw item >>= fun raw' => readFacts raw' items

/-- `raw.get(key)`. -/
def factText (raw : List (String × String)) (key : String) : Json :=
  match raw.lookup key with
  | some value => .str value
  | none => .null

/-- `_bool(key)`; no character outside ASCII lowers to a letter of the four texts. -/
def flagOf (raw : List (String × String)) (key : String) : Bool :=
  ["true", "yes", "1", "y"].contains
    (String.ofList (((raw.lookup key).getD "").toList.map Char.toLower))

/-- The `BookingFields` that the entries give. -/
def BookingFields.ofEntries (raw : List (String × String)) : BookingFields where
  bookingNumber := factText raw "BOOKING_NUMBER"
  customerName := factText raw "CUSTOMER_NAME"
  model := factText raw "MODEL"
  variant := factText raw "VARIANT"
  bookingDate := factText raw "BOOKING_DATE"
  isFinanced := flagOf raw "FINANCE_FLAG"
  hasExchange := flagOf raw "EXCHANGE_FLAG"
  isCorporate := flagOf raw "CORPORATE_FLAG"
  rawFacts := .obj (raw.map fun entry => (entry.1, .str entry.2))

/-- A body of status 200; only its selection is under `except ValueError`. -/
def readBookingBody (body : Option Json) : FactsOutcome :=
  match decodedBody body >>= fieldsList with
  | .error .valueError => .ok .empty
  | .error _ => .raised
  | .ok items =>
    match readFacts upper str [] items with
    | .ok raw => .ok (.ofEntries raw)
    | .error _ => .raised

/-- `fetch_booking_fields` with its loop. -/
def readBookingFields : HttpAnswer → FactsOutcome
  | .networkError => .failed "AUDIT_CORE_NETWORK_ERROR" true
  | .response status body =>
    if status = 404 then .ok .empty
    else if status = 200 then readBookingBody upper str body
    else .failed ("AUDIT_CORE_FACTS_HTTP_" ++ toString status) (decide (500 ≤ status))

/-- No item ever reaches the loop, so the call is the one without it. -/
theorem readBookingFields_eq (answer : HttpAnswer) :
    readBookingFields upper str answer = fetchBookingFields answer := by
  cases answer with
  | networkError => rfl
  | response status body =>
    have hbody : readBookingBody upper str body = .ofBody (decodedBody body >>= fieldsList) := by
      unfold readBookingBody
      cases hlist : decodedBody body >>= fieldsList with
      | error e => cases e <;> rfl
      | ok items =>
        obtain ⟨value, -, hvalue⟩ := bind_eq_ok.mp hlist
        rw [fieldsList_ok hvalue]
        rfl
    simp only [readBookingFields, fetchBookingFields, hbody]

/-! ## What the loop enters -/

/-- The key and the value of a fact. -/
def factOf (item : Json) : Option (String × Json) :=
  match item with
  | .obj fields =>
    match factCells fields with
    | (_, .null) => none
    | (.str key, value) => if key == "" then none else some (key, value)
    | _ => none
  | _ => none

/-- The text of the last value that the items have for an upper-cased key. -/
def lastValue (key : String) (items : List Json) : Option String :=
  ((items.filterMap factOf).filter fun fact => upper fact.1 == key).getLast?.map
    fun fact => str fact.2

/-- The key of an item, where it is an object with a value, is text or false. -/
def TextKey (item : Json) : Prop :=
  ∀ fields, item = .obj fields → (factCells fields).1.truthy = true →
    ∃ key, (factCells fields).1 = .str key

/-- One pass enters the fact of the item, if it is one. -/
theorem readFact_eq {item : Json} (h : TextKey item) (raw : List (String × String)) :
    readFact upper str raw item = .ok (match factOf item with
      | some fact => setItem (upper fact.1) (str fact.2) raw
      | none => raw) := by
  cases item with
  | obj fields =>
    have hkey := h fields rfl
    simp only [readFact, factOf]
    generalize factCells fields = cells at hkey ⊢
    obtain ⟨key, value⟩ := cells
    cases value with
    | null => rfl
    | _ =>
      cases key with
      | str key =>
        by_cases hempty : (key == "") = true
        · simp only [hempty, if_true]
        · simp only [hempty, if_false, Bool.false_eq_true]
      | _ =>
        simp only
        split
        · rename_i htruthy
          obtain ⟨text, htext⟩ := hkey htruthy
          cases htext
        · rfl
  | _ => rfl

/-- The loop ends with the last value of every key, where the items have one. -/
theorem readFacts_lookup {items : List Json} (h : ∀ item ∈ items, TextKey item)
    (raw : List (String × String)) : ∃ raw', readFacts upper str raw items = .ok raw' ∧
      ∀ key, raw'.lookup key = (lastValue upper str key items).or (raw.lookup key) := by
  induction items generalizing raw with
  | nil => exact ⟨raw, rfl, fun key => rfl⟩
  | cons item items ih =>
    have hrest := fun raw => ih (fun i hi => h i (List.mem_cons_of_mem item hi)) raw
    have hfirst := readFact_eq upper str (h item List.mem_cons_self) raw
    cases hfact : factOf item with
    | none =>
      rw [hfact] at hfirst
      obtain ⟨raw', hread, hlookup⟩ := hrest raw
      refine ⟨raw', ?_, ?_⟩
      · rw [readFacts, hfirst]
        exact hread
      · intro key
        rw [hlookup key]
        simp only [lastValue, List.filterMap_cons, hfact]
    | some fact =>
      rw [hfact] at hfirst
      obtain ⟨raw', hread, hlookup⟩ := hrest (setItem (upper fact.1) (str fact.2) raw)
      refine ⟨raw', ?_, ?_⟩
      · rw [readFacts, hfirst]
        exact hread
      · intro key
        rw [hlookup key]
        simp only [lastValue, List.filterMap_cons, hfact]
        by_cases hkey : upper fact.1 = key
        · rw [← hkey, lookup_setItem_self, List.filter_cons_of_pos (by simp), List.getLast?_cons]
          cases hlast : ((items.filterMap factOf).filter
              fun other => upper other.1 == upper fact.1).getLast? with
          | none => rfl
          | some last => rfl
        · rw [lookup_setItem_of_ne _ (Ne.symm hkey), List.filter_cons_of_neg (by simpa using hkey)]

end Loop

end WaService
