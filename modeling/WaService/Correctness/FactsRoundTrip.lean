import WaService.Core.JsonText
import WaService.Core.Text
import WaService.Correctness.PollEndings
import WaService.Correctness.ResentForms
import WaService.Media.BookingFacts

/-!
# Booking fields through the database

`fetch_booking_fields` and `_extract_booking_fields` read the same eight fields from a dictionary of
facts. Between them the dictionary is stored as a decoded object or as a JSON text, either in any
order of its keys.
-/

namespace WaService

open Python Relational

/-- The dictionary as a JSON object. -/
def factsObject (raw : List (String × String)) : Json :=
  .obj (raw.map fun entry => (entry.1, .str entry.2))

/-- What `di_facts` holds of a dictionary: the decoded object, or a JSON text of it. -/
inductive StoredFacts (raw : List (String × String)) : Json → Prop where
  | decoded : StoredFacts raw (factsObject raw)
  | text {text : String} : loadsStrings text = some raw → StoredFacts raw (.str text)

/-- The decoder of the environment reads the JSON text of a dictionary. -/
def Env.LoadsStrings (env : Env) : Prop :=
  ∀ text raw, loadsStrings text = some raw →
    env.jsonLoads text.toUTF8.toList = some (factsObject raw)

/-- The row carries the type of a booking form. -/
def RowMapping.isBookingForm (row : RowMapping) : Bool :=
  (row.get .documentTypeKey).eqText "BOOKING_FORM"

/-- Wherever the facts of the fields are stored, in any order of the keys, on the first booking form
of the files, the extracted fields are these fields, with the facts in the order of the store. -/
def SurvivesStore (env : Env) (b : BookingFields) : Prop :=
  ∀ raw, b.rawFacts = factsObject raw → ∀ stored facts, stored.Perm raw → StoredFacts stored facts →
    ∀ (files : List RowMapping) (row : RowMapping),
      files.find? RowMapping.isBookingForm = some row → row.get .diFacts = .json facts →
        extractBookingFields env files = .ok { b with rawFacts := factsObject stored } ∧
          (factsObject stored).pyEq b.rawFacts = true

/-! ## Dictionaries in two orders -/

theorem lookup_factsObject (raw : List (String × String)) (key : String) :
    (raw.map fun entry => (entry.1, Json.str entry.2)).lookup key =
      (raw.lookup key).map Json.str := by
  induction raw with
  | nil => rfl
  | cons entry raw ih =>
    rw [List.map_cons, List.lookup_cons, List.lookup_cons, ih]
    cases key == entry.1 <;> rfl

/-- Two orders of a dictionary are equal objects. -/
theorem factsObject_pyEq {stored raw : List (String × String)} (h : stored.Perm raw)
    (hkeys : (raw.map Prod.fst).Nodup) : (factsObject stored).pyEq (factsObject raw) = true := by
  have hfields : ∀ part : List (String × String), (∀ entry ∈ part, entry ∈ raw) →
      Json.pyEqFields (part.map fun entry => (entry.1, .str entry.2))
        (raw.map fun entry => (entry.1, .str entry.2)) = true := by
    intro part
    induction part with
    | nil => exact fun _ => rfl
    | cons entry part ih =>
      intro hpart
      have hmem := (lookup_eq_some_iff_mem hkeys).mpr (hpart entry List.mem_cons_self)
      rw [List.map_cons, Json.pyEqFields, lookup_factsObject, hmem,
        ih fun other hother => hpart other (List.mem_cons_of_mem entry hother)]
      simp [Json.pyEq]
  rw [factsObject, factsObject, Json.pyEq, hfields stored fun entry => h.mem_iff.mp]
  simp [h.length_eq]

/-! ## Two readers of one dictionary -/

/-- The two tests of a flag agree on text. -/
theorem truthyFlag_str (s : String) : truthyFlag (.str s) =
    ["true", "yes", "1", "y"].contains (String.ofList (s.toList.map Char.toLower)) := by
  have hsame : ∀ word : String, (String.ofList (s.toList.map Char.toLower) == word) =
      (s.toList.map Char.toLower == word.toList) := by
    intro word
    rw [Bool.eq_iff_iff, beq_iff_eq, beq_iff_eq, ← String.toList_inj, String.toList_ofList]
  simp only [truthyFlag, List.contains_cons, List.contains_nil, hsame, Bool.or_false,
    Bool.or_assoc]

theorem get_factsObject (raw : List (String × String)) (key : String) (default : Json) :
    (factsObject raw).get key default =
      .ok (match raw.lookup key with
        | some value => .str value
        | none => default) := by
  rw [factsObject, Json.get, lookup_factsObject]
  cases raw.lookup key <;> rfl

/-- The second reader gives what the first one gives. -/
theorem bookingFieldsOfFacts_object (raw : List (String × String)) :
    bookingFieldsOfFacts (factsObject raw) = .ok (.ofEntries raw) := by
  have hflag : ∀ key, truthyFlag (match raw.lookup key with
      | some value => .str value
      | none => .str "") = flagOf raw key := by
    intro key
    rw [flagOf]
    cases raw.lookup key with
    | none => exact truthyFlag_str ""
    | some value => exact truthyFlag_str value
  simp only [bookingFieldsOfFacts, get_factsObject, bind, Except.bind, pure, Except.pure, hflag]
  rfl

/-- Facts that are stored are read as the object. -/
theorem rawFactsOf_stored {env : Env} (henv : env.LoadsStrings) {row : RowMapping}
    {raw : List (String × String)} {facts : Json} (hstored : StoredFacts raw facts)
    (hrow : row.get .diFacts = .json facts) : rawFactsOf env row = factsObject raw := by
  cases hstored with
  | decoded =>
    rw [rawFactsOf, hrow]
    cases raw with
    | nil => rfl
    | cons entry raw => rfl
  | @text text hloads =>
    have hne : (text == "") = false := by
      rw [beq_eq_false_iff_ne]
      rintro rfl
      cases hloads
    rw [rawFactsOf, hrow]
    simp only [hne, henv text raw hloads]
    rfl

theorem factsObject_inj {raw raw' : List (String × String)}
    (h : factsObject raw = factsObject raw') : raw = raw' := by
  have hinj : Function.Injective fun entry : String × String => (entry.1, Json.str entry.2) := by
    rintro ⟨key, value⟩ ⟨key', value'⟩ heq
    cases heq
    rfl
  exact List.map_injective_iff.mpr hinj (Json.obj.inj h)

/-- The named fields do not depend on the order of the entries. -/
theorem ofEntries_perm {stored raw : List (String × String)} (h : stored.Perm raw)
    (hkeys : (raw.map Prod.fst).Nodup) : BookingFields.ofEntries stored =
      { BookingFields.ofEntries raw with rawFacts := factsObject stored } := by
  have hlookup := lookup_perm h hkeys
  simp only [BookingFields.ofEntries, factText, flagOf, hlookup]
  rfl

/-- Fields of a dictionary survive the store. -/
theorem ofEntries_survives {env : Env} (henv : env.LoadsStrings) {raw : List (String × String)}
    (hkeys : (raw.map Prod.fst).Nodup) : SurvivesStore env (.ofEntries raw) := by
  intro raw' hraw stored facts hperm hstored files row hfirst hrow
  obtain rfl : raw = raw' := factsObject_inj hraw
  refine ⟨?_, factsObject_pyEq hperm hkeys⟩
  have hfind : files.find? (fun f => (f.get .documentTypeKey).eqText "BOOKING_FORM") = some row :=
    hfirst
  rw [extractBookingFields, hfind]
  simp only [rawFactsOf_stored henv hstored hrow, bookingFieldsOfFacts_object,
    ofEntries_perm hperm hkeys]

/-! ## What the fetch returns -/

/-- One pass of the loop enters no key twice. -/
theorem readFact_nodup {upper : String → String} {str : Json → String} {item : Json}
    {raw raw' : List (String × String)} (h : readFact upper str raw item = .ok raw')
    (hkeys : (raw.map Prod.fst).Nodup) : (raw'.map Prod.fst).Nodup := by
  unfold readFact at h
  split at h
  · split at h
    · cases h
      exact hkeys
    · cases h
      split
      · exact hkeys
      · exact nodup_keys_setItem hkeys
    · split at h
      · cases h
      · cases h
        exact hkeys
  · cases h
    exact hkeys

/-- The loop enters no key twice. -/
theorem readFacts_nodup {upper : String → String} {str : Json → String} {items : List Json}
    {raw raw' : List (String × String)} (h : readFacts upper str raw items = .ok raw')
    (hkeys : (raw.map Prod.fst).Nodup) : (raw'.map Prod.fst).Nodup := by
  induction items generalizing raw with
  | nil =>
    cases h
    exact hkeys
  | cons item items ih =>
    obtain ⟨mid, hmid, hrest⟩ := bind_eq_ok.mp h
    exact ih hrest (readFact_nodup hmid hkeys)

/-- Fields that the fetch returns are read from a dictionary. -/
theorem readBookingFields_ofEntries {upper : String → String} {str : Json → String}
    {answer : HttpAnswer} {b : BookingFields} (h : readBookingFields upper str answer = .ok b) :
    ∃ raw, (raw.map Prod.fst).Nodup ∧ b = .ofEntries raw := by
  have hempty : BookingFields.empty = .ofEntries [] := rfl
  cases answer with
  | networkError => cases h
  | response status body =>
    by_cases h404 : status = 404
    · rw [readBookingFields, if_pos h404] at h
      cases h
      exact ⟨[], List.nodup_nil, hempty⟩
    by_cases h200 : status = 200
    · rw [readBookingFields, if_neg h404, if_pos h200, readBookingBody] at h
      split at h
      · cases h
        exact ⟨[], List.nodup_nil, hempty⟩
      · cases h
      · split at h
        · rename_i raw hraw
          cases h
          exact ⟨raw, readFacts_nodup hraw List.nodup_nil, rfl⟩
        · cases h
    · rw [readBookingFields, if_neg h404, if_neg h200] at h
      cases h

/-- The fields of every dictionary survive the store, as a decoded object and as any JSON text, that
of `json.dumps` among them; and whatever the fetch returns is such fields. -/
theorem booking_fields_survive (upper : String → String) (str : Json → String) (env : Env)
    (henv : env.LoadsStrings) :
    (∀ raw : List (String × String), (raw.map Prod.fst).Nodup →
      SurvivesStore env (.ofEntries raw) ∧ StoredFacts raw (.str (dumpsStrings raw))) ∧
    ∀ answer b, readBookingFields upper str answer = .ok b →
      SurvivesStore env b ∧ ∃ raw, (raw.map Prod.fst).Nodup ∧ b = .ofEntries raw := by
  constructor
  · intro raw hkeys
    exact ⟨ofEntries_survives henv hkeys, .text (loadsStrings_dumpsStrings hkeys)⟩
  · intro answer b h
    obtain ⟨raw, hkeys, rfl⟩ := readBookingFields_ofEntries h
    exact ⟨ofEntries_survives henv hkeys, raw, hkeys, rfl⟩

/-- An environment that decodes the JSON text of dictionaries. -/
def stringsEnv : Env :=
  { Env.ofRecording "secret" [] with
    jsonLoads := fun bytes => (String.fromUTF8? bytes.toByteArray).bind fun text =>
      (loadsStrings text).map factsObject }

/-- The facts of a financed booking. -/
def raoFacts : List (String × String) :=
  [("BOOKING_NUMBER", "B1"), ("CUSTOMER_NAME", "Asha \"Rao\""), ("FINANCE_FLAG", "Yes"),
    ("MODEL", "")]

/-- The facts of a financed booking come back from a JSON text and from an object with its keys in
another order. -/
theorem rao_facts_survive :
    extractBookingFields stringsEnv [[(.documentTypeKey, .text "PAN")],
        [(.documentTypeKey, .text "BOOKING_FORM"),
          (.diFacts, .json (.str (dumpsStrings raoFacts)))]] =
      .ok (.ofEntries raoFacts) ∧
    extractBookingFields stringsEnv [[(.documentTypeKey, .text "BOOKING_FORM"),
        (.diFacts, .json (factsObject raoFacts.reverse))]] =
      .ok { BookingFields.ofEntries raoFacts with rawFacts := factsObject raoFacts.reverse } := by
  have henv : stringsEnv.LoadsStrings := by
    intro text raw hloads
    simp only [stringsEnv, fromUTF8?_toUTF8, Option.bind_some, hloads, Option.map_some]
  obtain ⟨hsurvives, htext⟩ := (booking_fields_survive id (fun _ => "") stringsEnv henv).1 raoFacts
    (by decide)
  exact ⟨(hsurvives raoFacts rfl raoFacts _ (List.Perm.refl _) htext _ _ rfl rfl).1,
    (hsurvives raoFacts rfl raoFacts.reverse _ (List.reverse_perm _) .decoded _ _ rfl rfl).1⟩

/-! ## A poll and a session -/

/-- The fields that a poll fetches for a booking form are those that the session reads from the
row of the file. -/
theorem polled_fields_survive {env : Env} (henv : env.LoadsStrings) {db : Db} {calls : PollCalls}
    {job : PollJob} {result : DiPollResult} {raw : List (String × String)}
    (hkeys : (raw.map Prod.fst).Nodup) (hfresh : job.scheduleIn = none)
    (hpoll : calls.pollEvidenceStatus = .ok result) (hterminal : result.isTerminal = true)
    (htype : result.documentTypeKey = .str "BOOKING_FORM")
    (hconfirmed : isConfirmed result.processingStatus = true)
    (hfetch : calls.fetchBookingFields = .ok (.ofEntries raw))
    (hstorable : (factsObject raw).storable = true) {f : File}
    (hf : f ∈ (pollDiDocument env db calls job).db.files.rows) (hid : f.id = job.fileId)
    {files : List RowMapping} (hfirst : files.find? RowMapping.isBookingForm = some f.fullRow) :
    extractBookingFields env files = .ok (.ofEntries raw) := by
  have hfacts : terminalFacts calls result = some (factsObject raw) := by
    rw [terminalFacts, htype, hconfirmed, hfetch]
    rfl
  have hkey : sqlText env result.documentTypeKey = .ok (some "BOOKING_FORM") := by
    rw [htype]
    rfl
  rw [pollDiDocument_terminal hfresh hpoll hterminal,
    concludePoll_files hfacts hstorable hkey] at hf
  obtain ⟨old, -, hold⟩ := List.mem_map.mp hf
  have hrow : f.fullRow.get .diFacts = .json (factsObject raw) := by
    have hcell : f.fullRow.get .diFacts = f.cell .diFacts := File.select_get_of_mem f (by decide)
    rw [hcell, ← hold]
    by_cases hsel : old.id = job.fileId
    · rw [patch_of_pos (by simpa using hsel)]
      rfl
    · rw [patch_of_neg (by simpa using hsel)] at hold
      exact absurd (by rw [hold, hid]) hsel
  exact (ofEntries_survives henv hkeys raw rfl raw _ (List.Perm.refl raw) .decoded files _ hfirst
    hrow).1

end WaService
