import WaService.Deal.Builder

/-!
# Asking audit-core about evidence

`poll_evidence_status` and `fetch_booking_fields` each make one request. An answer becomes a
result, a `DiPollError` with its code, or an exception that no `except` clause names.
-/

namespace WaService

open Python

/-- The answer of audit-core about one evidence item. -/
structure DiPollResult where
  processingStatus : Json
  documentTypeKey : Json
  isTerminal : Bool
  deriving Repr

/-- How a call of `poll_evidence_status` ends: a result, a `DiPollError`, another exception. -/
inductive PollOutcome where
  | ok (result : DiPollResult)
  | failed (code : String) (retryable : Bool)
  | raised
  deriving Repr

/-- How a call of `fetch_booking_fields` ends. -/
inductive FactsOutcome where
  | ok (fields : BookingFields)
  | failed (code : String) (retryable : Bool)
  | raised
  deriving Repr

/-- What comes back of a request: an `httpx.HTTPError`, or a status code and a body, which is
`none` when it is not JSON. -/
inductive HttpAnswer where
  | networkError
  | response (status : Nat) (body : Option Json)
  deriving Repr

/-- `resp.json()`. -/
def decodedBody : Option Json → Except Error Json
  | some body => .ok body
  | none => .error .valueError

/-! ## The processing status -/

/-- `_TERMINAL_STATUSES`. -/
def terminalStatuses : List String := ["CONFIRMED", "VERIFIED", "FAILED", "REJECTED"]

/-- `status in _TERMINAL_STATUSES`; a list or an object has no hash. -/
def inTerminalStatuses : Json → Except Error Bool
  | .arr _ | .obj _ => .error .typeError
  | status => .ok (terminalStatuses.any fun s => status.eqStr s)

theorem inTerminalStatuses_error {status : Json} {e : Error}
    (h : inTerminalStatuses status = .error e) : e = .typeError := by
  cases status with
  | arr _ | obj _ =>
    cases h
    rfl
  | _ => cases h

/-- A terminal status is one of the four texts. -/
theorem inTerminalStatuses_true {status : Json} (h : inTerminalStatuses status = .ok true) :
    ∃ s ∈ terminalStatuses, status = .str s := by
  cases status with
  | arr _ | obj _ => cases h
  | str s =>
    refine ⟨s, ?_, rfl⟩
    obtain ⟨t, ht, hst⟩ := List.any_eq_true.mp (Except.ok.inj h)
    obtain rfl : s = t := by simpa [Json.eqStr] using hst
    exact ht
  | _ => simp [inTerminalStatuses, Json.eqStr] at h

/-- The result that a body of status 200 describes. -/
def evidenceOf (body : Json) : Except Error DiPollResult := do
  let given ← body.get "processingStatus" .null
  let status := if given.truthy then given else .str "PENDING"
  let documentTypeKey ← body.get "documentTypeKey" .null
  let isTerminal ← inTerminalStatuses status
  return ⟨status, documentTypeKey, isTerminal⟩

/-- What a body says when it can be read. -/
theorem evidenceOf_ok {body : Json} {result : DiPollResult} (h : evidenceOf body = .ok result) :
    ∃ given, body.get "processingStatus" .null = .ok given ∧
      body.get "documentTypeKey" .null = .ok result.documentTypeKey ∧
      result.processingStatus = (if given.truthy then given else .str "PENDING") ∧
      inTerminalStatuses result.processingStatus = .ok result.isTerminal := by
  obtain ⟨given, hgiven, h⟩ := bind_eq_ok.mp h
  obtain ⟨key, hkey, h⟩ := bind_eq_ok.mp h
  obtain ⟨terminal, hterminal, h⟩ := bind_eq_ok.mp h
  cases h
  exact ⟨given, hgiven, hkey, rfl, hterminal⟩

/-- Reading a body raises nothing that is caught. -/
theorem evidenceOf_error {body : Json} {e : Error} (h : evidenceOf body = .error e) :
    e = .attributeError ∨ e = .typeError := by
  obtain hget | ⟨given, -, h⟩ := bind_eq_error.mp h
  · exact Or.inl (Json.get_error hget)
  · obtain hget | ⟨key, -, h⟩ := bind_eq_error.mp h
    · exact Or.inl (Json.get_error hget)
    · obtain hterminal | ⟨terminal, -, h⟩ := bind_eq_error.mp h
      · exact Or.inr (inTerminalStatuses_error hterminal)
      · cases h

/-- `except (ValueError, KeyError)` around the body. -/
def PollOutcome.ofBody : Except Error DiPollResult → PollOutcome
  | .ok result => .ok result
  | .error .valueError | .error .keyError => .failed "AUDIT_CORE_CONTRACT_ERROR" false
  | .error _ => .raised

/-- `poll_evidence_status`. -/
def pollEvidenceStatus : HttpAnswer → PollOutcome
  | .networkError => .failed "AUDIT_CORE_NETWORK_ERROR" true
  | .response status body =>
    if status = 200 then .ofBody (decodedBody body >>= evidenceOf)
    else if status = 404 then .failed "EVIDENCE_NOT_FOUND" false
    else .failed ("AUDIT_CORE_HTTP_" ++ toString status) (decide (500 ≤ status))

/-! ## The booking fields -/

/-- `body.get("fields") or body if isinstance(body, list) else []`. The conditional binds last:
only a list is asked for its `get`, which it does not have. -/
def fieldsList (body : Json) : Except Error (List Json) :=
  match body with
  | .arr items => do
    let fields ← (Json.arr items).get "fields" .null
    (if fields.truthy then fields else .arr items).iter
  | _ => .ok []

theorem fieldsList_ok {body : Json} {fields : List Json} (h : fieldsList body = .ok fields) :
    fields = [] := by
  cases body with
  | arr items => cases h
  | _ =>
    cases h
    rfl

/-- `except ValueError` around the body. No list of fields is ever read that has an item, so the
loop over them collects nothing. -/
def FactsOutcome.ofBody : Except Error (List Json) → FactsOutcome
  | .ok _ | .error .valueError => .ok .empty
  | .error _ => .raised

/-- `fetch_booking_fields`. -/
def fetchBookingFields : HttpAnswer → FactsOutcome
  | .networkError => .failed "AUDIT_CORE_NETWORK_ERROR" true
  | .response status body =>
    if status = 404 then .ok .empty
    else if status = 200 then .ofBody (decodedBody body >>= fieldsList)
    else .failed ("AUDIT_CORE_FACTS_HTTP_" ++ toString status) (decide (500 ≤ status))

end WaService
