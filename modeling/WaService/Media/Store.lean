import WaService.Media.DiPoll
import WaService.Worker.File

/-!
# Storing evidence in audit-core

`store_via_audit_core` posts a file once. The answer becomes an evidence id, a `StoreError` with
its code, or an exception that no `except` clause names.
-/

namespace WaService

open Python

/-! ## Parsing a UUID -/

/-- `s.replace(pattern, "")`; the first argument is the rest of an occurrence. -/
def without (pattern : List Char) : Nat → List Char → List Char
  | _, [] => []
  | n + 1, _ :: cs => without pattern n cs
  | 0, c :: cs =>
    if pattern.isPrefixOf (c :: cs) then without pattern (pattern.length - 1) cs
    else c :: without pattern 0 cs

/-- The value of a digit in base 16. -/
def hexValue? (c : Char) : Option Nat :=
  match digitValue? c with
  | some d => some d
  | none =>
    let n := c.toLower.toNat
    if 97 ≤ n ∧ n ≤ 102 then some (n - 87) else none

/-- Digits in base 16 with single underscores between them, read from the left. -/
def hexDigits? (acc : Nat) : List Char → Option Nat
  | [] => some acc
  | '_' :: c :: cs =>
    match hexValue? c with
    | some d => hexDigits? (acc * 16 + d) cs
    | none => none
  | c :: cs =>
    match hexValue? c with
    | some d => hexDigits? (acc * 16 + d) cs
    | none => none

/-- `int(s, 16)` for a text without a minus sign. -/
def intBase16 (cs : List Char) : Option Nat :=
  let unsigned :=
    match strip cs with
    | '+' :: rest => rest
    | rest => rest
  match unsigned with
  | '0' :: x :: '_' :: c :: rest =>
    if x == 'x' || x == 'X' then (hexValue? c).bind fun d => hexDigits? d rest
    else hexDigits? 0 unsigned
  | '0' :: x :: c :: rest =>
    if x == 'x' || x == 'X' then (hexValue? c).bind fun d => hexDigits? d rest
    else hexDigits? 0 unsigned
  | c :: rest => (hexValue? c).bind fun d => hexDigits? d rest
  | [] => none

/-- `UUID(s)`. -/
def uuidOfString (s : String) : Option UUID :=
  let named := without "uuid:".toList 0 (without "urn:".toList 0 s.toList)
  let isBrace := fun c => c == '{' || c == '}'
  let bare := ((named.dropWhile isBrace).reverse.dropWhile isBrace).reverse
  let hex := bare.filter fun c => c != '-'
  if hex.length = 32 then (intBase16 hex).map (BitVec.ofNat 128) else none

/-- `UUID(j)`: only text is parsed. -/
def uuidOfJson : Json → Except Error UUID
  | .str s =>
    match uuidOfString s with
    | some u => .ok u
    | none => .error .valueError
  | .null => .error .typeError
  | _ => .error .attributeError

/-! ## The answer of audit-core -/

/-- The ids of a stored evidence item; the other fields of the body are read with a default. -/
def evidenceIdOf (body : Json) : Except Error UUID := do
  let evidence ← body.getItem "evidenceId"
  let evidenceId ← uuidOfJson evidence
  let journey ← body.getItem "journeyId"
  let _ ← uuidOfJson journey
  return evidenceId

/-- The body of a status under `except (ValueError, KeyError)`, with what the clause does. -/
def storeBody (body : Option Json) (caught : StoreOutcome) : StoreOutcome :=
  match decodedBody body >>= evidenceIdOf with
  | .ok evidenceId => .ok evidenceId
  | .error .valueError | .error .keyError => caught
  | .error _ => .raised

/-- The `StoreError` of a status that is no success. -/
def storeRefused (status : Nat) : StoreOutcome :=
  .failed ("AUDIT_CORE_HTTP_" ++ toString status) (decide (500 ≤ status))

/-- `store_via_audit_core`; a 409 is the replay of an upload that is stored already. -/
def storeViaAuditCore : HttpAnswer → StoreOutcome
  | .networkError => .failed "AUDIT_CORE_NETWORK_ERROR" true
  | .response status body =>
    if status = 201 then storeBody body (.failed "AUDIT_CORE_CONTRACT_ERROR" false)
    else if status = 409 then storeBody body (storeRefused status)
    else storeRefused status

/-- A `StoreError` that may be retried: no answer, or a server error. -/
theorem storeViaAuditCore_retryable {answer : HttpAnswer} :
    (∃ code, storeViaAuditCore answer = .failed code true) ↔
      answer = .networkError ∨ ∃ status body, answer = .response status body ∧ 500 ≤ status := by
  have hbody : ∀ body caught, (∃ code, storeBody body caught = .failed code true) →
      ∃ code, caught = .failed code true := by
    rintro body caught ⟨code, h⟩
    unfold storeBody at h
    split at h
    · cases h
    · exact ⟨code, h⟩
    · exact ⟨code, h⟩
    · cases h
  constructor
  · rintro ⟨code, h⟩
    cases answer with
    | networkError => exact Or.inl rfl
    | response status body =>
      refine Or.inr ⟨status, body, rfl, ?_⟩
      by_cases h201 : status = 201
      · simp only [storeViaAuditCore, if_pos h201] at h
        obtain ⟨code', hcaught⟩ := hbody _ _ ⟨code, h⟩
        cases hcaught
      · by_cases h409 : status = 409
        · subst h409
          simp only [storeViaAuditCore, if_neg h201, if_true] at h
          obtain ⟨code', hcaught⟩ := hbody _ _ ⟨code, h⟩
          cases hcaught
        · simp only [storeViaAuditCore, if_neg h201, if_neg h409, storeRefused,
            StoreOutcome.failed.injEq, decide_eq_true_eq] at h
          exact h.2
  · rintro (rfl | ⟨status, body, rfl, hstatus⟩)
    · exact ⟨_, rfl⟩
    · refine ⟨"AUDIT_CORE_HTTP_" ++ toString status, ?_⟩
      have h201 : status ≠ 201 := by omega
      have h409 : status ≠ 409 := by omega
      simp only [storeViaAuditCore, if_neg h201, if_neg h409, storeRefused, hstatus, decide_true]

end WaService
