import WaService.Schema.Database

/-!
# What the service runs against

Functions that the code calls and the repository does not define are fields of an
environment: the HMAC, the JSON decoder, the driver's rendering of parameters that
are not strings, trigram similarity, date parsing and the message copy. Background
jobs are the calls that the task queue stores.
-/

namespace WaService

open Python

/-- The calls that leave the repository, and the settings the handlers read. -/
structure Env where
  /-- `hmac.new(secret.encode(), body, sha256).hexdigest()`. -/
  hmacSha256Hex : String → List UInt8 → String
  /-- `json.loads`; `none` is a `ValueError`. -/
  jsonLoads : List UInt8 → Option Json
  /-- The text stored for a parameter that is neither a string nor null. -/
  adaptText : Json → Except Error String
  /-- `similarity(a, b)` of `pg_trgm`. -/
  similarity : String → String → Rat
  /-- The input conversion of `date`, in days. -/
  parseDate : String → Option Int
  /-- The YAML copy of a locale. -/
  copy : Locale → List (String × String)
  /-- `settings.wa_app_secret`. -/
  waAppSecret : String

/-- An environment that has recorded, for some bodies, their digest and their decoded
value, and that takes every other body for malformed. -/
def Env.ofRecording (secret : String) (calls : List (List UInt8 × String × Json)) : Env where
  hmacSha256Hex key body :=
    if key == secret then ((calls.lookup body).map (·.1)).getD "" else ""
  jsonLoads body := (calls.lookup body).map (·.2)
  adaptText _ := .error .programmingError
  similarity a b := if a == b then 1 else 0
  parseDate _ := none
  copy _ := []
  waAppSecret := secret

/-- A parameter written to a nullable `text` column. -/
def sqlText (env : Env) : Json → Except Error (Option String)
  | .null => .ok none
  | .str s => if Json.hasNul s then .error .dataError else .ok (some s)
  | j => (env.adaptText j).map some

/-- A parameter compared with a `text` column: only text has the operator. -/
def selectText : Json → Except Error String
  | .str s => if Json.hasNul s then .error .dataError else .ok s
  | _ => .error .programmingError

/-- A string that can be stored is stored as it is. -/
theorem sqlText_str {env : Env} {s : String} {t : Option String}
    (h : sqlText env (.str s) = .ok t) : t = some s := by
  simp only [sqlText] at h
  split at h
  · cases h
  · cases h
    rfl

/-- A string can be stored when it has no NUL. -/
theorem sqlText_str_iff {env : Env} {s : String} :
    (∃ t, sqlText env (.str s) = .ok t) ↔ Json.hasNul s = false := by
  by_cases h : Json.hasNul s = true
  · simp [sqlText, h]
  · simp [sqlText, h]

/-- A string that can be compared is compared as it is. -/
theorem selectText_str {s t : String} (h : selectText (.str s) = .ok t) : t = s := by
  simp only [selectText] at h
  split at h
  · cases h
  · cases h
    rfl

/-- `p if isinstance(p, dict) else json.loads(p)` on a `jsonb` value: text is decoded
once more, and `json.loads` takes nothing else. -/
def decodePayload (env : Env) (payload : Json) : Except Error Json :=
  match payload with
  | .obj fields => .ok (.obj fields)
  | .str s =>
    match env.jsonLoads s.toUTF8.toList with
    | some j => .ok j
    | none => .error .valueError
  | _ => .error .typeError

/-- Keyword arguments of a deferred `fetch_and_store_file`. -/
structure FetchJob where
  fileId : UUID
  sessionId : UUID
  tenantId : UUID
  userId : UUID
  orgUnitId : UUID
  locale : Locale
  intakeJourneyId : Option UUID
  deriving DecidableEq, Repr

/-- Keyword arguments of a deferred `poll_di_document`; `_reschedule_poll` also
passes `schedule_in`. -/
structure PollJob where
  fileId : UUID
  sessionId : UUID
  tenantId : UUID
  journeyId : UUID
  evidenceId : UUID
  attempt : Nat
  scheduleIn : Option Nat
  deriving DecidableEq, Repr

/-- A call stored in the task queue. -/
inductive Job where
  | processInboxRow (inboxId : Nat)
  | fetchAndStoreFile (args : FetchJob)
  | pollDiDocument (args : PollJob)
  | processSession (sessionId : UUID)
  deriving DecidableEq, Repr

end WaService
