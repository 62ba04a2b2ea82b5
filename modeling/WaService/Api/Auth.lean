import WaService.Core.Dict
import WaService.Core.Text

/-!
# Authentication of callers

`Settings.api_callers` parses `WA_API_TOKENS` into a dictionary from tokens to caller names, and
`require_caller` matches the bearer token of a request against it.
-/

namespace WaService

open Python

/-! ## The setting -/

/-- The test of an entry that `api_callers` makes: a colon, a name and a token. -/
def isCallerEntry (parts : List Char × List Char × List Char) : Bool :=
  !(parts.2.1.isEmpty || (strip parts.1).isEmpty || (strip parts.2.2).isEmpty)

/-- One pass of the loop: a blank piece is skipped, another one enters its token. -/
def addCaller (out : List (String × String)) (pair : List Char) :
    Except Error (List (String × String)) :=
  if (strip pair).isEmpty then .ok out
  else
    let parts := partition ':' (strip pair)
    if isCallerEntry parts then
      .ok (setItem (String.ofList (strip parts.2.2)) (String.ofList (strip parts.1)) out)
    else .error .valueError

/-- The loop over the pieces. -/
def addCallers : List (String × String) → List (List Char) → Except Error (List (String × String))
  | out, [] => .ok out
  | out, pair :: pairs => addCaller out pair >>= fun out' => addCallers out' pairs

/-- `Settings.api_callers`: token to caller name. -/
def apiCallers (waApiTokens : String) : Except Error (List (String × String)) :=
  addCallers [] (waApiTokens.toList.splitOn ',')

/-! ## The request -/

/-- `Caller`. -/
structure Caller where
  name : String
  deriving DecidableEq, Repr

/-- How `require_caller` ends: a caller, an `HTTPException` with its headers, another exception. -/
inductive CallerOutcome where
  | ok (caller : Caller)
  | refused (status : Nat) (detail : String) (headers : List (String × String))
  | raised
  deriving DecidableEq, Repr

/-- Missing or wrong token. -/
def unauthenticated : CallerOutcome :=
  .refused 401 "UNAUTHENTICATED" [("WWW-Authenticate", "Bearer")]

/-- `scheme.lower() == "bearer"`; no character outside ASCII lowers to a letter of the word. -/
def isBearer (scheme : List Char) : Bool := scheme.map Char.toLower == "bearer".toList

/-- The comparison with every configured token; a later match replaces an earlier one. -/
def matchCaller (token : String) : Option String → List (String × String) → Option String
  | found, [] => found
  | found, (known, name) :: callers =>
    matchCaller token (if known.toUTF8 == token.toUTF8 then some name else found) callers

/-- `require_caller`. -/
def requireCaller (waApiTokens : String) (authorization : Option String) : CallerOutcome :=
  match apiCallers waApiTokens with
  | .error _ => .raised
  | .ok [] => .refused 503 "WA_API_NOT_CONFIGURED" []
  | .ok callers =>
    let parts := partition ' ' (authorization.getD "").toList
    if !isBearer parts.1 || parts.2.2.isEmpty then unauthenticated
    else
      match matchCaller (String.ofList parts.2.2) none callers with
      | none => unauthenticated
      | some name => .ok ⟨name⟩

/-! ## The dictionary of callers -/

/-- A text that reads `name:token`, with white space around either. -/
def IsEntry (piece : List Char) (name token : String) : Prop :=
  ∃ before rest, piece = before ++ ':' :: rest ∧ ':' ∉ before ∧ name.toList = strip before ∧
    token.toList = strip rest ∧ name ≠ "" ∧ token ≠ ""

/-- The entries of the setting: the pieces between commas that are not blank. -/
def entries (waApiTokens : String) : List (List Char) :=
  ((waApiTokens.toList.splitOn ',').map strip).filter fun piece => !piece.isEmpty

/-- An entry of the setting gives this name and this token. -/
def Configured (waApiTokens name token : String) : Prop :=
  ∃ piece ∈ entries waApiTokens, IsEntry piece name token

/-- Every entry has a colon, a name and a token. -/
def WellFormed (waApiTokens : String) : Prop :=
  ∀ piece ∈ entries waApiTokens, ∃ name token, IsEntry piece name token

end WaService
