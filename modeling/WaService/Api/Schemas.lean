import WaService.Core.Regex
import WaService.Schema.Environment

/-!
# Request and response models of the API

Bodies as the validators hand them to the handlers, the JSON dump of a send
request, and the values the handlers answer with.
-/

namespace WaService

open Python

/-! ## Phone numbers -/

/-- `[1-9]`. -/
def oneToNine (c : Char) : Bool := '1' ≤ c && c ≤ '9'

/-- `_E164`: `^\+[1-9]\d{7,14}$`. -/
def e164 : Regex.Pattern :=
  .seq .start (.seq (.rep (· == '+') 1 (some 1)) (.seq (.rep oneToNine 1 (some 1))
    (.seq (.rep isDecimal 7 (some 14)) .finish)))

/-- `_check_e164`. -/
def checkE164 (v : String) : Except Error String :=
  if (e164.matchAt [] v.toList).isSome then .ok v else .error .valueError

/-! ## Bodies -/

/-- `Button`. -/
structure Button where
  id : String
  title : String
  deriving DecidableEq, Repr

/-- `TemplateBody`. -/
structure TemplateBody where
  name : String
  language : String
  components : Option (List (List (String × Json)))
  deriving Repr

/-- `ButtonsBody`. -/
structure ButtonsBody where
  body : String
  header : Option String
  footer : Option String
  buttons : List Button
  deriving DecidableEq, Repr

/-- `SendMessageRequest`. -/
structure SendMessageRequest where
  toE164 : String
  text : Option String
  template : Option TemplateBody
  buttons : Option ButtonsBody
  deriving Repr

/-- Exactly one of text, template and buttons is given; otherwise a `ValueError`. -/
def SendMessageRequest.kind (b : SendMessageRequest) : Option MessageKind :=
  match b.text, b.template, b.buttons with
  | some _, none, none => some .text
  | none, some _, none => some .template
  | none, none, some _ => some .buttons
  | _, _, _ => none

/-- The dumped field of a value that is not None. -/
def dumpField (key : String) (value : Option Json) : List (String × Json) :=
  (value.map fun j => (key, j)).toList

/-- `model_dump` of a button. -/
def Button.dump (b : Button) : Json := .obj [("id", .str b.id), ("title", .str b.title)]

/-- `components` as a JSON value; None stays null. -/
def componentsJson : Option (List (List (String × Json))) → Json
  | some items => .arr (items.map .obj)
  | none => .null

/-- `model_dump(exclude_none=True)` of a template. -/
def TemplateBody.dump (t : TemplateBody) : Json :=
  .obj ([("name", .str t.name), ("language", .str t.language)] ++
    dumpField "components" (t.components.map fun items => .arr (items.map .obj)))

/-- `model_dump(exclude_none=True)` of a button message. -/
def ButtonsBody.dump (b : ButtonsBody) : Json :=
  .obj ([("body", .str b.body)] ++ dumpField "header" (b.header.map .str) ++
    dumpField "footer" (b.footer.map .str) ++ [("buttons", .arr (b.buttons.map Button.dump))])

/-- `body.model_dump(mode="json", exclude_none=True)`. -/
def SendMessageRequest.dump (b : SendMessageRequest) : Json :=
  .obj ([("to", .str b.toE164)] ++ dumpField "text" (b.text.map .str) ++
    dumpField "template" (b.template.map TemplateBody.dump) ++
    dumpField "buttons" (b.buttons.map ButtonsBody.dump))

/-- `ContactIn`. -/
structure ContactIn where
  phoneE164 : String
  userId : UUID
  orgUnitId : UUID
  locale : Locale
  status : ContactStatus
  deriving DecidableEq, Repr

/-- `ContactPatch`; None leaves a column alone. -/
structure ContactPatch where
  status : Option ContactStatus
  locale : Option Locale
  orgUnitId : Option UUID
  deriving DecidableEq, Repr

/-- `RouteIn`. -/
structure RouteIn where
  phoneNumberId : String
  displayNumber : String
  intakeJourneyId : Option UUID
  deriving DecidableEq, Repr

/-- `RoutePatch`; None leaves a column alone. -/
structure RoutePatch where
  active : Option Bool
  displayNumber : Option String
  intakeJourneyId : Option UUID
  deriving DecidableEq, Repr

/-- The query parameters `limit` and `offset`. -/
structure Page where
  limit : Nat
  offset : Nat
  deriving DecidableEq, Repr

/-- `LIMIT :l OFFSET :o`; the offset must fit a `bigint`. -/
def Page.slice {α : Type} (page : Page) (rows : List α) : Option (List α) :=
  if page.offset < 2 ^ 63 then some ((rows.drop page.offset).take page.limit) else none

/-! ## Answers -/

/-- `MessageOut`. -/
structure MessageOut where
  id : UUID
  toE164 : String
  kind : MessageKind
  state : MessageState
  wamid : Option String
  errorCode : Option String
  errorMessage : Option String
  retryable : Option Bool
  requestedBy : String
  createdAt : Timestamp
  sentAt : Option Timestamp
  deriving DecidableEq, Repr

/-- `_msg_out`. -/
def ApiMessage.out (m : ApiMessage) : MessageOut :=
  ⟨m.id, m.toE164, m.kind, m.state, m.wamid, m.errorCode, m.errorMessage, m.retryable,
    m.requestedBy, m.createdAt, m.sentAt⟩

/-- `ContactOut`. -/
structure ContactOut where
  id : UUID
  phoneE164 : String
  userId : UUID
  tenantId : UUID
  orgUnitId : Option UUID
  status : ContactStatus
  locale : Locale
  lastSeenAt : Option Timestamp
  createdAt : Timestamp
  deriving DecidableEq, Repr

/-- The columns `_CONTACT_COLS` of a row. -/
def Contact.out (c : Contact) : ContactOut :=
  ⟨c.id, c.phoneE164, c.userId, c.tenantId, c.orgUnitId, c.status, c.locale, c.lastSeenAt,
    c.createdAt⟩

/-- `SessionOut`. -/
structure SessionOut where
  id : UUID
  contactId : UUID
  dealId : Option UUID
  state : SessionState
  fileCount : Int
  note : Option String
  createdAt : Timestamp
  submittedAt : Option Timestamp
  completedAt : Option Timestamp
  deriving DecidableEq, Repr

/-- The columns `_SESSION_COLS` of a row. -/
def Session.out (s : Session) : SessionOut :=
  ⟨s.id, s.contactId, s.dealId, s.state, s.fileCount, s.note, s.createdAt, s.submittedAt,
    s.completedAt⟩

/-- What a handler answers. A `RouteOut` has all the columns of its row. -/
inductive Response where
  | message (status : Nat) (m : MessageOut)
  | contact (c : ContactOut)
  | contacts (cs : List ContactOut)
  | route (status : Nat) (r : Route)
  | routes (rs : List Route)
  | session (s : SessionOut)
  | sessions (ss : List SessionOut)
  | noContent
  /-- An `HTTPException`. -/
  | error (status : Nat) (detail : Json)
  /-- Another exception. -/
  | raised
  deriving Repr

/-- `_not_found`. -/
def notFound (what : String) : Response := .error 404 (.str (what ++ "_NOT_FOUND"))

end WaService
