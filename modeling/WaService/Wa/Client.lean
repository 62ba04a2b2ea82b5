import WaService.Core.Subscripts
import WaService.Schema.Environment

/-!
# Sends through Meta

The arguments of the three send methods that the service calls, the bodies that they
post, and the ways such a call ends. A wamid or an error text comes out of a decoded
response, so neither need be a string.
-/

namespace WaService

open Python

/-- What is sent, one constructor per send method. -/
inductive SendContent where
  | text (body : Json)
  | interactiveButtons (header body footer buttons : Json)
  | template (name language components : Json)
  deriving Repr

/-- The arguments of one send. -/
structure SendRequest where
  phoneNumberId : String
  toE164 : String
  content : SendContent
  deriving Repr

/-- How a send ends: a `SendResult`, a `WaApiError`, another exception. -/
inductive SendOutcome where
  | ok (wamid : Json)
  | failed (code : String) (message : Json) (retryable : Bool)
  | raised
  deriving Repr

/-- Meta accepts what it answers with a wamid and does not accept what a `WaApiError`
reports; another exception leaves both possible. -/
def SendOutcome.allows : SendOutcome → Bool → Bool
  | .ok _, accepted => accepted
  | .failed _ _ _, accepted => !accepted
  | .raised, _ => true

/-! ## The bodies that are posted -/

/-- One quick-reply button. -/
def replyButton (b : Json) : Except Error Json := do
  let id ← b.getItem "id"
  let title ← b.getItem "title"
  return .obj [("type", .str "reply"), ("reply", .obj [("id", id), ("title", title)])]

/-- The interactive object of at most three buttons; an empty header or footer is left out. -/
def interactiveButtons (header body footer buttons : Json) : Except Error Json := do
  let count ← buttons.len
  if 3 < count then throw .valueError
  else
    let items ← buttons.iter
    let replies ← items.mapM replyButton
    let headerField := ("header", .obj [("type", .str "text"), ("text", header)])
    let footerField := ("footer", .obj [("text", footer)])
    return .obj ([("type", .str "button"), ("body", .obj [("text", body)]),
        ("action", .obj [("buttons", .arr replies)])] ++
      (if header.truthy then [headerField] else []) ++ if footer.truthy then [footerField] else [])

/-- A message to one recipient. -/
def messageBody (toE164 type : String) (content : Json) : Json :=
  .obj [("messaging_product", .str "whatsapp"), ("recipient_type", .str "individual"),
    ("to", .str toE164), ("type", .str type), (type, content)]

/-- The body that the send method posts. -/
def SendRequest.payload (r : SendRequest) : Except Error Json :=
  match r.content with
  | .text body =>
    .ok (messageBody r.toE164 "text" (.obj [("preview_url", .bool false), ("body", body)]))
  | .interactiveButtons header body footer buttons =>
    (interactiveButtons header body footer buttons).map (messageBody r.toE164 "interactive")
  | .template name language components =>
    .ok (messageBody r.toE164 "template" (.obj [("name", name),
      ("language", .obj [("code", language)]),
      ("components", if components.truthy then components else .arr [])]))

/-! ## The answer of Meta -/

/-- What comes back of a `POST`: an `httpx.HTTPError` with its text, or a status code with
`resp.text` and `resp.json()`, which for a body that is not JSON is the text of its `ValueError`. A
URL that `httpx` refuses is not requested. -/
inductive MetaAnswer where
  | networkError (text : String)
  | invalidUrl
  | response (status : Nat) (text : String) (body : Except String Json)

/-- `["messages"][0]["id"]`. -/
def wamidPath : List Subscript := [.key "messages", .first, .key "id"]

/-- `str(j)`; how a value that is not text is rendered is a parameter. -/
def strOf (render : Json → String) : Json → String
  | .str s => s
  | j => render j

/-- The code and the message of a status that is no success. -/
def errorFields (render : Json → String) (text : String) (body : Except String Json) :
    String × Json :=
  let given : Except Error (String × Json) := do
    let j ← body.mapError fun _ => .valueError
    let err ← j.get "error" (.obj [])
    let code ← err.get "code" (.str "HTTP_ERROR")
    let message ← err.get "message" (.str text)
    return (strOf render code, message)
  match given with
  | .ok fields => fields
  | .error _ => ("HTTP_ERROR", .str text)

/-- `WaClient._post`, from the answer to the request that it makes. -/
def post (render : Json → String) : MetaAnswer → SendOutcome
  | .networkError text => .failed "NETWORK_ERROR" (.str text) true
  | .invalidUrl => .raised
  | .response status text body =>
    if status = 200 then
      match body with
      | .error reason => .failed "CONTRACT_ERROR" (.str reason) false
      | .ok j =>
        match j.follow wamidPath with
        | .ok wamid => .ok wamid
        | .error .keyError | .error .indexError | .error .valueError =>
          .failed "CONTRACT_ERROR" (.str (j.failureText wamidPath)) false
        | .error _ => .raised
    else
      let (code, message) := errorFields render text body
      .failed code message (decide (500 ≤ status) || status == 429)

/-- A send method: the body is built and posted. `answer` is what Meta answers to a body posted
from a number. -/
def sendVia (render : Json → String) (answer : String → Json → MetaAnswer) (r : SendRequest) :
    SendOutcome :=
  match r.payload with
  | .error _ => .raised
  | .ok payload => post render (answer r.phoneNumberId payload)

/-! ## Storing an outcome -/

/-- `message[:500]`. -/
def slice500 : Json → Except Error Json
  | .str s => .ok (.str (String.ofList (s.toList.take 500)))
  | .arr items => .ok (.arr (items.take 500))
  | _ => .error .typeError

end WaService
