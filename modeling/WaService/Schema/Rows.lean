import Mathlib.Algebra.Group.Int.Defs
import Mathlib.Algebra.Group.Nat.Defs
import WaService.Core.Python
import WaService.Core.Table

/-!
# Rows of the `wa` and `doc` schemas

One structure per table of the migrations, with the columns that the service
reads or writes. Text columns under a `CHECK ... IN` constraint are enumerations,
so a value the constraint refuses cannot be written.
-/

namespace WaService

open Python

/-- A `uuid` value. -/
abbrev UUID := BitVec 128

/-- A `timestamptz` value, in microseconds. -/
abbrev Timestamp := Int

/-- `interval 'n seconds'`. -/
def seconds (n : Int) : Int := n * 1000000

/-- One lower-case hexadecimal digit. -/
def hexDigit (n : Nat) : Char := if n < 10 then Char.ofNat (48 + n) else Char.ofNat (87 + n)

/-- The 32 hexadecimal digits of a `uuid`. -/
def uuidHex (u : UUID) : List Char :=
  (List.range 32).map fun i => hexDigit (u.toNat / 16 ^ (31 - i) % 16)

/-- `str(u)`: the digits in groups of 8, 4, 4, 4 and 12. -/
def uuidStr (u : UUID) : String :=
  let h := uuidHex u
  String.ofList (h.take 8 ++ '-' :: (h.drop 8).take 4 ++ '-' :: (h.drop 12).take 4 ++
    '-' :: (h.drop 16).take 4 ++ '-' :: h.drop 20)

/-! ## Enumerated columns -/

/-- `wa.inbox.state`. -/
inductive InboxState where
  | pending | processing | done | failed | ignored
  deriving DecidableEq, Repr

/-- `wa.contact.status`. -/
inductive ContactStatus where
  | pending | active | suspended | revoked
  deriving DecidableEq, Repr

/-- `wa.contact.locale`. -/
inductive Locale where
  | en | hi | pa
  deriving DecidableEq, Repr

/-- `doc.deal.deal_type`. -/
inductive DealType where
  | retail | retailFinanced | retailExchange | corporate
  deriving DecidableEq, Repr

/-- `doc.deal.state`. -/
inductive DealState where
  | provisional | confirmed | delivered | closed | cancelled
  deriving DecidableEq, Repr

/-- `doc.review_task.state`. -/
inductive ReviewState where
  | open | resolved | dismissed
  deriving DecidableEq, Repr

/-- `doc.checklist_item.requirement`. -/
inductive Requirement where
  | blocking | optional
  deriving DecidableEq, Repr

/-- `wa.session.state`. -/
inductive SessionState where
  | collecting | confirmingDeal | processing | gapsPending | complete | parked | escalated
  | cancelled
  deriving DecidableEq, Repr

/-- The text stored for a session state. -/
def SessionState.text : SessionState → String
  | collecting => "collecting"
  | confirmingDeal => "confirming_deal"
  | processing => "processing"
  | gapsPending => "gaps_pending"
  | complete => "complete"
  | parked => "parked"
  | escalated => "escalated"
  | cancelled => "cancelled"

/-- `state IN ('collecting','confirming_deal','processing')`. -/
def SessionState.isOpen : SessionState → Bool
  | collecting | confirmingDeal | processing => true
  | _ => false

/-- `wa.file.kind`. -/
inductive FileKind where
  | document | image
  deriving DecidableEq, Repr

/-- `wa.file.fidelity`. -/
inductive Fidelity where
  | original | recompressed
  deriving DecidableEq, Repr

/-- `wa.file.state`. -/
inductive FileState where
  | pending | downloading | redacting | storing | stored | failed | skipped | quarantined
  deriving DecidableEq, Repr

/-- `wa.outbox.kind`. -/
inductive OutboxKind where
  | text | interactive | list | audio | template
  deriving DecidableEq, Repr

/-- `wa.outbox.state`. -/
inductive OutboxState where
  | pending | sent | failed | skippedWindow
  deriving DecidableEq, Repr

/-- `wa.api_message.kind`. -/
inductive MessageKind where
  | text | template | buttons
  deriving DecidableEq, Repr

/-- `wa.api_message.state`. -/
inductive MessageState where
  | pending | sent | failed
  deriving DecidableEq, Repr

/-! ## Rows -/

/-- `wa.route`: a registered WhatsApp Business number of a tenant. -/
structure Route where
  id : UUID
  tenantId : UUID
  phoneNumberId : String
  displayNumber : String
  active : Bool
  intakeJourneyId : Option UUID
  createdAt : Timestamp
  deriving DecidableEq, Repr

/-- `wa.inbox`: a raw inbound webhook payload. -/
structure Inbox where
  id : Nat
  wamid : Option String
  phoneNumberId : Option String
  payload : Json
  signatureOk : Bool
  state : InboxState
  deriving Repr

/-- `wa.contact`: the binding of a phone number to a user. -/
structure Contact where
  id : UUID
  phoneE164 : String
  userId : UUID
  tenantId : UUID
  orgUnitId : Option UUID
  status : ContactStatus
  locale : Locale
  verifiedAt : Option Timestamp
  lastSeenAt : Option Timestamp
  createdAt : Timestamp
  deriving DecidableEq, Repr

/-- `doc.deal`: a vehicle deal. -/
structure Deal where
  id : UUID
  tenantId : UUID
  orgUnitId : Option UUID
  bookingNumber : String
  customerName : Option String
  customerMobile : Option String
  model : Option String
  variant : Option String
  /-- A `date`, in days. -/
  bookingDate : Option Int
  dealType : DealType
  isFinanced : Bool
  hasExchange : Bool
  isCorporate : Bool
  state : DealState
  createdFrom : String
  createdBy : Option UUID
  confirmedBy : Option UUID
  confirmedAt : Option Timestamp
  updatedAt : Timestamp
  deriving DecidableEq, Repr

/-- `doc.review_task`: an ambiguous deal that needs manual resolution. -/
structure ReviewTask where
  id : UUID
  tenantId : UUID
  dealId : Option UUID
  reason : String
  detail : Option String
  state : ReviewState
  deriving DecidableEq, Repr

/-- `doc.checklist_item`: one document requirement of a deal. -/
structure ChecklistItem where
  id : UUID
  dealId : UUID
  typeKey : String
  requirement : Requirement
  satisfied : Bool
  documentId : Option UUID
  updatedAt : Timestamp
  deriving DecidableEq, Repr

/-- `wa.session`: the bundle of files a contact is sending. -/
structure Session where
  id : UUID
  tenantId : UUID
  contactId : UUID
  dealId : Option UUID
  orgUnitId : Option UUID
  state : SessionState
  note : Option String
  flushAt : Option Timestamp
  expiresAt : Option Timestamp
  fileCount : Int
  bytesTotal : Int
  createdAt : Timestamp
  submittedAt : Option Timestamp
  completedAt : Option Timestamp
  deriving DecidableEq, Repr

/-- `wa.file`: one inbound media message. -/
structure File where
  id : UUID
  tenantId : UUID
  sessionId : UUID
  wamid : String
  mediaId : String
  receivedSeq : Int
  waTimestamp : Timestamp
  kind : FileKind
  fidelity : Fidelity
  declaredMime : Option String
  declaredName : Option String
  caption : Option String
  metaSha256 : Option String
  localSha256 : Option String
  byteSize : Option Int
  state : FileState
  attempts : Nat
  errorCode : Option String
  storageUri : Option String
  mediaExpiresAt : Option Timestamp
  storedAt : Option Timestamp
  diDocumentId : Option UUID
  documentTypeKey : Option String
  diFacts : Option Json
  deriving Repr

/-- `wa.outbox`: a queued outbound message. -/
structure Outbox where
  id : Nat
  tenantId : UUID
  contactId : UUID
  sessionId : Option UUID
  kind : OutboxKind
  payload : Json
  state : OutboxState
  attempts : Nat
  sendAfter : Timestamp
  sentAt : Option Timestamp
  wamid : Option String
  lastError : Option String
  deriving Repr

/-- `wa.api_message`: audit and idempotency record of a message sent through the API. -/
structure ApiMessage where
  id : UUID
  tenantId : UUID
  routeId : UUID
  toE164 : String
  kind : MessageKind
  payload : Json
  state : MessageState
  wamid : Option String
  errorCode : Option String
  errorMessage : Option String
  retryable : Option Bool
  idempotencyKey : Option String
  requestedBy : String
  createdAt : Timestamp
  sentAt : Option Timestamp
  deriving Repr

/-- `doc.type`: key, display name and sort position of every document type. -/
def documentTypes : List (String × String × Nat) :=
  [("BOOKING_FORM", "Booking Form", 1), ("PAN", "PAN Card", 2), ("AADHAAR", "Aadhaar Card", 3),
    ("TAX_INVOICE_VEHICLE", "Tax Invoice (Vehicle)", 4), ("DELIVERY_NOTE", "Delivery Note", 5),
    ("FORM_21", "Form 21", 6), ("FORM_22", "Form 22", 7),
    ("INSURANCE_POLICY", "Insurance Policy", 8), ("RC_BOOK", "RC Book", 9),
    ("LOAN_SANCTION_LETTER", "Loan Sanction Letter", 10),
    ("BANK_STATEMENT_3M", "3-Month Bank Statement", 11),
    ("TRADE_IN_EVALUATION", "Trade-in Evaluation", 12),
    ("RC_BOOK_TRADEIN", "RC Book (Trade-in)", 13), ("COMPANY_PAN", "Company PAN", 14),
    ("GST_REGISTRATION", "GST Registration", 15)]

end WaService
