import WaService.Wa.Router

/-!
# Webhook bodies in Meta's format

A body lists entries, an entry lists changes, and the value of a change names the
business number, the senders and the messages. Every extractor reads the first
change of the first entry, whatever follows it.
-/

namespace WaService

open Python

/-- A message of a sender with one media object. -/
def mediaMessage (wamid sender type mediaId : String) : Json :=
  .obj [("id", .str wamid), ("from", .str sender), ("type", .str type),
    ("timestamp", .str "1700000000"), (type, .obj [("id", .str mediaId)])]

/-- The value of a change: the business number, the senders and the messages. -/
def changeValue (phoneNumberId : String) (waIds : List String) (messages : List Json) : Json :=
  .obj [("metadata", .obj [("phone_number_id", .str phoneNumberId)]),
    ("contacts", .arr (waIds.map fun waId => .obj [("wa_id", .str waId)])),
    ("messages", .arr messages)]

/-- An entry with the given values of its changes. -/
def entryOf (values : List Json) : Json :=
  .obj [("changes", .arr (values.map fun value => .obj [("value", value)]))]

/-- A body with the given entries. -/
def webhookBody (entries : List Json) : Json := .obj [("entry", .arr entries)]

/-! ## A consultant bound to a business number -/

/-- A photo of the consultant. -/
def consultantPhoto (wamid : String) : Json := mediaMessage wamid "919876543210" "image" "media"

/-- A change with photos of the consultant. -/
def photoChange (wamids : List String) : Json :=
  changeValue "PN1" ["919876543210"] (wamids.map consultantPhoto)

/-- An active route and an active contact. -/
def boundDb : Db :=
  { Db.empty with
    routes := .singleton ⟨1, 2, "PN1", "+91 99999 00000", true, some 9, 0⟩
    contacts := .singleton ⟨5, "+919876543210", 6, 2, some 3, .active, .en, none, none, 0⟩ }

end WaService
