import WaService.Correctness.BlankDeals
import WaService.Correctness.DrainBatches
import WaService.Correctness.GapMessages
import WaService.Wa.Copy

/-!
# What the shipped copy says

The copy is text from files, with placeholders that `str.format` replaces: a placeholder that the
code has no value for, or a brace too many, is an exception of the session task, and a message with
the wrong fields is one of the drain. With the shipped copy there is neither. Every message of the
outbox says one of three things in a locale of the copy, to the contact of its session, and a drain
posts it.
-/

namespace WaService

open Python Relational Transition

/-! ## A copy -/

/-- A copy with the documented placeholders in its gap texts and in its question. -/
structure ReplyCopy extends GapCopy where
  question : Template
  question_source : entries.lookup "deal_confirm_body" = some question.source
  question_fields : ∀ name ∈ question.fields,
    name = "booking_number" ∨ name = "model" ∨ name = "customer_name"
  /-- The header of the question is shown. -/
  headed : copyText entries "deal_confirm_header" "Confirm Deal" ≠ ""

namespace ReplyCopy

variable (copy : ReplyCopy)

/-- The question whether the deal is right. -/
def ask (bookingNumber model customerName : String) : String :=
  copy.question.fill [("booking_number", bookingNumber), ("model", model),
    ("customer_name", customerName)]

theorem format_question (bookingNumber model customerName : String) :
    format (copyText copy.entries "deal_confirm_body" "") [("booking_number", bookingNumber),
      ("model", model), ("customer_name", customerName)] =
      .ok (copy.ask bookingNumber model customerName) := by
  unfold copyText
  rw [copy.question_source, Option.getD_some]
  apply format_source
  · intro name h
    rcases copy.question_fields name h with rfl | rfl | rfl
    · decide
    · decide
    · decide
  · intro name h
    rcases copy.question_fields name h with rfl | rfl | rfl
    · rfl
    · rfl
    · rfl

end ReplyCopy

set_option maxRecDepth 2000 in
/-- The templates of the English copy. -/
def enReplies : ReplyCopy where
  entries := enCopy
  complete := englishGaps.complete
  missing := englishGaps.missing
  question := ⟨[.text "I found the following deal from your documents:\n  Booking: ",
    .field "booking_number", .text "\n  Vehicle: ", .field "model", .text "\n  Customer: ",
    .field "customer_name", .text "\nIs this correct?\n"]⟩
  complete_source := copyText_source _ (.text _ (by decide) (.field _ (.text _ (by decide)
    .nil))) rfl
  missing_source := lookup_source (.text _ (by decide) (.field _ (.text _ (by decide)
    (.field _ (.text _ (by decide) .nil))))) rfl
  question_source := lookup_source (.text _ (by decide) (.field _ (.text _ (by decide)
    (.field _ (.text _ (by decide) (.field _ (.text _ (by decide) .nil))))))) rfl
  complete_fields := englishGaps.complete_fields
  missing_fields := englishGaps.missing_fields
  question_fields name h := by simpa [Template.fields, Piece.name?, eq_comm] using h
  received_list := englishGaps.received_list
  missing_list := englishGaps.missing_list
  headed := by simp [copyText, enCopy]

set_option maxRecDepth 2000 in
/-- The templates of the Hindi copy. -/
def hiReplies : ReplyCopy where
  entries := hiCopy
  complete := ⟨[.text "✅ बुकिंग ", .field "booking_number",
    .text " के लिए सभी ज़रूरी दस्तावेज़ मिल गए।\nआपका सबमिशन पूरा हो गया।\n"]⟩
  missing := ⟨[.text "प्राप्त दस्तावेज़:\n", .field "received_list", .text "\n\nअभी चाहिए:\n",
    .field "missing_list", .text "\n\nकृपया बाकी दस्तावेज़ जल्द भेजें।\n"]⟩
  question := ⟨[.text "आपके दस्तावेज़ों से यह डील मिली:\n  बुकिंग: ", .field "booking_number",
    .text "\n  वाहन: ", .field "model", .text "\n  ग्राहक: ", .field "customer_name",
    .text "\nक्या यह सही है?\n"]⟩
  complete_source := copyText_source _ (.text _ (by decide) (.field _ (.text _ (by decide)
    .nil))) rfl
  missing_source := lookup_source (.text _ (by decide) (.field _ (.text _ (by decide)
    (.field _ (.text _ (by decide) .nil))))) rfl
  question_source := lookup_source (.text _ (by decide) (.field _ (.text _ (by decide)
    (.field _ (.text _ (by decide) (.field _ (.text _ (by decide) .nil))))))) rfl
  complete_fields := by simp [Template.fields, Piece.name?]
  missing_fields name h := by simpa [Template.fields, Piece.name?, eq_comm] using h
  question_fields name h := by simpa [Template.fields, Piece.name?, eq_comm] using h
  received_list := by simp [Template.fields, Piece.name?]
  missing_list := by simp [Template.fields, Piece.name?]
  headed := by simp [copyText, hiCopy]

set_option maxRecDepth 2000 in
/-- The templates of the Punjabi copy. -/
def paReplies : ReplyCopy where
  entries := paCopy
  complete := ⟨[.text "✅ ਬੁਕਿੰਗ ", .field "booking_number",
    .text " ਲਈ ਸਾਰੇ ਜ਼ਰੂਰੀ ਦਸਤਾਵੇਜ਼ ਮਿਲ ਗਏ।\nਤੁਹਾਡਾ ਸਬਮਿਸ਼ਨ ਮੁਕੰਮਲ ਹੋ ਗਿਆ।\n"]⟩
  missing := ⟨[.text "ਪ੍ਰਾਪਤ ਦਸਤਾਵੇਜ਼:\n", .field "received_list", .text "\n\nਅਜੇ ਚਾਹੀਦੇ:\n",
    .field "missing_list", .text "\n\nਕਿਰਪਾ ਕਰਕੇ ਬਾਕੀ ਦਸਤਾਵੇਜ਼ ਜਲਦੀ ਭੇਜੋ।\n"]⟩
  question := ⟨[.text "ਤੁਹਾਡੇ ਦਸਤਾਵੇਜ਼ਾਂ ਤੋਂ ਇਹ ਡੀਲ ਮਿਲੀ:\n  ਬੁਕਿੰਗ: ", .field "booking_number",
    .text "\n  ਵਾਹਨ: ", .field "model", .text "\n  ਗਾਹਕ: ", .field "customer_name",
    .text "\nਕੀ ਇਹ ਸਹੀ ਹੈ?\n"]⟩
  complete_source := copyText_source _ (.text _ (by decide) (.field _ (.text _ (by decide)
    .nil))) rfl
  missing_source := lookup_source (.text _ (by decide) (.field _ (.text _ (by decide)
    (.field _ (.text _ (by decide) .nil))))) rfl
  question_source := lookup_source (.text _ (by decide) (.field _ (.text _ (by decide)
    (.field _ (.text _ (by decide) (.field _ (.text _ (by decide) .nil))))))) rfl
  complete_fields := by simp [Template.fields, Piece.name?]
  missing_fields name h := by simpa [Template.fields, Piece.name?, eq_comm] using h
  question_fields name h := by simpa [Template.fields, Piece.name?, eq_comm] using h
  received_list := by simp [Template.fields, Piece.name?]
  missing_list := by simp [Template.fields, Piece.name?]
  headed := by simp [copyText, paCopy]

/-- The templates of the shipped copy. -/
def shipped : Locale → ReplyCopy
  | .en => enReplies
  | .hi => hiReplies
  | .pa => paReplies

theorem shipped_entries (locale : Locale) : (shipped locale).entries = loadCopy locale.name := by
  cases locale with
  | en => rfl
  | hi => rfl
  | pa => rfl

/-! ## What is said -/

/-- What a message of a session says. -/
inductive Words where
  /-- Whether the deal of the session is right. -/
  | question
  /-- All that the deal with the number requires has been received. -/
  | completion (bookingNumber : String)
  /-- What has been received, and what is missing. -/
  | summary (received missing : List String)

namespace Words

variable (copy : ReplyCopy) (sessionId : UUID)

/-- The body of the message. -/
def text : Words → String
  | question => copy.ask (fallbackNumber sessionId) "(pending)" "(pending)"
  | completion bookingNumber => copy.completion bookingNumber
  | summary received missing => copy.summary received missing

/-- The answers that the question offers, as the payload lists them. -/
def buttons : List (String × String) :=
  [("confirm_" ++ uuidStr sessionId, copyText copy.entries "deal_confirm_yes" "Confirm"),
    ("resubmit_" ++ uuidStr sessionId, copyText copy.entries "deal_confirm_no" "Re-submit")]

/-- A button, by its id and its title. -/
def choice (b : String × String) : Json := .obj [("id", .str b.1), ("title", .str b.2)]

/-- The arguments of the send method. -/
def content : Words → SendContent
  | question => .interactiveButtons (.str (copyText copy.entries "deal_confirm_header"
      "Confirm Deal")) (.str (question.text copy sessionId)) .null
      (.arr ((buttons copy sessionId).map choice))
  | words => .text (.str (words.text copy sessionId))

/-- What Meta is asked to deliver to a phone. -/
def posted (phone : String) : Words → Json
  | question => messageBody phone "interactive" (.obj [("type", .str "button"),
      ("body", .obj [("text", .str (question.text copy sessionId))]),
      ("action", .obj [("buttons", .arr ((buttons copy sessionId).map fun b =>
        .obj [("type", .str "reply"), ("reply", choice b)]))]),
      ("header", .obj [("type", .str "text"),
        ("text", .str (copyText copy.entries "deal_confirm_header" "Confirm Deal"))])])
  | words => messageBody phone "text"
      (.obj [("preview_url", .bool false), ("body", .str (words.text copy sessionId))])

end Words

/-! ## The messages of the outbox -/

/-- The copy of the environment is the shipped one. -/
def ShipsCopy (env : Env) : Prop := ∀ locale : Locale, env.copy locale = loadCopy locale.name

variable {env : Env} {a : Action} {db db' : Db}

/-- The session task never fails on the wording of its question. -/
theorem ReplyCopy.confirmPayload_eq (copy : ReplyCopy) (sessionId : UUID) {deal : DealCreated}
    (hnumber : deal.bookingNumber = fallbackNumber sessionId) (hmodel : deal.model = none)
    (hcustomer : deal.customerName = some "(pending)") :
    confirmPayload copy.entries sessionId deal = .ok [("type", .str "buttons"),
      ("header", .str (copyText copy.entries "deal_confirm_header" "Confirm Deal")),
      ("body", .str (Words.question.text copy sessionId)),
      ("buttons", .arr ((Words.buttons copy sessionId).map Words.choice))] := by
  unfold confirmPayload
  simp only [hnumber, hmodel, hcustomer, Option.getD_some, copy.format_question]
  rfl

/-- What a session task sends says something in the shipped copy. -/
theorem SessionReply.content (hcopy : ShipsCopy env) {sessionId : UUID} {kind : OutboxKind}
    {payload : List (String × Json)} (h : SessionReply env sessionId kind payload) :
    ∃ locale words, outboxContent kind (.obj payload) =
      .ok (some (Words.content (shipped locale) sessionId words)) := by
  cases h with
  | @confirm locale deal payload hnumber hmodel hcustomer h =>
    rw [hcopy locale, ← shipped_entries,
      (shipped locale).confirmPayload_eq sessionId hnumber hmodel hcustomer] at h
    cases h
    exact ⟨locale, .question, rfl⟩
  | @gap locale checklist header body h =>
    rw [hcopy locale, ← shipped_entries, (shipped locale).formatGapMessage_eq] at h
    cases h
    refine ⟨locale, if checklist.isComplete then .completion checklist.bookingNumber
      else .summary checklist.received checklist.blockingMissing, ?_⟩
    split
    · rfl
    · rfl

end WaService
