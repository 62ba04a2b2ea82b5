import WaService.Schema.Environment

/-!
# The shipped copy

The service words its messages from one YAML file for each locale. Of each file these are the
texts that the code reads; a text in block style ends with a newline.
-/

namespace WaService

/-- `en.yaml`. -/
def enCopy : List (String × String) :=
  [("deal_confirm_header", "Confirm Deal"),
    ("deal_confirm_body",
      "I found the following deal from your documents:\n  Booking: {booking_number}\n  Vehicle: {model}\n  Customer: {customer_name}\nIs this correct?\n"),
    ("deal_confirm_yes", "Yes, confirm"),
    ("deal_confirm_no", "No, re-submit"),
    ("gaps_header", "Submission Summary"),
    ("gaps_complete",
      "✅ All required documents received for booking {booking_number}.\nYour submission is complete.\n"),
    ("gaps_missing",
      "Documents received:\n{received_list}\n\nStill required:\n{missing_list}\n\nPlease send the missing documents when ready.\n")]

/-- `hi.yaml`. -/
def hiCopy : List (String × String) :=
  [("deal_confirm_header", "डील की पुष्टि करें"),
    ("deal_confirm_body",
      "आपके दस्तावेज़ों से यह डील मिली:\n  बुकिंग: {booking_number}\n  वाहन: {model}\n  ग्राहक: {customer_name}\nक्या यह सही है?\n"),
    ("deal_confirm_yes", "हाँ, पुष्टि करें"),
    ("deal_confirm_no", "नहीं, फिर से भेजें"),
    ("gaps_header", "सबमिशन सारांश"),
    ("gaps_complete",
      "✅ बुकिंग {booking_number} के लिए सभी ज़रूरी दस्तावेज़ मिल गए।\nआपका सबमिशन पूरा हो गया।\n"),
    ("gaps_missing",
      "प्राप्त दस्तावेज़:\n{received_list}\n\nअभी चाहिए:\n{missing_list}\n\nकृपया बाकी दस्तावेज़ जल्द भेजें।\n")]

/-- `pa.yaml`. -/
def paCopy : List (String × String) :=
  [("deal_confirm_header", "ਡੀਲ ਦੀ ਪੁਸ਼ਟੀ ਕਰੋ"),
    ("deal_confirm_body",
      "ਤੁਹਾਡੇ ਦਸਤਾਵੇਜ਼ਾਂ ਤੋਂ ਇਹ ਡੀਲ ਮਿਲੀ:\n  ਬੁਕਿੰਗ: {booking_number}\n  ਵਾਹਨ: {model}\n  ਗਾਹਕ: {customer_name}\nਕੀ ਇਹ ਸਹੀ ਹੈ?\n"),
    ("deal_confirm_yes", "ਹਾਂ, ਪੁਸ਼ਟੀ ਕਰੋ"),
    ("deal_confirm_no", "ਨਹੀਂ, ਦੁਬਾਰਾ ਭੇਜੋ"),
    ("gaps_header", "ਸਬਮਿਸ਼ਨ ਸਾਰਾਂਸ਼"),
    ("gaps_complete",
      "✅ ਬੁਕਿੰਗ {booking_number} ਲਈ ਸਾਰੇ ਜ਼ਰੂਰੀ ਦਸਤਾਵੇਜ਼ ਮਿਲ ਗਏ।\nਤੁਹਾਡਾ ਸਬਮਿਸ਼ਨ ਮੁਕੰਮਲ ਹੋ ਗਿਆ।\n"),
    ("gaps_missing",
      "ਪ੍ਰਾਪਤ ਦਸਤਾਵੇਜ਼:\n{received_list}\n\nਅਜੇ ਚਾਹੀਦੇ:\n{missing_list}\n\nਕਿਰਪਾ ਕਰਕੇ ਬਾਕੀ ਦਸਤਾਵੇਜ਼ ਜਲਦੀ ਭੇਜੋ।\n")]

/-- The files beside the loader, by the stem of their names. -/
def copyFiles : List (String × List (String × String)) :=
  [("en", enCopy), ("hi", hiCopy), ("pa", paCopy)]

/-- `load_copy`: the file of the locale, or else the English one. -/
def loadCopy (locale : String) : List (String × String) :=
  (copyFiles.lookup locale).getD enCopy

/-- The value of the column `locale`. -/
def Locale.name : Locale → String
  | .en => "en"
  | .hi => "hi"
  | .pa => "pa"

end WaService
