import WaService.Media.DiPoll
import WaService.Worker.File

/-!
# Fetching media from Meta

`fetch_media` resolves the URL of a media object and streams it, hashing each chunk as it comes.
An expired URL is resolved a second time. A call is described by the answers that Meta gives to its
requests; what it leaves behind are the requests that it made and how it ended.
-/

namespace WaService

open Python

/-! ## Hashing -/

/-- `hashlib.sha256`: hashing chunk by chunk is hashing what the chunks make up. -/
structure Hasher where
  State : Type
  init : State
  update : State → List UInt8 → State
  digest : State → List UInt8
  sha256 : List UInt8 → List UInt8
  digest_foldl : ∀ chunks : List (List UInt8),
    digest (chunks.foldl update init) = sha256 chunks.flatten

/-- `hasher.hexdigest()` of a digest. -/
def hexdigest (digest : List UInt8) : String :=
  String.ofList (digest.flatMap fun b => [hexDigit (b.toNat / 16), hexDigit (b.toNat % 16)])

/-- The hash of a byte string, as the service stores it. -/
def Hasher.hex (H : Hasher) (content : List UInt8) : String := hexdigest (H.sha256 content)

/-- `s.lower()`, compared with a hexadecimal digest only: no character outside ASCII lowers to a
hexadecimal digit. -/
def lower (s : String) : String := String.ofList (s.toList.map Char.toLower)

/-- `declared_sha256 and declared_sha256.lower() != computed` does not hold. -/
def hashAgrees (declared : Option String) (computed : String) : Bool :=
  match declared with
  | none => true
  | some s => s == "" || lower s == computed

theorem hashAgrees_some {declared computed : String} (hne : declared ≠ "")
    (h : hashAgrees (some declared) computed = true) : computed = lower declared := by
  simp only [hashAgrees, Bool.or_eq_true, beq_iff_eq] at h
  exact (h.resolve_left hne).symm

/-! ## Requests -/

/-- What comes back of a download: an `httpx.HTTPError` before the status, or a status with the
chunks that arrive until the stream ends or breaks. A URL that `httpx` refuses is not requested. -/
inductive DownloadAnswer where
  | networkError
  | invalidUrl
  | response (status : Nat) (contentType : Option String) (chunks : List (List UInt8))
      (broken : Bool)
  deriving Repr

/-- A `MediaFetchError`, or another exception. -/
inductive FetchFailure where
  | error (code : String) (retryable quarantine : Bool)
  | raised
  deriving DecidableEq, Repr

/-- `_resolve_media_url`. No clause catches an `httpx.HTTPError` or a body that is not JSON. -/
def resolveMediaUrl : HttpAnswer → Except FetchFailure Json
  | .networkError => .error .raised
  | .response status body =>
    if status = 404 then .error (.error "MEDIA_NOT_FOUND" false false)
    else if status = 200 then
      match decodedBody body >>= fun j => j.get "url" .null with
      | .error _ => .error .raised
      | .ok url => if url.truthy then .ok url else .error (.error "MEDIA_URL_MISSING" true false)
    else .error (.error ("MEDIA_URL_HTTP_" ++ toString status) true false)

/-- The variables of the loop over the chunks. -/
structure StreamState (H : Hasher) where
  hasher : H.State
  buf : List UInt8

/-- One chunk: `hasher.update(chunk)` and `buf.write(chunk)`. -/
def StreamState.absorb {H : Hasher} (s : StreamState H) (chunk : List UInt8) : StreamState H :=
  ⟨H.update s.hasher chunk, s.buf ++ chunk⟩

/-- The loop over the chunks. -/
def streamChunks (H : Hasher) (chunks : List (List UInt8)) : StreamState H :=
  chunks.foldl StreamState.absorb ⟨H.init, []⟩

/-- The loop buffers what it hashes. -/
theorem foldl_absorb {H : Hasher} (chunks : List (List UInt8)) (s : StreamState H) :
    chunks.foldl StreamState.absorb s =
      ⟨chunks.foldl H.update s.hasher, s.buf ++ chunks.flatten⟩ := by
  induction chunks generalizing s with
  | nil => simp
  | cons chunk rest ih =>
    rw [List.foldl_cons, ih]
    simp only [StreamState.absorb, List.foldl_cons, List.flatten_cons, List.append_assoc]

theorem streamChunks_buf (H : Hasher) (chunks : List (List UInt8)) :
    (streamChunks H chunks).buf = chunks.flatten := by
  simp only [streamChunks, foldl_absorb, List.nil_append]

/-- The digest of the loop is the hash of the buffer, however the bytes are cut into chunks. -/
theorem streamChunks_digest (H : Hasher) (chunks : List (List UInt8)) :
    H.digest (streamChunks H chunks).hasher = H.sha256 (streamChunks H chunks).buf := by
  rw [streamChunks_buf]
  simp only [streamChunks, foldl_absorb]
  exact H.digest_foldl chunks

/-- `_stream_download`; a URL that is not text is a `TypeError`. -/
def streamDownload (H : Hasher) (declared : Option String) (url : Json) (answer : DownloadAnswer) :
    Except FetchFailure FetchResult :=
  match url, answer with
  | .str _, .networkError => .error (.error "MEDIA_NETWORK_ERROR" true false)
  | .str _, .response status contentType chunks broken =>
    if status = 404 then .error (.error "MEDIA_URL_EXPIRED" false false)
    else if status = 200 then
      if broken then .error (.error "MEDIA_NETWORK_ERROR" true false)
      else
        let s := streamChunks H chunks
        let computed := hexdigest (H.digest s.hasher)
        if hashAgrees declared computed then
          .ok ⟨s.buf, computed, s.buf.length, contentType.getD "application/octet-stream"⟩
        else .error (.error "MEDIA_HASH_MISMATCH" false true)
    else .error (.error ("MEDIA_DL_HTTP_" ++ toString status) (decide (500 ≤ status)) false)
  | _, _ => .error .raised

/-- What is fetched is hashed as a whole, and the hash agrees with a declared one. -/
theorem streamDownload_ok {H : Hasher} {declared : Option String} {url : Json}
    {answer : DownloadAnswer} {result : FetchResult}
    (h : streamDownload H declared url answer = .ok result) :
    result.sha256 = H.hex result.content ∧ result.byteSize = result.content.length ∧
      hashAgrees declared result.sha256 = true := by
  unfold streamDownload at h
  split at h
  · cases h
  · rename_i status contentType chunks broken
    split at h
    · cases h
    · split at h
      · split at h
        · cases h
        · simp only at h
          split at h
          · rename_i hagrees
            cases h
            refine ⟨?_, rfl, hagrees⟩
            rw [streamChunks_digest]
            rfl
          · cases h
      · cases h
  · cases h

/-! ## The call -/

/-- A request to Meta, with its answer. -/
inductive MediaRequest where
  | resolution (answer : HttpAnswer)
  | download (answer : DownloadAnswer)
  deriving Repr

/-- The request gave no URL, or not the whole object. -/
def MediaRequest.failed : MediaRequest → Bool
  | .resolution answer =>
    match resolveMediaUrl answer with
    | .ok _ => false
    | .error _ => true
  | .download (.response status _ _ broken) => status != 200 || broken
  | .download _ => true

/-- The answers that Meta gives to one call, the second pair after an expired URL. -/
structure MetaAnswers where
  resolution : HttpAnswer
  download : DownloadAnswer
  secondResolution : HttpAnswer
  secondDownload : DownloadAnswer
  deriving Repr

/-- `_BACKOFF_BEFORE_META_LIMIT`. -/
def backoffBeforeMetaLimit : Nat := 4

/-- The requests that a call made, and how it ended. -/
structure MediaCall where
  requests : List MediaRequest
  outcome : FetchOutcome
  deriving Repr

/-- How a call ends with a result or a failure. -/
def outcomeOf : Except FetchFailure FetchResult → FetchOutcome
  | .ok result => .ok result
  | .error (.error code retryable quarantine) => .failed code retryable quarantine
  | .error .raised => .raised

/-- The request of a download, unless the URL is refused. -/
def downloadRequests : Json → DownloadAnswer → List MediaRequest
  | .str _, .invalidUrl => []
  | .str _, answer => [.download answer]
  | _, _ => []

/-- Resolve the URL and download once. -/
def fetchOnce (H : Hasher) (declared : Option String) (resolution : HttpAnswer)
    (download : DownloadAnswer) : List MediaRequest × Except FetchFailure FetchResult :=
  match resolveMediaUrl resolution with
  | .error e => ([.resolution resolution], .error e)
  | .ok url => (.resolution resolution :: downloadRequests url download,
      streamDownload H declared url download)

/-- The failure that has the URL resolved again; a resolution never fails with its code. -/
def urlExpired : Except FetchFailure FetchResult → Bool
  | .error (.error code _ _) => code == "MEDIA_URL_EXPIRED"
  | _ => false

/-- `fetch_media`. -/
def fetchMedia (H : Hasher) (answers : MetaAnswers) (req : FetchRequest) : MediaCall :=
  if backoffBeforeMetaLimit ≤ req.attempt then ⟨[], .failed "MEDIA_ATTEMPT_LIMIT" false false⟩
  else
    let first := fetchOnce H req.declaredSha256 answers.resolution answers.download
    if urlExpired first.2 && decide (req.attempt < 3) then
      let second := fetchOnce H req.declaredSha256 answers.secondResolution answers.secondDownload
      ⟨first.1 ++ second.1, outcomeOf second.2⟩
    else ⟨first.1, outcomeOf first.2⟩

theorem fetchOnce_ok {H : Hasher} {declared : Option String} {resolution : HttpAnswer}
    {download : DownloadAnswer} {result : FetchResult}
    (h : outcomeOf (fetchOnce H declared resolution download).2 = .ok result) :
    result.sha256 = H.hex result.content ∧ result.byteSize = result.content.length ∧
      hashAgrees declared result.sha256 = true := by
  unfold fetchOnce at h
  split at h
  · rename_i e _
    cases e with
    | error code retryable quarantine => cases h
    | raised => cases h
  · rename_i url _
    cases hstream : streamDownload H declared url download with
    | error e =>
      simp only [hstream] at h
      cases e with
      | error code retryable quarantine => cases h
      | raised => cases h
    | ok found =>
      simp only [hstream] at h
      cases h
      exact streamDownload_ok hstream

/-- What a call returns is hashed as a whole, on either path, and agrees with a declared hash. -/
theorem fetchMedia_ok {H : Hasher} {answers : MetaAnswers} {req : FetchRequest}
    {result : FetchResult} (h : (fetchMedia H answers req).outcome = .ok result) :
    result.sha256 = H.hex result.content ∧ result.byteSize = result.content.length ∧
      hashAgrees req.declaredSha256 result.sha256 = true := by
  unfold fetchMedia at h
  split at h
  · cases h
  · simp only at h
    split at h
    · exact fetchOnce_ok h
    · exact fetchOnce_ok h

/-! ## When a call fails -/

/-- The status is not 200, or the body is an object without a URL. -/
def RefusesUrl : HttpAnswer → Prop
  | .networkError => False
  | .response status body => status ≠ 200 ∨
      ∃ fields, body = some (.obj fields) ∧ ((fields.lookup "url").getD .null).truthy = false

/-- The body is an object with a URL that is text. -/
def GivesUrl : HttpAnswer → Prop
  | .networkError => False
  | .response status body => status = 200 ∧
      ∃ fields url, body = some (.obj fields) ∧ fields.lookup "url" = some (.str url) ∧ url ≠ ""

/-- The network fails, the status is not 200, or the content has not the declared hash. -/
def RefusesContent (H : Hasher) (declared : Option String) : DownloadAnswer → Prop
  | .networkError => True
  | .invalidUrl => False
  | .response status _ chunks broken =>
    status ≠ 200 ∨ broken = true ∨ hashAgrees declared (H.hex chunks.flatten) = false

/-- One resolution and one download end with a `MediaFetchError`. -/
def FetchRefused (H : Hasher) (declared : Option String) (resolution : HttpAnswer)
    (download : DownloadAnswer) : Prop :=
  RefusesUrl resolution ∨ GivesUrl resolution ∧ RefusesContent H declared download

/-- The URL has expired when it is used. -/
def Expires (resolution : HttpAnswer) (download : DownloadAnswer) : Prop :=
  GivesUrl resolution ∧ ∃ contentType chunks broken,
    download = .response 404 contentType chunks broken

/-- The attempts are used up, or the answers that count are refusals. -/
def MediaRefused (H : Hasher) (answers : MetaAnswers) (req : FetchRequest) : Prop :=
  backoffBeforeMetaLimit ≤ req.attempt ∨
    (Expires answers.resolution answers.download ∧ req.attempt < 3 ∧
      FetchRefused H req.declaredSha256 answers.secondResolution answers.secondDownload) ∨
    (¬ (Expires answers.resolution answers.download ∧ req.attempt < 3) ∧
      FetchRefused H req.declaredSha256 answers.resolution answers.download)

/-- A code that carries a status is not the code of an expired URL. -/
theorem httpCode_ne_expired (status : Nat) :
    "MEDIA_URL_HTTP_" ++ toString status ≠ "MEDIA_URL_EXPIRED" ∧
      "MEDIA_DL_HTTP_" ++ toString status ≠ "MEDIA_URL_EXPIRED" := by
  constructor
  · intro h
    have htake := congrArg (fun s => s.toList.take 11) h
    rw [String.toList_append] at htake
    simp at htake
  · intro h
    have htake := congrArg (fun s => s.toList.take 7) h
    rw [String.toList_append] at htake
    simp at htake

/-- A body of status 200 has no URL, has one that is text, or is not usable. -/
theorem resolveMediaUrl_body (body : Option Json) :
    ((∃ fields, body = some (.obj fields) ∧
        ((fields.lookup "url").getD .null).truthy = false) ∧
      resolveMediaUrl (.response 200 body) = .error (.error "MEDIA_URL_MISSING" true false)) ∨
    (∃ fields url, body = some (.obj fields) ∧ fields.lookup "url" = some (.str url) ∧ url ≠ "" ∧
      resolveMediaUrl (.response 200 body) = .ok (.str url)) ∨
    (∀ fields, body = some (.obj fields) → ((fields.lookup "url").getD .null).truthy = true ∧
        ∀ url, fields.lookup "url" ≠ some (.str url)) ∧
      (resolveMediaUrl (.response 200 body) = .error .raised ∨
        ∃ url, resolveMediaUrl (.response 200 body) = .ok url ∧ ∀ text, url ≠ .str text) := by
  have hresolve : resolveMediaUrl (.response 200 body) =
      match decodedBody body >>= fun j => j.get "url" .null with
      | .error _ => .error .raised
      | .ok url =>
        if url.truthy then .ok url else .error (.error "MEDIA_URL_MISSING" true false) := rfl
  rw [hresolve]
  by_cases hobject : ∃ fields, body = some (.obj fields)
  · obtain ⟨fields, rfl⟩ := hobject
    have hget : (decodedBody (some (.obj fields)) >>= fun j => j.get "url" .null) =
        .ok ((fields.lookup "url").getD .null) := rfl
    rw [hget]
    cases htruthy : ((fields.lookup "url").getD .null).truthy with
    | false => exact Or.inl ⟨⟨fields, rfl, htruthy⟩, by simp only [htruthy]; rfl⟩
    | true =>
      by_cases htext : ∃ url, fields.lookup "url" = some (.str url)
      · obtain ⟨url, hurl⟩ := htext
        rw [hurl] at htruthy
        have hne : url ≠ "" := by simpa [Json.truthy] using htruthy
        refine Or.inr (Or.inl ⟨fields, url, rfl, hurl, hne, ?_⟩)
        rw [hurl]
        exact if_pos htruthy
      · have hnot : ∀ url, fields.lookup "url" ≠ some (.str url) := fun url h => htext ⟨url, h⟩
        refine Or.inr (Or.inr ⟨?_, Or.inr ⟨(fields.lookup "url").getD .null, ?_, ?_⟩⟩)
        · intro fields' hbody
          cases hbody
          exact ⟨htruthy, hnot⟩
        · simp only [htruthy, if_true]
        · intro text htext
          cases hlookup : fields.lookup "url" with
          | none =>
            rw [hlookup] at htruthy
            cases htruthy
          | some url =>
            rw [hlookup] at htext
            obtain rfl : url = .str text := htext
            exact hnot text hlookup
  · refine Or.inr (Or.inr ⟨fun fields hbody => absurd ⟨fields, hbody⟩ hobject, Or.inl ?_⟩)
    cases body with
    | none => rfl
    | some j =>
      cases j with
      | obj fields => exact absurd ⟨fields, rfl⟩ hobject
      | _ => rfl

/-- A resolution refuses the URL, gives it, or ends with another exception. -/
theorem resolveMediaUrl_cases (answer : HttpAnswer) :
    (RefusesUrl answer ∧ ¬ GivesUrl answer ∧ ∃ code retryable,
      resolveMediaUrl answer = .error (.error code retryable false) ∧ code ≠ "MEDIA_URL_EXPIRED") ∨
    (GivesUrl answer ∧ ¬ RefusesUrl answer ∧ ∃ url, resolveMediaUrl answer = .ok (.str url)) ∨
    ¬ RefusesUrl answer ∧ ¬ GivesUrl answer ∧ (resolveMediaUrl answer = .error .raised ∨
      ∃ url, resolveMediaUrl answer = .ok url ∧ ∀ text, url ≠ .str text) := by
  cases answer with
  | networkError => exact Or.inr (Or.inr ⟨id, id, Or.inl rfl⟩)
  | response status body =>
    by_cases hstatus : status = 200
    · subst hstatus
      obtain ⟨⟨fields, rfl, hfalsy⟩, hmissing⟩ | ⟨fields, url, rfl, hurl, hne, hgiven⟩ |
        ⟨hnone, hother⟩ := resolveMediaUrl_body body
      · refine Or.inl ⟨Or.inr ⟨fields, rfl, hfalsy⟩, ?_, _, _, hmissing, by decide⟩
        rintro ⟨-, fields', url, hbody, hurl, hne⟩
        cases hbody
        rw [hurl] at hfalsy
        exact hne (by simpa [Json.truthy] using hfalsy)
      · refine Or.inr (Or.inl ⟨⟨rfl, fields, url, rfl, hurl, hne⟩, ?_, url, hgiven⟩)
        rintro (h | ⟨fields', hbody, hfalsy⟩)
        · exact h rfl
        · cases hbody
          rw [hurl] at hfalsy
          exact hne (by simpa [Json.truthy] using hfalsy)
      · refine Or.inr (Or.inr ⟨?_, ?_, hother⟩)
        · rintro (h | ⟨fields, hbody, hfalsy⟩)
          · exact h rfl
          · rw [(hnone fields hbody).1] at hfalsy
            cases hfalsy
        · rintro ⟨-, fields, url, hbody, hurl, -⟩
          exact (hnone fields hbody).2 url hurl
    · have hcode : ∃ code retryable, resolveMediaUrl (.response status body) =
          .error (.error code retryable false) ∧ code ≠ "MEDIA_URL_EXPIRED" := by
        by_cases h404 : status = 404
        · exact ⟨"MEDIA_NOT_FOUND", false, by simp only [resolveMediaUrl, if_pos h404], by decide⟩
        · exact ⟨"MEDIA_URL_HTTP_" ++ toString status, true,
            by simp only [resolveMediaUrl, if_neg h404, if_neg hstatus],
            (httpCode_ne_expired status).1⟩
      exact Or.inl ⟨Or.inl hstatus, fun h => hstatus h.1, hcode⟩

/-- A complete download is compared with the declared hash. -/
theorem streamDownload_complete (H : Hasher) (declared : Option String) (url : String)
    (contentType : Option String) (chunks : List (List UInt8)) :
    streamDownload H declared (.str url) (.response 200 contentType chunks false) =
      if hashAgrees declared (H.hex chunks.flatten) then
        .ok ⟨(streamChunks H chunks).buf, H.hex chunks.flatten, (streamChunks H chunks).buf.length,
          contentType.getD "application/octet-stream"⟩
      else .error (.error "MEDIA_HASH_MISMATCH" false true) := by
  have hcontent : hexdigest (H.digest (streamChunks H chunks).hasher) = H.hex chunks.flatten := by
    rw [streamChunks_digest, streamChunks_buf]
    rfl
  simp only [streamDownload, hcontent]
  cases hashAgrees declared (H.hex chunks.flatten) with
  | true => rfl
  | false => rfl

/-- A download of a URL fails with a `MediaFetchError` exactly when the content is refused, and
with the code of an expired URL exactly at status 404. -/
theorem streamDownload_failed (H : Hasher) (declared : Option String) (url : String)
    (answer : DownloadAnswer) :
    ((∃ code retryable quarantine, streamDownload H declared (.str url) answer =
        .error (.error code retryable quarantine)) ↔ RefusesContent H declared answer) ∧
      (urlExpired (streamDownload H declared (.str url) answer) = true ↔
        ∃ contentType chunks broken, answer = .response 404 contentType chunks broken) := by
  have hnetwork : ¬ ("MEDIA_NETWORK_ERROR" == "MEDIA_URL_EXPIRED") = true := by decide
  cases answer with
  | networkError =>
    refine ⟨iff_of_true ⟨_, _, _, rfl⟩ trivial, iff_of_false hnetwork ?_⟩
    · rintro ⟨contentType, chunks, broken, h⟩
      cases h
  | invalidUrl =>
    refine ⟨iff_of_false ?_ id, iff_of_false ?_ ?_⟩
    · rintro ⟨code, retryable, quarantine, h⟩
      cases h
    · exact Bool.false_ne_true
    · rintro ⟨contentType, chunks, broken, h⟩
      cases h
  | response status contentType chunks broken =>
    by_cases h404 : status = 404
    · subst h404
      exact ⟨iff_of_true ⟨"MEDIA_URL_EXPIRED", false, false, rfl⟩ (Or.inl (by decide)),
        iff_of_true rfl ⟨contentType, chunks, broken, rfl⟩⟩
    · have hnot : ¬ ∃ contentType' chunks' broken',
          DownloadAnswer.response status contentType chunks broken =
            .response 404 contentType' chunks' broken' := by
        rintro ⟨contentType', chunks', broken', h⟩
        cases h
        exact h404 rfl
      by_cases h200 : status = 200
      · subst h200
        cases broken with
        | true => exact ⟨iff_of_true ⟨_, _, _, rfl⟩ (Or.inr (Or.inl rfl)),
            iff_of_false hnetwork hnot⟩
        | false =>
          rw [streamDownload_complete]
          cases hagrees : hashAgrees declared (H.hex chunks.flatten) with
          | true =>
            refine ⟨iff_of_false ?_ ?_, iff_of_false Bool.false_ne_true hnot⟩
            · rintro ⟨code, retryable, quarantine, h⟩
              cases h
            · rintro (h | h | h)
              · exact h rfl
              · cases h
              · rw [hagrees] at h
                cases h
          | false =>
            have hmismatch : ¬ ("MEDIA_HASH_MISMATCH" == "MEDIA_URL_EXPIRED") = true := by decide
            exact ⟨iff_of_true ⟨_, _, _, rfl⟩ (Or.inr (Or.inr hagrees)),
              iff_of_false hmismatch hnot⟩
      · have hfailed : streamDownload H declared (.str url)
            (.response status contentType chunks broken) =
              .error (.error ("MEDIA_DL_HTTP_" ++ toString status)
                (decide (500 ≤ status)) false) := by
          simp only [streamDownload, if_neg h404, if_neg h200]
        rw [hfailed]
        refine ⟨iff_of_true ⟨_, _, _, rfl⟩ (Or.inl h200), iff_of_false ?_ hnot⟩
        simpa [urlExpired] using (httpCode_ne_expired status).2

/-- A URL that is no text is an exception that the task does not handle. -/
theorem streamDownload_of_not_text (H : Hasher) (declared : Option String) {url : Json}
    (h : ∀ text, url ≠ .str text) (answer : DownloadAnswer) :
    streamDownload H declared url answer = .error .raised := by
  cases url with
  | str text => exact absurd rfl (h text)
  | _ => rfl

/-- One resolution and one download: when they fail, and when the URL has expired. -/
theorem fetchOnce_failed (H : Hasher) (declared : Option String) (resolution : HttpAnswer)
    (download : DownloadAnswer) :
    ((∃ code retryable quarantine, (fetchOnce H declared resolution download).2 =
        .error (.error code retryable quarantine)) ↔ FetchRefused H declared resolution download) ∧
      (urlExpired (fetchOnce H declared resolution download).2 = true ↔
        Expires resolution download) := by
  obtain ⟨hrefuses, hgives, code, retryable, hresolve, hcode⟩ | ⟨hgives, hrefuses, url, hresolve⟩ |
    ⟨hrefuses, hgives, hresolve | ⟨url, hresolve, hurl⟩⟩ := resolveMediaUrl_cases resolution
  · simp only [fetchOnce, hresolve]
    refine ⟨iff_of_true ⟨code, retryable, false, rfl⟩ (Or.inl hrefuses), iff_of_false ?_ ?_⟩
    · simpa [urlExpired] using hcode
    · exact fun h => hgives h.1
  · simp only [fetchOnce, hresolve]
    obtain ⟨hfails, hexpired⟩ := streamDownload_failed H declared url download
    rw [hfails, hexpired]
    exact ⟨⟨fun h => Or.inr ⟨hgives, h⟩, fun h => (h.resolve_left hrefuses).2⟩,
      ⟨fun h => ⟨hgives, h⟩, fun h => h.2⟩⟩
  · simp only [fetchOnce, hresolve]
    refine ⟨iff_of_false ?_ ?_, iff_of_false Bool.false_ne_true fun h => hgives h.1⟩
    · rintro ⟨code, retryable, quarantine, h⟩
      cases h
    · exact fun h => h.elim hrefuses fun h => hgives h.1
  · simp only [fetchOnce, hresolve, streamDownload_of_not_text H declared hurl]
    refine ⟨iff_of_false ?_ ?_, iff_of_false Bool.false_ne_true fun h => hgives h.1⟩
    · rintro ⟨code, retryable, quarantine, h⟩
      cases h
    · exact fun h => h.elim hrefuses fun h => hgives h.1

/-- The URL is resolved a second time exactly when the first has expired and attempts are left. -/
theorem resolvesAgain_iff (H : Hasher) (answers : MetaAnswers) (req : FetchRequest) :
    (urlExpired (fetchOnce H req.declaredSha256 answers.resolution answers.download).2 &&
      decide (req.attempt < 3)) = true ↔
        Expires answers.resolution answers.download ∧ req.attempt < 3 := by
  rw [Bool.and_eq_true_iff, decide_eq_true_iff]
  exact and_congr_left' (fetchOnce_failed H _ answers.resolution answers.download).2

theorem outcomeOf_failed {r : Except FetchFailure FetchResult} {code : String}
    {retryable quarantine : Bool} :
    outcomeOf r = .failed code retryable quarantine ↔
      r = .error (.error code retryable quarantine) := by
  constructor
  · intro h
    rcases r with (⟨code', retryable', quarantine'⟩ | _) | result
    · cases h
      rfl
    · cases h
    · cases h
  · rintro rfl
    rfl

/-- A call ends with a `MediaFetchError` exactly when Meta refuses it or the attempts are used
up. -/
theorem fetchMedia_failed_iff {H : Hasher} {answers : MetaAnswers} {req : FetchRequest} :
    (∃ code retryable quarantine,
      (fetchMedia H answers req).outcome = .failed code retryable quarantine) ↔
        MediaRefused H answers req := by
  unfold fetchMedia MediaRefused
  by_cases hlimit : backoffBeforeMetaLimit ≤ req.attempt
  · rw [if_pos hlimit]
    exact iff_of_true ⟨_, _, _, rfl⟩ (Or.inl hlimit)
  · rw [if_neg hlimit]
    obtain ⟨hfirst, -⟩ :=
      fetchOnce_failed H req.declaredSha256 answers.resolution answers.download
    obtain ⟨hsecond, -⟩ :=
      fetchOnce_failed H req.declaredSha256 answers.secondResolution answers.secondDownload
    have hresolves := resolvesAgain_iff H answers req
    by_cases hagain : Expires answers.resolution answers.download ∧ req.attempt < 3
    · simp only [if_pos (hresolves.mpr hagain), outcomeOf_failed, hsecond]
      exact ⟨fun h => Or.inr (Or.inl ⟨hagain.1, hagain.2, h⟩),
        fun h => (h.resolve_left hlimit).elim (fun h => h.2.2) fun h => absurd hagain h.1⟩
    · simp only [if_neg (hagain ∘ hresolves.mp), outcomeOf_failed, hfirst]
      exact ⟨fun h => Or.inr (Or.inr ⟨hagain, h⟩),
        fun h => (h.resolve_left hlimit).elim (fun h => absurd ⟨h.1, h.2.1⟩ hagain) fun h => h.2⟩

end WaService
