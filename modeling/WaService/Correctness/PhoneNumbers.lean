import WaService.Api.Routes
import WaService.Wa.Payload

/-!
# Phone numbers of contacts

The validator of a contact's phone against the phone that the router builds from a `wa_id`. They
agree on every text but two kinds that the validator accepts: a number before a final line break,
and a number with decimal digits of another script.
-/

namespace WaService

open Python Relational Regex

/-- A plus, a digit from one to nine, and seven to fourteen further ASCII digits. -/
def IsE164 (s : String) : Prop :=
  ∃ d ds, s.toList = '+' :: d :: ds ∧ oneToNine d = true ∧ (∀ c ∈ ds, c.isDigit = true) ∧
    7 ≤ ds.length ∧ ds.length ≤ 14

/-- Such a number in decimal digits of any script that a line break ends, or that has a digit which
is not ASCII. -/
def IrregularNumber (s : String) : Prop :=
  ∃ d ds, oneToNine d = true ∧ (∀ c ∈ ds, isDecimal c = true) ∧ 7 ≤ ds.length ∧ ds.length ≤ 14 ∧
    (s.toList = '+' :: d :: (ds ++ ['\n']) ∨
      s.toList = '+' :: d :: ds ∧ ∃ c ∈ ds, c.isDigit = false)

/-! ## The validator -/

/-- A repetition of exactly one character. -/
theorem takes_one {p : Char → Bool} {m : List Char} :
    Takes p 1 (some 1) m ↔ ∃ c, m = [c] ∧ p c = true := by
  constructor
  · intro h
    obtain ⟨c, rfl⟩ := List.length_eq_one_iff.mp (Nat.le_antisymm (h.most 1 rfl) h.least)
    exact ⟨c, rfl, h.all c List.mem_cons_self⟩
  · rintro ⟨c, rfl, hc⟩
    exact ⟨by simpa using hc, Nat.le_refl 1, fun n hn => by cases hn; exact Nat.le_refl 1⟩

/-- The validator accepts a number in decimal digits, with or without a final line break. -/
theorem checkE164_eq_ok {s : String} : checkE164 s = .ok s ↔
    ∃ d ds, oneToNine d = true ∧ (∀ c ∈ ds, isDecimal c = true) ∧ 7 ≤ ds.length ∧
      ds.length ≤ 14 ∧ (s.toList = '+' :: d :: ds ∨ s.toList = '+' :: d :: (ds ++ ['\n'])) := by
  have hmatch : checkE164 s = .ok s ↔ ∃ e, e ∈ e164.ends ⟨[], s.toList, []⟩ := by
    unfold checkE164
    cases hsome : e164.matchAt [] s.toList with
    | none =>
      refine ⟨nofun, fun ⟨e, he⟩ => absurd he (Pattern.matchAt_eq_none.mp hsome e)⟩
    | some e => exact ⟨fun _ => ⟨e, Pattern.matchAt_mem hsome⟩, fun _ => rfl⟩
  rw [hmatch]
  simp only [e164, Pattern.mem_ends_seq, Pattern.mem_ends_start, Pattern.mem_ends_finish,
    Pattern.mem_ends_rep, takes_one]
  constructor
  · rintro ⟨_, _, ⟨-, rfl⟩, _, ⟨_, r₁, ⟨c, rfl, hc⟩, h₁, rfl⟩, _, ⟨_, r₂, ⟨d, rfl, hd⟩, h₂, rfl⟩, _,
      ⟨ds, r₃, hds, h₃, rfl⟩, hend, rfl⟩
    simp only at h₁ h₂ h₃ hend
    obtain rfl : c = '+' := by simpa using hc
    refine ⟨d, ds, hd, hds.all, hds.least, hds.most 14 rfl, ?_⟩
    rw [h₁, h₂, h₃]
    rcases hend with rfl | rfl
    · exact Or.inl (by rw [List.append_nil]; rfl)
    · exact Or.inr rfl
  · rintro ⟨d, ds, hd, hds, hleast, hmost, h⟩
    have htakes : Takes isDecimal 7 (some 14) ds :=
      ⟨hds, hleast, fun n hn => by cases hn; exact hmost⟩
    obtain ⟨rest, hs, hrest⟩ : ∃ rest, s.toList = '+' :: d :: (ds ++ rest) ∧
        (rest = [] ∨ rest = ['\n']) := by
      rcases h with h | h
      · exact ⟨[], by rw [h, List.append_nil], Or.inl rfl⟩
      · exact ⟨['\n'], h, Or.inr rfl⟩
    exact ⟨_, _, ⟨trivial, rfl⟩, _, ⟨_, _, ⟨'+', rfl, rfl⟩, hs, rfl⟩, _,
      ⟨_, _, ⟨d, rfl, hd⟩, rfl, rfl⟩, _, ⟨ds, rest, htakes, rfl, rfl⟩, hrest, rfl⟩

/-- An ASCII digit is a decimal digit. -/
theorem isDecimal_of_isDigit {c : Char} (h : c.isDigit = true) : isDecimal c = true := by
  have hrange : 48 ≤ c.toNat ∧ c.toNat ≤ 57 := by
    simpa [Char.isDigit, UInt32.le_iff_toNat_le] using h
  refine List.findSome?_isSome_iff.mpr ⟨0x30, by decide, ?_⟩
  rw [if_pos (by omega)]
  rfl

/-- What the validator accepts is a regular number or an irregular one. -/
theorem checkE164_iff {s : String} : checkE164 s = .ok s ↔ IsE164 s ∨ IrregularNumber s := by
  rw [checkE164_eq_ok]
  constructor
  · rintro ⟨d, ds, hd, hds, hleast, hmost, h | h⟩
    · by_cases hascii : ∀ c ∈ ds, c.isDigit = true
      · exact Or.inl ⟨d, ds, h, hd, hascii, hleast, hmost⟩
      · obtain ⟨c, hc, hdigit⟩ := not_forall₂.mp hascii
        exact Or.inr ⟨d, ds, hd, hds, hleast, hmost,
          Or.inr ⟨h, c, hc, Bool.eq_false_iff.mpr hdigit⟩⟩
    · exact Or.inr ⟨d, ds, hd, hds, hleast, hmost, Or.inl h⟩
  · rintro (⟨d, ds, h, hd, hds, hleast, hmost⟩ | ⟨d, ds, hd, hds, hleast, hmost, h | ⟨h, -⟩⟩)
    · exact ⟨d, ds, hd, fun c hc => isDecimal_of_isDigit (hds c hc), hleast, hmost, Or.inl h⟩
    · exact ⟨d, ds, hd, hds, hleast, hmost, Or.inr h⟩
    · exact ⟨d, ds, hd, hds, hleast, hmost, Or.inl h⟩

/-- No number is both. -/
theorem IsE164.not_irregular {s : String} (h : IsE164 s) : ¬ IrregularNumber s := by
  obtain ⟨d, ds, hs, -, hds, -⟩ := h
  rintro ⟨d', ds', -, -, -, -, h | ⟨h, c, hc, hdigit⟩⟩
  · rw [hs, List.cons.injEq, List.cons.injEq] at h
    have hbreak : '\n' ∈ ds := by
      rw [h.2.2]
      exact List.mem_append_right ds' List.mem_cons_self
    exact absurd (hds '\n' hbreak) (by decide)
  · rw [hs, List.cons.injEq, List.cons.injEq] at h
    rw [hds c (by rw [h.2.2]; exact hc)] at hdigit
    cases hdigit

/-! ## The router -/

/-- The `wa_id` of the first contact of a payload. -/
def firstWaId (payload : Json) : Except Error Json := do
  let value ← firstValue payload
  let contacts ← value.getItem "contacts"
  let contact ← contacts.item0
  contact.getItem "wa_id"

theorem extractSenderPhone_eq (payload : Json) :
    extractSenderPhone payload = onExtractError none (firstWaId payload >>= plusPrefixed) := by
  simp only [extractSenderPhone, firstWaId, bind_assoc]

/-- A text of ASCII digits. -/
def IsDigits (waId : String) : Prop := waId ≠ "" ∧ ∀ c ∈ waId.toList, c.isDigit = true

/-- Payloads with this `wa_id` come from the phone of the contact, and the lookup by that phone
finds the contact: it returns it, or rejects it for its status. -/
structure SenderIs (db : Db) (waId : String) (c : Contact) : Prop where
  phone : ∀ payload, firstWaId payload = .ok (.str waId) →
    extractSenderPhone payload = .ok (some c.phoneE164)
  contact : resolveContact db c.phoneE164 c.tenantId =
    if c.status = .active then .ok c else .error (.routing (.contactStatus c.status) false)

/-- Digits are taken for the number that a plus makes of them. -/
theorem extractSenderPhone_of_digits {payload : Json} {waId : String} (hdigits : IsDigits waId)
    (h : firstWaId payload = .ok (.str waId)) :
    extractSenderPhone payload = .ok (some ("+" ++ waId)) := by
  have hplus : startsWith waId ['+'] = false := by
    cases hcs : waId.toList with
    | nil => simp [startsWith, hcs]
    | cons c cs =>
      have hc := hdigits.2 c (by rw [hcs]; exact List.mem_cons_self)
      have hne : c ≠ '+' := by
        rintro rfl
        exact absurd hc (by decide)
      simp [startsWith, hcs, List.isPrefixOf, hne.symm]
  rw [extractSenderPhone_eq, h]
  simp [plusPrefixed, hdigits.1, hplus, onExtractError, bind, Except.bind]

/-- A stored contact is the only row with its phone. -/
theorem resolveContact_stored {db : Db} {c : Contact} (hc : c ∈ db.contacts.rows) :
    resolveContact db c.phoneE164 c.tenantId =
      if c.status = .active then .ok c else .error (.routing (.contactStatus c.status) false) := by
  have hfind : db.contacts.rows.find? (fun d => d.phoneE164 == c.phoneE164 &&
      d.tenantId == c.tenantId) = some c := by
    refine Table.find?_eq_some_of_mem hc (by simp) fun d hd => ?_
    simp only [Bool.and_eq_true, beq_iff_eq] at hd
    simp only [clash, sameKey, Bool.or_eq_true, beq_iff_eq]
    exact Or.inr hd.1
  simp only [resolveContact, hfind, beq_iff_eq]

/-- A contact is the sender of some digits exactly when its phone is a plus and digits. -/
theorem senderIs_iff {db : Db} {c : Contact} (hc : c ∈ db.contacts.rows) {waId : String}
    (hdigits : IsDigits waId) : SenderIs db waId c ↔ c.phoneE164 = "+" ++ waId := by
  constructor
  · intro h
    have hphone := h.phone (webhookBody [entryOf [changeValue "" [waId] []]]) rfl
    rw [extractSenderPhone_of_digits hdigits rfl] at hphone
    simpa using hphone.symm
  · intro h
    refine ⟨fun payload hpayload => ?_, resolveContact_stored hc⟩
    rw [extractSenderPhone_of_digits hdigits hpayload, h]

/-! ## Agreement -/

/-- The contact of a binding that succeeds is stored under the phone of the body. -/
theorem putContact_stores {db : Db} {inp : ApiInput} {tenantId : UUID} {body : ContactIn}
    {out : ContactOut} (h : (putContact db inp tenantId body).2 = .contact out) :
    ∃ c ∈ (putContact db inp tenantId body).1.contacts.rows,
      c.out = out ∧ c.phoneE164 = body.phoneE164 := by
  unfold putContact at h ⊢
  by_cases hnul : Json.hasNul body.phoneE164 = true
  · rw [if_pos hnul] at h
    cases h
  rw [if_neg hnul] at h ⊢
  cases hfind : contactOfPhone db body.phoneE164 with
  | none =>
    simp only [hfind] at h ⊢
    cases hins : db.contacts.insert? (newContact inp.newId inp.now tenantId body) with
    | none =>
      rw [hins] at h
      cases h
    | some contacts =>
      rw [hins] at h
      cases h
      refine ⟨newContact inp.newId inp.now tenantId body, ?_, rfl, rfl⟩
      simp only [Table.rows_of_insert? hins]
      exact List.mem_append_right _ List.mem_cons_self
  | some old =>
    simp only [hfind] at h ⊢
    by_cases htenant : (old.tenantId == tenantId) = true
    · rw [if_pos htenant] at h ⊢
      cases h
      obtain ⟨hold, hphone⟩ := contactOfPhone_eq_some.mp hfind
      refine ⟨old.rebind body, List.mem_map.mpr ⟨old, hold, patch_of_pos ?_⟩, rfl, hphone⟩
      rw [hphone, htenant, beq_self_eq_true, Bool.and_self]
    · rw [if_neg htenant] at h
      cases h

/-- The validator accepts the text exactly when it is E.164, and a contact stored under it is the
sender of some digits, in every database that has its row. -/
structure PhonesAgree (s : String) : Prop where
  accepted : checkE164 s = .ok s ↔ IsE164 s
  found : checkE164 s = .ok s → ∀ (db : Db) (inp : ApiInput) (tenantId : UUID) (body : ContactIn)
    (out : ContactOut), body.phoneE164 = s → (putContact db inp tenantId body).2 = .contact out →
      ∃ c ∈ (putContact db inp tenantId body).1.contacts.rows, c.out = out ∧
        ∃ waId, IsDigits waId ∧ ∀ db' : Db, c ∈ db'.contacts.rows → SenderIs db' waId c

/-- The digits of an E.164 number. -/
theorem IsE164.digits {s : String} (h : IsE164 s) : ∃ waId, IsDigits waId ∧ s = "+" ++ waId := by
  obtain ⟨d, ds, hs, hd, hds, -⟩ := h
  have hdigit : d.isDigit = true := by
    simp only [oneToNine, Bool.and_eq_true, decide_eq_true_eq, Char.le_def,
      UInt32.le_iff_toNat_le] at hd
    simp only [Char.isDigit, Bool.and_eq_true, decide_eq_true_eq, ge_iff_le,
      UInt32.le_iff_toNat_le]
    exact ⟨Nat.le_trans (by decide) hd.1, hd.2⟩
  refine ⟨String.ofList (d :: ds), ⟨?_, ?_⟩, ?_⟩
  · intro hempty
    rw [← String.toList_inj, String.toList_ofList] at hempty
    cases hempty
  · rw [String.toList_ofList]
    intro c hc
    rcases List.mem_cons.mp hc with rfl | hc
    · exact hdigit
    · exact hds c hc
  · rw [← String.toList_inj, String.toList_append, hs, String.toList_ofList (l := d :: ds)]
    rfl

/-- Validator and router agree on every text that is not an irregular number. -/
theorem phones_agree_iff (s : String) : PhonesAgree s ↔ ¬ IrregularNumber s := by
  constructor
  · intro h hirregular
    exact (h.accepted.mp (checkE164_iff.mpr (Or.inr hirregular))).not_irregular hirregular
  · intro h
    have haccepted : checkE164 s = .ok s ↔ IsE164 s := by
      rw [checkE164_iff, or_iff_left h]
    refine ⟨haccepted, fun hs db inp tenantId body out hbody hout => ?_⟩
    obtain ⟨c, hc, hcout, hphone⟩ := putContact_stores hout
    obtain ⟨waId, hdigits, heq⟩ := (haccepted.mp hs).digits
    refine ⟨c, hc, hcout, waId, hdigits, fun db' hc' => (senderIs_iff hc' hdigits).mpr ?_⟩
    rw [hphone, hbody, heq]

/-- A body whose phone ends in a line break. -/
def lineBreakContact : ContactIn := ⟨"+919876543210\n", 6, 3, .en, .active⟩

/-- The id of its row; nothing is sent. -/
def lineBreakInput : ApiInput := ⟨0, 0, 5, fun _ => .raised⟩

/-- The database in which it is stored. -/
def lineBreakDb : Db := (putContact Db.empty lineBreakInput 2 lineBreakContact).1

/-- A number before a line break is accepted, stored, and the phone of no sender; a number in
Devanagari digits is accepted too. -/
theorem line_break_accepted :
    checkE164 "+919876543210\n" = .ok "+919876543210\n" ∧ ¬ IsE164 "+919876543210\n" ∧
      (putContact Db.empty lineBreakInput 2 lineBreakContact).2 =
        .contact ⟨5, "+919876543210\n", 6, 2, some 3, .active, .en, none, 0⟩ ∧
      (∀ c ∈ lineBreakDb.contacts.rows, ∀ waId, IsDigits waId → ¬ SenderIs lineBreakDb waId c) ∧
      checkE164 "+9१२३४५६७" = .ok "+9१२३४५६७" ∧ ¬ IsE164 "+9१२३४५६७" := by
  have hbreak : IrregularNumber "+919876543210\n" :=
    ⟨'9', "19876543210".toList, by decide, List.all_eq_true.mp (by decide), by decide,
      by decide, Or.inl (by decide)⟩
  have hscript : IrregularNumber "+9१२३४५६७" :=
    ⟨'9', "१२३४५६७".toList, by decide, List.all_eq_true.mp (by decide), by decide, by decide,
      Or.inr ⟨by decide, '१', by decide, by decide⟩⟩
  have hrows : lineBreakDb.contacts.rows = [newContact 5 0 2 lineBreakContact] := rfl
  refine ⟨checkE164_iff.mpr (Or.inr hbreak), fun h => h.not_irregular hbreak, rfl, ?_,
    checkE164_iff.mpr (Or.inr hscript), fun h => h.not_irregular hscript⟩
  intro c hc waId hdigits hsender
  have hphone := (senderIs_iff hc hdigits).mp hsender
  rw [hrows, List.mem_singleton] at hc
  rw [hc, ← String.toList_inj, String.toList_append] at hphone
  have hline : '\n' ∈ waId.toList := by
    have hmem : '\n' ∈ "+919876543210\n".toList := by decide
    rw [show "+919876543210\n".toList = "+".toList ++ waId.toList from hphone,
      List.mem_append] at hmem
    exact hmem.resolve_left (by decide)
  exact absurd (hdigits.2 '\n' hline) (by decide)

end WaService
