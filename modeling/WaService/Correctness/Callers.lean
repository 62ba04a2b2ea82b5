import WaService.Api.Auth

/-!
# Attribution of callers

A caller that is let in presented the token of an entry and gets the name of an entry with that
token. The dictionary holds one name for a token, so every entry authenticates as its own name
exactly when no two entries share a token under different names.
-/

namespace WaService

open Python

/-! ## Entries -/

theorem ofList_ne_empty {cs : List Char} (h : cs ≠ []) : String.ofList cs ≠ "" := by
  intro hempty
  exact h (by simpa using congrArg String.toList hempty)

theorem IsEntry.ne_nil {piece : List Char} {name token : String} (h : IsEntry piece name token) :
    piece ≠ [] := by
  obtain ⟨before, rest, rfl, -⟩ := h
  exact List.append_ne_nil_of_right_ne_nil before nofun

/-- A text is an entry in one way. -/
theorem IsEntry.unique {piece : List Char} {name name' token token' : String}
    (h : IsEntry piece name token) (h' : IsEntry piece name' token') :
    name = name' ∧ token = token' := by
  obtain ⟨before, rest, hpiece, hbefore, hname, htoken, -⟩ := h
  obtain ⟨before', rest', hpiece', hbefore', hname', htoken', -⟩ := h'
  have hparts := partition_append hbefore rest
  rw [← hpiece, hpiece', partition_append hbefore' rest', Prod.mk.injEq, Prod.mk.injEq] at hparts
  obtain ⟨rfl, -, rfl⟩ := hparts
  exact ⟨String.toList_inj.mp (hname.trans hname'.symm),
    String.toList_inj.mp (htoken.trans htoken'.symm)⟩

theorem mem_entries {waApiTokens : String} {piece : List Char} :
    piece ∈ entries waApiTokens ↔
      ∃ pair ∈ waApiTokens.toList.splitOn ',', strip pair = piece ∧ piece ≠ [] := by
  simp only [entries, List.mem_filter, List.mem_map, Bool.not_eq_true', List.isEmpty_eq_false_iff]
  constructor
  · rintro ⟨⟨pair, hpair, rfl⟩, hne⟩
    exact ⟨pair, hpair, rfl, hne⟩
  · rintro ⟨pair, hpair, rfl, hne⟩
    exact ⟨⟨pair, hpair, rfl⟩, hne⟩

/-- A blank piece leaves the dictionary as it is. -/
theorem addCaller_of_blank {out : List (String × String)} {pair : List Char}
    (h : strip pair = []) : addCaller out pair = .ok out := by
  rw [addCaller, h]
  rfl

/-- An entry assigns its name to its token. -/
theorem addCaller_of_entry {out : List (String × String)} {pair : List Char} {name token : String}
    (h : IsEntry (strip pair) name token) : addCaller out pair = .ok (setItem token name out) := by
  have hne := h.ne_nil
  obtain ⟨before, rest, hpiece, hbefore, hname, htoken, hname_ne, htoken_ne⟩ := h
  have hname' : strip before ≠ [] := by
    rw [← hname]
    exact fun hnil => hname_ne (String.toList_eq_nil_iff.mp hnil)
  have htoken' : strip rest ≠ [] := by
    rw [← htoken]
    exact fun hnil => htoken_ne (String.toList_eq_nil_iff.mp hnil)
  rw [addCaller, if_neg (by simpa using hne), hpiece]
  simp only [partition_append hbefore, isCallerEntry, ← hname, ← htoken, String.ofList_toList]
  rw [hname, htoken]
  simp [hname', htoken']

/-- Any other piece is an error. -/
theorem addCaller_of_not_entry {out : List (String × String)} {pair : List Char}
    (hne : strip pair ≠ []) (h : ∀ name token, ¬ IsEntry (strip pair) name token) :
    addCaller out pair = .error .valueError := by
  rw [addCaller, if_neg (by simpa using hne)]
  rcases partition_cases ':' (strip pair) with ⟨-, hparts⟩ | ⟨before, rest, hbefore, hpiece, hparts⟩
  · rw [hparts]
    rfl
  · rw [hparts]
    by_cases hempty : strip before = [] ∨ strip rest = []
    · rcases hempty with hnil | hnil
      · simp [isCallerEntry, hnil]
      · simp [isCallerEntry, hnil]
    · rw [not_or] at hempty
      exact absurd ⟨before, rest, hpiece, hbefore, String.toList_ofList, String.toList_ofList,
        ofList_ne_empty hempty.1, ofList_ne_empty hempty.2⟩
        (h (String.ofList (strip before)) (String.ofList (strip rest)))

/-! ## The dictionary -/

/-- What the loop makes of the pieces: every entry of the new dictionary is an old one or that of a
piece, and the tokens of the old one and of the pieces have entries. -/
structure Enters (pairs : List (List Char)) (out callers : List (String × String)) : Prop where
  sound : ∀ entry ∈ callers, entry ∈ out ∨ ∃ pair ∈ pairs, IsEntry (strip pair) entry.2 entry.1
  kept : ∀ token ∈ out.map Prod.fst, token ∈ callers.map Prod.fst
  complete : ∀ pair ∈ pairs, ∀ name token, IsEntry (strip pair) name token →
    token ∈ callers.map Prod.fst

/-- The loop enters every piece that is an entry. -/
theorem addCallers_of_entries {pairs : List (List Char)}
    (h : ∀ pair ∈ pairs, strip pair ≠ [] → ∃ name token, IsEntry (strip pair) name token)
    (out : List (String × String)) :
    ∃ callers, addCallers out pairs = .ok callers ∧ Enters pairs out callers := by
  induction pairs generalizing out with
  | nil => exact ⟨out, rfl, fun entry hentry => Or.inl hentry, fun _ ht => ht, nofun⟩
  | cons pair pairs ih =>
    have hrest := ih fun other hother => h other (List.mem_cons_of_mem pair hother)
    by_cases hblank : strip pair = []
    · obtain ⟨callers, hadd, henters⟩ := hrest out
      refine ⟨callers, ?_, ?_, henters.kept, ?_⟩
      · rw [addCallers, addCaller_of_blank hblank]
        exact hadd
      · intro entry hentry
        exact (henters.sound entry hentry).imp_right fun ⟨other, hother, he⟩ =>
          ⟨other, List.mem_cons_of_mem pair hother, he⟩
      · intro other hother name token hentry
        rcases List.mem_cons.mp hother with rfl | hother
        · exact absurd hblank hentry.ne_nil
        · exact henters.complete other hother name token hentry
    · obtain ⟨name, token, hpair⟩ := h pair List.mem_cons_self hblank
      obtain ⟨callers, hadd, henters⟩ := hrest (setItem token name out)
      refine ⟨callers, ?_, ?_, ?_, ?_⟩
      · rw [addCallers, addCaller_of_entry hpair]
        exact hadd
      · intro entry hentry
        rcases henters.sound entry hentry with hmem | ⟨other, hother, he⟩
        · rcases mem_setItem hmem with rfl | hmem
          · exact Or.inr ⟨pair, List.mem_cons_self, hpair⟩
          · exact Or.inl hmem
        · exact Or.inr ⟨other, List.mem_cons_of_mem pair hother, he⟩
      · intro other hother
        exact henters.kept other (mem_keys_setItem.mpr (Or.inr hother))
      · intro other hother name' token' hentry
        rcases List.mem_cons.mp hother with rfl | hother
        · rw [(hentry.unique hpair).2]
          exact henters.kept token (mem_keys_setItem.mpr (Or.inl rfl))
        · exact henters.complete other hother name' token' hentry

/-- One piece that is neither blank nor an entry is an error of the whole. -/
theorem addCallers_of_not_entry {pairs : List (List Char)} {pair : List Char} (hpair : pair ∈ pairs)
    (hne : strip pair ≠ []) (h : ∀ name token, ¬ IsEntry (strip pair) name token)
    (out : List (String × String)) : addCallers out pairs = .error .valueError := by
  induction pairs generalizing out with
  | nil => cases hpair
  | cons first pairs ih =>
    rw [addCallers]
    rcases List.mem_cons.mp hpair with rfl | hpair
    · rw [addCaller_of_not_entry hne h]
      rfl
    · by_cases hblank : strip first = []
      · rw [addCaller_of_blank hblank]
        exact ih hpair out
      · by_cases hentry : ∃ name token, IsEntry (strip first) name token
        · obtain ⟨name, token, hentry⟩ := hentry
          rw [addCaller_of_entry hentry]
          exact ih hpair _
        · rw [addCaller_of_not_entry hblank fun name token he => hentry ⟨name, token, he⟩]
          rfl

/-- A well-formed setting is accepted, with a dictionary of its entries. -/
theorem apiCallers_of_wellFormed {s : String} (h : WellFormed s) :
    ∃ callers, apiCallers s = .ok callers ∧
      (∀ entry ∈ callers, Configured s entry.2 entry.1) ∧
      ∀ name token, Configured s name token → token ∈ callers.map Prod.fst := by
  have hpairs : ∀ pair ∈ s.toList.splitOn ',', strip pair ≠ [] →
      ∃ name token, IsEntry (strip pair) name token :=
    fun pair hpair hne => h (strip pair) (mem_entries.mpr ⟨pair, hpair, rfl, hne⟩)
  obtain ⟨callers, hadd, henters⟩ := addCallers_of_entries hpairs []
  refine ⟨callers, hadd, ?_, ?_⟩
  · intro entry hentry
    rcases henters.sound entry hentry with hnil | ⟨pair, hpair, he⟩
    · cases hnil
    · exact ⟨strip pair, mem_entries.mpr ⟨pair, hpair, rfl, he.ne_nil⟩, he⟩
  · rintro name token ⟨piece, hpiece, he⟩
    obtain ⟨pair, hpair, rfl, -⟩ := mem_entries.mp hpiece
    exact henters.complete pair hpair name token he

/-- Any other setting is rejected as a whole. -/
theorem apiCallers_of_not_wellFormed {s : String} (h : ¬ WellFormed s) :
    apiCallers s = .error .valueError := by
  simp only [WellFormed, not_forall, not_exists] at h
  obtain ⟨piece, hpiece, hentry⟩ := h
  obtain ⟨pair, hpair, rfl, hne⟩ := mem_entries.mp hpiece
  exact addCallers_of_not_entry hpair hne hentry []

theorem wellFormed_of_apiCallers {s : String} {callers : List (String × String)}
    (h : apiCallers s = .ok callers) : WellFormed s := by
  by_contra hill
  rw [apiCallers_of_not_wellFormed hill] at h
  cases h

/-! ## The request -/

/-- Two texts are encoded alike only when they are the same. -/
theorem toUTF8_beq {known token : String} :
    (known.toUTF8 == token.toUTF8) = true ↔ known = token := by
  constructor
  · intro h
    have hdata : known.toUTF8.data = token.toUTF8.data := beq_iff_eq.mp h
    exact String.toByteArray_inj.mp (ByteArray.ext hdata)
  · rintro rfl
    exact beq_self_eq_true known.toUTF8.data

/-- The name that is matched is one that the dictionary has for the token. -/
theorem matchCaller_mem {token name : String} {callers : List (String × String)}
    {found : Option String} (h : matchCaller token found callers = some name) :
    found = some name ∨ (token, name) ∈ callers := by
  induction callers generalizing found with
  | nil => exact Or.inl h
  | cons entry callers ih =>
    obtain ⟨known, other⟩ := entry
    rcases ih h with hfound | hmem
    · split at hfound
      · rename_i hknown
        cases hfound
        exact Or.inr (by rw [toUTF8_beq.mp hknown]; exact List.mem_cons_self)
      · exact Or.inl hfound
    · exact Or.inr (List.mem_cons_of_mem _ hmem)

/-- A token of the dictionary is matched. -/
theorem matchCaller_isSome {token : String} {callers : List (String × String)}
    {found : Option String} (h : found.isSome = true ∨ token ∈ callers.map Prod.fst) :
    (matchCaller token found callers).isSome = true := by
  induction callers generalizing found with
  | nil => exact h.resolve_right List.not_mem_nil
  | cons entry callers ih =>
    obtain ⟨known, other⟩ := entry
    rw [matchCaller]
    apply ih
    rw [List.map_cons, List.mem_cons] at h
    split
    · exact Or.inl rfl
    · rename_i hknown
      rcases h with hfound | rfl | hmem
      · exact Or.inl hfound
      · exact absurd (toUTF8_beq.mpr rfl) hknown
      · exact Or.inr hmem

/-- The word has no space in it. -/
theorem isBearer_notMem {scheme : List Char} (h : isBearer scheme = true) : ' ' ∉ scheme := by
  intro hspace
  have hlower : ' '.toLower ∈ "bearer".toList := by
    rw [← beq_iff_eq.mp h]
    exact List.mem_map_of_mem hspace
  exact absurd hlower (by decide)

/-- A caller that is let in presented the token of an entry, and gets the name of an entry with that
token. -/
theorem requireCaller_ok {s : String} {authorization : Option String} {caller : Caller}
    (h : requireCaller s authorization = .ok caller) : ∃ scheme token,
      authorization = some (scheme ++ " " ++ token) ∧ isBearer scheme.toList = true ∧
        Configured s caller.name token := by
  unfold requireCaller at h
  split at h
  · cases h
  · cases h
  · rename_i callers _ hcallers
    obtain ⟨callers', hcallers', hsound, -⟩ :=
      apiCallers_of_wellFormed (wellFormed_of_apiCallers hcallers)
    rw [hcallers] at hcallers'
    cases hcallers'
    rcases partition_cases ' ' (authorization.getD "").toList with
      ⟨-, hparts⟩ | ⟨before, rest, -, hheader, hparts⟩
    · simp [hparts, unauthenticated] at h
    · simp only [hparts] at h
      by_cases hrefused : (!isBearer before || rest.isEmpty) = true
      · rw [if_pos hrefused] at h
        cases h
      · rw [if_neg hrefused] at h
        simp only [Bool.or_eq_true, Bool.not_eq_true', not_or, Bool.not_eq_false] at hrefused
        cases hmatch : matchCaller (String.ofList rest) none callers with
        | none =>
          rw [hmatch] at h
          cases h
        | some name =>
          rw [hmatch] at h
          cases h
          have hmem := (matchCaller_mem hmatch).resolve_left nofun
          refine ⟨String.ofList before, String.ofList rest, ?_, ?_, hsound _ hmem⟩
          · cases authorization with
            | none => exact absurd hheader.symm (List.append_ne_nil_of_right_ne_nil before nofun)
            | some header =>
              rw [Option.some.injEq, ← String.toList_inj]
              simpa using hheader
          · rw [String.toList_ofList]
            exact hrefused.1

/-- The token of an entry authenticates as the name of an entry with that token. -/
theorem requireCaller_configured {s name token scheme : String} (hs : WellFormed s)
    (hconfigured : Configured s name token) (hscheme : isBearer scheme.toList = true) :
    ∃ other, Configured s other token ∧
      requireCaller s (some (scheme ++ " " ++ token)) = .ok ⟨other⟩ := by
  obtain ⟨callers, hcallers, hsound, hcomplete⟩ := apiCallers_of_wellFormed hs
  have hkey := hcomplete name token hconfigured
  have hsome : (matchCaller token none callers).isSome = true := matchCaller_isSome (Or.inr hkey)
  obtain ⟨other, hmatch⟩ := Option.isSome_iff_exists.mp hsome
  refine ⟨other, hsound _ ((matchCaller_mem hmatch).resolve_left nofun), ?_⟩
  have htoken : token.toList ≠ [] := by
    obtain ⟨piece, -, -, -, -, -, -, -, -, hne⟩ := hconfigured
    exact fun hnil => hne (String.toList_eq_nil_iff.mp hnil)
  have hparts : partition ' ' (scheme ++ " " ++ token).toList =
      (scheme.toList, [' '], token.toList) := by
    rw [← partition_append (isBearer_notMem hscheme) token.toList]
    simp
  unfold requireCaller
  rw [hcallers]
  cases callers with
  | nil => cases hkey
  | cons entry callers =>
    simp only [Option.getD_some, hparts]
    simp [hscheme, htoken, hmatch]

/-- Callers are attributed as the entries of the setting say. -/
structure CallersRight (s : String) : Prop where
  rejected : ¬ WellFormed s → apiCallers s = .error .valueError
  attributed : ∀ authorization caller, requireCaller s authorization = .ok caller →
    ∃ scheme token, authorization = some (scheme ++ " " ++ token) ∧
      isBearer scheme.toList = true ∧ Configured s caller.name token
  authenticated : ∀ callers, apiCallers s = .ok callers → ∀ name token scheme,
    Configured s name token → isBearer scheme.toList = true →
      requireCaller s (some (scheme ++ " " ++ token)) = .ok ⟨name⟩

/-- No two entries have one token and different names. -/
def OneNameEach (s : String) : Prop :=
  ∀ name other token, Configured s name token → Configured s other token → name = other

/-- Callers are attributed as the entries say exactly when the setting is malformed or no two of
its entries have one token and different names. -/
theorem callers_right_iff (s : String) : CallersRight s ↔ (WellFormed s → OneNameEach s) := by
  constructor
  · intro h hs name other token hname hother
    obtain ⟨callers, hcallers, -⟩ := apiCallers_of_wellFormed hs
    have hbearer : isBearer "Bearer".toList = true := by decide
    have hfirst := h.authenticated callers hcallers name token "Bearer" hname hbearer
    rw [h.authenticated callers hcallers other token "Bearer" hother hbearer] at hfirst
    cases hfirst
    rfl
  · intro h
    refine ⟨apiCallers_of_not_wellFormed, fun _ _ => requireCaller_ok, ?_⟩
    intro callers hcallers name token scheme hname hscheme
    have hs := wellFormed_of_apiCallers hcallers
    obtain ⟨other, hother, hok⟩ := requireCaller_configured hs hname hscheme
    rw [hok, h hs name other token hname hother]

/-- Two callers share a token: who presents it is the second. -/
theorem shared_token_misattributed :
    Configured "audit-core:s3cret,security:s3cret" "audit-core" "s3cret" ∧
      (apiCallers "audit-core:s3cret,security:s3cret").isOk = true ∧
      requireCaller "audit-core:s3cret,security:s3cret" (some "Bearer s3cret") =
        .ok ⟨"security"⟩ ∧
      ¬ CallersRight "audit-core:s3cret,security:s3cret" := by
  have hfirst : Configured "audit-core:s3cret,security:s3cret" "audit-core" "s3cret" :=
    ⟨"audit-core:s3cret".toList, by decide, "audit-core".toList, "s3cret".toList, by decide,
      by decide, by decide, by decide, by decide, by decide⟩
  have hsecond : requireCaller "audit-core:s3cret,security:s3cret" (some "Bearer s3cret") =
      .ok ⟨"security"⟩ := by decide
  refine ⟨hfirst, by decide, hsecond, fun h => ?_⟩
  have hright := h.authenticated [("s3cret", "security")] (by decide) "audit-core" "s3cret" "Bearer"
    hfirst (by decide)
  rw [show "Bearer" ++ " " ++ "s3cret" = "Bearer s3cret" by decide, hsecond] at hright
  exact absurd hright (by decide)

end WaService
