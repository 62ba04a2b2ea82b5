import Mathlib.Tactic.IntervalCases
import WaService.Core.Paging
import WaService.Correctness.BlankDeals
import WaService.Correctness.DirectoryRefined

/-!
# Walks through contacts and sessions

`list_contacts` and `list_sessions` answer one page of a sorted listing, and a client that asks for
page after page does so in transactions of its own. Contacts and sessions are never deleted and
keep the columns that they are sorted by, so the listings only grow between the pages: the contacts
at the end, the sessions at the front.
-/

namespace WaService

open Paging Python Relational Transition

variable {env : Env} {a : Action} {db db' : Db} {w w' : World} {tenantId : UUID}
  {contactId : Option UUID}

/-! ## What the listings are sorted by -/

/-- A time and an identity. -/
abbrev Stamp := Timestamp × UUID

/-- Both listings are in this order, that of the sessions with the times negated. -/
def Stamp.Before (a b : Stamp) : Prop := olderFirst a.1 a.2 b.1 b.2 = true

instance : DecidableRel Stamp.Before := fun a b =>
  inferInstanceAs (Decidable (olderFirst a.1 a.2 b.1 b.2 = true))

instance : Std.Total Stamp.Before := ⟨fun a b => olderFirst_total a.1 a.2 b.1 b.2⟩

instance : IsTrans Stamp Stamp.Before := ⟨fun _ _ _ => olderFirst_trans⟩

instance : Std.Antisymm Stamp.Before where
  antisymm a b hab hba := by
    obtain ⟨t, i⟩ := a
    obtain ⟨t', i'⟩ := b
    rcases olderFirst_iff.mp hab with hlt | ⟨rfl, hle⟩
    · rcases olderFirst_iff.mp hba with hgt | ⟨heq, -⟩
      · exact absurd hlt (Int.lt_asymm hgt)
      · exact absurd (heq ▸ hlt) (Int.lt_irrefl _)
    · rcases olderFirst_iff.mp hba with hlt | ⟨-, hge⟩
      · exact absurd hlt (Int.lt_irrefl _)
      · exact congrArg (Prod.mk t) (BitVec.eq_of_toNat_eq (Nat.le_antisymm hle hge))

def Contact.stamp (c : Contact) : Stamp := (c.createdAt, c.id)

def Session.stamp (s : Session) : Stamp := (-s.createdAt, s.id)

/-- The contacts of a tenant, in the order of the table. -/
def Db.contactStamps (db : Db) (tenantId : UUID) : List Stamp :=
  (db.contacts.rows.filter fun c => c.tenantId == tenantId).map Contact.stamp

/-- The sessions of a tenant, or of one contact of it, in the order of the table. -/
def Db.sessionStamps (db : Db) (tenantId : UUID) (contactId : Option UUID) : List Stamp :=
  (db.sessions.rows.filter fun s => s.tenantId == tenantId &&
    contactId.all (· == s.contactId)).map Session.stamp

/-! ## Pages -/

/-- A page that is answered is the page of the rows. -/
theorem Page.slice_eq_some {α : Type} {limit i : Nat} {rows out : List α}
    (h : Page.slice ⟨limit, i * limit⟩ rows = some out) : out = page limit i rows := by
  unfold Page.slice at h
  split at h
  · cases h
    rfl
  · cases h

/-- The ids of a page of contacts are those of the page of the sorted stamps. -/
theorem listContacts_page {limit i : Nat} {cs : List ContactOut}
    (h : listContacts db tenantId none none ⟨limit, i * limit⟩ = .contacts cs) :
    cs.map (·.id) =
      (page limit i ((db.contactStamps tenantId).insertionSort Stamp.Before)).map Prod.snd := by
  unfold listContacts at h
  simp only [Option.all_none, Bool.and_true] at h
  split at h
  · rename_i rows hrows
    cases h
    rw [Page.slice_eq_some hrows, Db.contactStamps,
      ← List.map_insertionSort (fun a b : Contact => olderFirst a.createdAt a.id b.createdAt b.id =
        true) Stamp.Before Contact.stamp _ fun _ _ _ _ => Iff.rfl, page_map, List.map_map,
      List.map_map]
    rfl
  · cases h

theorem newerFirst_iff (s s' : Session) :
    newerFirst s s' = true ↔ Stamp.Before s.stamp s'.stamp := by
  unfold Stamp.Before
  rw [olderFirst_iff]
  simp [newerFirst, Session.stamp]

/-- So are those of a page of sessions. -/
theorem listSessions_page {limit i : Nat} {ss : List SessionOut}
    (h : listSessions db tenantId none contactId none ⟨limit, i * limit⟩ = .sessions ss) :
    ss.map (·.id) = (page limit i
      ((db.sessionStamps tenantId contactId).insertionSort Stamp.Before)).map Prod.snd := by
  unfold listSessions at h
  simp only [Option.any_none, Bool.false_eq_true, if_false, Option.all_none, Bool.and_true] at h
  split at h
  · rename_i rows hrows
    cases h
    rw [Page.slice_eq_some hrows, Db.sessionStamps,
      ← List.map_insertionSort (fun a b : Session => newerFirst a b = true) Stamp.Before
        Session.stamp _ fun s _ s' _ => newerFirst_iff s s', page_map, List.map_map, List.map_map]
    rfl
  · cases h

/-! ## Statements and steps -/

/-- The time of a first binding of a phone. -/
def Action.binding : Action → Option Timestamp
  | .api inp _ (.putContact _) => some inp.now
  | _ => none

/-- A statement lets contacts join that are bound now. -/
theorem Write.contactStamps (h : Write env a db db') (tenantId : UUID) :
    Joined (fun k : Stamp => a.binding = some k.1) (db.contactStamps tenantId)
      (db'.contactStamps tenantId) := by
  cases h with
  | @contacts t h =>
    obtain ⟨news, hrows, hnews⟩ := h.appends (fun c => (c.tenantId, c.stamp)) fun c c' hchange => by
      cases hchange with
      | _ => rfl
    have hkeys : Joined (fun k : UUID × Stamp => a.binding = some k.2.1)
        (db.contacts.rows.map fun c => (c.tenantId, c.stamp))
        (t.rows.map fun c => (c.tenantId, c.stamp)) := by
      refine ⟨news, hrows, fun k hk => ?_⟩
      obtain ⟨c, hnew, rfl⟩ := hnews k hk
      cases hnew with
      | bind => rfl
    have hjoined := hkeys.map_filter (Q := fun k : Stamp => a.binding = some k.1)
      (fun k => k.1 == tenantId) (f := Prod.snd) fun _ hk => hk
    simpa [Db.contactStamps, List.filter_map, Function.comp_def] using hjoined
  | _ => exact .refl _

/-- A statement lets sessions join. -/
theorem Write.sessionStamps (h : Write env a db db') (tenantId : UUID) (contactId : Option UUID) :
    Joined (fun _ : Stamp => True) (db.sessionStamps tenantId contactId)
      (db'.sessionStamps tenantId contactId) := by
  cases h with
  | @sessions t h =>
    obtain ⟨news, hrows, -⟩ := h.appends (fun s => ((s.tenantId, s.contactId), s.stamp))
      fun s s' hchange => by
        cases hchange with
        | _ => rfl
    have hkeys : Joined (fun _ : (UUID × UUID) × Stamp => True)
        (db.sessions.rows.map fun s => ((s.tenantId, s.contactId), s.stamp))
        (t.rows.map fun s => ((s.tenantId, s.contactId), s.stamp)) :=
      ⟨news, hrows, fun _ _ => trivial⟩
    have hjoined := hkeys.map_filter (Q := fun _ : Stamp => True)
      (fun k => k.1.1 == tenantId && contactId.all (· == k.1.2)) (f := Prod.snd) fun _ hk => hk
    simpa [Db.sessionStamps, List.filter_map, Function.comp_def] using hjoined
  | _ => exact .refl _

theorem Writes.contactStamps (h : Writes env a db db') (tenantId : UUID) :
    Joined (fun k : Stamp => a.binding = some k.1) (db.contactStamps tenantId)
      (db'.contactStamps tenantId) := by
  induction h with
  | refl => exact .refl _
  | tail _ hlast ih => exact ih.trans (hlast.contactStamps tenantId)

theorem Writes.sessionStamps (h : Writes env a db db') (tenantId : UUID)
    (contactId : Option UUID) : Joined (fun _ : Stamp => True) (db.sessionStamps tenantId contactId)
      (db'.sessionStamps tenantId contactId) := by
  induction h with
  | refl => exact .refl _
  | tail _ hlast ih => exact ih.trans (hlast.sessionStamps tenantId contactId)

/-! ## Runs between two pages -/

/-- A phone is bound for the first time only when the clock is past every earlier first binding. -/
def BindsLater (w : World) (a : Action) : Prop :=
  ∀ now, a.binding = some now → ∀ c ∈ w.db.contacts.rows, c.createdAt < now

/-- Between two pages contacts join at the end. -/
theorem contacts_isPrefix {as : List Action} (h : run (worldStep env) w as = some w')
    (hlater : Meets (worldStep env) BindsLater w as) :
    (w.db.contactStamps tenantId).insertionSort Stamp.Before <+:
      (w'.db.contactStamps tenantId).insertionSort Stamp.Before := by
  refine run_preserves_of_meets (fun v : World =>
    (w.db.contactStamps tenantId).insertionSort Stamp.Before <+:
      (v.db.contactStamps tenantId).insertionSort Stamp.Before) ?_ h hlater List.prefix_rfl
  intro v a v' hv hbinds hstep
  refine hv.trans (((worldStep_writes hstep).contactStamps tenantId).isPrefix fun k hk k' hnow => ?_)
  obtain ⟨c, hc, rfl⟩ := List.mem_map.mp hk
  exact olderFirst_iff.mpr (Or.inl (hbinds k'.1 hnow c (List.mem_of_mem_filter hc)))

/-- Between two pages sessions join. -/
theorem sessions_sublist {as : List Action} (h : run (worldStep env) w as = some w') :
    ((w.db.sessionStamps tenantId contactId).insertionSort Stamp.Before).Sublist
      ((w'.db.sessionStamps tenantId contactId).insertionSort Stamp.Before) := by
  refine run_preserves (fun v : World =>
    ((w.db.sessionStamps tenantId contactId).insertionSort Stamp.Before).Sublist
      ((v.db.sessionStamps tenantId contactId).insertionSort Stamp.Before)) ?_ h (List.Sublist.refl _)
  intro v a v' hv hstep
  exact hv.trans (((worldStep_writes hstep).sessionStamps tenantId contactId).sublist _)

/-! ## Walks -/

/-- A client asks for page after page. Between two requests the service takes steps that meet a
condition; every page but the last is full. -/
structure PageWalk {γ : Type} (env : Env) (C : World → Action → Prop) (ask : Db → Page → Response)
    (answer : List γ → Response) (limit k : Nat) (worlds : Nat → World)
    (pages : Nat → List γ) : Prop where
  between : ∀ i < k, ∃ as, run (worldStep env) (worlds i) as = some (worlds (i + 1)) ∧
    Meets (worldStep env) C (worlds i) as
  answered : ∀ i ≤ k, ask (worlds i).db ⟨limit, i * limit⟩ = answer (pages i)
  full : ∀ i < k, (pages i).length = limit
  short : (pages k).length < limit

section PageWalk

variable {γ : Type} {C : World → Action → Prop} {ask : Db → Page → Response}
  {answer : List γ → Response} {limit k : Nat} {worlds : Nat → World} {pages : Nat → List γ}

/-- The walk of a client is one through the listings that its pages are of. -/
theorem PageWalk.walk (h : PageWalk env C ask answer limit k worlds pages) {id : γ → UUID}
    {all : Nat → List UUID} (hpage : ∀ i ≤ k, (pages i).map id = page limit i (all i)) :
    Walk limit k all := by
  constructor
  · intro i hi
    rw [← hpage i hi.le, List.length_map]
    exact h.full i hi
  · rw [← hpage k le_rfl, List.length_map]
    exact h.short

end PageWalk

/-- The contacts of a tenant have different ids. -/
theorem nodup_contactIds (db : Db) (tenantId : UUID) :
    ((db.contactStamps tenantId).map Prod.snd).Nodup := by
  rw [Db.contactStamps, List.map_map]
  refine (db.contacts.nodup_rows fun c => by simp [clash, sameKey]).filter _ |>.map_on ?_
  intro c hc c' hc' hid
  exact contact_eq_of_id (List.mem_of_mem_filter hc) (List.mem_of_mem_filter hc') hid

/-- A client that walks through the contacts of a tenant, while anything happens at the service in
between and the clock does not stand still between two first bindings, is answered every contact
that the tenant has at the last page, and each of them once. -/
theorem contact_pages_complete (env : Env) {limit k : Nat} {worlds : Nat → World}
    {pages : Nat → List ContactOut}
    (h : PageWalk env BindsLater (fun db page => listContacts db tenantId none none page) .contacts
      limit k worlds pages) :
    (((List.range (k + 1)).flatMap pages).map (·.id)).Nodup ∧
      ∀ id, id ∈ ((List.range (k + 1)).flatMap pages).map (·.id) ↔
        ∃ c ∈ (worlds k).db.contacts.rows, c.tenantId = tenantId ∧ c.id = id := by
  have hpage : ∀ i ≤ k, (pages i).map (·.id) = page limit i
      ((((worlds i).db.contactStamps tenantId).insertionSort Stamp.Before).map Prod.snd) := by
    intro i hi
    rw [page_map]
    exact listContacts_page (h.answered i hi)
  have hgrow : ∀ i < k,
      (((worlds i).db.contactStamps tenantId).insertionSort Stamp.Before).map Prod.snd <+:
        (((worlds (i + 1)).db.contactStamps tenantId).insertionSort Stamp.Before).map Prod.snd := by
    intro i hi
    obtain ⟨as, hrun, hmeets⟩ := h.between i hi
    exact (contacts_isPrefix hrun hmeets).map Prod.snd
  have hids : ((List.range (k + 1)).flatMap pages).map (·.id) =
      (((worlds k).db.contactStamps tenantId).insertionSort Stamp.Before).map Prod.snd := by
    rw [← (h.walk hpage).flatMap_eq hgrow, List.map_flatMap]
    exact List.flatMap_congr fun i hi => hpage i (Nat.le_of_lt_succ (List.mem_range.mp hi))
  have hperm := (List.perm_insertionSort Stamp.Before
    ((worlds k).db.contactStamps tenantId)).map Prod.snd
  rw [hids]
  refine ⟨hperm.nodup_iff.mpr (nodup_contactIds _ tenantId), fun id => ?_⟩
  rw [hperm.mem_iff]
  simp [Db.contactStamps, Contact.stamp, and_assoc]

/-! ## A contact bound between two pages -/

/-- The directory after a first contact, and after a second one. -/
def firstBound : Db :=
  (putContact .empty ⟨0, 0, 5, fun _ => .raised⟩ 2 ⟨"+919876543210", 6, 3, .en, .active⟩).1

def bothBound : Db :=
  (putContact firstBound ⟨1, 1, 4, fun _ => .raised⟩ 2 ⟨"+919876543211", 7, 3, .en, .active⟩).1

def boundPages : Nat → List ContactOut
  | 0 => [⟨5, "+919876543210", 6, 2, some 3, .active, .en, none, 0⟩]
  | 1 => [⟨4, "+919876543211", 7, 2, some 3, .active, .en, none, 1⟩]
  | _ => []

/-- The second contact joins after the first page was read. -/
theorem bound_pageWalk : PageWalk photoEnv BindsLater
    (fun db page => listContacts db 2 none none page) .contacts 1 2
    (fun i => if i = 0 then ⟨firstBound, []⟩ else ⟨bothBound, []⟩) boundPages where
  between := by
    intro i hi
    interval_cases i
    · refine ⟨[.api ⟨1, 1, 4, fun _ => .raised⟩ 2
        (.putContact ⟨"+919876543211", 7, 3, .en, .active⟩)], rfl, ?_, fun _ _ => trivial⟩
      rintro now hnow c hc
      cases hnow
      have hrows : firstBound.contacts.rows =
          [newContact 5 0 2 ⟨"+919876543210", 6, 3, .en, .active⟩] := by rfl
      simp only [if_pos, hrows, List.mem_singleton] at hc
      subst hc
      decide
    · exact ⟨[], rfl, trivial⟩
  answered := by
    intro i hi
    interval_cases i
    · rfl
    · rfl
    · rfl
  full := by
    intro i hi
    interval_cases i
    · rfl
    · rfl
  short := by decide

/-- Both contacts are answered. -/
theorem contact_pages_complete_bothBound :
    (((List.range 3).flatMap boundPages).map (·.id)).Nodup ∧
      ∀ id, id ∈ ((List.range 3).flatMap boundPages).map (·.id) ↔
        ∃ c ∈ bothBound.contacts.rows, c.tenantId = 2 ∧ c.id = id :=
  contact_pages_complete photoEnv bound_pageWalk

/-! ## Sessions -/

/-- A client that walks through the sessions of a tenant, or of one contact of it, is answered every
session that there was at the first page, whatever happens at the service in between. -/
theorem session_pages_cover (env : Env) {limit k : Nat} {worlds : Nat → World}
    {pages : Nat → List SessionOut}
    (h : PageWalk env (fun _ _ => True)
      (fun db page => listSessions db tenantId none contactId none page) .sessions
      limit k worlds pages) {s : Session} (hs : s ∈ (worlds 0).db.sessions.rows)
    (htenant : s.tenantId = tenantId) (hcontact : ∀ c ∈ contactId, s.contactId = c) :
    ∃ i ≤ k, ∃ o ∈ pages i, o.id = s.id := by
  have hpage : ∀ i ≤ k, (pages i).map (·.id) = page limit i
      ((((worlds i).db.sessionStamps tenantId contactId).insertionSort Stamp.Before).map
        Prod.snd) := by
    intro i hi
    rw [page_map]
    exact listSessions_page (h.answered i hi)
  have hfirst : s.id ∈ (((worlds 0).db.sessionStamps tenantId contactId).insertionSort
      Stamp.Before).map Prod.snd := by
    refine List.mem_map.mpr ⟨s.stamp, ?_, rfl⟩
    rw [List.mem_insertionSort]
    refine List.mem_map_of_mem (List.mem_filter.mpr ⟨hs, ?_⟩)
    simp only [Bool.and_eq_true, beq_iff_eq, Option.all_eq_true]
    exact ⟨htenant, fun c hc => (hcontact c hc).symm⟩
  obtain ⟨i, hi, hmem⟩ := (h.walk hpage).covers (fun i hi => by
    obtain ⟨as, hrun, -⟩ := h.between i hi
    exact (sessions_sublist hrun).map Prod.snd) hfirst
  rw [← hpage i hi] at hmem
  obtain ⟨o, ho, hid⟩ := List.mem_map.mp hmem
  exact ⟨i, hi, o, ho, hid⟩

/-- A photo of a colleague. -/
def colleaguePhoto : Json :=
  webhookBody [entryOf [changeValue "PN1" ["919876543211"]
    [mediaMessage "wamid.2" "919876543211" "image" "media.2"]]]

/-- Both photos are on record. -/
def pairEnv : Env := .ofRecording "secret" [([1], "a1", photoPayload), ([2], "a2", colleaguePhoto)]

/-- The colleague is bound and sends a photo. -/
def colleagueArrives : List Action :=
  [.api ⟨1, 1, 4, fun _ => .raised⟩ 2 (.putContact ⟨"+919876543211", 7, 3, .en, .active⟩),
    .webhook 2 [2] (some "sha256=a2") true,
    .execute (.processInboxRow 2 ⟨1, 8, fun n => 200 + BitVec.ofNat 128 n, fun _ => true⟩) false]

/-- The sessions of an answer. -/
def Response.sessionPage : Response → List SessionOut
  | .sessions ss => ss
  | _ => []

theorem listSessions_sessionPage {page : Page} (h : page.offset < 2 ^ 63) :
    listSessions db tenantId none contactId none page =
      .sessions (listSessions db tenantId none contactId none page).sessionPage := by
  unfold listSessions Page.slice
  simp only [Option.any_none, Bool.false_eq_true, if_false, if_pos h]
  rfl

/-- The first page is read before the colleague arrives, and the others after that. -/
def colleagueWorlds (w₀ w₁ : World) (i : Nat) : World := if i = 0 then w₀ else w₁

def colleaguePages (w₀ w₁ : World) (i : Nat) : List SessionOut :=
  (listSessions (colleagueWorlds w₀ w₁ i).db 2 none none none ⟨1, i * 1⟩).sessionPage

/-- The session of the colleague joins at the front, and the first session is answered again. -/
theorem session_pages_cover_colleague :
    ∃ w₀ w₁, run (worldStep pairEnv) ⟨.empty, []⟩ firstPhoto = some w₀ ∧
      run (worldStep pairEnv) w₀ colleagueArrives = some w₁ ∧
      (List.range 3).map (fun i => (colleaguePages w₀ w₁ i).map (·.id)) = [[7], [7], []] ∧
      ∀ s ∈ w₀.db.sessions.rows, s.tenantId = 2 →
        ∃ i ≤ 2, ∃ o ∈ colleaguePages w₀ w₁ i, o.id = s.id := by
  have hruns : ((run (worldStep pairEnv) ⟨.empty, []⟩ firstPhoto).bind fun w₀ =>
      (run (worldStep pairEnv) w₀ colleagueArrives).map fun w₁ =>
        (List.range 3).map fun i => (colleaguePages w₀ w₁ i).map (·.id)) =
      some [[7], [7], []] := by decide +kernel
  obtain ⟨w₀, hw₀, hrest⟩ := Option.bind_eq_some_iff.mp hruns
  obtain ⟨w₁, hw₁, hids⟩ := Option.map_eq_some_iff.mp hrest
  have hlengths : [(colleaguePages w₀ w₁ 0).length, (colleaguePages w₀ w₁ 1).length,
      (colleaguePages w₀ w₁ 2).length] = [1, 1, 0] := by
    have hshown := congrArg (List.map List.length) hids
    simpa [List.range_succ] using hshown
  simp only [List.cons.injEq, and_true] at hlengths
  have hwalk : PageWalk pairEnv (fun _ _ => True)
      (fun db page => listSessions db 2 none none none page) .sessions 1 2
      (colleagueWorlds w₀ w₁) (colleaguePages w₀ w₁) := by
    constructor
    · intro i hi
      interval_cases i
      · exact ⟨colleagueArrives, hw₁, Meets.of_forall (fun _ _ => trivial) _ _⟩
      · exact ⟨[], rfl, trivial⟩
    · intro i hi
      exact listSessions_sessionPage (by simp only; omega)
    · intro i hi
      interval_cases i
      · exact hlengths.1
      · exact hlengths.2.1
    · rw [hlengths.2.2]
      decide
  exact ⟨w₀, w₁, hw₀, hw₁, hids, fun s hs htenant =>
    session_pages_cover pairEnv hwalk hs htenant nofun⟩

end WaService
