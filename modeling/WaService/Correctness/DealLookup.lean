import Mathlib.Algebra.Order.Ring.Unbundled.Rat
import Mathlib.Tactic.NormNum
import WaService.Core.Best
import WaService.Deal.Builder

/-!
# What the deal lookup finds

`find_existing_deal` reads one row of the second query, the most similar one above the bound of the
operator `%`, and compares it with a higher threshold. Since the row is a best one, it passes the
threshold whenever some deal does.
-/

namespace WaService

open Python Relational

/-- The deals of a tenant with a booking number. -/
def bookedDeals (db : Db) (tenantId : UUID) (number : String) : Set Deal :=
  {d ∈ db.deals.rows | d.tenantId = tenantId ∧ d.bookingNumber = number}

/-- The parameters of the second query. -/
structure NameQuery where
  customer : String
  model : String
  date : Option Int

/-- The parameters as the database takes them. -/
def NameQuery.ofParams (env : Env) (customerName model bookingDate : Json) :
    Except Error NameQuery := do
  let customer ← selectText customerName
  let modelText ← selectText model
  let date ← sqlDate env bookingDate
  return ⟨customer, modelText, date⟩

/-- The similarity of the deal's customer name to the one asked for. -/
def NameQuery.score (env : Env) (q : NameQuery) (d : Deal) : Rat :=
  (dealSimilarity env q.customer d).getD 0

/-- The date lies within the window around the day, if one is given. -/
def WithinDays (day date : Option Int) : Prop :=
  ∀ x ∈ day, ∃ b ∈ date, x - dateWindowDays ≤ b ∧ b ≤ x + dateWindowDays

/-- The deals of the tenant and the model within the date window whose customer name is similar to
the one asked for, by a threshold. -/
def NameQuery.similarDeals (env : Env) (db : Db) (tenantId : UUID) (q : NameQuery)
    (threshold : Rat) : Set Deal :=
  {d ∈ db.deals.rows | d.tenantId = tenantId ∧ d.model = some q.model ∧
    WithinDays q.date d.bookingDate ∧
    ∃ name ∈ d.customerName, threshold ≤ env.similarity name q.customer}

/-- The match that the second lookup returns. -/
def DealMatch.ofSimilar (env : Env) (q : NameQuery) (d : Deal) : DealMatch :=
  ⟨d.id, d.bookingNumber, d.model, d.state, false, some (q.score env d)⟩

/-- A customer name that is not empty, and a model. -/
def Searchable (customerName model : Json) : Prop := customerName.truthy = true ∧ model ≠ .null

/-- The right answer: the deal of the booking number, else a most similar deal, else none. -/
inductive RightDeal (env : Env) (db : Db) (tenantId : UUID) (number : String)
    (customerName model bookingDate : Json) : Option DealMatch → Prop
  | exact {d : Deal} (hd : d ∈ bookedDeals db tenantId number) :
    RightDeal env db tenantId number customerName model bookingDate (some (.ofExact d))
  | similar {d : Deal} {q : NameQuery} (hnew : bookedDeals db tenantId number = ∅)
      (hsearch : Searchable customerName model)
      (hq : NameQuery.ofParams env customerName model bookingDate = .ok q)
      (hbest : Best (q.score env) (q.similarDeals env db tenantId fuzzyThreshold) d) :
    RightDeal env db tenantId number customerName model bookingDate (some (.ofSimilar env q d))
  | dissimilar {q : NameQuery} (hnew : bookedDeals db tenantId number = ∅)
      (hsearch : Searchable customerName model)
      (hq : NameQuery.ofParams env customerName model bookingDate = .ok q)
      (hnone : q.similarDeals env db tenantId fuzzyThreshold = ∅) :
    RightDeal env db tenantId number customerName model bookingDate none
  | unsearchable (hnew : bookedDeals db tenantId number = ∅)
      (hsearch : ¬ Searchable customerName model) :
    RightDeal env db tenantId number customerName model bookingDate none

section Lookup

variable {env : Env} {db : Db} {tenantId : UUID}

/-- The first query finds the deal of the booking number. -/
theorem dealOfBooking_eq_some {number : String} {d : Deal}
    (h : dealOfBooking db tenantId number = some d) : d ∈ bookedDeals db tenantId number :=
  dealOfBooking_some h

/-- The first query finds nothing when no deal has the booking number. -/
theorem dealOfBooking_eq_none {number : String} (h : dealOfBooking db tenantId number = none) :
    bookedDeals db tenantId number = ∅ := by
  apply Set.eq_empty_of_forall_notMem
  rintro d ⟨hd, htenant, hnumber⟩
  have hnot := List.find?_eq_none.mp h d hd
  simp [htenant, hnumber] at hnot

/-- The rows of the second query are the deals above the bound of `%`. -/
theorem fuzzyCandidate_iff {q : NameQuery} {d : Deal} :
    d ∈ db.deals.rows.filter (fuzzyCandidate env tenantId q.customer q.model q.date) ↔
      d ∈ q.similarDeals env db tenantId trigramThreshold := by
  rw [List.mem_filter]
  refine and_congr_right fun _ => ?_
  simp only [fuzzyCandidate, dealSimilarity, Bool.and_eq_true, beq_iff_eq, and_assoc]
  refine and_congr_right fun _ => and_congr_right fun _ => ?_
  rw [and_comm]
  refine and_congr ?_ ?_
  · unfold WithinDays
    cases q.date with
    | none => simp
    | some day =>
      cases d.bookingDate with
      | none => simp
      | some b => simp
  · cases d.customerName with
    | none => simp
    | some name => simp

/-- The deals that reach the second threshold are those of the query that do. -/
theorem similarDeals_above (q : NameQuery) :
    above (q.score env) (q.similarDeals env db tenantId trigramThreshold) fuzzyThreshold =
      q.similarDeals env db tenantId fuzzyThreshold := by
  have hthresholds : trigramThreshold ≤ fuzzyThreshold := by
    norm_num [trigramThreshold, fuzzyThreshold]
  ext d
  constructor
  · rintro ⟨⟨hd, htenant, hmodel, hdate, name, hname, -⟩, hreach⟩
    refine ⟨hd, htenant, hmodel, hdate, name, hname, ?_⟩
    simpa [NameQuery.score, dealSimilarity, Option.mem_def.mp hname] using hreach
  · rintro ⟨hd, htenant, hmodel, hdate, name, hname, hreach⟩
    refine ⟨⟨hd, htenant, hmodel, hdate, name, hname, hthresholds.trans hreach⟩, ?_⟩
    simpa [NameQuery.score, dealSimilarity, Option.mem_def.mp hname] using hreach

/-- The row of the second query is a best one, and there is none when no deal qualifies. -/
theorem bestCandidate_cases (q : NameQuery) :
    (∃ d, bestCandidate env db tenantId q.customer q.model q.date = some d ∧
      Best (q.score env) (q.similarDeals env db tenantId trigramThreshold) d) ∨
    (bestCandidate env db tenantId q.customer q.model q.date = none ∧
      q.similarDeals env db tenantId trigramThreshold = ∅) := by
  have hrows : {d | d ∈ db.deals.rows.filter
      (fuzzyCandidate env tenantId q.customer q.model q.date)} =
        q.similarDeals env db tenantId trigramThreshold := by
    ext d
    exact fuzzyCandidate_iff
  cases hbest : bestCandidate env db tenantId q.customer q.model q.date with
  | some d => exact Or.inl ⟨d, rfl, hrows ▸ best_of_head? hbest⟩
  | none =>
    have hempty := head?_insertionSort_eq_none.mp hbest
    rw [hempty] at hrows
    exact Or.inr ⟨rfl, by rw [← hrows]; simp⟩

/-- What the second query answers. -/
def NameQuery.answer (env : Env) (db : Db) (tenantId : UUID) (q : NameQuery) : Option DealMatch :=
  match bestCandidate env db tenantId q.customer q.model q.date with
  | none => none
  | some d => if q.score env d < fuzzyThreshold then none else some (.ofSimilar env q d)

/-- Without a name or a model the second query is not made. -/
theorem fuzzyMatch_of_not_searchable {customerName model bookingDate : Json}
    (h : ¬ Searchable customerName model) :
    fuzzyMatch env db tenantId customerName model bookingDate = .ok none := by
  unfold fuzzyMatch
  split
  · rfl
  · rfl
  · rename_i htruthy hmodel
    exact absurd ⟨htruthy, hmodel⟩ h

/-- With them the answer is that of the query, if the database takes its parameters. -/
theorem fuzzyMatch_of_searchable {customerName model bookingDate : Json}
    (h : Searchable customerName model) :
    fuzzyMatch env db tenantId customerName model bookingDate =
      (NameQuery.ofParams env customerName model bookingDate).map
        (NameQuery.answer env db tenantId) := by
  unfold fuzzyMatch
  split
  · rename_i hfalsy
    rw [h.1] at hfalsy
    cases hfalsy
  · exact absurd rfl h.2
  · rename_i given _ _ _ _
    unfold NameQuery.ofParams
    cases selectText customerName with
    | error e => rfl
    | ok customer =>
      cases selectText given with
      | error e => rfl
      | ok modelText =>
        cases sqlDate env bookingDate with
        | error e => rfl
        | ok date =>
          simp only [bind, Except.bind, pure, Except.pure, Except.map, NameQuery.answer]
          cases bestCandidate env db tenantId customer modelText date with
          | none => rfl
          | some d => exact (apply_ite Except.ok _ _ _).symm

/-- The answer of the query is a most similar deal, or none is similar. -/
theorem NameQuery.answer_right (q : NameQuery) :
    (∃ d, q.answer env db tenantId = some (.ofSimilar env q d) ∧
      Best (q.score env) (q.similarDeals env db tenantId fuzzyThreshold) d) ∨
    (q.answer env db tenantId = none ∧ q.similarDeals env db tenantId fuzzyThreshold = ∅) := by
  unfold NameQuery.answer
  rw [← similarDeals_above]
  obtain ⟨d, hrow, hbest⟩ | ⟨hrow, hnone⟩ := @bestCandidate_cases env db tenantId q
  · rw [hrow]
    by_cases hreach : q.score env d < fuzzyThreshold
    · exact Or.inr ⟨if_pos hreach, hbest.above_eq_empty hreach⟩
    · exact Or.inl ⟨d, if_neg hreach, hbest.above (not_lt.mp hreach)⟩
  · rw [hrow, hnone]
    exact Or.inr ⟨rfl, Set.eq_empty_of_forall_notMem fun _ h => h.1⟩

end Lookup

/-- The lookup returns the right deal, never one of another tenant. It raises only when the database
refuses one of its parameters. -/
theorem find_existing_deal_right (env : Env) (db : Db) (tenantId : UUID)
    (bookingNumber customerName model bookingDate : Json) :
    (∀ found,
      findExistingDeal env db tenantId bookingNumber customerName model bookingDate = .ok found →
      (∃ number, selectText bookingNumber = .ok number ∧
        RightDeal env db tenantId number customerName model bookingDate found) ∧
      ∀ m ∈ found, ∃ d ∈ db.deals.rows, d.id = m.dealId ∧ d.tenantId = tenantId) ∧
    ∀ e,
      findExistingDeal env db tenantId bookingNumber customerName model bookingDate = .error e →
      selectText bookingNumber = .error e ∨
        Searchable customerName model ∧
          NameQuery.ofParams env customerName model bookingDate = .error e := by
  constructor
  · intro found hfound
    refine ⟨?_, fun m hm => findExistingDeal_some (hm ▸ hfound)⟩
    rw [findExistingDeal_eq] at hfound
    obtain ⟨number, hnumber, hfound⟩ := bind_eq_ok.mp hfound
    refine ⟨number, hnumber, ?_⟩
    cases hbooked : dealOfBooking db tenantId number with
    | some d =>
      rw [hbooked] at hfound
      cases hfound
      exact .exact (dealOfBooking_eq_some hbooked)
    | none =>
      have hnew := dealOfBooking_eq_none hbooked
      simp only [hbooked] at hfound
      by_cases hsearch : Searchable customerName model
      · rw [fuzzyMatch_of_searchable hsearch] at hfound
        obtain ⟨q, hq, rfl⟩ := map_eq_ok.mp hfound
        obtain ⟨d, hanswer, hbest⟩ | ⟨hanswer, hnone⟩ := @NameQuery.answer_right env db tenantId q
        · rw [hanswer]
          exact .similar hnew hsearch hq hbest
        · rw [hanswer]
          exact .dissimilar hnew hsearch hq hnone
      · rw [fuzzyMatch_of_not_searchable hsearch] at hfound
        cases hfound
        exact .unsearchable hnew hsearch
  · intro e hfound
    rw [findExistingDeal_eq] at hfound
    obtain hnumber | ⟨number, -, hfound⟩ := bind_eq_error.mp hfound
    · exact Or.inl hnumber
    · cases hbooked : dealOfBooking db tenantId number with
      | some d =>
        rw [hbooked] at hfound
        cases hfound
      | none =>
        simp only [hbooked] at hfound
        by_cases hsearch : Searchable customerName model
        · rw [fuzzyMatch_of_searchable hsearch] at hfound
          refine Or.inr ⟨hsearch, ?_⟩
          cases hq : NameQuery.ofParams env customerName model bookingDate with
          | error e' =>
            rw [hq] at hfound
            cases hfound
            rfl
          | ok q =>
            rw [hq] at hfound
            cases hfound
        · rw [fuzzyMatch_of_not_searchable hsearch] at hfound
          cases hfound

end WaService
