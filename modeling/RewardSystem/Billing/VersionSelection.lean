import Mathlib
import RewardSystem.Billing.UsageFees
import RewardSystem.Lib.Upserts

/-!
# Which version bills a period

The versions of a billing account are compared by the time from which they are effective and then by
their ids. One scan keeps the last version that is effective at the start of the period and the first
that becomes effective within it.
-/

namespace RewardSystem.Billing

/-- A row of `saas_billing_account_versions`; times are in milliseconds. -/
structure BillingAccountVersionRow where
  id : Nat
  effectiveAt : Int
  version : BillingAccountVersion

structure BillingPeriod where
  periodStart : Int
  periodEnd : Int
  start_lt_end : periodStart < periodEnd

/-- The times are those of the request where it has some, else those of the default period. -/
def resolveBillingPeriod (payload : Option Int × Option Int) (defaults : Int × Int) :
    Except ApiError BillingPeriod :=
  let periodStart := payload.1.getD defaults.1
  let periodEnd := payload.2.getD defaults.2
  if h : periodStart < periodEnd then
    .ok ⟨periodStart, periodEnd, h⟩
  else
    .error (.badRequest "Billing period end must be after period start.")

structure VersionScan where
  latestAtOrBeforeStart : Option BillingAccountVersionRow
  earliestWithinPeriod : Option BillingAccountVersionRow

def isLaterVersion (row latest : BillingAccountVersionRow) : Prop :=
  latest.effectiveAt < row.effectiveAt ∨ row.effectiveAt = latest.effectiveAt ∧ latest.id < row.id

def isEarlierVersion (row earliest : BillingAccountVersionRow) : Prop :=
  row.effectiveAt < earliest.effectiveAt ∨
    row.effectiveAt = earliest.effectiveAt ∧ row.id < earliest.id

instance (row latest : BillingAccountVersionRow) : Decidable (isLaterVersion row latest) :=
  inferInstanceAs (Decidable (_ ∨ _))

instance (row earliest : BillingAccountVersionRow) : Decidable (isEarlierVersion row earliest) :=
  inferInstanceAs (Decidable (_ ∨ _))

def scanVersion (period : BillingPeriod) (scan : VersionScan) (row : BillingAccountVersionRow) :
    VersionScan :=
  if row.effectiveAt ≤ period.periodStart then
    match scan.latestAtOrBeforeStart with
    | none => { scan with latestAtOrBeforeStart := some row }
    | some latest =>
        if isLaterVersion row latest then { scan with latestAtOrBeforeStart := some row } else scan
  else if period.periodEnd ≤ row.effectiveAt then
    scan
  else
    match scan.earliestWithinPeriod with
    | none => { scan with earliestWithinPeriod := some row }
    | some earliest =>
        if isEarlierVersion row earliest then { scan with earliestWithinPeriod := some row }
        else scan

def selectBillingAccountVersionForPeriod (rows : List BillingAccountVersionRow)
    (period : BillingPeriod) : Option BillingAccountVersionRow :=
  let scan := rows.foldl (scanVersion period) ⟨none, none⟩
  scan.latestAtOrBeforeStart.or scan.earliestWithinPeriod

section Order

def versionOrder (row : BillingAccountVersionRow) : ℤ ×ₗ ℕ :=
  toLex (row.effectiveAt, row.id)

variable {row other : BillingAccountVersionRow}

theorem versionOrder_lt : versionOrder other < versionOrder row ↔
    other.effectiveAt < row.effectiveAt ∨ other.effectiveAt = row.effectiveAt ∧ other.id < row.id :=
  Prod.Lex.toLex_lt_toLex

theorem versionOrder_le : versionOrder other ≤ versionOrder row ↔
    other.effectiveAt < row.effectiveAt ∨ other.effectiveAt = row.effectiveAt ∧ other.id ≤ row.id :=
  Prod.Lex.toLex_le_toLex

theorem isLaterVersion_iff : isLaterVersion row other ↔ versionOrder other < versionOrder row := by
  rw [versionOrder_lt, isLaterVersion, eq_comm]

theorem isEarlierVersion_iff :
    isEarlierVersion row other ↔ versionOrder row < versionOrder other :=
  versionOrder_lt.symm

/-- The rows that the scan takes for the latest and for the earliest version. -/
def effectiveAtStart (period : BillingPeriod) (rows : List BillingAccountVersionRow) :
    List BillingAccountVersionRow :=
  rows.filter fun row => row.effectiveAt ≤ period.periodStart

def effectiveWithin (period : BillingPeriod) (rows : List BillingAccountVersionRow) :
    List BillingAccountVersionRow :=
  rows.filter fun row => period.periodStart < row.effectiveAt ∧ row.effectiveAt < period.periodEnd

theorem effectiveAtStart_append (period : BillingPeriod) (rows : List BillingAccountVersionRow)
    (row : BillingAccountVersionRow) : effectiveAtStart period (rows ++ [row]) =
      if row.effectiveAt ≤ period.periodStart then effectiveAtStart period rows ++ [row]
      else effectiveAtStart period rows := by
  unfold effectiveAtStart
  rw [List.filter_append]
  split_ifs with h <;> simp [h]

theorem effectiveWithin_append (period : BillingPeriod) (rows : List BillingAccountVersionRow)
    (row : BillingAccountVersionRow) : effectiveWithin period (rows ++ [row]) =
      if period.periodStart < row.effectiveAt ∧ row.effectiveAt < period.periodEnd then
        effectiveWithin period rows ++ [row]
      else effectiveWithin period rows := by
  unfold effectiveWithin
  rw [List.filter_append]
  split_ifs with h
  · simp [h]
  · rw [List.filter_singleton, decide_eq_false h]
    exact List.append_nil _

theorem foldl_scanVersion (period : BillingPeriod) (rows : List BillingAccountVersionRow) :
    rows.foldl (scanVersion period) ⟨none, none⟩ =
      ⟨(effectiveAtStart period rows).argmax versionOrder,
        (effectiveWithin period rows).argmin versionOrder⟩ := by
  induction rows using List.reverseRecOn with
  | nil => rfl
  | append_singleton rows row ih =>
      rw [List.foldl_append, ih, List.foldl_cons, List.foldl_nil, effectiveAtStart_append,
        effectiveWithin_append, scanVersion]
      by_cases hstart : row.effectiveAt ≤ period.periodStart
      · have hwithin : ¬(period.periodStart < row.effectiveAt ∧
            row.effectiveAt < period.periodEnd) := fun h => absurd h.1 (not_lt.mpr hstart)
        rw [if_pos hstart, if_pos hstart, if_neg hwithin, List.argmax_concat]
        cases (effectiveAtStart period rows).argmax versionOrder with
        | none => rfl
        | some latest =>
            simp only [isLaterVersion_iff]
            split_ifs <;> rfl
      · rw [if_neg hstart, if_neg hstart]
        by_cases hend : period.periodEnd ≤ row.effectiveAt
        · have hwithin : ¬(period.periodStart < row.effectiveAt ∧
              row.effectiveAt < period.periodEnd) := fun h => absurd h.2 (not_lt.mpr hend)
          rw [if_pos hend, if_neg hwithin]
        · rw [if_neg hend, if_pos ⟨not_le.mp hstart, not_le.mp hend⟩, List.argmin_concat]
          cases (effectiveWithin period rows).argmin versionOrder with
          | none => rfl
          | some earliest =>
              simp only [isEarlierVersion_iff]
              split_ifs <;> rfl

theorem selectBillingAccountVersionForPeriod_eq (rows : List BillingAccountVersionRow)
    (period : BillingPeriod) :
    selectBillingAccountVersionForPeriod rows period =
      ((effectiveAtStart period rows).argmax versionOrder).or
        ((effectiveWithin period rows).argmin versionOrder) := by
  rw [selectBillingAccountVersionForPeriod, foldl_scanVersion]

end Order

section InForce

variable {period : BillingPeriod} {rows rows' : List BillingAccountVersionRow}

inductive InForce (period : BillingPeriod) (rows : List BillingAccountVersionRow) :
    Option BillingAccountVersionRow → Prop
  | atStart {row : BillingAccountVersionRow} (hmem : row ∈ rows)
      (hstart : row.effectiveAt ≤ period.periodStart)
      (hlatest : ∀ other ∈ rows, other.effectiveAt ≤ period.periodStart →
        other.effectiveAt < row.effectiveAt ∨
          other.effectiveAt = row.effectiveAt ∧ other.id ≤ row.id) :
      InForce period rows (some row)
  | within {row : BillingAccountVersionRow} (hmem : row ∈ rows)
      (hnone : ∀ other ∈ rows, period.periodStart < other.effectiveAt)
      (hend : row.effectiveAt < period.periodEnd)
      (hearliest : ∀ other ∈ rows, row.effectiveAt < other.effectiveAt ∨
        row.effectiveAt = other.effectiveAt ∧ row.id ≤ other.id) :
      InForce period rows (some row)
  | nothing (hnone : ∀ other ∈ rows, period.periodEnd ≤ other.effectiveAt) :
      InForce period rows none

theorem inForce_select (period : BillingPeriod) (rows : List BillingAccountVersionRow) :
    InForce period rows (selectBillingAccountVersionForPeriod rows period) := by
  rw [selectBillingAccountVersionForPeriod_eq]
  cases hlatest : (effectiveAtStart period rows).argmax versionOrder with
  | some row =>
      obtain ⟨hmem, hstart⟩ := List.mem_filter.mp (List.argmax_mem hlatest)
      refine .atStart hmem (of_decide_eq_true hstart) fun other hother hbefore => ?_
      exact versionOrder_le.mp
        (List.le_of_mem_argmax (List.mem_filter.mpr ⟨hother, decide_eq_true hbefore⟩) hlatest)
  | none =>
      have hnone : ∀ other ∈ rows, period.periodStart < other.effectiveAt := by
        have hempty := List.filter_eq_nil_iff.mp (List.argmax_eq_none.mp hlatest)
        intro other hother
        exact not_le.mp fun h => hempty other hother (decide_eq_true h)
      rw [Option.none_or]
      cases hearliest : (effectiveWithin period rows).argmin versionOrder with
      | some row =>
          obtain ⟨hmem, hwithin⟩ := List.mem_filter.mp (List.argmin_mem hearliest)
          have hend := (of_decide_eq_true hwithin).2
          refine .within hmem hnone hend fun other hother => ?_
          by_cases hlate : period.periodEnd ≤ other.effectiveAt
          · exact .inl (hend.trans_le hlate)
          · exact versionOrder_le.mp (List.le_of_mem_argmin (List.mem_filter.mpr
              ⟨hother, decide_eq_true ⟨hnone other hother, not_le.mp hlate⟩⟩) hearliest)
      | none =>
          have hempty := List.filter_eq_nil_iff.mp (List.argmin_eq_none.mp hearliest)
          refine .nothing fun other hother => not_lt.mp fun h => ?_
          exact hempty other hother (decide_eq_true ⟨hnone other hother, h⟩)

theorem eq_of_versionOrder_eq (hids : Keyed.HasKeys BillingAccountVersionRow.id rows)
    {row other : BillingAccountVersionRow} (hrow : row ∈ rows) (hother : other ∈ rows)
    (heq : versionOrder row = versionOrder other) : row = other := by
  have hid : row.id = other.id := congrArg (fun key => (ofLex key).2) heq
  exact Keyed.eq_of_key_eq hids hrow hother hid

theorem InForce.unique (hids : Keyed.HasKeys BillingAccountVersionRow.id rows)
    {first second : Option BillingAccountVersionRow} (h : InForce period rows first)
    (h' : InForce period rows second) : first = second := by
  have hlength := period.start_lt_end
  cases h with
  | @atStart row hmem hstart hlatest =>
      cases h' with
      | @atStart other hmem' hstart' hlatest' =>
          have hle := versionOrder_le.mpr (hlatest other hmem' hstart')
          have hge := versionOrder_le.mpr (hlatest' row hmem hstart)
          rw [eq_of_versionOrder_eq hids hmem hmem' (le_antisymm hge hle)]
      | within _ hnone _ _ => exact absurd (hnone row hmem) (not_lt.mpr hstart)
      | nothing hnone => exact absurd (hnone row hmem) (by omega)
  | @within row hmem hnone hend hearliest =>
      cases h' with
      | atStart hmem' hstart' _ => exact absurd (hnone _ hmem') (not_lt.mpr hstart')
      | @within other hmem' _ _ hearliest' =>
          have hle := versionOrder_le.mpr (hearliest other hmem')
          have hge := versionOrder_le.mpr (hearliest' row hmem)
          rw [eq_of_versionOrder_eq hids hmem hmem' (le_antisymm hle hge)]
      | nothing hnone' => exact absurd (hnone' row hmem) (not_le.mpr hend)
  | nothing hnone =>
      cases h' with
      | atStart hmem hstart _ => exact absurd (hnone _ hmem) (by omega)
      | within hmem _ hend _ => exact absurd (hnone _ hmem) (not_le.mpr hend)
      | nothing _ => rfl

theorem InForce.perm {selected : Option BillingAccountVersionRow} (hperm : rows.Perm rows')
    (h : InForce period rows selected) : InForce period rows' selected := by
  have hmem : ∀ {row}, row ∈ rows' ↔ row ∈ rows := hperm.mem_iff.symm
  cases h with
  | atStart hrow hstart hlatest =>
      exact .atStart (hmem.mpr hrow) hstart fun other hother => hlatest other (hmem.mp hother)
  | within hrow hnone hend hearliest =>
      exact .within (hmem.mpr hrow) (fun other hother => hnone other (hmem.mp hother)) hend
        fun other hother => hearliest other (hmem.mp hother)
  | nothing hnone => exact .nothing fun other hother => hnone other (hmem.mp hother)

theorem select_filter {late : BillingAccountVersionRow}
    (hlate : period.periodEnd ≤ late.effectiveAt) (before after : List BillingAccountVersionRow) :
    selectBillingAccountVersionForPeriod (before ++ late :: after) period =
      selectBillingAccountVersionForPeriod (before ++ after) period := by
  have hlength := period.start_lt_end
  have hskip : ∀ scan, scanVersion period scan late = scan := by
    intro scan
    rw [scanVersion, if_neg (by omega), if_pos hlate]
  unfold selectBillingAccountVersionForPeriod
  rw [List.foldl_append, List.foldl_cons, hskip, List.foldl_append]

/-- **The version of a period.** It is the latest at the start, else the first within the period,
whatever the order of the rows and whatever is added for later periods. -/
theorem version_of_period (hids : Keyed.HasKeys BillingAccountVersionRow.id rows) :
    InForce period rows (selectBillingAccountVersionForPeriod rows period) ∧
      (∀ rows', rows.Perm rows' →
        selectBillingAccountVersionForPeriod rows' period =
          selectBillingAccountVersionForPeriod rows period) ∧
      ∀ late rows', period.periodEnd ≤ late.effectiveAt → (late :: rows).Perm rows' →
        selectBillingAccountVersionForPeriod rows' period =
          selectBillingAccountVersionForPeriod rows period := by
  have hsame : ∀ rows', rows.Perm rows' → selectBillingAccountVersionForPeriod rows' period =
      selectBillingAccountVersionForPeriod rows period := fun rows' hperm =>
    ((inForce_select period rows').perm hperm.symm).unique hids (inForce_select period rows)
  refine ⟨inForce_select period rows, hsame, fun late rows' hlate hperm => ?_⟩
  obtain ⟨before, after, rfl⟩ := List.append_of_mem (hperm.mem_iff.mp List.mem_cons_self)
  rw [select_filter hlate]
  exact hsame _ (hperm.trans List.perm_middle).cons_inv

end InForce

section Sample

def monthlyVersion (id : Nat) (effectiveAt : Int) (baseMonthlyFee : ℚ) :
    BillingAccountVersionRow :=
  ⟨id, effectiveAt, ⟨baseMonthlyFee, 0, fun _ => none⟩⟩

def samplePeriod : BillingPeriod := ⟨10, 20, by decide⟩

/-- Two versions from one time on: the one with the larger id counts, and neither the order nor a
later version matters. -/
theorem version_of_samplePeriod :
    InForce samplePeriod [monthlyVersion 1 5 99, monthlyVersion 2 5 149]
        (some (monthlyVersion 2 5 149)) ∧
      selectBillingAccountVersionForPeriod
        [monthlyVersion 2 5 149, monthlyVersion 3 20 199, monthlyVersion 1 5 99] samplePeriod =
        some (monthlyVersion 2 5 149) := by
  have hselected : selectBillingAccountVersionForPeriod
      [monthlyVersion 1 5 99, monthlyVersion 2 5 149] samplePeriod =
        some (monthlyVersion 2 5 149) := rfl
  have hids : Keyed.HasKeys BillingAccountVersionRow.id
      [monthlyVersion 1 5 99, monthlyVersion 2 5 149] := by
    unfold Keyed.HasKeys
    decide
  have hversion := @version_of_period samplePeriod _ hids
  refine ⟨hselected ▸ hversion.1, ?_⟩
  rw [hversion.2.2 (monthlyVersion 3 20 199) _ (by decide) ?_, hselected]
  exact (List.Perm.cons _ (List.Perm.swap _ _ _)).trans (List.Perm.swap _ _ _)

end Sample

end RewardSystem.Billing
