import RewardSystem.Draw.Engine

/-!
# The wins of one prize

A prize as its wins leave it, one after the other, and what its stock and its payout budget then
say about them. Only the times of the wins matter: the reward of a prize does not change.
-/

namespace RewardSystem.Draw

def Prize.plan (prize : Prize) (prizeId : Nat) (now : Int) : PrizePlan where
  prizeId := prizeId
  rewardAmount := prize.rewardAmount
  budgetEvaluation := evaluateBudget prize now

def Prize.won (prize : Prize) (prizeId : Nat) (now : Int) : Prize :=
  decrementedPrize (prize.plan prizeId now) now prize

def Prize.after (prize : Prize) (prizeId : Nat) (times : List Int) : Prize :=
  times.foldl (fun prize now => prize.won prizeId now) prize

/-- The gates on stock and budget. -/
def Prize.Affords (prize : Prize) (now : Int) : Prop :=
  0 < prize.stock ∧ (evaluateBudget prize now).available = true

/-- Every win passes the gates as the earlier ones leave them. -/
def Prize.Pays (prizeId : Nat) : Prize → List Int → Prop
  | _, [] => True
  | prize, now :: later => prize.Affords now ∧ Prize.Pays prizeId (prize.won prizeId now) later

def Prize.periodMs (prize : Prize) : Int :=
  max 1 prize.payoutPeriodDays * (24 * 60 * 60 * 1000)

/-- The payout period is over. -/
def Prize.Expired (prize : Prize) (now : Int) : Prop :=
  prize.periodMs ≤ now - prize.payoutPeriodStartedAt

instance (prize : Prize) (now : Int) : Decidable (prize.Expired now) :=
  inferInstanceAs (Decidable (_ ≤ _))

/-- The times of the wins that begin a new period. -/
def Prize.resets (prizeId : Nat) : Prize → List Int → List Int
  | _, [] => []
  | prize, now :: later =>
      (if prize.Expired now then [now] else []) ++ Prize.resets prizeId (prize.won prizeId now) later

/-- What wins at these times pay in the period from `start` on. -/
def Prize.paidFrom (prize : Prize) (start : Int) (times : List Int) : Int :=
  (times.filter fun time => start ≤ time ∧ time < start + prize.periodMs).length *
    prize.rewardAmount

/-- A prize whose stock and budget are not overdrawn. -/
structure Prize.Sound (prize : Prize) : Prop where
  stock : 0 ≤ prize.stock
  notNegative : 0 ≤ prize.payoutSpent
  spent : prize.payoutSpent ≤ prize.payoutBudget

section Wins

variable {prize : Prize} {prizeId : Nat} {now : Int} {times earlier later : List Int}

theorem won_stock : (prize.won prizeId now).stock = prize.stock - 1 := by
  unfold Prize.won decrementedPrize
  dsimp only
  split_ifs <;> rfl

theorem won_terms (prize : Prize) (prizeId : Nat) (now : Int) :
    (prize.won prizeId now).rewardAmount = prize.rewardAmount ∧
      (prize.won prizeId now).deletedAt = prize.deletedAt ∧
      (prize.won prizeId now).payoutBudget = prize.payoutBudget ∧
      (prize.won prizeId now).periodMs = prize.periodMs := by
  unfold Prize.won Prize.periodMs decrementedPrize
  dsimp only
  split_ifs <;> exact ⟨rfl, rfl, rfl, rfl⟩

theorem evaluateBudget_tracked (htracked : 0 < prize.payoutBudget) :
    evaluateBudget prize now =
      { available := decide (prize.rewardAmount ≤
          prize.payoutBudget - (if prize.Expired now then 0 else prize.payoutSpent))
        shouldReset := decide (prize.Expired now)
        budget := prize.payoutBudget
        spent := if prize.Expired now then 0 else prize.payoutSpent } := by
  unfold evaluateBudget
  rw [if_neg (not_le.mpr htracked)]
  by_cases hexpired : prize.Expired now
  · have hover : decide (max 1 prize.payoutPeriodDays * (24 * 60 * 60 * 1000) ≤
        now - prize.payoutPeriodStartedAt) = true := decide_eq_true hexpired
    simp only [hover, hexpired, if_true, decide_true]
  · have hover : decide (max 1 prize.payoutPeriodDays * (24 * 60 * 60 * 1000) ≤
        now - prize.payoutPeriodStartedAt) = false := decide_eq_false hexpired
    simp only [hover, hexpired, if_false, decide_false, Bool.false_eq_true]

/-- **The counter starts again exactly when its period is over.** -/
theorem won_tracked (prizeId : Nat) (now : Int) (htracked : 0 < prize.payoutBudget) :
    (prize.won prizeId now).payoutSpent =
        (if prize.Expired now then 0 else prize.payoutSpent) + prize.rewardAmount ∧
      (prize.won prizeId now).payoutPeriodStartedAt =
        if prize.Expired now then now else prize.payoutPeriodStartedAt := by
  unfold Prize.won decrementedPrize Prize.plan
  rw [evaluateBudget_tracked htracked]
  dsimp only
  rw [if_pos htracked]
  by_cases hexpired : prize.Expired now <;> simp [hexpired]

theorem won_untracked (huntracked : prize.payoutBudget ≤ 0) :
    prize.won prizeId now = { prize with stock := prize.stock - 1 } := by
  have hbudget : (evaluateBudget prize now).budget = prize.payoutBudget := by
    unfold evaluateBudget
    rw [if_pos huntracked]
  unfold Prize.won decrementedPrize Prize.plan
  dsimp only
  rw [hbudget, if_neg (not_lt.mpr huntracked)]

theorem after_append : prize.after prizeId (earlier ++ later) =
    (prize.after prizeId earlier).after prizeId later :=
  List.foldl_append ..

theorem after_terms (prize : Prize) (prizeId : Nat) (times : List Int) :
    (prize.after prizeId times).rewardAmount = prize.rewardAmount ∧
      (prize.after prizeId times).deletedAt = prize.deletedAt ∧
      (prize.after prizeId times).payoutBudget = prize.payoutBudget ∧
      (prize.after prizeId times).periodMs = prize.periodMs := by
  induction times generalizing prize with
  | nil => exact ⟨rfl, rfl, rfl, rfl⟩
  | cons now later ih =>
      obtain ⟨hreward, hdeleted, hbudget, hperiod⟩ := won_terms prize prizeId now
      obtain ⟨hreward', hdeleted', hbudget', hperiod'⟩ := @ih (prize.won prizeId now)
      exact ⟨hreward'.trans hreward, hdeleted'.trans hdeleted, hbudget'.trans hbudget,
        hperiod'.trans hperiod⟩

theorem after_stock (times : List Int) :
    (prize.after prizeId times).stock = prize.stock - times.length := by
  induction times generalizing prize with
  | nil => simp [Prize.after]
  | cons now later ih =>
      have hlater := @ih (prize.won prizeId now)
      rw [won_stock] at hlater
      change ((prize.won prizeId now).after prizeId later).stock = _
      rw [hlater, List.length_cons]
      omega

theorem pays_append : prize.Pays prizeId (earlier ++ later) ↔
    prize.Pays prizeId earlier ∧ (prize.after prizeId earlier).Pays prizeId later := by
  induction earlier generalizing prize with
  | nil => simp [Prize.Pays, Prize.after]
  | cons now earlier ih =>
      simp only [List.cons_append, Prize.Pays, ih, and_assoc]
      rfl

end Wins

section Budget

variable {prize : Prize} {prizeId : Nat} {now : Int} {times : List Int}

theorem periodMs_pos (prize : Prize) : 0 < prize.periodMs := by
  have hdays : 1 ≤ max 1 prize.payoutPeriodDays := le_max_left ..
  unfold Prize.periodMs
  omega

theorem won_spent (hspent : prize.payoutSpent ≤ prize.payoutBudget) (haffords : prize.Affords now) :
    (prize.won prizeId now).payoutSpent ≤ (prize.won prizeId now).payoutBudget := by
  obtain ⟨-, -, hbudget, -⟩ := won_terms prize prizeId now
  rw [hbudget]
  by_cases htracked : 0 < prize.payoutBudget
  · have havailable := haffords.2
    rw [evaluateBudget_tracked htracked] at havailable
    have havailable := of_decide_eq_true havailable
    rw [(won_tracked prizeId now htracked).1]
    omega
  · rw [won_untracked (not_lt.mp htracked)]
    exact hspent

theorem after_sound (hstock : 0 ≤ prize.stock) (hspent : prize.payoutSpent ≤ prize.payoutBudget)
    (hpays : prize.Pays prizeId times) :
    0 ≤ (prize.after prizeId times).stock ∧
      (prize.after prizeId times).payoutSpent ≤ prize.payoutBudget := by
  induction times generalizing prize with
  | nil => exact ⟨hstock, hspent⟩
  | cons now later ih =>
      obtain ⟨haffords, hpays⟩ := hpays
      obtain ⟨-, -, hbudget, -⟩ := won_terms prize prizeId now
      have hstock' : 0 ≤ (prize.won prizeId now).stock := by
        have hleft := haffords.1
        rw [won_stock]
        omega
      have hlater := ih hstock' (won_spent hspent haffords) hpays
      rw [hbudget] at hlater
      exact hlater

theorem won_start_cases (prizeId : Nat) (now : Int) (htracked : 0 < prize.payoutBudget) :
    prize.Expired now ∧ (prize.won prizeId now).payoutPeriodStartedAt = now ∧
        (prize.won prizeId now).payoutSpent = prize.rewardAmount ∨
      ¬prize.Expired now ∧
        (prize.won prizeId now).payoutPeriodStartedAt = prize.payoutPeriodStartedAt ∧
        (prize.won prizeId now).payoutSpent = prize.payoutSpent + prize.rewardAmount := by
  obtain ⟨hspent, hstart⟩ := won_tracked prizeId now htracked
  by_cases hexpired : prize.Expired now
  · rw [if_pos hexpired] at hspent hstart
    exact .inl ⟨hexpired, hstart, by rw [hspent, zero_add]⟩
  · rw [if_neg hexpired] at hspent hstart
    exact .inr ⟨hexpired, hstart, hspent⟩

/-- The times do not go back, from the start of the period on. -/
def Prize.InOrder (prize : Prize) (times : List Int) : Prop :=
  (prize.payoutPeriodStartedAt :: times).Pairwise (· ≤ ·)

theorem inOrder_won (prizeId : Nat) (htracked : 0 < prize.payoutBudget)
    (horder : prize.InOrder (now :: times)) :
    prize.payoutPeriodStartedAt ≤ now ∧ (∀ time ∈ times, now ≤ time) ∧
      (prize.won prizeId now).InOrder times := by
  obtain ⟨hstart, hsorted⟩ := List.pairwise_cons.mp horder
  obtain ⟨hnow, hlater⟩ := List.pairwise_cons.mp hsorted
  refine ⟨hstart now (by simp), hnow, List.pairwise_cons.mpr ⟨?_, hlater⟩⟩
  intro time htime
  rcases won_start_cases prizeId now htracked with
    ⟨-, hwon, -⟩ | ⟨-, hwon, -⟩
  · rw [hwon]
    exact hnow time htime
  · rw [hwon]
    exact hstart time (by simp [htime])

theorem le_of_mem_resets (htracked : 0 < prize.payoutBudget) (horder : prize.InOrder times)
    {start : Int} (hstart : start ∈ prize.resets prizeId times) :
    prize.payoutPeriodStartedAt + prize.periodMs ≤ start := by
  induction times generalizing prize with
  | nil => simp [Prize.resets] at hstart
  | cons now later ih =>
      obtain ⟨-, -, hbudget, hperiod⟩ := won_terms prize prizeId now
      obtain ⟨hnow, -, horder'⟩ := inOrder_won prizeId htracked horder
      simp only [Prize.resets, List.mem_append] at hstart
      rcases hstart with hhere | hlater
      · split_ifs at hhere with hexpired
        · rw [List.mem_singleton.mp hhere]
          unfold Prize.Expired at hexpired
          omega
        · simp at hhere
      · have hle := ih (by rw [hbudget]; exact htracked) horder' hlater
        rw [hperiod] at hle
        rcases won_start_cases prizeId now htracked with
          ⟨-, hwon, -⟩ | ⟨-, hwon, -⟩
        all_goals
          rw [hwon] at hle
          omega

theorem paidFrom_cons (start : Int) : prize.paidFrom start (now :: times) =
    (if start ≤ now ∧ now < start + prize.periodMs then prize.rewardAmount else 0) +
      prize.paidFrom start times := by
  unfold Prize.paidFrom
  by_cases hin : start ≤ now ∧ now < start + prize.periodMs
  · rw [List.filter_cons_of_pos (by simpa using hin), if_pos hin, List.length_cons]
    rw [Nat.cast_succ, add_one_mul, add_comm]
  · rw [List.filter_cons_of_neg (by simpa using hin), if_neg hin, zero_add]

theorem paidFrom_won (start : Int) :
    (prize.won prizeId now).paidFrom start times = prize.paidFrom start times := by
  obtain ⟨hreward, -, -, hperiod⟩ := won_terms prize prizeId now
  rw [Prize.paidFrom, Prize.paidFrom, hreward, hperiod]

theorem paidFrom_of_late {start : Int} (hlate : ∀ time ∈ times, start + prize.periodMs ≤ time) :
    prize.paidFrom start times = 0 := by
  have hnone : times.filter (fun time => start ≤ time ∧ time < start + prize.periodMs) = [] := by
    rw [List.filter_eq_nil_iff]
    intro time htime
    have hle := hlate time htime
    simp only [decide_eq_true_eq, not_and, not_lt]
    exact fun _ => hle
  rw [Prize.paidFrom, hnone]
  simp

/-- **The budget of a period.** The wins of the running period, with what was spent before them, and
the wins of every later one stay within the budget. -/
theorem paidFrom_le_budget (htracked : 0 < prize.payoutBudget)
    (hspent : prize.payoutSpent ≤ prize.payoutBudget) (hpays : prize.Pays prizeId times)
    (horder : prize.InOrder times) :
    prize.payoutSpent + prize.paidFrom prize.payoutPeriodStartedAt times ≤ prize.payoutBudget ∧
      ∀ start ∈ prize.resets prizeId times, prize.paidFrom start times ≤ prize.payoutBudget := by
  induction times generalizing prize with
  | nil => exact ⟨by simpa [Prize.paidFrom] using hspent, by simp [Prize.resets]⟩
  | cons now later ih =>
      obtain ⟨haffords, hpays⟩ := hpays
      obtain ⟨-, -, hbudget, hperiod⟩ := won_terms prize prizeId now
      obtain ⟨hnow, hlater, horder'⟩ := inOrder_won prizeId htracked horder
      have hlong := periodMs_pos prize
      have htracked' : 0 < (prize.won prizeId now).payoutBudget := by rw [hbudget]; exact htracked
      obtain ⟨hcurrent, hresets⟩ := ih htracked' (won_spent hspent haffords) hpays horder'
      rw [paidFrom_won, hbudget] at hcurrent
      -- a later period begins after this win
      have hskip : (prize.won prizeId now).payoutPeriodStartedAt + prize.periodMs > now →
          ∀ start ∈ (prize.won prizeId now).resets prizeId later,
            prize.paidFrom start (now :: later) ≤ prize.payoutBudget := by
        intro hwithin start hstart
        have hle := le_of_mem_resets htracked' horder' hstart
        have hpaid := hresets start hstart
        rw [paidFrom_won, hbudget] at hpaid
        rw [hperiod] at hle
        rw [paidFrom_cons, if_neg (by omega), zero_add]
        exact hpaid
      rcases won_start_cases prizeId now htracked with
        ⟨hexpired, hstart, hspent'⟩ | ⟨hrunning, hstart, hspent'⟩
      · rw [hstart, hspent'] at hcurrent
        have hover := hexpired
        unfold Prize.Expired at hover
        constructor
        · have hlate : ∀ time ∈ now :: later,
              prize.payoutPeriodStartedAt + prize.periodMs ≤ time := by
            intro time htime
            rcases List.mem_cons.mp htime with rfl | htime
            · omega
            · have hle := hlater time htime
              omega
          rw [paidFrom_of_late hlate]
          omega
        · intro start hmem
          simp only [Prize.resets, if_pos hexpired, List.singleton_append, List.mem_cons] at hmem
          rcases hmem with rfl | hmem
          · rw [paidFrom_cons, if_pos ⟨le_rfl, by omega⟩]
            exact hcurrent
          · exact hskip (by rw [hstart]; omega) start hmem
      · rw [hstart, hspent'] at hcurrent
        have hwithin := hrunning
        unfold Prize.Expired at hwithin
        constructor
        · rw [paidFrom_cons, if_pos ⟨hnow, by omega⟩]
          omega
        · intro start hmem
          simp only [Prize.resets, if_neg hrunning, List.nil_append] at hmem
          exact hskip (by rw [hstart]; omega) start hmem

end Budget

end RewardSystem.Draw
