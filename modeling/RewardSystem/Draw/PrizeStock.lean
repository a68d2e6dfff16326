import RewardSystem.Draw.PrizeHistory
import RewardSystem.Draw.Reserve

/-!
# The stock and the payout budget of a prize

A draw locks the prize before it judges stock and budget and keeps the lock until it is committed,
so the row of the prize is always the one that the recorded wins leave.
-/

namespace RewardSystem.Draw

open ReadCommitted Transition

def winTimes (prizeId : Nat) (log : List Entry) : List Int :=
  ((drawRecords log).filter fun record =>
    record.status = .won ∧ record.prizeId = some prizeId).map DrawRecord.createdAt

def DrawOutcome.winsAt (prizeId : Nat) (now : Int) (outcome : DrawOutcome) : List Int :=
  if outcome.status = .won ∧ outcome.prizeId = some prizeId then [now] else []

/-- The win of a draw that has taken the prize and has not recorded it yet. -/
def Stage.unrecorded (prizeId : Nat) : Stage → List Int
  | .creditUserPool draw plan => plan.outcome.winsAt prizeId draw.play.now
  | .ensureHouseFor draw outcome _ | .lockHouse draw outcome _ | .updateHouse draw outcome _ _
  | .insertTransaction draw outcome _ _ | .updateUser draw outcome | .insertRecord draw outcome =>
      outcome.winsAt prizeId draw.play.now
  | _ => []

/-- The row is what the wins at `times` leave of the prize. -/
structure Accounted (prizeId : Nat) (prize : Prize) (times : List Int) (row : Prize) : Prop where
  row : row = prize.after prizeId times
  pays : prize.Pays prizeId times
  order : prize.InOrder times

/-- No win and no period of the prize is later than the draw. -/
def InTime (prize : Prize) (times : List Int) (now : Int) : Prop :=
  ∀ time ∈ prize.payoutPeriodStartedAt :: times, time ≤ now

instance (prize : Prize) (times : List Int) (now : Int) : Decidable (InTime prize times now) :=
  inferInstanceAs (Decidable (∀ time ∈ _, _))

/-- What a draw that has locked the prize knows of its row. -/
def Stage.Knows (prizeId : Nat) (prize : Prize) (times : List Int) (row : Prize) : Stage → Prop
  | .payoutPolicy draw selected lockedPrize =>
      selected = prizeId → ∀ locked, lockedPrize = some locked →
        locked = row ∧ row.deletedAt = none ∧ InTime prize times draw.play.now
  | .decrementStock draw plan =>
      plan.prizeId = prizeId → row.deletedAt = none ∧ plan = row.plan prizeId draw.play.now ∧
        row.Affords draw.play.now ∧ InTime prize times draw.play.now
  | _ => True

/-- The draw has not locked the prize. -/
def Stage.Free (prizeId : Nat) : Stage → Prop
  | .payoutPolicy _ selected lockedPrize => selected = prizeId → lockedPrize = none
  | .decrementStock _ plan => plan.prizeId ≠ prizeId
  | _ => True

section Lists

variable {prizeId : Nat} {log more : List Entry} {prize row : Prize} {times : List Int} {now : Int}

theorem winTimes_append :
    winTimes prizeId (log ++ more) = winTimes prizeId log ++ winTimes prizeId more := by
  simp [winTimes, drawRecords]

theorem winTimes_transaction (transaction : HouseTransaction) :
    winTimes prizeId [.houseTransaction transaction] = [] := by
  simp [winTimes, drawRecords]

theorem winTimes_record (userId : Nat) (draw : PreparedDraw) (outcome : DrawOutcome) :
    winTimes prizeId [.drawRecord (drawRecordOf userId draw outcome)] =
      outcome.winsAt prizeId draw.play.now := by
  unfold DrawOutcome.winsAt
  split_ifs with hwins <;> simp [winTimes, drawRecords, drawRecordOf, hwins]

theorem winsAt_of_plan (plan : PrizePlan) : plan.outcome.winsAt prizeId now =
    if plan.prizeId = prizeId then [now] else [] := by
  simp [DrawOutcome.winsAt, PrizePlan.outcome]

theorem Stage.Free.knows {stage : Stage} (h : stage.Free prizeId) :
    stage.Knows prizeId prize times row := by
  cases stage <;> try exact trivial
  · intro hselected locked hlocked
    rw [h hselected] at hlocked
    cases hlocked
  · exact fun hselected => absurd hselected h

/-- **One more win.** -/
theorem Accounted.won (h : Accounted prizeId prize times row) (haffords : row.Affords now)
    (hintime : InTime prize times now) :
    Accounted prizeId prize (times ++ [now]) (row.won prizeId now) where
  row := by
    rw [after_append, ← h.row]
    rfl
  pays := by
    rw [pays_append, ← h.row]
    exact ⟨h.pays, haffords, trivial⟩
  order := by
    rw [Prize.InOrder, ← List.cons_append, List.pairwise_append]
    refine ⟨h.order, List.pairwise_singleton .., ?_⟩
    intro time htime later hlater
    rw [List.mem_singleton.mp hlater]
    exact hintime time htime

end Lists

section Policy

variable {config : DrawConfig} {log : List Entry} {userId prizeId : Nat} {draw : PreparedDraw}
  {lockedPrize : Option Prize}

theorem winsAt_of_terminal {outcome : DrawOutcome} {now : Int} {wanted : Nat}
    (h : resolvePayoutPolicy config log userId draw prizeId lockedPrize = .terminal outcome) :
    outcome.winsAt wanted now = [] := by
  unfold resolvePayoutPolicy at h
  split at h
  case h_1 =>
    obtain rfl := PolicyDecision.terminal.inj h
    rfl
  case h_2 prize =>
    dsimp only at h
    repeat' split at h
    all_goals cases h
    all_goals rfl

theorem affords_of_pays {plan : PrizePlan}
    (h : resolvePayoutPolicy config log userId draw prizeId lockedPrize = .pays plan) :
    ∃ prize, lockedPrize = some prize ∧ plan = prize.plan prizeId draw.play.now ∧
      prize.Affords draw.play.now := by
  unfold resolvePayoutPolicy at h
  split at h
  case h_1 => cases h
  case h_2 prize =>
    dsimp only at h
    split at h
    · cases h
    rename_i hstock
    split at h
    · cases h
    split at h
    · cases h
    rename_i hbudget
    repeat' split at h
    all_goals cases h
    rw [not_or] at hstock
    exact ⟨prize, rfl, rfl, not_le.mp hstock.2, by simpa using hbudget⟩

theorem exec_lockPrize (config : DrawConfig) {x : Execution} {db : Tables} {row : Prize} {next : Execution}
    (hstage : x.stage = .lockPrize draw prizeId)
    (h : x.exec config db = some (.write (.prize prizeId) row next)) :
    db.rows (.prize prizeId) = some row ∧ row.deletedAt = none := by
  simp only [Execution.exec, hstage, Execution.resolveDraw] at h
  split at h
  · cases h
  · rename_i prize hprize
    split_ifs at h with hdeleted
    · cases Execution.goto_eq_some.mp h
    · cases Execution.write_eq_some.mp h
      exact ⟨hprize, not_not.mp hdeleted⟩

theorem exec_decrementStock (config : DrawConfig) {x : Execution} {db : Tables} {row : Prize} {plan : PrizePlan}
    (hstage : x.stage = .decrementStock draw plan)
    (hrow : db.rows (.prize plan.prizeId) = some row) (hdeleted : row.deletedAt = none) :
    x.exec config db = x.write (.prize plan.prizeId) (decrementedPrize plan draw.play.now row)
      (.creditUserPool draw plan) := by
  simp [Execution.exec, hstage, Execution.resolveDraw, hrow, hdeleted]

end Policy

/-! ## What every session knows -/

section Sessions

variable (prizeId : Nat) (prize : Prize) (recorded : List Int)

/-- Every draw runs at a time that is not before the wins and the period it finds. -/
def AtLatestTime : Execution → Tables → Prop :=
  fun x db =>
    match x.stage with
    | .lockPrize draw selected =>
        selected = prizeId → InTime prize (winTimes prizeId db.log) draw.play.now
    | _ => True

instance : ∀ x db, Decidable (AtLatestTime prizeId prize x db) := by
  intro x db
  unfold AtLatestTime
  split <;> infer_instance

/-- The prize in the tables a session sees, before it goes on with a stage. -/
def Tracked (db : Tables) (stage : Stage) : Prop :=
  ∃ row times, db.rows (.prize prizeId) = some row ∧
    winTimes prizeId db.log ++ stage.unrecorded prizeId = recorded ++ times ∧
    Accounted prizeId prize times row ∧ stage.Knows prizeId prize times row

def stockAssertions : Assertions Nat Row Entry Execution where
  shared db := Tracked prizeId prize recorded db .lockUser
  unused _ _ := True
  own db _ s :=
    Tracked prizeId prize recorded (s.view db) s.state.stage ∧
      (s.writes (.prize prizeId) = none → winTimes prizeId s.inserts = [] ∧
        s.state.stage.unrecorded prizeId = [] ∧ s.state.stage.Free prizeId)

variable {prizeId prize recorded} {config : DrawConfig} {db : Tables}
  {s : Session Row Entry Execution} {action : Statement} {t : Nat}

/-- A statement that neither writes the prize nor records a win of it. -/
structure Passes (prizeId : Nat) (stage : Stage) (action : Statement) : Prop where
  rows : ∀ row next, action ≠ .write (.prize prizeId) row next
  log : ∀ entry next, action = .insert entry next → winTimes prizeId [entry] = []
  commits : ∀ next, action ≠ .commit next
  rollsBack : ∀ next, action ≠ .rollback next
  unrecorded : action.next.stage.unrecorded prizeId = stage.unrecorded prizeId
  free : action.next.stage.Free prizeId

theorem Passes.kept (hpasses : Passes prizeId s.state.stage action)
    (hown : (stockAssertions prizeId prize recorded).own db t s) :
    (stockAssertions prizeId prize recorded).own db t (s.after action) := by
  obtain ⟨⟨row, times, hrow, hwins, haccounted, -⟩, hnone⟩ := hown
  obtain ⟨hrows, hlog, hcommits, hrollsBack, hunrecorded, hfree⟩ := hpasses
  have hview : ((s.after action).view db).rows (.prize prizeId) = some row ∧
      winTimes prizeId ((s.after action).view db).log = winTimes prizeId (s.view db).log ∧
      winTimes prizeId (s.after action).inserts = winTimes prizeId s.inserts ∧
      ((s.after action).writes (.prize prizeId) = none → s.writes (.prize prizeId) = none) := by
    cases action with
    | goto next => exact ⟨hrow, rfl, rfl, id⟩
    | write key written next =>
        by_cases hkey : key = .prize prizeId
        · subst hkey
          exact absurd rfl (hrows written next)
        · have hother : (s.after (.write key written next)).writes (.prize prizeId) =
              s.writes (.prize prizeId) := Function.update_of_ne (Ne.symm hkey) ..
          refine ⟨?_, rfl, rfl, fun hwrites => hother ▸ hwrites⟩
          simp only [Session.view, hother]
          exact hrow
    | insert entry next =>
        have hentry := hlog entry next rfl
        refine ⟨hrow, ?_, ?_, id⟩
        · simp only [Session.view, Session.after, winTimes_append, hentry, List.append_nil]
        · simp only [Session.after, winTimes_append, hentry, List.append_nil]
    | commit next => exact absurd rfl (hcommits next)
    | rollback next => exact absurd rfl (hrollsBack next)
  obtain ⟨hrow', hlog', hinserts, hwrites⟩ := hview
  refine ⟨⟨row, times, hrow', ?_, haccounted, ?_⟩, ?_⟩
  · rw [hlog', Session.after_state, hunrecorded]
    exact hwins
  · rw [Session.after_state]
    exact hfree.knows
  · intro hfresh
    obtain ⟨hwins', hstage, -⟩ := hnone (hwrites hfresh)
    rw [hinserts, Session.after_state, hunrecorded]
    exact ⟨hwins', hstage, hfree⟩

theorem own_fresh {state : Execution} (hunrecorded : state.stage.unrecorded prizeId = [])
    (hfree : state.stage.Free prizeId) (hshared : (stockAssertions prizeId prize recorded).shared db) :
    (stockAssertions prizeId prize recorded).own db t (.fresh state) := by
  obtain ⟨row, times, hrow, hwins, haccounted, -⟩ := hshared
  have hlog : (Session.fresh state : Session Row Entry Execution).view db = db :=
    Session.view_fresh state
  refine ⟨⟨row, times, by rw [hlog]; exact hrow, ?_, haccounted, hfree.knows⟩,
    fun _ => ⟨rfl, hunrecorded, hfree⟩⟩
  rw [hlog]
  change winTimes prizeId db.log ++ state.stage.unrecorded prizeId = recorded ++ times
  rw [hunrecorded]
  exact hwins

theorem passes_of_goto {request : DrawRequest} {index : Nat} {stage next : Stage}
    (hunrecorded : next.unrecorded prizeId = stage.unrecorded prizeId) (hfree : next.Free prizeId) :
    Passes prizeId stage (.goto ⟨request, index, next⟩) where
  rows := by
    intro _ _ h
    cases h
  log := by
    intro _ _ h
    cases h
  commits := by
    intro _ h
    cases h
  rollsBack := by
    intro _ h
    cases h
  unrecorded := hunrecorded
  free := hfree

theorem passes_of_write {request : DrawRequest} {index : Nat} {stage next : Stage} {key : Key}
    {row : Row key} (hkey : key ≠ .prize prizeId)
    (hunrecorded : next.unrecorded prizeId = stage.unrecorded prizeId) (hfree : next.Free prizeId) :
    Passes prizeId stage (.write key row ⟨request, index, next⟩) where
  rows := by
    intro row' next' h
    cases h
    exact hkey rfl
  log := by
    intro _ _ h
    cases h
  commits := by
    intro _ h
    cases h
  rollsBack := by
    intro _ h
    cases h
  unrecorded := hunrecorded
  free := hfree

theorem passes_of_transaction {request : DrawRequest} {index : Nat} {stage next : Stage}
    {transaction : HouseTransaction}
    (hunrecorded : next.unrecorded prizeId = stage.unrecorded prizeId) (hfree : next.Free prizeId) :
    Passes prizeId stage (.insert (.houseTransaction transaction) ⟨request, index, next⟩) where
  rows := by
    intro _ _ h
    cases h
  log := by
    intro _ _ h
    cases h
    exact winTimes_transaction transaction
  commits := by
    intro _ h
    cases h
  rollsBack := by
    intro _ h
    cases h
  unrecorded := hunrecorded
  free := hfree

theorem selected_passes (prizeId : Nat) (draw : PreparedDraw) :
    draw.selected.unrecorded prizeId = [] ∧ draw.selected.Free prizeId := by
  unfold PreparedDraw.selected
  split <;> exact ⟨rfl, trivial⟩

theorem afterTransaction_passes (prizeId : Nat) (draw : PreparedDraw) (outcome : DrawOutcome)
    (change : PoolChange) :
    (afterTransaction draw outcome change).unrecorded prizeId =
        outcome.winsAt prizeId draw.play.now ∧
      (afterTransaction draw outcome change).Free prizeId := by
  cases change with
  | drawCost =>
      simp only [afterTransaction]
      split <;> exact ⟨rfl, trivial⟩
  | drawReward => exact ⟨rfl, trivial⟩

/-- **What every statement of a draw keeps.** -/
theorem own_step (hshared : (stockAssertions prizeId prize recorded).shared db)
    (hown : (stockAssertions prizeId prize recorded).own db t s)
    (hlatest : AtLatestTime prizeId prize s.state (s.view db))
    (hexec : (drawEngine config).exec t s.state (s.view db) = some action) :
    (stockAssertions prizeId prize recorded).shared (action.database db s) ∧
      (stockAssertions prizeId prize recorded).own (action.database db s) t (s.after action) := by
  have hdoes := Execution.exec_does hexec
  obtain ⟨⟨row, times, hrow, hwins, haccounted, hknows⟩, hnone⟩ := id hown
  obtain ⟨⟨request, index, stage⟩, writes, inserts⟩ := s
  change Does config request index _ stage action at hdoes
  cases hdoes with
  | throws => exact ⟨hshared, own_fresh rfl trivial hshared⟩
  | drawsDone =>
      have hshared' : Tracked prizeId prize recorded
          (Session.publish db
            (⟨⟨request, index, .lockUser⟩, writes, inserts⟩ : Session Row Entry Execution))
          .lockUser :=
        ⟨row, times, hrow, hwins, haccounted, trivial⟩
      exact ⟨hshared', own_fresh rfl trivial hshared'⟩
  | @prizeLocked draw selected locked hlocked =>
      refine ⟨hshared, ?_⟩
      by_cases hselected : selected = prizeId
      · subst hselected
        obtain ⟨-, hdeleted⟩ := exec_lockPrize config
          (x := ⟨request, index, .lockPrize draw selected⟩) rfl hexec
        obtain rfl := Option.some.inj (hrow.symm.trans hlocked)
        have hintime : InTime prize times draw.play.now := by
          intro time htime
          refine hlatest rfl time ?_
          change winTimes selected _ ++ [] = recorded ++ times at hwins
          rw [List.append_nil] at hwins
          rw [hwins]
          simp only [List.mem_cons, List.mem_append] at htime ⊢
          tauto
        refine ⟨⟨row, times, by simp [Session.view, Session.after], hwins, haccounted, ?_⟩, ?_⟩
        · intro _ locked hlocked
          obtain rfl := Option.some.inj hlocked
          exact ⟨rfl, hdeleted, hintime⟩
        · intro hfree
          simp [Session.after] at hfree
      · refine Passes.kept (passes_of_write ?_ rfl ?_) hown
        · exact fun h => hselected (Key.prize.inj h)
        · exact fun h => absurd h hselected
  | @drawWon draw selected lockedPrize plan hpolicy =>
      refine ⟨hshared, ?_⟩
      obtain ⟨locked, rfl, rfl, haffords⟩ := affords_of_pays hpolicy
      by_cases hselected : selected = prizeId
      · obtain ⟨rfl, hdeleted, hintime⟩ := hknows hselected locked rfl
        refine ⟨⟨locked, times, hrow, hwins, haccounted, ?_⟩, ?_⟩
        · intro _
          exact ⟨hdeleted, by rw [hselected], haffords, hintime⟩
        · intro hfree
          have hfree := (hnone hfree).2.2 hselected
          cases hfree
      · exact Passes.kept (passes_of_goto rfl hselected) hown
  | stockGone draw plan =>
      refine ⟨hshared, ?_⟩
      by_cases hselected : plan.prizeId = prizeId
      · obtain ⟨hdeleted, -, -, -⟩ := hknows hselected
        subst hselected
        have hwrites := exec_decrementStock config
          (x := ⟨request, index, .decrementStock draw plan⟩) rfl hrow hdeleted
        rw [Execution.write] at hwrites
        cases hwrites.symm.trans hexec
      · refine Passes.kept (passes_of_goto ?_ trivial) hown
        change plan.outcome.winsAt prizeId draw.play.now = []
        rw [winsAt_of_plan, if_neg hselected]
  | @stockTaken draw plan taken htaken =>
      refine ⟨hshared, ?_⟩
      by_cases hselected : plan.prizeId = prizeId
      · obtain ⟨-, hplan, haffords, hintime⟩ := hknows hselected
        subst hselected
        obtain rfl := Option.some.inj (hrow.symm.trans htaken)
        have hwon : decrementedPrize plan draw.play.now row = row.won plan.prizeId draw.play.now := by
          rw [Prize.won, ← hplan]
        refine ⟨⟨row.won plan.prizeId draw.play.now, times ++ [draw.play.now], ?_, ?_,
          haccounted.won haffords hintime, trivial⟩, ?_⟩
        · simp [Session.view, Session.after, hwon]
        · change winTimes plan.prizeId _ ++ [] = recorded ++ times at hwins
          change winTimes plan.prizeId _ ++ plan.outcome.winsAt plan.prizeId draw.play.now = _
          rw [winsAt_of_plan, if_pos rfl, ← List.append_assoc, ← hwins, List.append_nil]
          rfl
        · intro hfree
          simp [Session.after] at hfree
      · refine Passes.kept (passes_of_write ?_ ?_ trivial) hown
        · exact fun h => hselected (Key.prize.inj h)
        · change plan.outcome.winsAt prizeId draw.play.now = []
          rw [winsAt_of_plan, if_neg hselected]
  | recordInserted draw outcome =>
      refine ⟨hshared, ⟨row, times, hrow, ?_, haccounted, trivial⟩, ?_⟩
      · change winTimes prizeId (db.log ++ (inserts ++ [_])) ++ [] = recorded ++ times
        rw [← List.append_assoc, winTimes_append, winTimes_record, List.append_nil]
        exact hwins
      · intro hfree
        obtain ⟨hinserts, hunrecorded, -⟩ := hnone hfree
        change winTimes prizeId (inserts ++ [_]) = [] ∧ _
        rw [winTimes_append, winTimes_record]
        change winTimes prizeId inserts = [] at hinserts
        change outcome.winsAt prizeId draw.play.now = [] at hunrecorded
        rw [hinserts, hunrecorded]
        exact ⟨rfl, rfl, trivial⟩
  | poolRead hhouse =>
      obtain ⟨hunrecorded, hfree⟩ := selected_passes prizeId _
      exact ⟨hshared, Passes.kept (passes_of_goto hunrecorded hfree) hown⟩
  | drawRefused hpolicy =>
      exact ⟨hshared, Passes.kept (passes_of_goto (winsAt_of_terminal hpolicy) trivial) hown⟩
  | prizeMissing draw selected =>
      exact ⟨hshared, Passes.kept (passes_of_goto rfl fun _ => rfl) hown⟩
  | transactionInserted draw outcome change before =>
      obtain ⟨hunrecorded, hfree⟩ := afterTransaction_passes prizeId draw outcome change
      exact ⟨hshared, Passes.kept (passes_of_transaction hunrecorded hfree) hown⟩
  | houseFound | userPoolKept | houseFoundFor | houseGone | streakGone =>
      exact ⟨hshared, Passes.kept (passes_of_goto rfl trivial) hown⟩
  | userLocked | userDebited | houseCreated | userPoolMoved | houseCreatedFor | houseLocked
  | houseUpdated | streakUpdated =>
      exact ⟨hshared, Passes.kept (passes_of_write (by simp) rfl trivial) hown⟩

theorem own_of_publish {s' : Session Row Entry Execution} {t' : Nat}
    (hshared : (stockAssertions prizeId prize recorded).shared (s'.publish db))
    (hown : (stockAssertions prizeId prize recorded).own db t s)
    (hown' : (stockAssertions prizeId prize recorded).own db t' s') (hapart : s.Apart s') :
    (stockAssertions prizeId prize recorded).own (s'.publish db) t s := by
  obtain ⟨⟨row, times, hrow, hwins, haccounted, hknows⟩, hnone⟩ := hown
  refine ⟨?_, hnone⟩
  cases hwrites : s.writes (.prize prizeId) with
  | none =>
      obtain ⟨row', times', hrow', hwins', haccounted', -⟩ := hshared
      obtain ⟨hinserts, hunrecorded, hfree⟩ := hnone hwrites
      refine ⟨row', times', ?_, ?_, haccounted', hfree.knows⟩
      · simp only [Session.view, hwrites, Option.none_or]
        exact hrow'
      · change winTimes prizeId ((s'.publish db).log ++ s.inserts) ++ _ = _
        rw [winTimes_append, hinserts, hunrecorded, List.append_nil]
        exact hwins'
  | some written =>
      have hkept : s'.writes (.prize prizeId) = none :=
        (hapart _).resolve_left (by simp [hwrites])
      have hinserts := (hown'.2 hkept).1
      refine ⟨row, times, ?_, ?_, haccounted, hknows⟩
      · simp only [Session.view, hwrites, Option.some_or] at hrow ⊢
        exact hrow
      · change winTimes prizeId (db.log ++ s.inserts) ++ _ = _ at hwins
        change winTimes prizeId (db.log ++ s'.inserts ++ s.inserts) ++ _ = _
        rw [winTimes_append, winTimes_append, hinserts, List.append_nil, ← winTimes_append]
        exact hwins

theorem stock_kept (config : DrawConfig) :
    Kept ((drawEngine config).guarded (AtLatestTime prizeId prize)) (fun _ => True)
      (stockAssertions prizeId prize recorded) where
  begins _ _ _ _ hshared _ := own_fresh rfl trivial hshared
  steps db t s action hshared hown hexec := by
    obtain ⟨hlatest, hexec⟩ := exec_of_guarded (AtLatestTime prizeId prize) hexec
    exact own_step hshared hown hlatest hexec
  others db t t' s s' next _ hshared hown hown' hapart hexec := by
    obtain ⟨hlatest, hexec⟩ := exec_of_guarded (AtLatestTime prizeId prize) hexec
    exact own_of_publish (own_step hshared hown' hlatest hexec).1 hown hown' hapart
  waiting _ _ _ _ _ _ _ _ _ _ := trivial

end Sessions

/-! ## Runs -/

/-- The row and the wins of a prize since it was `prize`. -/
structure PrizeKept (prizeId : Nat) (prize : Prize) (times : List Int) (row : Prize) : Prop where
  stock_nonneg : 0 ≤ row.stock
  stock : row.stock = prize.stock - times.length
  spent : row.payoutSpent ≤ prize.payoutBudget
  /-- The row is left by the wins: each takes one from the stock, and starts the counter again
  exactly if the period is over. -/
  row : row = prize.after prizeId times
  counter : 0 < prize.payoutBudget → ∀ earlier now later, times = earlier ++ now :: later →
    let before := prize.after prizeId earlier
    let after := prize.after prizeId (earlier ++ [now])
    after.payoutSpent = (if before.Expired now then 0 else before.payoutSpent) +
        prize.rewardAmount ∧
      after.payoutPeriodStartedAt =
        if before.Expired now then now else before.payoutPeriodStartedAt

def WithinBudget (prizeId : Nat) (prize : Prize) (times : List Int) : Prop :=
  ∀ start ∈ prize.payoutPeriodStartedAt :: prize.resets prizeId times,
    prize.paidFrom start times ≤ prize.payoutBudget

section Runs

variable {config : DrawConfig} {db : Tables} {prizeId : Nat} {prize row : Prize} {times : List Int}
  {v : DrawSystem} {events : List (Event DrawSystem (Label Nat DrawRequest))}

theorem Accounted.kept (h : Accounted prizeId prize times row) (hsound : prize.Sound) :
    PrizeKept prizeId prize times row where
  stock_nonneg := by
    rw [h.row]
    exact (after_sound hsound.stock hsound.spent h.pays).1
  stock := by
    rw [h.row]
    exact after_stock times
  spent := by
    rw [h.row]
    exact (after_sound hsound.stock hsound.spent h.pays).2
  row := h.row
  counter := by
    intro htracked earlier now later _
    obtain ⟨hreward, -, hbudget, -⟩ := after_terms prize prizeId earlier
    have hwon := won_tracked prizeId now (hbudget ▸ htracked)
    rw [hreward] at hwon
    dsimp only
    rw [after_append]
    exact hwon

/-- **Stock and budget of a prize.** In every interleaving of draws, the stock of a prize is what its
wins leave of it and never negative, the counter of the period is started again exactly by a win
that finds it over, and with a positive budget the wins of every period stay within it. -/
theorem prize_kept (hrun : Run (Steps (drawEngine config)) (System.idle db) events v)
    (hprize : db.rows (.prize prizeId) = some prize) (hsound : prize.Sound)
    (htimes : ∀ e ∈ events, Meets (AtLatestTime prizeId prize) e) :
    ∃ row times, v.committed.rows (.prize prizeId) = some row ∧
      winTimes prizeId v.committed.log = winTimes prizeId db.log ++ times ∧
      PrizeKept prizeId prize times row ∧
      (0 < prize.payoutBudget → WithinBudget prizeId prize times) := by
  have hguarded := run_guarded (AtLatestTime prizeId prize) hrun htimes
  have hidle : Holds (stockAssertions prizeId prize (winTimes prizeId db.log)) (System.idle db) := by
    refine holds_idle ⟨prize, [], hprize, rfl, ⟨rfl, trivial, ?_⟩, trivial⟩ fun _ => trivial
    exact List.pairwise_singleton ..
  obtain ⟨-, hholds⟩ := (stock_kept config).holds_run hguarded hidle fun _ _ _ _ _ => trivial
  obtain ⟨row, times, hrow, hwins, haccounted, -⟩ := hholds.shared
  change winTimes prizeId v.committed.log ++ [] = _ at hwins
  rw [List.append_nil] at hwins
  refine ⟨row, times, hrow, hwins, haccounted.kept hsound, ?_⟩
  intro htracked start hstart
  obtain ⟨hcurrent, hresets⟩ :=
    paidFrom_le_budget htracked hsound.spent haccounted.pays haccounted.order
  rcases List.mem_cons.mp hstart with rfl | hstart
  · have hspent := hsound.notNegative
    omega
  · exact hresets start hstart

end Runs

section Example

instance (prizeId : Nat) (prize : Prize) (times : List Int) :
    Decidable (WithinBudget prizeId prize times) :=
  inferInstanceAs (Decidable (∀ start ∈ _, _))

def unbudgetedPrize : Prize :=
  { stock := 2, rewardAmount := 6000, isActive := true, deletedAt := none, poolThreshold := 0,
    userPoolThreshold := 0, payoutBudget := 0, payoutSpent := 0, payoutPeriodDays := 1,
    payoutPeriodStartedAt := 0 }

def budgetedPrize : Prize :=
  { unbudgetedPrize with payoutBudget := 10000 }

/-- Every prize is the same one. -/
def stockedWith (prize : Prize) : Tables where
  rows
    | .house => some { houseBankroll := 0, prizePoolBalance := 50000 }
    | .user _ => some
        { withdrawableBalance := 1000, wageredAmount := 0, userPoolBalance := 0, pityStreak := 0 }
    | .prize _ => some prize
  log := []

/-- Users 0 and 1 draw one after the other; the budget does not pay the second reward. -/
def drawTwice : List (Label Nat DrawRequest) :=
  .begin 0 (pickOf 0) :: (List.replicate 19 (.statement 0) ++
    .begin 1 (pickOf 1) :: List.replicate 13 (.statement 1))

/-- A prize without a budget is not limited. -/
theorem not_withinBudget_of_unbudgeted :
    ¬∀ config db prizeId prize events v times,
      Run (Steps (drawEngine config)) (System.idle db) events v →
      db.rows (.prize prizeId) = some prize → prize.Sound →
      (∀ e ∈ events, Meets (AtLatestTime prizeId prize) e) →
      winTimes prizeId v.committed.log = winTimes prizeId db.log ++ times →
      WithinBudget prizeId prize times := by
  intro hclaim
  obtain ⟨events, v, hrun, hcheck⟩ := Run.exists_of_check (machine (drawEngine reserveConfig))
    (System.idle (stockedWith unbudgetedPrize)) (drawTwice.take 20)
    (fun events v => decide (winTimes 1 v.committed.log = [0] ∧
      ∀ e ∈ events, Meets (AtLatestTime 1 unbudgetedPrize) e)) (by decide +kernel)
  obtain ⟨hwins, htimes⟩ := of_decide_eq_true hcheck
  have hsound : unbudgetedPrize.Sound := ⟨by decide, by decide, by decide⟩
  have hwithin := hclaim reserveConfig (stockedWith unbudgetedPrize) 1 unbudgetedPrize events v [0]
    hrun rfl hsound htimes hwins
  exact absurd hwithin (by decide)

theorem prize_kept_drawTwice : ∃ events v row times,
    Run (Steps (drawEngine reserveConfig)) (System.idle (stockedWith budgetedPrize)) events v ∧
      v.committed.log.length = 5 ∧ v.committed.rows (.prize 1) = some row ∧
      PrizeKept 1 budgetedPrize times row ∧ WithinBudget 1 budgetedPrize times := by
  obtain ⟨events, v, hrun, hcheck⟩ := Run.exists_of_check (machine (drawEngine reserveConfig))
    (System.idle (stockedWith budgetedPrize)) drawTwice
    (fun events v => decide (v.committed.log.length = 5 ∧
      ∀ e ∈ events, Meets (AtLatestTime 1 budgetedPrize) e)) (by decide +kernel)
  obtain ⟨hlog, htimes⟩ := of_decide_eq_true hcheck
  obtain ⟨row, times, hrow, -, hkept, hwithin⟩ :=
    prize_kept hrun rfl ⟨by decide, by decide, by decide⟩ htimes
  exact ⟨events, v, row, times, hrun, hlog, hrow, hkept, hwithin (by decide)⟩

end Example

end RewardSystem.Draw
