import Mathlib.Data.List.Nodup
import RewardSystem.Billing.Sessions

/-!
# Prepaid credit is spent once

A recomputation sums the top-ups and the credit of the other runs, and writes its own credit later.
The runs of a tenant stay within its top-ups as long as the available credit has not fallen in
between.
-/

namespace RewardSystem.Billing

open Transition

def CreditCovered (tables : Tables) : Prop :=
  ∀ tenantId, creditAppliedTotal tables.runs tenantId none ≤ topUpTotal tables.topUps tenantId

/-- Amounts that are not negative, in rows with ids that count up. -/
structure Booked (tables : Tables) : Prop where
  runIds : Keyed.HasKeys BillingRun.id tables.runs
  runSerial : ∀ run ∈ tables.runs, run.id ≤ tables.runs.length
  credits : ∀ run ∈ tables.runs, 0 ≤ run.creditAppliedAmount
  topUpIds : Keyed.HasKeys BillingTopUp.id tables.topUps
  topUpSerial : ∀ topUp ∈ tables.topUps, topUp.id ≤ tables.topUps.length
  amounts : ∀ topUp ∈ tables.topUps, 0 ≤ topUp.amount

/-- The period of a run never changes. -/
def SamePeriod (run run' : BillingRun) : Prop :=
  run.id = run'.id ∧ run.tenantId = run'.tenantId ∧ run.periodStart = run'.periodStart ∧
    run.periodEnd = run'.periodEnd

def BillingRunRequest.IsOf (request : BillingRunRequest) (run : BillingRun) : Prop :=
  run.tenantId = request.tenantId ∧ run.periodStart = request.periodStart ∧
    run.periodEnd = request.periodEnd

/-- The run that a stage of `createBillingRun` has found. -/
def CreateStage.existingRun : CreateStage → Option BillingRun
  | .loadTopUps existingRun | .loadRuns existingRun _ | .updateRun existingRun _ => existingRun
  | _ => none

def Session.Knows (tables : Tables) : Session → Prop
  | .create request stage =>
      0 ≤ request.grossTotalAmount ∧
      (∀ run, stage.existingRun = some run → request.IsOf run ∧
        ∃ row ∈ tables.runs, SamePeriod run row) ∧
      ∀ existingRun available, stage = .updateRun existingRun available → 0 ≤ available
  | .topUp _ (.insert _ amount _) => 0 ≤ amount
  | .topUp _ _ => True
  | .sync _ _ => False

structure Sound (service : Service) : Prop where
  booked : Booked service.tables
  covered : CreditCovered service.tables
  sessions : ∀ id session, service.sessions id = some session → session.Knows service.tables

/-- Nothing is under way. -/
structure Opening (service : Service) : Prop where
  booked : Booked service.tables
  covered : CreditCovered service.tables
  idle : ∀ id, service.sessions id = none

def Call.isCreditCall : Call → Bool
  | .sync _ => false
  | _ => true

def Call.amount : Call → Option Int
  | .create request => some request.grossTotalAmount
  | .topUp (.createBillingTopUp _ amount _) _ => some amount
  | _ => none

def Session.writesCredit : Session → Option (BillingRunRequest × Option BillingRun × Int)
  | .create request (.updateRun existingRun available) => some (request, existingRun, available)
  | _ => none

def Session.failsTopUp : Session → Option BillingTopUp
  | .topUp _ (.store loaded status) => if status.successful then none else some loaded
  | _ => none

/-- The credit that is about to be written is still available, and a top-up that is about to fail
has not succeeded meanwhile. -/
def Session.Fresh (tables : Tables) (session : Session) : Prop :=
  (∀ written ∈ session.writesCredit,
    written.2.2 ≤ availableCredit (topUpTotal tables.topUps written.1.tenantId)
      (creditAppliedTotal tables.runs written.1.tenantId (written.2.1.map BillingRun.id))) ∧
    ∀ loaded ∈ session.failsTopUp, ∀ row ∈ tables.topUps, row.id = loaded.id →
      row.status.successful = false

instance (tables : Tables) (session : Session) : Decidable (session.Fresh tables) :=
  inferInstanceAs (Decidable (_ ∧ _))

def Label.call : Label → Option Call
  | .begin _ call => some call
  | .step _ _ => none

def sessionOf (e : Event Service Label) : Option Session :=
  match e.label with
  | .begin _ _ => none
  | .step id _ => e.before.sessions id

/-- The calls are those of `createBillingRun` and of top-ups. -/
def OnlyCredit (e : Event Service Label) : Prop :=
  ∀ call ∈ e.label.call, call.isCreditCall = true

instance (e : Event Service Label) : Decidable (OnlyCredit e) :=
  inferInstanceAs (Decidable (∀ _ ∈ _, _))

/-- No amount is negative, and nothing is written on what has been read too early. -/
def Current (e : Event Service Label) : Prop :=
  (∀ call ∈ e.label.call, ∀ amount ∈ call.amount, 0 ≤ amount) ∧
    ∀ session ∈ sessionOf e, session.Fresh e.before.tables

instance (e : Event Service Label) : Decidable (Current e) :=
  inferInstanceAs (Decidable (_ ∧ _))

section Totals

variable {runs : List BillingRun} {topUps : List BillingTopUp} {request : BillingRunRequest}
  {run row : BillingRun} {credit : Int}

theorem creditAppliedTotal_eq (tenantId : Nat) (excluded : Option Nat) :
    creditAppliedTotal runs tenantId excluded = (runs.map fun run =>
      if run.tenantId = tenantId ∧ some run.id ≠ excluded then run.creditAppliedAmount
      else 0).sum := by
  unfold creditAppliedTotal
  rw [Keyed.sum_filter]
  simp only [decide_eq_true_eq]

theorem topUpTotal_eq (tenantId : Nat) :
    topUpTotal topUps tenantId = (topUps.map fun topUp =>
      if topUp.tenantId = tenantId ∧ topUp.status.successful = true then topUp.amount else 0).sum := by
  unfold topUpTotal
  rw [Keyed.sum_filter]
  simp only [decide_eq_true_eq]

theorem creditAppliedTotal_split (hids : Keyed.HasKeys BillingRun.id runs) (hrow : row ∈ runs) :
    creditAppliedTotal runs row.tenantId none =
      creditAppliedTotal runs row.tenantId (some row.id) + row.creditAppliedAmount := by
  have hothers := Keyed.sum_others
    (fun run : BillingRun => if run.tenantId = row.tenantId then run.creditAppliedAmount else 0)
    hids (Keyed.lookup_of_mem hids hrow)
  have hexcluded : creditAppliedTotal runs row.tenantId (some row.id) = (runs.map fun run =>
      if run.id = row.id then 0
      else if run.tenantId = row.tenantId then run.creditAppliedAmount else 0).sum := by
    rw [creditAppliedTotal_eq]
    congr 1
    refine List.map_congr_left fun run _ => ?_
    by_cases hid : run.id = row.id <;> simp [hid]
  have hall : creditAppliedTotal runs row.tenantId none = (runs.map fun run =>
      if run.tenantId = row.tenantId then run.creditAppliedAmount else 0).sum := by
    rw [creditAppliedTotal_eq]
    simp
  rw [hexcluded, hothers, hall, if_pos rfl]
  omega

theorem recomputed_total (hids : Keyed.HasKeys BillingRun.id runs) (hrow : row ∈ runs)
    (tenantId : Nat) :
    creditAppliedTotal (Keyed.modify BillingRun.id row.id (recomputedRun request credit) runs)
        tenantId none =
      creditAppliedTotal runs tenantId none +
        if row.tenantId = tenantId then credit - row.creditAppliedAmount else 0 := by
  have hsum := Keyed.sum_modify (f := recomputedRun request credit)
    (fun run : BillingRun => if run.tenantId = tenantId then run.creditAppliedAmount else 0)
    hids (Keyed.lookup_of_mem hids hrow)
  rw [creditAppliedTotal_eq, creditAppliedTotal_eq]
  simp only [ne_eq, reduceCtorEq, not_false_eq_true, and_true]
  rw [hsum]
  simp only [recomputedRun]
  split_ifs <;> omega

theorem inserted_total (tenantId : Nat) :
    creditAppliedTotal (runs ++ [row]) tenantId none = creditAppliedTotal runs tenantId none +
      if row.tenantId = tenantId then row.creditAppliedAmount else 0 := by
  rw [creditAppliedTotal_eq, creditAppliedTotal_eq]
  simp

end Totals

section Writes

variable {tables : Tables} {runs : List BillingRun} {topUps : List BillingTopUp}
  {request : BillingRunRequest} {run row : BillingRun} {existingRun : Option BillingRun}
  {credit available : Int}

theorem recomputedRun_id (row : BillingRun) : (recomputedRun request credit row).id = row.id := rfl

theorem writeRun_keeps (hrun : run ∈ runs) :
    ∃ row ∈ writeRun runs request existingRun credit, SamePeriod run row := by
  unfold writeRun
  split
  · rename_i found
    refine ⟨_, List.mem_map_of_mem hrun, ?_⟩
    split_ifs <;> exact ⟨rfl, rfl, rfl, rfl⟩
  · split
    · exact ⟨run, hrun, rfl, rfl, rfl, rfl⟩
    · exact ⟨run, List.mem_append_left _ hrun, rfl, rfl, rfl, rfl⟩

theorem writeRun_others (hids : Keyed.HasKeys BillingRun.id runs)
    (hknown : ∀ found, existingRun = some found → request.IsOf found ∧
      ∃ row ∈ runs, SamePeriod found row) (hrun : run ∈ runs) (hother : ¬request.IsOf run) :
    run ∈ writeRun runs request existingRun credit := by
  unfold writeRun
  split
  · rename_i found
    obtain ⟨hof, row, hrow, hid, htenant, hstart, hend⟩ := hknown found rfl
    refine Keyed.mem_modify.mpr (.inl ⟨hrun, fun hsame => hother ?_⟩)
    have hrows : run = row := List.inj_on_of_nodup_map hids hrun hrow (hsame.trans hid)
    rw [hrows]
    exact ⟨htenant ▸ hof.1, hstart ▸ hof.2.1, hend ▸ hof.2.2⟩
  · split
    · exact hrun
    · exact List.mem_append_left _ hrun

theorem writeRun_ids (hids : Keyed.HasKeys BillingRun.id runs)
    (hserial : ∀ run ∈ runs, run.id ≤ runs.length) :
    Keyed.HasKeys BillingRun.id (writeRun runs request existingRun credit) := by
  unfold writeRun
  split
  · exact Keyed.hasKeys_modify (fun row hrow => hrow) hids
  · split
    · exact hids
    · refine Keyed.hasKeys_append hids (Keyed.lookup_eq_none.mpr fun run hrun hid => ?_)
      have hle := hserial run hrun
      rw [hid] at hle
      simp only [recomputedRun, insertedRun] at hle
      omega

theorem writeRun_serial (hserial : ∀ run ∈ runs, run.id ≤ runs.length) :
    ∀ run ∈ writeRun runs request existingRun credit,
      run.id ≤ (writeRun runs request existingRun credit).length := by
  unfold writeRun
  split
  · intro run hrun
    rw [Keyed.length_modify]
    obtain ⟨hmem, _⟩ | ⟨row, hrow, _, rfl⟩ := Keyed.mem_modify.mp hrun
    · exact hserial run hmem
    · exact hserial row hrow
  · split
    · exact hserial
    · intro run hrun
      rw [List.length_append, List.length_singleton]
      rcases List.mem_append.mp hrun with hrun | hrun
      · exact (hserial run hrun).trans (Nat.le_succ _)
      · rw [List.mem_singleton.mp hrun]
        exact le_rfl

theorem writeRun_credits (hcredits : ∀ run ∈ runs, 0 ≤ run.creditAppliedAmount)
    (hcredit : 0 ≤ credit) :
    ∀ run ∈ writeRun runs request existingRun credit, 0 ≤ run.creditAppliedAmount := by
  unfold writeRun
  split
  · intro run hrun
    obtain ⟨hmem, _⟩ | ⟨row, _, _, rfl⟩ := Keyed.mem_modify.mp hrun
    · exact hcredits run hmem
    · exact hcredit
  · split
    · exact hcredits
    · intro run hrun
      rcases List.mem_append.mp hrun with hrun | hrun
      · exact hcredits run hrun
      · rw [List.mem_singleton.mp hrun]
        exact hcredit

theorem writeRun_covered (hbooked : Booked tables) (hcovered : CreditCovered tables)
    (hknown : ∀ found, existingRun = some found → request.IsOf found ∧
      ∃ row ∈ tables.runs, SamePeriod found row)
    (hfresh : available ≤ availableCredit (topUpTotal tables.topUps request.tenantId)
      (creditAppliedTotal tables.runs request.tenantId (existingRun.map BillingRun.id)))
    (hcredit : credit ≤ available) (tenantId : Nat) :
    creditAppliedTotal (writeRun tables.runs request existingRun credit) tenantId none ≤
      topUpTotal tables.topUps tenantId := by
  have htenant := hcovered tenantId
  unfold availableCredit at hfresh
  unfold writeRun
  split
  · rename_i found
    obtain ⟨hof, row, hrow, hid, hsame, _⟩ := hknown found rfl
    rw [hid, recomputed_total hbooked.runIds hrow]
    split_ifs with htenants
    · have hsplit := creditAppliedTotal_split hbooked.runIds hrow
      have hnonneg := hbooked.credits row hrow
      have hrequest : request.tenantId = row.tenantId := hof.1.symm.trans hsame
      simp only [Option.map_some, hrequest, hid] at hfresh
      rw [htenants] at hsplit hfresh
      omega
    · omega
  · split
    · exact htenant
    · rw [inserted_total]
      simp only [recomputedRun, insertedRun]
      split_ifs with htenants
      · simp only [Option.map_none, htenants] at hfresh
        omega
      · omega

theorem storeTopUp_le {topUpId : Nat} {status : SaasBillingTopUpStatus}
    (hamounts : ∀ topUp ∈ topUps, 0 ≤ topUp.amount)
    (hfresh : status.successful = false →
      ∀ row ∈ topUps, row.id = topUpId → row.status.successful = false) (tenantId : Nat) :
    topUpTotal topUps tenantId ≤ topUpTotal (storeTopUp topUps topUpId status) tenantId := by
  rw [topUpTotal_eq, topUpTotal_eq, storeTopUp, Keyed.modify, List.map_map]
  refine List.sum_le_sum fun topUp htopUp => ?_
  have hamount := hamounts topUp htopUp
  simp only [Function.comp]
  by_cases hid : topUp.id = topUpId
  · rw [if_pos hid]
    cases hstatus : status.successful with
    | true => split_ifs <;> simp_all
    | false =>
        have hrow := hfresh hstatus topUp htopUp hid
        simp [hrow]
  · rw [if_neg hid]

theorem insertTopUp_le {topUp : BillingTopUp} (hamount : 0 ≤ topUp.amount) (tenantId : Nat) :
    topUpTotal topUps tenantId ≤ topUpTotal (topUps ++ [topUp]) tenantId := by
  rw [topUpTotal_eq, topUpTotal_eq, List.map_append, List.sum_append]
  simp only [List.map_cons, List.map_nil, List.sum_cons, List.sum_nil]
  split_ifs <;> omega

end Writes

section Steps

variable {service service' : Service} {lockTimeoutMs : Int} {tables : Tables}

theorem Session.Knows.mono {session : Session} {tables' : Tables} (hknows : session.Knows tables)
    (hkeeps : ∀ run ∈ tables.runs, ∃ row ∈ tables'.runs, SamePeriod run row) :
    session.Knows tables' := by
  cases session with
  | create request stage =>
      obtain ⟨hgross, hfound, havailable⟩ := hknows
      refine ⟨hgross, fun run hrun => ?_, havailable⟩
      obtain ⟨hof, row, hrow, hsame⟩ := hfound run hrun
      obtain ⟨row', hrow', hsame'⟩ := hkeeps row hrow
      exact ⟨hof, row', hrow', hsame.1.trans hsame'.1, hsame.2.1.trans hsame'.2.1,
        hsame.2.2.1.trans hsame'.2.2.1, hsame.2.2.2.trans hsame'.2.2.2⟩
  | topUp stripeEnabled stage => cases stage <;> exact hknows
  | sync call stage => exact hknows

theorem findRunOfPeriod_some {runs : List BillingRun} {request : BillingRunRequest}
    {run : BillingRun} (h : findRunOfPeriod runs request = some run) :
    request.IsOf run ∧ run ∈ runs := by
  refine ⟨?_, List.mem_of_find?_eq_some h⟩
  have := List.find?_some h
  simpa [BillingRunRequest.IsOf] using this

/-- One statement of `createBillingRun` or of a top-up keeps the books. -/
structure KeepsBooks (tables tables' : Tables) : Prop where
  booked : Booked tables'
  covered : CreditCovered tables'
  keeps : ∀ run ∈ tables.runs, ∃ row ∈ tables'.runs, SamePeriod run row

theorem KeepsBooks.refl (hbooked : Booked tables) (hcovered : CreditCovered tables) :
    KeepsBooks tables tables :=
  ⟨hbooked, hcovered, fun run hrun => ⟨run, hrun, rfl, rfl, rfl, rfl⟩⟩

theorem knows_finished {request : BillingRunRequest} (hgross : 0 ≤ request.grossTotalAmount) :
    (Session.create request .finished).Knows tables := by
  refine ⟨hgross, fun run hrun => ?_, fun existingRun available hstage => ?_⟩
  · cases hrun
  · cases hstage

theorem knows_loadTopUps {request : BillingRunRequest} {existingRun : Option BillingRun}
    (hgross : 0 ≤ request.grossTotalAmount)
    (hfound : ∀ run, existingRun = some run → request.IsOf run ∧
      ∃ row ∈ tables.runs, SamePeriod run row) :
    (Session.create request (.loadTopUps existingRun)).Knows tables := by
  refine ⟨hgross, hfound, fun existingRun available hstage => ?_⟩
  cases hstage

theorem knows_updateRun {request : BillingRunRequest} {existingRun : Option BillingRun}
    {available : Int} (hgross : 0 ≤ request.grossTotalAmount)
    (hfound : ∀ run, existingRun = some run → request.IsOf run ∧
      ∃ row ∈ tables.runs, SamePeriod run row) (havailable : 0 ≤ available) :
    (Session.create request (.updateRun existingRun available)).Knows tables := by
  refine ⟨hgross, hfound, fun other value hstage => ?_⟩
  obtain ⟨_, rfl⟩ := CreateStage.updateRun.inj hstage
  exact havailable

theorem create_step {request : BillingRunRequest} {stage stage' : CreateStage} {tables' : Tables}
    (hbooked : Booked tables) (hcovered : CreditCovered tables)
    (hknows : (Session.create request stage).Knows tables)
    (hfresh : (Session.create request stage).Fresh tables)
    (hstep : createBillingRun tables request stage = some (stage', tables')) :
    KeepsBooks tables tables' ∧ (Session.create request stage').Knows tables' := by
  obtain ⟨hgross, hfound, havailable⟩ := hknows
  cases stage with
  | loadRun =>
      simp only [createBillingRun] at hstep
      split at hstep
      · obtain ⟨rfl, rfl⟩ := Prod.mk.inj (Option.some.inj hstep)
        refine ⟨.refl hbooked hcovered, knows_loadTopUps hgross fun run hrun => ?_⟩
        cases hrun
      · rename_i run hrun
        obtain ⟨hof, hmem⟩ := findRunOfPeriod_some hrun
        obtain ⟨rfl, rfl⟩ := Prod.mk.inj (Option.some.inj hstep)
        refine ⟨.refl hbooked hcovered, ?_⟩
        split_ifs
        · exact knows_finished hgross
        · refine knows_loadTopUps hgross fun found hsome => ?_
          obtain rfl := Option.some.inj hsome
          exact ⟨hof, _, hmem, rfl, rfl, rfl, rfl⟩
  | loadTopUps existingRun =>
      obtain ⟨rfl, rfl⟩ := Prod.mk.inj (Option.some.inj hstep)
      refine ⟨.refl hbooked hcovered, ?_⟩
      split_ifs
      · exact knows_updateRun hgross hfound le_rfl
      · refine ⟨hgross, hfound, fun other value hstage => ?_⟩
        cases hstage
  | loadRuns existingRun total =>
      obtain ⟨rfl, rfl⟩ := Prod.mk.inj (Option.some.inj hstep)
      exact ⟨.refl hbooked hcovered, knows_updateRun hgross hfound (le_max_right _ _)⟩
  | updateRun existingRun available =>
      obtain ⟨rfl, rfl⟩ := Prod.mk.inj (Option.some.inj hstep)
      have hnonneg : 0 ≤ available := havailable existingRun available rfl
      refine ⟨⟨?_, ?_, fun run hrun => writeRun_keeps hrun⟩, knows_finished hgross⟩
      · exact
          { runIds := writeRun_ids hbooked.runIds hbooked.runSerial
            runSerial := writeRun_serial hbooked.runSerial
            credits := writeRun_credits hbooked.credits (le_min hnonneg hgross)
            topUpIds := hbooked.topUpIds
            topUpSerial := hbooked.topUpSerial
            amounts := hbooked.amounts }
      · exact writeRun_covered hbooked hcovered hfound
          (hfresh.1 (request, existingRun, available) rfl) (min_le_left _ _)
  | finished => cases hstep

theorem Booked.insertTopUp (hbooked : Booked tables) {topUp : BillingTopUp}
    (hid : topUp.id = tables.topUps.length + 1) (hamount : 0 ≤ topUp.amount) :
    Booked { tables with topUps := tables.topUps ++ [topUp] } where
  runIds := hbooked.runIds
  runSerial := hbooked.runSerial
  credits := hbooked.credits
  topUpIds := by
    refine Keyed.hasKeys_append hbooked.topUpIds (Keyed.lookup_eq_none.mpr fun row hrow hsame => ?_)
    have hle := hbooked.topUpSerial row hrow
    omega
  topUpSerial row hrow := by
    simp only [List.length_append, List.length_singleton]
    rcases List.mem_append.mp hrow with hrow | hrow
    · exact (hbooked.topUpSerial row hrow).trans (Nat.le_succ _)
    · rw [List.mem_singleton.mp hrow, hid]
  amounts row hrow := by
    rcases List.mem_append.mp hrow with hrow | hrow
    · exact hbooked.amounts row hrow
    · rw [List.mem_singleton.mp hrow]
      exact hamount

theorem Booked.storeTopUp (hbooked : Booked tables) (topUpId : Nat)
    (status : SaasBillingTopUpStatus) :
    Booked { tables with topUps := storeTopUp tables.topUps topUpId status } where
  runIds := hbooked.runIds
  runSerial := hbooked.runSerial
  credits := hbooked.credits
  topUpIds := Keyed.hasKeys_modify (fun _ hrow => hrow) hbooked.topUpIds
  topUpSerial row hrow := by
    simp only [Billing.storeTopUp, Keyed.length_modify]
    obtain ⟨hmem, _⟩ | ⟨old, hold, _, rfl⟩ := Keyed.mem_modify.mp hrow
    · exact hbooked.topUpSerial row hmem
    · exact hbooked.topUpSerial old hold
  amounts row hrow := by
    obtain ⟨hmem, _⟩ | ⟨old, hold, _, rfl⟩ := Keyed.mem_modify.mp hrow
    · exact hbooked.amounts row hmem
    · exact hbooked.amounts old hold

theorem topUp_step {stripeEnabled : Bool} {stage stage' : TopUpStage} {answer : Answer}
    {tables' : Tables} (hbooked : Booked tables) (hcovered : CreditCovered tables)
    (hknows : (Session.topUp stripeEnabled stage).Knows tables)
    (hfresh : (Session.topUp stripeEnabled stage).Fresh tables)
    (hstep : runTopUp tables stripeEnabled answer stage = some (stage', tables')) :
    KeepsBooks tables tables' ∧ (Session.topUp stripeEnabled stage').Knows tables' := by
  cases stage with
  | insert tenantId amount stripeCustomerId =>
      have hamount : 0 ≤ amount := hknows
      obtain ⟨rfl, rfl⟩ := Prod.mk.inj (Option.some.inj hstep)
      refine ⟨⟨?_, ?_, fun run hrun => ⟨run, hrun, rfl, rfl, rfl, rfl⟩⟩, ?_⟩
      · exact hbooked.insertTopUp rfl hamount
      · exact fun tenant => (hcovered tenant).trans (insertTopUp_le hamount tenant)
      · split_ifs <;> trivial
  | load topUpId =>
      simp only [runTopUp] at hstep
      split at hstep
      · obtain ⟨rfl, rfl⟩ := Prod.mk.inj (Option.some.inj hstep)
        exact ⟨.refl hbooked hcovered, trivial⟩
      · split_ifs at hstep <;> obtain ⟨rfl, rfl⟩ := Prod.mk.inj (Option.some.inj hstep) <;>
          exact ⟨.refl hbooked hcovered, trivial⟩
  | exchange topUp =>
      obtain ⟨rfl, rfl⟩ := Prod.mk.inj (Option.some.inj hstep)
      exact ⟨.refl hbooked hcovered, trivial⟩
  | store topUp status =>
      obtain ⟨rfl, rfl⟩ := Prod.mk.inj (Option.some.inj hstep)
      refine ⟨⟨?_, ?_, fun run hrun => ⟨run, hrun, rfl, rfl, rfl, rfl⟩⟩, trivial⟩
      · exact hbooked.storeTopUp topUp.id status
      · refine fun tenant => (hcovered tenant).trans
          (storeTopUp_le hbooked.amounts (fun hfails => hfresh.2 topUp ?_) tenant)
        simp [Session.failsTopUp, hfails]
  | finished => cases hstep

theorem session_step {session session' : Session} {answer : Answer} {tables' : Tables}
    (hbooked : Booked tables) (hcovered : CreditCovered tables) (hknows : session.Knows tables)
    (hfresh : session.Fresh tables)
    (hstep : session.step lockTimeoutMs tables answer = some (session', tables')) :
    KeepsBooks tables tables' ∧ session'.Knows tables' := by
  cases session with
  | create request stage =>
      obtain ⟨⟨stage', written⟩, hnext, heq⟩ := Option.map_eq_some_iff.mp hstep
      obtain ⟨rfl, rfl⟩ := Prod.mk.inj heq
      exact create_step hbooked hcovered hknows hfresh hnext
  | topUp stripeEnabled stage =>
      obtain ⟨⟨stage', written⟩, hnext, heq⟩ := Option.map_eq_some_iff.mp hstep
      obtain ⟨rfl, rfl⟩ := Prod.mk.inj heq
      exact topUp_step hbooked hcovered hknows hfresh hnext
  | sync call stage => exact absurd hknows not_false

theorem begin_knows {call : Call} (hcredit : call.isCreditCall = true)
    (hamount : ∀ amount ∈ call.amount, 0 ≤ amount) : call.session.Knows tables := by
  cases call with
  | create request =>
      refine ⟨hamount _ rfl, fun run hrun => ?_, fun existingRun available hstage => ?_⟩
      · cases hrun
      · cases hstage
  | topUp call stripeEnabled =>
      cases call with
      | createBillingTopUp tenantId amount stripeCustomerId => exact hamount _ rfl
      | syncBillingTopUp topUpId => trivial
  | sync call => cases hcredit

theorem sound_step {label : Label} (hsound : Sound service)
    (hstep : Steps lockTimeoutMs service label service')
    (hcredit : OnlyCredit ⟨service, label, service'⟩)
    (hcurrent : Current ⟨service, label, service'⟩) : Sound service' := by
  cases label with
  | begin id call =>
      obtain ⟨_, rfl⟩ := begin_cases hstep
      refine ⟨hsound.booked, hsound.covered, fun other session hsession => ?_⟩
      by_cases hother : other = id
      · subst hother
        obtain rfl : call.session = session := by simpa using hsession
        exact begin_knows (hcredit call rfl) (hcurrent.1 call rfl)
      · exact hsound.sessions other session (by simpa [hother] using hsession)
  | step id answer =>
      obtain ⟨session, session', tables, hsession, hnext, rfl⟩ := step_cases hstep
      obtain ⟨hkeeps, hknows⟩ := session_step hsound.booked hsound.covered
        (hsound.sessions id session hsession) (hcurrent.2 session hsession) hnext
      refine ⟨hkeeps.booked, hkeeps.covered, fun other session hother => ?_⟩
      by_cases hsame : other = id
      · subst hsame
        obtain rfl : session' = session := by simpa using hother
        exact hknows
      · have hbefore : service.sessions other = some session := by simpa [hsame] using hother
        exact (hsound.sessions other session hbefore).mono hkeeps.keeps

theorem create_keeps_others {request : BillingRunRequest} {stage stage' : CreateStage}
    {tables' : Tables} {run : BillingRun} (hbooked : Booked tables)
    (hknows : (Session.create request stage).Knows tables)
    (hstep : createBillingRun tables request stage = some (stage', tables'))
    (hrun : run ∈ tables.runs) (hother : ¬request.IsOf run) : run ∈ tables'.runs := by
  cases stage with
  | loadRun =>
      simp only [createBillingRun] at hstep
      split at hstep <;> obtain ⟨_, rfl⟩ := Prod.mk.inj (Option.some.inj hstep) <;> exact hrun
  | loadTopUps existingRun =>
      obtain ⟨_, rfl⟩ := Prod.mk.inj (Option.some.inj hstep)
      exact hrun
  | loadRuns existingRun total =>
      obtain ⟨_, rfl⟩ := Prod.mk.inj (Option.some.inj hstep)
      exact hrun
  | updateRun existingRun available =>
      obtain ⟨_, rfl⟩ := Prod.mk.inj (Option.some.inj hstep)
      exact writeRun_others hbooked.runIds hknows.2.1 hrun hother
  | finished => cases hstep

end Steps

section Runs

variable {service service' : Service} {lockTimeoutMs : Int} {events : List (Event Service Label)}

theorem sound_of_opening (hopening : Opening service) : Sound service where
  booked := hopening.booked
  covered := hopening.covered
  sessions id session hsession := by
    rw [hopening.idle id] at hsession
    cases hsession

/-- A step of a recomputation leaves the other runs of the table alone. -/
def OthersKept (e : Event Service Label) : Prop :=
  ∀ id answer request stage, e.label = .step id answer →
    e.before.sessions id = some (.create request stage) →
      ∀ run ∈ e.before.tables.runs, ¬request.IsOf run → run ∈ e.after.tables.runs

theorem othersKept_step {label : Label} (hsound : Sound service)
    (hstep : Steps lockTimeoutMs service label service') : OthersKept ⟨service, label, service'⟩ := by
  rintro id answer request stage hlabel hcreate run hrun hother
  subst hlabel
  obtain ⟨session, session', tables, hsession, hnext, rfl⟩ := step_cases hstep
  obtain rfl : session = .create request stage := by
    rw [hsession] at hcreate
    exact Option.some.inj hcreate
  obtain ⟨⟨stage', written⟩, hwrites, heq⟩ := Option.map_eq_some_iff.mp hnext
  obtain ⟨_, rfl⟩ := Prod.mk.inj heq
  exact create_keeps_others hsound.booked (hsound.sessions id _ hsession) hwrites hrun hother

def emptyTables : Tables where
  runs := []
  topUps := []
  invoices := []

def idleService : Service where
  tables := emptyTables
  sessions := fun _ => none

theorem idleService_opening : Opening idleService where
  booked :=
    { runIds := List.nodup_nil
      runSerial := fun _ hrun => (List.not_mem_nil hrun).elim
      credits := fun _ hrun => (List.not_mem_nil hrun).elim
      topUpIds := List.nodup_nil
      topUpSerial := fun _ hrow => (List.not_mem_nil hrow).elim
      amounts := fun _ hrow => (List.not_mem_nil hrow).elim }
  covered _ := le_rfl
  idle _ := rfl

def monthRequest (month : Int) : BillingRunRequest where
  tenantId := 1
  periodStart := month
  periodEnd := month + 1
  currency := "USD"
  stripeCustomerId := none
  fees := { baseFeeAmount := 10000, usageFeeAmount := 0, drawCount := 0, decisionBreakdown := [] }
  stripeEnabled := false

def noAnswer : Answer where
  now := 0
  course := .completes
  retrieved := .other
  found := none
  customer := none
  status := .other
  startingBalance := 0
  amountDue := 0

/-- A top-up of 100.00 and two months of 100.00 each. -/
def creditCalls : List Label :=
  [.begin 0 (.topUp (.createBillingTopUp 1 10000 none) false), .step 0 noAnswer,
    .begin 1 (.create (monthRequest 1)), .begin 2 (.create (monthRequest 2))]

end Runs

end RewardSystem.Billing
