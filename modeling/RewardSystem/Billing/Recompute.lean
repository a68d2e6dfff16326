import RewardSystem.Billing.TerminalStatuses
import RewardSystem.Lib.Since

/-!
# Recomputed runs and the lines of their invoices

The lines of an invoice are created from the fees of the run that a sync has claimed. Only a
recomputation changes the fees of a run, and it may do so after that: the run is a draft again, and
the next sync replaces an invoice that is still a draft.
-/

namespace RewardSystem.Billing

open Transition

/-- The step is a statement of a recomputation that writes the run. -/
def Recomputes (id : Nat) (e : Event Service Label) : Prop :=
  ∃ session ∈ sessionOf e, ∃ run ∈ session.overwrites, run.id = id

def HadFees (id : Nat) (fees : RunFees) (service : Service) : Prop :=
  ∃ row ∈ service.tables.runs, row.id = id ∧ row.fees = fees

def HasFees (id : Nat) (fees : RunFees) (service : Service) : Prop :=
  ∀ row ∈ service.tables.runs, row.id = id → row.fees = fees

/-- A session is about to write the snapshot on the run. -/
def Persisting (id : Nat) (snapshot : StripeInvoice) (service : Service) : Prop :=
  ∃ n session, service.sessions n = some session ∧
    ∃ written ∈ session.persists, written.1.id = id ∧ written.2.1 = snapshot

/-- The run is linked to the invoice of the snapshot, with its amount due as total. -/
def Shows (id : Nat) (snapshot : StripeInvoice) (service : Service) : Prop :=
  ∀ row ∈ service.tables.runs, row.id = id →
    row.stripeInvoiceId = some snapshot.id ∧ row.totalAmount = snapshot.amountDue

section Since

variable (lockTimeoutMs : Int) (start : Service) (history : List (Event Service Label))
  (service : Service)

/-- The run had the fees at some moment, and has them unless it has been recomputed since. -/
def FeesSince (id : Nat) (fees : RunFees) : Prop :=
  Since (Steps lockTimeoutMs) start history service (HadFees id fees) (Recomputes id)
    (HasFees id fees)

/-- The snapshot was about to be written on the run at some moment, and is what the run shows unless
it has been recomputed since. -/
def ShownSince (id : Nat) (snapshot : StripeInvoice) : Prop :=
  Since (Steps lockTimeoutMs) start history service (Persisting id snapshot) (Recomputes id)
    (Shows id snapshot)

/-- The invoice that a run is linked to was created for the run and from fees that it had, and the
total is that of the last snapshot, where the run has not been recomputed since. -/
structure LinkedSince (run : BillingRun) (invoiceId : Nat) : Prop where
  fees : ∃ invoice ∈ service.tables.invoices, invoice.id = invoiceId ∧
    invoice.saasBillingRunId = run.id ∧
      FeesSince lockTimeoutMs start history service run.id invoice.fees
  total : ∃ snapshot, snapshot.id = invoiceId ∧
    ShownSince lockTimeoutMs start history service run.id snapshot

end Since

def WritesOpen (e : Event Service Label) : Prop :=
  ∀ session ∈ sessionOf e, ∀ run ∈ session.overwrites, keepsRun run = false

/-- Where the search finds nothing, a sync goes on with a draft only if its lines were created from
the fees that the sync has claimed. -/
def DraftsAgree (e : Event Service Label) : Prop :=
  ∀ n answer id sendInvoice run snapshot, e.label = .step n answer →
    e.before.sessions n = some (.sync (.syncBillingRun id sendInvoice) (.exchange run)) →
    e.after.sessions n = some (.sync (.syncBillingRun id sendInvoice) (.persist run snapshot)) →
    answer.retrieved = .draft → answer.found = none →
      ∃ created ∈ e.after.tables.invoices, created.id = snapshot.id ∧
        created.fees.baseFeeAmount = run.fees.baseFeeAmount ∧
        created.fees.usageFeeAmount = run.fees.usageFeeAmount

/-- The invoice of a webhook, and the run that its metadata names. -/
def Call.delivers : Call → Option (Option Nat × StripeInvoice)
  | .sync (.webhook billingRunId invoice _) => some (billingRunId, invoice)
  | _ => none

/-- A webhook is about an invoice that has been created, and names its run. -/
def Genuine (e : Event Service Label) : Prop :=
  ∀ call ∈ e.label.call, ∀ delivered ∈ call.delivers, ∃ created ∈ e.before.tables.invoices,
    created.id = delivered.2.id ∧ ∀ id ∈ delivered.1, created.saasBillingRunId = id

instance (e : Event Service Label) : Decidable (Genuine e) :=
  inferInstanceAs (Decidable (∀ _ ∈ _, _))

/-- Nothing is under way, and there are no invoices yet. -/
structure Unbilled (service : Service) : Prop where
  runs : Serial service.tables.runs
  idle : ∀ id, service.sessions id = none
  unlinked : ∀ run ∈ service.tables.runs, run.stripeInvoiceId = none
  invoices : service.tables.invoices = []

/-! ## What one step does to a row -/

/-- Where a row comes from that a statement of `session` leaves. -/
inductive RowChange (runs : List BillingRun) (session : Session) (row' : BillingRun) : Prop where
  | kept (row : BillingRun) (hrow : row ∈ runs) (hid : row.id = row'.id)
      (hfees : row.fees = row'.fees) (hlink : row.stripeInvoiceId = row'.stripeInvoiceId)
      (htotal : row.totalAmount = row'.totalAmount)
  | inserted (hnew : runs.length < row'.id) (hlink : row'.stripeInvoiceId = none)
  | recomputed (row copy : BillingRun) (hrow : row ∈ runs) (hid : row.id = row'.id)
      (hcopy : copy ∈ session.overwrites) (hof : copy.id = row'.id)
      (hlink : row.stripeInvoiceId = row'.stripeInvoiceId)
  | persisted (row : BillingRun) (written : BillingRun × StripeInvoice × Option InvoiceEventType)
      (hrow : row ∈ runs) (hid : row.id = row'.id) (hwritten : written ∈ session.persists)
      (hof : written.1.id = row'.id) (hfees : row.fees = row'.fees)
      (hlink : row'.stripeInvoiceId = some written.2.1.id)
      (htotal : row'.totalAmount = written.2.1.amountDue)

section Rows

variable {lockTimeoutMs : Int} {tables tables' : Tables} {runs : List BillingRun}
  {session session' : Session} {row' run : BillingRun} {answer : Answer}

theorem rowChange_self (hrow : row' ∈ runs) : RowChange runs session row' :=
  .kept row' hrow rfl rfl rfl rfl

theorem rowChange_compareAndSwap {values : BillingRun → BillingRun}
    (hvalues : ∀ row, (values row).id = row.id ∧ (values row).fees = row.fees ∧
      (values row).stripeInvoiceId = row.stripeInvoiceId ∧
      (values row).totalAmount = row.totalAmount)
    (hrow : row' ∈ writtenRuns runs (updateBillingRunWithCompareAndSwap runs run values)) :
    RowChange runs session row' := by
  cases hresult : updateBillingRunWithCompareAndSwap runs run values with
  | error error =>
      rw [hresult] at hrow
      exact rowChange_self hrow
  | ok written =>
      obtain ⟨_, _, _, _, _, hwritten⟩ := compareAndSwap_ok hresult
      rw [hresult, writtenRuns, hwritten] at hrow
      obtain ⟨hmem, _⟩ | ⟨row, hmem, _, rfl⟩ := Keyed.mem_modify.mp hrow
      · exact rowChange_self hmem
      · obtain ⟨hid, hfees, hlink, htotal⟩ := hvalues row
        exact .kept row hmem hid.symm hfees.symm hlink.symm htotal.symm

theorem rowChange_sync {call : SyncCall} {stage stage' : SyncStage}
    (hcopies : (Session.sync call stage).HasCopies tables.runs)
    (hstep : runSync lockTimeoutMs tables call answer stage = some (stage', tables'))
    (hrow : row' ∈ tables'.runs) : RowChange tables.runs (.sync call stage) row' := by
  obtain ⟨_, hclaimed⟩ := hcopies
  cases stage with
  | load =>
      simp only [runSync] at hstep
      split at hstep <;> obtain ⟨_, rfl⟩ := Prod.mk.inj (Option.some.inj hstep) <;>
        exact rowChange_self hrow
  | claim run =>
      simp only [runSync] at hstep
      split at hstep
      · obtain ⟨_, rfl⟩ := Prod.mk.inj (Option.some.inj hstep)
        exact rowChange_self hrow
      · rename_i result written hmark
        obtain ⟨_, rfl⟩ := Prod.mk.inj (Option.some.inj hstep)
        have hswap := markBillingRunSyncProcessing_ok hmark
        have hwritten : row' ∈ writtenRuns tables.runs (updateBillingRunWithCompareAndSwap
            tables.runs run (externalSyncColumns .processing (some answer.now))) := by
          rw [hswap]
          exact hrow
        refine rowChange_compareAndSwap ?_ hwritten
        exact fun _ => ⟨rfl, rfl, rfl, rfl⟩
  | exchange run =>
      have hnext : exchangeWithStripe tables call run answer = (stage', tables') :=
        Option.some.inj hstep
      have hsame := (exchange_spec tables call run answer).1
      rw [hnext] at hsame
      rw [hsame] at hrow
      exact rowChange_self hrow
  | persist run invoice =>
      obtain ⟨rfl, rfl⟩ := Prod.mk.inj (Option.some.inj hstep)
      rw [syncBillingRunFromInvoice_eq (hclaimed run rfl)] at hrow
      revert hrow
      cases hresult : updateBillingRunWithCompareAndSwap tables.runs run fun row =>
          { externalSyncColumns .succeeded (some (run.externalSyncAttemptedAt.getD answer.now)) row with
            status := resolveBillingRunStatusFromInvoice invoice run.status call.eventType
            stripeCustomerId := invoice.customer.or run.stripeCustomerId
            stripeInvoiceId := some invoice.id
            creditAppliedAmount := resolveStripeCreditAppliedAmount invoice
            totalAmount := invoice.amountDue } with
      | error error => exact rowChange_self
      | ok result =>
          intro hrow
          obtain ⟨_, _, _, _, _, hruns⟩ := compareAndSwap_ok hresult
          rw [writtenRuns, hruns] at hrow
          obtain ⟨hmem, _⟩ | ⟨row, hmem, hid, rfl⟩ := Keyed.mem_modify.mp hrow
          · exact rowChange_self hmem
          · exact .persisted row (run, invoice, call.eventType) hmem rfl rfl hid.symm rfl rfl rfl
  | recordFailure run =>
      obtain ⟨rfl, rfl⟩ := Prod.mk.inj (Option.some.inj hstep)
      rw [recordBillingRunSyncFailure_eq (hclaimed run rfl)] at hrow
      refine rowChange_compareAndSwap ?_ hrow
      exact fun _ => ⟨rfl, rfl, rfl, rfl⟩
  | recordSuccess run =>
      obtain ⟨rfl, rfl⟩ := Prod.mk.inj (Option.some.inj hstep)
      rw [recordBillingRunSyncSuccess_eq (hclaimed run rfl)] at hrow
      refine rowChange_compareAndSwap ?_ hrow
      exact fun _ => ⟨rfl, rfl, rfl, rfl⟩
  | finished => cases hstep

theorem rowChange_writeRun {request : BillingRunRequest} {existingRun : Option BillingRun}
    {credit : Int} (hcopies : ∀ copy ∈ existingRun, copy ∈ session.overwrites)
    (hrow : row' ∈ writeRun runs request existingRun credit) : RowChange runs session row' := by
  unfold writeRun at hrow
  cases existingRun with
  | some copy =>
      obtain ⟨hmem, _⟩ | ⟨row, hmem, hid, rfl⟩ := Keyed.mem_modify.mp hrow
      · exact rowChange_self hmem
      · exact .recomputed row copy hmem rfl (hcopies copy rfl) hid.symm rfl
  | none =>
      simp only at hrow
      split at hrow
      · exact rowChange_self hrow
      · rcases List.mem_append.mp hrow with hmem | hlast
        · exact rowChange_self hmem
        · rw [List.mem_singleton.mp hlast]
          exact .inserted (Nat.lt_succ_self _) rfl

theorem rowChange_step (hcopies : session.HasCopies tables.runs)
    (hstep : session.step lockTimeoutMs tables answer = some (session', tables'))
    (hrow : row' ∈ tables'.runs) : RowChange tables.runs session row' := by
  cases session with
  | create request stage =>
      obtain ⟨⟨stage', written⟩, hnext, heq⟩ := Option.map_eq_some_iff.mp hstep
      obtain ⟨rfl, rfl⟩ := Prod.mk.inj heq
      simp only [createBillingRun_runs hnext] at hrow
      cases stage with
      | updateRun existingRun available => exact rowChange_writeRun (fun _ h => h) hrow
      | loadRun | loadTopUps | loadRuns | finished => exact rowChange_self hrow
  | topUp stripeEnabled stage =>
      obtain ⟨⟨stage', written⟩, hnext, heq⟩ := Option.map_eq_some_iff.mp hstep
      obtain ⟨rfl, rfl⟩ := Prod.mk.inj heq
      simp only [runTopUp_runs hnext] at hrow
      exact rowChange_self hrow
  | sync call stage =>
      obtain ⟨⟨stage', written⟩, hnext, heq⟩ := Option.map_eq_some_iff.mp hstep
      obtain ⟨rfl, rfl⟩ := Prod.mk.inj heq
      exact rowChange_sync hcopies hnext hrow

end Rows

/-! ## What the sessions know -/

def Fingerprinted (invoice : CreatedInvoice) : Prop :=
  invoice.saasBillingFingerprint.fees = { invoice.fees with drawCount := 0 }

def IsInvoiceOf (invoices : List CreatedInvoice) (billingRunId id : Nat) : Prop :=
  ∃ created ∈ invoices, created.id = id ∧ created.saasBillingRunId = billingRunId

section Knowledge

variable (lockTimeoutMs : Int) (start : Service) (history : List (Event Service Label))
  (service : Service)

structure SyncKnows (call : SyncCall) (stage : SyncStage) : Prop where
  links : ∀ run ∈ stage.run, ∀ id ∈ run.stripeInvoiceId,
    IsInvoiceOf service.tables.invoices run.id id
  fees : ∀ run ∈ stage.claimed, FeesSince lockTimeoutMs start history service run.id run.fees
  delivered : ∀ delivered ∈ (Call.sync call).delivers, ∃ created ∈ service.tables.invoices,
    created.id = delivered.2.id ∧ (∀ id ∈ delivered.1, created.saasBillingRunId = id) ∧
      ∀ run ∈ stage.run, created.saasBillingRunId = run.id
  written : ∀ written ∈ (Session.sync call stage).persists,
    IsInvoiceOf service.tables.invoices written.1.id written.2.1.id

/-- Where everything that is linked or under way comes from. -/
structure Traced : Prop where
  run : Run (Steps lockTimeoutMs) start history service
  versioned : Versioned service
  invoiceIds : Keyed.HasKeys CreatedInvoice.id service.tables.invoices
  invoiceSerial : ∀ invoice ∈ service.tables.invoices, invoice.id ≤ service.tables.invoices.length
  stored : ∀ invoice ∈ service.tables.invoices,
    invoice.saasBillingRunId ≤ service.tables.runs.length
  fingerprints : ∀ invoice ∈ service.tables.invoices, Fingerprinted invoice
  fees : ∀ invoice ∈ service.tables.invoices,
    FeesSince lockTimeoutMs start history service invoice.saasBillingRunId invoice.fees
  linked : ∀ row ∈ service.tables.runs, ∀ id ∈ row.stripeInvoiceId,
    IsInvoiceOf service.tables.invoices row.id id ∧ ∃ snapshot, snapshot.id = id ∧
      ShownSince lockTimeoutMs start history service row.id snapshot
  sessions : ∀ n call stage, service.sessions n = some (.sync call stage) →
    SyncKnows lockTimeoutMs start history service call stage

end Knowledge

section Exchange

variable {tables tables' : Tables} {call : SyncCall} {run : BillingRun} {answer : Answer}
  {invoices : List CreatedInvoice} {lockTimeoutMs : Int} {session session' : Session}

/-- The invoices are those of before, or one more is created from the fees of the run. -/
def CreatesFrom (invoices invoices' : List CreatedInvoice) (run : BillingRun) : Prop :=
  invoices' = invoices ∨ ∃ invoice, invoices' = invoices ++ [invoice] ∧
    invoice.id = invoices.length + 1 ∧ Fingerprinted invoice ∧
      invoice.saasBillingRunId = run.id ∧ invoice.fees = run.fees

theorem IsInvoiceOf.mono {billingRunId id : Nat} (h : IsInvoiceOf invoices billingRunId id)
    {invoices' : List CreatedInvoice} (hkeeps : ∀ invoice ∈ invoices, invoice ∈ invoices') :
    IsInvoiceOf invoices' billingRunId id := by
  obtain ⟨created, hcreated, hinvoice⟩ := h
  exact ⟨created, hkeeps created hcreated, hinvoice⟩

theorem findStripeInvoice_isInvoiceOf {id : Nat}
    (h : findStripeInvoiceForBillingRun invoices run answer = some id) :
    IsInvoiceOf invoices run.id id := by
  unfold findStripeInvoiceForBillingRun at h
  split at h
  · split_ifs at h with hany
    obtain rfl := Option.some.inj h
    obtain ⟨created, hcreated, hinvoice⟩ := List.any_eq_true.mp hany
    exact ⟨created, hcreated, of_decide_eq_true hinvoice⟩
  · cases h

theorem findOrCreate_spec (answer : Answer)
    (hlinks : ∀ id ∈ run.stripeInvoiceId, IsInvoiceOf invoices run.id id) :
    IsInvoiceOf (findOrCreateBillingRunInvoice invoices run answer).2 run.id
        (findOrCreateBillingRunInvoice invoices run answer).1 ∧
      CreatesFrom invoices (findOrCreateBillingRunInvoice invoices run answer).2 run := by
  unfold findOrCreateBillingRunInvoice
  split
  · rename_i id hid
    exact ⟨hlinks id (Option.filter_eq_some_iff.mp hid).1, .inl rfl⟩
  · split
    · rename_i id hid
      exact ⟨findStripeInvoice_isInvoiceOf hid, .inl rfl⟩
    · exact ⟨⟨_, List.mem_append_right _ (List.mem_singleton_self _), rfl, rfl⟩,
        .inr ⟨_, rfl, rfl, rfl, rfl, rfl⟩⟩

theorem exchange_invoices (answer : Answer)
    (hlinks : ∀ id ∈ run.stripeInvoiceId, IsInvoiceOf tables.invoices run.id id)
    (hdelivered : ∀ delivered ∈ (Call.sync call).delivers,
      IsInvoiceOf tables.invoices run.id delivered.2.id) :
    CreatesFrom tables.invoices (exchangeWithStripe tables call run answer).2.invoices run ∧
      ∀ written ∈ (Session.sync call (exchangeWithStripe tables call run answer).1).persists,
        IsInvoiceOf (exchangeWithStripe tables call run answer).2.invoices written.1.id
          written.2.1.id := by
  unfold exchangeWithStripe
  cases call with
  | webhook billingRunId invoice eventType =>
      refine ⟨.inl rfl, fun written hwritten => ?_⟩
      obtain rfl := Option.some.inj hwritten
      exact hdelivered (billingRunId, invoice) rfl
  | syncBillingRun id sendInvoice =>
      simp only
      obtain ⟨hinvoice, hcreates⟩ := findOrCreate_spec answer hlinks
      split_ifs
      · exact ⟨.inl rfl, fun written hwritten => (by cases hwritten)⟩
      · refine ⟨hcreates, fun written hwritten => ?_⟩
        obtain rfl := Option.some.inj hwritten
        exact hinvoice
      · exact ⟨hcreates, fun written hwritten => (by cases hwritten)⟩
  | settleBillingRun id =>
      simp only
      split
      · exact ⟨.inl rfl, fun written hwritten => (by cases hwritten)⟩
      · rename_i invoiceId hid
        split_ifs
        · refine ⟨.inl rfl, fun written hwritten => ?_⟩
          obtain rfl := Option.some.inj hwritten
          exact hlinks invoiceId hid
        · exact ⟨.inl rfl, fun written hwritten => (by cases hwritten)⟩
  | refreshBillingRun id =>
      simp only
      split_ifs
      · exact ⟨.inl rfl, fun written hwritten => (by cases hwritten)⟩
      · split
        · exact ⟨.inl rfl, fun written hwritten => (by cases hwritten)⟩
        · rename_i invoiceId hid
          refine ⟨.inl rfl, fun written hwritten => ?_⟩
          obtain rfl := Option.some.inj hwritten
          rcases Option.or_eq_some_iff.mp hid with hid | ⟨_, hid⟩
          · exact hlinks invoiceId hid
          · exact findStripeInvoice_isInvoiceOf hid

theorem invoices_step (hstep : session.step lockTimeoutMs tables answer = some (session', tables'))
    (hother : ∀ call run, session ≠ .sync call (.exchange run)) :
    tables'.invoices = tables.invoices := by
  cases session with
  | create request stage =>
      obtain ⟨⟨stage', written⟩, hnext, heq⟩ := Option.map_eq_some_iff.mp hstep
      obtain ⟨rfl, rfl⟩ := Prod.mk.inj heq
      cases stage with
      | loadRun =>
          simp only [createBillingRun] at hnext
          split at hnext <;> obtain ⟨_, rfl⟩ := Prod.mk.inj (Option.some.inj hnext) <;> rfl
      | loadTopUps _ | loadRuns _ _ | updateRun _ _ =>
          obtain ⟨_, rfl⟩ := Prod.mk.inj (Option.some.inj hnext)
          rfl
      | finished => cases hnext
  | topUp stripeEnabled stage =>
      obtain ⟨⟨stage', written⟩, hnext, heq⟩ := Option.map_eq_some_iff.mp hstep
      obtain ⟨rfl, rfl⟩ := Prod.mk.inj heq
      cases stage with
      | load topUpId =>
          simp only [runTopUp] at hnext
          split at hnext
          · obtain ⟨_, rfl⟩ := Prod.mk.inj (Option.some.inj hnext)
            rfl
          · split_ifs at hnext <;> obtain ⟨_, rfl⟩ := Prod.mk.inj (Option.some.inj hnext) <;> rfl
      | insert _ _ _ | exchange _ | store _ _ =>
          obtain ⟨_, rfl⟩ := Prod.mk.inj (Option.some.inj hnext)
          rfl
      | finished => cases hnext
  | sync call stage =>
      obtain ⟨⟨stage', written⟩, hnext, heq⟩ := Option.map_eq_some_iff.mp hstep
      obtain ⟨rfl, rfl⟩ := Prod.mk.inj heq
      cases stage with
      | load | claim _ =>
          simp only [runSync] at hnext
          split at hnext <;> obtain ⟨_, rfl⟩ := Prod.mk.inj (Option.some.inj hnext) <;> rfl
      | exchange run => exact absurd rfl (hother call run)
      | persist _ _ | recordFailure _ | recordSuccess _ =>
          obtain ⟨_, rfl⟩ := Prod.mk.inj (Option.some.inj hnext)
          rfl
      | finished => cases hnext

end Exchange

/-! ## The history of a run -/

section History

variable {lockTimeoutMs : Int} {start service service' : Service} {label : Label}
  {history : List (Event Service Label)} {id : Nat} {fees : RunFees}

theorem rows_of_step (hversioned : Versioned service) (hstep : Steps lockTimeoutMs service label service')
    {row' : BillingRun} (hrow : row' ∈ service'.tables.runs) :
    row' ∈ service.tables.runs ∨ ∃ session ∈ sessionOf ⟨service, label, service'⟩,
      RowChange service.tables.runs session row' := by
  cases label with
  | begin n call =>
      obtain ⟨_, rfl⟩ := begin_cases hstep
      exact .inl hrow
  | step n answer =>
      obtain ⟨session, session', tables, hsession, hnext, rfl⟩ := step_cases hstep
      exact .inr ⟨session, hsession,
        rowChange_step (hversioned.sessions n session hsession) hnext hrow⟩

theorem hasFees_step (hversioned : Versioned service)
    (hstep : Steps lockTimeoutMs service label service') (hstored : id ≤ service.tables.runs.length)
    (hkept : ¬Recomputes id ⟨service, label, service'⟩) (hfees : HasFees id fees service) :
    HasFees id fees service' := by
  intro row' hrow' hid
  rcases rows_of_step hversioned hstep hrow' with hmem | ⟨session, hsession, hchange⟩
  · exact hfees row' hmem hid
  · cases hchange with
    | kept row hrow hsame hfeesRow => exact hfeesRow ▸ hfees row hrow (hsame.trans hid)
    | inserted hnew => omega
    | recomputed row copy hrow hsame hcopy hof =>
        exact absurd ⟨session, hsession, copy, hcopy, hof.trans hid⟩ hkept
    | persisted row written hrow hsame _ _ hfeesRow =>
        exact hfeesRow ▸ hfees row hrow (hsame.trans hid)

theorem FeesSince.later (hsince : FeesSince lockTimeoutMs start history service id fees)
    (hversioned : Versioned service) (hstep : Steps lockTimeoutMs service label service')
    (hstored : id ≤ service.tables.runs.length) :
    FeesSince lockTimeoutMs start (history ++ [⟨service, label, service'⟩]) service' id fees :=
  Since.later hsince hstep (hasFees_step hversioned hstep hstored)

theorem linked_step (htraced : Traced lockTimeoutMs start history service)
    (hstep : Steps lockTimeoutMs service label service')
    {invoices : List CreatedInvoice} (hkeeps : ∀ invoice ∈ service.tables.invoices, invoice ∈ invoices)
    {row' : BillingRun} (hrow' : row' ∈ service'.tables.runs) {invoiceId : Nat}
    (hlink : invoiceId ∈ row'.stripeInvoiceId) :
    IsInvoiceOf invoices row'.id invoiceId ∧ ∃ snapshot, snapshot.id = invoiceId ∧
      ShownSince lockTimeoutMs start (history ++ [⟨service, label, service'⟩]) service' row'.id
        snapshot := by
  have hids := (versioned_step htraced.versioned hstep).1.runs.ids
  have hunique : ∀ other ∈ service'.tables.runs, other.id = row'.id → other = row' :=
    fun other hother hid => List.inj_on_of_nodup_map hids hother hrow' hid
  -- The row was linked before, and what it shows changes by a recomputation only.
  have hcarried : ∀ row ∈ service.tables.runs, row.id = row'.id →
      row.stripeInvoiceId = row'.stripeInvoiceId →
      (¬Recomputes row'.id ⟨service, label, service'⟩ → row.totalAmount = row'.totalAmount) →
      IsInvoiceOf invoices row'.id invoiceId ∧ ∃ snapshot, snapshot.id = invoiceId ∧
        ShownSince lockTimeoutMs start (history ++ [⟨service, label, service'⟩]) service' row'.id
          snapshot := by
    intro row hrow hid hsameLink htotal
    obtain ⟨hinvoice, snapshot, hsnapshot, hsince⟩ := htraced.linked row hrow invoiceId
      (hsameLink ▸ hlink)
    rw [hid] at hinvoice hsince
    refine ⟨hinvoice.mono hkeeps, snapshot, hsnapshot, Since.later hsince hstep ?_⟩
    intro hkept hshows other hother hsame
    obtain rfl := hunique other hother hsame
    obtain ⟨hshownLink, hshownTotal⟩ := hshows row hrow hid
    exact ⟨hsameLink ▸ hshownLink, htotal hkept ▸ hshownTotal⟩
  rcases rows_of_step htraced.versioned hstep hrow' with hmem | ⟨session, hsession, hchange⟩
  · exact hcarried row' hmem rfl rfl fun _ => rfl
  · cases hchange with
    | kept row hrow hid _ hsameLink htotal =>
        exact hcarried row hrow hid hsameLink fun _ => htotal
    | inserted _ hunlinked =>
        rw [hunlinked] at hlink
        cases hlink
    | recomputed row copy hrow hid hcopy hof hsameLink =>
        exact hcarried row hrow hid hsameLink fun hkept =>
          absurd ⟨session, hsession, copy, hcopy, hof⟩ hkept
    | persisted row written hrow hid hwritten hof _ hnewLink hnewTotal =>
        obtain rfl : written.2.1.id = invoiceId := Option.some.inj (hnewLink.symm.trans hlink)
        cases label with
        | begin n call => cases hsession
        | step n answer =>
            have hpersisting : Persisting row'.id written.2.1 service :=
              ⟨n, session, hsession, written, hwritten, hof, rfl⟩
            refine ⟨?_, written.2.1, rfl, Since.before_step htraced.run hpersisting hstep ?_⟩
            · cases session with
              | sync call stage =>
                  have hinvoice := (htraced.sessions n call stage hsession).written written hwritten
                  rw [hof] at hinvoice
                  exact hinvoice.mono hkeeps
              | create request stage => cases hwritten
              | topUp stripeEnabled stage => cases hwritten
            · intro other hother hsame
              obtain rfl := hunique other hother hsame
              exact ⟨hnewLink, hnewTotal⟩

theorem SyncKnows.mono {call : SyncCall} {stage : SyncStage}
    (hknows : SyncKnows lockTimeoutMs start history service call stage)
    (htraced : Traced lockTimeoutMs start history service)
    (hcopies : (Session.sync call stage).HasCopies service.tables.runs)
    (hstep : Steps lockTimeoutMs service label service')
    (hkeeps : ∀ invoice ∈ service.tables.invoices, invoice ∈ service'.tables.invoices) :
    SyncKnows lockTimeoutMs start (history ++ [⟨service, label, service'⟩]) service' call stage where
  links run hrun id hid := (hknows.links run hrun id hid).mono hkeeps
  fees run hrun := by
    have hcopy : run ∈ stage.run := by
      cases stage <;> first | exact hrun | cases hrun
    exact (hknows.fees run hrun).later htraced.versioned hstep (hcopies.1 run hcopy).stored
  delivered delivered hdelivered := by
    obtain ⟨created, hcreated, hinvoice⟩ := hknows.delivered delivered hdelivered
    exact ⟨created, hkeeps created hcreated, hinvoice⟩
  written written hwritten := (hknows.written written hwritten).mono hkeeps

theorem Traced.next (htraced : Traced lockTimeoutMs start history service)
    (hstep : Steps lockTimeoutMs service label service')
    (hcreates : service'.tables.invoices = service.tables.invoices ∨ ∃ invoice,
      service'.tables.invoices = service.tables.invoices ++ [invoice] ∧
        invoice.id = service.tables.invoices.length + 1 ∧ Fingerprinted invoice ∧
        invoice.saasBillingRunId ≤ service.tables.runs.length ∧
        FeesSince lockTimeoutMs start history service invoice.saasBillingRunId invoice.fees)
    (hsessions : ∀ n call stage, service'.sessions n = some (.sync call stage) →
      SyncKnows lockTimeoutMs start (history ++ [⟨service, label, service'⟩]) service' call stage) :
    Traced lockTimeoutMs start (history ++ [⟨service, label, service'⟩]) service' := by
  obtain ⟨hversioned, hsupersedes⟩ := versioned_step htraced.versioned hstep
  have hlater : ∀ invoice : CreatedInvoice, invoice.saasBillingRunId ≤ service.tables.runs.length →
      FeesSince lockTimeoutMs start history service invoice.saasBillingRunId invoice.fees →
      FeesSince lockTimeoutMs start (history ++ [⟨service, label, service'⟩]) service'
        invoice.saasBillingRunId invoice.fees :=
    fun invoice hstored hfees => hfees.later htraced.versioned hstep hstored
  have hkeeps : ∀ invoice ∈ service.tables.invoices, invoice ∈ service'.tables.invoices := by
    rcases hcreates with hsame | ⟨invoice, hnew, _⟩
    · rw [hsame]
      exact fun _ h => h
    · rw [hnew]
      exact fun _ h => List.mem_append_left _ h
  refine ⟨htraced.run.snoc hstep, hversioned, ?ids, ?serial, ?stored, ?fingerprints, ?fees,
    fun row hrow id hid => linked_step htraced hstep hkeeps hrow hid, hsessions⟩
  case ids =>
    rcases hcreates with hsame | ⟨invoice, hnew, hid, _⟩
    · rw [hsame]
      exact htraced.invoiceIds
    · rw [hnew]
      refine Keyed.hasKeys_append htraced.invoiceIds
        (Keyed.lookup_eq_none.mpr fun other hother hsame => ?_)
      have hle := htraced.invoiceSerial other hother
      omega
  case serial =>
    rcases hcreates with hsame | ⟨invoice, hnew, hid, _⟩
    · rw [hsame]
      exact htraced.invoiceSerial
    · rw [hnew]
      intro other hother
      rw [List.length_append, List.length_singleton]
      rcases List.mem_append.mp hother with hmem | hlast
      · exact (htraced.invoiceSerial other hmem).trans (Nat.le_succ _)
      · rw [List.mem_singleton.mp hlast, hid]
  case stored =>
    intro other hother
    refine le_trans ?_ hsupersedes.length_le
    rcases hcreates with hsame | ⟨invoice, hnew, _, _, hstored, _⟩
    · rw [hsame] at hother
      exact htraced.stored other hother
    · rw [hnew] at hother
      rcases List.mem_append.mp hother with hmem | hlast
      · exact htraced.stored other hmem
      · rwa [List.mem_singleton.mp hlast]
  case fingerprints =>
    intro other hother
    rcases hcreates with hsame | ⟨invoice, hnew, _, hfingerprint, _⟩
    · rw [hsame] at hother
      exact htraced.fingerprints other hother
    · rw [hnew] at hother
      rcases List.mem_append.mp hother with hmem | hlast
      · exact htraced.fingerprints other hmem
      · rwa [List.mem_singleton.mp hlast]
  case fees =>
    intro other hother
    rcases hcreates with hsame | ⟨invoice, hnew, _, _, hstored, hfees⟩
    · rw [hsame] at hother
      exact hlater other (htraced.stored other hother) (htraced.fees other hother)
    · rw [hnew] at hother
      rcases List.mem_append.mp hother with hmem | hlast
      · exact hlater other (htraced.stored other hmem) (htraced.fees other hmem)
      · rw [List.mem_singleton.mp hlast]
        exact hlater invoice hstored hfees

theorem syncKnows_finished {call : SyncCall}
    (hdelivered : ∀ delivered ∈ (Call.sync call).delivers, ∃ created ∈ service.tables.invoices,
      created.id = delivered.2.id ∧ ∀ id ∈ delivered.1, created.saasBillingRunId = id)
    {stage : SyncStage} (hrun : stage.run = none) :
    SyncKnows lockTimeoutMs start history service call stage := by
  have hclaimed : stage.claimed = none := by
    cases stage <;> first | rfl | cases hrun
  have hwritten : (Session.sync call stage).persists = none := by
    cases stage <;> first | rfl | cases hrun
  refine ⟨fun run h => ?_, fun run h => ?_, fun delivered h => ?_, fun written h => ?_⟩
  · rw [hrun] at h
    cases h
  · rw [hclaimed] at h
    cases h
  · obtain ⟨created, hcreated, hid, hof⟩ := hdelivered delivered h
    refine ⟨created, hcreated, hid, hof, fun run h => ?_⟩
    rw [hrun] at h
    cases h
  · rw [hwritten] at h
    cases h

theorem created_for_loaded (htraced : Traced lockTimeoutMs start history service)
    {call : SyncCall} {run : BillingRun} (hrun : loadSyncedRun service.tables.runs call = some run)
    {delivered : Option Nat × StripeInvoice} (hdelivers : delivered ∈ (Call.sync call).delivers)
    {created : CreatedInvoice} (hcreated : created ∈ service.tables.invoices)
    (hid : created.id = delivered.2.id) (hof : ∀ id ∈ delivered.1, created.saasBillingRunId = id) :
    created.saasBillingRunId = run.id := by
  cases call with
  | webhook billingRunId invoice eventType =>
      obtain rfl := Option.some.inj hdelivers
      rcases Option.or_eq_some_iff.mp hrun with hfound | ⟨_, hfound⟩
      · obtain ⟨id, hsome, hfound⟩ := Option.bind_eq_some_iff.mp hfound
        rw [hof id hsome, Keyed.key_of_lookup hfound]
      · have hlink : invoice.id ∈ run.stripeInvoiceId := by
          simpa using List.find?_some hfound
        obtain ⟨⟨other, hother, hsame, hrunId⟩, _⟩ :=
          htraced.linked run (List.mem_of_find?_eq_some hfound) _ hlink
        obtain rfl := List.inj_on_of_nodup_map htraced.invoiceIds hother hcreated
          (hsame.trans hid.symm)
        exact hrunId
  | _ => cases hdelivers

theorem syncKnows_step {n : Nat} {answer : Answer} {call : SyncCall} {stage stage' : SyncStage}
    (htraced : Traced lockTimeoutMs start history service)
    (hsession : service.sessions n = some (.sync call stage))
    (hstep : Steps lockTimeoutMs service (.step n answer) service')
    (hnext : runSync lockTimeoutMs service.tables call answer stage =
      some (stage', service'.tables)) :
    (service'.tables.invoices = service.tables.invoices ∨ ∃ invoice,
      service'.tables.invoices = service.tables.invoices ++ [invoice] ∧
        invoice.id = service.tables.invoices.length + 1 ∧ Fingerprinted invoice ∧
        invoice.saasBillingRunId ≤ service.tables.runs.length ∧
        FeesSince lockTimeoutMs start history service invoice.saasBillingRunId invoice.fees) ∧
      SyncKnows lockTimeoutMs start (history ++ [⟨service, .step n answer, service'⟩]) service' call
        stage' := by
  have hknows := htraced.sessions n call stage hsession
  have hcopies := htraced.versioned.sessions n _ hsession
  have hdelivered : ∀ delivered ∈ (Call.sync call).delivers,
      ∃ created ∈ service.tables.invoices, created.id = delivered.2.id ∧
        ∀ id ∈ delivered.1, created.saasBillingRunId = id := by
    intro delivered hdelivers
    obtain ⟨created, hcreated, hid, hof, _⟩ := hknows.delivered delivered hdelivers
    exact ⟨created, hcreated, hid, hof⟩
  cases stage with
  | load =>
      simp only [runSync] at hnext
      split at hnext
      · obtain ⟨rfl, htables⟩ := Prod.mk.inj (Option.some.inj hnext)
        rw [← htables]
        exact ⟨.inl rfl, syncKnows_finished (htables ▸ hdelivered) rfl⟩
      · rename_i run hrun
        obtain ⟨rfl, htables⟩ := Prod.mk.inj (Option.some.inj hnext)
        refine ⟨.inl (htables ▸ rfl), ⟨fun copy hcopy id hid => ?_, fun _ h => (by cases h), ?_,
          fun _ h => (by cases h)⟩⟩
        · obtain rfl := Option.some.inj hcopy
          rw [← htables]
          exact (htraced.linked _ (loadSyncedRun_mem hrun) id hid).1
        · intro delivered hdelivers
          obtain ⟨created, hcreated, hid, hof⟩ := hdelivered delivered hdelivers
          refine ⟨created, htables ▸ hcreated, hid, hof, fun copy hcopy => ?_⟩
          obtain rfl := Option.some.inj hcopy
          exact created_for_loaded htraced hrun hdelivers hcreated hid hof
  | claim run =>
      simp only [runSync] at hnext
      split at hnext
      · obtain ⟨rfl, htables⟩ := Prod.mk.inj (Option.some.inj hnext)
        rw [← htables]
        exact ⟨.inl rfl, syncKnows_finished (htables ▸ hdelivered) rfl⟩
      · rename_i result written hmark
        obtain ⟨rfl, htables⟩ := Prod.mk.inj (Option.some.inj hnext)
        obtain ⟨row, hrow, hid, _, rfl, hruns⟩ :=
          compareAndSwap_ok (markBillingRunSyncProcessing_ok hmark)
        have hinvoices : service'.tables.invoices = service.tables.invoices := by rw [← htables]
        have hstored : externalSyncColumns .processing (some answer.now) row ∈
            service'.tables.runs := by
          rw [← htables, hruns]
          exact Keyed.mem_modify.mpr (.inr ⟨row, hrow, hid, rfl⟩)
        have hids := (versioned_step htraced.versioned hstep).1.runs.ids
        refine ⟨.inl hinvoices, ⟨fun copy hcopy id hlink => ?_, fun copy hcopy => ?_, ?_,
          fun _ h => (by cases h)⟩⟩
        · obtain rfl := Option.some.inj hcopy
          rw [hinvoices]
          exact (htraced.linked row hrow id hlink).1
        · obtain rfl := Option.some.inj hcopy
          refine Since.now (htraced.run.snoc hstep) ⟨_, hstored, rfl, rfl⟩ ?_
          intro other hother hsame
          rw [List.inj_on_of_nodup_map hids hother hstored hsame]
        · intro delivered hdelivers
          obtain ⟨created, hcreated, hsame, hof, hrunId⟩ := hknows.delivered delivered hdelivers
          refine ⟨created, hinvoices ▸ hcreated, hsame, hof, fun copy hcopy => ?_⟩
          obtain rfl := Option.some.inj hcopy
          exact (hrunId run rfl).trans hid.symm
  | exchange run =>
      have hexchange : exchangeWithStripe service.tables call run answer =
          (stage', service'.tables) := Option.some.inj hnext
      have hlinks := hknows.links run rfl
      have hof : ∀ delivered ∈ (Call.sync call).delivers,
          IsInvoiceOf service.tables.invoices run.id delivered.2.id := by
        intro delivered hdelivers
        obtain ⟨created, hcreated, hsame, _, hrunId⟩ := hknows.delivered delivered hdelivers
        exact ⟨created, hcreated, hsame, hrunId run rfl⟩
      obtain ⟨hcreates, hwritten⟩ := exchange_invoices answer hlinks hof
      obtain ⟨_, hcopy, hclaimed⟩ := exchange_spec service.tables call run answer
      rw [hexchange] at hcreates hwritten hcopy hclaimed
      have hstored := (hcopies.1 run rfl).stored
      have hfees := hknows.fees run rfl
      have hkeeps : ∀ invoice ∈ service.tables.invoices, invoice ∈ service'.tables.invoices := by
        rcases hcreates with hsame | ⟨invoice, hnew, _⟩
        · simp only at hsame
          rw [hsame]
          exact fun _ h => h
        · simp only at hnew
          rw [hnew]
          exact fun _ h => List.mem_append_left _ h
      refine ⟨?_, ⟨fun copy hmem id hlink => ?_, fun copy hmem => ?_, ?_, hwritten⟩⟩
      · rcases hcreates with hsame | ⟨invoice, hnew, hid, hfingerprint, hrunId, hinvoiceFees⟩
        · exact .inl hsame
        · refine .inr ⟨invoice, hnew, hid, hfingerprint, hrunId ▸ hstored, ?_⟩
          rw [hrunId, hinvoiceFees]
          exact hfees
      · obtain rfl := hcopy copy hmem
        exact (hlinks id hlink).mono hkeeps
      · obtain rfl := hclaimed copy hmem
        exact hfees.later htraced.versioned hstep hstored
      · intro delivered hdelivers
        obtain ⟨created, hcreated, hsame, hnamed, hrunId⟩ := hknows.delivered delivered hdelivers
        refine ⟨created, hkeeps created hcreated, hsame, hnamed, fun copy hmem => ?_⟩
        rw [hcopy copy hmem]
        exact hrunId run rfl
  | persist run invoice | recordFailure run | recordSuccess run =>
      obtain ⟨rfl, htables⟩ := Prod.mk.inj (Option.some.inj hnext)
      have hinvoices : service'.tables.invoices = service.tables.invoices := by rw [← htables]
      exact ⟨.inl hinvoices, syncKnows_finished (hinvoices ▸ hdelivered) rfl⟩
  | finished => cases hnext

theorem traced_step (htraced : Traced lockTimeoutMs start history service)
    (hstep : Steps lockTimeoutMs service label service')
    (hgenuine : Genuine ⟨service, label, service'⟩) :
    Traced lockTimeoutMs start (history ++ [⟨service, label, service'⟩]) service' := by
  have hothers : ∀ m call stage, service.sessions m = some (.sync call stage) →
      (∀ invoice ∈ service.tables.invoices, invoice ∈ service'.tables.invoices) →
      SyncKnows lockTimeoutMs start (history ++ [⟨service, label, service'⟩]) service' call stage :=
    fun m call stage hm hkeeps => (htraced.sessions m call stage hm).mono htraced
      (htraced.versioned.sessions m _ hm) hstep hkeeps
  cases label with
  | begin n call =>
      obtain ⟨_, rfl⟩ := begin_cases hstep
      refine htraced.next hstep (.inl rfl) fun m other stage hm => ?_
      by_cases hsame : m = n
      · subst hsame
        have hcall : call.session = .sync other stage := by simpa using hm
        cases call with
        | sync call =>
            obtain ⟨rfl, rfl⟩ := Session.sync.inj hcall
            refine syncKnows_finished ?_ rfl
            exact hgenuine _ rfl
        | create request => cases hcall
        | topUp call stripeEnabled => cases call <;> cases hcall
      · exact hothers m other stage (by simpa [hsame] using hm) fun _ h => h
  | step n answer =>
      obtain ⟨session, session', tables, hsession, hnext, rfl⟩ := step_cases hstep
      cases session with
      | sync call stage =>
          obtain ⟨⟨stage', written⟩, hruns, heq⟩ := Option.map_eq_some_iff.mp hnext
          obtain ⟨rfl, rfl⟩ := Prod.mk.inj heq
          obtain ⟨hcreates, hknows⟩ := syncKnows_step htraced hsession hstep hruns
          refine htraced.next hstep hcreates fun m other stage hm => ?_
          by_cases hsame : m = n
          · subst hsame
            obtain ⟨rfl, rfl⟩ : call = other ∧ stage' = stage := by simpa using hm
            exact hknows
          · refine hothers m other stage (by simpa [hsame] using hm) ?_
            rcases hcreates with hinvoices | ⟨invoice, hinvoices, _⟩
            · rw [hinvoices]
              exact fun _ h => h
            · rw [hinvoices]
              exact fun _ h => List.mem_append_left _ h
      | create request stage | topUp stripeEnabled stage =>
          have hinvoices := invoices_step hnext fun call run h => by cases h
          obtain ⟨⟨stage', written⟩, hruns, heq⟩ := Option.map_eq_some_iff.mp hnext
          obtain ⟨rfl, rfl⟩ := Prod.mk.inj heq
          refine htraced.next hstep (.inl hinvoices) fun m other stage hm => ?_
          by_cases hsame : m = n
          · subst hsame
            simp at hm
          · exact hothers m other stage (by simpa [hsame] using hm) fun _ h => hinvoices ▸ h

theorem findOrCreate_draft {invoices : List CreatedInvoice} (run : BillingRun) {answer : Answer}
    (hfingerprints : ∀ invoice ∈ invoices, Fingerprinted invoice)
    (hdraft : answer.retrieved = .draft) (hfound : answer.found = none) :
    ∃ created ∈ (findOrCreateBillingRunInvoice invoices run answer).2,
      created.id = (findOrCreateBillingRunInvoice invoices run answer).1 ∧
        created.fees.baseFeeAmount = run.fees.baseFeeAmount ∧
        created.fees.usageFeeAmount = run.fees.usageFeeAmount := by
  unfold findOrCreateBillingRunInvoice
  split
  · rename_i id hid
    have hkept := of_decide_eq_true (Option.filter_eq_some_iff.mp hid).2
    simp only [replacesInvoice, hdraft, true_and, decide_eq_false_iff_not, ne_eq, not_not] at hkept
    obtain ⟨created, hcreated, hfingerprint⟩ := Option.map_eq_some_iff.mp hkept
    have hfees : ({ created.fees with drawCount := 0 } : RunFees) =
        { run.fees with drawCount := 0 } := by
      rw [← hfingerprints created (Keyed.mem_of_lookup hcreated), hfingerprint]
      rfl
    obtain ⟨hbase, husage, _, _⟩ := RunFees.mk.inj hfees
    exact ⟨created, Keyed.mem_of_lookup hcreated, Keyed.key_of_lookup hcreated, hbase, husage⟩
  · have hnone : findStripeInvoiceForBillingRun invoices run answer = none := by
      unfold findStripeInvoiceForBillingRun
      rw [hfound]
      cases run.stripeCustomerId <;> rfl
    rw [hnone]
    exact ⟨_, List.mem_append_right _ (List.mem_singleton_self _), rfl, rfl, rfl⟩

theorem draftsAgree_step (htraced : Traced lockTimeoutMs start history service)
    (hstep : Steps lockTimeoutMs service label service') :
    DraftsAgree ⟨service, label, service'⟩ := by
  rintro n answer id sendInvoice run snapshot hlabel hbefore hafter hdraft hfound
  subst hlabel
  obtain ⟨session, session', tables, hsession, hnext, rfl⟩ := step_cases hstep
  obtain rfl := Option.some.inj (hsession.symm.trans hbefore)
  simp only [Session.step] at hnext
  obtain ⟨⟨stage', written⟩, hruns, heq⟩ := Option.map_eq_some_iff.mp hnext
  obtain ⟨rfl, rfl⟩ := Prod.mk.inj heq
  obtain rfl : stage' = .persist run snapshot := by simpa using hafter
  obtain ⟨created, hcreated, hid, hfees⟩ :=
    findOrCreate_draft run htraced.fingerprints hdraft hfound
  have hexchange : exchangeWithStripe service.tables (.syncBillingRun id sendInvoice) run answer =
      (.persist run snapshot, written) := Option.some.inj hruns
  simp only [exchangeWithStripe] at hexchange
  split_ifs at hexchange
  · cases (Prod.mk.inj hexchange).1
  · obtain ⟨hpersist, rfl⟩ := Prod.mk.inj hexchange
    obtain ⟨_, rfl⟩ := SyncStage.persist.inj hpersist
    exact ⟨created, hcreated, hid, hfees⟩
  · cases (Prod.mk.inj hexchange).1

end History

/-! ## What recomputations have read -/

/-- The runs that recomputations go on with were open when they were read. -/
def ReadsOpen (service : Service) : Prop :=
  ∀ n request stage, service.sessions n = some (.create request stage) →
    ∀ run ∈ stage.existingRun, keepsRun run = false

section Reads

variable {lockTimeoutMs : Int} {service service' : Service} {label : Label}

theorem create_readsOpen {tables tables' : Tables} {request : BillingRunRequest}
    {stage stage' : CreateStage} (hopen : ∀ run ∈ stage.existingRun, keepsRun run = false)
    (hstep : createBillingRun tables request stage = some (stage', tables')) :
    ∀ run ∈ stage'.existingRun, keepsRun run = false := by
  cases stage with
  | loadRun =>
      simp only [createBillingRun] at hstep
      split at hstep
      · obtain ⟨rfl, _⟩ := Prod.mk.inj (Option.some.inj hstep)
        exact fun _ h => by cases h
      · rename_i run hrun
        obtain ⟨rfl, _⟩ := Prod.mk.inj (Option.some.inj hstep)
        intro copy hcopy
        split_ifs at hcopy with hkeeps
        · cases hcopy
        · obtain rfl := Option.some.inj hcopy
          exact Bool.eq_false_of_not_eq_true hkeeps
  | loadTopUps existingRun =>
      obtain ⟨rfl, _⟩ := Prod.mk.inj (Option.some.inj hstep)
      intro copy hcopy
      split_ifs at hcopy <;> exact hopen copy hcopy
  | loadRuns existingRun total =>
      obtain ⟨rfl, _⟩ := Prod.mk.inj (Option.some.inj hstep)
      exact hopen
  | updateRun existingRun available =>
      obtain ⟨rfl, _⟩ := Prod.mk.inj (Option.some.inj hstep)
      exact fun _ h => by cases h
  | finished => cases hstep

theorem readsOpen_step (hopen : ReadsOpen service)
    (hstep : Steps lockTimeoutMs service label service') : ReadsOpen service' := by
  intro m request stage hm
  cases label with
  | begin n call =>
      obtain ⟨_, rfl⟩ := begin_cases hstep
      by_cases hsame : m = n
      · subst hsame
        have hcall : call.session = .create request stage := by simpa using hm
        cases call with
        | create call =>
            obtain ⟨_, rfl⟩ := Session.create.inj hcall
            exact fun _ h => by cases h
        | topUp call stripeEnabled => cases call <;> cases hcall
        | sync call => cases hcall
      · exact hopen m request stage (by simpa [hsame] using hm)
  | step n answer =>
      obtain ⟨session, session', tables, hsession, hnext, rfl⟩ := step_cases hstep
      by_cases hsame : m = n
      · subst hsame
        obtain rfl : session' = .create request stage := by simpa using hm
        cases session with
        | create other before =>
            obtain ⟨⟨stage', written⟩, hcreates, heq⟩ := Option.map_eq_some_iff.mp hnext
            obtain ⟨hcreate, rfl⟩ := Prod.mk.inj heq
            obtain ⟨rfl, rfl⟩ := Session.create.inj hcreate
            exact create_readsOpen (hopen m other before hsession) hcreates
        | topUp stripeEnabled before =>
            obtain ⟨_, _, heq⟩ := Option.map_eq_some_iff.mp hnext
            cases (Prod.mk.inj heq).1
        | sync call before =>
            obtain ⟨_, _, heq⟩ := Option.map_eq_some_iff.mp hnext
            cases (Prod.mk.inj heq).1
      · exact hopen m request stage (by simpa [hsame] using hm)

theorem writesOpen_of_readsOpen (hopen : ReadsOpen service) :
    WritesOpen ⟨service, label, service'⟩ := by
  intro session hsession run hrun
  cases label with
  | begin n call => cases hsession
  | step n answer =>
      cases session with
      | create request stage =>
          cases stage with
          | updateRun existingRun available => exact hopen n request _ hsession run hrun
          | _ => cases hrun
      | topUp stripeEnabled stage => cases hrun
      | sync call stage => cases hrun

end Reads

section Runs

variable {lockTimeoutMs : Int} {start service : Service} {events : List (Event Service Label)}

theorem traced_of_unbilled (hstart : Unbilled start) : Traced lockTimeoutMs start [] start := by
  have hnone : ∀ invoice, invoice ∉ start.tables.invoices := by
    rw [hstart.invoices]
    exact fun _ h => List.not_mem_nil h
  refine ⟨.nil start, versioned_of_starting ⟨hstart.runs, hstart.idle⟩, ?_,
    fun invoice h => absurd h (hnone invoice), fun invoice h => absurd h (hnone invoice),
    fun invoice h => absurd h (hnone invoice), fun invoice h => absurd h (hnone invoice),
    fun row hrow id hid => ?_, fun n call stage hn => ?_⟩
  · rw [hstart.invoices]
    exact List.nodup_nil
  · rw [hstart.unlinked row hrow] at hid
    cases hid
  · rw [hstart.idle n] at hn
    cases hn

/-- A month with a usage fee, for a customer of Stripe. -/
def stripeRequest (usageFeeAmount : Int) : BillingRunRequest :=
  { monthRequest 1 with
    stripeCustomerId := some "cus"
    fees := { (monthRequest 1).fees with usageFeeAmount := usageFeeAmount }
    stripeEnabled := true }

def draftAnswer : Answer :=
  { noAnswer with
    retrieved := .draft
    status := .draft
    amountDue := 10000 }

def syncedCalls : List Label :=
  .begin 0 (.create (stripeRequest 0)) :: List.replicate 3 (.step 0 draftAnswer) ++
    .begin 1 (.sync (.syncBillingRun 1 false)) :: List.replicate 4 (.step 1 draftAnswer)

theorem idleService_unbilled : Unbilled idleService where
  runs := ⟨List.nodup_nil, fun _ h => (List.not_mem_nil h).elim⟩
  idle _ := rfl
  unlinked _ h := (List.not_mem_nil h).elim
  invoices := rfl

end Runs

end RewardSystem.Billing
