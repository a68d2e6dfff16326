import RewardSystem.Billing.Credit

/-!
# Terminal statuses of a billing run

A sync writes the status that its own snapshot of the invoice gives, under the revision that it has
claimed. The revision tells a sync that another one has written, not that its snapshot is outdated.
-/

namespace RewardSystem.Billing

open Transition

def SaasBillingRunStatus.invoiceStatus : SaasBillingRunStatus → Option StripeInvoiceStatus
  | .paid => some .paid
  | .void => some .void
  | .uncollectible => some .uncollectible
  | _ => none

/-- The snapshot shows the invoice in the given status, or in none that a run looks at. -/
def StripeInvoice.Confirms (invoice : StripeInvoice) (status : SaasBillingRunStatus)
    (eventType : Option InvoiceEventType) : Prop :=
  some invoice.status = status.invoiceStatus ∨
    (invoice.status = .other ∧ eventType ≠ some .paymentFailed ∧ eventType ≠ some .sent)

instance (invoice : StripeInvoice) (status : SaasBillingRunStatus)
    (eventType : Option InvoiceEventType) : Decidable (invoice.Confirms status eventType) :=
  inferInstanceAs (Decidable (_ ∨ _))

/-- The snapshot that a session writes with its next statement. -/
def Session.persists : Session → Option (BillingRun × StripeInvoice × Option InvoiceEventType)
  | .sync call (.persist run invoice) => some (run, invoice, call.eventType)
  | _ => none

/-- The run that a recomputation writes with its next statement. -/
def Session.overwrites : Session → Option BillingRun
  | .create _ (.updateRun existingRun _) => existingRun
  | _ => none

/-- A snapshot that is about to be written on `row` confirms its status, and no recomputation is
about to overwrite it. -/
def Session.Confirms (row : BillingRun) (session : Session) : Prop :=
  (∀ written ∈ session.persists, written.1.id = row.id ∧
      written.1.externalSyncRevision = row.externalSyncRevision →
        written.2.1.Confirms row.status written.2.2) ∧
    ∀ run ∈ session.overwrites, run.id ≠ row.id

instance (row : BillingRun) (session : Session) : Decidable (session.Confirms row) :=
  inferInstanceAs (Decidable (_ ∧ _))

/-- What a step writes on the run of the given id confirms its status. -/
def Confirmed (id : Nat) (e : Event Service Label) : Prop :=
  ∀ session ∈ sessionOf e, ∀ row ∈ e.before.tables.runs, row.id = id → session.Confirms row

instance (id : Nat) (e : Event Service Label) : Decidable (Confirmed id e) :=
  inferInstanceAs (Decidable (∀ _ ∈ _, _))

/-- The run of `row` still has the status of `row`. -/
def KeepsStatus (row : BillingRun) (runs : List BillingRun) : Prop :=
  ∀ row' ∈ runs, row'.id = row.id → row'.status = row.status

instance (row : BillingRun) (runs : List BillingRun) : Decidable (KeepsStatus row runs) :=
  inferInstanceAs (Decidable (∀ _ ∈ _, _))

/-- Rows with ids that count up. -/
structure Serial (runs : List BillingRun) : Prop where
  ids : Keyed.HasKeys BillingRun.id runs
  serial : ∀ run ∈ runs, run.id ≤ runs.length

/-- A copy of a row: an older one, or one with the status of the row where that is terminal. -/
structure Copies (runs : List BillingRun) (run : BillingRun) : Prop where
  stored : run.id ≤ runs.length
  older : ∀ row ∈ runs, row.id = run.id → run.externalSyncRevision ≤ row.externalSyncRevision
  status : ∀ row ∈ runs, row.id = run.id →
    run.externalSyncRevision = row.externalSyncRevision →
      isTerminalStatus row.status = true → run.status = row.status

def SyncStage.run : SyncStage → Option BillingRun
  | .claim run | .exchange run | .persist run _ | .recordFailure run | .recordSuccess run =>
      some run
  | _ => none

def SyncStage.claimed : SyncStage → Option BillingRun
  | .exchange run | .persist run _ | .recordFailure run | .recordSuccess run => some run
  | _ => none

def Session.HasCopies (runs : List BillingRun) : Session → Prop
  | .sync _ stage =>
      (∀ run ∈ stage.run, Copies runs run) ∧
        ∀ run ∈ stage.claimed, run.externalSyncStatus = .processing
  | _ => True

structure Versioned (service : Service) : Prop where
  runs : Serial service.tables.runs
  sessions : ∀ id session, service.sessions id = some session →
    session.HasCopies service.tables.runs

/-- Nothing is under way. -/
structure Starting (service : Service) : Prop where
  runs : Serial service.tables.runs
  idle : ∀ id, service.sessions id = none

section Invoice

variable {invoice : StripeInvoice} {status : SaasBillingRunStatus}
  {eventType : Option InvoiceEventType}

theorem resolve_eq_iff (hterminal : isTerminalStatus status = true) :
    resolveBillingRunStatusFromInvoice invoice status eventType = status ↔
      invoice.Confirms status eventType := by
  unfold resolveBillingRunStatusFromInvoice StripeInvoice.Confirms
  cases status with
  | draft | synced | finalized | sent | failed => cases hterminal
  | paid | void | uncollectible =>
      cases invoice.status <;> simp [SaasBillingRunStatus.invoiceStatus] <;> split_ifs <;> simp_all

end Invoice

section Writes

variable {runs runs' : List BillingRun} {run row result : BillingRun}
  {values : BillingRun → BillingRun}

theorem compareAndSwap_ok
    (h : updateBillingRunWithCompareAndSwap runs run values = .ok (result, runs')) :
    ∃ row ∈ runs, row.id = run.id ∧ row.externalSyncRevision = run.externalSyncRevision ∧
      result = values row ∧ runs' = Keyed.modify BillingRun.id run.id values runs := by
  unfold updateBillingRunWithCompareAndSwap at h
  split at h
  · cases h
  · rename_i row hrow
    split_ifs at h with hrevision
    obtain ⟨rfl, rfl⟩ := Prod.mk.inj (Except.ok.inj h)
    exact ⟨row, Keyed.mem_of_lookup hrow, Keyed.key_of_lookup hrow, hrevision, rfl, rfl⟩

theorem compareAndSwap_eq (hids : Keyed.HasKeys BillingRun.id runs) (hrow : row ∈ runs)
    (hid : row.id = run.id) (hrevision : row.externalSyncRevision = run.externalSyncRevision) :
    updateBillingRunWithCompareAndSwap runs run values =
      .ok (values row, Keyed.modify BillingRun.id run.id values runs) := by
  unfold updateBillingRunWithCompareAndSwap
  rw [← hid, Keyed.lookup_of_mem hids hrow]
  simp only [hrevision, ↓reduceIte]

theorem confirms_of_reads {session : Session} (hpersists : session.persists = none)
    (hoverwrites : session.overwrites = none) : session.Confirms row := by
  refine ⟨fun written h => ?_, fun run h => ?_⟩
  · rw [hpersists] at h
    cases h
  · rw [hoverwrites] at h
    cases h

theorem keepsStatus_self (hids : Keyed.HasKeys BillingRun.id runs) (hrow : row ∈ runs) :
    KeepsStatus row runs := by
  intro row' hrow' hid
  rw [List.inj_on_of_nodup_map hids hrow' hrow hid]

theorem keepsStatus_modify (hids : Keyed.HasKeys BillingRun.id runs) (hrow : row ∈ runs)
    (hkey : ∀ row, (values row).id = row.id) {id : Nat} :
    KeepsStatus row (Keyed.modify BillingRun.id id values runs) ↔
      (id = row.id → (values row).status = row.status) := by
  constructor
  · intro hkeeps hid
    exact hkeeps (values row) (Keyed.mem_modify.mpr (.inr ⟨row, hrow, hid.symm, rfl⟩)) (hkey row)
  · intro hvalues row' hrow' hsame
    obtain ⟨hmem, _⟩ | ⟨old, hold, hid, rfl⟩ := Keyed.mem_modify.mp hrow'
    · exact keepsStatus_self hids hrow row' hmem hsame
    · obtain rfl := List.inj_on_of_nodup_map hids hold hrow ((hkey old).symm.trans hsame)
      exact hvalues hid.symm

theorem keepsStatus_compareAndSwap (hids : Keyed.HasKeys BillingRun.id runs) (hrow : row ∈ runs)
    (hkey : ∀ row, (values row).id = row.id) :
    KeepsStatus row (writtenRuns runs (updateBillingRunWithCompareAndSwap runs run values)) ↔
      (run.id = row.id ∧ run.externalSyncRevision = row.externalSyncRevision →
        (values row).status = row.status) := by
  cases hresult : updateBillingRunWithCompareAndSwap runs run values with
  | error error =>
      refine iff_of_true (keepsStatus_self hids hrow) fun ⟨hid, hrevision⟩ => ?_
      rw [compareAndSwap_eq hids hrow hid.symm hrevision.symm] at hresult
      cases hresult
  | ok written =>
      obtain ⟨old, hold, hid, hrevision, _, hruns⟩ := compareAndSwap_ok hresult
      rw [writtenRuns, hruns, keepsStatus_modify hids hrow hkey]
      refine ⟨fun hvalues hsame => hvalues hsame.1, fun hvalues hsame => hvalues ⟨hsame, ?_⟩⟩
      obtain rfl := List.inj_on_of_nodup_map hids hold hrow (hid.trans hsame)
      exact hrevision.symm

/-- Each row that a write leaves has a higher revision, is not terminal, or is new. -/
structure Supersedes (runs runs' : List BillingRun) : Prop where
  serial : Serial runs'
  length_le : runs.length ≤ runs'.length
  keeps : ∀ row ∈ runs, ∃ row' ∈ runs', row'.id = row.id
  rows : ∀ row' ∈ runs', row' ∈ runs ∨ runs.length < row'.id ∨
    ∃ row ∈ runs, row.id = row'.id ∧ row.externalSyncRevision ≤ row'.externalSyncRevision ∧
      (row.externalSyncRevision = row'.externalSyncRevision → isTerminalStatus row'.status = false)

theorem supersedes_self (hruns : Serial runs) : Supersedes runs runs :=
  ⟨hruns, le_rfl, fun row hrow => ⟨row, hrow, rfl⟩, fun _ hrow => .inl hrow⟩

theorem supersedes_modify (hruns : Serial runs) (hkey : ∀ row, (values row).id = row.id) {id : Nat}
    (hvalues : ∀ row, row.externalSyncRevision ≤ (values row).externalSyncRevision ∧
      (row.externalSyncRevision = (values row).externalSyncRevision →
        isTerminalStatus (values row).status = false)) :
    Supersedes runs (Keyed.modify BillingRun.id id values runs) where
  serial :=
    { ids := Keyed.hasKeys_modify (fun row hrow => (hkey row).trans hrow) hruns.ids
      serial := by
        intro row hrow
        rw [Keyed.length_modify]
        obtain ⟨hmem, _⟩ | ⟨old, hold, _, rfl⟩ := Keyed.mem_modify.mp hrow
        · exact hruns.serial row hmem
        · exact (hkey old).le.trans (hruns.serial old hold) }
  length_le := Keyed.length_modify.ge
  keeps row hrow := by
    refine ⟨_, List.mem_map_of_mem hrow, ?_⟩
    split_ifs
    · exact hkey row
    · rfl
  rows := by
    intro row hrow
    obtain ⟨hmem, _⟩ | ⟨old, hold, _, rfl⟩ := Keyed.mem_modify.mp hrow
    · exact .inl hmem
    · exact .inr (.inr ⟨old, hold, (hkey old).symm, hvalues old⟩)

theorem supersedes_compareAndSwap (hruns : Serial runs) (hkey : ∀ row, (values row).id = row.id)
    (hvalues : ∀ row, (values row).externalSyncRevision = row.externalSyncRevision + 1) :
    Supersedes runs (writtenRuns runs (updateBillingRunWithCompareAndSwap runs run values)) := by
  cases hresult : updateBillingRunWithCompareAndSwap runs run values with
  | error error => exact supersedes_self hruns
  | ok written =>
      obtain ⟨old, hold, hid, hrevision, _, hwritten⟩ := compareAndSwap_ok hresult
      rw [writtenRuns, hwritten]
      refine supersedes_modify hruns hkey fun row => ?_
      have hrow := hvalues row
      exact ⟨by omega, fun hsame => absurd hsame (by omega)⟩

theorem supersedes_writeRun (hruns : Serial runs) {request : BillingRunRequest}
    {existingRun : Option BillingRun} {credit : Int} :
    Supersedes runs (writeRun runs request existingRun credit) := by
  have hserial : Serial (writeRun runs request existingRun credit) :=
    ⟨writeRun_ids hruns.ids hruns.serial, writeRun_serial hruns.serial⟩
  unfold writeRun at hserial ⊢
  split
  · refine supersedes_modify hruns (fun row => recomputedRun_id row) fun row => ?_
    exact ⟨le_rfl, fun _ => rfl⟩
  · split
    · exact supersedes_self hruns
    · rename_i hnew
      simp only [hnew] at hserial
      refine ⟨hserial, by simp, fun row hrow => ⟨row, List.mem_append_left _ hrow, rfl⟩,
        fun row hrow => ?_⟩
      rcases List.mem_append.mp hrow with hrow | hrow
      · exact .inl hrow
      · rw [List.mem_singleton.mp hrow]
        exact .inr (.inl (Nat.lt_succ_self _))

theorem Copies.mono (hcopies : Copies runs run) (hwrites : Supersedes runs runs') :
    Copies runs' run := by
  have hrows : ∀ row' ∈ runs', row'.id = run.id → row' ∈ runs ∨
      (run.externalSyncRevision ≤ row'.externalSyncRevision ∧
        (run.externalSyncRevision = row'.externalSyncRevision →
          isTerminalStatus row'.status = false)) := by
    intro row' hrow' hid
    obtain hmem | hnew | ⟨row, hrow, hsame, hle, hopen⟩ := hwrites.rows row' hrow'
    · exact .inl hmem
    · have hstored := hcopies.stored
      omega
    · have holder := hcopies.older row hrow (hsame.trans hid)
      exact .inr ⟨by omega, fun hrevision => hopen (by omega)⟩
  refine ⟨hcopies.stored.trans hwrites.length_le, fun row' hrow' hid => ?_,
    fun row' hrow' hid hrevision hterminal => ?_⟩
  · obtain hmem | ⟨hle, _⟩ := hrows row' hrow' hid
    · exact hcopies.older row' hmem hid
    · exact hle
  · obtain hmem | ⟨_, hopen⟩ := hrows row' hrow' hid
    · exact hcopies.status row' hmem hid hrevision hterminal
    · rw [hopen hrevision] at hterminal
      cases hterminal

theorem copies_of_mem (hruns : Serial runs) (hrow : row ∈ runs) : Copies runs row where
  stored := hruns.serial row hrow
  older row' hrow' hid := by rw [List.inj_on_of_nodup_map hruns.ids hrow' hrow hid]
  status row' hrow' hid _ _ := by rw [List.inj_on_of_nodup_map hruns.ids hrow' hrow hid]

end Writes

section Sessions

variable {lockTimeoutMs now : Int} {tables tables' : Tables} {runs runs' : List BillingRun}
  {run row result : BillingRun} {invoice : StripeInvoice} {eventType : Option InvoiceEventType}

theorem markBillingRunSyncProcessing_ok
    (h : markBillingRunSyncProcessing lockTimeoutMs now runs run = .ok (result, runs')) :
    updateBillingRunWithCompareAndSwap runs run (externalSyncColumns .processing (some now)) =
      .ok (result, runs') := by
  unfold markBillingRunSyncProcessing at h
  obtain ⟨_, _, h⟩ := ApiError.bind_eq_ok.mp h
  obtain ⟨nextStatus, hnext, h⟩ := ApiError.bind_eq_ok.mp h
  unfold resolveBillingRunExternalSyncTransition at hnext
  split_ifs at hnext
  obtain rfl := Except.ok.inj hnext
  exact h

theorem resolveTransition_of_processing {next : SaasBillingRunExternalSyncStatus}
    (hprocessing : run.externalSyncStatus = .processing) (hnext : next ∈ [.succeeded, .failed]) :
    resolveBillingRunExternalSyncTransition run.externalSyncStatus next = .ok next := by
  unfold resolveBillingRunExternalSyncTransition
  rw [hprocessing]
  rcases List.mem_pair.mp hnext with rfl | rfl <;> rfl

theorem recordBillingRunSyncSuccess_eq (hprocessing : run.externalSyncStatus = .processing) :
    recordBillingRunSyncSuccess now runs run = updateBillingRunWithCompareAndSwap runs run
      (externalSyncColumns .succeeded (some (run.externalSyncAttemptedAt.getD now))) := by
  unfold recordBillingRunSyncSuccess
  rw [resolveTransition_of_processing hprocessing (by simp)]
  rfl

theorem recordBillingRunSyncFailure_eq (hprocessing : run.externalSyncStatus = .processing) :
    recordBillingRunSyncFailure now runs run = updateBillingRunWithCompareAndSwap runs run fun row =>
      { externalSyncColumns .failed (some (run.externalSyncAttemptedAt.getD now)) row with
        status := if isTerminalStatus run.status ∨ isDispatchedStatus run.status then run.status
          else .failed } := by
  unfold recordBillingRunSyncFailure
  rw [resolveTransition_of_processing hprocessing (by simp)]
  rfl

theorem syncBillingRunFromInvoice_eq (hprocessing : run.externalSyncStatus = .processing) :
    syncBillingRunFromInvoice now runs run invoice eventType =
      updateBillingRunWithCompareAndSwap runs run fun row =>
        { externalSyncColumns .succeeded (some (run.externalSyncAttemptedAt.getD now)) row with
          status := resolveBillingRunStatusFromInvoice invoice run.status eventType
          stripeCustomerId := invoice.customer.or run.stripeCustomerId
          stripeInvoiceId := some invoice.id
          creditAppliedAmount := resolveStripeCreditAppliedAmount invoice
          totalAmount := invoice.amountDue } := by
  unfold syncBillingRunFromInvoice
  rw [resolveTransition_of_processing hprocessing (by simp)]
  rfl

theorem loadSyncedRun_mem {call : SyncCall} (h : loadSyncedRun runs call = some run) :
    run ∈ runs := by
  cases call with
  | syncBillingRun id sendInvoice => exact Keyed.mem_of_lookup h
  | refreshBillingRun id => exact Keyed.mem_of_lookup h
  | settleBillingRun id => exact Keyed.mem_of_lookup h
  | webhook billingRunId invoice eventType =>
      rcases Option.or_eq_some_iff.mp h with h | ⟨_, h⟩
      · obtain ⟨id, _, h⟩ := Option.bind_eq_some_iff.mp h
        exact Keyed.mem_of_lookup h
      · exact List.mem_of_find?_eq_some h

theorem exchange_spec (tables : Tables) (call : SyncCall) (run : BillingRun) (answer : Answer) :
    (exchangeWithStripe tables call run answer).2.runs = tables.runs ∧
      (∀ copy ∈ (exchangeWithStripe tables call run answer).1.run, copy = run) ∧
      ∀ copy ∈ (exchangeWithStripe tables call run answer).1.claimed, copy = run := by
  unfold exchangeWithStripe
  cases call with
  | webhook billingRunId invoice eventType =>
      exact ⟨rfl, fun _ h => (Option.some.inj h).symm, fun _ h => (Option.some.inj h).symm⟩
  | syncBillingRun id sendInvoice =>
      simp only
      split_ifs <;>
        exact ⟨rfl, fun _ h => (Option.some.inj h).symm, fun _ h => (Option.some.inj h).symm⟩
  | settleBillingRun id =>
      simp only
      split
      · exact ⟨rfl, fun _ h => (Option.some.inj h).symm, fun _ h => (Option.some.inj h).symm⟩
      · split_ifs <;>
          exact ⟨rfl, fun _ h => (Option.some.inj h).symm, fun _ h => (Option.some.inj h).symm⟩
  | refreshBillingRun id =>
      simp only
      split_ifs
      · exact ⟨rfl, fun _ h => (by cases h), fun _ h => (by cases h)⟩
      · split <;>
          exact ⟨rfl, fun _ h => (Option.some.inj h).symm, fun _ h => (Option.some.inj h).symm⟩

theorem hasCopies_finished {call : SyncCall} : (Session.sync call .finished).HasCopies runs :=
  ⟨fun _ h => (by cases h), fun _ h => (by cases h)⟩

theorem sync_step {call : SyncCall} {stage stage' : SyncStage} {answer : Answer}
    (hruns : Serial tables.runs) (hcopies : (Session.sync call stage).HasCopies tables.runs)
    (hstep : runSync lockTimeoutMs tables call answer stage = some (stage', tables')) :
    Supersedes tables.runs tables'.runs ∧ (Session.sync call stage').HasCopies tables'.runs := by
  obtain ⟨hcopy, hclaimed⟩ := hcopies
  cases stage with
  | load =>
      simp only [runSync] at hstep
      split at hstep
      · obtain ⟨rfl, rfl⟩ := Prod.mk.inj (Option.some.inj hstep)
        exact ⟨supersedes_self hruns, hasCopies_finished⟩
      · rename_i run hrun
        obtain ⟨rfl, rfl⟩ := Prod.mk.inj (Option.some.inj hstep)
        refine ⟨supersedes_self hruns, fun copy hcopy => ?_, fun _ h => by cases h⟩
        obtain rfl := Option.some.inj hcopy
        exact copies_of_mem hruns (loadSyncedRun_mem hrun)
  | claim run =>
      simp only [runSync] at hstep
      split at hstep
      · obtain ⟨rfl, rfl⟩ := Prod.mk.inj (Option.some.inj hstep)
        exact ⟨supersedes_self hruns, hasCopies_finished⟩
      · rename_i result written hmark
        obtain ⟨rfl, rfl⟩ := Prod.mk.inj (Option.some.inj hstep)
        have hswap := markBillingRunSyncProcessing_ok hmark
        have hwrites : Supersedes tables.runs (writtenRuns tables.runs
            (updateBillingRunWithCompareAndSwap tables.runs run
              (externalSyncColumns .processing (some answer.now)))) :=
          supersedes_compareAndSwap hruns (fun _ => rfl) fun _ => rfl
        rw [hswap] at hwrites
        obtain ⟨row, hrow, hid, _, rfl, rfl⟩ := compareAndSwap_ok hswap
        refine ⟨hwrites, fun copy hcopy => ?_, fun copy hcopy => ?_⟩
        · obtain rfl := Option.some.inj hcopy
          exact copies_of_mem hwrites.serial
            (Keyed.mem_modify.mpr (.inr ⟨row, hrow, hid, rfl⟩))
        · obtain rfl := Option.some.inj hcopy
          rfl
  | exchange run =>
      have hnext : exchangeWithStripe tables call run answer = (stage', tables') :=
        Option.some.inj hstep
      obtain ⟨hsame, hrun, hkept⟩ := exchange_spec tables call run answer
      rw [hnext] at hsame hrun hkept
      rw [hsame]
      refine ⟨supersedes_self hruns, fun copy hcopied => ?_, fun copy hcopied => ?_⟩
      · rw [hrun copy hcopied]
        exact hcopy run rfl
      · rw [hkept copy hcopied]
        exact hclaimed run rfl
  | persist run invoice =>
      obtain ⟨rfl, rfl⟩ := Prod.mk.inj (Option.some.inj hstep)
      refine ⟨?_, hasCopies_finished⟩
      rw [syncBillingRunFromInvoice_eq (hclaimed run rfl)]
      exact supersedes_compareAndSwap hruns (fun _ => rfl) fun _ => rfl
  | recordFailure run =>
      obtain ⟨rfl, rfl⟩ := Prod.mk.inj (Option.some.inj hstep)
      refine ⟨?_, hasCopies_finished⟩
      rw [recordBillingRunSyncFailure_eq (hclaimed run rfl)]
      exact supersedes_compareAndSwap hruns (fun _ => rfl) fun _ => rfl
  | recordSuccess run =>
      obtain ⟨rfl, rfl⟩ := Prod.mk.inj (Option.some.inj hstep)
      refine ⟨?_, hasCopies_finished⟩
      rw [recordBillingRunSyncSuccess_eq (hclaimed run rfl)]
      exact supersedes_compareAndSwap hruns (fun _ => rfl) fun _ => rfl
  | finished => cases hstep

theorem createBillingRun_runs {request : BillingRunRequest} {stage stage' : CreateStage}
    (hstep : createBillingRun tables request stage = some (stage', tables')) :
    tables'.runs = match stage with
      | .updateRun existingRun available =>
          writeRun tables.runs request existingRun (min available request.grossTotalAmount)
      | _ => tables.runs := by
  cases stage with
  | loadRun =>
      simp only [createBillingRun] at hstep
      split at hstep <;> obtain ⟨_, rfl⟩ := Prod.mk.inj (Option.some.inj hstep) <;> rfl
  | loadTopUps existingRun =>
      obtain ⟨_, rfl⟩ := Prod.mk.inj (Option.some.inj hstep)
      rfl
  | loadRuns existingRun total =>
      obtain ⟨_, rfl⟩ := Prod.mk.inj (Option.some.inj hstep)
      rfl
  | updateRun existingRun available =>
      obtain ⟨_, rfl⟩ := Prod.mk.inj (Option.some.inj hstep)
      rfl
  | finished => cases hstep

theorem runTopUp_runs {stripeEnabled : Bool} {stage stage' : TopUpStage} {answer : Answer}
    (hstep : runTopUp tables stripeEnabled answer stage = some (stage', tables')) :
    tables'.runs = tables.runs := by
  cases stage with
  | load topUpId =>
      simp only [runTopUp] at hstep
      split at hstep
      · obtain ⟨_, rfl⟩ := Prod.mk.inj (Option.some.inj hstep)
        rfl
      · split_ifs at hstep <;> obtain ⟨_, rfl⟩ := Prod.mk.inj (Option.some.inj hstep) <;> rfl
  | insert tenantId amount stripeCustomerId =>
      obtain ⟨_, rfl⟩ := Prod.mk.inj (Option.some.inj hstep)
      rfl
  | exchange topUp =>
      obtain ⟨_, rfl⟩ := Prod.mk.inj (Option.some.inj hstep)
      rfl
  | store topUp status =>
      obtain ⟨_, rfl⟩ := Prod.mk.inj (Option.some.inj hstep)
      rfl
  | finished => cases hstep

theorem copies_step {session session' : Session} {answer : Answer} (hruns : Serial tables.runs)
    (hcopies : session.HasCopies tables.runs)
    (hstep : session.step lockTimeoutMs tables answer = some (session', tables')) :
    Supersedes tables.runs tables'.runs ∧ session'.HasCopies tables'.runs := by
  cases session with
  | create request stage =>
      obtain ⟨⟨stage', written⟩, hnext, heq⟩ := Option.map_eq_some_iff.mp hstep
      obtain ⟨rfl, rfl⟩ := Prod.mk.inj heq
      refine ⟨?_, trivial⟩
      simp only [createBillingRun_runs hnext]
      split
      · exact supersedes_writeRun hruns
      · exact supersedes_self hruns
  | topUp stripeEnabled stage =>
      obtain ⟨⟨stage', written⟩, hnext, heq⟩ := Option.map_eq_some_iff.mp hstep
      obtain ⟨rfl, rfl⟩ := Prod.mk.inj heq
      simp only [runTopUp_runs hnext]
      exact ⟨supersedes_self hruns, trivial⟩
  | sync call stage =>
      obtain ⟨⟨stage', written⟩, hnext, heq⟩ := Option.map_eq_some_iff.mp hstep
      obtain ⟨rfl, rfl⟩ := Prod.mk.inj heq
      exact sync_step hruns hcopies hnext

theorem keepsStatus_writeRun (hruns : Serial runs) (hrow : row ∈ runs)
    (hterminal : isTerminalStatus row.status = true) {request : BillingRunRequest}
    {existingRun : Option BillingRun} {credit : Int} :
    KeepsStatus row (writeRun runs request existingRun credit) ↔
      ∀ run ∈ existingRun, run.id ≠ row.id := by
  cases existingRun with
  | none =>
      refine iff_of_true ?_ fun _ h => by cases h
      unfold writeRun
      simp only
      split
      · exact keepsStatus_self hruns.ids hrow
      · intro row' hrow' hid
        rcases List.mem_append.mp hrow' with hmem | hnew
        · exact keepsStatus_self hruns.ids hrow row' hmem hid
        · have hserial := hruns.serial row hrow
          rw [List.mem_singleton.mp hnew] at hid
          simp only [recomputedRun, insertedRun] at hid
          omega
  | some run =>
      simp only [Option.mem_some_iff, forall_eq']
      refine (keepsStatus_modify hruns.ids hrow fun row => recomputedRun_id row).trans ?_
      refine forall_congr' fun _ => iff_of_false (fun hdraft => ?_) not_false
      rw [← hdraft] at hterminal
      cases hterminal

theorem keepsStatus_sync {call : SyncCall} {stage stage' : SyncStage} {answer : Answer}
    (hruns : Serial tables.runs) (hcopies : (Session.sync call stage).HasCopies tables.runs)
    (hrow : row ∈ tables.runs) (hterminal : isTerminalStatus row.status = true)
    (hstep : runSync lockTimeoutMs tables call answer stage = some (stage', tables')) :
    KeepsStatus row tables'.runs ↔ (Session.sync call stage).Confirms row := by
  obtain ⟨hcopy, hclaimed⟩ := hcopies
  have hself := keepsStatus_self hruns.ids hrow
  cases stage with
  | load =>
      simp only [runSync] at hstep
      split at hstep <;> obtain ⟨_, rfl⟩ := Prod.mk.inj (Option.some.inj hstep) <;>
        exact iff_of_true hself (confirms_of_reads rfl rfl)
  | claim run =>
      refine iff_of_true ?_ (confirms_of_reads rfl rfl)
      simp only [runSync] at hstep
      split at hstep
      · obtain ⟨_, rfl⟩ := Prod.mk.inj (Option.some.inj hstep)
        exact hself
      · rename_i result written hmark
        obtain ⟨_, rfl⟩ := Prod.mk.inj (Option.some.inj hstep)
        obtain ⟨_, _, _, _, _, rfl⟩ := compareAndSwap_ok (markBillingRunSyncProcessing_ok hmark)
        refine (keepsStatus_modify hruns.ids hrow ?_).mpr ?_
        · exact fun _ => rfl
        · exact fun _ => rfl
  | exchange run =>
      have hnext : exchangeWithStripe tables call run answer = (stage', tables') :=
        Option.some.inj hstep
      have hsame := (exchange_spec tables call run answer).1
      rw [hnext] at hsame
      rw [hsame]
      exact iff_of_true hself (confirms_of_reads rfl rfl)
  | persist run invoice =>
      obtain ⟨rfl, rfl⟩ := Prod.mk.inj (Option.some.inj hstep)
      rw [syncBillingRunFromInvoice_eq (hclaimed run rfl)]
      refine (keepsStatus_compareAndSwap hruns.ids hrow ?_).trans ?_
      · exact fun _ => rfl
      · simp only [Session.Confirms, Session.persists, Session.overwrites, Option.mem_some_iff,
          forall_eq', Option.not_mem_none, IsEmpty.forall_iff, implies_true, and_true]
        refine forall_congr' fun ⟨hid, hrevision⟩ => ?_
        rw [(hcopy run rfl).status row hrow hid.symm hrevision hterminal]
        exact resolve_eq_iff hterminal
  | recordFailure run =>
      obtain ⟨rfl, rfl⟩ := Prod.mk.inj (Option.some.inj hstep)
      rw [recordBillingRunSyncFailure_eq (hclaimed run rfl)]
      refine iff_of_true ?_ (confirms_of_reads rfl rfl)
      refine (keepsStatus_compareAndSwap hruns.ids hrow ?_).mpr ?_
      · exact fun _ => rfl
      · rintro ⟨hid, hrevision⟩
        have hstatus := (hcopy run rfl).status row hrow hid.symm hrevision hterminal
        rw [hstatus]
        exact if_pos (.inl hterminal)
  | recordSuccess run =>
      obtain ⟨rfl, rfl⟩ := Prod.mk.inj (Option.some.inj hstep)
      rw [recordBillingRunSyncSuccess_eq (hclaimed run rfl)]
      refine iff_of_true ?_ (confirms_of_reads rfl rfl)
      refine (keepsStatus_compareAndSwap hruns.ids hrow ?_).mpr ?_
      · exact fun _ => rfl
      · exact fun _ => rfl
  | finished => cases hstep

theorem keepsStatus_create {request : BillingRunRequest} {stage stage' : CreateStage}
    (hruns : Serial tables.runs) (hrow : row ∈ tables.runs)
    (hterminal : isTerminalStatus row.status = true)
    (hstep : createBillingRun tables request stage = some (stage', tables')) :
    KeepsStatus row tables'.runs ↔ (Session.create request stage).Confirms row := by
  have hself := keepsStatus_self hruns.ids hrow
  rw [createBillingRun_runs hstep]
  cases stage with
  | loadRun | loadTopUps | loadRuns | finished => exact iff_of_true hself (confirms_of_reads rfl rfl)
  | updateRun existingRun available =>
      refine (keepsStatus_writeRun hruns hrow hterminal).trans ?_
      simp [Session.Confirms, Session.persists, Session.overwrites]

theorem keepsStatus_step {session session' : Session} {answer : Answer}
    (hruns : Serial tables.runs) (hcopies : session.HasCopies tables.runs)
    (hrow : row ∈ tables.runs) (hterminal : isTerminalStatus row.status = true)
    (hstep : session.step lockTimeoutMs tables answer = some (session', tables')) :
    KeepsStatus row tables'.runs ↔ session.Confirms row := by
  cases session with
  | create request stage =>
      obtain ⟨⟨stage', written⟩, hnext, heq⟩ := Option.map_eq_some_iff.mp hstep
      obtain ⟨rfl, rfl⟩ := Prod.mk.inj heq
      exact keepsStatus_create hruns hrow hterminal hnext
  | topUp stripeEnabled stage =>
      obtain ⟨⟨stage', written⟩, hnext, heq⟩ := Option.map_eq_some_iff.mp hstep
      obtain ⟨rfl, rfl⟩ := Prod.mk.inj heq
      rw [runTopUp_runs hnext]
      exact iff_of_true (keepsStatus_self hruns.ids hrow) (confirms_of_reads rfl rfl)
  | sync call stage =>
      obtain ⟨⟨stage', written⟩, hnext, heq⟩ := Option.map_eq_some_iff.mp hstep
      obtain ⟨rfl, rfl⟩ := Prod.mk.inj heq
      exact keepsStatus_sync hruns hcopies hrow hterminal hnext

end Sessions

section Runs

variable {service service' start : Service} {lockTimeoutMs : Int} {label : Label} {row : BillingRun}
  {earlier later : List (Event Service Label)}

theorem versioned_of_starting (hstarting : Starting start) : Versioned start where
  runs := hstarting.runs
  sessions id session hsession := by
    rw [hstarting.idle id] at hsession
    cases hsession

theorem begin_hasCopies (call : Call) : call.session.HasCopies service.tables.runs := by
  cases call with
  | create request => trivial
  | topUp call stripeEnabled => cases call <;> trivial
  | sync call => exact ⟨fun _ h => (by cases h), fun _ h => (by cases h)⟩

theorem Session.HasCopies.mono {session : Session} {runs runs' : List BillingRun}
    (hcopies : session.HasCopies runs) (hwrites : Supersedes runs runs') :
    session.HasCopies runs' := by
  cases session with
  | sync call stage => exact ⟨fun run hrun => (hcopies.1 run hrun).mono hwrites, hcopies.2⟩
  | create request stage => trivial
  | topUp stripeEnabled stage => trivial

theorem versioned_step (hversioned : Versioned service)
    (hstep : Steps lockTimeoutMs service label service') :
    Versioned service' ∧ Supersedes service.tables.runs service'.tables.runs := by
  cases label with
  | begin id call =>
      obtain ⟨_, rfl⟩ := begin_cases hstep
      refine ⟨⟨hversioned.runs, fun other session hsession => ?_⟩, supersedes_self hversioned.runs⟩
      by_cases hother : other = id
      · subst hother
        obtain rfl : call.session = session := by simpa using hsession
        exact begin_hasCopies call
      · exact hversioned.sessions other session (by simpa [hother] using hsession)
  | step id answer =>
      obtain ⟨session, session', tables, hsession, hnext, rfl⟩ := step_cases hstep
      obtain ⟨hwrites, hcopies⟩ := copies_step hversioned.runs
        (hversioned.sessions id session hsession) hnext
      refine ⟨⟨hwrites.serial, fun other session hother => ?_⟩, hwrites⟩
      by_cases hsame : other = id
      · subst hsame
        obtain rfl : session' = session := by simpa using hother
        exact hcopies
      · have hbefore : service.sessions other = some session := by simpa [hsame] using hother
        exact (hversioned.sessions other session hbefore).mono hwrites

/-- The run of `row` is stored with the status of `row`. -/
structure Terminal (row : BillingRun) (service : Service) : Prop where
  versioned : Versioned service
  stored : ∃ current ∈ service.tables.runs, current.id = row.id
  keeps : KeepsStatus row service.tables.runs

theorem keepsStatus_iff_confirmed (hterminal : isTerminalStatus row.status = true)
    (hservice : Terminal row service) (hstep : Steps lockTimeoutMs service label service') :
    KeepsStatus row service'.tables.runs ↔ Confirmed row.id ⟨service, label, service'⟩ := by
  obtain ⟨current, hcurrent, hid⟩ := hservice.stored
  have hstatus : current.status = row.status := hservice.keeps current hcurrent hid
  cases label with
  | begin id call =>
      obtain ⟨_, rfl⟩ := begin_cases hstep
      exact iff_of_true hservice.keeps fun _ h => by cases h
  | step id answer =>
      obtain ⟨session, session', tables, hsession, hnext, rfl⟩ := step_cases hstep
      have hkeeps : KeepsStatus row tables.runs ↔ session.Confirms current := by
        rw [← keepsStatus_step hservice.versioned.runs
          (hservice.versioned.sessions id session hsession) hcurrent (hstatus ▸ hterminal) hnext]
        unfold KeepsStatus
        rw [hid, hstatus]
      rw [hkeeps]
      constructor
      · intro hconfirms other hother row' hrow' hsame
        obtain rfl : session = other := Option.some.inj (hsession.symm.trans hother)
        obtain rfl := List.inj_on_of_nodup_map hservice.versioned.runs.ids hrow' hcurrent
          (hsame.trans hid.symm)
        exact hconfirms
      · intro hconfirmed
        exact hconfirmed session hsession current hcurrent hid

theorem terminal_step (hservice : Terminal row service)
    (hstep : Steps lockTimeoutMs service label service')
    (hkeeps : KeepsStatus row service'.tables.runs) : Terminal row service' := by
  obtain ⟨hversioned, hwrites⟩ := versioned_step hservice.versioned hstep
  obtain ⟨current, hcurrent, hid⟩ := hservice.stored
  obtain ⟨kept, hkept, hsame⟩ := hwrites.keeps current hcurrent
  exact ⟨hversioned, ⟨kept, hkept, hsame.trans hid⟩, hkeeps⟩

/-- From any state in which a run is terminal, its status is kept exactly if every snapshot that is
written on it confirms the status and no recomputation overwrites it. -/
theorem terminal_kept_iff (hstarting : Starting start)
    (hearlier : Run (Steps lockTimeoutMs) start earlier service)
    (hrow : row ∈ service.tables.runs) (hterminal : isTerminalStatus row.status = true)
    (hlater : Run (Steps lockTimeoutMs) service later service') :
    (∀ e ∈ later, KeepsStatus row e.after.tables.runs) ↔ ∀ e ∈ later, Confirmed row.id e := by
  have hversioned : Versioned service :=
    hearlier.invariant (fun _ _ _ hversioned hstep => (versioned_step hversioned hstep).1)
      (versioned_of_starting hstarting)
  refine Run.forall_iff_of_guard (I := Terminal row) (fun u i v hu hstep => ?_)
    (fun u i v hu hstep hconfirmed => ?_) hlater
    ⟨hversioned, ⟨row, hrow, rfl⟩, keepsStatus_self hversioned.runs.ids hrow⟩
  · exact keepsStatus_iff_confirmed hterminal hu hstep
  · exact terminal_step hu hstep ((keepsStatus_iff_confirmed hterminal hu hstep).mpr hconfirmed)

def linkedRun (status : SaasBillingRunStatus) : BillingRun :=
  { recomputedRun (monthRequest 1) 0 (insertedRun (monthRequest 1) 1) with
    status := status
    stripeInvoiceId := some 7 }

/-- Invoice 7 as it was in a given status. -/
def snapshot (status : StripeInvoiceStatus) : StripeInvoice where
  id := 7
  customer := none
  status := status
  startingBalance := 0
  amountDue := 10000

def linkedService (status : SaasBillingRunStatus) : Service where
  tables := { runs := [linkedRun status], topUps := [], invoices := [] }
  sessions := fun _ => none

theorem linkedService_starting (status : SaasBillingRunStatus) :
    Starting (linkedService status) where
  runs :=
    { ids := List.nodup_singleton 1
      serial := fun _ hrun => (List.mem_singleton.mp hrun) ▸ le_rfl }
  idle _ := rfl

def delivered (id : Nat) (status : StripeInvoiceStatus) (eventType : InvoiceEventType) :
    List Label :=
  .begin id (.sync (.webhook (some 1) (snapshot status) eventType)) ::
    List.replicate 4 (.step id noAnswer)

/-- The event that a paid invoice sends is delivered twice more. -/
theorem terminal_kept_paid : ∃ events service,
    Run (Steps 0) (linkedService .paid) events service ∧
      ∀ e ∈ events, KeepsStatus (linkedRun .paid) e.after.tables.runs := by
  obtain ⟨events, service, hrun, hcheck⟩ := Run.exists_of_check (machine 0) (linkedService .paid)
    (delivered 0 .paid .paid ++ delivered 1 .paid .other)
    (fun events _ => ∀ e ∈ events, Confirmed 1 e) (by decide +kernel)
  exact ⟨events, service, hrun, (terminal_kept_iff (linkedService_starting .paid)
    (Run.nil _) (List.mem_singleton_self _) rfl hrun).mpr (of_decide_eq_true hcheck)⟩

/-- The snapshot of the open invoice is delivered after the one of the paid invoice. -/
theorem paid_run_reopened : ∃ events service,
    Run (Steps 0) (linkedService .synced) events service ∧
      (∃ e ∈ events, ∃ row ∈ e.before.tables.runs, row.status = .paid ∧
        ¬KeepsStatus row e.after.tables.runs) ∧
      service.tables.runs.map BillingRun.status = [.finalized] := by
  obtain ⟨events, service, hrun, hcheck⟩ := Run.exists_of_check (machine 0) (linkedService .synced)
    (delivered 0 .paid .paid ++ delivered 1 .open .other)
    (fun events service => (∃ e ∈ events, ∃ row ∈ e.before.tables.runs, row.status = .paid ∧
        ¬KeepsStatus row e.after.tables.runs) ∧
      service.tables.runs.map BillingRun.status = [.finalized]) (by decide +kernel)
  exact ⟨events, service, hrun, of_decide_eq_true hcheck⟩

end Runs

end RewardSystem.Billing
