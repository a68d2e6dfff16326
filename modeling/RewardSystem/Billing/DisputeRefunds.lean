import Mathlib.Data.List.Nodup
import RewardSystem.Billing.Disputes

/-!
# Disputes are refunded once

A review asks for its credit note on what it has read before, and books it on what it reads after
that. Where none of this changes in between, no dispute is refunded twice, no run by more than its
total, and the ledger of a tenant is a chain.
-/

namespace RewardSystem.Billing.Disputes

open Transition

def BillingLedgerEntry.isRefund (entry : BillingLedgerEntry) : Bool :=
  entry.entryType = .billingDisputeRefund

def noteTotal (creditNotes : List CreditNote) (billingRunId : Nat) : Int :=
  ((creditNotes.filter fun note => note.key.billingRunId = billingRunId).map CreditNote.amount).sum

def refundTotal (entries : List BillingLedgerEntry) (billingRunId : Nat) : Int :=
  ((entries.filter fun entry => entry.billingRunId = billingRunId ∧ entry.isRefund).map
    fun entry => -entry.amount).sum

def refundedDisputes (entries : List BillingLedgerEntry) : List (Option Nat) :=
  (entries.filter BillingLedgerEntry.isRefund).map BillingLedgerEntry.disputeId

def ChainedLedger (entries : List BillingLedgerEntry) : Prop :=
  RunningBalance.Chained BillingLedgerEntry.tenantId BillingLedgerEntry.id
    BillingLedgerEntry.balanceBefore BillingLedgerEntry.balanceAfter entries

/-- The credit note of a review is in the ledger. -/
def Repaid (entries : List BillingLedgerEntry) (note : CreditNote) : Prop :=
  some note.key.disputeId ∈ refundedDisputes entries

instance (entries : List BillingLedgerEntry) (note : CreditNote) : Decidable (Repaid entries note) :=
  inferInstanceAs (Decidable (_ ∈ _))

/-- The credit note that a review has been granted and has not booked yet. -/
def ReviewStage.granted : ReviewStage → Option Refund
  | .reloadDispute refund | .refindCharge refund | .latestBeforeRecharge refund
  | .reinsertCharge refund _ | .rereadRemaining refund _ | .latestBeforeRefund refund _
  | .insertRefund refund _ _ | .resolve refund _ => some refund
  | _ => none

def Session.granted : Session → Option Refund
  | .review _ stage => stage.granted
  | .create _ _ => none

/-- The session with the given id has a credit note that is not in the ledger yet. -/
def Service.Holds (service : Service) (id : Nat) (refund : Refund) : Prop :=
  ∃ session, service.sessions id = some session ∧ refund ∈ session.granted

/-- No dispute is refunded twice and no run by more than its total, credit notes and ledger agree
where no review is between the two, and the ledger is a chain. -/
structure RefundedOnce (service : Service) : Prop where
  refunds : (refundedDisputes service.tables.entries).Nodup
  creditNotes : (service.tables.creditNotes.map fun note => note.key.disputeId).Nodup
  matched : ∀ run ∈ service.tables.runs,
    (∀ id refund, service.Holds id refund → refund.review.run.id ≠ run.id) →
      noteTotal service.tables.creditNotes run.id = refundTotal service.tables.entries run.id
  bounded : ∀ run ∈ service.tables.runs,
    noteTotal service.tables.creditNotes run.id ≤ run.totalAmount ∧
      refundTotal service.tables.entries run.id ≤ run.totalAmount
  chained : ChainedLedger service.tables.entries

/-! ## What a step may not meet -/

def Session.rejects : Session → Option BillingDispute
  | .review _ (.reject dispute) => some dispute
  | _ => none

/-- The review that is about to be granted a credit note, and what it takes to be refundable. -/
def Session.asks (answer : Answer) : Session → Option (Review × Int)
  | .review request (.createCreditNote loaded remaining) =>
      match requestedCreditNote request loaded remaining answer with
      | .ok _ => some (loaded, remaining)
      | .error _ => none
  | _ => none

def Session.commits : Session → Option (List PendingEntry)
  | .review _ (.markUnderReview _ pending _) => some pending
  | .review _ (.resolve _ pending) => some pending
  | _ => none

/-- The rows continue what is still the latest row of their tenant, and charge no run again. -/
def Continues : List BillingLedgerEntry → List PendingEntry → Prop
  | _, [] => True
  | entries, pending :: rest =>
      latestEntry entries pending.entry.tenantId = pending.latest ∧
        (pending.entry.entryType = .billingRunCharge →
          findCharge entries pending.entry.billingRunId = none) ∧
        Continues (entries ++ [pending.entry]) rest

instance decidableContinues : ∀ (entries : List BillingLedgerEntry) (pending : List PendingEntry),
    Decidable (Continues entries pending)
  | _, [] => .isTrue trivial
  | entries, pending :: rest =>
      have := decidableContinues (entries ++ [pending.entry]) rest
      inferInstanceAs (Decidable (_ ∧ _ ∧ _))

/-- What a session goes on with has not changed since it was read. -/
structure Session.Fresh (tables : Tables) (answer : Answer) (session : Session) : Prop where
  /-- A dispute is not rejected between its credit note and the ledger. -/
  rejects : ∀ dispute ∈ session.rejects, ∀ note ∈ tables.creditNotes,
    note.key.disputeId = dispute.id → Repaid tables.entries note
  /-- A credit note is issued when the others of the run are in the ledger. -/
  notes : ∀ asked ∈ session.asks answer, ∀ note ∈ tables.creditNotes,
    note.key.billingRunId = asked.1.run.id → Repaid tables.entries note
  disputes : ∀ asked ∈ session.asks answer, ∀ dispute ∈ tables.disputes,
    dispute.id = asked.1.dispute.id → isFinalStatus dispute.status = false
  remaining : ∀ asked ∈ session.asks answer,
    asked.2 ≤ readRemainingRefundableAmount tables.entries asked.1.run.id
  commits : ∀ pending ∈ session.commits, Continues tables.entries pending

instance (tables : Tables) (answer : Answer) (session : Session) :
    Decidable (session.Fresh tables answer) :=
  decidable_of_iff (_ ∧ _ ∧ _ ∧ _ ∧ _)
    ⟨fun ⟨h₁, h₂, h₃, h₄, h₅⟩ => ⟨h₁, h₂, h₃, h₄, h₅⟩,
      fun ⟨h₁, h₂, h₃, h₄, h₅⟩ => ⟨h₁, h₂, h₃, h₄, h₅⟩⟩

/-- The session goes on with what has not changed, and no review fails with a credit note that is
not in the ledger. -/
def Label.Undisturbed (service : Service) : Label → Prop
  | .begin _ _ => True
  | .step id answer =>
      ∀ session ∈ service.sessions id, session.Fresh service.tables answer
  | .fail id => ∀ session ∈ service.sessions id, session.granted = none

instance (service : Service) : ∀ label : Label, Decidable (label.Undisturbed service)
  | .begin _ _ => inferInstanceAs (Decidable True)
  | .step _ _ => inferInstanceAs (Decidable (∀ _ ∈ _, _))
  | .fail _ => inferInstanceAs (Decidable (∀ _ ∈ _, _))

def Undisturbed (e : Event Service Label) : Prop :=
  e.label.Undisturbed e.before

instance (e : Event Service Label) : Decidable (Undisturbed e) :=
  inferInstanceAs (Decidable (e.label.Undisturbed e.before))

/-! ## The ledger -/

/-- What the tables keep: no refund without a charge, and none of an open dispute. -/
structure Booked (tables : Tables) : Prop where
  runIds : Keyed.HasKeys BillingRun.id tables.runs
  disputeIds : Keyed.HasKeys BillingDispute.id tables.disputes
  disputeSerial : ∀ dispute ∈ tables.disputes, dispute.id ≤ tables.disputes.length
  entryIds : ∀ entry ∈ tables.entries, entry.id < tables.nextEntryId
  chained : ChainedLedger tables.entries
  uncharged : ∀ run ∈ tables.runs, findCharge tables.entries run.id = none →
    ∀ entry ∈ tables.entries, entry.billingRunId ≠ run.id
  charged : ∀ run ∈ tables.runs, (findCharge tables.entries run.id).isSome →
    readRemainingRefundableAmount tables.entries run.id =
      run.totalAmount - refundTotal tables.entries run.id
  refunded : ∀ entry ∈ tables.entries, entry.isRefund → ∃ dispute ∈ tables.disputes,
    entry.disputeId = some dispute.id ∧ isFinalStatus dispute.status
  refunds : (refundedDisputes tables.entries).Nodup
  creditNotes : (tables.creditNotes.map fun note => note.key.disputeId).Nodup

section Totals

variable {entries : List BillingLedgerEntry} {entry : BillingLedgerEntry} {billingRunId : Nat}

theorem remaining_append :
    readRemainingRefundableAmount (entries ++ [entry]) billingRunId =
      readRemainingRefundableAmount entries billingRunId +
        if entry.billingRunId = billingRunId then entry.amount else 0 := by
  unfold readRemainingRefundableAmount
  by_cases hrun : entry.billingRunId = billingRunId <;> simp [hrun]

theorem refundTotal_append :
    refundTotal (entries ++ [entry]) billingRunId = refundTotal entries billingRunId +
      if entry.billingRunId = billingRunId ∧ entry.isRefund then -entry.amount else 0 := by
  unfold refundTotal
  by_cases hrefund : entry.billingRunId = billingRunId ∧ entry.isRefund = true <;> simp [hrefund]

theorem refundedDisputes_append :
    refundedDisputes (entries ++ [entry]) = refundedDisputes entries ++
      if entry.isRefund then [entry.disputeId] else [] := by
  unfold refundedDisputes
  by_cases hrefund : entry.isRefund = true <;> simp [hrefund]

theorem findCharge_append :
    findCharge (entries ++ [entry]) billingRunId = (findCharge entries billingRunId).or
      (if entry.billingRunId = billingRunId ∧ entry.entryType = .billingRunCharge then some entry
        else none) := by
  unfold findCharge
  rw [List.find?_append]
  congr 1
  by_cases hcharge : entry.billingRunId = billingRunId ∧ entry.entryType = .billingRunCharge <;>
    simp [hcharge]

theorem noteTotal_append {creditNotes : List CreditNote} {note : CreditNote} :
    noteTotal (creditNotes ++ [note]) billingRunId = noteTotal creditNotes billingRunId +
      if note.key.billingRunId = billingRunId then note.amount else 0 := by
  unfold noteTotal
  by_cases hrun : note.key.billingRunId = billingRunId <;> simp [hrun]

end Totals

section Booked

variable {tables : Tables} {entry : BillingLedgerEntry} {latest : Option BillingLedgerEntry}
  {run : BillingRun}

theorem id_lt_of_latest {entries : List BillingLedgerEntry}
    (hlatest : latestEntry entries entry.tenantId = latest)
    (hbelow : ∀ last ∈ latest, last.id < entry.id) :
    ∀ other ∈ entries, other.tenantId = entry.tenantId → other.id < entry.id := by
  intro other hother htenant
  cases latest with
  | none => exact absurd htenant (RunningBalance.latest_eq_none hlatest hother)
  | some last => exact (RunningBalance.le_latest hlatest hother htenant).trans_lt (hbelow last rfl)

theorem totals_of_uncharged (hbooked : Booked tables) (hrun : run ∈ tables.runs)
    (hnone : findCharge tables.entries run.id = none) :
    readRemainingRefundableAmount tables.entries run.id = 0 ∧
      refundTotal tables.entries run.id = 0 := by
  have hentries := hbooked.uncharged run hrun hnone
  have hempty : (tables.entries.filter fun entry => entry.billingRunId = run.id) = [] := by
    simpa [List.filter_eq_nil_iff] using hentries
  have hrefunds : (tables.entries.filter fun entry =>
      entry.billingRunId = run.id ∧ entry.isRefund) = [] := by
    rw [List.filter_eq_nil_iff]
    intro entry hentry
    simp [hentries entry hentry]
  unfold readRemainingRefundableAmount refundTotal
  rw [hempty, hrefunds]
  exact ⟨rfl, rfl⟩

/-- A row that continues the ledger: the charge of a run that has none, or the refund of a dispute
that is final and has none. -/
theorem Booked.append (hbooked : Booked tables)
    (hlatest : latestEntry tables.entries entry.tenantId = latest)
    (hbalance : entry.balanceBefore = balanceOf latest)
    (hbelow : ∀ last ∈ latest, last.id < entry.id) (hid : entry.id < tables.nextEntryId)
    (hrun : run ∈ tables.runs) (hof : entry.billingRunId = run.id)
    (hcharge : entry.entryType = .billingRunCharge →
      findCharge tables.entries run.id = none ∧ entry.amount = run.totalAmount)
    (hrefund : entry.isRefund → (findCharge tables.entries run.id).isSome ∧
      entry.disputeId ∉ refundedDisputes tables.entries ∧ ∃ dispute ∈ tables.disputes,
        entry.disputeId = some dispute.id ∧ isFinalStatus dispute.status) :
    Booked { tables with entries := tables.entries ++ [entry] } where
  runIds := hbooked.runIds
  disputeIds := hbooked.disputeIds
  disputeSerial := hbooked.disputeSerial
  entryIds other hother := by
    rcases List.mem_append.mp hother with hmem | hnew
    · exact hbooked.entryIds other hmem
    · rw [List.mem_singleton.mp hnew]
      exact hid
  chained := by
    refine hbooked.chained.append ?_ (id_lt_of_latest hlatest hbelow)
    rw [hbalance, ← hlatest]
    rfl
  uncharged other hother hnone := by
    simp only [findCharge_append] at hnone
    obtain ⟨hold, hnew⟩ := Option.or_eq_none_iff.mp hnone
    intro listed hlisted
    rcases List.mem_append.mp hlisted with hmem | hlast
    · exact hbooked.uncharged other hother hold listed hmem
    · rw [List.mem_singleton.mp hlast]
      intro hsame
      cases htype : entry.entryType with
      | billingRunCharge => simp [hsame, htype] at hnew
      | billingDisputeRefund =>
          have hsome := (hrefund (by simp [BillingLedgerEntry.isRefund, htype])).1
          rw [← hof, hsame, hold] at hsome
          cases hsome
  charged other hother hsome := by
    simp only [remaining_append, refundTotal_append]
    by_cases hsame : entry.billingRunId = other.id
    · obtain rfl : other = run :=
        List.inj_on_of_nodup_map hbooked.runIds hother hrun (hsame.symm.trans hof)
      cases htype : entry.entryType with
      | billingRunCharge =>
          obtain ⟨hnone, hamount⟩ := hcharge htype
          obtain ⟨hremaining, hrefunds⟩ := totals_of_uncharged hbooked hother hnone
          simp [hof, BillingLedgerEntry.isRefund, htype, hamount, hremaining, hrefunds]
      | billingDisputeRefund =>
          have hisRefund : entry.isRefund = true := by simp [BillingLedgerEntry.isRefund, htype]
          rw [hbooked.charged other hother (hrefund hisRefund).1, if_pos hof, if_pos ⟨hof, hisRefund⟩]
          omega
    · simp only [findCharge_append, hsame, false_and, ↓reduceIte, Option.or_none] at hsome
      simpa [hsame] using hbooked.charged other hother hsome
  refunded other hother hisRefund := by
    rcases List.mem_append.mp hother with hmem | hlast
    · exact hbooked.refunded other hmem hisRefund
    · obtain rfl := List.mem_singleton.mp hlast
      exact (hrefund hisRefund).2.2
  refunds := by
    simp only [refundedDisputes_append]
    split_ifs with hisRefund
    · refine List.nodup_append.mpr ⟨hbooked.refunds, List.nodup_singleton _, ?_⟩
      rintro listed hlisted _ hlast rfl
      rw [List.mem_singleton.mp hlast] at hlisted
      exact (hrefund hisRefund).2.1 hlisted
    · rw [List.append_nil]
      exact hbooked.refunds
  creditNotes := hbooked.creditNotes

theorem Booked.setDisputes (hbooked : Booked tables) {disputes : List BillingDispute}
    (hids : Keyed.HasKeys BillingDispute.id disputes)
    (hserial : ∀ dispute ∈ disputes, dispute.id ≤ disputes.length)
    (hfinal : ∀ dispute ∈ tables.disputes, isFinalStatus dispute.status →
      ∃ kept ∈ disputes, kept.id = dispute.id ∧ isFinalStatus kept.status) :
    Booked { tables with disputes := disputes } where
  runIds := hbooked.runIds
  disputeIds := hids
  disputeSerial := hserial
  entryIds := hbooked.entryIds
  chained := hbooked.chained
  uncharged := hbooked.uncharged
  charged := hbooked.charged
  refunded entry hentry hisRefund := by
    obtain ⟨dispute, hdispute, hid, hstatus⟩ := hbooked.refunded entry hentry hisRefund
    obtain ⟨kept, hkept, hsame, hstatus'⟩ := hfinal dispute hdispute hstatus
    exact ⟨kept, hkept, by rw [hid, hsame], hstatus'⟩
  refunds := hbooked.refunds
  creditNotes := hbooked.creditNotes

theorem Booked.modifyDispute (hbooked : Booked tables) {id : Nat}
    {values : BillingDispute → BillingDispute} (hkey : ∀ row, (values row).id = row.id)
    (hfinal : ∀ row, isFinalStatus row.status → isFinalStatus (values row).status) :
    Booked { tables with disputes := Keyed.modify BillingDispute.id id values tables.disputes } := by
  refine hbooked.setDisputes (Keyed.hasKeys_modify (fun row hrow => (hkey row).trans hrow)
    hbooked.disputeIds) (fun dispute hdispute => ?_) fun dispute hdispute hstatus => ?_
  · rw [Keyed.length_modify]
    obtain ⟨hmem, _⟩ | ⟨row, hrow, _, rfl⟩ := Keyed.mem_modify.mp hdispute
    · exact hbooked.disputeSerial dispute hmem
    · exact (hkey row).le.trans (hbooked.disputeSerial row hrow)
  · refine ⟨_, List.mem_map_of_mem hdispute, ?_⟩
    split_ifs
    · exact ⟨hkey dispute, hfinal dispute hstatus⟩
    · exact ⟨rfl, hstatus⟩

theorem Booked.insertDispute (hbooked : Booked tables) {dispute : BillingDispute}
    (hid : dispute.id = tables.disputes.length + 1) :
    Booked { tables with disputes := tables.disputes ++ [dispute] } := by
  refine hbooked.setDisputes ?_ (fun row hrow => ?_) fun row hrow hstatus =>
    ⟨row, List.mem_append_left _ hrow, rfl, hstatus⟩
  · refine Keyed.hasKeys_append hbooked.disputeIds
      (Keyed.lookup_eq_none.mpr fun row hrow hsame => ?_)
    have hle := hbooked.disputeSerial row hrow
    omega
  · rw [List.length_append, List.length_singleton]
    rcases List.mem_append.mp hrow with hrow | hrow
    · exact (hbooked.disputeSerial row hrow).trans (Nat.le_succ _)
    · rw [List.mem_singleton.mp hrow, hid]

theorem Booked.takeEntryId (hbooked : Booked tables) :
    Booked { tables with nextEntryId := tables.nextEntryId + 1 } :=
  { hbooked with
    entryIds := fun entry hentry =>
      (hbooked.entryIds entry hentry).trans (Nat.lt_succ_self _) }

end Booked

/-! ## What the sessions know -/

def Loaded (tables : Tables) (review : Review) : Prop :=
  review.run ∈ tables.runs ∧ ∃ dispute ∈ tables.disputes,
    dispute.id = review.dispute.id ∧ dispute.billingRunId = review.run.id

def Charged (tables : Tables) (review : Review) : Prop :=
  (findCharge tables.entries review.run.id).isSome

def Earlier (latest : Option BillingLedgerEntry) (id : Nat) : Prop :=
  ∀ last ∈ latest, last.id < id

def ChargeKnown (tables : Tables) (review : Review) (pending : List PendingEntry) : Prop :=
  (pending = [] ∧ Charged tables review) ∨ ∃ id latest,
    pending = [chargeEntry id review.run latest] ∧ Earlier latest id ∧ id < tables.nextEntryId

def ReviewStage.Knows (tables : Tables) : ReviewStage → Prop
  | .loadDispute | .finished => True
  | .reject dispute | .loadRun dispute => ∃ row ∈ tables.disputes,
      row.id = dispute.id ∧ row.billingRunId = dispute.billingRunId
  | .findCharge review | .latestBeforeCharge review => Loaded tables review
  | .insertCharge review latest => Loaded tables review ∧ Earlier latest tables.nextEntryId
  | .readRemaining review pending | .markUnderReview review pending _ =>
      Loaded tables review ∧ ChargeKnown tables review pending
  | .createCreditNote review _ => Loaded tables review ∧ Charged tables review
  | .reloadDispute refund | .refindCharge refund =>
      Loaded tables refund.review ∧ Charged tables refund.review
  -- The first transaction has charged the run.
  | .latestBeforeRecharge _ | .reinsertCharge _ _ => False
  | .rereadRemaining refund pending | .latestBeforeRefund refund pending =>
      Loaded tables refund.review ∧ Charged tables refund.review ∧ pending = []
  | .insertRefund refund pending latest => Loaded tables refund.review ∧
      Charged tables refund.review ∧ pending = [] ∧ Earlier latest tables.nextEntryId
  | .resolve refund pending => Loaded tables refund.review ∧ Charged tables refund.review ∧
      ∃ id latest, pending = [refundEntry id refund latest] ∧ Earlier latest id ∧
        id < tables.nextEntryId

def Session.Knows (tables : Tables) : Session → Prop
  | .review _ stage => stage.Knows tables
  | .create _ _ => True

/-- Nothing that a session knows goes away. -/
structure Grows (tables tables' : Tables) : Prop where
  runs : tables'.runs = tables.runs
  disputes : ∀ dispute ∈ tables.disputes, ∃ row ∈ tables'.disputes,
    row.id = dispute.id ∧ row.billingRunId = dispute.billingRunId
  charges : ∀ billingRunId, (findCharge tables.entries billingRunId).isSome →
    (findCharge tables'.entries billingRunId).isSome
  nextEntryId : tables.nextEntryId ≤ tables'.nextEntryId

/-- A credit note that is not in the ledger yet: its run is refunded by its amount less than by
credit notes, and its dispute is open. -/
structure Granted (tables : Tables) (refund : Refund) : Prop where
  positive : 0 < refund.approvedRefundAmount
  matched : noteTotal tables.creditNotes refund.review.run.id =
    refundTotal tables.entries refund.review.run.id + refund.approvedRefundAmount
  unresolved : ∀ dispute ∈ tables.disputes, dispute.id = refund.review.dispute.id →
    isFinalStatus dispute.status = false
  note : ∃ note ∈ tables.creditNotes, note.key.disputeId = refund.review.dispute.id ∧
    note.key.billingRunId = refund.review.run.id

structure Sound (service : Service) : Prop where
  booked : Booked service.tables
  knows : ∀ id session, service.sessions id = some session → session.Knows service.tables
  granted : ∀ id refund, service.Holds id refund → Granted service.tables refund
  exclusive : ∀ id id' refund refund', service.Holds id refund → service.Holds id' refund' →
    refund.review.run.id = refund'.review.run.id → id = id'
  notes : ∀ note ∈ service.tables.creditNotes, Repaid service.tables.entries note ∨
    ∃ id refund, service.Holds id refund ∧ refund.review.dispute.id = note.key.disputeId ∧
      refund.review.run.id = note.key.billingRunId
  matched : ∀ run ∈ service.tables.runs,
    (∀ id refund, service.Holds id refund → refund.review.run.id ≠ run.id) →
      noteTotal service.tables.creditNotes run.id = refundTotal service.tables.entries run.id
  bounded : ∀ run ∈ service.tables.runs,
    noteTotal service.tables.creditNotes run.id ≤ run.totalAmount

/-- Nothing is under way, and every credit note is in the ledger. -/
structure Opening (service : Service) : Prop where
  booked : Booked service.tables
  idle : ∀ id, service.sessions id = none
  notes : ∀ note ∈ service.tables.creditNotes, Repaid service.tables.entries note
  matched : ∀ run ∈ service.tables.runs,
    noteTotal service.tables.creditNotes run.id = refundTotal service.tables.entries run.id
  bounded : ∀ run ∈ service.tables.runs,
    noteTotal service.tables.creditNotes run.id ≤ run.totalAmount

section Knowledge

variable {tables tables' : Tables} {review : Review} {pending : List PendingEntry}

theorem Loaded.mono (hloaded : Loaded tables review) (hgrows : Grows tables tables') :
    Loaded tables' review := by
  obtain ⟨hrun, dispute, hdispute, hid, hof⟩ := hloaded
  obtain ⟨row, hrow, hsame, hsameRun⟩ := hgrows.disputes dispute hdispute
  exact ⟨hgrows.runs ▸ hrun, row, hrow, hsame.trans hid, hsameRun.trans hof⟩

theorem ChargeKnown.mono (hcharge : ChargeKnown tables review pending)
    (hgrows : Grows tables tables') : ChargeKnown tables' review pending := by
  rcases hcharge with ⟨hpending, hcharged⟩ | ⟨id, latest, hpending, hearlier, hid⟩
  · exact .inl ⟨hpending, hgrows.charges _ hcharged⟩
  · exact .inr ⟨id, latest, hpending, hearlier, hid.trans_le hgrows.nextEntryId⟩

theorem Earlier.mono {latest : Option BillingLedgerEntry} {id id' : Nat}
    (hearlier : Earlier latest id) (hid : id ≤ id') : Earlier latest id' :=
  fun last hlast => (hearlier last hlast).trans_le hid

theorem Session.Knows.mono {session : Session} (hknows : session.Knows tables)
    (hgrows : Grows tables tables') : session.Knows tables' := by
  cases session with
  | create request stage => trivial
  | review request stage =>
      cases stage with
      | loadDispute | finished => trivial
      | reject dispute | loadRun dispute =>
          obtain ⟨row, hrow, hid, hof⟩ := hknows
          obtain ⟨kept, hkept, hsame, hsameRun⟩ := hgrows.disputes row hrow
          exact ⟨kept, hkept, hsame.trans hid, hsameRun.trans hof⟩
      | findCharge review | latestBeforeCharge review => exact Loaded.mono hknows hgrows
      | insertCharge review latest =>
          exact ⟨hknows.1.mono hgrows, hknows.2.mono hgrows.nextEntryId⟩
      | readRemaining review pending | markUnderReview review pending remaining =>
          exact ⟨hknows.1.mono hgrows, hknows.2.mono hgrows⟩
      | createCreditNote review remaining =>
          exact ⟨hknows.1.mono hgrows, hgrows.charges _ hknows.2⟩
      | reloadDispute refund | refindCharge refund =>
          exact ⟨hknows.1.mono hgrows, hgrows.charges _ hknows.2⟩
      | latestBeforeRecharge refund | reinsertCharge refund latest => exact hknows
      | rereadRemaining refund pending | latestBeforeRefund refund pending =>
          exact ⟨hknows.1.mono hgrows, hgrows.charges _ hknows.2.1, hknows.2.2⟩
      | insertRefund refund pending latest =>
          exact ⟨hknows.1.mono hgrows, hgrows.charges _ hknows.2.1, hknows.2.2.1,
            hknows.2.2.2.mono hgrows.nextEntryId⟩
      | resolve refund pending =>
          obtain ⟨hloaded, hcharged, id, latest, hpending, hearlier, hid⟩ := hknows
          exact ⟨hloaded.mono hgrows, hgrows.charges _ hcharged, id, latest, hpending, hearlier,
            hid.trans_le hgrows.nextEntryId⟩

end Knowledge

/-! ## The steps -/

section Steps

variable {service service' : Service} {tables' : Tables} {id : Nat} {session session' : Session}
  {refund : Refund}

/-- The service after a step of session `id`. -/
def Service.goesOn (service : Service) (id : Nat) (session : Session) (tables : Tables) : Service where
  tables := tables
  sessions := Function.update service.sessions id (some session)

theorem holds_goesOn {other : Nat} : (service.goesOn id session' tables').Holds other refund ↔
    (other = id ∧ refund ∈ session'.granted) ∨ (other ≠ id ∧ service.Holds other refund) := by
  unfold Service.Holds Service.goesOn
  by_cases hother : other = id
  · subst hother
    simp
  · simp [hother]

theorem knows_goesOn (hsound : Sound service) (hgrows : Grows service.tables tables')
    (hknows : session'.Knows tables') :
    ∀ other session, (service.goesOn id session' tables').sessions other = some session →
      session.Knows tables' := by
  intro other session hsession
  by_cases hother : other = id
  · subst hother
    obtain rfl : session' = session := by simpa [Service.goesOn] using hsession
    exact hknows
  · refine (hsound.knows other session ?_).mono hgrows
    simpa [Service.goesOn, hother] using hsession

theorem Sound.quiet (hsound : Sound service)
    (hgranted : (service.sessions id).bind Session.granted = session'.granted)
    (hgrows : Grows service.tables tables') (hbooked : Booked tables')
    (hknows : session'.Knows tables') (hnotes : tables'.creditNotes = service.tables.creditNotes)
    (hrefunds : refundTotal tables'.entries = refundTotal service.tables.entries)
    (hrepaid : refundedDisputes tables'.entries = refundedDisputes service.tables.entries)
    (hopen : ∀ other refund, service.Holds other refund → ∀ dispute ∈ tables'.disputes,
      dispute.id = refund.review.dispute.id → isFinalStatus dispute.status = false) :
    Sound (service.goesOn id session' tables') := by
  have hholds : ∀ other refund,
      (service.goesOn id session' tables').Holds other refund ↔ service.Holds other refund := by
    intro other refund
    rw [holds_goesOn, ← hgranted]
    unfold Service.Holds
    by_cases hother : other = id
    · subst hother
      cases service.sessions other <;> simp
    · simp [hother]
  refine ⟨hbooked, knows_goesOn hsound hgrows hknows, fun other refund hheld => ?_,
    fun other other' refund refund' hheld hheld' => ?_, fun note hnote => ?_,
    fun run hrun hfree => ?_, fun run hrun => ?_⟩
  · have hheld := (hholds other refund).mp hheld
    have hold := hsound.granted other refund hheld
    refine ⟨hold.positive, ?_, hopen other refund hheld, ?_⟩
    · simp only [Service.goesOn, hnotes, hrefunds]
      exact hold.matched
    · simp only [Service.goesOn, hnotes]
      exact hold.note
  · exact hsound.exclusive other other' refund refund' ((hholds _ _).mp hheld)
      ((hholds _ _).mp hheld')
  · simp only [Service.goesOn, hnotes] at hnote
    simp only [Repaid, hholds]
    simp only [Service.goesOn, hrepaid]
    exact hsound.notes note hnote
  · simp only [Service.goesOn, hnotes, hrefunds]
    simp only [Service.goesOn, hgrows.runs] at hrun
    exact hsound.matched run hrun fun other refund hheld => hfree other refund ((hholds _ _).mpr hheld)
  · simp only [Service.goesOn, hnotes]
    simp only [Service.goesOn, hgrows.runs] at hrun
    exact hsound.bounded run hrun

theorem grows_self (tables : Tables) : Grows tables tables :=
  ⟨rfl, fun dispute hdispute => ⟨dispute, hdispute, rfl, rfl⟩, fun _ h => h, le_rfl⟩

theorem Sound.reads (hsound : Sound service)
    (hgranted : (service.sessions id).bind Session.granted = session'.granted)
    (hknows : session'.Knows service.tables) :
    Sound (service.goesOn id session' service.tables) :=
  hsound.quiet hgranted (grows_self _) hsound.booked hknows rfl rfl rfl
    fun other refund hheld => (hsound.granted other refund hheld).unresolved

theorem Sound.takesEntryId (hsound : Sound service)
    (hgranted : (service.sessions id).bind Session.granted = session'.granted)
    (hknows : session'.Knows { service.tables with nextEntryId := service.tables.nextEntryId + 1 }) :
    Sound (service.goesOn id session'
      { service.tables with nextEntryId := service.tables.nextEntryId + 1 }) :=
  hsound.quiet hgranted
    ⟨rfl, fun dispute hdispute => ⟨dispute, hdispute, rfl, rfl⟩, fun _ h => h, Nat.le_succ _⟩
    hsound.booked.takeEntryId hknows rfl rfl rfl
    fun other refund hheld => (hsound.granted other refund hheld).unresolved

theorem not_refunded_of_open {tables : Tables} (hbooked : Booked tables) {disputeId : Nat}
    (hopen : ∀ dispute ∈ tables.disputes, dispute.id = disputeId →
      isFinalStatus dispute.status = false) :
    some disputeId ∉ refundedDisputes tables.entries := by
  intro hmem
  obtain ⟨entry, hentry, hid⟩ := List.mem_map.mp hmem
  obtain ⟨hentry, hisRefund⟩ := List.mem_filter.mp hentry
  obtain ⟨dispute, hdispute, hsame, hstatus⟩ := hbooked.refunded entry hentry hisRefund
  rw [hopen dispute hdispute (Option.some.inj (hsame.symm.trans hid))] at hstatus
  cases hstatus

theorem Sound.createsDispute (hsound : Sound service)
    (hgranted : (service.sessions id).bind Session.granted = session'.granted)
    {dispute : BillingDispute} (hid : dispute.id = service.tables.disputes.length + 1)
    (hstatus : isFinalStatus dispute.status = false)
    (hknows : session'.Knows
      { service.tables with disputes := service.tables.disputes ++ [dispute] }) :
    Sound (service.goesOn id session'
      { service.tables with disputes := service.tables.disputes ++ [dispute] }) := by
  refine hsound.quiet hgranted ?_ (hsound.booked.insertDispute hid) hknows rfl rfl rfl ?_
  · exact ⟨rfl, fun row hrow => ⟨row, List.mem_append_left _ hrow, rfl, rfl⟩, fun _ h => h, le_rfl⟩
  · intro other refund hheld row hrow hsame
    rcases List.mem_append.mp hrow with hmem | hlast
    · exact (hsound.granted other refund hheld).unresolved row hmem hsame
    · rw [List.mem_singleton.mp hlast]
      exact hstatus

theorem grows_modifyDispute {tables : Tables} {disputeId : Nat}
    {values : BillingDispute → BillingDispute}
    (hkey : ∀ row, (values row).id = row.id ∧ (values row).billingRunId = row.billingRunId) :
    Grows tables
      { tables with disputes := Keyed.modify BillingDispute.id disputeId values tables.disputes } := by
  refine ⟨rfl, fun dispute hdispute => ⟨_, List.mem_map_of_mem hdispute, ?_⟩, fun _ h => h, le_rfl⟩
  split_ifs
  · exact hkey dispute
  · exact ⟨rfl, rfl⟩

theorem Sound.rejectsDispute (hsound : Sound service)
    (hgranted : (service.sessions id).bind Session.granted = session'.granted)
    {dispute : BillingDispute} (hrepaid : ∀ note ∈ service.tables.creditNotes,
      note.key.disputeId = dispute.id → Repaid service.tables.entries note)
    (hknows : session'.Knows
      { service.tables with disputes := rejectDispute service.tables.disputes dispute.id }) :
    Sound (service.goesOn id session'
      { service.tables with disputes := rejectDispute service.tables.disputes dispute.id }) := by
  have hbooked : Booked
      { service.tables with disputes := rejectDispute service.tables.disputes dispute.id } :=
    hsound.booked.modifyDispute (fun _ => rfl) fun _ _ => rfl
  refine hsound.quiet hgranted (grows_modifyDispute fun _ => ⟨rfl, rfl⟩) hbooked hknows rfl rfl rfl ?_
  intro other refund hheld row hrow hsame
  have hold := hsound.granted other refund hheld
  obtain ⟨hmem, _⟩ | ⟨before, hbefore, hid, rfl⟩ := Keyed.mem_modify.mp hrow
  · exact hold.unresolved row hmem hsame
  · obtain ⟨note, hnote, hdispute, _⟩ := hold.note
    have hrefunded := hrepaid note hnote (hdispute.trans (hsame.symm.trans hid))
    rw [Repaid, hdispute] at hrefunded
    exact absurd hrefunded (not_refunded_of_open hsound.booked hold.unresolved)

theorem loaded_of_granted {tables : Tables} (hknows : session.Knows tables)
    (hgranted : refund ∈ session.granted) :
    Loaded tables refund.review ∧ Charged tables refund.review := by
  cases session with
  | create request stage => cases hgranted
  | review request stage =>
      cases stage with
      | reloadDispute other | refindCharge other =>
          obtain rfl := Option.some.inj hgranted
          exact ⟨hknows.1, hknows.2⟩
      | latestBeforeRecharge other | reinsertCharge other latest => exact hknows.elim
      | rereadRemaining other pending | latestBeforeRefund other pending =>
          obtain rfl := Option.some.inj hgranted
          exact ⟨hknows.1, hknows.2.1⟩
      | insertRefund other pending latest =>
          obtain rfl := Option.some.inj hgranted
          exact ⟨hknows.1, hknows.2.1⟩
      | resolve other pending =>
          obtain rfl := Option.some.inj hgranted
          exact ⟨hknows.1, hknows.2.1⟩
      | _ => cases hgranted

theorem run_id_eq {tables : Tables} (hbooked : Booked tables) {review review' : Review}
    (hloaded : Loaded tables review) (hloaded' : Loaded tables review')
    (hsame : review.dispute.id = review'.dispute.id) : review.run.id = review'.run.id := by
  obtain ⟨_, dispute, hdispute, hid, hof⟩ := hloaded
  obtain ⟨_, dispute', hdispute', hid', hof'⟩ := hloaded'
  obtain rfl := List.inj_on_of_nodup_map hbooked.disputeIds hdispute hdispute'
    (hid.trans (hsame.trans hid'.symm))
  exact hof.symm.trans hof'

theorem charge_committed {tables : Tables} (hbooked : Booked tables) {review : Review}
    {pending : List PendingEntry} (hloaded : Loaded tables review)
    (hcharge : ChargeKnown tables review pending) (hcontinues : Continues tables.entries pending) :
    Booked { tables with entries := visible tables.entries pending } ∧
      refundTotal (visible tables.entries pending) = refundTotal tables.entries ∧
      refundedDisputes (visible tables.entries pending) = refundedDisputes tables.entries ∧
      (findCharge (visible tables.entries pending) review.run.id).isSome ∧
      ∀ billingRunId, (findCharge tables.entries billingRunId).isSome →
        (findCharge (visible tables.entries pending) billingRunId).isSome := by
  unfold visible
  rcases hcharge with ⟨rfl, hcharged⟩ | ⟨id, latest, rfl, hearlier, hid⟩
  · rw [List.map_nil, List.append_nil]
    exact ⟨hbooked, rfl, rfl, hcharged, fun _ h => h⟩
  · obtain ⟨hlatest, hnone, _⟩ := hcontinues
    simp only [List.map_cons, List.map_nil]
    refine ⟨?_, ?_, ?_, ?_, fun billingRunId hsome => ?_⟩
    · refine hbooked.append hlatest rfl hearlier hid hloaded.1 rfl (fun _ => ⟨hnone rfl, rfl⟩) ?_
      intro hisRefund
      cases hisRefund
    · funext billingRunId
      rw [refundTotal_append]
      simp [chargeEntry, appendedEntry, BillingLedgerEntry.isRefund]
    · rw [refundedDisputes_append]
      simp [chargeEntry, appendedEntry, BillingLedgerEntry.isRefund]
    · rw [findCharge_append]
      simp [chargeEntry, appendedEntry]
    · rw [findCharge_append, Option.isSome_or, hsome, Bool.true_or]

theorem Sound.marksUnderReview (hsound : Sound service) {request : ReviewRequest} {review : Review}
    {pending : List PendingEntry} {remaining : Int}
    (hsession : service.sessions id =
      some (.review request (.markUnderReview review pending remaining)))
    (hcontinues : Continues service.tables.entries pending) :
    Sound (service.goesOn id (.review request (.createCreditNote review remaining))
      (service.tables.commit pending
        (putUnderReview service.tables.disputes review.dispute.id))) := by
  obtain ⟨hloaded, hcharge⟩ := hsound.knows id _ hsession
  obtain ⟨hentries, hrefunds, hrepaid, hcharged, hcharges⟩ :=
    charge_committed hsound.booked hloaded hcharge hcontinues
  have hkey : ∀ row : BillingDispute,
      (if isOpenStatus row.status then { row with status := .underReview } else row).id = row.id ∧
        (if isOpenStatus row.status then
          { row with status := .underReview } else row).billingRunId = row.billingRunId := by
    intro row
    split_ifs
    · exact ⟨rfl, rfl⟩
    · exact ⟨rfl, rfl⟩
  have hgrows : Grows service.tables (service.tables.commit pending
      (putUnderReview service.tables.disputes review.dispute.id)) :=
    ⟨rfl, (grows_modifyDispute hkey).disputes, hcharges, le_rfl⟩
  refine hsound.quiet ?_ hgrows (hentries.modifyDispute (fun row => (hkey row).1) ?_)
    ⟨hloaded.mono hgrows, hcharged⟩ rfl hrefunds hrepaid fun other refund hheld row hrow hsame => ?_
  · rw [hsession]
    rfl
  · intro row hfinal
    split_ifs with hopen
    · revert hopen hfinal
      cases row.status <;> simp [isOpenStatus, isFinalStatus]
    · exact hfinal
  · have hunresolved := (hsound.granted other refund hheld).unresolved
    obtain ⟨hmem, _⟩ | ⟨before, hbefore, _, rfl⟩ := Keyed.mem_modify.mp hrow
    · exact hunresolved row hmem hsame
    · split_ifs at hsame ⊢
      · rfl
      · exact hunresolved before hbefore hsame

theorem requestedCreditNote_ok {request : ReviewRequest} {review : Review} {remaining : Int}
    {answer : Answer} {amount : Int}
    (h : requestedCreditNote request review remaining answer = .ok amount) :
    0 < amount ∧ amount ≤ remaining := by
  unfold requestedCreditNote at h
  obtain ⟨approved, happroved, h⟩ := ApiError.bind_eq_ok.mp h
  obtain ⟨_, _, h⟩ := ApiError.bind_eq_ok.mp h
  obtain ⟨_, _, h⟩ := ApiError.bind_eq_ok.mp h
  obtain ⟨_, _, h⟩ := ApiError.bind_eq_ok.mp h
  obtain ⟨_, _, h⟩ := ApiError.bind_eq_ok.mp h
  obtain rfl := Except.ok.inj h
  unfold resolveApprovedRefundAmount at happroved
  obtain ⟨_, hpositive, happroved⟩ := ApiError.bind_eq_ok.mp happroved
  have hpositive := (ApiError.throwIf_eq_ok _ _ _).mp hpositive
  split_ifs at happroved
  · obtain rfl := Except.ok.inj happroved
    exact ⟨by omega, le_rfl⟩
  · obtain ⟨value, hvalue, happroved⟩ := ApiError.bind_eq_ok.mp happroved
    obtain ⟨_, hle, happroved⟩ := ApiError.bind_eq_ok.mp happroved
    obtain rfl := Except.ok.inj happroved
    have hle := (ApiError.throwIf_eq_ok _ _ _).mp hle
    unfold requirePositiveMoney at hvalue
    obtain ⟨_, hvaluePositive, hvalue⟩ := ApiError.bind_eq_ok.mp hvalue
    have hvaluePositive := (ApiError.throwIf_eq_ok _ _ _).mp hvaluePositive
    obtain rfl := Except.ok.inj hvalue
    exact ⟨by omega, by omega⟩

theorem not_held_of_repaid (hsound : Sound service) {billingRunId : Nat}
    (hrepaid : ∀ note ∈ service.tables.creditNotes, note.key.billingRunId = billingRunId →
      Repaid service.tables.entries note) {other : Nat} (hheld : service.Holds other refund) :
    refund.review.run.id ≠ billingRunId := by
  intro hrun
  obtain ⟨note, hnote, hdispute, hof⟩ := (hsound.granted other refund hheld).note
  have hrefunded := hrepaid note hnote (hof.trans hrun)
  rw [Repaid, hdispute] at hrefunded
  exact not_refunded_of_open hsound.booked (hsound.granted other refund hheld).unresolved hrefunded

theorem no_note_of_fresh (hsound : Sound service) {review : Review}
    (hloaded : Loaded service.tables review)
    (hrepaid : ∀ note ∈ service.tables.creditNotes, note.key.billingRunId = review.run.id →
      Repaid service.tables.entries note)
    (hopen : ∀ dispute ∈ service.tables.disputes, dispute.id = review.dispute.id →
      isFinalStatus dispute.status = false) :
    ∀ note ∈ service.tables.creditNotes, note.key.disputeId ≠ review.dispute.id := by
  intro note hnote hdispute
  rcases hsound.notes note hnote with hrefunded | ⟨other, refund, hheld, hsame, hof⟩
  · rw [Repaid, hdispute] at hrefunded
    exact not_refunded_of_open hsound.booked hopen hrefunded
  · obtain ⟨session, hsession, hgranted⟩ := hheld
    have hloaded' := (loaded_of_granted (hsound.knows other session hsession) hgranted).1
    exact not_held_of_repaid hsound hrepaid ⟨session, hsession, hgranted⟩
      (run_id_eq hsound.booked hloaded' hloaded (hsame.trans hdispute))

theorem Sound.grants (hsound : Sound service) {note : CreditNote}
    (hsession : service.sessions id = some session) (hnone : session.granted = none)
    (hgranted : session'.granted = some refund) (hloaded : Loaded service.tables refund.review)
    (hcharged : Charged service.tables refund.review) (hpositive : 0 < refund.approvedRefundAmount)
    (hamount : refund.approvedRefundAmount ≤
      readRemainingRefundableAmount service.tables.entries refund.review.run.id)
    (hrepaid : ∀ note ∈ service.tables.creditNotes, note.key.billingRunId = refund.review.run.id →
      Repaid service.tables.entries note)
    (hopen : ∀ dispute ∈ service.tables.disputes, dispute.id = refund.review.dispute.id →
      isFinalStatus dispute.status = false)
    (hdispute : note.key.disputeId = refund.review.dispute.id)
    (hof : note.key.billingRunId = refund.review.run.id)
    (hnote : note.amount = refund.approvedRefundAmount)
    (hknows : session'.Knows
      { service.tables with creditNotes := service.tables.creditNotes ++ [note] }) :
    Sound (service.goesOn id session'
      { service.tables with creditNotes := service.tables.creditNotes ++ [note] }) := by
  have hfree : ∀ other refund', service.Holds other refund' →
      refund'.review.run.id ≠ refund.review.run.id :=
    fun other refund' hheld => not_held_of_repaid hsound hrepaid hheld
  have hmatched := hsound.matched _ hloaded.1 hfree
  have hid : ¬∃ refund', service.Holds id refund' := by
    rintro ⟨refund', other, hother, hheld⟩
    obtain rfl : session = other := Option.some.inj (hsession.symm.trans hother)
    rw [hnone] at hheld
    cases hheld
  have hholds : ∀ other refund', (service.goesOn id session'
      { service.tables with creditNotes := service.tables.creditNotes ++ [note] }).Holds
        other refund' ↔ (other = id ∧ refund' = refund) ∨ service.Holds other refund' := by
    intro other refund'
    rw [holds_goesOn, hgranted, Option.mem_some_iff, eq_comm (a := refund)]
    refine or_congr Iff.rfl ⟨And.right, fun hheld => ⟨?_, hheld⟩⟩
    rintro rfl
    exact hid ⟨refund', hheld⟩
  refine ⟨?booked, knows_goesOn hsound ?grows hknows, ?granted, ?exclusive, ?notes, ?matched,
    ?bounded⟩
  case booked =>
    refine { hsound.booked with creditNotes := ?_ }
    simp only [Service.goesOn, List.map_append, List.map_cons, List.map_nil]
    refine List.nodup_append.mpr ⟨hsound.booked.creditNotes, List.nodup_singleton _, ?_⟩
    rintro listed hlisted _ hlast rfl
    obtain ⟨other, hother, rfl⟩ := List.mem_map.mp hlisted
    exact no_note_of_fresh hsound hloaded hrepaid hopen other hother
      ((List.mem_singleton.mp hlast).trans hdispute)
  case grows =>
    exact ⟨rfl, fun dispute hdispute => ⟨dispute, hdispute, rfl, rfl⟩, fun _ h => h, le_rfl⟩
  case granted =>
    intro other refund' hheld
    rcases (hholds other refund').mp hheld with ⟨rfl, rfl⟩ | hheld
    · refine ⟨hpositive, ?_, hopen, note, List.mem_append_right _ (List.mem_singleton_self _),
        hdispute, hof⟩
      simp only [Service.goesOn, noteTotal_append, hof, ↓reduceIte, hnote, hmatched]
    · have hold := hsound.granted other refund' hheld
      refine ⟨hold.positive, ?_, hold.unresolved, ?_⟩
      · simp only [Service.goesOn, noteTotal_append, hof, (hfree other refund' hheld).symm,
          ↓reduceIte, add_zero]
        exact hold.matched
      · obtain ⟨held, hmem, hheldNote⟩ := hold.note
        exact ⟨held, List.mem_append_left _ hmem, hheldNote⟩
  case exclusive =>
    intro other other' refund₁ refund₂ hheld hheld' hsame
    rcases (hholds _ _).mp hheld with ⟨rfl, rfl⟩ | hold <;>
      rcases (hholds _ _).mp hheld' with ⟨rfl, rfl⟩ | hold'
    · rfl
    · exact absurd hsame.symm (hfree _ _ hold')
    · exact absurd hsame (hfree _ _ hold)
    · exact hsound.exclusive _ _ _ _ hold hold' hsame
  case notes =>
    intro listed hlisted
    rcases List.mem_append.mp hlisted with hmem | hlast
    · rcases hsound.notes listed hmem with hrefunded | ⟨other, refund', hheld, hsame⟩
      · exact .inl hrefunded
      · exact .inr ⟨other, refund', (hholds _ _).mpr (.inr hheld), hsame⟩
    · rw [List.mem_singleton.mp hlast]
      exact .inr ⟨id, refund, (hholds _ _).mpr (.inl ⟨rfl, rfl⟩), hdispute.symm, hof.symm⟩
  case matched =>
    intro run hrun hunheld
    have hother : refund.review.run.id ≠ run.id :=
      hunheld id refund ((hholds _ _).mpr (.inl ⟨rfl, rfl⟩))
    simp only [Service.goesOn, noteTotal_append, hof, hother, ↓reduceIte, add_zero]
    exact hsound.matched run hrun fun other refund' hheld =>
      hunheld other refund' ((hholds _ _).mpr (.inr hheld))
  case bounded =>
    intro run hrun
    simp only [Service.goesOn, noteTotal_append, hof]
    split_ifs with hsame
    · obtain rfl := List.inj_on_of_nodup_map hsound.booked.runIds hloaded.1 hrun hsame
      rw [hsound.booked.charged _ hloaded.1 hcharged] at hamount
      omega
    · rw [add_zero]
      exact hsound.bounded run hrun

theorem Sound.resolves (hsound : Sound service) {request : ReviewRequest}
    {pending : List PendingEntry}
    (hsession : service.sessions id = some (.review request (.resolve refund pending)))
    (hcontinues : Continues service.tables.entries pending) :
    Sound (service.goesOn id (.review request .finished) (service.tables.commit pending
      (resolveDispute service.tables.disputes request.resolutionType refund))) := by
  obtain ⟨hloaded, hcharged, entryId, latest, rfl, hearlier, hentryId⟩ := hsound.knows id _ hsession
  have hholdsMine : service.Holds id refund := ⟨_, hsession, rfl⟩
  have hmine := hsound.granted id refund hholdsMine
  obtain ⟨hlatest, _, _⟩ := hcontinues
  set disputes := resolveDispute service.tables.disputes request.resolutionType refund with hdisputes
  set entry := (refundEntry entryId refund latest).entry with hentry
  have hcommit : service.tables.commit [refundEntry entryId refund latest] disputes =
      { service.tables with entries := service.tables.entries ++ [entry], disputes := disputes } :=
    rfl
  rw [hcommit]
  have hisRefund : entry.isRefund = true := rfl
  have hresolved : Booked { service.tables with disputes := disputes } :=
    hsound.booked.modifyDispute (fun _ => rfl) fun _ _ => rfl
  have hfinal : ∃ dispute ∈ disputes, entry.disputeId = some dispute.id ∧
      isFinalStatus dispute.status = true := by
    obtain ⟨_, dispute, hdispute, hid, _⟩ := hloaded
    exact ⟨_, Keyed.mem_modify.mpr (.inr ⟨dispute, hdispute, hid, rfl⟩), congrArg some hid.symm, rfl⟩
  have hbooked : Booked
      { service.tables with entries := service.tables.entries ++ [entry], disputes := disputes } := by
    refine hresolved.append hlatest rfl hearlier hentryId hloaded.1 rfl ?_ ?_
    · intro hcharge
      cases hcharge
    · exact fun _ => ⟨hcharged, not_refunded_of_open hsound.booked hmine.unresolved, hfinal⟩
  have hgrows : Grows service.tables
      { service.tables with entries := service.tables.entries ++ [entry], disputes := disputes } := by
    have hkeeps : Grows service.tables { service.tables with disputes := disputes } := by
      refine grows_modifyDispute ?_
      exact fun _ => ⟨rfl, rfl⟩
    refine ⟨rfl, hkeeps.disputes, ?_, le_rfl⟩
    intro billingRunId hsome
    rw [findCharge_append, Option.isSome_or, hsome, Bool.true_or]
  have hrefunds : ∀ billingRunId, refundTotal (service.tables.entries ++ [entry]) billingRunId =
      refundTotal service.tables.entries billingRunId +
        if refund.review.run.id = billingRunId then refund.approvedRefundAmount else 0 := by
    intro billingRunId
    rw [refundTotal_append]
    simp [hentry, refundEntry, appendedEntry, BillingLedgerEntry.isRefund]
  have hrepaid : refundedDisputes (service.tables.entries ++ [entry]) =
      refundedDisputes service.tables.entries ++ [some refund.review.dispute.id] := by
    rw [refundedDisputes_append, if_pos hisRefund]
    rfl
  have hholds : ∀ other refund', (service.goesOn id (.review request .finished)
      { service.tables with entries := service.tables.entries ++ [entry], disputes := disputes }).Holds
        other refund' ↔ other ≠ id ∧ service.Holds other refund' := by
    intro other refund'
    rw [holds_goesOn]
    simp [Session.granted, ReviewStage.granted]
  have hother : ∀ other refund', other ≠ id → service.Holds other refund' →
      refund.review.run.id ≠ refund'.review.run.id := by
    intro other refund' hne hheld hsame
    exact hne (hsound.exclusive other id refund' refund hheld hholdsMine hsame.symm)
  refine ⟨hbooked, knows_goesOn hsound hgrows trivial, ?granted, ?exclusive, ?notes, ?matched,
    hsound.bounded⟩
  case granted =>
    intro other refund' hheld
    obtain ⟨hne, hheld⟩ := (hholds other refund').mp hheld
    have hold := hsound.granted other refund' hheld
    refine ⟨hold.positive, ?_, fun dispute hdispute hid => ?_, hold.note⟩
    · simp only [Service.goesOn, hrefunds, hother other refund' hne hheld, ↓reduceIte, add_zero]
      exact hold.matched
    · obtain ⟨hmem, _⟩ | ⟨before, hbefore, hresolvedId, rfl⟩ := Keyed.mem_modify.mp hdispute
      · exact hold.unresolved dispute hmem hid
      · obtain ⟨session, hsession', hgranted'⟩ := hheld
        have hloaded' := (loaded_of_granted (hsound.knows other session hsession') hgranted').1
        exact absurd (run_id_eq hsound.booked hloaded hloaded' (hresolvedId.symm.trans hid))
          (hother other refund' hne ⟨session, hsession', hgranted'⟩)
  case exclusive =>
    intro other other' refund₁ refund₂ hheld hheld' hsame
    exact hsound.exclusive _ _ _ _ ((hholds _ _).mp hheld).2 ((hholds _ _).mp hheld').2 hsame
  case notes =>
    intro note hnote
    simp only [Service.goesOn, Repaid, hrepaid, List.mem_append, List.mem_singleton]
    rcases hsound.notes note hnote with hrefunded | ⟨other, refund', hheld, hdispute, hof⟩
    · exact .inl (.inl hrefunded)
    · by_cases hne : other = id
      · subst hne
        obtain ⟨session, hsession', hgranted'⟩ := hheld
        obtain rfl := Option.some.inj (hsession.symm.trans hsession')
        obtain rfl := Option.some.inj hgranted'
        exact .inl (.inr (congrArg some hdispute.symm))
      · exact .inr ⟨other, refund', (hholds _ _).mpr ⟨hne, hheld⟩, hdispute, hof⟩
  case matched =>
    intro run hrun hfree
    simp only [Service.goesOn, hrefunds]
    split_ifs with hsame
    · rw [← hsame]
      exact hmine.matched
    · rw [add_zero]
      refine hsound.matched run hrun fun other refund' hheld => ?_
      by_cases hne : other = id
      · subst hne
        obtain ⟨session, hsession', hgranted'⟩ := hheld
        obtain rfl := Option.some.inj (hsession.symm.trans hsession')
        obtain rfl := Option.some.inj hgranted'
        exact hsame
      · exact hfree other refund' ((hholds _ _).mpr ⟨hne, hheld⟩)

theorem Sound.ends (hsound : Sound service) (hsession : service.sessions id = some session)
    (hnone : session.granted = none) (hended : session'.granted = none)
    (hknows : session'.Knows service.tables) :
    Sound (service.goesOn id session' service.tables) := by
  refine hsound.reads ?_ hknows
  rw [hsession, Option.bind_some, hnone, hended]

theorem Sound.create_step (hsound : Sound service) {request : DisputeRequest}
    {stage stage' : CreateStage} (hsession : service.sessions id = some (.create request stage))
    (hstep : createBillingDispute service.tables request stage = some (stage', tables')) :
    Sound (service.goesOn id (.create request stage') tables') := by
  have hgranted : ∀ stage', (service.sessions id).bind Session.granted =
      (Session.create request stage').granted := by
    intro stage'
    rw [hsession]
    rfl
  cases stage with
  | loadRun =>
      simp only [createBillingDispute] at hstep
      split at hstep
      · obtain ⟨rfl, rfl⟩ := Prod.mk.inj (Option.some.inj hstep)
        exact hsound.reads (hgranted _) trivial
      · split at hstep <;> obtain ⟨rfl, rfl⟩ := Prod.mk.inj (Option.some.inj hstep) <;>
          exact hsound.reads (hgranted _) trivial
  | findPending run amount =>
      obtain ⟨rfl, rfl⟩ := Prod.mk.inj (Option.some.inj hstep)
      exact hsound.reads (hgranted _) trivial
  | insert run amount =>
      obtain ⟨rfl, rfl⟩ := Prod.mk.inj (Option.some.inj hstep)
      exact hsound.createsDispute (hgranted _) rfl rfl trivial
  | finished => cases hstep

theorem Sound.review_step (hsound : Sound service) {request : ReviewRequest}
    {stage stage' : ReviewStage} {answer : Answer}
    (hsession : service.sessions id = some (.review request stage))
    (hfresh : (Session.review request stage).Fresh service.tables answer)
    (hstep : reviewBillingDispute service.tables request answer stage = some (stage', tables')) :
    Sound (service.goesOn id (.review request stage') tables') := by
  have hknows := hsound.knows id _ hsession
  have hgranted : ∀ stage' : ReviewStage, stage'.granted = stage.granted →
      (service.sessions id).bind Session.granted = (Session.review request stage').granted := by
    intro stage' hsame
    rw [hsession]
    exact hsame.symm
  cases stage with
  | loadDispute =>
      simp only [reviewBillingDispute] at hstep
      split at hstep
      · obtain ⟨rfl, rfl⟩ := Prod.mk.inj (Option.some.inj hstep)
        exact hsound.reads (hgranted _ rfl) trivial
      · rename_i dispute hdispute
        have hmem := Keyed.mem_of_lookup hdispute
        obtain ⟨rfl, rfl⟩ := Prod.mk.inj (Option.some.inj hstep)
        split_ifs
        · exact hsound.reads (hgranted _ rfl) trivial
        · exact hsound.reads (hgranted _ rfl) ⟨dispute, hmem, rfl, rfl⟩
        · exact hsound.reads (hgranted _ rfl) ⟨dispute, hmem, rfl, rfl⟩
  | reject dispute =>
      obtain ⟨rfl, rfl⟩ := Prod.mk.inj (Option.some.inj hstep)
      exact hsound.rejectsDispute (hgranted .finished rfl) (hfresh.rejects dispute rfl) trivial
  | loadRun dispute =>
      simp only [reviewBillingDispute] at hstep
      split at hstep
      · obtain ⟨rfl, rfl⟩ := Prod.mk.inj (Option.some.inj hstep)
        exact hsound.reads (hgranted _ rfl) trivial
      · rename_i run hrun
        obtain ⟨rfl, rfl⟩ := Prod.mk.inj (Option.some.inj hstep)
        obtain ⟨row, hrow, hid, hof⟩ := hknows
        exact hsound.reads (hgranted _ rfl)
          ⟨Keyed.mem_of_lookup hrun, row, hrow, hid, hof.trans (Keyed.key_of_lookup hrun).symm⟩
  | findCharge review =>
      obtain ⟨rfl, rfl⟩ := Prod.mk.inj (Option.some.inj hstep)
      split_ifs with hcharged
      · exact hsound.reads (hgranted _ rfl) ⟨hknows, .inl ⟨rfl, hcharged⟩⟩
      · exact hsound.reads (hgranted _ rfl) hknows
  | latestBeforeCharge review =>
      obtain ⟨rfl, rfl⟩ := Prod.mk.inj (Option.some.inj hstep)
      exact hsound.reads (hgranted _ rfl)
        ⟨hknows, fun last hlast => hsound.booked.entryIds last (RunningBalance.latest_mem hlast)⟩
  | insertCharge review latest =>
      obtain ⟨rfl, rfl⟩ := Prod.mk.inj (Option.some.inj hstep)
      obtain ⟨hloaded, hearlier⟩ := hknows
      exact hsound.takesEntryId (hgranted _ rfl)
        ⟨hloaded, .inr ⟨_, latest, rfl, hearlier, Nat.lt_succ_self _⟩⟩
  | readRemaining review pending =>
      obtain ⟨rfl, rfl⟩ := Prod.mk.inj (Option.some.inj hstep)
      exact hsound.reads (hgranted _ rfl) hknows
  | markUnderReview review pending remaining =>
      obtain ⟨rfl, rfl⟩ := Prod.mk.inj (Option.some.inj hstep)
      exact hsound.marksUnderReview hsession (hfresh.commits pending rfl)
  | createCreditNote review remaining =>
      obtain ⟨hloaded, hcharged⟩ := hknows
      simp only [reviewBillingDispute] at hstep
      split at hstep
      · obtain ⟨rfl, rfl⟩ := Prod.mk.inj (Option.some.inj hstep)
        exact hsound.reads (hgranted .finished rfl) trivial
      · rename_i amount hrequested
        have hasked : (Session.review request (.createCreditNote review remaining)).asks answer =
            some (review, remaining) := by
          simp only [Session.asks, hrequested]
        obtain ⟨hpositive, hle⟩ := requestedCreditNote_ok hrequested
        have hnone : service.tables.creditNotes.find?
            (fun note => note.key = creditNoteKey request review amount) = none := by
          refine List.find?_eq_none.mpr fun note hnote hkey => ?_
          have hdispute := congrArg CreditNoteKey.disputeId (of_decide_eq_true hkey)
          exact no_note_of_fresh hsound hloaded (hfresh.notes _ hasked) (hfresh.disputes _ hasked)
            note hnote hdispute
        simp only [issueCreditNote, hnone] at hstep
        obtain ⟨rfl, rfl⟩ := Prod.mk.inj (Option.some.inj hstep)
        exact hsound.grants hsession rfl rfl hloaded hcharged hpositive
          (hle.trans (hfresh.remaining _ hasked)) (hfresh.notes _ hasked)
          (hfresh.disputes _ hasked) rfl rfl rfl ⟨hloaded, hcharged⟩
  | reloadDispute refund =>
      have hunresolved := (hsound.granted id refund ⟨_, hsession, rfl⟩).unresolved
      simp only [reviewBillingDispute] at hstep
      split at hstep
      · rename_i hmissing
        obtain ⟨⟨_, dispute, hdispute, hid, _⟩, _⟩ := hknows
        exact absurd hid (Keyed.lookup_eq_none.mp hmissing dispute hdispute)
      · rename_i dispute hdispute
        have hopen := hunresolved dispute (Keyed.mem_of_lookup hdispute)
          (Keyed.key_of_lookup hdispute)
        rw [hopen] at hstep
        obtain ⟨rfl, rfl⟩ := Prod.mk.inj (Option.some.inj hstep)
        exact hsound.reads (hgranted _ rfl) hknows
  | refindCharge refund =>
      obtain ⟨rfl, rfl⟩ := Prod.mk.inj (Option.some.inj hstep)
      have hcharged : (Disputes.findCharge service.tables.entries refund.review.run.id).isSome :=
        hknows.2
      rw [if_pos hcharged]
      exact hsound.reads (hgranted _ rfl) ⟨hknows.1, hcharged, rfl⟩
  | latestBeforeRecharge refund => exact hknows.elim
  | reinsertCharge refund latest => exact hknows.elim
  | rereadRemaining refund pending =>
      obtain ⟨hloaded, hcharged, rfl⟩ := hknows
      have hmine := hsound.granted id refund ⟨_, hsession, rfl⟩
      have hremaining : ¬readRemainingRefundableAmount (visible service.tables.entries [])
          refund.review.run.id < refund.approvedRefundAmount := by
        have hbounded := hsound.bounded _ hloaded.1
        rw [hmine.matched] at hbounded
        rw [visible, List.map_nil, List.append_nil, hsound.booked.charged _ hloaded.1 hcharged]
        omega
      simp only [reviewBillingDispute, if_neg hremaining] at hstep
      obtain ⟨rfl, rfl⟩ := Prod.mk.inj (Option.some.inj hstep)
      exact hsound.reads (hgranted _ rfl) ⟨hloaded, hcharged, rfl⟩
  | latestBeforeRefund refund pending =>
      obtain ⟨hloaded, hcharged, rfl⟩ := hknows
      obtain ⟨rfl, rfl⟩ := Prod.mk.inj (Option.some.inj hstep)
      refine hsound.reads (hgranted _ rfl) ⟨hloaded, hcharged, rfl, fun last hlast => ?_⟩
      rw [visible, List.map_nil, List.append_nil] at hlast
      exact hsound.booked.entryIds last (RunningBalance.latest_mem hlast)
  | insertRefund refund pending latest =>
      obtain ⟨hloaded, hcharged, rfl, hearlier⟩ := hknows
      obtain ⟨rfl, rfl⟩ := Prod.mk.inj (Option.some.inj hstep)
      exact hsound.takesEntryId (hgranted _ rfl)
        ⟨hloaded, hcharged, _, latest, rfl, hearlier, Nat.lt_succ_self _⟩
  | resolve refund pending =>
      obtain ⟨rfl, rfl⟩ := Prod.mk.inj (Option.some.inj hstep)
      exact hsound.resolves hsession (hfresh.commits pending rfl)
  | finished => cases hstep

theorem sound_step {label : Label} (hsound : Sound service) (hstep : Steps service label service')
    (hundisturbed : Undisturbed ⟨service, label, service'⟩) : Sound service' := by
  rcases step_cases hstep with ⟨id, call, rfl, hnew, rfl⟩ |
    ⟨id, answer, session, session', tables', rfl, hsession, hnext, rfl⟩ |
    ⟨id, session, rfl, hsession, rfl⟩
  · refine hsound.reads ?_ ?_
    · rw [hnew]
      cases call <;> rfl
    · cases call <;> trivial
  · have hfresh := hundisturbed session hsession
    cases session with
    | create request stage =>
        obtain ⟨⟨stage', written⟩, hwrites, heq⟩ := Option.map_eq_some_iff.mp hnext
        obtain ⟨rfl, rfl⟩ := Prod.mk.inj heq
        exact hsound.create_step hsession hwrites
    | review request stage =>
        obtain ⟨⟨stage', written⟩, hwrites, heq⟩ := Option.map_eq_some_iff.mp hnext
        obtain ⟨rfl, rfl⟩ := Prod.mk.inj heq
        exact hsound.review_step hsession hfresh hwrites
  · refine hsound.ends hsession (hundisturbed session hsession) ?_ ?_
    · cases session <;> rfl
    · cases session <;> trivial

end Steps

section Runs

variable {service service' : Service} {events : List (Event Service Label)}

theorem sound_of_opening (hopening : Opening service) : Sound service := by
  have hnone : ∀ id refund, ¬service.Holds id refund := by
    rintro id refund ⟨session, hsession, _⟩
    rw [hopening.idle id] at hsession
    cases hsession
  refine ⟨hopening.booked, fun id session hsession => ?_, fun id refund hheld => ?_,
    fun id _ refund _ hheld => ?_, fun note hnote => .inl (hopening.notes note hnote),
    fun run hrun _ => hopening.matched run hrun, hopening.bounded⟩
  · rw [hopening.idle id] at hsession
    cases hsession
  · exact absurd hheld (hnone id refund)
  · exact absurd hheld (hnone id refund)

theorem refundedOnce_of_sound (hsound : Sound service) : RefundedOnce service where
  refunds := hsound.booked.refunds
  creditNotes := hsound.booked.creditNotes
  matched := hsound.matched
  bounded run hrun := by
    have hbounded := hsound.bounded run hrun
    refine ⟨hbounded, ?_⟩
    by_cases hfree : ∀ id refund, service.Holds id refund → refund.review.run.id ≠ run.id
    · rwa [hsound.matched run hrun hfree] at hbounded
    · push Not at hfree
      obtain ⟨id, refund, hheld, hsame⟩ := hfree
      have hgranted := hsound.granted id refund hheld
      have hmatched := hgranted.matched
      have hpositive := hgranted.positive
      rw [hsame] at hmatched
      omega
  chained := hsound.booked.chained

/-- In every run whose sessions go on with what has not changed, and in which no review fails
between its credit note and the ledger, disputes are refunded once. -/
theorem disputes_refunded_once (hopening : Opening service) (hrun : Run Steps service events service')
    (hundisturbed : ∀ e ∈ events, Undisturbed e) :
    (∀ e ∈ events, RefundedOnce e.before ∧ RefundedOnce e.after) ∧ RefundedOnce service' := by
  obtain ⟨hall, hend⟩ := hrun.invariant_of_forall
    (fun _ _ _ hsound hstep hok => sound_step hsound hstep hok) (sound_of_opening hopening)
    hundisturbed
  exact ⟨fun e he => ⟨refundedOnce_of_sound (hall e he).1, refundedOnce_of_sound (hall e he).2⟩,
    refundedOnce_of_sound hend⟩

def invoicedRun : BillingRun where
  id := 1
  tenantId := 1
  periodStart := 0
  periodEnd := 1
  currency := "USD"
  status := .paid
  fees := { baseFeeAmount := 10000, usageFeeAmount := 0, drawCount := 0, decisionBreakdown := [] }
  creditAppliedAmount := 0
  totalAmount := 10000
  stripeCustomerId := none
  stripeInvoiceId := some 7
  externalSyncStatus := .succeeded
  externalSyncRevision := 2
  externalSyncAttemptedAt := none

def disputedService : Service where
  tables :=
    { runs := [invoicedRun]
      disputes := [submittedDispute 1 invoicedRun 10000]
      entries := []
      nextEntryId := 1
      creditNotes := [] }
  sessions := fun _ => none

theorem disputedService_opening : Opening disputedService where
  booked :=
    { runIds := List.nodup_singleton _
      disputeIds := List.nodup_singleton _
      disputeSerial := fun _ h => (List.mem_singleton.mp h) ▸ le_rfl
      entryIds := fun _ h => (List.not_mem_nil h).elim
      chained := fun _ h => (List.not_mem_nil h).elim
      uncharged := fun _ _ _ _ h => (List.not_mem_nil h).elim
      charged := fun _ _ h => (by cases h)
      refunded := fun _ h => (List.not_mem_nil h).elim
      refunds := List.nodup_nil
      creditNotes := List.nodup_nil }
  idle _ := rfl
  notes _ h := (List.not_mem_nil h).elim
  matched _ _ := rfl
  bounded run hrun := by
    rw [List.mem_singleton.mp hrun]
    decide

def paidAnswer : Answer where
  stripeEnabled := true
  invoiceStatus := .paid
  amountRemaining := 0

def reviewOf (resolutionType : SaasBillingDisputeResolution) (approvedRefundAmount : ℚ) : Call :=
  .reviewBillingDispute
    { billingDisputeId := 1
      resolutionType := resolutionType
      approvedRefundAmount := some approvedRefundAmount }

/-- A review in full, and a second one of the same dispute that comes too late. -/
theorem disputes_refunded_once_in_turn : ∃ events service,
    Run Steps disputedService events service ∧ refundTotal service.tables.entries 1 = 10000 ∧
      (∀ e ∈ events, RefundedOnce e.before ∧ RefundedOnce e.after) ∧ RefundedOnce service := by
  obtain ⟨events, service, hrun, hcheck⟩ := Run.exists_of_check machine disputedService
    (.begin 0 (reviewOf .fullRefund 0) :: List.replicate 14 (.step 0 paidAnswer) ++
      [.begin 1 (reviewOf .partialRefund 60), .step 1 paidAnswer])
    (fun events service => refundTotal service.tables.entries 1 = 10000 ∧
      ∀ e ∈ events, Undisturbed e) (by decide +kernel)
  obtain ⟨htotal, hundisturbed⟩ := of_decide_eq_true hcheck
  exact ⟨events, service, hrun, htotal,
    disputes_refunded_once disputedService_opening hrun hundisturbed⟩

/-- Two reviews of one dispute ask for their credit notes before either of them is booked. -/
theorem dispute_refunded_twice : ∃ events service,
    Run Steps disputedService events service ∧
      (service.tables.creditNotes.map fun note => note.key.disputeId) = [1, 1] ∧
      noteTotal service.tables.creditNotes 1 = 16000 ∧
      refundTotal service.tables.entries 1 = 10000 ∧ ¬RefundedOnce service := by
  obtain ⟨events, service, hrun, hcheck⟩ := Run.exists_of_check machine disputedService
    (.begin 0 (reviewOf .fullRefund 0) :: .begin 1 (reviewOf .partialRefund 60) ::
      List.replicate 7 (.step 0 paidAnswer) ++ List.replicate 6 (.step 1 paidAnswer) ++
      List.replicate 7 (.step 0 paidAnswer) ++ [.step 1 paidAnswer])
    (fun _ service => (service.tables.creditNotes.map fun note => note.key.disputeId) = [1, 1] ∧
      noteTotal service.tables.creditNotes 1 = 16000 ∧
      refundTotal service.tables.entries 1 = 10000) (by decide +kernel)
  obtain ⟨hdisputes, hnotes, hrefunds⟩ := of_decide_eq_true hcheck
  refine ⟨events, service, hrun, hdisputes, hnotes, hrefunds, fun honce => ?_⟩
  have hnodup := honce.creditNotes
  rw [hdisputes] at hnodup
  exact absurd hnodup (by decide)

end Runs

end RewardSystem.Billing.Disputes
