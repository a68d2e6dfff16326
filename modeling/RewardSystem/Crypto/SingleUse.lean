import Mathlib.Data.List.Nodup
import RewardSystem.Crypto.ChainTransactions
import RewardSystem.Lib.Runs

/-!
# One order for a chain transaction

A new deposit looks at both owners of a chain transaction. A withdrawal that is submitted looks at the
other withdrawals only, and a confirmation looks at neither; it also overwrites the hash, and the table
then no longer knows the old one.
-/

namespace RewardSystem.Crypto

open Transition

def CryptoOrder.Consumes : CryptoOrder → ChainTransaction → Prop
  | .deposit id, row => row.consumedByDepositId = some id
  | .withdrawal id, row => row.consumedByWithdrawalId = some id

/-- One owner at most. -/
def ChainTransaction.Apart (row : ChainTransaction) : Prop :=
  row.consumedByDepositId = none ∨ row.consumedByWithdrawalId = none

/-- No chain transaction and no hash is accepted for two orders. -/
structure SingleUse (store : CryptoStore) : Prop where
  apart : ∀ row ∈ store.transactions, row.Apart
  transactions : ∀ acceptance ∈ store.accepted, ∀ other ∈ store.accepted,
    acceptance.transactionId = other.transactionId → acceptance.order = other.order
  hashes : ∀ acceptance ∈ store.accepted, ∀ other ∈ store.accepted,
    acceptance.txHash = other.txHash → acceptance.order = other.order

def ConsumedBy (store : CryptoStore) (pair : Nat × Nat) : Prop :=
  ∃ row ∈ store.transactions, row.id = pair.2 ∧ row.consumedByDepositId = some pair.1

def CreditedOnOwn (store : CryptoStore) : Prop :=
  ∀ pair ∈ store.credited, ConsumedBy store pair

/-- Nothing has been deposited or accepted yet. -/
structure Opening (store : CryptoStore) : Prop where
  deposits : ∀ deposit ∈ store.deposits, deposit.channelType ≠ .crypto
  transactions : store.transactions = []
  accepted : store.accepted = []
  confirmed : store.confirmed = []
  credited : store.credited = []

/-- What holds of the table in every run. -/
structure Sound (store : CryptoStore) : Prop where
  serial : store.transactions.map ChainTransaction.id =
    List.range' 1 store.transactions.length
  hashes : Keyed.HasKeys ChainTransaction.txHash store.transactions
  deposits : ∀ deposit ∈ store.deposits, deposit.channelType = .crypto →
    ∃ row ∈ store.transactions, row.consumedByDepositId = some deposit.id
  confirmed : ∀ pair ∈ store.confirmed, ConsumedBy store pair
  credited : CreditedOnOwn store

/-- Every acceptance is still to be seen in the table. -/
structure Recorded (store : CryptoStore) : Prop where
  apart : ∀ row ∈ store.transactions, row.Apart
  accepted : ∀ acceptance ∈ store.accepted, ∃ row ∈ store.transactions,
    row.id = acceptance.transactionId ∧ row.txHash = acceptance.txHash ∧
      acceptance.order.Consumes row

/-- One row of the table becomes another one and is accepted. -/
structure Rewritten (store next : CryptoStore) (old new : ChainTransaction)
    (order : CryptoOrder) : Prop where
  mem : old ∈ store.transactions
  id : new.id = old.id
  rows : ∀ row, row ∈ next.transactions ↔
    (row ∈ store.transactions ∧ row.id ≠ old.id) ∨ row = new
  serial : next.transactions.map ChainTransaction.id =
    store.transactions.map ChainTransaction.id
  hashes : Keyed.HasKeys ChainTransaction.txHash next.transactions
  accepted : next.accepted = store.accepted ++ [⟨old.id, new.txHash, order⟩]

/-- A new row comes into the table and is accepted. -/
structure Added (store next : CryptoStore) (new : ChainTransaction) (order : CryptoOrder) :
    Prop where
  rows : next.transactions = store.transactions ++ [new]
  id : new.id = store.transactions.length + 1
  fresh : Keyed.lookup ChainTransaction.txHash new.txHash store.transactions = none
  accepted : next.accepted = store.accepted ++ [⟨new.id, new.txHash, order⟩]

section Rows

variable {store next : CryptoStore} {old new row : ChainTransaction} {order : CryptoOrder}

theorem CryptoOrder.eq_of_consumes {order order' : CryptoOrder} (hrow : row.Apart)
    (h : order.Consumes row) (h' : order'.Consumes row) : order = order' := by
  cases order <;> cases order' <;>
    simp_all [CryptoOrder.Consumes, ChainTransaction.Apart]

theorem Sound.ids (h : Sound store) : Keyed.HasKeys ChainTransaction.id store.transactions := by
  unfold Keyed.HasKeys
  rw [h.serial]
  exact List.nodup_range'

theorem Sound.eq_of_id (h : Sound store) {row' : ChainTransaction}
    (hrow : row ∈ store.transactions) (hrow' : row' ∈ store.transactions)
    (hid : row.id = row'.id) : row = row' :=
  List.inj_on_of_nodup_map h.ids hrow hrow' hid

theorem Recorded.singleUse (h : Recorded store) (hsound : Sound store) : SingleUse store where
  apart := h.apart
  transactions acceptance hacceptance other hother hsame := by
    obtain ⟨row, hrow, hid, -, hconsumes⟩ := h.accepted acceptance hacceptance
    obtain ⟨row', hrow', hid', -, hconsumes'⟩ := h.accepted other hother
    obtain rfl := hsound.eq_of_id hrow hrow' (hid.trans (hsame.trans hid'.symm))
    exact CryptoOrder.eq_of_consumes (h.apart row hrow) hconsumes hconsumes'
  hashes acceptance hacceptance other hother hsame := by
    obtain ⟨row, hrow, -, hhash, hconsumes⟩ := h.accepted acceptance hacceptance
    obtain ⟨row', hrow', -, hhash', hconsumes'⟩ := h.accepted other hother
    obtain rfl := List.inj_on_of_nodup_map hsound.hashes hrow hrow'
      (hhash.trans (hsame.trans hhash'.symm))
    exact CryptoOrder.eq_of_consumes (h.apart row hrow) hconsumes hconsumes'

theorem Recorded.rewritten (h : Recorded store) (hsound : Sound store)
    (hrewritten : Rewritten store next old new order) (hhash : new.txHash = old.txHash)
    (happart : new.Apart) (hconsumes : order.Consumes new)
    (hkept : ∀ order : CryptoOrder, order.Consumes old → order.Consumes new) : Recorded next where
  apart row hrow := by
    rcases (hrewritten.rows row).mp hrow with ⟨hrow, -⟩ | rfl
    · exact h.apart row hrow
    · exact happart
  accepted acceptance hacceptance := by
    rw [hrewritten.accepted] at hacceptance
    rcases List.mem_append.mp hacceptance with hacceptance | hacceptance
    · obtain ⟨row, hrow, hid, hhash', hconsumes'⟩ := h.accepted acceptance hacceptance
      by_cases hold : row.id = old.id
      · obtain rfl := hsound.eq_of_id hrow hrewritten.mem hold
        exact ⟨new, (hrewritten.rows new).mpr (.inr rfl), hrewritten.id.trans hid,
          hhash.trans hhash', hkept _ hconsumes'⟩
      · exact ⟨row, (hrewritten.rows row).mpr (.inl ⟨hrow, hold⟩), hid, hhash', hconsumes'⟩
    · obtain rfl := List.mem_singleton.mp hacceptance
      exact ⟨new, (hrewritten.rows new).mpr (.inr rfl), hrewritten.id, rfl, hconsumes⟩

theorem Recorded.added (h : Recorded store) (hadded : Added store next new order)
    (happart : new.Apart) (hconsumes : order.Consumes new) : Recorded next where
  apart row hrow := by
    rw [hadded.rows] at hrow
    rcases List.mem_append.mp hrow with hrow | hrow
    · exact h.apart row hrow
    · obtain rfl := List.mem_singleton.mp hrow
      exact happart
  accepted acceptance hacceptance := by
    rw [hadded.accepted] at hacceptance
    rw [hadded.rows]
    rcases List.mem_append.mp hacceptance with hacceptance | hacceptance
    · obtain ⟨row, hrow, hrest⟩ := h.accepted acceptance hacceptance
      exact ⟨row, List.mem_append_left _ hrow, hrest⟩
    · obtain rfl := List.mem_singleton.mp hacceptance
      exact ⟨new, by simp, rfl, rfl, hconsumes⟩

theorem ConsumedBy.rewritten {pair : Nat × Nat} (h : ConsumedBy store pair) (hsound : Sound store)
    (hrewritten : Rewritten store next old new order)
    (hkept : ∀ id, old.consumedByDepositId = some id → new.consumedByDepositId = some id) :
    ConsumedBy next pair := by
  obtain ⟨row, hrow, hid, hconsumed⟩ := h
  by_cases hold : row.id = old.id
  · obtain rfl := hsound.eq_of_id hrow hrewritten.mem hold
    exact ⟨new, (hrewritten.rows new).mpr (.inr rfl), hrewritten.id.trans hid,
      hkept _ hconsumed⟩
  · exact ⟨row, (hrewritten.rows row).mpr (.inl ⟨hrow, hold⟩), hid, hconsumed⟩

theorem ConsumedBy.added {pair : Nat × Nat} (h : ConsumedBy store pair)
    (hadded : Added store next new order) : ConsumedBy next pair := by
  obtain ⟨row, hrow, hrest⟩ := h
  exact ⟨row, by rw [hadded.rows]; exact List.mem_append_left _ hrow, hrest⟩

/-- The deposits and the confirmations that come with a step have the row that it has touched. -/
structure Backs (store next : CryptoStore) (new : ChainTransaction) : Prop where
  deposits : ∀ deposit ∈ next.deposits, deposit ∈ store.deposits ∨
    new.consumedByDepositId = some deposit.id
  confirmed : ∀ pair ∈ next.confirmed, pair ∈ store.confirmed ∨
    (pair.2 = new.id ∧ new.consumedByDepositId = some pair.1)
  credited : next.credited = store.credited

theorem Sound.rewritten (h : Sound store) (hrewritten : Rewritten store next old new order)
    (hbacks : Backs store next new)
    (hkept : ∀ id, old.consumedByDepositId = some id → new.consumedByDepositId = some id) :
    Sound next where
  serial := by
    have hlength := congrArg List.length hrewritten.serial
    rw [List.length_map, List.length_map] at hlength
    rw [hrewritten.serial, h.serial, hlength]
  hashes := hrewritten.hashes
  deposits deposit hdeposit hcrypto := by
    rcases hbacks.deposits deposit hdeposit with hdeposit | hnew
    · obtain ⟨row, hrow, hconsumed⟩ := h.deposits deposit hdeposit hcrypto
      have hpair : ConsumedBy store (deposit.id, row.id) := ⟨row, hrow, rfl, hconsumed⟩
      obtain ⟨row', hrow', -, hconsumed'⟩ := hpair.rewritten h hrewritten hkept
      exact ⟨row', hrow', hconsumed'⟩
    · exact ⟨new, (hrewritten.rows new).mpr (.inr rfl), hnew⟩
  confirmed pair hpair := by
    rcases hbacks.confirmed pair hpair with hpair | ⟨hid, hconsumed⟩
    · exact (h.confirmed pair hpair).rewritten h hrewritten hkept
    · exact ⟨new, (hrewritten.rows new).mpr (.inr rfl), hid.symm, hconsumed⟩
  credited pair hpair := by
    rw [hbacks.credited] at hpair
    exact (h.credited pair hpair).rewritten h hrewritten hkept

theorem Sound.added (h : Sound store) (hadded : Added store next new order)
    (hbacks : Backs store next new) : Sound next where
  serial := by
    rw [hadded.rows, List.map_append, h.serial, List.length_append, List.length_singleton,
      List.range'_concat]
    simp [hadded.id, Nat.add_comm]
  hashes := hadded.rows ▸ Keyed.hasKeys_append h.hashes hadded.fresh
  deposits deposit hdeposit hcrypto := by
    rcases hbacks.deposits deposit hdeposit with hdeposit | hnew
    · obtain ⟨row, hrow, hconsumed⟩ := h.deposits deposit hdeposit hcrypto
      exact ⟨row, by rw [hadded.rows]; exact List.mem_append_left _ hrow, hconsumed⟩
    · exact ⟨new, by simp [hadded.rows], hnew⟩
  confirmed pair hpair := by
    rcases hbacks.confirmed pair hpair with hpair | ⟨hid, hconsumed⟩
    · exact (h.confirmed pair hpair).added hadded
    · exact ⟨new, by simp [hadded.rows], hid.symm, hconsumed⟩
  credited pair hpair := by
    rw [hbacks.credited] at hpair
    exact (h.credited pair hpair).added hadded

/-- The stores differ in the chain transactions at most, and in the withdrawals. -/
structure SameOrders (base updated : CryptoStore) : Prop where
  deposits : updated.deposits = base.deposits
  accepted : updated.accepted = base.accepted
  confirmed : updated.confirmed = base.confirmed
  credited : updated.credited = base.credited

theorem rewritten_of_update {base updated : CryptoStore}
    {f : ChainTransaction → ChainTransaction} (h : Sound store)
    (hupdate : base.updateTransaction old.id f = .ok updated)
    (hbase : base.transactions = store.transactions) (hmem : old ∈ store.transactions)
    (hid : ∀ row, (f row).id = row.id) :
    SameOrders base updated ∧
      ∀ next order, next.transactions = updated.transactions →
        next.accepted = store.accepted ++ [⟨old.id, (f old).txHash, order⟩] →
        Rewritten store next old (f old) order := by
  obtain ⟨_, hunique, hupdate⟩ := ApiError.bind_eq_ok.mp hupdate
  obtain rfl := Except.ok.inj hupdate
  have hnodup := not_not.mp ((ApiError.throwIf_eq_ok _ _ _).mp hunique)
  rw [hbase] at hnodup ⊢
  refine ⟨⟨rfl, rfl, rfl, rfl⟩, fun next order hrows haccepted => ⟨hmem, hid old, ?_, ?_, ?_, haccepted⟩⟩
  · intro row
    rw [hrows]
    refine Keyed.mem_modify.trans (or_congr_right ⟨?_, ?_⟩)
    · rintro ⟨other, hother, hsame, rfl⟩
      rw [h.eq_of_id hother hmem hsame]
    · rintro rfl
      exact ⟨old, hmem, rfl, rfl⟩
  · rw [hrows]
    exact Keyed.map_key_modify fun row hrow => (hid row).trans hrow
  · unfold Keyed.HasKeys
    rw [hrows]
    exact hnodup

theorem added_of_insert (store : CryptoStore) {base updated : CryptoStore}
    (hinsert : base.insertTransaction row = .ok updated)
    (hbase : base.transactions = store.transactions) :
    SameOrders base updated ∧
      ∀ next order, next.transactions = updated.transactions →
        next.accepted = store.accepted ++ [⟨store.transactions.length + 1, row.txHash, order⟩] →
        Added store next { row with id := store.transactions.length + 1 } order := by
  obtain ⟨_, hunique, hinsert⟩ := ApiError.bind_eq_ok.mp hinsert
  obtain rfl := Except.ok.inj hinsert
  have hfresh := (ApiError.throwIf_eq_ok _ _ _).mp hunique
  rw [hbase] at hfresh ⊢
  refine ⟨⟨rfl, rfl, rfl, rfl⟩, fun next order hrows haccepted => ⟨hrows, rfl, ?_, haccepted⟩⟩
  rw [Keyed.lookup_eq_none]
  exact fun other hother hsame => hfresh ⟨other, hother, hsame⟩

end Rows

/-! ## What the operations do -/

section Operations

variable {store next : CryptoStore} {review : CryptoReviewPayload}

theorem backs_of_deposit {new : ChainTransaction} {deposit : DepositRecord}
    (hdeposits : next.deposits = store.deposits ++ [deposit])
    (hnew : new.consumedByDepositId = some deposit.id)
    (hconfirmed : next.confirmed = store.confirmed) (hcredited : next.credited = store.credited) :
    Backs store next new where
  deposits other hother := by
    rw [hdeposits] at hother
    rcases List.mem_append.mp hother with hother | hother
    · exact .inl hother
    · obtain rfl := List.mem_singleton.mp hother
      exact .inr hnew
  confirmed _ hpair := .inl (hconfirmed ▸ hpair)
  credited := hcredited

theorem backs_of_same {new : ChainTransaction} (hdeposits : next.deposits = store.deposits)
    (hconfirmed : next.confirmed = store.confirmed) (hcredited : next.credited = store.credited) :
    Backs store next new where
  deposits _ hdeposit := .inl (hdeposits ▸ hdeposit)
  confirmed _ hpair := .inl (hconfirmed ▸ hpair)
  credited := hcredited

theorem createCryptoDeposit_effect {conditions : CryptoDepositConditions} {depositId : Nat}
    {payload : CryptoDepositPayload} (hsound : Sound store)
    (h : createCryptoDeposit store conditions depositId payload = .ok next) :
    ∃ new, new.consumedByDepositId = some depositId ∧ new.consumedByWithdrawalId = none ∧
      Backs store next new ∧
        ((∃ old, old.consumedByDepositId = none ∧ old.consumedByWithdrawalId = none ∧
            new.txHash = old.txHash ∧ Rewritten store next old new (.deposit depositId)) ∨
          Added store next new (.deposit depositId)) := by
  obtain ⟨_, -, h⟩ := ApiError.bind_eq_ok.mp h
  obtain ⟨_, -, h⟩ := ApiError.bind_eq_ok.mp h
  split at h
  · cases h
  rename_i channel hchannel
  obtain ⟨txHash, -, h⟩ := ApiError.bind_eq_ok.mp h
  obtain ⟨_, -, h⟩ := ApiError.bind_eq_ok.mp h
  obtain ⟨_, hunclaimed, h⟩ := ApiError.bind_eq_ok.mp h
  have hfree := (ApiError.throwIf_eq_ok _ _ _).mp hunclaimed
  obtain ⟨amount, -, h⟩ := ApiError.bind_eq_ok.mp h
  obtain ⟨_, -, h⟩ := ApiError.bind_eq_ok.mp h
  obtain ⟨fromAddress, -, h⟩ := ApiError.bind_eq_ok.mp h
  obtain ⟨_, -, h⟩ := ApiError.bind_eq_ok.mp h
  obtain ⟨_, -, h⟩ := ApiError.bind_eq_ok.mp h
  obtain ⟨_, -, h⟩ := ApiError.bind_eq_ok.mp h
  split at h
  · rename_i existing hexisting
    obtain ⟨updated, hupdate, h⟩ := ApiError.bind_eq_ok.mp h
    obtain rfl := Except.ok.inj h
    rw [hexisting] at hfree
    simp only [Option.any_some, Bool.or_eq_true, not_or, Bool.not_eq_true,
      Option.isSome_eq_false_iff, Option.isNone_iff_eq_none] at hfree
    obtain ⟨hsame, hrewritten⟩ := rewritten_of_update hsound hupdate rfl
      (Keyed.mem_of_lookup hexisting) (fun _ => rfl)
    have hrow := hrewritten (updated.accept existing.id txHash (.deposit depositId))
      (.deposit depositId) rfl
      (by rw [CryptoStore.accept, hsame.accepted, ← Keyed.key_of_lookup hexisting])
    refine ⟨_, ?_, ?_, ?_, .inl ⟨existing, hfree.1, hfree.2, ?_, hrow⟩⟩
    · rfl
    · rfl
    · exact backs_of_deposit hsame.deposits rfl hsame.confirmed hsame.credited
    · rfl
  · obtain ⟨updated, hinsert, h⟩ := ApiError.bind_eq_ok.mp h
    obtain rfl := Except.ok.inj h
    obtain ⟨hsame, hadded⟩ := added_of_insert store hinsert rfl
    have hrow := hadded (updated.accept (store.transactions.length + 1) txHash
      (.deposit depositId)) (.deposit depositId) rfl (by rw [CryptoStore.accept, hsame.accepted])
    refine ⟨_, ?_, ?_, ?_, .inr hrow⟩
    · rfl
    · rfl
    · exact backs_of_deposit hsame.deposits rfl hsame.confirmed hsame.credited

theorem mem_of_found {first : Option ChainTransaction} {old : ChainTransaction} {txHash : String}
    (h : (first <|> store.transactionByHash txHash) = some old)
    (hfirst : first = some old → old ∈ store.transactions) : old ∈ store.transactions := by
  cases first with
  | none => exact Keyed.mem_of_lookup h
  | some row => exact hfirst h

theorem confirmCryptoDeposit_effect {depositId : Nat} (hsound : Sound store)
    (h : confirmCryptoDeposit store depositId review = .ok next) :
    next = store ∨ ∃ deposit txHash old new, store.depositById depositId = some deposit ∧
      deposit.channelType = .crypto ∧
        readTransactionHash review deposit.submittedTxHash = .ok txHash ∧
          (store.depositTransaction depositId <|> store.transactionByHash txHash) = some old ∧
            new.txHash = txHash ∧ new.consumedByDepositId = old.consumedByDepositId ∧
              new.consumedByWithdrawalId = old.consumedByWithdrawalId ∧
                Rewritten store next old new (.deposit depositId) ∧
                  (new.consumedByDepositId = some depositId → Backs store next new) := by
  unfold confirmCryptoDeposit at h
  split at h
  · exact .inl (Except.ok.inj h).symm
  rename_i deposit hdeposit
  obtain ⟨_, hcrypto, h⟩ := ApiError.bind_eq_ok.mp h
  obtain ⟨_, -, h⟩ := ApiError.bind_eq_ok.mp h
  obtain ⟨txHash, hread, h⟩ := ApiError.bind_eq_ok.mp h
  split at h
  · cases h
  rename_i old hold
  obtain ⟨_, -, h⟩ := ApiError.bind_eq_ok.mp h
  obtain ⟨_, -, h⟩ := ApiError.bind_eq_ok.mp h
  obtain ⟨fromAddress, -, h⟩ := ApiError.bind_eq_ok.mp h
  obtain ⟨toAddress, -, h⟩ := ApiError.bind_eq_ok.mp h
  obtain ⟨_, -, h⟩ := ApiError.bind_eq_ok.mp h
  obtain ⟨updated, hupdate, h⟩ := ApiError.bind_eq_ok.mp h
  obtain rfl := Except.ok.inj h
  have hmem := mem_of_found hold List.mem_of_find?_eq_some
  obtain ⟨hsame, hrewritten⟩ := rewritten_of_update hsound hupdate rfl hmem (fun _ => rfl)
  have hrow := hrewritten
    { updated.accept old.id txHash (.deposit depositId) with
      confirmed := updated.confirmed ++ [(depositId, old.id)] }
    (.deposit depositId) rfl (by rw [CryptoStore.accept, hsame.accepted])
  refine .inr ⟨deposit, txHash, old, _, hdeposit,
    not_not.mp ((ApiError.throwIf_eq_ok _ _ _).mp hcrypto), hread, hold, ?_, ?_, ?_, hrow,
    fun hconsumed => ⟨?_, ?_, hsame.credited⟩⟩
  · rfl
  · rfl
  · rfl
  · exact fun other hother => .inl (hsame.deposits ▸ hother)
  · intro pair hpair
    rcases List.mem_append.mp hpair with hpair | hpair
    · exact .inl (hsame.confirmed ▸ hpair)
    · obtain rfl := List.mem_singleton.mp hpair
      exact .inr ⟨rfl, hconsumed⟩

theorem sameOrders_of_submittedTxHash {base updated : CryptoStore} {withdrawalId : Nat}
    {txHash : String}
    (h : base.updateWithdrawalSubmittedTxHash withdrawalId txHash = .ok updated) :
    SameOrders base updated ∧ updated.transactions = base.transactions := by
  obtain ⟨_, -, h⟩ := ApiError.bind_eq_ok.mp h
  obtain rfl := Except.ok.inj h
  exact ⟨⟨rfl, rfl, rfl, rfl⟩, rfl⟩

theorem SameOrders.trans {first second third : CryptoStore} (h : SameOrders first second)
    (h' : SameOrders second third) : SameOrders first third where
  deposits := h'.deposits.trans h.deposits
  accepted := h'.accepted.trans h.accepted
  confirmed := h'.confirmed.trans h.confirmed
  credited := h'.credited.trans h.credited

theorem submitCryptoWithdrawal_effect {withdrawalId : Nat} {submittedTxHash : Option String}
    (hsound : Sound store)
    (h : submitCryptoWithdrawal store withdrawalId submittedTxHash review = .ok next) :
    next = store ∨ ∃ txHash new, readTransactionHash review submittedTxHash = .ok txHash ∧
      new.consumedByWithdrawalId = some withdrawalId ∧ Backs store next new ∧
        ((∃ old, store.transactionByHash txHash = some old ∧
            (old.consumedByWithdrawalId ≠ none →
              old.consumedByWithdrawalId = some withdrawalId) ∧
            new.txHash = old.txHash ∧ new.consumedByDepositId = old.consumedByDepositId ∧
              Rewritten store next old new (.withdrawal withdrawalId)) ∨
          (new.consumedByDepositId = none ∧
            Added store next new (.withdrawal withdrawalId))) := by
  unfold submitCryptoWithdrawal at h
  split at h
  · exact .inl (Except.ok.inj h).symm
  obtain ⟨_, -, h⟩ := ApiError.bind_eq_ok.mp h
  obtain ⟨_, -, h⟩ := ApiError.bind_eq_ok.mp h
  obtain ⟨txHash, hread, h⟩ := ApiError.bind_eq_ok.mp h
  obtain ⟨exactAmount, -, h⟩ := ApiError.bind_eq_ok.mp h
  split at h
  · cases h
  rename_i address haddress
  obtain ⟨_, -, h⟩ := ApiError.bind_eq_ok.mp h
  obtain ⟨fromAddress, -, h⟩ := ApiError.bind_eq_ok.mp h
  obtain ⟨toAddress, -, h⟩ := ApiError.bind_eq_ok.mp h
  obtain ⟨parsed, -, h⟩ := ApiError.bind_eq_ok.mp h
  split at h
  · rename_i existing hexisting
    obtain ⟨_, hunassigned, h⟩ := ApiError.bind_eq_ok.mp h
    obtain ⟨updated, hupdate, h⟩ := ApiError.bind_eq_ok.mp h
    obtain ⟨recorded, hrecorded, h⟩ := ApiError.bind_eq_ok.mp h
    obtain rfl := Except.ok.inj h
    have hown := (ApiError.throwIf_eq_ok _ _ _).mp hunassigned
    obtain ⟨hupdated, hrewritten⟩ := rewritten_of_update hsound hupdate rfl
      (Keyed.mem_of_lookup hexisting) (fun _ => rfl)
    obtain ⟨hrecordedSame, hrows⟩ := sameOrders_of_submittedTxHash hrecorded
    have hsame := hupdated.trans hrecordedSame
    have hrow := hrewritten (recorded.accept existing.id txHash (.withdrawal withdrawalId))
      (.withdrawal withdrawalId) hrows
      (by rw [CryptoStore.accept, hsame.accepted, ← Keyed.key_of_lookup hexisting])
    refine .inr ⟨txHash, _, hread, ?_, ?_, .inl ⟨existing, hexisting, ?_, ?_, ?_, hrow⟩⟩
    · rfl
    · exact backs_of_same hsame.deposits hsame.confirmed hsame.credited
    · exact fun hne => not_not.mp fun hother => hown ⟨hne, hother⟩
    · rfl
    · rfl
  · obtain ⟨updated, hinsert, h⟩ := ApiError.bind_eq_ok.mp h
    obtain ⟨recorded, hrecorded, h⟩ := ApiError.bind_eq_ok.mp h
    obtain rfl := Except.ok.inj h
    obtain ⟨hupdated, hadded⟩ := added_of_insert store hinsert rfl
    obtain ⟨hrecordedSame, hrows⟩ := sameOrders_of_submittedTxHash hrecorded
    have hsame := hupdated.trans hrecordedSame
    have hrow := hadded (recorded.accept (store.transactions.length + 1) txHash
      (.withdrawal withdrawalId)) (.withdrawal withdrawalId) hrows
      (by rw [CryptoStore.accept, hsame.accepted])
    refine .inr ⟨txHash, _, hread, ?_, ?_, .inr ⟨?_, hrow⟩⟩
    · rfl
    · exact backs_of_same hsame.deposits hsame.confirmed hsame.credited
    · rfl

theorem confirmCryptoWithdrawal_effect {withdrawalId : Nat} {submittedTxHash : Option String}
    (hsound : Sound store)
    (h : confirmCryptoWithdrawal store withdrawalId submittedTxHash review = .ok next) :
    next = store ∨ ∃ txHash old new, readTransactionHash review submittedTxHash = .ok txHash ∧
      (store.withdrawalTransaction withdrawalId <|> store.transactionByHash txHash) = some old ∧
        new.txHash = txHash ∧ new.consumedByDepositId = old.consumedByDepositId ∧
          new.consumedByWithdrawalId = old.consumedByWithdrawalId ∧ Backs store next new ∧
            Rewritten store next old new (.withdrawal withdrawalId) := by
  unfold confirmCryptoWithdrawal at h
  split at h
  · exact .inl (Except.ok.inj h).symm
  obtain ⟨_, -, h⟩ := ApiError.bind_eq_ok.mp h
  obtain ⟨_, -, h⟩ := ApiError.bind_eq_ok.mp h
  obtain ⟨txHash, hread, h⟩ := ApiError.bind_eq_ok.mp h
  obtain ⟨parsed, -, h⟩ := ApiError.bind_eq_ok.mp h
  obtain ⟨_, -, h⟩ := ApiError.bind_eq_ok.mp h
  split at h
  · cases h
  rename_i old hold
  obtain ⟨_, -, h⟩ := ApiError.bind_eq_ok.mp h
  obtain ⟨updated, hupdate, h⟩ := ApiError.bind_eq_ok.mp h
  obtain ⟨recorded, hrecorded, h⟩ := ApiError.bind_eq_ok.mp h
  obtain rfl := Except.ok.inj h
  obtain ⟨hupdated, hrewritten⟩ := rewritten_of_update hsound hupdate rfl
    (mem_of_found hold List.mem_of_find?_eq_some) (fun _ => rfl)
  obtain ⟨hrecordedSame, hrows⟩ := sameOrders_of_submittedTxHash hrecorded
  have hsame := hupdated.trans hrecordedSame
  have hrow := hrewritten (recorded.accept old.id txHash (.withdrawal withdrawalId))
    (.withdrawal withdrawalId) hrows (by rw [CryptoStore.accept, hsame.accepted])
  refine .inr ⟨txHash, old, _, hread, hold, ?_, ?_, ?_, ?_, hrow⟩
  · rfl
  · rfl
  · rfl
  · exact backs_of_same hsame.deposits hsame.confirmed hsame.credited

theorem rejectCryptoDeposit_effect {depositId : Nat}
    (h : rejectCryptoDeposit store depositId review = .ok next) : next = store := by
  unfold rejectCryptoDeposit at h
  split at h
  · exact (Except.ok.inj h).symm
  · obtain ⟨_, -, h⟩ := ApiError.bind_eq_ok.mp h
    obtain ⟨_, -, h⟩ := ApiError.bind_eq_ok.mp h
    obtain ⟨_, -, h⟩ := ApiError.bind_eq_ok.mp h
    exact (Except.ok.inj h).symm

end Operations

/-! ## Runs -/

/-- The reference of a confirmation is the hash that the order's chain transaction has, and a
submitted withdrawal does not name the chain transaction of a deposit. -/
def Careful (store : CryptoStore) : CryptoOperation → Prop
  | .confirmDeposit depositId review =>
      ∀ deposit ∈ store.depositById depositId,
        ∀ txHash ∈ (readTransactionHash review deposit.submittedTxHash).toOption,
          ∀ row ∈ store.depositTransaction depositId, row.txHash = txHash
  | .submitWithdrawal _ submittedTxHash review =>
      ∀ txHash ∈ (readTransactionHash review submittedTxHash).toOption,
        ∀ row ∈ store.transactionByHash txHash, row.consumedByDepositId = none
  | .confirmWithdrawal withdrawalId submittedTxHash review =>
      ∀ txHash ∈ (readTransactionHash review submittedTxHash).toOption,
        ∃ row ∈ store.withdrawalTransaction withdrawalId, row.txHash = txHash
  | .createDeposit .. | .creditDeposit .. | .rejectDeposit .. => True

instance : (store : CryptoStore) → (op : CryptoOperation) → Decidable (Careful store op)
  | store, .confirmDeposit depositId review => inferInstanceAs (Decidable
      (∀ deposit ∈ store.depositById depositId,
        ∀ txHash ∈ (readTransactionHash review deposit.submittedTxHash).toOption,
          ∀ row ∈ store.depositTransaction depositId, row.txHash = txHash))
  | store, .submitWithdrawal _ submittedTxHash review => inferInstanceAs (Decidable
      (∀ txHash ∈ (readTransactionHash review submittedTxHash).toOption,
        ∀ row ∈ store.transactionByHash txHash, row.consumedByDepositId = none))
  | store, .confirmWithdrawal withdrawalId submittedTxHash review => inferInstanceAs (Decidable
      (∀ txHash ∈ (readTransactionHash review submittedTxHash).toOption,
        ∃ row ∈ store.withdrawalTransaction withdrawalId, row.txHash = txHash))
  | _, .createDeposit .. | _, .creditDeposit .. | _, .rejectDeposit .. => isTrue trivial

section Steps

variable {store next : CryptoStore} {op : CryptoOperation}

theorem consumed_of_depositTransaction {depositId : Nat} {row : ChainTransaction}
    (h : store.depositTransaction depositId = some row) :
    row.consumedByDepositId = some depositId := by
  simpa using List.find?_some h

theorem consumed_of_withdrawalTransaction {withdrawalId : Nat} {row : ChainTransaction}
    (h : store.withdrawalTransaction withdrawalId = some row) :
    row.consumedByWithdrawalId = some withdrawalId := by
  simpa using List.find?_some h

theorem Sound.own_transaction (h : Sound store) {depositId : Nat} {deposit : DepositRecord}
    (hdeposit : store.depositById depositId = some deposit)
    (hcrypto : deposit.channelType = .crypto) :
    ∃ row, store.depositTransaction depositId = some row := by
  obtain ⟨row, hrow, hconsumed⟩ := h.deposits deposit (Keyed.mem_of_lookup hdeposit) hcrypto
  rw [Keyed.key_of_lookup hdeposit] at hconsumed
  have hfound : (store.depositTransaction depositId).isSome := by
    unfold CryptoStore.depositTransaction
    rw [List.find?_isSome]
    exact ⟨row, hrow, by simpa using hconsumed⟩
  exact Option.isSome_iff_exists.mp hfound

theorem Sound.confirmed_own (h : Sound store) {depositId : Nat} {deposit : DepositRecord}
    {txHash : String} {old : ChainTransaction}
    (hdeposit : store.depositById depositId = some deposit)
    (hcrypto : deposit.channelType = .crypto)
    (hold : (store.depositTransaction depositId <|> store.transactionByHash txHash) = some old) :
    store.depositTransaction depositId = some old := by
  obtain ⟨row, hrow⟩ := h.own_transaction hdeposit hcrypto
  rw [hrow] at hold ⊢
  exact hold

theorem Sound.step (h : Sound store) (hstep : cryptoStep store op = .ok next) : Sound next := by
  cases op with
  | createDeposit conditions depositId payload =>
      obtain ⟨new, hdeposit, -, hbacks, ⟨old, hfree, -, -, hrewritten⟩ | hadded⟩ :=
        createCryptoDeposit_effect h hstep
      · refine h.rewritten hrewritten hbacks fun id hid => ?_
        rw [hfree] at hid
        cases hid
      · exact h.added hadded hbacks
  | confirmDeposit depositId review =>
      rcases confirmCryptoDeposit_effect h hstep with rfl | ⟨deposit, txHash, old, new, hdeposit,
        hcrypto, -, hold, -, hsame, -, hrewritten, hbacks⟩
      · exact h
      · have hown := consumed_of_depositTransaction (h.confirmed_own hdeposit hcrypto hold)
        exact h.rewritten hrewritten (hbacks (hsame.trans hown)) fun id hid => hsame.trans hid
  | creditDeposit depositId transactionId =>
      obtain rfl := Except.ok.inj hstep
      unfold creditConfirmedDeposit
      split
      · rename_i hconfirmed
        refine ⟨h.serial, h.hashes, h.deposits, h.confirmed, fun pair hpair => ?_⟩
        rcases List.mem_append.mp hpair with hpair | hpair
        · exact h.credited pair hpair
        · obtain rfl := List.mem_singleton.mp hpair
          exact h.confirmed _ hconfirmed
      · exact h
  | rejectDeposit depositId review =>
      rw [rejectCryptoDeposit_effect hstep]
      exact h
  | submitWithdrawal withdrawalId submittedTxHash review =>
      rcases submitCryptoWithdrawal_effect h hstep with rfl | ⟨txHash, new, -, -, hbacks,
        ⟨old, -, -, -, hsame, hrewritten⟩ | ⟨-, hadded⟩⟩
      · exact h
      · exact h.rewritten hrewritten hbacks fun id hid => hsame.trans hid
      · exact h.added hadded hbacks
  | confirmWithdrawal withdrawalId submittedTxHash review =>
      rcases confirmCryptoWithdrawal_effect h hstep with rfl | ⟨txHash, old, new, -, -, -, hsame,
        -, hbacks, hrewritten⟩
      · exact h
      · exact h.rewritten hrewritten hbacks fun id hid => hsame.trans hid

theorem CryptoOrder.Consumes.kept {old new : ChainTransaction}
    (hdeposit : ∀ id, old.consumedByDepositId = some id → new.consumedByDepositId = some id)
    (hwithdrawal : ∀ id, old.consumedByWithdrawalId = some id →
      new.consumedByWithdrawalId = some id) (order : CryptoOrder) (h : order.Consumes old) :
    order.Consumes new := by
  cases order with
  | deposit id => exact hdeposit id h
  | withdrawal id => exact hwithdrawal id h

theorem mem_toOption {ε α : Type} {x : Except ε α} {a : α} (h : x = .ok a) : a ∈ x.toOption := by
  rw [h]
  rfl

theorem Recorded.step (h : Recorded store) (hsound : Sound store)
    (hstep : cryptoStep store op = .ok next) (hcareful : Careful store op) : Recorded next := by
  cases op with
  | createDeposit conditions depositId payload =>
      obtain ⟨new, hdeposit, hwithdrawal, -, ⟨old, hfree, hfree', hhash, hrewritten⟩ | hadded⟩ :=
        createCryptoDeposit_effect hsound hstep
      · refine h.rewritten hsound hrewritten hhash (.inr hwithdrawal) hdeposit
          (CryptoOrder.Consumes.kept ?_ ?_)
        · intro id hid
          rw [hfree] at hid
          cases hid
        · intro id hid
          rw [hfree'] at hid
          cases hid
      · exact h.added hadded (.inr hwithdrawal) hdeposit
  | confirmDeposit depositId review =>
      rcases confirmCryptoDeposit_effect hsound hstep with rfl | ⟨deposit, txHash, old, new,
        hdeposit, hcrypto, hread, hold, hhash, hsame, hsame', hrewritten, -⟩
      · exact h
      · have hown := hsound.confirmed_own hdeposit hcrypto hold
        have hkept := hcareful deposit hdeposit txHash (mem_toOption hread) old hown
        have happart := h.apart old hrewritten.mem
        rw [ChainTransaction.Apart, ← hsame, ← hsame'] at happart
        exact h.rewritten hsound hrewritten (hhash.trans hkept.symm) happart
          (hsame.trans (consumed_of_depositTransaction hown))
          (CryptoOrder.Consumes.kept (fun _ => hsame.trans) fun _ => hsame'.trans)
  | creditDeposit depositId transactionId =>
      obtain rfl := Except.ok.inj hstep
      unfold creditConfirmedDeposit
      split
      · exact ⟨h.apart, h.accepted⟩
      · exact h
  | rejectDeposit depositId review =>
      rw [rejectCryptoDeposit_effect hstep]
      exact h
  | submitWithdrawal withdrawalId submittedTxHash review =>
      rcases submitCryptoWithdrawal_effect hsound hstep with rfl | ⟨txHash, new, hread, hnew, -,
        ⟨old, hold, hown, hhash, hsame, hrewritten⟩ | ⟨hnone, hadded⟩⟩
      · exact h
      · have hnone := hcareful txHash (mem_toOption hread) old hold
        refine h.rewritten hsound hrewritten hhash (.inl (hsame.trans hnone)) hnew
          (CryptoOrder.Consumes.kept (fun _ => hsame.trans) fun id hid => ?_)
        rw [hnew, ← hown (by simp [hid]), hid]
      · exact h.added hadded (.inl hnone) hnew
  | confirmWithdrawal withdrawalId submittedTxHash review =>
      rcases confirmCryptoWithdrawal_effect hsound hstep with rfl | ⟨txHash, old, new, hread, hold,
        hhash, hsame, hsame', -, hrewritten⟩
      · exact h
      · obtain ⟨row, hown, hkept⟩ := hcareful txHash (mem_toOption hread)
        rw [Option.mem_def.mp hown] at hold
        obtain rfl := Option.some.inj hold
        have happart := h.apart row hrewritten.mem
        rw [ChainTransaction.Apart, ← hsame, ← hsame'] at happart
        exact h.rewritten hsound hrewritten (hhash.trans hkept.symm) happart
          (hsame'.trans (consumed_of_withdrawalTransaction hown))
          (CryptoOrder.Consumes.kept (fun _ => hsame.trans) fun _ => hsame'.trans)

theorem Opening.sound (h : Opening store) : Sound store where
  serial := by rw [h.transactions]; rfl
  hashes := by rw [h.transactions]; exact List.nodup_nil
  deposits deposit hdeposit hcrypto := (h.deposits deposit hdeposit hcrypto).elim
  confirmed pair hpair := by
    rw [h.confirmed] at hpair
    cases hpair
  credited pair hpair := by
    rw [h.credited] at hpair
    cases hpair

theorem Opening.recorded (h : Opening store) : Recorded store where
  apart row hrow := by
    rw [h.transactions] at hrow
    cases hrow
  accepted acceptance hacceptance := by
    rw [h.accepted] at hacceptance
    cases hacceptance

end Steps

section Runs

variable {start store : CryptoStore} {events : List (Event CryptoStore CryptoOperation)}

/-- **A deposit is credited on its own chain transaction**, in every run, and no two on the same. -/
theorem creditedOnOwn_of_run (hstart : Opening start)
    (hrun : Run (Transition.Accepts cryptoStep) start events store) :
    CreditedOnOwn store ∧ ∀ pair ∈ store.credited, ∀ other ∈ store.credited,
      pair.2 = other.2 → pair.1 = other.1 := by
  have hsound := hrun.invariant (fun _ _ _ hsound hstep => hsound.step hstep) hstart.sound
  refine ⟨hsound.credited, fun pair hpair other hother hsame => ?_⟩
  obtain ⟨row, hrow, hid, hdeposit⟩ := hsound.credited pair hpair
  obtain ⟨row', hrow', hid', hdeposit'⟩ := hsound.credited other hother
  obtain rfl := hsound.eq_of_id hrow hrow' (hid.trans (hsame.trans hid'.symm))
  exact Option.some.inj (hdeposit.symm.trans hdeposit')

/-- **A chain transaction backs one order** as long as the hashes stay where they are. -/
theorem singleUse_of_careful (hstart : Opening start)
    (hrun : Run (Transition.Accepts cryptoStep) start events store)
    (hcareful : ∀ event ∈ events, Careful event.before event.label) :
    (∀ event ∈ events, SingleUse event.after ∧ CreditedOnOwn event.after) ∧
      SingleUse store ∧ CreditedOnOwn store := by
  have hkept := Run.invariant_of_forall (I := fun store => Sound store ∧ Recorded store)
    (C := fun event => Careful event.before event.label)
    (fun u op v hu hstep hevent => ⟨hu.1.step hstep, hu.2.step hu.1 hstep hevent⟩)
    hrun ⟨hstart.sound, hstart.recorded⟩ hcareful
  refine ⟨fun event hevent => ?_, hkept.2.2.singleUse hkept.2.1, hkept.2.1.credited⟩
  obtain ⟨-, hsound, hrecorded⟩ := hkept.1 event hevent
  exact ⟨hrecorded.singleUse hsound, hsound.credited⟩

end Runs

section Example

def usdtChannel : CryptoDepositChannel :=
  { id := 1, chain := "Ethereum", network := "ERC20", token := "USDT", receiveAddress := "0xreceive"
    minConfirmations := 3, isActive := true }

def openingStore : CryptoStore :=
  { channels := [usdtChannel]
    addresses :=
      [{ payoutMethodId := 4, chain := "Ethereum", network := "ERC20", token := "USDT"
         address := "0xuser" }]
    deposits := []
    withdrawals :=
      [{ id := 9, channelType := .crypto, payoutMethodId := some 4, amount := .finite 25
         submittedTxHash := none }]
    transactions := []
    accepted := []
    confirmed := []
    credited := [] }

theorem opening_openingStore : Opening openingStore :=
  ⟨by simp [openingStore], rfl, rfl, rfl, rfl⟩

def allowed : CryptoDepositConditions :=
  { screening := .ok (), depositEnabled := true, processing := .ok () }

def claimOf (txHash : String) : CryptoDepositPayload :=
  { channelId := 1, amountClaimed := some (.finite 25), txHash := some txHash, fromAddress := none
    screenshotUrl := none, memo := none }

def reviewOf (txHash : String) : CryptoReviewPayload :=
  { operatorNote := none, processingChannel := none, settlementReference := some txHash
    confirmations := some (.finite 6), actualAmount := none, fromAddress := none
    toAddress := none }

/-- A withdrawal is submitted with the hash of a deposit. -/
theorem not_singleUse_of_depositHash :
    ¬∀ start store events, Opening start →
      Run (Transition.Accepts cryptoStep) start events store →
        SingleUse store ∧ CreditedOnOwn store := by
  intro hclaim
  obtain ⟨events, store, hrun, hcheck⟩ := Run.exists_of_check cryptoStep openingStore
    [.createDeposit allowed 5 (claimOf "0xaaa"), .submitWithdrawal 9 none (reviewOf "0xaaa")]
    (fun _ store => decide (∃ row ∈ store.transactions,
      row.consumedByDepositId = some 5 ∧ row.consumedByWithdrawalId = some 9)) (by decide +kernel)
  obtain ⟨row, hrow, hdeposit, hwithdrawal⟩ := of_decide_eq_true hcheck
  have happart := (hclaim openingStore store events opening_openingStore hrun).1.apart row hrow
  simp [ChainTransaction.Apart, hdeposit, hwithdrawal] at happart

theorem singleUse_of_careful_payout : ∃ events store,
    Run (Transition.Accepts cryptoStep) openingStore events store ∧
      store.accepted.length = 4 ∧ store.credited = [(5, 1)] ∧
        SingleUse store ∧ CreditedOnOwn store := by
  obtain ⟨events, store, hrun, hcheck⟩ := Run.exists_of_check cryptoStep openingStore
    [.createDeposit allowed 5 (claimOf "0xaaa"), .confirmDeposit 5 (reviewOf "0xaaa"),
      .creditDeposit 5 1, .submitWithdrawal 9 none (reviewOf "0xbbb"),
      .confirmWithdrawal 9 none (reviewOf "0xbbb")]
    (fun events store => decide (store.accepted.length = 4 ∧ store.credited = [(5, 1)] ∧
      ∀ event ∈ events, Careful event.before event.label)) (by decide +kernel)
  obtain ⟨haccepted, hcredited, hcareful⟩ := of_decide_eq_true hcheck
  exact ⟨events, store, hrun, haccepted, hcredited,
    (singleUse_of_careful opening_openingStore hrun hcareful).2⟩

theorem creditedOnOwn_sample : ∃ events store,
    Run (Transition.Accepts cryptoStep) openingStore events store ∧ store.credited = [(5, 1)] ∧
      CreditedOnOwn store := by
  obtain ⟨events, store, hrun, hcheck⟩ := Run.exists_of_check cryptoStep openingStore
    [.createDeposit allowed 5 (claimOf "0xaaa"), .confirmDeposit 5 (reviewOf "0xaaa"),
      .creditDeposit 5 1] (fun _ store => decide (store.credited = [(5, 1)])) (by decide +kernel)
  exact ⟨events, store, hrun, of_decide_eq_true hcheck,
    (creditedOnOwn_of_run opening_openingStore hrun).1⟩

end Example

end RewardSystem.Crypto
