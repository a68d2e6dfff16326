import RewardSystem.Economy.Counters

/-!
# Repeating a call under its key

A mutation finds an earlier one by the ledger row written under its key. What an accepted call
leaves under a key stays there, so a repeat is answered from it or refused by the unique index.
-/

namespace RewardSystem.Economy

open Transition

/-- The key that one of the six asset mutations carries, with the balance it is for. -/
def EconomyCall.mutationKey : EconomyCall → Option (Nat × AssetCode × String)
  | credit payload | debit payload | lock payload | unlock payload | adjust payload =>
      payload.idempotencyKey.map fun key => (payload.userId, payload.assetCode, key)
  | settle payload =>
      payload.idempotencyKey.map fun key => (payload.userId, payload.assetCode, key)
  | gift _ _ _ => none

/-- A settlement that releases a stake and pays nothing, both as rounded to cents. -/
def EconomyCall.settlesWithoutPayout : EconomyCall → Prop
  | settle payload =>
      toDecimalPlaces payload.payoutAmount = .finite 0 ∧
        ∃ lockedAmount, toDecimalPlaces payload.lockedAmount = .finite lockedAmount ∧
          0 < lockedAmount
  | _ => False

/-- Once a call was accepted, the same call at any later point of any run leaves the store as it is;
a call that is refused is rolled back. -/
def RepeatsUnchanged (call : EconomyCall) : Prop :=
  ∀ before reached, Run (Accepts economyStep) emptyStore before reached →
    ∀ first, economyStep reached call = .ok first →
      ∀ between later, Run (Accepts economyStep) first between later →
        ∀ second, economyStep later call = .ok second → second = later

section Keys

variable {store store' : EconomyStore} {userId : Nat} {assetCode : AssetCode} {key : String}

theorem hasKey_of_grows (h : store.entries <+: store'.entries)
    (hkey : store.HasKey userId assetCode key) : store'.HasKey userId assetCode key := by
  obtain ⟨entry, hentry, hmatch⟩ := hkey
  exact ⟨entry, h.subset hentry, hmatch⟩

theorem hasKey_of_find {existing : EconomyLedgerEntry}
    (h : store.findIdempotentLedgerEntry userId assetCode (some key) = some existing) :
    store.HasKey userId assetCode key := by
  have hne : key ≠ "" := by
    rintro rfl
    simp [EconomyStore.findIdempotentLedgerEntry] at h
  by_contra hmissing
  rw [(EconomyStore.findIdempotentLedgerEntry_eq_none hne).mpr hmissing] at h
  cases h

section Record

variable {entryType : String} {idempotencyKey : Option String} {update : BalanceUpdate}

theorem record_grows
    (h : store.record userId assetCode entryType idempotencyKey update = .ok store') :
    store.entries <+: store'.entries := by
  rw [(EconomyStore.record_eq_ok h).2]
  exact List.prefix_append _ _

theorem hasKey_of_record
    (h : store.record userId assetCode entryType (some key) update = .ok store') :
    store'.HasKey userId assetCode key := by
  rw [(EconomyStore.record_eq_ok h).2]
  exact ⟨_, List.mem_append_right _ (List.mem_singleton_self _), rfl, rfl, rfl⟩

theorem not_hasKey_of_record
    (h : store.record userId assetCode entryType (some key) update = .ok store') :
    ¬store.HasKey userId assetCode key :=
  (EconomyStore.record_eq_ok h).1 key rfl

end Record

end Keys

/-- What an accepted call does to the ledger: a repeat changes nothing, anything else records a row
under the call's key, but for a settlement without payout, which records none. -/
inductive Booking (store store' : EconomyStore) (call : EconomyCall) : Prop
  | replayed (hfound : ∀ userId assetCode key, call.mutationKey = some (userId, assetCode, key) →
        store.HasKey userId assetCode key) (hstore : store' = store)
  | recorded (hfree : ∀ userId assetCode key, call.mutationKey = some (userId, assetCode, key) →
        ¬store.HasKey userId assetCode key)
      (hkept : ∀ userId assetCode key, call.mutationKey = some (userId, assetCode, key) →
        store'.HasKey userId assetCode key)
      (hentries : store.entries <+: store'.entries)
  | unrecorded (hsettles : call.settlesWithoutPayout) (hentries : store'.entries = store.entries)

section Bookings

variable {store store' : EconomyStore} {payload : AssetMutationPayload}

theorem booking_of_record {call : EconomyCall} {userId : Nat} {assetCode : AssetCode}
    {entryType : String} {idempotencyKey : Option String} {update : BalanceUpdate}
    (hkey : call.mutationKey = idempotencyKey.map fun key => (userId, assetCode, key))
    (h : store.record userId assetCode entryType idempotencyKey update = .ok store') :
    Booking store store' call := by
  cases idempotencyKey with
  | none =>
      refine .recorded ?_ ?_ (record_grows h)
      · simp [hkey]
      · simp [hkey]
  | some key =>
      refine .recorded ?_ ?_ (record_grows h)
      · rintro _ _ _ hcall
        obtain ⟨rfl, rfl, rfl⟩ : userId = _ ∧ assetCode = _ ∧ key = _ := by simpa [hkey] using hcall
        exact not_hasKey_of_record h
      · rintro _ _ _ hcall
        obtain ⟨rfl, rfl, rfl⟩ : userId = _ ∧ assetCode = _ ∧ key = _ := by simpa [hkey] using hcall
        exact hasKey_of_record h

theorem booking_of_find {call : EconomyCall} {userId : Nat} {assetCode : AssetCode}
    {idempotencyKey : Option String} {existing : EconomyLedgerEntry}
    (hkey : call.mutationKey = idempotencyKey.map fun key => (userId, assetCode, key))
    (hfind : store.findIdempotentLedgerEntry userId assetCode idempotencyKey = some existing) :
    Booking store store call := by
  refine .replayed ?_ rfl
  rintro _ _ _ hcall
  cases idempotencyKey with
  | none => simp [hkey] at hcall
  | some key =>
      obtain ⟨rfl, rfl, rfl⟩ : userId = _ ∧ assetCode = _ ∧ key = _ := by simpa [hkey] using hcall
      exact hasKey_of_find hfind

theorem applyLedgerMutation_booking {call : EconomyCall} {result : AssetMutationResult}
    {compute : Int → AssetBalance → Except ApiError BalanceUpdate}
    (hkey : call.mutationKey =
      payload.idempotencyKey.map fun key => (payload.userId, payload.assetCode, key))
    (h : applyLedgerMutation store payload compute = .ok (store', result)) :
    Booking store store' call := by
  unfold applyLedgerMutation at h
  split at h
  · rename_i existing hfind
    obtain ⟨rfl, _⟩ : store = store' ∧ _ := by simpa using h
    exact booking_of_find hkey hfind
  · obtain ⟨_, _, h⟩ := ApiError.bind_eq_ok.mp h
    obtain ⟨_, _, h⟩ := ApiError.bind_eq_ok.mp h
    obtain ⟨updated, hrecord, h⟩ := ApiError.bind_eq_ok.mp h
    obtain ⟨rfl, _⟩ : updated = store' ∧ _ := by simpa using h
    exact booking_of_record hkey hrecord

theorem adjustLockedAsset_booking {result : AssetMutationResult}
    (h : adjustLockedAsset store payload = .ok (store', result)) :
    Booking store store' (.adjust payload) := by
  unfold adjustLockedAsset at h
  split at h
  · rename_i existing hfind
    obtain ⟨rfl, _⟩ : store = store' ∧ _ := by simpa using h
    exact booking_of_find rfl hfind
  · obtain ⟨_, _, h⟩ := ApiError.bind_eq_ok.mp h
    obtain ⟨_, _, h⟩ := ApiError.bind_eq_ok.mp h
    obtain ⟨updated, hrecord, h⟩ := ApiError.bind_eq_ok.mp h
    obtain ⟨rfl, _⟩ : updated = store' ∧ _ := by simpa using h
    exact booking_of_record rfl hrecord

theorem settleLockedAsset_booking {payload : SettlePayload} {result : AssetMutationResult}
    (h : settleLockedAsset store payload = .ok (store', result)) :
    Booking store store' (.settle payload) := by
  unfold settleLockedAsset at h
  split at h
  · rename_i existing hfind
    obtain ⟨rfl, _⟩ : store = store' ∧ _ := by simpa using h
    unfold findSettlement at hfind
    split_ifs at hfind
    exact booking_of_find rfl hfind
  · obtain ⟨lockedAmount, hlocked, h⟩ := ApiError.bind_eq_ok.mp h
    obtain ⟨payoutAmount, hpayout, h⟩ := ApiError.bind_eq_ok.mp h
    obtain ⟨_, _, h⟩ := ApiError.bind_eq_ok.mp h
    dsimp only at h
    split_ifs at h with hpositive
    · obtain ⟨updated, hrecord, h⟩ := ApiError.bind_eq_ok.mp h
      obtain ⟨rfl, _⟩ : updated = store' ∧ _ := by simpa using h
      exact booking_of_record rfl hrecord
    · obtain ⟨updated, hset, h⟩ := ApiError.bind_eq_ok.mp h
      obtain ⟨rfl, _⟩ : updated = store' ∧ _ := by simpa using h
      obtain ⟨hpayout, hnonneg⟩ := normalizeNonNegativeAmount_eq_ok hpayout
      obtain rfl : payoutAmount = 0 := by omega
      refine .unrecorded ⟨hpayout, lockedAmount, normalizePositiveAmount_eq_ok hlocked⟩ ?_
      rw [← Except.ok.inj hset]
      rfl

theorem transferAssetGift_booking {restricted : Nat → Bool} {now : Int} {payload : GiftPayload}
    {result : GiftTransferResult}
    (h : transferAssetGift restricted now store payload = .ok (store', result)) :
    Booking store store' (.gift restricted now payload) := by
  rcases transferAssetGift_cases h with rfl | ⟨recorded, sent, _, _, hentries, _, _, _, hsent,
    hreceived⟩
  · exact .replayed (by simp [EconomyCall.mutationKey]) rfl
  · refine .recorded (by simp [EconomyCall.mutationKey]) (by simp [EconomyCall.mutationKey]) ?_
    rw [← hentries]
    exact (record_grows hsent).trans (record_grows hreceived)

theorem EconomyCall.run_booking {call : EconomyCall} (hrun : call.run store = .ok store') :
    Booking store store' call := by
  cases call with
  | credit payload | debit payload | lock payload | unlock payload =>
      obtain ⟨⟨_, _⟩, h, rfl⟩ := ApiError.map_eq_ok.mp hrun
      exact applyLedgerMutation_booking rfl h
  | settle payload =>
      obtain ⟨⟨_, _⟩, h, rfl⟩ := ApiError.map_eq_ok.mp hrun
      exact settleLockedAsset_booking h
  | adjust payload =>
      obtain ⟨⟨_, _⟩, h, rfl⟩ := ApiError.map_eq_ok.mp hrun
      exact adjustLockedAsset_booking h
  | gift restricted now payload =>
      obtain ⟨⟨_, _⟩, h, rfl⟩ := ApiError.map_eq_ok.mp hrun
      exact transferAssetGift_booking h

end Bookings

section Repeats

variable {store store' : EconomyStore} {call : EconomyCall} {userId : Nat} {assetCode : AssetCode}
  {key : String} {events : List (Event EconomyStore EconomyCall)}

theorem entries_grow_of_step (h : economyStep store call = .ok store') :
    store.entries <+: store'.entries := by
  cases EconomyCall.run_booking h with
  | replayed _ hstore => exact hstore ▸ List.prefix_rfl
  | recorded _ _ hentries => exact hentries
  | unrecorded _ hentries => exact hentries ▸ List.prefix_rfl

theorem hasKey_of_run (hrun : Run (Accepts economyStep) store events store')
    (hkey : store.HasKey userId assetCode key) : store'.HasKey userId assetCode key := by
  refine hrun.invariant (I := fun store => store.HasKey userId assetCode key) ?_ hkey
  intro u call v hkey hstep
  exact hasKey_of_grows (entries_grow_of_step hstep) hkey

theorem hasKey_of_step (hcall : call.mutationKey = some (userId, assetCode, key))
    (hsettles : ¬call.settlesWithoutPayout) (h : economyStep store call = .ok store') :
    store'.HasKey userId assetCode key := by
  cases EconomyCall.run_booking h with
  | replayed hfound hstore =>
      rw [hstore]
      exact hfound _ _ _ hcall
  | recorded _ hkept => exact hkept _ _ _ hcall
  | unrecorded hcontra => exact absurd hcontra hsettles

theorem eq_of_hasKey (hcall : call.mutationKey = some (userId, assetCode, key))
    (hsettles : ¬call.settlesWithoutPayout) (hkey : store.HasKey userId assetCode key)
    (h : economyStep store call = .ok store') : store' = store := by
  cases EconomyCall.run_booking h with
  | replayed _ hstore => exact hstore
  | recorded hfree => exact absurd hkey (hfree _ _ _ hcall)
  | unrecorded hcontra => exact absurd hcontra hsettles

theorem repeatsUnchanged_of_not_settlesWithoutPayout
    (hcall : call.mutationKey = some (userId, assetCode, key))
    (hsettles : ¬call.settlesWithoutPayout) : RepeatsUnchanged call := by
  intro before reached _ first hfirst between later hlater second hsecond
  have hkey := hasKey_of_run hlater (hasKey_of_step hcall hsettles hfirst)
  exact eq_of_hasKey hcall hsettles hkey hsecond

end Repeats

section Unrecorded

variable {store : EconomyStore} {payload : SettlePayload} {amount : Int}

theorem normalizePositiveAmount_of_pos {value : Decimal ℚ}
    (hvalue : toDecimalPlaces value = .finite amount) (hpos : 0 < amount) :
    normalizePositiveAmount value = .ok amount := by
  have hcond : ¬amount ≤ 0 := by omega
  simp [normalizePositiveAmount, hvalue, hcond]

theorem applyLedgerMutation_of_noKey (store : EconomyStore) (payload : AssetMutationPayload)
    (compute : Int → AssetBalance → Except ApiError BalanceUpdate) {update : BalanceUpdate}
    (hkey : payload.idempotencyKey = none)
    (hvalue : toDecimalPlaces payload.amount = .finite amount) (hpos : 0 < amount)
    (hcompute : compute amount (store.balances payload.userId payload.assetCode) = .ok update) :
    ∃ applied, (applyLedgerMutation store payload compute).map Prod.fst = .ok applied ∧
      applied.balances payload.userId payload.assetCode = update.balance := by
  have hfind : store.findIdempotentLedgerEntry payload.userId payload.assetCode
      payload.idempotencyKey = none := by
    rw [hkey]
    rfl
  obtain ⟨applied, happlied⟩ : ∃ applied, store.record payload.userId payload.assetCode
      payload.entryType payload.idempotencyKey update = .ok applied := by
    rw [hkey]
    exact ⟨_, rfl⟩
  refine ⟨applied, ?_, ?_⟩
  · unfold applyLedgerMutation
    simp only [hfind, normalizePositiveAmount_of_pos hvalue hpos, hcompute, happlied, bind,
      Except.bind]
    rfl
  · rw [record_balances happlied, setBalance_balances, if_pos ⟨rfl, rfl⟩]

theorem lockUpdate_of_covered {before : AssetBalance}
    (hcovered : amount ≤ before.availableBalance) :
    ∃ update, lockUpdate amount before = .ok update ∧
      update.balance.lockedBalance = before.lockedBalance + amount := by
  have hcond : ¬before.availableBalance < amount := by omega
  unfold lockUpdate ApiError.throwIf
  rw [if_neg hcond]
  exact ⟨_, rfl, rfl⟩

def stakeOf (payload : SettlePayload) : AssetMutationPayload :=
  { userId := payload.userId
    assetCode := payload.assetCode
    amount := payload.lockedAmount
    entryType := "stake"
    idempotencyKey := none }

theorem exists_staked (hnonneg : AllNonNegative store)
    (hlocked : toDecimalPlaces payload.lockedAmount = .finite amount) (hpos : 0 < amount) :
    ∃ events staked, Run (Accepts economyStep) store events staked ∧
      amount ≤ (staked.balances payload.userId payload.assetCode).lockedBalance := by
  obtain ⟨havailable, hheld⟩ := hnonneg payload.userId payload.assetCode
  obtain ⟨credited, hcredit, hcredited⟩ := applyLedgerMutation_of_noKey store
    (stakeOf payload) creditUpdate rfl hlocked hpos rfl
  have havailable' : (credited.balances payload.userId payload.assetCode).availableBalance =
      (store.balances payload.userId payload.assetCode).availableBalance + amount :=
    by simpa [stakeOf] using congrArg AssetBalance.availableBalance hcredited
  have hheld' : (credited.balances payload.userId payload.assetCode).lockedBalance =
      (store.balances payload.userId payload.assetCode).lockedBalance :=
    by simpa [stakeOf] using congrArg AssetBalance.lockedBalance hcredited
  have hcovered : amount ≤
      (credited.balances payload.userId payload.assetCode).availableBalance := by omega
  obtain ⟨update, hcompute, hupdate⟩ := lockUpdate_of_covered hcovered
  obtain ⟨staked, hlock, hstaked⟩ := applyLedgerMutation_of_noKey credited
    (stakeOf payload) lockUpdate rfl hlocked hpos hcompute
  have hcreditStep : economyStep store (.credit (stakeOf payload)) = .ok credited := hcredit
  have hlockStep : economyStep credited (.lock (stakeOf payload)) = .ok staked := hlock
  refine ⟨_, staked, .cons hcreditStep (.cons hlockStep (.nil _)), ?_⟩
  have hstaked : staked.balances payload.userId payload.assetCode = update.balance := hstaked
  rw [hstaked, hupdate]
  omega

theorem settle_of_noPayout (hpayout : toDecimalPlaces payload.payoutAmount = .finite 0)
    (hlocked : toDecimalPlaces payload.lockedAmount = .finite amount) (hpos : 0 < amount)
    (hcovered : amount ≤ (store.balances payload.userId payload.assetCode).lockedBalance) :
    economyStep store (.settle payload) =
      .ok (store.setBalance payload.userId payload.assetCode
        (settledBalance amount 0 (store.balances payload.userId payload.assetCode))) := by
  have hfind : findSettlement store payload = none := by
    simp [findSettlement, hpayout, Decimal.isPositive]
  have hzero : normalizeNonNegativeAmount payload.payoutAmount = .ok 0 := by
    simp [normalizeNonNegativeAmount, hpayout]
  have hcond : ¬(store.balances payload.userId payload.assetCode).lockedBalance < amount := by
    omega
  have hthrow : ApiError.throwIf
      ((store.balances payload.userId payload.assetCode).lockedBalance < amount)
      (.conflict "Insufficient locked asset balance.") = .ok () :=
    (ApiError.throwIf_eq_ok _ _ _).mpr hcond
  unfold economyStep EconomyCall.run settleLockedAsset
  simp only [hfind, normalizePositiveAmount_of_pos hlocked hpos, hzero, hthrow, bind, Except.bind,
    lt_irrefl, if_false]
  rfl

theorem not_repeatsUnchanged_of_settlesWithoutPayout {call : EconomyCall}
    (hsettles : call.settlesWithoutPayout) : ¬RepeatsUnchanged call := by
  cases call with
  | settle payload =>
      obtain ⟨hpayout, amount, hlocked, hpos⟩ := hsettles
      intro hclaim
      have hempty : AllNonNegative emptyStore := fun userId assetCode =>
        (countersAgree_emptyStore userId assetCode).nonNegative
      obtain ⟨before, reached, hbefore, hcovered⟩ := exists_staked hempty hlocked hpos
      have hfirst := settle_of_noPayout hpayout hlocked hpos hcovered
      have hrun := hbefore.append (.cons hfirst (.nil _))
      obtain ⟨between, later, hbetween, hagain⟩ :=
        exists_staked (allNonNegative_of_run hrun) hlocked hpos
      have hsecond := settle_of_noPayout hpayout hlocked hpos hagain
      have hsame := hclaim before reached hbefore _ hfirst between later hbetween _ hsecond
      have hlockedBalance := congrArg
        (fun store => (store.balances payload.userId payload.assetCode).lockedBalance) hsame
      simp only [setBalance_balances, settledBalance, and_self, if_true] at hlockedBalance
      omega
  | _ => exact hsettles.elim

end Unrecorded

/-- **Replay.** A mutation that carries a key can be repeated at any later point without effect
exactly if it is not a settlement without payout. -/
theorem repeatsUnchanged_iff {call : EconomyCall} {userId : Nat} {assetCode : AssetCode}
    {key : String} (hcall : call.mutationKey = some (userId, assetCode, key)) :
    RepeatsUnchanged call ↔ ¬call.settlesWithoutPayout := by
  constructor
  · intro hrepeats hsettles
    exact not_repeatsUnchanged_of_settlesWithoutPayout hsettles hrepeats
  · exact repeatsUnchanged_of_not_settlesWithoutPayout hcall

section Example

/-- A lost position: the stake of 10.00 is released and nothing is paid. -/
def lostPosition : EconomyCall :=
  .settle ⟨1, .bLuck, .finite 10, .finite 0, "prediction_market_payout", some "settle-1"⟩

theorem not_repeatsUnchanged_of_lostPosition :
    ¬∀ call userId assetCode key, EconomyCall.mutationKey call = some (userId, assetCode, key) →
      RepeatsUnchanged call := by
  intro hclaim
  have hsettles : lostPosition.settlesWithoutPayout :=
    ⟨by decide +kernel, 1000, by decide +kernel, by decide⟩
  exact not_repeatsUnchanged_of_settlesWithoutPayout hsettles
    (hclaim lostPosition 1 .bLuck "settle-1" rfl)

theorem repeatsUnchanged_wonPosition :
    RepeatsUnchanged
      (.settle ⟨1, .bLuck, .finite 10, .finite 25, "prediction_market_payout", some "settle-1"⟩) :=
  (repeatsUnchanged_iff rfl).mpr
    fun hsettles => absurd hsettles.1 (by decide +kernel)

end Example

end RewardSystem.Economy
