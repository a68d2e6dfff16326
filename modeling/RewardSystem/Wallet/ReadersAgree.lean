import RewardSystem.Wallet.LedgerReaders

/-!
# Where the two readers agree

Case by case over the entry types. `deriveWalletLedgerEffects` has no case for the entries of
hold'em, and it reads all numbers of the metadata whether an entry uses them or not.
-/

namespace RewardSystem.Wallet

open Webhook (JsonValue toRecord field)

variable (texts : NumberTexts)

namespace StoredEntry

variable (entry : StoredEntry)

/-- Both readers take the entry, with the same effect on what may be withdrawn, what is locked and
what is wagered. -/
def Agrees : Prop :=
  ∃ effects contribution, deriveWalletLedgerEffects texts entry = .ok effects ∧
    entry.contribution texts = .ok contribution ∧
    effects.withdrawable = contribution.withdrawable ∧ effects.locked = contribution.locked ∧
    effects.wagered = contribution.wagered

/-- The keys that `deriveWalletLedgerEffects` reads as numbers. -/
def numberKeys : List String :=
  ["unlockRatio", "lockedBalanceBefore", "lockedBalanceAfter"]

/-- No text among the numbers of the metadata is refused by `new Decimal`. -/
def HasReadableTexts : Prop :=
  ∀ key ∈ numberKeys, ∀ text, entry.value key = some (.string text) → texts.decimal text ≠ none

/-- The locked balances can be cast, and their difference is the same to twenty digits and to whole
cents. -/
def HasLockedCents : Prop :=
  ∃ after before, castNumeric texts (entry.value "lockedBalanceAfter") = .ok after ∧
    castNumeric texts (entry.value "lockedBalanceBefore") = .ok before ∧
    (after.sub before).map (roundSignificant 20) = (after.sub before).map roundCents

/-- The ratio can be cast, and its product with the amount has the same cents if it is rounded to
twenty digits first. -/
def HasReleaseCents : Prop :=
  ∃ unlockRatio, castNumeric texts (entry.value "unlockRatio") = .ok unlockRatio ∧
    ((unlockRatio.scale entry.money).map (roundSignificant 20)).map roundCents =
      (unlockRatio.scale entry.money).map roundCents

/-- The deferred balance is missing or named. -/
def HasBalanceType : Prop :=
  entry.value "balanceType" ∈
    [none, some .null, some (.string ""), some (.string "withdrawable"), some (.string "bonus")]

def ReadAlike : Prop :=
  entry.HasReadableTexts texts ∧
    match entry.entryType with
    | .holdemBuyIn | .holdemCashOut | .holdemHandResult | .holdemRake | .holdemTournamentBuyIn
    | .holdemTournamentRefund | .holdemTournamentPayout => entry.amount = 0
    | .predictionMarketStake | .predictionMarketSell | .predictionMarketPayout
    | .predictionMarketRefund => entry.HasLockedCents texts
    | .playModePayoutDeferred | .playModePayoutReleased =>
        entry.HasLockedCents texts ∧ (entry.HasBalanceType ∨ entry.amount = 0)
    | .bonusReleaseAuto => entry.HasReleaseCents texts
    | _ => True

end StoredEntry

/-! ## Reading numbers -/

section Reading

variable {texts}

theorem exists_readDecimalLike {value : Option JsonValue} :
    (∃ number, readDecimalLike texts value = .ok number) ↔
      ∀ text, value = some (.string text) → texts.decimal text ≠ none := by
  unfold readDecimalLike
  split
  · next text =>
    cases hread : texts.decimal text with
    | none => simp [hread]
    | some number => simp [hread]
  · simp
  · next hstring _ =>
    simp only [Except.ok.injEq, exists_eq', true_iff]
    exact fun text htext => absurd htext (hstring text)

theorem eq_of_readDecimalLike_of_castNumeric {value : Option JsonValue} {left right : Decimal ℚ}
    (hleft : readDecimalLike texts value = .ok left) (hright : castNumeric texts value = .ok right) :
    left = right := by
  cases value with
  | none => simp_all [readDecimalLike, castNumeric]
  | some value =>
      cases value with
      | string text =>
          have hnonempty : text ≠ "" := by
            rintro rfl
            simp [readDecimalLike, texts.decimal_empty] at hleft
          unfold readDecimalLike at hleft
          unfold castNumeric at hright
          dsimp only at hleft hright
          rw [if_neg hnonempty] at hright
          split at hleft
          · next number hnumber =>
            split at hright
            · next cast hcast =>
              obtain rfl := Except.ok.inj hleft
              obtain rfl := Except.ok.inj hright
              exact texts.agree text _ _ hnumber hcast
            · simp at hright
          · simp at hleft
      | _ => simp_all [readDecimalLike, castNumeric]

variable {entry : StoredEntry}

theorem deriveWalletLedgerEffects_eq_ok {effects : LedgerEffects} :
    deriveWalletLedgerEffects texts entry = .ok effects ↔ ∃ unlockRatio after before,
      readDecimalLike texts (entry.value "unlockRatio") = .ok unlockRatio ∧
        readDecimalLike texts (entry.value "lockedBalanceAfter") = .ok after ∧
        readDecimalLike texts (entry.value "lockedBalanceBefore") = .ok before ∧
        effectsOf entry unlockRatio ((after.sub before).map (roundSignificant 20)) = effects := by
  unfold deriveWalletLedgerEffects readBalanceDeltaFromMetadata
  constructor
  · intro h
    obtain ⟨unlockRatio, hratio, h⟩ := ApiError.bind_eq_ok.mp h
    obtain ⟨delta, hdelta, h⟩ := ApiError.bind_eq_ok.mp h
    obtain ⟨after, hafter, hdelta⟩ := ApiError.bind_eq_ok.mp hdelta
    obtain ⟨before, hbefore, hdelta⟩ := ApiError.bind_eq_ok.mp hdelta
    obtain rfl := Except.ok.inj hdelta
    exact ⟨unlockRatio, after, before, hratio, hafter, hbefore, Except.ok.inj h⟩
  · rintro ⟨unlockRatio, after, before, hratio, hafter, hbefore, rfl⟩
    rw [hratio, hafter, hbefore]
    rfl

theorem contribution_eq_ok {contribution : LedgerEffects} :
    entry.contribution texts = .ok contribution ↔ ∃ locked wagered,
      entry.lockedContribution texts = .ok locked ∧
        entry.wageredContribution texts = .ok wagered ∧
        ⟨entry.withdrawableContribution, entry.bonusContribution, locked, wagered⟩ =
          contribution := by
  unfold StoredEntry.contribution
  constructor
  · intro h
    obtain ⟨locked, hlocked, h⟩ := ApiError.bind_eq_ok.mp h
    obtain ⟨wagered, hwagered, h⟩ := ApiError.bind_eq_ok.mp h
    exact ⟨locked, wagered, hlocked, hwagered, Except.ok.inj h⟩
  · rintro ⟨locked, wagered, hlocked, hwagered, rfl⟩
    rw [hlocked, hwagered]
    rfl

theorem hasReadableTexts_iff :
    entry.HasReadableTexts texts ↔
      ∃ unlockRatio after before, readDecimalLike texts (entry.value "unlockRatio") =
          .ok unlockRatio ∧
        readDecimalLike texts (entry.value "lockedBalanceAfter") = .ok after ∧
        readDecimalLike texts (entry.value "lockedBalanceBefore") = .ok before := by
  constructor
  · intro hreadable
    obtain ⟨unlockRatio, hratio⟩ :=
      exists_readDecimalLike.mpr (hreadable "unlockRatio" (by simp [StoredEntry.numberKeys]))
    obtain ⟨after, hafter⟩ := exists_readDecimalLike.mpr
      (hreadable "lockedBalanceAfter" (by simp [StoredEntry.numberKeys]))
    obtain ⟨before, hbefore⟩ := exists_readDecimalLike.mpr
      (hreadable "lockedBalanceBefore" (by simp [StoredEntry.numberKeys]))
    exact ⟨unlockRatio, after, before, hratio, hafter, hbefore⟩
  · rintro ⟨unlockRatio, after, before, hratio, hafter, hbefore⟩ key hkey
    simp only [StoredEntry.numberKeys, List.mem_cons, List.not_mem_nil, or_false] at hkey
    rcases hkey with rfl | rfl | rfl
    · exact exists_readDecimalLike.mp ⟨unlockRatio, hratio⟩
    · exact exists_readDecimalLike.mp ⟨before, hbefore⟩
    · exact exists_readDecimalLike.mp ⟨after, hafter⟩

theorem readLockedDelta_eq_ok {delta : Decimal ℚ} :
    readLockedDelta texts entry = .ok delta ↔ ∃ after before,
      castNumeric texts (entry.value "lockedBalanceAfter") = .ok after ∧
        castNumeric texts (entry.value "lockedBalanceBefore") = .ok before ∧
        (after.sub before).map roundCents = delta := by
  unfold readLockedDelta
  constructor
  · intro h
    obtain ⟨after, hafter, h⟩ := ApiError.bind_eq_ok.mp h
    obtain ⟨before, hbefore, h⟩ := ApiError.bind_eq_ok.mp h
    exact ⟨after, before, hafter, hbefore, Except.ok.inj h⟩
  · rintro ⟨after, before, hafter, hbefore, rfl⟩
    rw [hafter, hbefore]
    rfl

end Reading

/-! ## The cases -/

section Cases

variable {texts} {entry : StoredEntry} {unlockRatio after before : Decimal ℚ}

theorem agrees_iff_of_read
    (hratio : readDecimalLike texts (entry.value "unlockRatio") = .ok unlockRatio)
    (hafter : readDecimalLike texts (entry.value "lockedBalanceAfter") = .ok after)
    (hbefore : readDecimalLike texts (entry.value "lockedBalanceBefore") = .ok before) :
    entry.Agrees texts ↔
      (effectsOf entry unlockRatio ((after.sub before).map (roundSignificant 20))).withdrawable =
          entry.withdrawableContribution ∧
        entry.lockedContribution texts = .ok
          (effectsOf entry unlockRatio ((after.sub before).map (roundSignificant 20))).locked ∧
        entry.wageredContribution texts = .ok
          (effectsOf entry unlockRatio ((after.sub before).map (roundSignificant 20))).wagered := by
  have hderived := deriveWalletLedgerEffects_eq_ok.mpr
    ⟨unlockRatio, after, before, hratio, hafter, hbefore, rfl⟩
  constructor
  · rintro ⟨effects, contribution, heffects, hcontribution, hwithdrawable, hlocked, hwagered⟩
    rw [hderived] at heffects
    obtain rfl := Except.ok.inj heffects
    obtain ⟨locked, wagered, hsqlLocked, hsqlWagered, rfl⟩ := contribution_eq_ok.mp hcontribution
    exact ⟨hwithdrawable, hsqlLocked.trans (congrArg _ hlocked.symm),
      hsqlWagered.trans (congrArg _ hwagered.symm)⟩
  · rintro ⟨hwithdrawable, hlocked, hwagered⟩
    exact ⟨_, _, hderived, contribution_eq_ok.mpr ⟨_, _, hlocked, hwagered, rfl⟩, hwithdrawable,
      rfl, rfl⟩

theorem readLockedDelta_eq_iff
    (hafter : readDecimalLike texts (entry.value "lockedBalanceAfter") = .ok after)
    (hbefore : readDecimalLike texts (entry.value "lockedBalanceBefore") = .ok before) :
    readLockedDelta texts entry = .ok ((after.sub before).map (roundSignificant 20)) ↔
      entry.HasLockedCents texts := by
  rw [readLockedDelta_eq_ok]
  refine exists_congr fun after' => exists_congr fun before' => ?_
  constructor
  · rintro ⟨hafter', hbefore', hdelta⟩
    obtain rfl := eq_of_readDecimalLike_of_castNumeric hafter hafter'
    obtain rfl := eq_of_readDecimalLike_of_castNumeric hbefore hbefore'
    exact ⟨hafter', hbefore', hdelta.symm⟩
  · rintro ⟨hafter', hbefore', hdelta⟩
    obtain rfl := eq_of_readDecimalLike_of_castNumeric hafter hafter'
    obtain rfl := eq_of_readDecimalLike_of_castNumeric hbefore hbefore'
    exact ⟨hafter', hbefore', hdelta.symm⟩

theorem wageredContribution_bonusReleaseAuto_iff {lockedDelta : Decimal ℚ} (htype : entry.entryType = .bonusReleaseAuto)
    (hratio : readDecimalLike texts (entry.value "unlockRatio") = .ok unlockRatio) :
    entry.wageredContribution texts = .ok (effectsOf entry unlockRatio lockedDelta).wagered ↔
      entry.HasReleaseCents texts := by
  have heffect : (effectsOf entry unlockRatio lockedDelta).wagered =
      ((unlockRatio.scale entry.money).map (roundSignificant 20)).neg.map roundCents := by
    simp only [effectsOf, htype]
  have hbranch : entry.wageredContribution texts = (do
      let unlockRatio ← castNumeric texts (entry.value "unlockRatio")
      return (unlockRatio.scale (-1 * entry.money)).map roundCents) := by
    simp [StoredEntry.wageredContribution, htype, stakeEntryTypes]
  have hnegated : ∀ ratio : Decimal ℚ, (ratio.scale (-1 * entry.money)).map roundCents =
      ((ratio.scale entry.money).map roundCents).neg := by
    intro ratio
    rw [neg_one_mul, Decimal.scale_neg, Decimal.map_neg _ _ roundCents_neg]
  rw [heffect, hbranch, ApiError.bind_eq_ok, Decimal.map_neg _ _ roundCents_neg]
  refine exists_congr fun ratio => and_congr_right fun hcast => ?_
  obtain rfl := eq_of_readDecimalLike_of_castNumeric hratio hcast
  rw [hnegated]
  constructor
  · exact fun h => Decimal.neg_injective (Except.ok.inj h).symm
  · exact fun h => congrArg Except.ok (congrArg Decimal.neg h).symm

theorem money_eq_zero : entry.money = 0 ↔ entry.amount = 0 := by
  simp [StoredEntry.money]

theorem deferredToBonus_iff (effect : LedgerEntryType)
    (heffect : effect ∈ playModeDeferredEntryTypes) (htype : entry.entryType = effect)
    (lockedDelta : Decimal ℚ) :
    (effectsOf entry unlockRatio lockedDelta).withdrawable = entry.withdrawableContribution ↔
      entry.HasBalanceType ∨ entry.amount = 0 := by
  have hsql : entry.withdrawableContribution =
      if readPlayModeDeferredBalanceType entry = some "withdrawable" then .finite entry.money
      else .finite 0 := by
    simp only [playModeDeferredEntryTypes, List.mem_cons, List.not_mem_nil, or_false] at heffect
    rcases heffect with rfl | rfl <;>
      simp [StoredEntry.withdrawableContribution, htype, withdrawableDirectEntryTypes,
        playModeDeferredEntryTypes, releaseEntryTypes]
  have hderived : (effectsOf entry unlockRatio lockedDelta).withdrawable =
      if entry.defersBonus then .finite 0 else .finite entry.money := by
    simp only [playModeDeferredEntryTypes, List.mem_cons, List.not_mem_nil, or_false] at heffect
    rcases heffect with rfl | rfl <;> simp only [effectsOf, htype]
  rw [hsql, hderived, StoredEntry.HasBalanceType, readPlayModeDeferredBalanceType,
    StoredEntry.defersBonus]
  cases hvalue : entry.value "balanceType" with
  | none => simp
  | some value =>
      cases value with
      | null => simp
      | string text =>
          by_cases hempty : text = ""
          · simp [hempty]
          · by_cases hbonus : text = "bonus"
            · simp [hbonus]
            · by_cases hnamed : text = "withdrawable"
              · simp [hnamed]
              · simp [hempty, hbonus, hnamed, money_eq_zero]
      | _ => simp [money_eq_zero]

end Cases

/-- The two readers agree on an entry if and only if the numbers of its metadata are read alike, and
an entry of hold'em moves nothing. -/
theorem agrees_iff_readAlike (entry : StoredEntry) :
    entry.Agrees texts ↔ entry.ReadAlike texts := by
  unfold StoredEntry.ReadAlike
  by_cases hreadable : entry.HasReadableTexts texts
  swap
  · refine iff_of_false ?_ fun halike => hreadable halike.1
    rintro ⟨effects, -, heffects, -⟩
    obtain ⟨unlockRatio, after, before, hratio, hafter, hbefore, -⟩ :=
      deriveWalletLedgerEffects_eq_ok.mp heffects
    exact hreadable (hasReadableTexts_iff.mpr ⟨unlockRatio, after, before, hratio, hafter, hbefore⟩)
  obtain ⟨unlockRatio, after, before, hratio, hafter, hbefore⟩ := hasReadableTexts_iff.mp hreadable
  rw [agrees_iff_of_read hratio hafter hbefore]
  have hlocked := readLockedDelta_eq_iff hafter hbefore
  have hzero : (0 : ℚ) = entry.money ↔ entry.amount = 0 := eq_comm.trans money_eq_zero
  cases htype : entry.entryType
  case bonusReleaseAuto =>
    rw [wageredContribution_bonusReleaseAuto_iff htype hratio]
    simp [htype, hreadable, effectsOf, StoredEntry.withdrawableContribution,
      StoredEntry.lockedContribution, withdrawableDirectEntryTypes, playModeDeferredEntryTypes,
      releaseEntryTypes, refundEntryTypes]
  case playModePayoutDeferred =>
    rw [deferredToBonus_iff _ (by simp [playModeDeferredEntryTypes]) htype]
    simp [htype, hreadable, effectsOf, StoredEntry.lockedContribution,
      StoredEntry.wageredContribution, hlocked, playModeDeferredEntryTypes, refundEntryTypes,
      stakeEntryTypes, and_comm]
  case playModePayoutReleased =>
    rw [deferredToBonus_iff _ (by simp [playModeDeferredEntryTypes]) htype]
    simp [htype, hreadable, effectsOf, StoredEntry.lockedContribution,
      StoredEntry.wageredContribution, hlocked, playModeDeferredEntryTypes, refundEntryTypes,
      stakeEntryTypes, and_comm]
  all_goals
    simp [htype, hreadable, effectsOf, StoredEntry.withdrawableContribution,
      StoredEntry.lockedContribution, StoredEntry.wageredContribution, hlocked,
      withdrawableDirectEntryTypes, playModeDeferredEntryTypes, releaseEntryTypes, refundEntryTypes,
      stakeEntryTypes, Decimal.neg, money_eq_zero, hzero]

/-- A buy-in is a debit of fifty to the query, and nothing to `deriveWalletLedgerEffects`. -/
theorem buy_in_read_differently : ¬∀ (texts : NumberTexts) (entry : StoredEntry),
    entry.entryType.isKnown = true → entry.Agrees texts := by
  intro hagree
  let texts : NumberTexts := ⟨fun _ => none, fun _ => none, rfl, by simp⟩
  obtain ⟨effects, contribution, heffects, hcontribution, hwithdrawable, -, -⟩ :=
    hagree texts ⟨.holdemBuyIn, -5000, none⟩ rfl
  obtain ⟨unlockRatio, after, before, -, -, -, rfl⟩ := deriveWalletLedgerEffects_eq_ok.mp heffects
  obtain ⟨locked, wagered, -, -, rfl⟩ := contribution_eq_ok.mp hcontribution
  simp [effectsOf, StoredEntry.withdrawableContribution, withdrawableDirectEntryTypes,
    StoredEntry.money] at hwithdrawable
  norm_num at hwithdrawable

end RewardSystem.Wallet
