import RewardSystem.Fairness.Service
import Mathlib.Order.Interval.Finset.Nat

/-!
# How far a weighted pick reaches

A pick between one and the total weight selects every candidate as often as it weighs. The pick is
derived from the first four bytes of a digest, so it never lies beyond `2 ^ 32`.
-/

namespace RewardSystem.Fairness

variable {items : List WeightedCandidate} {pick cursor i : Nat}

def totalWeightOf (items : List WeightedCandidate) : Nat :=
  (items.map WeightedCandidate.weight).sum

/-- What the candidates before position `i` weigh. -/
def weightBefore (items : List WeightedCandidate) (i : Nat) : Nat :=
  totalWeightOf (items.take i)

/-- Where the loop of `pickByWeight` stops. -/
def positionAt (pick : Nat) : Nat → List WeightedCandidate → Option Nat
  | _, [] => none
  | cursor, item :: items =>
      if pick ≤ cursor + item.weight then some 0
      else (positionAt pick (cursor + item.weight) items).map (· + 1)

/-- The pick of the engine's `weighted_gacha` strategy. -/
structure GachaSelection where
  selection : Option WeightedCandidate
  rngDigest : Option String
  totalWeight : Option Nat
  randomPick : Option Nat
  selectedArmId : Option Int

def selectWeightedGacha (sha256 : String → Digest) (weightedCandidates : List WeightedCandidate)
    (fairnessSeed : HexString) (fairnessNonce : String) : GachaSelection :=
  let totalWeight := totalWeightOf weightedCandidates
  let pickSeed :=
    if 0 < totalWeight then some (deriveRandomPick sha256 totalWeight fairnessSeed fairnessNonce)
    else none
  let selection := pickSeed.bind fun seed => pickByWeight weightedCandidates fun _ => seed.pick
  { selection := selection.map WeightedPick.item
    rngDigest := pickSeed.map RandomPick.digest
    totalWeight := if 0 < totalWeight then some totalWeight else none
    randomPick := pickSeed.map RandomPick.pick
    selectedArmId := selection.map fun selected => selected.item.id }

def FourBytes (sha256 : String → Digest) : Prop :=
  ∀ text, (sha256 text).readUInt32BE < 2 ^ 32

/-- Every candidate is picked as often as it weighs, and by some digest if it weighs anything. -/
structure PickedInProportion (items : List WeightedCandidate) : Prop where
  found : ∀ pick, 1 ≤ pick → pick ≤ totalWeightOf items → ∃ i, ∃ hi : i < items.length,
    positionAt pick 0 items = some i ∧
      pickByWeight items (fun _ => pick) = some ⟨items[i], pick, totalWeightOf items⟩
  share : ∀ i, (hi : i < items.length) →
    ((Finset.Icc 1 (totalWeightOf items)).filter fun pick => positionAt pick 0 items = some i).card =
      items[i].weight
  inRange : ∀ sha256 seed nonce, 1 ≤ (deriveRandomPick sha256 (totalWeightOf items) seed nonce).pick ∧
    (deriveRandomPick sha256 (totalWeightOf items) seed nonce).pick ≤ totalWeightOf items
  reached : ∀ i, (hi : i < items.length) → 0 < items[i].weight → ∃ sha256, FourBytes sha256 ∧
    ∀ seed nonce, positionAt (deriveRandomPick sha256 (totalWeightOf items) seed nonce).pick 0 items =
        some i ∧
      (selectWeightedGacha sha256 items seed nonce).selection = some items[i]

/-! ## Where the loop stops -/

theorem totalWeightOf_cons (item : WeightedCandidate) (items : List WeightedCandidate) :
    totalWeightOf (item :: items) = item.weight + totalWeightOf items := by
  simp [totalWeightOf]

@[simp]
theorem weightBefore_zero (items : List WeightedCandidate) : weightBefore items 0 = 0 := rfl

theorem weightBefore_cons (item : WeightedCandidate) (items : List WeightedCandidate) (i : Nat) :
    weightBefore (item :: items) (i + 1) = item.weight + weightBefore items i := by
  simp only [weightBefore, List.take_succ_cons, totalWeightOf_cons]

theorem weightBefore_succ (hi : i < items.length) :
    weightBefore items (i + 1) = weightBefore items i + items[i].weight := by
  unfold weightBefore totalWeightOf
  rw [List.take_succ_eq_append_getElem hi, List.map_append, List.sum_append]
  simp

theorem weightBefore_le (items : List WeightedCandidate) (i : Nat) :
    weightBefore items i ≤ totalWeightOf items := by
  have hsplit := congrArg totalWeightOf (List.take_append_drop i items)
  unfold totalWeightOf at hsplit
  rw [List.map_append, List.sum_append] at hsplit
  unfold weightBefore totalWeightOf
  omega

theorem positionAt_eq_some (hcursor : cursor < pick) : positionAt pick cursor items = some i ↔
    i < items.length ∧ cursor + weightBefore items i < pick ∧
      pick ≤ cursor + weightBefore items (i + 1) := by
  induction items generalizing cursor i with
  | nil => simp [positionAt]
  | cons item items ih =>
      have hfirst : weightBefore (item :: items) 1 = item.weight := weightBefore_cons item items 0
      unfold positionAt
      split
      case isTrue hle =>
        constructor
        · intro h
          obtain rfl := Option.some.inj h
          simp only [List.length_cons, weightBefore_zero, zero_add, hfirst]
          omega
        · rintro ⟨hi, hlt, -⟩
          cases i with
          | zero => rfl
          | succ i =>
              rw [weightBefore_cons] at hlt
              omega
      case isFalse hgt =>
        rw [Option.map_eq_some_iff]
        constructor
        · rintro ⟨j, hj, rfl⟩
          obtain ⟨hlen, hlt, hle⟩ := (ih (by omega)).mp hj
          rw [weightBefore_cons, weightBefore_cons, List.length_cons]
          omega
        · rintro ⟨hi, hlt, hle⟩
          cases i with
          | zero => rw [zero_add, hfirst] at hle; omega
          | succ i =>
              rw [weightBefore_cons] at hlt hle
              rw [List.length_cons] at hi
              exact ⟨i, (ih (by omega)).mpr ⟨by omega, by omega, by omega⟩, rfl⟩

theorem candidateAt_eq (pick cursor : Nat) (items : List WeightedCandidate) :
    candidateAt pick cursor items = (positionAt pick cursor items).bind fun i => items[i]? := by
  induction items generalizing cursor with
  | nil => rfl
  | cons item items ih =>
      unfold candidateAt positionAt
      split
      · rfl
      · rw [ih]
        cases positionAt pick (cursor + item.weight) items <;> rfl

theorem exists_positionAt (hcursor : cursor < pick) (hle : pick ≤ cursor + totalWeightOf items) :
    ∃ i, positionAt pick cursor items = some i := by
  induction items generalizing cursor with
  | nil =>
      simp only [totalWeightOf, List.map_nil, List.sum_nil] at hle
      omega
  | cons item items ih =>
      rw [totalWeightOf_cons] at hle
      unfold positionAt
      split
      · exact ⟨0, rfl⟩
      · obtain ⟨i, hi⟩ := @ih (cursor + item.weight) (by omega) (by omega)
        exact ⟨i + 1, by rw [hi]; rfl⟩

theorem pickByWeight_of_positionAt (hpos : 0 < totalWeightOf items) (hi : i < items.length)
    (h : positionAt pick 0 items = some i) :
    pickByWeight items (fun _ => pick) = some ⟨items[i], pick, totalWeightOf items⟩ := by
  have htotal : (items.map WeightedCandidate.weight).sum ≠ 0 := hpos.ne'
  unfold pickByWeight
  simp only [if_neg htotal, candidateAt_eq, h, Option.bind_some, List.getElem?_eq_getElem hi,
    Option.some_or, Option.map_some]
  rfl

/-! ## Proportion and reach -/

theorem card_positionAt (hi : i < items.length) :
    ((Finset.Icc 1 (totalWeightOf items)).filter fun pick => positionAt pick 0 items = some i).card =
      items[i].weight := by
  have hsucc := weightBefore_succ hi
  have hle := weightBefore_le items (i + 1)
  have hinterval : ((Finset.Icc 1 (totalWeightOf items)).filter
      fun pick => positionAt pick 0 items = some i) =
      Finset.Ioc (weightBefore items i) (weightBefore items (i + 1)) := by
    ext pick
    rw [Finset.mem_filter, Finset.mem_Icc, Finset.mem_Ioc]
    constructor
    · rintro ⟨⟨hpick, -⟩, hposition⟩
      obtain ⟨-, hlt, hle⟩ := (positionAt_eq_some (by omega)).mp hposition
      omega
    · rintro ⟨hlt, hle'⟩
      exact ⟨by omega, (positionAt_eq_some (by omega)).mpr ⟨hi, by omega, by omega⟩⟩
  rw [hinterval, Nat.card_Ioc]
  omega

theorem deriveRandomPick_le (hpos : 0 < totalWeightOf items) (sha256 : String → Digest)
    (seed : HexString) (nonce : String) :
    1 ≤ (deriveRandomPick sha256 (totalWeightOf items) seed nonce).pick ∧
      (deriveRandomPick sha256 (totalWeightOf items) seed nonce).pick ≤ totalWeightOf items :=
  ⟨Nat.le_add_left 1 _, Nat.mod_lt _ hpos⟩

theorem PickedInProportion.weightBefore_lt (h : PickedInProportion items) (hi : i < items.length)
    (hweight : 0 < items[i].weight) : weightBefore items i < 2 ^ 32 := by
  obtain ⟨sha256, hbytes, hreached⟩ := h.reached i hi hweight
  let seed : HexString := ⟨"", by simp⟩
  have hpick := (hreached seed "").1
  obtain ⟨-, hlt, -⟩ := (positionAt_eq_some (Nat.succ_pos _)).mp hpick
  have hdigest := hbytes (pickInput seed "" (totalWeightOf items))
  have hmod := Nat.mod_le (sha256 (pickInput seed "" (totalWeightOf items))).readUInt32BE
    (totalWeightOf items)
  change 0 + weightBefore items i <
    (sha256 (pickInput seed "" (totalWeightOf items))).readUInt32BE % totalWeightOf items + 1 at hlt
  omega

/-- **A weighted pick is proportional** exactly if everything before a candidate that weighs anything
is lighter than `2 ^ 32`. -/
theorem pickedInProportion_iff (hpos : 0 < totalWeightOf items) :
    PickedInProportion items ↔
      ∀ i, (hi : i < items.length) → 0 < items[i].weight → weightBefore items i < 2 ^ 32 := by
  constructor
  · exact fun h i hi hweight => h.weightBefore_lt hi hweight
  · intro hlight
    refine ⟨fun pick hone hle => ?_, fun i hi => card_positionAt hi, deriveRandomPick_le hpos,
      fun i hi hweight => ?_⟩
    · have hfound : ∃ i, positionAt pick 0 items = some i := exists_positionAt hone (by omega)
      obtain ⟨i, hposition⟩ := hfound
      have hi := ((positionAt_eq_some hone).mp hposition).1
      exact ⟨i, hi, hposition, pickByWeight_of_positionAt hpos hi hposition⟩
    · -- the digest that begins with what the candidates before this one weigh
      have hsucc := weightBefore_succ hi
      have hle := weightBefore_le items (i + 1)
      refine ⟨fun _ => ⟨"", weightBefore items i⟩, fun _ => hlight i hi hweight, fun seed nonce => ?_⟩
      have hpick : (deriveRandomPick (fun _ => ⟨"", weightBefore items i⟩) (totalWeightOf items) seed
          nonce).pick = weightBefore items i + 1 := by
        unfold deriveRandomPick
        dsimp only
        rw [Nat.mod_eq_of_lt (by omega)]
      have hposition : positionAt (weightBefore items i + 1) 0 items = some i :=
        (positionAt_eq_some (Nat.succ_pos _)).mpr ⟨hi, by omega, by omega⟩
      refine ⟨by rw [hpick]; exact hposition, ?_⟩
      unfold selectWeightedGacha
      simp only [if_pos hpos, Option.bind_some, hpick, pickByWeight_of_positionAt hpos hi hposition,
        Option.map_some]

/-- Two prizes and the miss. -/
theorem pickedInProportion_small :
    0 < totalWeightOf [⟨1, 3⟩, ⟨2, 0⟩, ⟨-1, 5⟩] ∧ PickedInProportion [⟨1, 3⟩, ⟨2, 0⟩, ⟨-1, 5⟩] :=
  ⟨by decide, (pickedInProportion_iff (by decide)).mpr (by decide)⟩

/-- Behind three prizes with the greatest weight that the database stores, a fourth one is never
drawn. -/
theorem fourth_prize_never_drawn :
    0 < totalWeightOf [⟨1, 2147483647⟩, ⟨2, 2147483647⟩, ⟨3, 2147483647⟩, ⟨4, 1⟩] ∧
      ¬PickedInProportion [⟨1, 2147483647⟩, ⟨2, 2147483647⟩, ⟨3, 2147483647⟩, ⟨4, 1⟩] := by
  refine ⟨by decide, fun h => ?_⟩
  have hlight := h.weightBefore_lt (i := 3) (by decide) (by decide)
  revert hlight
  decide

end RewardSystem.Fairness
