import RewardSystem.Fairness.Plays
import RewardSystem.Shared.Segments

/-!
# When two plays hash the same input

Nothing keeps a client from sending a nonce again. A play that does so within an epoch hashes inputs
that have been hashed before; these are the only plays that do.
-/

namespace RewardSystem.Fairness

open Blackjack Transition

/-- What an outcome takes its digests of: the steps `0, 1, …`, the total weight, or nothing. -/
inductive Hashing where
  | none
  | steps (count : Nat)
  | weight (totalWeight : Nat)

def Outcome.hashing : Outcome → Hashing
  | .quickEight .. => .steps quickEightDrawCount
  | .blackjack .. => .steps 52
  | .draw none => .none
  | .draw (some selection) => .weight selection.totalWeight

def Play.inputs (play : Play) : List String :=
  match play.outcome.hashing with
  | .none => []
  | .steps count =>
      (List.range count).map
        (stepInput play.fairness.seed.seed play.userId play.fairness.clientNonce)
  | .weight totalWeight =>
      [pickInput play.fairness.seed.seed play.fairness.clientNonce totalWeight]

/-- The outcome depends on the digests of these inputs only. -/
def Play.ComputedFrom (sha256 : String → Digest) (play : Play) (inputs : List String) : Prop :=
  ∀ digest : String → Digest, (∀ input ∈ inputs, digest input = sha256 input) →
    play.Follows digest

def Reuses (earlier later : Play) : Prop :=
  ∃ input ∈ earlier.inputs, input ∈ later.inputs

def Play.nonceWithUser (play : Play) : String :=
  toString play.userId ++ ":" ++ play.fairness.clientNonce

/-- The plays have one seed, and their users and nonces do not tell them apart. -/
def SharesInput (earlier later : Play) : Prop :=
  earlier.fairness.seed.seed = later.fairness.seed.seed ∧
    match earlier.outcome.hashing, later.outcome.hashing with
    | .steps _, .steps _ =>
        earlier.userId = later.userId ∧
          earlier.fairness.clientNonce = later.fairness.clientNonce
    | .weight totalWeight, .weight totalWeight' =>
        earlier.fairness.clientNonce = later.fairness.clientNonce ∧ totalWeight = totalWeight'
    | .steps count, .weight totalWeight =>
        later.fairness.clientNonce = earlier.nonceWithUser ∧ totalWeight < count
    | .weight totalWeight, .steps count =>
        earlier.fairness.clientNonce = later.nonceWithUser ∧ totalWeight < count
    | .none, _ | _, .none => False

section Inputs

variable {seed seed' : HexString} {userId userId' step totalWeight totalWeight' : Nat}
  {clientNonce clientNonce' : String}

theorem toList_pickInput :
    (pickInput seed clientNonce totalWeight).toList =
      seed.value.toList ++ ':' :: (clientNonce.toList ++ ':' :: Nat.toDigits 10 totalWeight) := by
  have hcolon : ":".toList = [':'] := rfl
  simp only [pickInput, String.toList_append, Nat.toString_eq_repr, Nat.toList_repr, hcolon,
    List.append_assoc, List.cons_append, List.nil_append]

theorem stepInput_eq_pickInput :
    stepInput seed userId clientNonce step =
      pickInput seed (toString userId ++ ":" ++ clientNonce) step := by
  simp only [stepInput, pickInput, String.append_assoc]

theorem pickInput_inj :
    pickInput seed clientNonce totalWeight = pickInput seed' clientNonce' totalWeight' ↔
      seed = seed' ∧ clientNonce = clientNonce' ∧ totalWeight = totalWeight' := by
  constructor
  · intro h
    have hlist := congrArg String.toList h
    rw [toList_pickInput, toList_pickInput] at hlist
    obtain ⟨hseed, hlist⟩ := append_colon_inj seed.noColon seed'.noColon hlist
    obtain ⟨hnonce, hweight⟩ := append_colon_inj_right (colon_notMem_toDigits totalWeight)
      (colon_notMem_toDigits totalWeight') hlist
    refine ⟨?_, String.toList_inj.mp hnonce, toDigits_injective hweight⟩
    cases seed
    cases seed'
    simpa using String.toList_inj.mp hseed
  · rintro ⟨rfl, rfl, rfl⟩
    rfl

theorem nonceWithUser_inj :
    toString userId ++ ":" ++ clientNonce = toString userId' ++ ":" ++ clientNonce' ↔
      userId = userId' ∧ clientNonce = clientNonce' := by
  have hcolon : ":".toList = [':'] := rfl
  constructor
  · intro h
    have hlist := congrArg String.toList h
    simp only [String.toList_append, Nat.toString_eq_repr, Nat.toList_repr, hcolon,
      List.append_assoc, List.singleton_append] at hlist
    obtain ⟨huser, hnonce⟩ := append_colon_inj (colon_notMem_toDigits userId)
      (colon_notMem_toDigits userId') hlist
    exact ⟨toDigits_injective huser, String.toList_inj.mp hnonce⟩
  · rintro ⟨rfl, rfl⟩
    rfl

end Inputs

section Computed

theorem takeByDigest_congr {α : Type} {digestAt digestAt' : Nat → Digest} {exhausted : ApiError}
    {count start : Nat} {available : List α}
    (h : ∀ step, start ≤ step → step < start + count → digestAt' step = digestAt step) :
    takeByDigest digestAt' exhausted count start available =
      takeByDigest digestAt exhausted count start available := by
  induction count generalizing start available with
  | zero => rfl
  | succ count ih =>
      have hrest : ∀ available : List α,
          takeByDigest digestAt' exhausted count (start + 1) available =
            takeByDigest digestAt exhausted count (start + 1) available := fun available =>
        ih fun step hstart hend => h step (by omega) (by omega)
      simp only [takeByDigest, h start le_rfl (by omega), hrest]

variable {digest sha256 : String → Digest} {seed : HexString} {userId : Nat} {clientNonce : String}

theorem drawnNumbers_eq :
    (drawQuickEightNumbers digest seed userId clientNonce).map QuickEightDraw.drawnNumbers =
      (takeByDigest (fun step => digest (stepInput seed userId clientNonce step))
        (.internalInvariant "Failed to draw quick eight number.") quickEightDrawCount 0
        ((List.range quickEightBoardSize).map (· + 1))).map fun drawn => drawn.1.mergeSort := by
  unfold drawQuickEightNumbers
  cases takeByDigest (fun step => digest (stepInput seed userId clientNonce step)) _ _ _ _ with
  | error e => rfl
  | ok drawn => rfl

theorem deck_eq :
    (drawBlackjackDeck digest seed userId clientNonce).map BlackjackDeck.deck =
      (takeByDigest (fun step => digest (stepInput seed userId clientNonce step))
        (.internalInvariant "Failed to shuffle blackjack deck.") 52 0 createStandardDeck).map
          Prod.fst := by
  unfold drawBlackjackDeck
  cases takeByDigest (fun step => digest (stepInput seed userId clientNonce step)) _ _ _ _ with
  | error e => rfl
  | ok drawn => rfl

theorem computedFrom_inputs {play : Play} (hfollows : play.Follows sha256) :
    play.ComputedFrom sha256 play.inputs := by
  intro digest hagree
  unfold Play.Follows at hfollows ⊢
  unfold Play.inputs at hagree
  cases houtcome : play.outcome with
  | quickEight selected drawnNumbers matched =>
      simp only [houtcome, Outcome.hashing, List.mem_map, List.mem_range] at hfollows hagree ⊢
      rw [drawnNumbers_eq] at hfollows ⊢
      rw [← hfollows]
      congr 1
      exact takeByDigest_congr fun step _ hstep => hagree _ ⟨step, by omega, rfl⟩
  | blackjack gameId deck =>
      simp only [houtcome, Outcome.hashing, List.mem_map, List.mem_range] at hfollows hagree ⊢
      rw [deck_eq] at hfollows ⊢
      rw [← hfollows]
      congr 1
      exact takeByDigest_congr fun step _ hstep => hagree _ ⟨step, by omega, rfl⟩
  | draw selection =>
      cases selection with
      | none => trivial
      | some selection =>
          simp only [houtcome, Outcome.hashing, List.mem_singleton] at hfollows hagree ⊢
          rw [← hfollows]
          simp only [deriveRandomPick, hagree _ rfl]

end Computed

section Reuse

variable {earlier later : Play}

theorem hashing_steps_pos {outcome : Outcome} {count : Nat} (h : outcome.hashing = .steps count) :
    0 < count := by
  unfold Outcome.hashing at h
  split at h
  · obtain rfl := Hashing.steps.inj h
    decide
  · obtain rfl := Hashing.steps.inj h
    decide
  · cases h
  · cases h

theorem mem_inputs {play : Play} {input : String} :
    input ∈ play.inputs ↔
      match play.outcome.hashing with
      | .none => False
      | .steps count =>
          ∃ step < count, pickInput play.fairness.seed.seed play.nonceWithUser step = input
      | .weight totalWeight =>
          input = pickInput play.fairness.seed.seed play.fairness.clientNonce totalWeight := by
  unfold Play.inputs Play.nonceWithUser
  cases play.outcome.hashing with
  | none => simp
  | steps count => simp [stepInput_eq_pickInput]
  | weight totalWeight => simp

theorem reuses_iff : Reuses earlier later ↔ SharesInput earlier later := by
  unfold Reuses SharesInput
  simp only [mem_inputs]
  cases hearlier : earlier.outcome.hashing with
  | none => simp
  | steps count =>
      have hcount := hashing_steps_pos hearlier
      cases hlater : later.outcome.hashing with
      | none => simp
      | steps count' =>
          have hcount' := hashing_steps_pos hlater
          constructor
          · rintro ⟨_, ⟨step, _, rfl⟩, step', _, hinput⟩
            obtain ⟨hseed, hnonce, _⟩ := pickInput_inj.mp hinput
            obtain ⟨huser, hnonce⟩ := nonceWithUser_inj.mp hnonce
            exact ⟨hseed.symm, huser.symm, hnonce.symm⟩
          · rintro ⟨hseed, huser, hnonce⟩
            have hsame : earlier.nonceWithUser = later.nonceWithUser :=
              nonceWithUser_inj.mpr ⟨huser, hnonce⟩
            refine ⟨_, ⟨0, hcount, rfl⟩, 0, hcount', ?_⟩
            rw [hseed, hsame]
      | weight totalWeight =>
          constructor
          · rintro ⟨_, ⟨step, hstep, rfl⟩, hinput⟩
            obtain ⟨hseed, hnonce, rfl⟩ := pickInput_inj.mp hinput
            exact ⟨hseed, hnonce.symm, hstep⟩
          · rintro ⟨hseed, hnonce, hweight⟩
            refine ⟨_, ⟨totalWeight, hweight, rfl⟩, ?_⟩
            rw [hseed, hnonce]
  | weight totalWeight =>
      cases hlater : later.outcome.hashing with
      | none => simp
      | steps count =>
          constructor
          · rintro ⟨_, rfl, step, hstep, hinput⟩
            obtain ⟨hseed, hnonce, rfl⟩ := pickInput_inj.mp hinput
            exact ⟨hseed.symm, hnonce.symm, hstep⟩
          · rintro ⟨hseed, hnonce, hweight⟩
            refine ⟨_, rfl, totalWeight, hweight, ?_⟩
            rw [hseed, hnonce]
      | weight totalWeight' =>
          constructor
          · rintro ⟨_, rfl, hinput⟩
            exact pickInput_inj.mp hinput
          · rintro hsame
            exact ⟨_, rfl, pickInput_inj.mpr hsame⟩

end Reuse

section Runs

variable {sha256 : String → Digest} {config : PoolSystemConfig} {state t : FairState}
  {events : List (Event FairState Call)}

end Runs

section Example

instance (earlier later : Play) : Decidable (Reuses earlier later) :=
  inferInstanceAs (Decidable (∃ input ∈ earlier.inputs, input ∈ later.inputs))

/-- A stand-in for the hash that a run can be evaluated with. -/
def digestOfLength (text : String) : Digest :=
  { hex := toString text.length
    readUInt32BE := text.length }

def seedBytes : HexString :=
  ⟨"5eed", by decide⟩

def nonceBytes : HexString :=
  ⟨"0ce", by decide⟩

def noPlays : FairState :=
  { clock := 0
    seeds := []
    blackjack := poolOf 10000
    plays := [] }

def playLucky : Call :=
  { elapsed := 1000
    operation := .quickEight ⟨1, [1, 2, 3, 4, 5, 6, 7, 8], some "lucky", .ok ()⟩
      ⟨seedBytes, nonceBytes⟩ }

def drawWith (clientNonce : String) : Call :=
  { elapsed := 1000
    operation := .draw ⟨2, some clientNonce, [⟨7, 2⟩, ⟨-1, 3⟩], .ok ()⟩ none
      ⟨seedBytes, nonceBytes⟩ }

def startBlackjackWith (clientNonce : String) (elapsed : Nat) : Call :=
  { elapsed := elapsed
    operation := .startBlackjack
      ⟨⟨1, .finite 10, 1, none, blackjackConfig, []⟩, some clientNonce, openChecks⟩ none
      ⟨seedBytes, nonceBytes⟩ }

end Example

end RewardSystem.Fairness
