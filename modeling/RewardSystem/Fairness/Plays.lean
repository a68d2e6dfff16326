import RewardSystem.Blackjack.Coverage
import RewardSystem.Fairness.Service

/-!
# What a call does to the seeds and the plays

A play is stored with the seed of the epoch in which it is played. A seed that is stored is never
replaced by another one.
-/

namespace RewardSystem.Fairness

open Blackjack Transition

/-- What identifies a stored seed, whether it has been revealed or not. -/
def FairnessSeed.committed (row : FairnessSeed) : (Int × Int) × HexString :=
  (row.key, row.seed)

def Play.Follows (digest : String → Digest) (play : Play) : Prop :=
  match play.outcome with
  | .quickEight _ drawnNumbers _ =>
      (drawQuickEightNumbers digest play.fairness.seed.seed play.userId
        play.fairness.clientNonce).map QuickEightDraw.drawnNumbers = .ok drawnNumbers
  | .blackjack _ deck =>
      (drawBlackjackDeck digest play.fairness.seed.seed play.userId
        play.fairness.clientNonce).map BlackjackDeck.deck = .ok deck
  | .draw none => True
  | .draw (some selection) =>
      (deriveRandomPick digest selection.totalWeight play.fairness.seed.seed
        play.fairness.clientNonce).pick = selection.randomPick

/-- The seeds and the plays after a call, at the time `now`. -/
inductive Does (sha256 : String → Digest) (now : Int) (state after : FairState) : Prop
  | kept (hseeds : after.seeds = state.seeds) (hplays : after.plays = state.plays)
  | committed (epochSeconds : Option Int) (random : HexString)
      (hseeds : after.seeds = (ensureFairnessSeed sha256 state.seeds epochSeconds random now).1)
      (hplays : after.plays = state.plays)
  | played (epochSeconds : Option Int) (random : HexString) (play : Play)
      (hseeds : after.seeds = (ensureFairnessSeed sha256 state.seeds epochSeconds random now).1)
      (hseed : play.fairness.seed =
        (ensureFairnessSeed sha256 state.seeds epochSeconds random now).2)
      (hplayedAt : play.playedAt = now) (hfollows : play.Follows sha256)
      (hplays : after.plays = state.plays ++ [play])
  | revealed (epoch : Int) (epochSeconds : Option Int)
      (hseeds : after.seeds = (revealFairnessSeed state.seeds epoch epochSeconds now).1)
      (hplays : after.plays = state.plays)

section Seeds

variable {sha256 : String → Digest} {seeds : List FairnessSeed} {epochSeconds : Option Int}
  {random : HexString} {epoch now : Int}

theorem resolveEpochSeconds_pos (epochSeconds : Option Int) :
    0 < resolveEpochSeconds epochSeconds := by
  unfold resolveEpochSeconds defaultEpochSeconds
  split
  · split <;> omega
  · omega

theorem ensureFairnessSeed_key :
    (ensureFairnessSeed sha256 seeds epochSeconds random now).2.key =
      (currentEpoch (resolveEpochSeconds epochSeconds) now, resolveEpochSeconds epochSeconds) := by
  unfold ensureFairnessSeed
  dsimp only
  split
  · rename_i existing hexisting
    exact Keyed.key_of_lookup hexisting
  · rfl

theorem ensureFairnessSeed_mem :
    (ensureFairnessSeed sha256 seeds epochSeconds random now).2 ∈
      (ensureFairnessSeed sha256 seeds epochSeconds random now).1 := by
  unfold ensureFairnessSeed
  dsimp only
  split
  · rename_i existing hexisting
    exact Keyed.mem_of_lookup hexisting
  · simp

theorem subset_ensureFairnessSeed :
    seeds ⊆ (ensureFairnessSeed sha256 seeds epochSeconds random now).1 := by
  unfold ensureFairnessSeed
  dsimp only
  split
  · exact fun row hrow => hrow
  · exact List.subset_append_left seeds _

theorem hasKeys_ensureFairnessSeed (hkeys : Keyed.HasKeys FairnessSeed.key seeds) :
    Keyed.HasKeys FairnessSeed.key
      (ensureFairnessSeed sha256 seeds epochSeconds random now).1 := by
  unfold ensureFairnessSeed
  dsimp only
  split
  · exact hkeys
  · rename_i hnone
    exact Keyed.hasKeys_append hkeys hnone

theorem revealFairnessSeed_spec {row : FairnessSeed}
    (h : (revealFairnessSeed seeds epoch epochSeconds now).2 = some row) :
    row.key = (epoch, resolveEpochSeconds epochSeconds) ∧
      epoch < currentEpoch (resolveEpochSeconds epochSeconds) now ∧
      row.committed ∈ seeds.map FairnessSeed.committed := by
  unfold revealFairnessSeed at h
  dsimp only at h
  split at h
  · cases h
  · split at h
    · cases h
    · rename_i hover
      split at h
      · cases h
      · rename_i existing hexisting
        obtain rfl := Option.some.inj h
        have hkey : existing.key = (epoch, resolveEpochSeconds epochSeconds) :=
          Keyed.key_of_lookup hexisting
        refine ⟨hkey, by omega, ?_⟩
        exact List.mem_map.mpr ⟨existing, Keyed.mem_of_lookup hexisting, rfl⟩

theorem revealFairnessSeed_committed (hkeys : Keyed.HasKeys FairnessSeed.key seeds) :
    (revealFairnessSeed seeds epoch epochSeconds now).1.map FairnessSeed.committed =
      seeds.map FairnessSeed.committed := by
  unfold revealFairnessSeed
  dsimp only
  split
  · rfl
  · split
    · rfl
    · split
      · rfl
      · rename_i existing hexisting
        simp only [Keyed.modify, List.map_map]
        refine List.map_congr_left fun row hrow => ?_
        by_cases hsame : row.key = existing.key
        · have hrow : row = existing := by
            have hlookup := Keyed.lookup_of_mem hkeys hrow
            rw [hsame, Keyed.lookup_of_mem hkeys (Keyed.mem_of_lookup hexisting)] at hlookup
            exact (Option.some.inj hlookup).symm
          simp [hrow, FairnessSeed.committed]
        · rw [Function.comp_apply, if_neg hsame]

theorem hasKeys_iff_committed :
    Keyed.HasKeys FairnessSeed.key seeds ↔
      ((seeds.map FairnessSeed.committed).map Prod.fst).Nodup := by
  rw [List.map_map]
  rfl

theorem hasKeys_revealFairnessSeed (hkeys : Keyed.HasKeys FairnessSeed.key seeds) :
    Keyed.HasKeys FairnessSeed.key (revealFairnessSeed seeds epoch epochSeconds now).1 := by
  rw [hasKeys_iff_committed, revealFairnessSeed_committed hkeys]
  exact hasKeys_iff_committed.mp hkeys

theorem committed_unique {row row' : FairnessSeed} (hkeys : Keyed.HasKeys FairnessSeed.key seeds)
    (hrow : row.committed ∈ seeds.map FairnessSeed.committed)
    (hrow' : row'.committed ∈ seeds.map FairnessSeed.committed) (hkey : row.key = row'.key) :
    row.seed = row'.seed := by
  obtain ⟨stored, hstored, hsame⟩ := List.mem_map.mp hrow
  obtain ⟨stored', hstored', hsame'⟩ := List.mem_map.mp hrow'
  obtain ⟨hstoredKey, hseed⟩ := Prod.mk.inj hsame
  obtain ⟨hstoredKey', hseed'⟩ := Prod.mk.inj hsame'
  have hlookup := Keyed.lookup_of_mem hkeys hstored
  have hlookup' := Keyed.lookup_of_mem hkeys hstored'
  rw [hstoredKey, hkey, ← hstoredKey', hlookup'] at hlookup
  obtain rfl := Option.some.inj hlookup
  rw [← hseed, ← hseed']

end Seeds

section Step

variable {sha256 : String → Digest} {config : PoolSystemConfig} {state after : FairState}

theorem does_quickEight {request : QuickEightRequest} {random : RandomBytes}
    (h : playQuickEight sha256 state request random = .ok after) :
    after.clock = state.clock ∧ Does sha256 state.clock state after := by
  obtain ⟨_, _, h⟩ := ApiError.bind_eq_ok.mp h
  obtain ⟨drawn, hdrawn, h⟩ := ApiError.bind_eq_ok.mp h
  obtain rfl := Except.ok.inj h
  refine ⟨rfl, .played none random.seed _ rfl rfl rfl ?_ rfl⟩
  change (drawQuickEightNumbers sha256 _ _ _).map QuickEightDraw.drawnNumbers = _
  rw [hdrawn]
  rfl

theorem deriveRandomPick_of_pickByWeight {items : List WeightedCandidate} {rng : Nat → Nat}
    {selection : WeightedPick} (h : pickByWeight items rng = some selection) :
    rng selection.totalWeight = selection.randomPick := by
  unfold pickByWeight at h
  dsimp only at h
  split at h
  · cases h
  · obtain ⟨item, _, rfl⟩ := Option.map_eq_some_iff.mp h
    rfl

theorem does_draw {request : DrawRequest} {epochSeconds : Option Int} {random : RandomBytes}
    (h : executeDraw sha256 state request epochSeconds random = .ok after) :
    after.clock = state.clock ∧ Does sha256 state.clock state after := by
  obtain ⟨_, _, h⟩ := ApiError.bind_eq_ok.mp h
  obtain rfl := Except.ok.inj h
  refine ⟨rfl, .played epochSeconds random.seed _ rfl rfl rfl ?_ rfl⟩
  unfold Play.Follows
  split
  · contradiction
  · contradiction
  · trivial
  · rename_i selection hselection
    exact deriveRandomPick_of_pickByWeight (Outcome.draw.inj hselection)

theorem does_startBlackjack {request : BlackjackRequest} {epochSeconds : Option Int}
    {random : RandomBytes}
    (h : startBlackjack sha256 config state request epochSeconds random = .ok after) :
    after.clock = state.clock ∧ Does sha256 state.clock state after := by
  obtain ⟨drawn, hdrawn, h⟩ := ApiError.bind_eq_ok.mp h
  obtain ⟨blackjack, _, h⟩ := ApiError.bind_eq_ok.mp h
  obtain rfl := Except.ok.inj h
  refine ⟨rfl, .played epochSeconds random.seed _ rfl rfl rfl ?_ rfl⟩
  change (drawBlackjackDeck sha256 _ _ _).map BlackjackDeck.deck = _
  rw [hdrawn]
  rfl

theorem does_perform {operation : Operation}
    (h : perform sha256 config state operation = .ok after) :
    after.clock = state.clock ∧ Does sha256 state.clock state after := by
  cases operation with
  | commit epochSeconds random =>
      obtain rfl := Except.ok.inj h
      exact ⟨rfl, .committed epochSeconds random.seed rfl rfl⟩
  | quickEight request random => exact does_quickEight h
  | draw request epochSeconds random => exact does_draw h
  | startBlackjack request epochSeconds random => exact does_startBlackjack h
  | actOnBlackjack checks userId gameId action =>
      obtain ⟨_, _, h⟩ := ApiError.bind_eq_ok.mp h
      obtain rfl := Except.ok.inj h
      exact ⟨rfl, .kept rfl rfl⟩
  | expireBlackjackTurn userId =>
      obtain ⟨_, _, h⟩ := ApiError.bind_eq_ok.mp h
      obtain rfl := Except.ok.inj h
      exact ⟨rfl, .kept rfl rfl⟩
  | reveal epoch epochSeconds =>
      obtain rfl := Except.ok.inj h
      exact ⟨rfl, .revealed epoch epochSeconds rfl rfl⟩

/-- **What a call does.** -/
theorem does_step {call : Call} (h : step sha256 config state call = .ok after) :
    after.clock = state.clock + call.elapsed ∧ Does sha256 after.clock state after := by
  obtain ⟨hclock, hdoes⟩ := does_perform h
  refine ⟨hclock, ?_⟩
  rw [hclock]
  cases hdoes with
  | kept hseeds hplays => exact .kept hseeds hplays
  | committed epochSeconds random hseeds hplays =>
      exact .committed epochSeconds random hseeds hplays
  | played epochSeconds random play hseeds hseed hplayedAt hfollows hplays =>
      exact .played epochSeconds random play hseeds hseed hplayedAt hfollows hplays
  | revealed epoch epochSeconds hseeds hplays =>
      exact .revealed epoch epochSeconds hseeds hplays

end Step

section Invariant

variable {sha256 : String → Digest} {config : PoolSystemConfig} {state after : FairState}

/-- A stored play: it has its outcome from the seed of the epoch in which it was played. -/
structure PlayedFairly (sha256 : String → Digest) (state : FairState) (play : Play) : Prop where
  stored : play.fairness.seed.committed ∈ state.seeds.map FairnessSeed.committed
  epoch : play.fairness.seed.epoch = currentEpoch play.fairness.seed.epochSeconds play.playedAt
  follows : play.Follows sha256

structure FairHistory (sha256 : String → Digest) (state : FairState) : Prop where
  keys : Keyed.HasKeys FairnessSeed.key state.seeds
  plays : ∀ play ∈ state.plays, PlayedFairly sha256 state play

theorem PlayedFairly.mono {play : Play} (h : PlayedFairly sha256 state play)
    (hseeds : state.seeds.map FairnessSeed.committed ⊆ after.seeds.map FairnessSeed.committed) :
    PlayedFairly sha256 after play :=
  { h with stored := hseeds h.stored }

theorem playedFairly_ensured {epochSeconds : Option Int} {random : HexString} {play : Play}
    {now : Int}
    (hseeds : after.seeds = (ensureFairnessSeed sha256 state.seeds epochSeconds random now).1)
    (hseed : play.fairness.seed =
      (ensureFairnessSeed sha256 state.seeds epochSeconds random now).2)
    (hplayedAt : play.playedAt = now) (hfollows : play.Follows sha256) :
    PlayedFairly sha256 after play := by
  constructor
  · rw [hseeds, hseed]
    exact List.mem_map_of_mem ensureFairnessSeed_mem
  · have hkey : play.fairness.seed.key =
        (currentEpoch (resolveEpochSeconds epochSeconds) now,
          resolveEpochSeconds epochSeconds) := by
      rw [hseed]
      exact ensureFairnessSeed_key
    obtain ⟨hepoch, hseconds⟩ := Prod.mk.inj hkey
    rw [hepoch, hseconds, hplayedAt]
  · exact hfollows

theorem fairHistory_step {call : Call} (hhistory : FairHistory sha256 state)
    (h : step sha256 config state call = .ok after) : FairHistory sha256 after := by
  have hmono : ∀ {seeds : List FairnessSeed}, after.seeds = seeds →
      state.seeds.map FairnessSeed.committed ⊆ seeds.map FairnessSeed.committed →
      ∀ play ∈ state.plays, PlayedFairly sha256 after play := by
    rintro seeds rfl hsubset play hplay
    exact (hhistory.plays play hplay).mono hsubset
  cases (does_step h).2 with
  | kept hseeds hplays =>
      constructor
      · rw [hseeds]
        exact hhistory.keys
      · rw [hplays]
        exact hmono hseeds fun row hrow => hrow
  | committed epochSeconds random hseeds hplays =>
      constructor
      · rw [hseeds]
        exact hasKeys_ensureFairnessSeed hhistory.keys
      · rw [hplays]
        exact hmono hseeds (List.map_subset _ subset_ensureFairnessSeed)
  | played epochSeconds random play hseeds hseed hplayedAt hfollows hplays =>
      constructor
      · rw [hseeds]
        exact hasKeys_ensureFairnessSeed hhistory.keys
      · rw [hplays]
        intro played hplayed
        rcases List.mem_append.mp hplayed with hplayed | hplayed
        · exact hmono hseeds (List.map_subset _ subset_ensureFairnessSeed) played hplayed
        · obtain rfl := List.mem_singleton.mp hplayed
          exact playedFairly_ensured hseeds hseed hplayedAt hfollows
  | revealed epoch epochSeconds hseeds hplays =>
      constructor
      · rw [hseeds]
        exact hasKeys_revealFairnessSeed hhistory.keys
      · rw [hplays]
        refine hmono hseeds ?_
        rw [revealFairnessSeed_committed hhistory.keys]
        exact fun row hrow => hrow

theorem fairHistory_of_run {events : List (Event FairState Call)}
    (hkeys : Keyed.HasKeys FairnessSeed.key state.seeds)
    (hplays : state.plays = [])
    (hrun : Run (Accepts (step sha256 config)) state events after) : FairHistory sha256 after := by
  have hstart : FairHistory sha256 state := ⟨hkeys, by simp [hplays]⟩
  exact hrun.invariant (fun _ _ _ hhistory hstep => fairHistory_step hhistory hstep) hstart

end Invariant

end RewardSystem.Fairness
