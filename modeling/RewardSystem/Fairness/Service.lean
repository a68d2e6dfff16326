import RewardSystem.Blackjack.Service
import RewardSystem.Lib.Runs
import RewardSystem.Shared.Text

/-!
# Fairness seeds and the plays that use them

Every fairness epoch has a seed, which is committed to by its hash and revealed once the epoch is
over. Quick eight, blackjack and the draws hash it together with a nonce that the client may choose.
Hashes and random bytes are inputs; times are in milliseconds.
-/

namespace RewardSystem.Fairness

open Blackjack

/-- Random bytes in hexadecimal digits. -/
structure HexString where
  value : String
  noColon : ':' ∉ value.toList

instance : DecidableEq HexString := fun a b =>
  decidable_of_iff (a.value = b.value) (by cases a; cases b; simp)

/-- The digest of a text, in hexadecimal digits and as its first four bytes. -/
structure Digest where
  hex : String
  readUInt32BE : Nat

/-! ## Seeds -/

/-- A row of `fairness_seeds`. -/
structure FairnessSeed where
  epoch : Int
  epochSeconds : Int
  commitHash : String
  seed : HexString
  revealedAt : Option Int
  deriving DecidableEq

/-- The unique index of `fairness_seeds`. -/
abbrev FairnessSeed.key (row : FairnessSeed) : Int × Int :=
  (row.epoch, row.epochSeconds)

def defaultEpochSeconds : Int := 3600

def resolveEpochSeconds (epochSeconds : Option Int) : Int :=
  match epochSeconds with
  | some seconds => if 0 < seconds then seconds else defaultEpochSeconds
  | none => defaultEpochSeconds

def currentEpoch (epochSeconds now : Int) : Int :=
  now / (epochSeconds * 1000)

def loadFairnessSeed (seeds : List FairnessSeed) (epoch epochSeconds : Int) : Option FairnessSeed :=
  Keyed.lookup FairnessSeed.key (epoch, epochSeconds) seeds

section Seeds

variable (sha256 : String → Digest)

def ensureFairnessSeed (seeds : List FairnessSeed) (epochSeconds : Option Int)
    (randomSeed : HexString) (now : Int) : List FairnessSeed × FairnessSeed :=
  let seconds := resolveEpochSeconds epochSeconds
  let epoch := currentEpoch seconds now
  match loadFairnessSeed seeds epoch seconds with
  | some existing => (seeds, existing)
  | none =>
      let created :=
        { epoch := epoch
          epochSeconds := seconds
          commitHash := (sha256 randomSeed.value).hex
          seed := randomSeed
          revealedAt := none }
      (seeds ++ [created], created)

/-- The seeds, and the row that is revealed, if any. -/
def revealFairnessSeed (seeds : List FairnessSeed) (epoch : Int) (epochSeconds : Option Int)
    (now : Int) : List FairnessSeed × Option FairnessSeed :=
  let seconds := resolveEpochSeconds epochSeconds
  if epoch < 0 then (seeds, none)
  else if currentEpoch seconds now ≤ epoch then (seeds, none)
  else
    match loadFairnessSeed seeds epoch seconds with
    | none => (seeds, none)
    | some existing =>
        let revealed := { existing with revealedAt := some (existing.revealedAt.getD now) }
        (Keyed.modify FairnessSeed.key existing.key (fun _ => revealed) seeds, some revealed)

/-! ## Nonces and outcomes -/

inductive NonceSource where
  | client
  | server
  deriving DecidableEq, Repr

def resolveClientNonce (value : Option String) (randomNonce : HexString) : String × NonceSource :=
  let rawNonce := (value.map trim).getD ""
  if rawNonce = "" then (randomNonce.value, .server) else (rawNonce, .client)

/-- `${seed}:${userId}:${clientNonce}:${step}` -/
def stepInput (seed : HexString) (userId : Nat) (clientNonce : String) (step : Nat) : String :=
  seed.value ++ ":" ++ toString userId ++ ":" ++ clientNonce ++ ":" ++ toString step

/-- `${seed}:${clientNonce}:${totalWeight}` -/
def pickInput (seed : HexString) (clientNonce : String) (totalWeight : Nat) : String :=
  seed.value ++ ":" ++ clientNonce ++ ":" ++ toString totalWeight

/-- `count` times, from `step` on, an item is taken out at the place that the digest gives. -/
def takeByDigest {α : Type} (digestAt : Nat → Digest) (exhausted : ApiError) :
    Nat → Nat → List α → Except ApiError (List α × List String)
  | 0, _, _ => .ok ([], [])
  | count + 1, step, available =>
      let digest := digestAt step
      let nextIndex := digest.readUInt32BE % available.length
      match available[nextIndex]? with
      | none => .error exhausted
      | some picked => do
          let (items, digests) ←
            takeByDigest digestAt exhausted count (step + 1) (available.eraseIdx nextIndex)
          .ok (picked :: items, digest.hex :: digests)

def rngDigest (digests : List String) : String :=
  (sha256 (String.intercalate ":" digests)).hex

def quickEightBoardSize : Nat := 80

def quickEightDrawCount : Nat := 20

structure QuickEightDraw where
  drawnNumbers : List Nat
  rngDigest : String

def drawQuickEightNumbers (seed : HexString) (userId : Nat) (clientNonce : String) :
    Except ApiError QuickEightDraw := do
  let (numbers, digests) ← takeByDigest (fun step => sha256 (stepInput seed userId clientNonce step))
    (.internalInvariant "Failed to draw quick eight number.") quickEightDrawCount 0
    ((List.range quickEightBoardSize).map (· + 1))
  .ok ⟨numbers.mergeSort, rngDigest sha256 digests⟩

def createStandardDeck : List BlackjackCard :=
  [Suit.spades, .hearts, .diamonds, .clubs].flatMap fun suit =>
    [Rank.ace, .two, .three, .four, .five, .six, .seven, .eight, .nine, .ten, .jack, .queen,
      .king].map fun rank => ⟨rank, suit⟩

structure BlackjackDeck where
  deck : List BlackjackCard
  rngDigest : String

def drawBlackjackDeck (seed : HexString) (userId : Nat) (clientNonce : String) :
    Except ApiError BlackjackDeck := do
  let (deck, digests) ← takeByDigest (fun step => sha256 (stepInput seed userId clientNonce step))
    (.internalInvariant "Failed to shuffle blackjack deck.") 52 0 createStandardDeck
  .ok ⟨deck, rngDigest sha256 digests⟩

structure RandomPick where
  pick : Nat
  digest : String

def deriveRandomPick (totalWeight : Nat) (seed : HexString) (clientNonce : String) : RandomPick :=
  let hash := sha256 (pickInput seed clientNonce totalWeight)
  ⟨hash.readUInt32BE % totalWeight + 1, hash.hex⟩

/-- A prize, or the miss, with its weight. -/
structure WeightedCandidate where
  id : Int
  weight : Nat
  deriving DecidableEq, Repr

structure WeightedPick where
  item : WeightedCandidate
  randomPick : Nat
  totalWeight : Nat
  deriving DecidableEq, Repr

/-- The first candidate whose weights, added up, reach the pick. -/
def candidateAt (pick : Nat) : Nat → List WeightedCandidate → Option WeightedCandidate
  | _, [] => none
  | cursor, item :: items =>
      if pick ≤ cursor + item.weight then some item
      else candidateAt pick (cursor + item.weight) items

def pickByWeight (items : List WeightedCandidate) (rng : Nat → Nat) : Option WeightedPick :=
  let totalWeight := (items.map WeightedCandidate.weight).sum
  if totalWeight = 0 then none
  else
    let pick := rng totalWeight
    ((candidateAt pick 0 items).or items.getLast?).map fun item => ⟨item, pick, totalWeight⟩

end Seeds

/-! ## Plays -/

structure PlayFairness where
  seed : FairnessSeed
  clientNonce : String
  nonceSource : NonceSource
  deriving DecidableEq

inductive Outcome where
  | quickEight (selectedNumbers drawnNumbers matchedNumbers : List Nat)
  | blackjack (gameId : Nat) (deck : List BlackjackCard)
  | draw (selection : Option WeightedPick)
  deriving DecidableEq

/-- An accepted play, as it is stored and shown. -/
structure Play where
  userId : Nat
  playedAt : Int
  fairness : PlayFairness
  outcome : Outcome
  deriving DecidableEq

structure FairState where
  clock : Int
  seeds : List FairnessSeed
  blackjack : BlackjackStore
  plays : List Play

structure RandomBytes where
  seed : HexString
  nonce : HexString

/-- `admitted` is the answer of the checks on the user, the stake, the wallet and the pool. -/
structure QuickEightRequest where
  userId : Nat
  numbers : List Nat
  clientNonce : Option String
  admitted : Except ApiError Unit

/-- `candidates` are the prizes and the miss with their final weights. -/
structure DrawRequest where
  userId : Nat
  clientNonce : Option String
  candidates : List WeightedCandidate
  admitted : Except ApiError Unit

/-- The deck of `start` is not read, as the game gets a new one. -/
structure BlackjackRequest where
  start : StartRequest
  clientNonce : Option String
  checks : SurroundingChecks

inductive Operation where
  | commit (epochSeconds : Option Int) (random : RandomBytes)
  | quickEight (request : QuickEightRequest) (random : RandomBytes)
  | draw (request : DrawRequest) (epochSeconds : Option Int) (random : RandomBytes)
  | startBlackjack (request : BlackjackRequest) (epochSeconds : Option Int) (random : RandomBytes)
  | actOnBlackjack (checks : SurroundingChecks) (userId gameId : Nat) (action : BlackjackAction)
  | expireBlackjackTurn (userId : Nat)
  | reveal (epoch : Int) (epochSeconds : Option Int)

/-- An operation, and the time since the one before it. -/
structure Call where
  elapsed : Nat
  operation : Operation

section Calls

variable (sha256 : String → Digest) (config : PoolSystemConfig)

def FairState.shown (state : FairState) (seeds : List FairnessSeed) (play : Play) : FairState :=
  { state with seeds := seeds, plays := state.plays ++ [play] }

def playQuickEight (state : FairState) (request : QuickEightRequest) (random : RandomBytes) :
    Except ApiError FairState := do
  request.admitted
  let (clientNonce, nonceSource) := resolveClientNonce request.clientNonce random.nonce
  let (seeds, seed) := ensureFairnessSeed sha256 state.seeds none random.seed state.clock
  let drawn ← drawQuickEightNumbers sha256 seed.seed request.userId clientNonce
  let selectedNumbers := request.numbers.mergeSort
  let matchedNumbers := selectedNumbers.filter fun number => number ∈ drawn.drawnNumbers
  .ok (state.shown seeds
    { userId := request.userId
      playedAt := state.clock
      fairness := ⟨seed, clientNonce, nonceSource⟩
      outcome := .quickEight selectedNumbers drawn.drawnNumbers matchedNumbers })

def executeDraw (state : FairState) (request : DrawRequest) (epochSeconds : Option Int)
    (random : RandomBytes) : Except ApiError FairState := do
  request.admitted
  let (seeds, seed) := ensureFairnessSeed sha256 state.seeds epochSeconds random.seed state.clock
  let (clientNonce, nonceSource) := resolveClientNonce request.clientNonce random.nonce
  let selection := pickByWeight request.candidates fun totalWeight =>
    (deriveRandomPick sha256 totalWeight seed.seed clientNonce).pick
  .ok (state.shown seeds
    { userId := request.userId
      playedAt := state.clock
      fairness := ⟨seed, clientNonce, nonceSource⟩
      outcome := .draw selection })

def startBlackjack (state : FairState) (request : BlackjackRequest) (epochSeconds : Option Int)
    (random : RandomBytes) : Except ApiError FairState := do
  let (seeds, seed) := ensureFairnessSeed sha256 state.seeds epochSeconds random.seed state.clock
  let (clientNonce, nonceSource) := resolveClientNonce request.clientNonce random.nonce
  let drawn ← drawBlackjackDeck sha256 seed.seed request.start.userId clientNonce
  let blackjack ← startResolvedBlackjack config request.checks state.blackjack
    { request.start with deck := drawn.deck } state.clock
  .ok ({ state with blackjack := blackjack }.shown seeds
    { userId := request.start.userId
      playedAt := state.clock
      fairness := ⟨seed, clientNonce, nonceSource⟩
      outcome := .blackjack state.blackjack.nextGameId drawn.deck })

def perform (state : FairState) : Operation → Except ApiError FairState
  | .commit epochSeconds random =>
      .ok
        { state with
          seeds := (ensureFairnessSeed sha256 state.seeds epochSeconds random.seed state.clock).1 }
  | .quickEight request random => playQuickEight sha256 state request random
  | .draw request epochSeconds random => executeDraw sha256 state request epochSeconds random
  | .startBlackjack request epochSeconds random =>
      startBlackjack sha256 config state request epochSeconds random
  | .actOnBlackjack checks userId gameId action => do
      let blackjack ← actOnBlackjack config checks state.blackjack userId gameId action state.clock
      .ok { state with blackjack := blackjack }
  | .expireBlackjackTurn userId => do
      let blackjack ←
        processExpiredBlackjackTurnForUser config state.blackjack userId state.clock
      .ok { state with blackjack := blackjack }
  | .reveal epoch epochSeconds =>
      .ok
        { state with
          seeds := (revealFairnessSeed state.seeds epoch epochSeconds state.clock).1 }

/-- The clock after the call has waited. -/
def FairState.after (state : FairState) (elapsed : Nat) : FairState :=
  { state with clock := state.clock + elapsed }

def step (state : FairState) (call : Call) : Except ApiError FairState :=
  perform sha256 config (state.after call.elapsed) call.operation

end Calls

end RewardSystem.Fairness
