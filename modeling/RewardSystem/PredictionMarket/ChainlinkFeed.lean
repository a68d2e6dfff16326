import Mathlib.Data.Nat.Digits.Defs
import Mathlib.Order.Compare
import RewardSystem.Lib.DecimalText
import RewardSystem.Lib.HexText
import RewardSystem.Shared.Money
import RewardSystem.Shared.Text

/-!
# Chainlink feeds

A market may be resolved by the last answer of a price feed. The feed is read by two calls of an
Ethereum node, and the answer is compared with a threshold as decimal text. Times are in
milliseconds.
-/

namespace RewardSystem.PredictionMarket

/-! ## Words -/

/-- The characters that a `.` of a regular expression does not match. -/
def isLineTerminator (c : Char) : Bool :=
  c.toNat ∈ [0xA, 0xD, 0x2028, 0x2029]

/-- `match(/.{64}/g)`, where the characters of `pending` are those matched so far. -/
def matchWords (pending : List Char) : List Char → List (List Char)
  | [] => []
  | c :: text =>
      if isLineTerminator c then matchWords [] text
      else if pending.length + 1 = 64 then (pending ++ [c]) :: matchWords [] text
      else matchWords (pending ++ [c]) text

def parseWords (hex : List Char) : Except String (List (List Char)) :=
  let normalized :=
    match hex with
    | '0' :: 'x' :: digits => digits
    | digits => digits
  if normalized.length = 0 ∨ normalized.length % 64 ≠ 0 then
    .error "Oracle RPC returned malformed ABI data."
  else .ok (matchWords [] normalized)

/-- The number of a text of hexadecimal digits, the most significant one first. -/
def hexValue (digits : List Char) : Option Nat :=
  (digits.mapM HexText.digitValue).map fun values => Nat.ofDigits 16 values.reverse

/-- `BigInt` does not look at whitespace behind the digits. -/
def decodeUintWord (word : List Char) : Except String Nat :=
  match (word.reverse.dropWhile isJsWhitespace).reverse with
  | [] => .error "Cannot convert to a BigInt"
  | digits => (hexValue digits).elim (.error "Cannot convert to a BigInt") .ok

def decodeIntWord (word : List Char) : Except String Int := do
  let unsigned ← decodeUintWord word
  return if 2 ^ 255 ≤ unsigned then (unsigned : Int) - 2 ^ 256 else unsigned

/-! ## Decimal text -/

def padStart (text : String) (maxLength : Nat) (fill : Char) : String :=
  String.ofList (text.toList.leftpad maxLength fill)

def formatSignedFixed (value : Int) (decimals : Nat) : String :=
  let negative := value < 0
  let absolute := value.natAbs
  let scale := 10 ^ decimals
  let whole := absolute / scale
  let fraction := absolute % scale
  let fractionString :=
    if decimals = 0 then "" else "." ++ padStart (toString fraction) decimals '0'
  (if negative then "-" else "") ++ toString whole ++ fractionString

/-- The library of decimal numbers: a text that it does not know is refused, and a text of a sign,
digits and the digits of a fraction is read without any rounding. -/
structure DecimalReader where
  toDecimal : String → Except String (Decimal ℚ)
  toDecimal_text : ∀ text value, DecimalText.read text.toList = some value →
    toDecimal text = .ok (.finite value)

/-- The comparison of two decimals, if they have one. -/
def cmpDecimal : Decimal ℚ → Decimal ℚ → Option Ordering
  | .nan, _ | _, .nan => none
  | .finite x, .finite y => some (cmp x y)
  | .infinity, .infinity | .negInfinity, .negInfinity => some .eq
  | .infinity, _ | _, .negInfinity => some .gt
  | .negInfinity, _ | _, .infinity => some .lt

inductive NumericOperator where
  | gt | gte | lt | lte | eq | neq
  deriving DecidableEq

structure NumericComparison where
  operator : NumericOperator
  threshold : String
  outcomeKeyIfTrue : String
  outcomeKeyIfFalse : String

def evaluateNumericComparison (reader : DecimalReader) (comparison : NumericComparison)
    (value : String) : Except String String := do
  let observed ← reader.toDecimal value
  let threshold ← reader.toDecimal comparison.threshold
  let order := cmpDecimal observed threshold
  let met : Bool :=
    match comparison.operator with
    | .gt => order = some .gt
    | .gte => order = some .gt ∨ order = some .eq
    | .lt => order = some .lt
    | .lte => order = some .lt ∨ order = some .eq
    | .eq => order = some .eq
    | .neq => order ≠ some .eq
  return if met then comparison.outcomeKeyIfTrue else comparison.outcomeKeyIfFalse

/-! ## The evaluation of a feed -/

structure RoundData where
  roundId : Nat
  answer : Int
  startedAt : Nat
  updatedAt : Nat
  answeredInRound : Nat
  deriving DecidableEq

def decodeChainlinkRoundData (hex : List Char) : Except String RoundData := do
  let words ← parseWords hex
  if words.length < 5 then
    throw "Chainlink latestRoundData returned too few words."
  return {
    roundId := ← decodeUintWord (words.getD 0 ['0'])
    answer := ← decodeIntWord (words.getD 1 ['0'])
    startedAt := ← decodeUintWord (words.getD 2 ['0'])
    updatedAt := ← decodeUintWord (words.getD 3 ['0'])
    answeredInRound := ← decodeUintWord (words.getD 4 ['0']) }

structure MarketSnapshot where
  id : Nat
  slug : String

structure ChainlinkConfig where
  network : String
  feedAddress : String
  decimals : Option Nat
  maxAgeSeconds : Option Nat
  comparison : NumericComparison

structure ChainlinkPayload where
  network : String
  feedAddress : String
  decimals : Nat
  roundId : String
  answer : String
  rawAnswer : String
  startedAt : Option String
  updatedAt : Option String
  answeredInRound : String
  deriving DecidableEq

structure AppealMetadata where
  marketId : Nat
  marketSlug : String
  bindingId : Nat
  maxAgeSeconds : Option Nat
  deriving DecidableEq

inductive ChainlinkEvaluation where
  | appeal (reason title description : String) (payload : ChainlinkPayload)
      (reportedAt : Option Nat) (metadata : AppealMetadata)
  | resolved (winningOutcomeKey externalRef : String) (payload : ChainlinkPayload)
      (reportedAt : Nat)
  deriving DecidableEq

def CHAINLINK_DECIMALS_SELECTOR := "0x313ce567"
def CHAINLINK_LATEST_ROUND_DATA_SELECTOR := "0xfeaf968c"

/-- The time of a word of seconds; the text of a time is refused beyond the last valid date. -/
def isoOfSeconds (toISOString : Nat → String) (seconds : Nat) : Except String (Option String) :=
  if seconds = 0 then .ok none
  else if seconds * 1000 ≤ 8640000000000000 then .ok (some (toISOString (seconds * 1000)))
  else .error "Invalid time value"

section Evaluation

variable (reader : DecimalReader) (toISOString : Nat → String)
  (ethCall : String → Except String (List Char)) (now : Nat) (market : MarketSnapshot)
  (bindingId : Nat) (config : ChainlinkConfig)

def feedDecimals : Except String Nat :=
  match config.decimals with
  | some decimals => .ok decimals
  | none => do
      let words ← parseWords (← ethCall CHAINLINK_DECIMALS_SELECTOR)
      decodeUintWord (words.getD 0 ['0'])

def evaluateChainlinkOracle : Except String ChainlinkEvaluation := do
  let decimals ← feedDecimals ethCall config
  let roundData ← decodeChainlinkRoundData (← ethCall CHAINLINK_LATEST_ROUND_DATA_SELECTOR)
  let normalizedValue := formatSignedFixed roundData.answer decimals
  let startedAt ← isoOfSeconds toISOString roundData.startedAt
  let updatedAt ← isoOfSeconds toISOString roundData.updatedAt
  let payload : ChainlinkPayload :=
    { network := config.network
      feedAddress := config.feedAddress
      decimals
      roundId := toString roundData.roundId
      answer := normalizedValue
      rawAnswer := toString roundData.answer
      startedAt
      updatedAt
      answeredInRound := toString roundData.answeredInRound }
  if roundData.updatedAt = 0 then
    return .appeal "oracle_response_invalid"
      "Chainlink oracle response did not provide an updated timestamp."
      ("Feed " ++ config.feedAddress ++ " on " ++ config.network ++ " returned updatedAt=0.")
      payload none ⟨market.id, market.slug, bindingId, none⟩
  let reportedAt := roundData.updatedAt * 1000
  if config.maxAgeSeconds.any fun maxAgeSeconds =>
      maxAgeSeconds ≠ 0 ∧ (maxAgeSeconds * 1000 : Int) < now - reportedAt then
    return .appeal "oracle_value_stale"
      "Chainlink oracle data is older than the allowed freshness window."
      ("Feed " ++ config.feedAddress ++ " on " ++ config.network ++ " last updated at " ++
        toISOString reportedAt ++ ".")
      payload (some reportedAt) ⟨market.id, market.slug, bindingId, config.maxAgeSeconds⟩
  let winningOutcomeKey ← evaluateNumericComparison reader config.comparison normalizedValue
  return .resolved winningOutcomeKey (config.network ++ ":" ++ config.feedAddress) payload
    reportedAt

end Evaluation

end RewardSystem.PredictionMarket
