import Mathlib.Data.Rat.Floor
import Mathlib.Logic.Function.Basic

/-!
# The rate limiters

A limiter counts the calls of each key and refuses those above a limit until the window of the key
is over. Where there is no Redis the counts are kept in memory. Times are in milliseconds.
-/

namespace RewardSystem.RateLimit

/-- The options of `createRateLimiter`. -/
structure RateLimiterOptions where
  limit : ℚ
  windowMs : Int
  keyPrefix : Option String

structure RateLimitResult where
  allowed : Bool
  remaining : ℚ
  resetAt : Int
  limit : ℚ
  used : Nat
  windowMs : Int
  deriving DecidableEq

structure RateLimitSnapshot where
  remaining : ℚ
  resetAt : Option Int
  limit : ℚ
  used : Nat
  windowMs : Int
  deriving DecidableEq

namespace RateLimiterOptions

def resolveLimit (options : RateLimiterOptions) (overrideLimit : Option ℚ) : ℚ :=
  let parsed := ⌊overrideLimit.getD options.limit⌋
  if 0 ≤ parsed then parsed else options.limit

def resolveRedisKey (options : RateLimiterOptions) (rateLimitRedisPrefix key : String) : String :=
  let keyPrefix :=
    match options.keyPrefix with
    | none | some "" => rateLimitRedisPrefix
    | some name => rateLimitRedisPrefix ++ ":" ++ name
  keyPrefix ++ ":" ++ key

end RateLimiterOptions

/-! ## In memory -/

structure Bucket where
  count : Nat
  resetAt : Int

abbrev Buckets := String → Option Bucket

/-- The bucket of the key, unless its window is over. -/
def Buckets.existing (buckets : Buckets) (now : Int) (key : String) : Option Bucket :=
  (buckets key).filter fun bucket => now < bucket.resetAt

section InMemory

variable (options : RateLimiterOptions) (now : Int) (key : String) (overrideLimit : Option ℚ)

def consumeInMemory (buckets : Buckets) : RateLimitResult × Buckets :=
  let resolvedLimit := options.resolveLimit overrideLimit
  match buckets.existing now key with
  | none =>
      let resetAt := now + options.windowMs
      ({ allowed := true
         remaining := max (resolvedLimit - 1) 0
         resetAt := resetAt
         limit := resolvedLimit
         used := 1
         windowMs := options.windowMs },
        Function.update buckets key (some ⟨1, resetAt⟩))
  | some existing =>
      let nextCount := existing.count + 1
      ({ allowed := nextCount ≤ resolvedLimit
         remaining := max (resolvedLimit - nextCount) 0
         resetAt := existing.resetAt
         limit := resolvedLimit
         used := nextCount
         windowMs := options.windowMs },
        Function.update buckets key (some { existing with count := nextCount }))

/-- A bucket whose window is over is deleted. -/
def peekInMemory (buckets : Buckets) : RateLimitSnapshot × Buckets :=
  let resolvedLimit := options.resolveLimit overrideLimit
  match buckets.existing now key with
  | none =>
      ({ remaining := resolvedLimit
         resetAt := none
         limit := resolvedLimit
         used := 0
         windowMs := options.windowMs },
        Function.update buckets key none)
  | some existing =>
      ({ remaining := max (resolvedLimit - existing.count) 0
         resetAt := some existing.resetAt
         limit := resolvedLimit
         used := existing.count
         windowMs := options.windowMs },
        buckets)

end InMemory

/-! ## In Redis -/

/-- A counter in Redis, with the time from which it is gone. -/
structure RedisEntry where
  count : Nat
  expiresAt : Option Int

abbrev RedisStore := String → Option RedisEntry

namespace RedisStore

variable (store : RedisStore) (now : Int) (redisKey : String)

def find : Option RedisEntry :=
  (store redisKey).filter fun entry => entry.expiresAt.all fun expiresAt => now < expiresAt

def incr : Nat × RedisStore :=
  match store.find now redisKey with
  | none => (1, Function.update store redisKey (some ⟨1, none⟩))
  | some entry =>
      (entry.count + 1,
        Function.update store redisKey (some { entry with count := entry.count + 1 }))

/-- A time that is not positive deletes the key. -/
def pexpire (milliseconds : Int) : RedisStore :=
  match store.find now redisKey with
  | none => store
  | some entry =>
      Function.update store redisKey
        (if milliseconds ≤ 0 then none
        else some { entry with expiresAt := some (now + milliseconds) })

def pttl : Int :=
  match store.find now redisKey with
  | none => -2
  | some entry => entry.expiresAt.elim (-1) fun expiresAt => expiresAt - now

def get : Option Nat :=
  (store.find now redisKey).map RedisEntry.count

end RedisStore

section InRedis

variable (options : RateLimiterOptions) (rateLimitRedisPrefix : String) (now : Int) (key : String)
  (overrideLimit : Option ℚ)

def consumeInRedis (store : RedisStore) : RateLimitResult × RedisStore :=
  let resolvedLimit := options.resolveLimit overrideLimit
  let redisKey := options.resolveRedisKey rateLimitRedisPrefix key
  let (count, counted) := store.incr now redisKey
  let expiring := if count = 1 then counted.pexpire now redisKey options.windowMs else counted
  let ttl := expiring.pttl now redisKey
  ({ allowed := count ≤ resolvedLimit
     remaining := max (resolvedLimit - count) 0
     resetAt := now + max ttl 0
     limit := resolvedLimit
     used := count
     windowMs := options.windowMs },
    expiring)

def peekInRedis (store : RedisStore) : RateLimitSnapshot × RedisStore :=
  let resolvedLimit := options.resolveLimit overrideLimit
  let redisKey := options.resolveRedisKey rateLimitRedisPrefix key
  let count := (store.get now redisKey).getD 0
  let ttl := store.pttl now redisKey
  ({ remaining := max (resolvedLimit - count) 0
     resetAt := if 0 < ttl then some (now + ttl) else none
     limit := resolvedLimit
     used := count
     windowMs := options.windowMs },
    store)

end InRedis

/-! ## Sequences of calls -/

inductive RateLimitCall where
  | consume (key : String) (overrideLimit : Option ℚ)
  | peek (key : String) (overrideLimit : Option ℚ)
  deriving DecidableEq

inductive RateLimitAnswer where
  | consumed (result : RateLimitResult)
  | peeked (snapshot : RateLimitSnapshot)
  deriving DecidableEq

def answerInMemory (options : RateLimiterOptions) (now : Int) (buckets : Buckets) :
    RateLimitCall → RateLimitAnswer × Buckets
  | .consume key overrideLimit =>
      (consumeInMemory options now key overrideLimit buckets).map .consumed id
  | .peek key overrideLimit =>
      (peekInMemory options now key overrideLimit buckets).map .peeked id

def answerInRedis (options : RateLimiterOptions) (rateLimitRedisPrefix : String) (now : Int)
    (store : RedisStore) : RateLimitCall → RateLimitAnswer × RedisStore
  | .consume key overrideLimit =>
      (consumeInRedis options rateLimitRedisPrefix now key overrideLimit store).map .consumed id
  | .peek key overrideLimit =>
      (peekInRedis options rateLimitRedisPrefix now key overrideLimit store).map .peeked id

def answers {σ : Type} (answer : Int → σ → RateLimitCall → RateLimitAnswer × σ) :
    σ → List (Int × RateLimitCall) → List RateLimitAnswer
  | _, [] => []
  | state, (now, call) :: calls =>
      (answer now state call).1 :: answers answer (answer now state call).2 calls

/-- The answers of a limiter that has not counted anything yet. -/
def answersInMemory (options : RateLimiterOptions) (calls : List (Int × RateLimitCall)) :
    List RateLimitAnswer :=
  answers (answerInMemory options) (fun _ => none) calls

def answersInRedis (options : RateLimiterOptions) (rateLimitRedisPrefix : String)
    (calls : List (Int × RateLimitCall)) : List RateLimitAnswer :=
  answers (answerInRedis options rateLimitRedisPrefix) (fun _ => none) calls

end RewardSystem.RateLimit
