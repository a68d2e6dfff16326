import Mathlib.Algebra.Order.Ring.Rat
import Mathlib.Data.List.Pairwise
import RewardSystem.Lib.FixedWindows
import RewardSystem.RateLimit.Limiters

/-!
# Agreement of the rate limiters

Both limiters count the calls of a key in fixed windows. They differ where a window is opened: in
memory the call that opens it is allowed whatever the limit is, and a look at a key without a window
shows a negative limit as it is.
-/

namespace RewardSystem.RateLimit

open FixedWindows

/-! ## The answers from the windows -/

section FromWindows

variable (options : RateLimiterOptions) (now : Int) (windows : Windows String)

/-- The windows after a call: only a consumed call is a hit. -/
def windowsAfter : RateLimitCall → Windows String
  | .consume key _ => hit options.windowMs windows now key
  | .peek _ _ => windows

def windowOf : RateLimitCall → Option (String × Window)
  | .consume key _ => some (key, hitWindow options.windowMs windows now key)
  | .peek _ _ => none

def memoryAnswer : RateLimitCall → RateLimitAnswer
  | .consume key overrideLimit =>
      let window := hitWindow options.windowMs windows now key
      let limit := options.resolveLimit overrideLimit
      .consumed
        { allowed := window.used = 1 ∨ window.used ≤ limit
          remaining := max (limit - window.used) 0
          resetAt := window.openedAt + options.windowMs
          limit
          used := window.used
          windowMs := options.windowMs }
  | .peek key overrideLimit =>
      let limit := options.resolveLimit overrideLimit
      match running options.windowMs windows now key with
      | none =>
          .peeked
            { remaining := limit, resetAt := none, limit, used := 0, windowMs := options.windowMs }
      | some window =>
          .peeked
            { remaining := max (limit - window.used) 0
              resetAt := some (window.openedAt + options.windowMs)
              limit
              used := window.used
              windowMs := options.windowMs }

def redisAnswer : RateLimitCall → RateLimitAnswer
  | .consume key overrideLimit =>
      let window := hitWindow options.windowMs windows now key
      let limit := options.resolveLimit overrideLimit
      .consumed
        { allowed := window.used ≤ limit
          remaining := max (limit - window.used) 0
          resetAt := max now (window.openedAt + options.windowMs)
          limit
          used := window.used
          windowMs := options.windowMs }
  | .peek key overrideLimit =>
      let limit := options.resolveLimit overrideLimit
      match running options.windowMs windows now key with
      | none =>
          .peeked
            { remaining := max limit 0
              resetAt := none
              limit
              used := 0
              windowMs := options.windowMs }
      | some window =>
          .peeked
            { remaining := max (limit - window.used) 0
              resetAt := some (window.openedAt + options.windowMs)
              limit
              used := window.used
              windowMs := options.windowMs }

end FromWindows

def windowsOf (options : RateLimiterOptions) :
    Windows String → List (Int × RateLimitCall) → List (Option (String × Window))
  | _, [] => []
  | windows, (now, call) :: calls =>
      windowOf options now windows call ::
        windowsOf options (windowsAfter options now windows call) calls

/-- The answers of a limiter that keeps the windows themselves. -/
def answersFrom (options : RateLimiterOptions)
    (answer : Int → Windows String → RateLimitCall → RateLimitAnswer) :
    Windows String → List (Int × RateLimitCall) → List RateLimitAnswer :=
  answers fun now windows call => (answer now windows call, windowsAfter options now windows call)

/-! ## What agreement means -/

/-- The allowed flag and the remaining count. -/
def RateLimitAnswer.verdict : RateLimitAnswer → Option Bool × ℚ
  | .consumed result => (some result.allowed, result.remaining)
  | .peeked snapshot => (none, snapshot.remaining)

/-- A call of the key that is counted in one of its windows, and allowed under a limit that is not
above the given one. -/
def AllowedIn (key : String) (number limit : Nat) :
    Option (String × Window) × RateLimitAnswer → Prop
  | (some (counted, window), .consumed result) =>
      counted = key ∧ window.number = number ∧ result.limit ≤ limit ∧ result.allowed = true
  | _ => False

instance (key : String) (number limit : Nat) : DecidablePred (AllowedIn key number limit)
  | (some _, .consumed _) => inferInstanceAs (Decidable (_ ∧ _ ∧ _ ∧ _))
  | (some _, .peeked _) => inferInstanceAs (Decidable False)
  | (none, _) => inferInstanceAs (Decidable False)

/-- The two limiters say the same of every call, no window lets more calls pass than the limit, and
the answers to the calls that follow a look at a key are those without it. -/
structure LimitersAgree (options : RateLimiterOptions) (rateLimitRedisPrefix : String)
    (calls : List (Int × RateLimitCall)) : Prop where
  same_verdicts : (answersInMemory options calls).map RateLimitAnswer.verdict =
    (answersInRedis options rateLimitRedisPrefix calls).map RateLimitAnswer.verdict
  allowed_in_memory : ∀ key number limit,
    ((windowsOf options (fun _ => none) calls).zip (answersInMemory options calls)).countP
      (AllowedIn key number limit) ≤ limit
  allowed_in_redis : ∀ key number limit,
    ((windowsOf options (fun _ => none) calls).zip
      (answersInRedis options rateLimitRedisPrefix calls)).countP (AllowedIn key number limit) ≤
        limit
  peek_in_memory : ∀ before now key overrideLimit after,
    calls = before ++ (now, .peek key overrideLimit) :: after →
      answersInMemory options (before ++ after) =
        (answersInMemory options calls).eraseIdx before.length
  peek_in_redis : ∀ before now key overrideLimit after,
    calls = before ++ (now, .peek key overrideLimit) :: after →
      answersInRedis options rateLimitRedisPrefix (before ++ after) =
        (answersInRedis options rateLimitRedisPrefix calls).eraseIdx before.length

/-- A call that finds no window of its key running is left room by its limit. -/
def Ample (options : RateLimiterOptions) (now : Int) (windows : Windows String) :
    RateLimitCall → Prop
  | .consume key overrideLimit =>
      running options.windowMs windows now key = none → 1 ≤ options.resolveLimit overrideLimit
  | .peek key overrideLimit =>
      running options.windowMs windows now key = none → 0 ≤ options.resolveLimit overrideLimit

def AmpleFrom (options : RateLimiterOptions) : Windows String → List (Int × RateLimitCall) → Prop
  | _, [] => True
  | windows, (now, call) :: calls =>
      Ample options now windows call ∧
        AmpleFrom options (windowsAfter options now windows call) calls

/-! ## Sequences of answers -/

section Answers

variable {σ τ : Type} {answer : Int → σ → RateLimitCall → RateLimitAnswer × σ}
  {other : Int → τ → RateLimitCall → RateLimitAnswer × τ} {state : σ} {otherState : τ}
  {calls : List (Int × RateLimitCall)}

theorem answers_eq_of_related (Related : Int → σ → τ → Prop)
    (hstep : ∀ {now call state otherState}, Related now state otherState →
      (answer now state call).1 = (other now otherState call).1 ∧
        Related now (answer now state call).2 (other now otherState call).2)
    (hlater : ∀ {now later state otherState}, now ≤ later →
      Related now state otherState → Related later state otherState)
    (hsorted : calls.Pairwise fun earlier later => earlier.1 ≤ later.1)
    (hrelated : ∀ call ∈ calls, Related call.1 state otherState) :
    answers answer state calls = answers other otherState calls := by
  induction calls generalizing state otherState with
  | nil => rfl
  | cons first calls ih =>
      obtain ⟨now, call⟩ := first
      obtain ⟨hbefore, hsorted⟩ := List.pairwise_cons.mp hsorted
      obtain ⟨hsame, hafter⟩ := @hstep now call _ _ (hrelated _ List.mem_cons_self)
      rw [answers, answers, hsame]
      congr 1
      exact ih hsorted fun later hlaterMem => hlater (hbefore later hlaterMem) hafter

theorem answers_eraseIdx {before after : List (Int × RateLimitCall)} {now : Int}
    {call : RateLimitCall} (hcall : ∀ state, (answer now state call).2 = state) :
    answers answer state (before ++ after) =
      (answers answer state (before ++ (now, call) :: after)).eraseIdx before.length := by
  induction before generalizing state with
  | nil =>
      rw [List.nil_append, List.nil_append, answers, hcall]
      rfl
  | cons first before ih =>
      rw [List.cons_append, List.cons_append, answers, answers, List.length_cons,
        List.eraseIdx_cons_succ, ih]

end Answers

/-! ## The limiters refine the windows -/

section Refinement

variable {options : RateLimiterOptions} {now later : Int} {key : String} {windows : Windows String}

/-- The count of a window and the time at which it is over. -/
def reading (length : Int) (window : Window) : Nat × Int :=
  (window.used, window.openedAt + length)

theorem running_hit_self {length : Int} :
    running length (hit length windows now key) later key =
      (some (hitWindow length windows now key)).filter fun window =>
        later < window.openedAt + length := by
  rw [running, hit_self]

theorem running_hit_of_ne {length : Int} {other : String} (h : other ≠ key) :
    running length (hit length windows now key) later other =
      running length windows later other := by
  rw [running, running, hit_of_ne h]

theorem running_none_of_le {length : Int} (h : running length windows now key = none)
    (hle : now ≤ later) : running length windows later key = none :=
  running_eq_none.mpr fun window hwindow => (running_eq_none.mp h window hwindow).trans hle

def BucketsHold (options : RateLimiterOptions) (now : Int) (buckets : Buckets)
    (windows : Windows String) : Prop :=
  ∀ later ≥ now, ∀ key,
    (buckets.existing later key).map (fun bucket => (bucket.count, bucket.resetAt)) =
      (running options.windowMs windows later key).map (reading options.windowMs)

theorem BucketsHold.hit {buckets : Buckets} (h : BucketsHold options now buckets windows) :
    BucketsHold options now
      (Function.update buckets key
        (some ⟨(hitWindow options.windowMs windows now key).used,
          (hitWindow options.windowMs windows now key).openedAt + options.windowMs⟩))
      (hit options.windowMs windows now key) := by
  intro later hlater other
  by_cases hother : other = key
  · subst hother
    rw [Buckets.existing, Function.update_self, running_hit_self, Option.filter_some,
      Option.filter_some]
    split <;> rfl
  · rw [Buckets.existing, Function.update_of_ne hother, running_hit_of_ne hother]
    exact h later hlater other

/-- A call in memory is answered from the windows, and it is counted in the bucket of its window. -/
theorem BucketsHold.consume {buckets : Buckets} {overrideLimit : Option ℚ}
    (h : BucketsHold options now buckets windows) :
    answerInMemory options now buckets (.consume key overrideLimit) =
      (memoryAnswer options now windows (.consume key overrideLimit),
        Function.update buckets key
          (some ⟨(hitWindow options.windowMs windows now key).used,
            (hitWindow options.windowMs windows now key).openedAt + options.windowMs⟩)) := by
  have hnow := h now le_rfl key
  cases hrunning : running options.windowMs windows now key with
  | none =>
      rw [hrunning, Option.map_none, Option.map_eq_none_iff] at hnow
      obtain ⟨hused, hopened⟩ := hitWindow_of_not_running hrunning
      rw [answerInMemory, consumeInMemory, hnow]
      simp [memoryAnswer, hused, hopened]
  | some window =>
      rw [hrunning, Option.map_some, Option.map_eq_some_iff] at hnow
      obtain ⟨bucket, hbucket, hread⟩ := hnow
      obtain ⟨hcount, hreset⟩ := Prod.mk.inj hread
      have hpos := window.used_pos
      rw [answerInMemory, consumeInMemory, hbucket]
      simp [memoryAnswer, hitWindow_of_running hrunning, hcount, hreset, hpos.ne']

theorem BucketsHold.peek {buckets : Buckets} {overrideLimit : Option ℚ}
    (h : BucketsHold options now buckets windows) :
    (answerInMemory options now buckets (.peek key overrideLimit)).1 =
        memoryAnswer options now windows (.peek key overrideLimit) ∧
      BucketsHold options now (answerInMemory options now buckets (.peek key overrideLimit)).2
        windows := by
  have hnow := h now le_rfl key
  cases hrunning : running options.windowMs windows now key with
  | none =>
      rw [hrunning, Option.map_none, Option.map_eq_none_iff] at hnow
      rw [answerInMemory, peekInMemory, hnow]
      refine ⟨by rw [memoryAnswer, hrunning]; rfl, fun later hlater other => ?_⟩
      change (Buckets.existing (Function.update buckets key none) later other).map _ = _
      by_cases hother : other = key
      · subst hother
        rw [Buckets.existing, Function.update_self, running_none_of_le hrunning hlater]
        rfl
      · rw [Buckets.existing, Function.update_of_ne hother]
        exact h later hlater other
  | some window =>
      rw [hrunning, Option.map_some, Option.map_eq_some_iff] at hnow
      obtain ⟨bucket, hbucket, hread⟩ := hnow
      obtain ⟨hcount, hreset⟩ := Prod.mk.inj hread
      rw [answerInMemory, peekInMemory, hbucket, memoryAnswer, hrunning]
      exact ⟨by simp [hcount, hreset], h⟩

/-- The counters in Redis hold the windows that are running from a time on. -/
def StoreHolds (options : RateLimiterOptions) (rateLimitRedisPrefix : String) (now : Int)
    (store : RedisStore) (windows : Windows String) : Prop :=
  ∀ later ≥ now, ∀ key,
    (store.find later (options.resolveRedisKey rateLimitRedisPrefix key)).map
        (fun entry => (entry.count, entry.expiresAt)) =
      (running options.windowMs windows later key).map
        fun window => (window.used, some (window.openedAt + options.windowMs))

theorem resolveRedisKey_injective (rateLimitRedisPrefix : String) :
    Function.Injective (options.resolveRedisKey rateLimitRedisPrefix) := by
  intro key other h
  unfold RateLimiterOptions.resolveRedisKey at h
  have hlists := congrArg String.toList h
  simp only [String.toList_append, List.append_cancel_left_eq] at hlists
  exact String.toList_injective hlists

theorem StoreHolds.hit {rateLimitRedisPrefix : String} {store : RedisStore}
    {entry : Option RedisEntry} (h : StoreHolds options rateLimitRedisPrefix now store windows)
    (hentry : ∀ later ≥ now,
      (entry.filter fun entry => entry.expiresAt.all fun expiresAt => later < expiresAt).map
          (fun entry => (entry.count, entry.expiresAt)) =
        ((some (hitWindow options.windowMs windows now key)).filter fun window =>
          later < window.openedAt + options.windowMs).map
            fun window => (window.used, some (window.openedAt + options.windowMs))) :
    StoreHolds options rateLimitRedisPrefix now
      (Function.update store (options.resolveRedisKey rateLimitRedisPrefix key) entry)
      (FixedWindows.hit options.windowMs windows now key) := by
  intro later hlater other
  by_cases hother : other = key
  · subst hother
    rw [RedisStore.find, Function.update_self, running_hit_self]
    exact hentry later hlater
  · have hne := (@resolveRedisKey_injective options rateLimitRedisPrefix).ne hother
    rw [RedisStore.find, Function.update_of_ne hne, running_hit_of_ne hother]
    exact h later hlater other

theorem find_update_self {store : RedisStore} {redisKey : String} {entry : RedisEntry}
    (h : entry.expiresAt.all fun expiresAt => now < expiresAt) :
    RedisStore.find (Function.update store redisKey (some entry)) now redisKey = some entry := by
  rw [RedisStore.find, Function.update_self, Option.filter_some, if_pos h]

/-- The first call of a window sets the time at which its counter is gone; one that is not in the
future deletes the counter. -/
theorem consumeInRedis_of_none {rateLimitRedisPrefix : String} {store : RedisStore}
    {overrideLimit : Option ℚ}
    (h : store.find now (options.resolveRedisKey rateLimitRedisPrefix key) = none) :
    consumeInRedis options rateLimitRedisPrefix now key overrideLimit store =
      ({ allowed := (1 : Nat) ≤ options.resolveLimit overrideLimit
         remaining := max (options.resolveLimit overrideLimit - (1 : Nat)) 0
         resetAt := max now (now + options.windowMs)
         limit := options.resolveLimit overrideLimit
         used := 1
         windowMs := options.windowMs },
        Function.update store (options.resolveRedisKey rateLimitRedisPrefix key)
          (if options.windowMs ≤ 0 then none else some ⟨1, some (now + options.windowMs)⟩)) := by
  have hcounted := @find_update_self now store
    (options.resolveRedisKey rateLimitRedisPrefix key) ⟨1, none⟩ rfl
  by_cases hlength : options.windowMs ≤ 0
  · have hgone : RedisStore.find
        (Function.update store (options.resolveRedisKey rateLimitRedisPrefix key) none) now
        (options.resolveRedisKey rateLimitRedisPrefix key) = none := by
      rw [RedisStore.find, Function.update_self]
      rfl
    simp [consumeInRedis, RedisStore.incr, RedisStore.pexpire, RedisStore.pttl, h, hcounted,
      hlength, hgone]
  · have hset := @find_update_self now store
      (options.resolveRedisKey rateLimitRedisPrefix key) ⟨1, some (now + options.windowMs)⟩
      (by simp; omega)
    simp [consumeInRedis, RedisStore.incr, RedisStore.pexpire, RedisStore.pttl, h, hcounted,
      hlength, hset]
    omega

theorem consumeInRedis_of_some {rateLimitRedisPrefix : String} {store : RedisStore}
    {overrideLimit : Option ℚ} {entry : RedisEntry} {expiresAt : Int}
    (h : store.find now (options.resolveRedisKey rateLimitRedisPrefix key) = some entry)
    (hpos : 0 < entry.count) (hexpires : entry.expiresAt = some expiresAt)
    (hleft : now < expiresAt) :
    consumeInRedis options rateLimitRedisPrefix now key overrideLimit store =
      ({ allowed := (entry.count + 1 : Nat) ≤ options.resolveLimit overrideLimit
         remaining := max (options.resolveLimit overrideLimit - (entry.count + 1 : Nat)) 0
         resetAt := max now expiresAt
         limit := options.resolveLimit overrideLimit
         used := entry.count + 1
         windowMs := options.windowMs },
        Function.update store (options.resolveRedisKey rateLimitRedisPrefix key)
          (some { entry with count := entry.count + 1 })) := by
  have hcounted := @find_update_self now store
    (options.resolveRedisKey rateLimitRedisPrefix key) ⟨entry.count + 1, some expiresAt⟩
    (by simp [hleft])
  simp [consumeInRedis, RedisStore.incr, RedisStore.pttl, h, hcounted, hpos.ne', hexpires]
  omega

theorem StoreHolds.consume {rateLimitRedisPrefix : String} {store : RedisStore}
    {overrideLimit : Option ℚ} (h : StoreHolds options rateLimitRedisPrefix now store windows) :
    (answerInRedis options rateLimitRedisPrefix now store (.consume key overrideLimit)).1 =
        redisAnswer options now windows (.consume key overrideLimit) ∧
      StoreHolds options rateLimitRedisPrefix now
        (answerInRedis options rateLimitRedisPrefix now store (.consume key overrideLimit)).2
        (FixedWindows.hit options.windowMs windows now key) := by
  have hnow := h now le_rfl key
  rw [answerInRedis]
  cases hrunning : running options.windowMs windows now key with
  | none =>
      rw [hrunning, Option.map_none, Option.map_eq_none_iff] at hnow
      obtain ⟨hused, hopened⟩ := hitWindow_of_not_running hrunning
      rw [consumeInRedis_of_none hnow]
      refine ⟨by simp [redisAnswer, hused, hopened], h.hit fun later hlater => ?_⟩
      by_cases hlength : options.windowMs ≤ 0
      · rw [if_pos hlength, Option.filter_some (p := fun window : Window => _),
          if_neg (by simp [hopened]; omega)]
        rfl
      · rw [if_neg hlength]
        by_cases hover : later < now + options.windowMs
        · simp [Option.filter_some, hopened, hused, hover]
        · simp [Option.filter_some, hopened, hover]
  | some window =>
      rw [hrunning, Option.map_some, Option.map_eq_some_iff] at hnow
      obtain ⟨entry, hfound, hread⟩ := hnow
      obtain ⟨hcount, hexpires⟩ := Prod.mk.inj hread
      have hpos := window.used_pos
      have hwindow := hitWindow_of_running hrunning
      rw [consumeInRedis_of_some hfound (hcount ▸ hpos) hexpires (running_eq_some.mp hrunning).2]
      refine ⟨by simp [redisAnswer, hwindow, hcount], h.hit fun later hlater => ?_⟩
      by_cases hover : later < window.openedAt + options.windowMs
      · simp [Option.filter_some, hwindow, hcount, hexpires, hover]
      · simp [Option.filter_some, hwindow, hexpires, hover]

theorem StoreHolds.peek {rateLimitRedisPrefix : String} {store : RedisStore}
    {overrideLimit : Option ℚ} (h : StoreHolds options rateLimitRedisPrefix now store windows) :
    (answerInRedis options rateLimitRedisPrefix now store (.peek key overrideLimit)).1 =
      redisAnswer options now windows (.peek key overrideLimit) := by
  have hnow := h now le_rfl key
  cases hrunning : running options.windowMs windows now key with
  | none =>
      rw [hrunning, Option.map_none, Option.map_eq_none_iff] at hnow
      simp [answerInRedis, peekInRedis, RedisStore.get, RedisStore.pttl, hnow, redisAnswer,
        hrunning]
  | some window =>
      rw [hrunning, Option.map_some, Option.map_eq_some_iff] at hnow
      obtain ⟨entry, hfound, hread⟩ := hnow
      obtain ⟨hcount, hexpires⟩ := Prod.mk.inj hread
      have hopen := (running_eq_some.mp hrunning).2
      simp [answerInRedis, peekInRedis, RedisStore.get, RedisStore.pttl, hfound, redisAnswer,
        hrunning, hcount, hexpires, hopen]

variable {calls : List (Int × RateLimitCall)}

theorem answersInMemory_eq
    (hsorted : calls.Pairwise fun earlier later => earlier.1 ≤ later.1) :
    answersInMemory options calls =
      answersFrom options (memoryAnswer options) (fun _ => none) calls := by
  refine answers_eq_of_related (BucketsHold options) (fun {now call _ windows} h => ?_)
    (fun hle h later hlater => h later (hle.trans hlater)) hsorted fun _ _ _ _ _ => rfl
  cases call with
  | consume key overrideLimit =>
      rw [h.consume]
      exact ⟨rfl, h.hit⟩
  | peek key overrideLimit => exact h.peek

theorem answersInRedis_eq (rateLimitRedisPrefix : String)
    (hsorted : calls.Pairwise fun earlier later => earlier.1 ≤ later.1) :
    answersInRedis options rateLimitRedisPrefix calls =
      answersFrom options (redisAnswer options) (fun _ => none) calls := by
  refine answers_eq_of_related (StoreHolds options rateLimitRedisPrefix)
    (fun {now call _ windows} h => ?_)
    (fun hle h later hlater => h later (hle.trans hlater)) hsorted fun _ _ _ _ _ => rfl
  cases call with
  | consume key overrideLimit => exact h.consume
  | peek key overrideLimit => exact ⟨h.peek, h⟩

end Refinement

/-! ## Agreement -/

section Agreement

variable {options : RateLimiterOptions} {calls : List (Int × RateLimitCall)}
  {windows : Windows String}

theorem same_verdict_iff {now : Int} {call : RateLimitCall} :
    (memoryAnswer options now windows call).verdict =
        (redisAnswer options now windows call).verdict ↔ Ample options now windows call := by
  cases call with
  | consume key overrideLimit =>
      simp only [memoryAnswer, redisAnswer, RateLimitAnswer.verdict, Prod.mk.injEq, Option.some_inj,
        and_true, decide_eq_decide, or_iff_right_iff_imp, hitWindow_used_eq_one, Ample]
      refine forall_congr' fun hnone => ?_
      rw [(hitWindow_of_not_running hnone).1, Nat.cast_one]
  | peek key overrideLimit =>
      cases hrunning : running options.windowMs windows now key with
      | none => simp [memoryAnswer, redisAnswer, RateLimitAnswer.verdict, Ample, hrunning]
      | some window => simp [memoryAnswer, redisAnswer, RateLimitAnswer.verdict, Ample, hrunning]

theorem same_verdicts_iff :
    (answersFrom options (memoryAnswer options) windows calls).map RateLimitAnswer.verdict =
        (answersFrom options (redisAnswer options) windows calls).map RateLimitAnswer.verdict ↔
      AmpleFrom options windows calls := by
  induction calls generalizing windows with
  | nil => exact iff_of_true rfl trivial
  | cons first calls ih =>
      obtain ⟨now, call⟩ := first
      rw [answersFrom, answersFrom, answers, answers, List.map_cons, List.map_cons,
        List.cons.injEq, same_verdict_iff, AmpleFrom]
      exact and_congr_right fun _ => ih

def hitsOf : List (Int × RateLimitCall) → List (Int × String) :=
  List.filterMap fun
    | (now, .consume key _) => some (now, key)
    | (_, .peek _ _) => none

theorem windowsOf_filterMap : (windowsOf options windows calls).filterMap id =
    marks options.windowMs windows (hitsOf calls) := by
  induction calls generalizing windows with
  | nil => rfl
  | cons first calls ih =>
      obtain ⟨now, call⟩ := first
      cases call with
      | consume key overrideLimit =>
          change _ :: (windowsOf options _ calls).filterMap id = _ :: marks _ _ (hitsOf calls)
          rw [ih]
          rfl
      | peek key overrideLimit => exact ih

/-- A call that is counted up to the limit in a window of the key. -/
def countsUpTo (key : String) (number limit : Nat) : Option (String × Window) → Bool
  | some (counted, window) => (counted = key ∧ window.number = number) ∧ window.used ≤ limit
  | none => false

theorem countP_windowsOf_le (key : String) (number limit : Nat) :
    (windowsOf options (fun _ => none) calls).countP (countsUpTo key number limit) ≤ limit := by
  have hle := @countP_le _ _ options.windowMs (hitsOf calls) key number limit
  rw [← windowsOf_filterMap, countedIn, List.countP_filter, List.countP_filterMap] at hle
  refine le_of_eq_of_le (List.countP_congr fun window _ => ?_) hle
  cases window with
  | none => rfl
  | some mark => simp [countsUpTo, and_comm]

variable {key : String} {number limit : Nat}

theorem redisAnswer_countsUpTo {now : Int} {call : RateLimitCall}
    (h : AllowedIn key number limit
      (windowOf options now windows call, redisAnswer options now windows call)) :
    countsUpTo key number limit (windowOf options now windows call) = true := by
  cases call with
  | consume counted overrideLimit =>
      obtain ⟨hkey, hnumber, hlimit, hallowed⟩ := h
      have hused := (of_decide_eq_true hallowed).trans hlimit
      exact decide_eq_true ⟨⟨hkey, hnumber⟩, Nat.cast_le.mp hused⟩
  | peek counted overrideLimit => exact h.elim

theorem memoryAnswer_countsUpTo {now : Int} {call : RateLimitCall}
    (hample : Ample options now windows call)
    (h : AllowedIn key number limit
      (windowOf options now windows call, memoryAnswer options now windows call)) :
    countsUpTo key number limit (windowOf options now windows call) = true := by
  cases call with
  | consume counted overrideLimit =>
      obtain ⟨hkey, hnumber, hlimit, hallowed⟩ := h
      have hused : ((hitWindow options.windowMs windows now counted).used : ℚ) ≤
          options.resolveLimit overrideLimit := by
        rcases of_decide_eq_true hallowed with hfirst | hcount
        · rw [hfirst, Nat.cast_one]
          exact hample (hitWindow_used_eq_one.mp hfirst)
        · exact hcount
      exact decide_eq_true ⟨⟨hkey, hnumber⟩, Nat.cast_le.mp (hused.trans hlimit)⟩
  | peek counted overrideLimit => exact h.elim

theorem length_windowsOf : (windowsOf options windows calls).length = calls.length := by
  induction calls generalizing windows with
  | nil => rfl
  | cons first calls ih => exact congrArg (· + 1) ih

theorem length_answersFrom {answer : Int → Windows String → RateLimitCall → RateLimitAnswer} :
    (answersFrom options answer windows calls).length = calls.length := by
  induction calls generalizing windows with
  | nil => rfl
  | cons first calls ih => exact congrArg (· + 1) ih

theorem countP_allowedIn_le {answered : List RateLimitAnswer}
    (hlength : answered.length = calls.length)
    (h : ∀ pair ∈ (windowsOf options (fun _ => none) calls).zip answered,
      AllowedIn key number limit pair → countsUpTo key number limit pair.1 = true) :
    ((windowsOf options (fun _ => none) calls).zip answered).countP
      (AllowedIn key number limit) ≤ limit :=
  calc ((windowsOf options (fun _ => none) calls).zip answered).countP
        (AllowedIn key number limit)
      ≤ ((windowsOf options (fun _ => none) calls).zip answered).countP
          (fun pair => countsUpTo key number limit pair.1) :=
        List.countP_mono_left fun pair hpair hallowed => h pair hpair (of_decide_eq_true hallowed)
    _ = (((windowsOf options (fun _ => none) calls).zip answered).map Prod.fst).countP
          (countsUpTo key number limit) := by rw [List.countP_map]; rfl
    _ ≤ (windowsOf options (fun _ => none) calls).countP (countsUpTo key number limit) := by
        rw [List.map_fst_zip (length_windowsOf.trans hlength.symm).le]
    _ ≤ limit := countP_windowsOf_le key number limit

theorem redis_pairs_countsUpTo :
    ∀ pair ∈ (windowsOf options windows calls).zip
      (answersFrom options (redisAnswer options) windows calls),
      AllowedIn key number limit pair → countsUpTo key number limit pair.1 = true := by
  induction calls generalizing windows with
  | nil => exact fun _ h => nomatch h
  | cons first calls ih =>
      obtain ⟨now, call⟩ := first
      rw [windowsOf, answersFrom, answers, List.zip_cons_cons]
      rintro pair (_ | ⟨_, hpair⟩)
      · exact redisAnswer_countsUpTo
      · exact ih pair hpair

theorem memory_pairs_countsUpTo (h : AmpleFrom options windows calls) :
    ∀ pair ∈ (windowsOf options windows calls).zip
      (answersFrom options (memoryAnswer options) windows calls),
      AllowedIn key number limit pair → countsUpTo key number limit pair.1 = true := by
  induction calls generalizing windows with
  | nil => exact fun _ h => nomatch h
  | cons first calls ih =>
      obtain ⟨now, call⟩ := first
      rw [windowsOf, answersFrom, answers, List.zip_cons_cons]
      rintro pair (_ | ⟨_, hpair⟩)
      · exact memoryAnswer_countsUpTo h.1
      · exact ih h.2 pair hpair

/-- The limiters agree on calls at nondecreasing times if and only if each call that finds no window
running is left room by its limit: at least one call where it is consumed, and a limit that is not
negative where it is a look. -/
theorem limitersAgree_iff (rateLimitRedisPrefix : String)
    (hsorted : calls.Pairwise fun earlier later => earlier.1 ≤ later.1) :
    LimitersAgree options rateLimitRedisPrefix calls ↔
      AmpleFrom options (fun _ => none) calls := by
  have hmemory := @answersInMemory_eq options calls hsorted
  have hredis := @answersInRedis_eq options calls rateLimitRedisPrefix hsorted
  constructor
  · intro h
    have hsame := h.same_verdicts
    rwa [hmemory, hredis, same_verdicts_iff] at hsame
  · intro hample
    refine ⟨?_, fun key number limit => ?_, fun key number limit => ?_, ?_, ?_⟩
    · rw [hmemory, hredis, same_verdicts_iff]
      exact hample
    · rw [hmemory]
      exact countP_allowedIn_le length_answersFrom (memory_pairs_countsUpTo hample)
    · rw [hredis]
      exact countP_allowedIn_le length_answersFrom redis_pairs_countsUpTo
    · rintro before now key overrideLimit after rfl
      have hrest := hsorted.sublist ((List.sublist_cons_self _ after).append_left before)
      rw [hmemory, answersInMemory_eq hrest]
      exact answers_eraseIdx fun _ => rfl
    · rintro before now key overrideLimit after rfl
      exact answers_eraseIdx fun _ => rfl

/-- With a limit of zero the first call is allowed in memory, and refused in Redis. -/
theorem not_limitersAgree_zero :
    ¬ LimitersAgree ⟨0, 60000, none⟩ "rate" [(0, .consume "user" none)] := by
  intro h
  have hfirst := congrArg (·.map Prod.fst) h.same_verdicts
  revert hfirst
  decide +kernel

theorem limitersAgree_one :
    LimitersAgree ⟨1, 60000, none⟩ "rate"
      [(0, .consume "user" none), (10, .consume "user" none), (20, .peek "user" none)] := by
  refine (limitersAgree_iff "rate" (by decide)).mpr ⟨fun _ => ?_, fun _ => ?_, fun _ => ?_, trivial⟩
  · decide +kernel
  · decide +kernel
  · decide +kernel

end Agreement

end RewardSystem.RateLimit
