import Mathlib.Data.Rat.Floor
import RewardSystem.Lib.SharedCounters
import RewardSystem.Shared.Text

/-!
# The execution governor of the prize engine

A call takes a place in the counter of its tenant and one in the counter of its project, may wait in
the queue of the project in between, and gives both places back when its lease is released. Every
Redis command is a step of its own.
-/

namespace RewardSystem.PrizeEngine.Governor

open SharedCounters

section Config

inductive MetadataValue where
  | number (value : Option ℚ)
  | text (value : String)
  | node (fields : List (String × MetadataValue))
  | other

abbrev GovernorNode := List (String × MetadataValue)

structure PrizeEngineGovernorConfig where
  tenantMaxConcurrent : Nat
  projectMaxConcurrent : Nat
  projectQueueDepth : Nat
  projectQueueWaitMs : Nat
  counterTtlMs : Nat
  queuePollIntervalMs : Nat
  deriving DecidableEq, Repr

def toNode : Option MetadataValue → Option GovernorNode
  | some (.node fields) => some fields
  | _ => none

def readValue (node : Option GovernorNode) (keys : List String) : Option MetadataValue :=
  node.bind fun fields => keys.findSome? fun key => fields.lookup key

/-- The finite number that a value stands for; `Number` is the conversion of a text. -/
def finiteValue (Number : String → Option ℚ) : Option MetadataValue → Option ℚ
  | some (.number value) => value
  | some (.text value) => if trim value = "" then none else Number value
  | _ => none

def readPositiveInt (Number : String → Option ℚ) (value : Option MetadataValue) (fallback : Nat) :
    Nat :=
  match finiteValue Number value with
  | none => fallback
  | some value => if 0 < ⌊value⌋ then ⌊value⌋.toNat else fallback

def readNonNegativeInt (Number : String → Option ℚ) (value : Option MetadataValue)
    (fallback : Nat) : Nat :=
  match finiteValue Number value with
  | none => fallback
  | some value => if 0 ≤ ⌊value⌋ then ⌊value⌋.toNat else fallback

def resolveGovernorConfig (Number : String → Option ℚ)
    (tenantMetadata projectMetadata : Option MetadataValue) : PrizeEngineGovernorConfig :=
  let tenantNode := toNode (readValue (toNode tenantMetadata)
    ["prizeEngineAdmission", "prize_engine_admission"])
  let projectNode := toNode (readValue (toNode projectMetadata)
    ["prizeEngineExecution", "prize_engine_execution", "prizeEngineAdmission",
      "prize_engine_admission"])
  { tenantMaxConcurrent := readPositiveInt Number
      (readValue tenantNode ["maxConcurrent", "max_concurrent"]) 48
    projectMaxConcurrent := readPositiveInt Number
      (readValue projectNode
        ["maxConcurrency", "max_concurrency", "maxConcurrent", "max_concurrent"]) 16
    projectQueueDepth := readNonNegativeInt Number
      (readValue projectNode ["queueDepth", "queue_depth", "maxQueueDepth", "max_queue_depth"]) 32
    projectQueueWaitMs := readNonNegativeInt Number
      (readValue projectNode
        ["queueWaitMs", "queue_wait_ms", "maxQueueWaitMs", "max_queue_wait_ms"]) 250
    counterTtlMs := readPositiveInt Number
      (readValue projectNode ["counterTtlMs", "counter_ttl_ms"]) 30000
    queuePollIntervalMs := readPositiveInt Number
      (readValue projectNode ["queuePollIntervalMs", "queue_poll_interval_ms"]) 10 }

end Config

inductive Key where
  | activeTenant (tenantId : Nat)
  | activeProject (projectId : Nat)
  | queueProject (projectId : Nat)
  deriving DecidableEq, Repr

structure ProjectApiAuth where
  tenantId : Nat
  projectId : Nat
  deriving DecidableEq, Repr

structure Settings where
  Number : String → Option ℚ
  tenantMetadata : Nat → Option MetadataValue
  projectMetadata : Nat → Option MetadataValue

def Settings.config (settings : Settings) (auth : ProjectApiAuth) : PrizeEngineGovernorConfig :=
  resolveGovernorConfig settings.Number (settings.tenantMetadata auth.tenantId)
    (settings.projectMetadata auth.projectId)

def Settings.limit (settings : Settings) : Key → Nat
  | .activeTenant tenantId =>
      (resolveGovernorConfig settings.Number (settings.tenantMetadata tenantId)
        none).tenantMaxConcurrent
  | .activeProject projectId =>
      (resolveGovernorConfig settings.Number none
        (settings.projectMetadata projectId)).projectMaxConcurrent
  | .queueProject projectId =>
      (resolveGovernorConfig settings.Number none
        (settings.projectMetadata projectId)).projectQueueDepth

section Slots

/-- Where a call stands in `releaseCounterSlot`. -/
inductive ReleaseStage where
  | decr
  | clear (remaining : Int)
  deriving DecidableEq

/-- Where a call stands in `tryAcquireCounterSlot`. -/
inductive AcquireStage where
  | incr
  | expire (next : Int)
  | giveBack (stage : ReleaseStage)
  deriving DecidableEq

variable {γ : Type}

def releaseCounterSlot (key : Key) (stage : ReleaseStage) (within : ReleaseStage → γ) (done : γ) :
    Move Key γ :=
  match stage with
  | .decr => .call (.decr key) fun remaining => within (.clear remaining)
  | .clear remaining =>
      .call (if remaining ≤ 0 then .del key else .pexpire key) fun _ => done

def tryAcquireCounterSlot (key : Key) (limit : Nat) (stage : AcquireStage)
    (within : AcquireStage → γ) (result : Bool → γ) : Move Key γ :=
  match stage with
  | .incr => .call (.incr key) fun next => within (.expire next)
  | .expire next =>
      .call (.pexpire key) fun _ =>
        if next ≤ limit then result true else within (.giveBack .decr)
  -- A refused call takes its count out again with the same commands as a release.
  | .giveBack stage =>
      releaseCounterSlot key stage (fun stage => within (.giveBack stage)) (result false)

def tryEnterQueue (key : Key) (limit : Nat) (stage : AcquireStage)
    (within : AcquireStage → γ) (result : Bool → γ) : Move Key γ :=
  tryAcquireCounterSlot key limit stage within result

def leaveQueue (key : Key) (stage : ReleaseStage) (within : ReleaseStage → γ) (done : γ) :
    Move Key γ :=
  releaseCounterSlot key stage within done

inductive ScopesStage where
  | tenant (slot : AcquireStage)
  | project (slot : AcquireStage)
  | rollback (slot : ReleaseStage)
  deriving DecidableEq

inductive ScopesStatus where
  | tenantRejected
  | projectBusy
  | acquired
  deriving DecidableEq

def tryAcquireExecutionScopes (config : PrizeEngineGovernorConfig) (auth : ProjectApiAuth)
    (stage : ScopesStage) (within : ScopesStage → γ) (result : ScopesStatus → γ) : Move Key γ :=
  match stage with
  | .tenant slot =>
      tryAcquireCounterSlot (.activeTenant auth.tenantId) config.tenantMaxConcurrent slot
        (fun slot => within (.tenant slot))
        fun tenantAcquired =>
          if tenantAcquired then within (.project .incr) else result .tenantRejected
  | .project slot =>
      tryAcquireCounterSlot (.activeProject auth.projectId) config.projectMaxConcurrent slot
        (fun slot => within (.project slot))
        fun projectAcquired =>
          if projectAcquired then result .acquired else within (.rollback .decr)
  | .rollback slot =>
      releaseCounterSlot (.activeTenant auth.tenantId) slot (fun slot => within (.rollback slot))
        (result .projectBusy)

end Slots

/-- The error of status 429 that a refused call gets. -/
structure GovernorError where
  message : String
  code : String
  details : List String
  retryAfterSeconds : Nat
  deriving DecidableEq, Repr

/-- How a call leaves the loop that waits in the queue. -/
inductive QueueOutcome where
  | acquired
  | tenantRejected
  | timedOut
  deriving DecidableEq

/-- Where a call stands in `enterPrizeEngineExecutionGovernor`, and then with its lease. -/
inductive Stage where
  | called
  | entering (scopes : ScopesStage)
  | enteringQueue (slot : AcquireStage)
  | waiting
  | queued (scopes : ScopesStage)
  | leavingQueue (slot : ReleaseStage) (outcome : QueueOutcome)
  | leased
  /-- The two halves of a release run at the same time; `none` is a half that is done. -/
  | releasing (tenant project : Option ReleaseStage)
  | refused (error : GovernorError)
  deriving DecidableEq

/-- What decides how a call goes on besides the replies. -/
inductive Choice where
  | next
  /-- The loop of the queue finds its deadline passed. -/
  | tooLate
  /-- The half of a release that gives back the place of the project. -/
  | project
  deriving DecidableEq

section Errors

variable (config : PrizeEngineGovernorConfig) (auth : ProjectApiAuth)

def retryAfterSeconds : Nat :=
  max 1 ((config.projectQueueWaitMs + 999) / 1000)

def createGovernorError (message code : String) (details : List String) : GovernorError where
  message := message
  code := code
  details := [s!"tenantId={auth.tenantId}", s!"projectId={auth.projectId}"] ++ details
  retryAfterSeconds := retryAfterSeconds config

def tenantRejectedError (queued : Bool) : GovernorError :=
  createGovernorError config auth "Tenant admission control limit exceeded."
    "TENANT_ADMISSION_CONTROL_LIMIT_EXCEEDED"
    ([s!"tenantMaxConcurrent={config.tenantMaxConcurrent}"] ++
      if queued then ["queued=true"] else [])

def projectBusyError : GovernorError :=
  createGovernorError config auth "Project concurrency limit exceeded."
    "PROJECT_CONCURRENCY_LIMIT_EXCEEDED" [s!"projectMaxConcurrent={config.projectMaxConcurrent}"]

def queueFullError : GovernorError :=
  createGovernorError config auth "Project reward queue is full." "PROJECT_QUEUE_DEPTH_EXCEEDED"
    [s!"projectQueueDepth={config.projectQueueDepth}"]

def waitTimeoutError : GovernorError :=
  createGovernorError config auth "Project reward queue wait timed out."
    "PROJECT_QUEUE_WAIT_TIMEOUT"
    [s!"projectMaxConcurrent={config.projectMaxConcurrent}",
      s!"projectQueueWaitMs={config.projectQueueWaitMs}"]

end Errors

section Calls

variable (config : PrizeEngineGovernorConfig) (auth : ProjectApiAuth)

def afterDirectAdmission : ScopesStatus → Stage
  | .acquired => .leased
  | .tenantRejected => .refused (tenantRejectedError config auth false)
  | .projectBusy =>
      if config.projectQueueDepth = 0 ∨ config.projectQueueWaitMs = 0 then
        .refused (projectBusyError config auth)
      else .enteringQueue .incr

def afterQueuedAttempt : ScopesStatus → Stage
  | .acquired => .leavingQueue .decr .acquired
  | .tenantRejected => .leavingQueue .decr .tenantRejected
  | .projectBusy => .waiting

/-- What follows the `finally` of the queue. -/
def afterQueue : QueueOutcome → Stage
  | .acquired => .leased
  | .tenantRejected => .refused (tenantRejectedError config auth true)
  | .timedOut => .refused (waitTimeoutError config auth)

def enterPrizeEngineExecutionGovernor (stage : Stage) (choice : Choice) : Option (Move Key Stage) :=
  match stage, choice with
  | .called, .next => some (.goto (.entering (.tenant .incr)))
  | .entering scopes, .next =>
      some (tryAcquireExecutionScopes config auth scopes .entering
        (afterDirectAdmission config auth))
  | .enteringQueue slot, .next =>
      some (tryEnterQueue (.queueProject auth.projectId) config.projectQueueDepth slot
        .enteringQueue fun enteredQueue =>
          if enteredQueue then .waiting else .refused (queueFullError config auth))
  | .waiting, .next => some (.goto (.queued (.tenant .incr)))
  | .waiting, .tooLate => some (.goto (.leavingQueue .decr .timedOut))
  | .queued scopes, .next =>
      some (tryAcquireExecutionScopes config auth scopes .queued afterQueuedAttempt)
  | .leavingQueue slot outcome, .next =>
      some (leaveQueue (.queueProject auth.projectId) slot (.leavingQueue · outcome)
        (afterQueue config auth outcome))
  | .leased, .next => some (.goto (.releasing (some .decr) (some .decr)))
  | .releasing (some tenant) project, .next =>
      some (releaseCounterSlot (.activeTenant auth.tenantId) tenant
        (fun tenant => .releasing (some tenant) project) (.releasing none project))
  | .releasing tenant (some project), .project =>
      some (releaseCounterSlot (.activeProject auth.projectId) project
        (fun project => .releasing tenant (some project)) (.releasing tenant none))
  | _, _ => none

end Calls

section Governor

variable {τ : Type}

/-- Every caller makes one call. -/
def governor (settings : Settings) (auth : τ → ProjectApiAuth) : Program τ Key Stage Choice where
  move caller := enterPrizeEngineExecutionGovernor (settings.config (auth caller)) (auth caller)

def idle : System τ Key Stage where
  counters := fun _ => 0
  stages := fun _ => .called

/-- The call has a lease in its hands, or is about to, and has not given back the place in the
counter of the tenant. -/
def Stage.leasesTenant : Stage → Bool
  | .leavingQueue _ .acquired | .leased | .releasing (some .decr) _ => true
  | _ => false

def Stage.leasesProject : Stage → Bool
  | .leavingQueue _ .acquired | .leased | .releasing _ (some .decr) => true
  | _ => false

/-- The call has not begun, or it is over and so is its lease. -/
def Stage.isOver : Stage → Bool
  | .called | .refused _ | .releasing none none => true
  | _ => false

variable [Fintype τ]

def tenantLeases (auth : τ → ProjectApiAuth) (sys : System τ Key Stage) (tenantId : Nat) : Nat :=
  (Finset.univ.filter fun caller =>
    (auth caller).tenantId = tenantId ∧ (sys.stages caller).leasesTenant).card

def projectLeases (auth : τ → ProjectApiAuth) (sys : System τ Key Stage) (projectId : Nat) : Nat :=
  (Finset.univ.filter fun caller =>
    (auth caller).projectId = projectId ∧ (sys.stages caller).leasesProject).card

end Governor

end RewardSystem.PrizeEngine.Governor
