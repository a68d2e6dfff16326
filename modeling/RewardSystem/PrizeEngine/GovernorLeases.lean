import Mathlib.Algebra.BigOperators.Pi
import Mathlib.Algebra.BigOperators.Ring.Finset
import RewardSystem.PrizeEngine.Governor

/-!
# Leases within the limits of the governor

A counter holds the places that the calls have taken in it, granted or about to be given back. As
long as no counter above zero is deleted, the leases of a tenant and of a project stay within their
limits, and the counters are back at zero when all calls are over.
-/

namespace RewardSystem.PrizeEngine.Governor

open SharedCounters Transition

section Places

/-- What a call that gives back a place still counts for. -/
def ReleaseStage.places : ReleaseStage → Int
  | .decr => 1
  | .clear _ => 0

def AcquireStage.counted : AcquireStage → Int
  | .incr => 0
  | .expire _ => 1
  | .giveBack stage => stage.places

/-- Whether the call has been let in, as far as its reply says. -/
def AcquireStage.granted (limit : Nat) : AcquireStage → Int
  | .expire next => if next ≤ limit then 1 else 0
  | _ => 0

def ScopesStage.tenantPlaces (measure : AcquireStage → Int) : ScopesStage → Int
  | .tenant slot => measure slot
  | .project _ => 1
  | .rollback slot => slot.places

def ScopesStage.projectPlaces (measure : AcquireStage → Int) : ScopesStage → Int
  | .project slot => measure slot
  | _ => 0

def ScopesStage.places (measure : Key → AcquireStage → Int) (auth : ProjectApiAuth)
    (scopes : ScopesStage) : Key → Int :=
  Pi.single (.activeTenant auth.tenantId)
      (scopes.tenantPlaces (measure (.activeTenant auth.tenantId))) +
    Pi.single (.activeProject auth.projectId)
      (scopes.projectPlaces (measure (.activeProject auth.projectId)))

def leasePlaces (auth : ProjectApiAuth) (tenant project : Int) : Key → Int :=
  Pi.single (.activeTenant auth.tenantId) tenant + Pi.single (.activeProject auth.projectId) project

def queuePlace (auth : ProjectApiAuth) (place : Int) : Key → Int :=
  Pi.single (.queueProject auth.projectId) place

def Stage.places (measure : Key → AcquireStage → Int) (auth : ProjectApiAuth) :
    Stage → Key → Int
  | .called | .refused _ => 0
  | .entering scopes => scopes.places measure auth
  | .enteringQueue slot => queuePlace auth (measure (.queueProject auth.projectId) slot)
  | .waiting => queuePlace auth 1
  | .queued scopes => queuePlace auth 1 + scopes.places measure auth
  | .leavingQueue slot .acquired => leasePlaces auth 1 1 + queuePlace auth slot.places
  | .leavingQueue slot _ => queuePlace auth slot.places
  | .leased => leasePlaces auth 1 1
  | .releasing tenant project =>
      leasePlaces auth (tenant.elim 0 ReleaseStage.places) (project.elim 0 ReleaseStage.places)

def countedPlaces : ProjectApiAuth → Stage → Key → Int :=
  Stage.places fun _ => AcquireStage.counted

def grantedPlaces (settings : Settings) : ProjectApiAuth → Stage → Key → Int :=
  Stage.places fun key => AcquireStage.granted (settings.limit key)

end Places

section Counted

variable {γ : Type} (places : γ → Key → Int) (rest : Key → Int) {key : Key} {limit : Nat}
  {command : Command Key} {next : Int → γ}

theorem release_counted {stage : ReleaseStage} {within : ReleaseStage → γ} {done : γ}
    (hcall : releaseCounterSlot key stage within done = .call command next)
    (hwithin : ∀ stage, places (within stage) = rest + Pi.single key stage.places)
    (hdone : places done = rest) (reply : Int) :
    places (next reply) = places (within stage) + command.delta := by
  cases stage with
  | decr =>
      obtain ⟨rfl, rfl⟩ := Move.call.inj hcall
      simp [hwithin, ReleaseStage.places, Command.delta, add_assoc, ← Pi.single_add]
  | clear remaining =>
      obtain ⟨rfl, rfl⟩ := Move.call.inj hcall
      rw [hdone, hwithin]
      split <;> simp [ReleaseStage.places, Command.delta]

theorem acquire_counted {stage : AcquireStage} {within : AcquireStage → γ} {result : Bool → γ}
    (hcall : tryAcquireCounterSlot key limit stage within result = .call command next)
    (hwithin : ∀ stage, places (within stage) = rest + Pi.single key stage.counted)
    (htrue : places (result true) = rest + Pi.single key 1) (hfalse : places (result false) = rest)
    (reply : Int) : places (next reply) = places (within stage) + command.delta := by
  cases stage with
  | incr =>
      obtain ⟨rfl, rfl⟩ := Move.call.inj hcall
      simp [hwithin, AcquireStage.counted, Command.delta]
  | expire value =>
      obtain ⟨rfl, rfl⟩ := Move.call.inj hcall
      rw [hwithin]
      split
      · simp [htrue, AcquireStage.counted, Command.delta]
      · simp [hwithin, AcquireStage.counted, ReleaseStage.places, Command.delta]
  | giveBack stage =>
      simp only [tryAcquireCounterSlot] at hcall
      exact release_counted places rest hcall (fun stage => hwithin (.giveBack stage)) hfalse reply

variable {config : PrizeEngineGovernorConfig} {auth : ProjectApiAuth}

theorem scopes_counted {scopes : ScopesStage} {within : ScopesStage → γ}
    {result : ScopesStatus → γ}
    (hcall : tryAcquireExecutionScopes config auth scopes within result = .call command next)
    (hwithin : ∀ scopes, places (within scopes) =
      rest + ScopesStage.places (fun _ => AcquireStage.counted) auth scopes)
    (hacquired : places (result .acquired) = rest + leasePlaces auth 1 1)
    (hrejected : places (result .tenantRejected) = rest) (hbusy : places (result .projectBusy) = rest)
    (reply : Int) : places (next reply) = places (within scopes) + command.delta := by
  cases scopes with
  | tenant slot =>
      simp only [tryAcquireExecutionScopes] at hcall
      refine acquire_counted places rest hcall (fun slot => ?_) ?_ ?_ reply
      · simp [hwithin, ScopesStage.places, ScopesStage.tenantPlaces, ScopesStage.projectPlaces]
      · simp [hwithin, ScopesStage.places, ScopesStage.tenantPlaces, ScopesStage.projectPlaces,
          AcquireStage.counted]
      · simpa using hrejected
  | project slot =>
      simp only [tryAcquireExecutionScopes] at hcall
      refine acquire_counted places (rest + Pi.single (.activeTenant auth.tenantId) 1) hcall
        (fun slot => ?_) ?_ ?_ reply
      · rw [hwithin, add_assoc]
        rfl
      · simp [hacquired, leasePlaces, add_assoc]
      · simp [hwithin, ScopesStage.places, ScopesStage.tenantPlaces, ScopesStage.projectPlaces,
          ReleaseStage.places]
  | rollback slot =>
      simp only [tryAcquireExecutionScopes] at hcall
      refine release_counted places rest hcall (fun slot => ?_) hbusy reply
      simp [hwithin, ScopesStage.places, ScopesStage.tenantPlaces, ScopesStage.projectPlaces]

end Counted

section Tallied

variable {config : PrizeEngineGovernorConfig} {auth : ProjectApiAuth}

theorem counted_call {stage : Stage} {choice : Choice} {command : Command Key}
    {next : Int → Stage}
    (hmove : enterPrizeEngineExecutionGovernor config auth stage choice = some (.call command next))
    (reply : Int) :
    countedPlaces auth (next reply) = countedPlaces auth stage + command.delta := by
  unfold enterPrizeEngineExecutionGovernor at hmove
  split at hmove
  case h_2 scopes =>
    refine scopes_counted (countedPlaces auth) 0 (Option.some.inj hmove)
      (fun _ => (zero_add _).symm) (zero_add _).symm rfl ?_ reply
    simp only [afterDirectAdmission]
    split_ifs
    · rfl
    · simp [countedPlaces, Stage.places, queuePlace, AcquireStage.counted]
  case h_3 slot =>
    exact acquire_counted (countedPlaces auth) 0 (Option.some.inj hmove)
      (fun _ => (zero_add _).symm) (zero_add _).symm rfl reply
  case h_6 scopes =>
    exact scopes_counted (countedPlaces auth) (queuePlace auth 1) (Option.some.inj hmove)
      (fun _ => rfl) (add_comm _ _) rfl rfl reply
  case h_7 slot outcome =>
    cases outcome with
    | acquired =>
        exact release_counted (countedPlaces auth) (leasePlaces auth 1 1) (Option.some.inj hmove)
          (fun _ => rfl) rfl reply
    | tenantRejected =>
        exact release_counted (countedPlaces auth) 0 (Option.some.inj hmove)
          (fun _ => (zero_add _).symm) rfl reply
    | timedOut =>
        exact release_counted (countedPlaces auth) 0 (Option.some.inj hmove)
          (fun _ => (zero_add _).symm) rfl reply
  case h_9 tenant project =>
    refine release_counted (countedPlaces auth)
      (leasePlaces auth 0 (project.elim 0 ReleaseStage.places)) (Option.some.inj hmove)
      (fun stage => ?_) rfl reply
    simp [countedPlaces, Stage.places, leasePlaces, add_comm]
  case h_10 tenant project =>
    refine release_counted (countedPlaces auth)
      (leasePlaces auth (tenant.elim 0 ReleaseStage.places) 0) (Option.some.inj hmove)
      (fun stage => ?_) rfl reply
    simp [countedPlaces, Stage.places, leasePlaces]
  all_goals cases hmove

end Tallied

section Granted

variable {γ : Type} (places : γ → Key → Int) {key : Key} {limit : Nat}
  {command : Command Key} {next : Int → γ}

/-- A step that stays within what is granted, or is let in by an increment below the limit. -/
def GrantedStep (limits : Key → Nat) (before after : Key → Int) (command : Command Key)
    (reply : Int) : Prop :=
  ∀ key, after key ≤ before key ∨ command = .incr key ∧ reply ≤ limits key

theorem release_granted {limits : Key → Nat} {stage : ReleaseStage} {within : ReleaseStage → γ} {done : γ}
    (hcall : releaseCounterSlot key stage within done = .call command next)
    (hcleared : ∀ remaining, places (within (.clear remaining)) ≤ places (within .decr))
    (hdone : ∀ remaining, places done ≤ places (within (.clear remaining))) (reply : Int) :
    GrantedStep limits (places (within stage)) (places (next reply)) command reply := by
  intro key'
  cases stage with
  | decr =>
      obtain ⟨rfl, rfl⟩ := Move.call.inj hcall
      exact .inl (hcleared reply key')
  | clear remaining =>
      obtain ⟨rfl, rfl⟩ := Move.call.inj hcall
      exact .inl (hdone remaining key')

theorem acquire_granted (limits : Key → Nat) (rest : Key → Int) {stage : AcquireStage} {within : AcquireStage → γ}
    {result : Bool → γ}
    (hcall : tryAcquireCounterSlot key (limits key) stage within result = .call command next)
    (hwithin : ∀ stage, places (within stage) = rest + Pi.single key (stage.granted (limits key)))
    (htrue : places (result true) = rest + Pi.single key 1) (hfalse : places (result false) = rest)
    (reply : Int) :
    GrantedStep limits (places (within stage)) (places (next reply)) command reply := by
  intro key'
  cases stage with
  | incr =>
      obtain ⟨rfl, rfl⟩ := Move.call.inj hcall
      by_cases hlimit : reply ≤ limits key
      · by_cases hkey : key = key'
        · subst hkey
          exact .inr ⟨rfl, hlimit⟩
        · left
          simp [hwithin, Pi.single_eq_of_ne (Ne.symm hkey)]
      · left
        simp [hwithin, AcquireStage.granted, hlimit]
  | expire value =>
      obtain ⟨rfl, rfl⟩ := Move.call.inj hcall
      left
      rw [hwithin]
      split_ifs with hlimit
      · simp [htrue, AcquireStage.granted, hlimit]
      · simp [hwithin, AcquireStage.granted, hlimit]
  | giveBack stage =>
      simp only [tryAcquireCounterSlot] at hcall
      refine release_granted places hcall (fun _ => ?_) (fun _ => ?_) reply key'
      · simp [hwithin, AcquireStage.granted]
      · simp [hwithin, hfalse, AcquireStage.granted]

theorem scopes_granted (settings : Settings) (auth : ProjectApiAuth) (rest : Key → Int)
    {scopes : ScopesStage} {within : ScopesStage → γ} {result : ScopesStatus → γ}
    (hcall : tryAcquireExecutionScopes (settings.config auth) auth scopes within result =
      .call command next)
    (hwithin : ∀ scopes, places (within scopes) = rest +
      ScopesStage.places (fun key => AcquireStage.granted (settings.limit key)) auth scopes)
    (hacquired : places (result .acquired) = rest + leasePlaces auth 1 1)
    (hrejected : places (result .tenantRejected) = rest) (hbusy : places (result .projectBusy) = rest)
    (reply : Int) :
    GrantedStep settings.limit (places (within scopes)) (places (next reply)) command reply := by
  cases scopes with
  | tenant slot =>
      simp only [tryAcquireExecutionScopes] at hcall
      refine acquire_granted places settings.limit rest hcall (fun slot => ?_) ?_ ?_ reply
      · simp [hwithin, ScopesStage.places, ScopesStage.tenantPlaces, ScopesStage.projectPlaces]
      · simp [hwithin, ScopesStage.places, ScopesStage.tenantPlaces, ScopesStage.projectPlaces,
          AcquireStage.granted]
      · simpa using hrejected
  | project slot =>
      simp only [tryAcquireExecutionScopes] at hcall
      refine acquire_granted places settings.limit
        (rest + Pi.single (.activeTenant auth.tenantId) 1) hcall (fun slot => ?_) ?_ ?_ reply
      · rw [hwithin, add_assoc]
        rfl
      · simp [hacquired, leasePlaces, add_assoc]
      · simp [hwithin, ScopesStage.places, ScopesStage.tenantPlaces, ScopesStage.projectPlaces,
          ReleaseStage.places]
  | rollback slot =>
      simp only [tryAcquireExecutionScopes] at hcall
      refine release_granted places hcall (fun _ => ?_) (fun _ => ?_) reply
      · simp [hwithin, ScopesStage.places, ScopesStage.tenantPlaces, ScopesStage.projectPlaces,
          ReleaseStage.places]
      · simp [hwithin, hbusy, ScopesStage.places, ScopesStage.tenantPlaces,
          ScopesStage.projectPlaces, ReleaseStage.places]

theorem granted_call {settings : Settings} {auth : ProjectApiAuth} {stage : Stage}
    {choice : Choice} {next : Int → Stage}
    (hmove : enterPrizeEngineExecutionGovernor (settings.config auth) auth stage choice =
      some (.call command next)) (reply : Int) :
    GrantedStep settings.limit (grantedPlaces settings auth stage)
      (grantedPlaces settings auth (next reply)) command reply := by
  unfold enterPrizeEngineExecutionGovernor at hmove
  split at hmove
  case h_2 scopes =>
    refine scopes_granted (grantedPlaces settings auth) settings auth 0 (Option.some.inj hmove)
      (fun _ => (zero_add _).symm) (zero_add _).symm rfl ?_ reply
    simp only [afterDirectAdmission]
    split_ifs
    · rfl
    · simp [grantedPlaces, Stage.places, queuePlace, AcquireStage.granted]
  case h_3 slot =>
    exact acquire_granted (grantedPlaces settings auth) settings.limit 0 (Option.some.inj hmove)
      (fun _ => (zero_add _).symm) (zero_add _).symm rfl reply
  case h_6 scopes =>
    exact scopes_granted (grantedPlaces settings auth) settings auth (queuePlace auth 1)
      (Option.some.inj hmove) (fun _ => rfl) (add_comm _ _) rfl rfl reply
  case h_7 slot outcome =>
    refine release_granted (grantedPlaces settings auth) (Option.some.inj hmove) (fun _ => ?_)
      (fun _ => ?_) reply
    · cases outcome <;> simp [grantedPlaces, Stage.places, ReleaseStage.places, queuePlace]
    · cases outcome <;>
        simp [grantedPlaces, Stage.places, ReleaseStage.places, queuePlace, afterQueue]
  case h_9 tenant project =>
    refine release_granted (grantedPlaces settings auth) (Option.some.inj hmove) (fun _ => ?_)
      (fun _ => ?_) reply
    · simp [grantedPlaces, Stage.places, leasePlaces, ReleaseStage.places]
    · simp [grantedPlaces, Stage.places, leasePlaces, ReleaseStage.places]
  case h_10 tenant project =>
    refine release_granted (grantedPlaces settings auth) (Option.some.inj hmove) (fun _ => ?_)
      (fun _ => ?_) reply
    · simp [grantedPlaces, Stage.places, leasePlaces, ReleaseStage.places]
    · simp [grantedPlaces, Stage.places, leasePlaces, ReleaseStage.places]
  all_goals cases hmove

end Granted

section Moves

variable {config : PrizeEngineGovernorConfig} {auth : ProjectApiAuth} {settings : Settings}

theorem release_ne_goto {γ : Type} {key : Key} {stage : ReleaseStage} {within : ReleaseStage → γ}
    {done next : γ} : releaseCounterSlot key stage within done ≠ .goto next := by
  cases stage <;> exact nofun

theorem acquire_ne_goto {γ : Type} {key : Key} {limit : Nat} {stage : AcquireStage}
    {within : AcquireStage → γ} {result : Bool → γ} {next : γ} :
    tryAcquireCounterSlot key limit stage within result ≠ .goto next := by
  cases stage with
  | giveBack stage =>
      simp only [tryAcquireCounterSlot]
      exact release_ne_goto
  | incr => exact nofun
  | expire value => exact nofun

theorem scopes_ne_goto {γ : Type} {scopes : ScopesStage} {within : ScopesStage → γ}
    {result : ScopesStatus → γ} {next : γ} :
    tryAcquireExecutionScopes config auth scopes within result ≠ .goto next := by
  cases scopes <;> simp only [tryAcquireExecutionScopes]
  case tenant slot => exact acquire_ne_goto
  case project slot => exact acquire_ne_goto
  case rollback slot => exact release_ne_goto

theorem places_goto (measure : Key → AcquireStage → Int) (hincr : ∀ key, measure key .incr = 0)
    {stage next : Stage} {choice : Choice}
    (hmove : enterPrizeEngineExecutionGovernor config auth stage choice = some (.goto next)) :
    next.places measure auth = stage.places measure auth := by
  unfold enterPrizeEngineExecutionGovernor at hmove
  split at hmove
  case h_1 =>
    cases hmove
    simp [Stage.places, ScopesStage.places, ScopesStage.tenantPlaces, ScopesStage.projectPlaces,
      hincr]
  case h_2 => exact absurd (Option.some.inj hmove) scopes_ne_goto
  case h_3 => exact absurd (Option.some.inj hmove) acquire_ne_goto
  case h_4 =>
    cases hmove
    simp [Stage.places, ScopesStage.places, ScopesStage.tenantPlaces, ScopesStage.projectPlaces,
      hincr]
  case h_5 =>
    cases hmove
    simp [Stage.places, ReleaseStage.places]
  case h_6 => exact absurd (Option.some.inj hmove) scopes_ne_goto
  case h_7 => exact absurd (Option.some.inj hmove) release_ne_goto
  case h_8 =>
    cases hmove
    simp [Stage.places, ReleaseStage.places]
  case h_9 => exact absurd (Option.some.inj hmove) release_ne_goto
  case h_10 => exact absurd (Option.some.inj hmove) release_ne_goto
  case h_11 => cases hmove

theorem release_places_nonneg (stage : ReleaseStage) : 0 ≤ stage.places := by
  cases stage <;> simp [ReleaseStage.places]

theorem scopes_places_mono {measure measure' : Key → AcquireStage → Int}
    (hle : ∀ key slot, measure key slot ≤ measure' key slot) (scopes : ScopesStage) :
    scopes.places measure auth ≤ scopes.places measure' auth := by
  cases scopes with
  | tenant slot =>
      exact add_le_add (Pi.single_le_single.mpr (hle _ slot)) le_rfl
  | project slot =>
      exact add_le_add le_rfl (Pi.single_le_single.mpr (hle _ slot))
  | rollback slot => exact le_rfl

theorem places_mono {measure measure' : Key → AcquireStage → Int}
    (hle : ∀ key slot, measure key slot ≤ measure' key slot) (stage : Stage) :
    stage.places measure auth ≤ stage.places measure' auth := by
  cases stage with
  | entering scopes => exact scopes_places_mono hle scopes
  | enteringQueue slot => exact Pi.single_le_single.mpr (hle _ slot)
  | queued scopes => exact add_le_add le_rfl (scopes_places_mono hle scopes)
  | leavingQueue slot outcome => cases outcome <;> exact le_rfl
  | called => exact le_rfl
  | waiting => exact le_rfl
  | leased => exact le_rfl
  | releasing tenant project => exact le_rfl
  | refused error => exact le_rfl

theorem lease_nonneg {tenant project : Int} (htenant : 0 ≤ tenant) (hproject : 0 ≤ project) :
    0 ≤ leasePlaces auth tenant project :=
  add_nonneg (Pi.single_nonneg.mpr htenant) (Pi.single_nonneg.mpr hproject)

theorem queue_nonneg {place : Int} (hplace : 0 ≤ place) : 0 ≤ queuePlace auth place :=
  Pi.single_nonneg.mpr hplace

theorem places_nonneg {measure : Key → AcquireStage → Int}
    (hmeasure : ∀ key slot, 0 ≤ measure key slot) (stage : Stage) :
    0 ≤ stage.places measure auth := by
  have hhalf : ∀ half : Option ReleaseStage, 0 ≤ half.elim 0 ReleaseStage.places := by
    intro half
    cases half with
    | none => exact le_rfl
    | some stage => exact release_places_nonneg stage
  have hscopes : ∀ scopes : ScopesStage, 0 ≤ scopes.places measure auth := by
    intro scopes
    cases scopes with
    | tenant slot => exact lease_nonneg (hmeasure _ slot) le_rfl
    | project slot => exact lease_nonneg zero_le_one (hmeasure _ slot)
    | rollback slot => exact lease_nonneg (release_places_nonneg slot) le_rfl
  cases stage with
  | called => exact le_rfl
  | refused error => exact le_rfl
  | entering scopes => exact hscopes scopes
  | enteringQueue slot => exact queue_nonneg (hmeasure _ slot)
  | waiting => exact queue_nonneg zero_le_one
  | queued scopes => exact add_nonneg (queue_nonneg zero_le_one) (hscopes scopes)
  | leased => exact lease_nonneg zero_le_one zero_le_one
  | releasing tenant project => exact lease_nonneg (hhalf tenant) (hhalf project)
  | leavingQueue slot outcome =>
      have hslot : 0 ≤ queuePlace auth slot.places := queue_nonneg (release_places_nonneg slot)
      cases outcome with
      | acquired => exact add_nonneg (lease_nonneg zero_le_one zero_le_one) hslot
      | tenantRejected => exact hslot
      | timedOut => exact hslot

theorem counted_nonneg (slot : AcquireStage) : 0 ≤ slot.counted := by
  cases slot with
  | incr => exact le_rfl
  | expire value => exact zero_le_one
  | giveBack stage => exact release_places_nonneg stage

theorem granted_nonneg {limit : Nat} (slot : AcquireStage) : 0 ≤ slot.granted limit := by
  cases slot with
  | expire value => simp only [AcquireStage.granted]; split_ifs <;> decide
  | incr => exact le_rfl
  | giveBack stage => exact le_rfl

theorem granted_le_counted {limit : Nat} (slot : AcquireStage) :
    slot.granted limit ≤ slot.counted := by
  cases slot with
  | expire value => simp only [AcquireStage.granted, AcquireStage.counted]; split_ifs <;> decide
  | incr => exact le_rfl
  | giveBack stage => exact release_places_nonneg stage

end Moves

section Leases

variable {τ : Type} (settings : Settings) (auth : τ → ProjectApiAuth)

theorem governor_tallied :
    Tallied (governor settings auth) fun caller => countedPlaces (auth caller) where
  nonneg _ stage := places_nonneg (fun _ => counted_nonneg) stage
  goto _ _ _ _ hmove := places_goto _ (fun _ => rfl) hmove
  call _ _ _ _ _ hmove reply := counted_call hmove reply

theorem governor_granted :
    Granted (governor settings auth) (fun caller => countedPlaces (auth caller))
      (fun caller => grantedPlaces settings (auth caller)) (fun key => settings.limit key) where
  le_held _ stage := places_mono (fun _ => granted_le_counted) stage
  goto _ _ _ _ hmove := (places_goto _ (fun _ => rfl) hmove).le
  call _ _ _ _ _ hmove reply := granted_call hmove reply

section Stages

variable {settings : Settings} {auth : ProjectApiAuth} {stage : Stage}

theorem granted_of_leasesTenant (hlease : stage.leasesTenant = true) :
    1 ≤ grantedPlaces settings auth stage (.activeTenant auth.tenantId) := by
  unfold Stage.leasesTenant at hlease
  split at hlease
  · simp [grantedPlaces, Stage.places, leasePlaces, queuePlace]
  · simp [grantedPlaces, Stage.places, leasePlaces]
  · simp [grantedPlaces, Stage.places, leasePlaces, ReleaseStage.places]
  · cases hlease

theorem granted_of_leasesProject (hlease : stage.leasesProject = true) :
    1 ≤ grantedPlaces settings auth stage (.activeProject auth.projectId) := by
  unfold Stage.leasesProject at hlease
  split at hlease
  · simp [grantedPlaces, Stage.places, leasePlaces, queuePlace]
  · simp [grantedPlaces, Stage.places, leasePlaces]
  · simp [grantedPlaces, Stage.places, leasePlaces, ReleaseStage.places]
  · cases hlease

theorem counted_of_isOver (hover : stage.isOver = true) : countedPlaces auth stage = 0 := by
  unfold Stage.isOver at hover
  split at hover
  · rfl
  · rfl
  · simp [countedPlaces, Stage.places, leasePlaces]
  · cases hover

theorem counted_other {key : Key} (htenant : key ≠ .activeTenant auth.tenantId)
    (hproject : key ≠ .activeProject auth.projectId) (hqueue : key ≠ .queueProject auth.projectId) :
    countedPlaces auth stage key = 0 := by
  unfold countedPlaces Stage.places
  split <;> simp [ScopesStage.places, leasePlaces, queuePlace, htenant, hproject, hqueue]

end Stages

variable [Fintype τ]

/-- The leases are within the limits, and a counter is back at zero when the calls that use it are
over. -/
structure Admitted (sys : System τ Key Stage) : Prop where
  tenant : ∀ tenantId, tenantLeases auth sys tenantId ≤ settings.limit (.activeTenant tenantId)
  project : ∀ projectId, projectLeases auth sys projectId ≤ settings.limit (.activeProject projectId)
  tenantBack : ∀ tenantId, (∀ caller, (auth caller).tenantId = tenantId →
    (sys.stages caller).isOver = true) → sys.counters (.activeTenant tenantId) = 0
  projectBack : ∀ projectId, (∀ caller, (auth caller).projectId = projectId →
    (sys.stages caller).isOver = true) → sys.counters (.activeProject projectId) = 0

variable {settings auth} {sys : System τ Key Stage}

theorem card_le_total {places : τ → Stage → Key → Int} {key : Key} {P : τ → Prop} [DecidablePred P]
    (hnonneg : ∀ caller, 0 ≤ places caller (sys.stages caller) key)
    (hone : ∀ caller, P caller → 1 ≤ places caller (sys.stages caller) key) :
    ((Finset.univ.filter P).card : Int) ≤ total places sys key := by
  unfold total
  rw [Finset.sum_apply, ← Finset.sum_boole]
  apply Finset.sum_le_sum
  intro caller _
  split_ifs with hP
  · exact hone caller hP
  · exact hnonneg caller

theorem admitted_of_balanced (hbalanced : Balanced (fun caller => countedPlaces (auth caller)) sys)
    (hlimit : WithinLimit (fun caller => grantedPlaces settings (auth caller))
      (fun key => settings.limit key) sys) : Admitted settings auth sys := by
  have hnonneg : ∀ key caller, 0 ≤ grantedPlaces settings (auth caller) (sys.stages caller) key :=
    fun key _ => places_nonneg (fun _ => granted_nonneg) _ key
  have hcounter : ∀ key, sys.counters key =
      ∑ caller, countedPlaces (auth caller) (sys.stages caller) key := by
    intro key
    have hkey := congrFun hbalanced key
    rwa [total, Finset.sum_apply] at hkey
  constructor
  · intro tenantId
    have hcard := card_le_total (hnonneg (.activeTenant tenantId))
      (P := fun caller => (auth caller).tenantId = tenantId ∧ (sys.stages caller).leasesTenant)
      fun caller hlease => hlease.1 ▸ granted_of_leasesTenant hlease.2
    exact Int.ofNat_le.mp (hcard.trans (hlimit (.activeTenant tenantId)))
  · intro projectId
    have hcard := card_le_total (hnonneg (.activeProject projectId))
      (P := fun caller => (auth caller).projectId = projectId ∧ (sys.stages caller).leasesProject)
      fun caller hlease => hlease.1 ▸ granted_of_leasesProject hlease.2
    exact Int.ofNat_le.mp (hcard.trans (hlimit (.activeProject projectId)))
  · intro tenantId hover
    rw [hcounter]
    apply Finset.sum_eq_zero
    intro caller _
    by_cases htenant : (auth caller).tenantId = tenantId
    · rw [counted_of_isOver (hover caller htenant)]
      rfl
    · exact counted_other (by simpa using Ne.symm htenant) (by simp) (by simp)
  · intro projectId hover
    rw [hcounter]
    apply Finset.sum_eq_zero
    intro caller _
    by_cases hproject : (auth caller).projectId = projectId
    · rw [counted_of_isOver (hover caller hproject)]
      rfl
    · exact counted_other (by simp) (by simpa using Ne.symm hproject) (by simp)

theorem idle_balanced : SharedCounters.Balanced (fun caller => countedPlaces (auth caller)) idle := by
  unfold SharedCounters.Balanced total
  exact (Finset.sum_eq_zero fun _ _ => rfl).symm

theorem idle_within : WithinLimit (fun caller => grantedPlaces settings (auth caller))
    (fun key => settings.limit key) idle := by
  have hzero : total (fun caller => grantedPlaces settings (auth caller)) idle = 0 :=
    Finset.sum_eq_zero fun _ _ => rfl
  intro key
  rw [hzero]
  exact Int.natCast_nonneg _

variable [DecidableEq τ] {events : List (Event (System τ Key Stage) (Label τ Choice))}

theorem governor_exact_iff
    (hrun : Run (Steps (governor settings auth)) idle events sys) :
    (∀ e ∈ events, Balanced (fun caller => countedPlaces (auth caller)) e.after) ↔
      ∀ e ∈ events, DeletesIdle (governor settings auth) e :=
  balanced_iff (governor_tallied settings auth) hrun idle_balanced

/-- While no counter above zero is deleted, the governor keeps its limits. -/
theorem leases_within_limits (hrun : Run (Steps (governor settings auth)) idle events sys)
    (hidle : ∀ e ∈ events, DeletesIdle (governor settings auth) e) :
    (∀ e ∈ events, Admitted settings auth e.before ∧ Admitted settings auth e.after) ∧
      Admitted settings auth sys := by
  obtain ⟨hall, hend⟩ := run_within (governor_tallied settings auth)
    (governor_granted settings auth) hrun idle_balanced idle_within hidle
  refine ⟨fun e he => ?_, admitted_of_balanced hend.1 hend.2⟩
  obtain ⟨hbefore, hafter⟩ := hall e he
  exact ⟨admitted_of_balanced hbefore.1 hbefore.2, admitted_of_balanced hafter.1 hafter.2⟩

end Leases

section Runs

def oneCallSettings : Settings where
  Number := fun _ => none
  tenantMetadata := fun _ =>
    some (.node [("prizeEngineAdmission", .node [("maxConcurrent", .number (some 1))])])
  projectMetadata := fun _ => none

def oneProject (_ : Fin 3) : ProjectApiAuth where
  tenantId := 1
  projectId := 1

/-- One call after the other. -/
def serialRun : List (Label (Fin 3) Choice) :=
  List.replicate 8 ⟨0, .next⟩ ++ List.replicate 2 ⟨0, .project⟩ ++ List.replicate 5 ⟨1, .next⟩

theorem serial_within_limits : ∃ events sys,
    Run (Steps (governor oneCallSettings oneProject)) idle events sys ∧
      tenantLeases oneProject sys 1 = 1 ∧
      (∀ e ∈ events, Admitted oneCallSettings oneProject e.before ∧
        Admitted oneCallSettings oneProject e.after) ∧
      Admitted oneCallSettings oneProject sys := by
  obtain ⟨events, sys, hrun, hcheck⟩ := Run.exists_of_check
    (machine (governor oneCallSettings oneProject)) idle serialRun
    (fun events sys => tenantLeases oneProject sys 1 = 1 ∧
      ∀ e ∈ events, DeletesIdle (governor oneCallSettings oneProject) e) (by decide +kernel)
  have hcheck := of_decide_eq_true hcheck
  exact ⟨events, sys, hrun, hcheck.1, leases_within_limits hrun hcheck.2⟩

theorem governor_exact_serial : ∃ events sys,
    Run (Steps (governor oneCallSettings oneProject)) idle events sys ∧
      ∀ e ∈ events, Balanced (fun caller => countedPlaces (oneProject caller)) e.after := by
  obtain ⟨events, sys, hrun, hcheck⟩ := Run.exists_of_check
    (machine (governor oneCallSettings oneProject)) idle serialRun
    (fun events _ => ∀ e ∈ events, DeletesIdle (governor oneCallSettings oneProject) e)
    (by decide +kernel)
  exact ⟨events, sys, hrun, (governor_exact_iff hrun).mpr (of_decide_eq_true hcheck)⟩

/-- The first call brings the counter of the tenant to zero and deletes it after the second call has
counted itself in, so the third call gets in as well. -/
def lostCountRun : List (Label (Fin 3) Choice) :=
  (List.replicate 5 ⟨0, .next⟩ ++ [⟨0, .next⟩, ⟨0, .next⟩]) ++
    [⟨1, .next⟩, ⟨1, .next⟩, ⟨0, .next⟩] ++ List.replicate 3 ⟨1, .next⟩ ++
    List.replicate 5 ⟨2, .next⟩

theorem count_lost : ∃ events sys,
    Run (Steps (governor oneCallSettings oneProject)) idle events sys ∧
      tenantLeases oneProject sys 1 = 2 ∧ oneCallSettings.limit (.activeTenant 1) = 1 := by
  obtain ⟨events, sys, hrun, hcheck⟩ := Run.exists_of_check
    (machine (governor oneCallSettings oneProject)) idle lostCountRun
    (fun _ sys => tenantLeases oneProject sys 1 = 2 ∧
      oneCallSettings.limit (.activeTenant 1) = 1) (by decide +kernel)
  exact ⟨events, sys, hrun, of_decide_eq_true hcheck⟩

end Runs

end RewardSystem.PrizeEngine.Governor
