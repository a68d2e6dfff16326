import RewardSystem.Fairness.Freshness

/-!
# Games that are open when their seed is revealed

The seed of an epoch is revealed only after the epoch. Nothing is dealt from it afterwards, but a
game that was started in the epoch may still be open.
-/

namespace RewardSystem.Fairness

open Blackjack Transition

/-- The row whose seed the call reveals. -/
def revealed (e : Event FairState Call) : Option FairnessSeed :=
  match e.label.operation with
  | .reveal epoch epochSeconds =>
      (revealFairnessSeed e.before.seeds epoch epochSeconds
        (e.before.clock + e.label.elapsed)).2
  | _ => none

def Play.Uses (play : Play) (row : FairnessSeed) : Prop :=
  play.fairness.seed.key = row.key

def Play.Starts (play : Play) (gameId : Nat) : Prop :=
  ∃ deck, play.outcome = .blackjack gameId deck

def HasGame (store : BlackjackStore) (gameId : Nat) : Prop :=
  ∃ game ∈ store.games, game.id = gameId

def HasOpenGame (store : BlackjackStore) (gameId : Nat) : Prop :=
  ∃ game ∈ store.games, game.id = gameId ∧ game.status = .active

def OpenGame (state : FairState) (row : FairnessSeed) (gameId : Nat) : Prop :=
  (∃ play ∈ state.plays, play.Uses row ∧ play.Starts gameId) ∧
    HasOpenGame state.blackjack gameId

/-- The play belongs to the epoch of the row, and the epoch is over. -/
def Straddles (play : Play) (row : FairnessSeed) (now : Int) : Prop :=
  currentEpoch row.epochSeconds play.playedAt = row.epoch ∧
    row.epoch < currentEpoch row.epochSeconds now

section Games

variable {sha256 : String → Digest} {config : PoolSystemConfig}

theorem games_step {store store' : BlackjackStore} {op : Blackjack.Operation} {gameId : Nat}
    (hwf : WellFormed store) (heffect : Effect store store' op) (hgame : HasGame store gameId) :
    HasGame store' gameId ∧ (HasOpenGame store' gameId → HasOpenGame store gameId) := by
  have hmodify : ∀ {game next : BlackjackGame}, store.selectGame game.id = some game →
      game.status = .active → next.id = game.id →
      store'.games = Keyed.modify BlackjackGame.id game.id (fun _ => next) store.games →
      HasGame store' gameId ∧ (HasOpenGame store' gameId → HasOpenGame store gameId) := by
    intro game next hselect hactive hid hgames
    constructor
    · have hids : store'.games.map BlackjackGame.id = store.games.map BlackjackGame.id := by
        rw [hgames, Keyed.map_key_modify fun _ _ => hid]
      obtain ⟨row, hrow, rfl⟩ := hgame
      obtain ⟨row', hrow', hsame⟩ := List.mem_map.mp (hids ▸ List.mem_map_of_mem hrow)
      exact ⟨row', hrow', hsame⟩
    · rintro ⟨row, hrow, rfl, hopen⟩
      rw [hgames, Keyed.mem_modify] at hrow
      rcases hrow with ⟨hrow, _⟩ | ⟨_, _, _, rfl⟩
      · exact ⟨row, hrow, rfl, hopen⟩
      · exact ⟨game, Keyed.mem_of_lookup hselect, hid.symm, hactive⟩
  cases heffect with
  | idle hgames _ =>
      unfold HasGame HasOpenGame
      rw [hgames]
      exact ⟨hgame, fun hopen => hopen⟩
  | played game next _ hselect hactive hid _ hgames => exact hmodify hselect hactive hid hgames
  | raised game next _ _ hselect hactive hid _ hgames => exact hmodify hselect hactive hid hgames
  | started next _ _ hid _ hgames =>
      unfold HasOpenGame
      rw [hgames]
      obtain ⟨row, hrow, rfl⟩ := hgame
      refine ⟨⟨row, by simp [hgames, hrow], rfl⟩, ?_⟩
      rintro ⟨game, hgame, hsame, hopen⟩
      rcases List.mem_append.mp hgame with hgame | hgame
      · exact ⟨game, hgame, hsame, hopen⟩
      · obtain rfl := List.mem_singleton.mp hgame
        exact absurd (hsame.symm.trans hid) (not_mem_of_nextGameId hwf row hrow)

theorem blackjack_step {state after : FairState} {call : Call}
    (h : step sha256 config state call = .ok after) :
    after.blackjack = state.blackjack ∨
      ∃ op, Blackjack.step config state.blackjack op = .ok after.blackjack := by
  obtain ⟨elapsed, operation⟩ := call
  unfold step at h
  cases operation with
  | commit epochSeconds random =>
      obtain rfl := Except.ok.inj h
      exact .inl rfl
  | quickEight request random =>
      obtain ⟨_, _, h⟩ := ApiError.bind_eq_ok.mp h
      obtain ⟨_, _, h⟩ := ApiError.bind_eq_ok.mp h
      obtain rfl := Except.ok.inj h
      exact .inl rfl
  | draw request epochSeconds random =>
      obtain ⟨_, _, h⟩ := ApiError.bind_eq_ok.mp h
      obtain rfl := Except.ok.inj h
      exact .inl rfl
  | startBlackjack request epochSeconds random =>
      obtain ⟨drawn, _, h⟩ := ApiError.bind_eq_ok.mp h
      obtain ⟨blackjack, hstart, h⟩ := ApiError.bind_eq_ok.mp h
      obtain rfl := Except.ok.inj h
      exact .inr ⟨.start request.checks { request.start with deck := drawn.deck } _, hstart⟩
  | actOnBlackjack checks userId gameId action =>
      obtain ⟨blackjack, hact, h⟩ := ApiError.bind_eq_ok.mp h
      obtain rfl := Except.ok.inj h
      exact .inr ⟨.act checks userId gameId action _, hact⟩
  | expireBlackjackTurn userId =>
      obtain ⟨blackjack, hexpire, h⟩ := ApiError.bind_eq_ok.mp h
      obtain rfl := Except.ok.inj h
      exact .inr ⟨.timeout userId _, hexpire⟩
  | reveal epoch epochSeconds =>
      obtain rfl := Except.ok.inj h
      exact .inl rfl

theorem wellFormed_fairStep {state after : FairState} {call : Call}
    (hwf : WellFormed state.blackjack) (h : step sha256 config state call = .ok after) :
    WellFormed after.blackjack := by
  rcases blackjack_step h with hsame | ⟨op, hop⟩
  · rw [hsame]
    exact hwf
  · exact wellFormed_step hwf (step_effect hwf hop)

theorem games_fairStep {state after : FairState} {call : Call} {gameId : Nat}
    (hwf : WellFormed state.blackjack) (h : step sha256 config state call = .ok after)
    (hgame : HasGame state.blackjack gameId) :
    HasGame after.blackjack gameId ∧
      (HasOpenGame after.blackjack gameId → HasOpenGame state.blackjack gameId) := by
  rcases blackjack_step h with hsame | ⟨op, hop⟩
  · rw [hsame]
    exact ⟨hgame, fun hopen => hopen⟩
  · exact games_step hwf (step_effect hwf hop) hgame

theorem hasOpenGame_of_run {state t : FairState} {events : List (Event FairState Call)}
    {gameId : Nat} (hrun : Run (Accepts (step sha256 config)) state events t)
    (hwf : WellFormed state.blackjack) (hgame : HasGame state.blackjack gameId)
    (hopen : HasOpenGame t.blackjack gameId) : HasOpenGame state.blackjack gameId := by
  induction hrun with
  | nil => exact hopen
  | cons hstep _ ih =>
      obtain ⟨hgame', hback⟩ := games_fairStep hwf hstep hgame
      exact hback (ih (wellFormed_fairStep hwf hstep) hgame' hopen)

end Games

section Epochs

variable {sha256 : String → Digest} {config : PoolSystemConfig} {state after t : FairState}
  {events : List (Event FairState Call)} {row : FairnessSeed}

theorem currentEpoch_mono {epochSeconds now now' : Int} (hpos : 0 < epochSeconds)
    (hle : now ≤ now') : currentEpoch epochSeconds now ≤ currentEpoch epochSeconds now' :=
  Int.ediv_le_ediv (by omega) hle

theorem not_uses_of_epoch_over {play : Play} {now : Int} (hfair : PlayedFairly sha256 state play)
    (hpos : 0 < row.epochSeconds) (hover : row.epoch < currentEpoch row.epochSeconds now)
    (hle : now ≤ play.playedAt) : ¬play.Uses row := by
  intro huses
  obtain ⟨hepoch, hseconds⟩ := Prod.mk.inj huses
  have hplayed := hfair.epoch
  rw [hepoch, hseconds] at hplayed
  have hmono := currentEpoch_mono hpos hle
  omega

theorem plays_step {call : Call} (h : step sha256 config state call = .ok after) :
    state.clock ≤ after.clock ∧
      ∃ rest, after.plays = state.plays ++ rest ∧ ∀ play ∈ rest, play.playedAt = after.clock := by
  obtain ⟨hclock, hdoes⟩ := does_step h
  refine ⟨by omega, ?_⟩
  cases hdoes with
  | kept _ hplays => exact ⟨[], by simp [hplays], by simp⟩
  | committed _ _ _ hplays => exact ⟨[], by simp [hplays], by simp⟩
  | played _ _ play _ _ hplayedAt _ hplays => exact ⟨[play], hplays, by simpa using hplayedAt⟩
  | revealed _ _ _ hplays => exact ⟨[], by simp [hplays], by simp⟩

theorem plays_of_run (hrun : Run (Accepts (step sha256 config)) state events t) :
    state.clock ≤ t.clock ∧
      ∃ rest, t.plays = state.plays ++ rest ∧ ∀ play ∈ rest, state.clock ≤ play.playedAt := by
  induction hrun with
  | nil => exact ⟨le_rfl, [], by simp, by simp⟩
  | cons hstep _ ih =>
      obtain ⟨hle, first, hfirst, hnow⟩ := plays_step hstep
      obtain ⟨hle', rest, hrest, hlater⟩ := ih
      refine ⟨hle.trans hle', first ++ rest, by simp [hrest, hfirst], ?_⟩
      intro play hplay
      rcases List.mem_append.mp hplay with hplay | hplay
      · exact (hnow play hplay).symm ▸ hle
      · exact hle.trans (hlater play hplay)

theorem revealed_spec {e : Event FairState Call} (h : revealed e = some row) :
    0 < row.epochSeconds ∧
      row.epoch < currentEpoch row.epochSeconds (e.before.clock + e.label.elapsed) ∧
      row.committed ∈ e.before.seeds.map FairnessSeed.committed := by
  unfold revealed at h
  split at h
  · rename_i epoch epochSeconds _
    obtain ⟨hkey, hover, hstored⟩ := revealFairnessSeed_spec h
    obtain ⟨hepoch, hseconds⟩ := Prod.mk.inj hkey
    rw [hepoch, hseconds]
    exact ⟨resolveEpochSeconds_pos epochSeconds, hover, hstored⟩
  · cases h

/-- **A seed is revealed after its epoch.** All plays from it were made in the epoch, and none is
made afterwards. Games from it that are still open were started in the epoch and have been open ever
since. -/
theorem straddles_of_openGame {earlier later : List (Event FairState Call)}
    {e : Event FairState Call} (hkeys : Keyed.HasKeys FairnessSeed.key state.seeds)
    (hplays : state.plays = []) (hgames : state.blackjack.games = [])
    (hrun : Run (Accepts (step sha256 config)) state (earlier ++ e :: later) t)
    (hreveals : revealed e = some row) :
    (∀ gameId, OpenGame e.before row gameId →
      (∀ play ∈ e.before.plays, play.Uses row → play.Starts gameId →
        play.fairness.seed.seed = row.seed ∧ Straddles play row e.after.clock) ∧
      ∀ e' ∈ earlier, HasGame e'.after.blackjack gameId →
        HasOpenGame e'.after.blackjack gameId) ∧
    ∃ rest, t.plays = e.before.plays ++ rest ∧ ∀ play ∈ rest, ¬play.Uses row := by
  obtain ⟨hbefore, hstep, hafter⟩ := hrun.split
  have hhistory := fairHistory_of_run hkeys hplays hbefore
  obtain ⟨hpos, hover, hstored⟩ := revealed_spec hreveals
  rw [← (does_step hstep).1] at hover
  constructor
  · rintro gameId ⟨_, hopen⟩
    constructor
    · intro play hplay huses _
      have hfair := hhistory.plays play hplay
      refine ⟨committed_unique hhistory.keys hfair.stored hstored huses, ?_, hover⟩
      obtain ⟨hsame, hsame'⟩ := Prod.mk.inj huses
      rw [← hsame, ← hsame']
      exact hfair.epoch.symm
    · intro e' he' hgame
      obtain ⟨first, last, rfl⟩ := List.append_of_mem he'
      obtain ⟨hfirst, hstep', hlast⟩ := hbefore.split
      have hwf : WellFormed e'.after.blackjack := by
        have hstart : WellFormed state.blackjack := by
          constructor
          · simp [Keyed.HasKeys, hgames]
          · simp [hgames]
          · simp [hgames]
        exact ((hfirst.append (.cons hstep' (.nil _))).invariant
          (I := fun state => WellFormed state.blackjack)
          (fun _ _ _ hwf hstep => wellFormed_fairStep hwf hstep) hstart)
      exact hasOpenGame_of_run hlast hwf hgame hopen
  · have hhistory' := fairHistory_of_run hkeys hplays hrun
    obtain ⟨_, first, hfirst, hnow⟩ := plays_step hstep
    obtain ⟨_, rest, hrest, hlate⟩ := plays_of_run hafter
    refine ⟨first ++ rest, by simp [hrest, hfirst], ?_⟩
    intro play hplay
    have hlater : e.after.clock ≤ play.playedAt := by
      rcases List.mem_append.mp hplay with hplay | hplay
      · exact (hnow play hplay).ge
      · exact hlate play hplay
    have hplay : play ∈ t.plays := by
      rw [hrest, hfirst, List.append_assoc]
      exact List.mem_append_right _ hplay
    exact not_uses_of_epoch_over (hhistory'.plays play hplay) hpos hover hlater

end Epochs

section Example

instance (play : Play) (gameId : Nat) : Decidable (play.Starts gameId) :=
  match h : play.outcome with
  | .blackjack id deck =>
      decidable_of_iff (id = gameId) (by simp [Play.Starts, h])
  | .quickEight .. => .isFalse (by simp [Play.Starts, h])
  | .draw _ => .isFalse (by simp [Play.Starts, h])

instance (state : FairState) (row : FairnessSeed) (gameId : Nat) :
    Decidable (OpenGame state row gameId) :=
  inferInstanceAs (Decidable ((∃ play ∈ state.plays, play.fairness.seed.key = row.key ∧ _) ∧
    ∃ game ∈ state.blackjack.games, _))

def revealFirstEpoch : Call :=
  { elapsed := 2000
    operation := .reveal 0 none }

def revealsOpenGame (events : List (Event FairState Call)) : Bool :=
  match events with
  | [_, e] =>
      match revealed e with
      | some row => decide (OpenGame e.before row 1)
      | none => false
  | _ => false

theorem exists_reveal_of_openGame :
    ∃ start e row t, Run (Accepts (step digestOfLength noReserve)) noPlays [start, e] t ∧
      revealed e = some row ∧ OpenGame e.before row 1 := by
  obtain ⟨events, t, hrun, hcheck⟩ := Run.exists_of_check (step digestOfLength noReserve) noPlays
    [startBlackjackWith "lucky" 3599000, revealFirstEpoch] (fun events _ => revealsOpenGame events)
    (by decide +kernel)
  unfold revealsOpenGame at hcheck
  split at hcheck
  · rename_i start e
    split at hcheck
    · rename_i row hrow
      exact ⟨start, e, row, t, hrun, hrow, of_decide_eq_true hcheck⟩
    · cases hcheck
  · cases hcheck

/-- A game is started a second before its epoch ends, and two seconds later the seed is
revealed. -/
theorem not_closed_of_revealFirstEpoch :
    ¬∀ sha256 config state earlier e later t row,
      Keyed.HasKeys FairnessSeed.key state.seeds → state.plays = [] → state.blackjack.games = [] →
      Run (Accepts (step sha256 config)) state (earlier ++ e :: later) t →
      revealed e = some row → ∀ gameId, ¬OpenGame e.before row gameId := by
  intro hclaim
  obtain ⟨start, e, row, t, hrun, hrow, hopen⟩ := exists_reveal_of_openGame
  exact hclaim digestOfLength noReserve noPlays [start] e [] t row List.nodup_nil rfl rfl hrun hrow
    1 hopen

theorem straddles_of_openGame_revealFirstEpoch :
    ∃ start e row t, Run (Accepts (step digestOfLength noReserve)) noPlays [start, e] t ∧
      OpenGame e.before row 1 ∧
      (∀ gameId, OpenGame e.before row gameId →
        (∀ play ∈ e.before.plays, play.Uses row → play.Starts gameId →
          play.fairness.seed.seed = row.seed ∧ Straddles play row e.after.clock) ∧
        ∀ e' ∈ [start], HasGame e'.after.blackjack gameId →
          HasOpenGame e'.after.blackjack gameId) ∧
      ∃ rest, t.plays = e.before.plays ++ rest ∧ ∀ play ∈ rest, ¬play.Uses row := by
  obtain ⟨start, e, row, t, hrun, hrow, hopen⟩ := exists_reveal_of_openGame
  have hkeys : Keyed.HasKeys FairnessSeed.key noPlays.seeds := List.nodup_nil
  have hrun' : Run (Accepts (step digestOfLength noReserve)) noPlays ([start] ++ e :: []) t := hrun
  exact ⟨start, e, row, t, hrun, hopen, straddles_of_openGame hkeys rfl rfl hrun' hrow⟩

end Example

end RewardSystem.Fairness
