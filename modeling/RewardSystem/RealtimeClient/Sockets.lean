import RewardSystem.RealtimeClient.Client

/-!
# The sockets of the realtime client

What a step can do to the sockets, the token fetch and the timer of the client. At any time one of
these at most is under way, so at most one socket is not closed.
-/

namespace RewardSystem.RealtimeClient

/-- The part of the client that decides which sockets there are. -/
structure Links where
  socket : Option Nat
  sockets : List SocketState
  pendingTokens : Nat
  reconnectTimer : Bool
  disposed : Bool
  started : Bool

namespace Links

def IsOpen (links : Links) (id : Nat) : Prop :=
  links.sockets[id]? = some .connecting ∨ links.sockets[id]? = some .wsOpen

/-- The sockets after `socket.close()` on socket `id`. -/
def closing (links : Links) (id : Nat) : List SocketState :=
  match links.sockets[id]? with
  | some .connecting | some .wsOpen => links.sockets.set id .closing
  | _ => links.sockets

end Links

def Client.links (client : Client) : Links :=
  { socket := client.socket
    sockets := client.sockets
    pendingTokens := client.pendingTokens
    reconnectTimer := client.reconnectTimer
    disposed := client.disposed
    started := client.started }

/-- What a step can do to the links of a client. -/
inductive Relinks (links : Links) : Links → Prop
  | same : Relinks links links
  | start (hstarted : links.started = false) (hdisposed : links.disposed = false) :
      Relinks links
        { links with
          started := true, reconnectTimer := false, pendingTokens := links.pendingTokens + 1 }
  | reconnect (htimer : links.reconnectTimer = true) (hdisposed : links.disposed = false) :
      Relinks links
        { links with reconnectTimer := false, pendingTokens := links.pendingTokens + 1 }
  | stop :
      Relinks links
        { links with
          disposed := true
          reconnectTimer := false
          sockets := (links.socket.map links.closing).getD links.sockets
          socket := none }
  | noToken (hpending : 0 < links.pendingTokens) :
      Relinks links { links with pendingTokens := links.pendingTokens - 1 }
  | tokenFailed (hpending : 0 < links.pendingTokens) :
      Relinks links
        { links with
          pendingTokens := links.pendingTokens - 1
          reconnectTimer := links.reconnectTimer || !links.disposed }
  | dial (hpending : 0 < links.pendingTokens) :
      Relinks links
        { links with
          pendingTokens := links.pendingTokens - 1
          sockets := links.sockets ++ [.connecting]
          socket := some links.sockets.length }
  | opened (id : Nat) (hstate : links.sockets[id]? = some .connecting) :
      Relinks links { links with sockets := links.sockets.set id .wsOpen }
  | closing (id : Nat) (hstate : links.sockets[id]? = some .wsOpen) :
      Relinks links { links with sockets := links.sockets.set id .closing }
  | closed (id : Nat) {state : SocketState} (hstate : links.sockets[id]? = some state)
      (hopen : state ≠ .closed) (hdisposed : links.disposed = true) :
      Relinks links { links with sockets := links.sockets.set id .closed }
  | lost (id : Nat) (reconnects : Bool) {state : SocketState}
      (hstate : links.sockets[id]? = some state) (hopen : state ≠ .closed)
      (hdisposed : links.disposed = false) :
      Relinks links
        { links with
          sockets := links.sockets.set id .closed
          socket := none
          reconnectTimer := links.reconnectTimer || reconnects }

namespace Client

variable (client : Client)

/-- `after` differs from `client` only in what was sent. -/
def SendsOnly (after : Client) : Prop :=
  ∃ sent, after = { client with sent := sent }

theorem sendsOnly_send (id : Nat) (message : ClientMessage) :
    client.SendsOnly (client.send id message) := by
  unfold send
  split
  · exact ⟨_, rfl⟩
  · exact ⟨client.sent, rfl⟩

variable {client} in
theorem SendsOnly.trans {middle after : Client} (hfirst : client.SendsOnly middle)
    (hsecond : middle.SendsOnly after) : client.SendsOnly after := by
  obtain ⟨sent, rfl⟩ := hfirst
  obtain ⟨sent', rfl⟩ := hsecond
  exact ⟨sent', rfl⟩

theorem sendsOnly_applyTopicDiff : client.SendsOnly client.applyTopicDiff := by
  have hsame : client.SendsOnly client := ⟨client.sent, rfl⟩
  unfold applyTopicDiff
  split
  · exact hsame
  · split
    · exact hsame
    · dsimp only
      split
      · split
        · exact (client.sendsOnly_send _ _).trans (sendsOnly_send _ _ _)
        · exact client.sendsOnly_send _ _
      · split
        · exact client.sendsOnly_send _ _
        · exact hsame

@[simp]
theorem links_exchange (exchange : Exchange) : (client.exchange exchange).links = client.links :=
  rfl

@[simp]
theorem links_setStatus (status : ConnectionStatus) :
    (client.setStatus status).links = client.links := by
  unfold setStatus
  split <;> rfl

@[simp]
theorem links_send (id : Nat) (message : ClientMessage) :
    (client.send id message).links = client.links := by
  obtain ⟨sent, hsent⟩ := client.sendsOnly_send id message
  rw [hsent]
  rfl

@[simp]
theorem links_applyTopicDiff : client.applyTopicDiff.links = client.links := by
  obtain ⟨sent, hsent⟩ := client.sendsOnly_applyTopicDiff
  rw [hsent]
  rfl

theorem links_scheduleReconnect :
    client.scheduleReconnect.links =
      { client.links with
        reconnectTimer := client.links.reconnectTimer || !client.links.disposed } := by
  unfold scheduleReconnect clearReconnectTimer links
  cases hdisposed : client.disposed <;> simp [hdisposed]

theorem links_connect (hdisposed : client.disposed = false) :
    client.connect.links =
      { client.links with
        reconnectTimer := false, pendingTokens := client.links.pendingTokens + 1 } := by
  unfold connect
  simp only [hdisposed, Bool.false_eq_true, if_false]
  generalize (if client.shouldAttemptResume = true then ConnectionStatus.reconnecting
    else .connecting) = status
  have hlinks : (client.clearReconnectTimer.setStatus status).links =
      { client.links with reconnectTimer := false } :=
    links_setStatus _ status
  calc
    _ = { (client.clearReconnectTimer.setStatus status).links with
          pendingTokens := (client.clearReconnectTimer.setStatus status).links.pendingTokens + 1 } :=
        rfl
    _ = _ := by rw [hlinks]

theorem links_observe (topic event : String) (sentAt : Option Int) (data : EventData)
    (receivedAt : Int) : (client.observe topic event sentAt data receivedAt).links = client.links := by
  unfold observe
  split
  · rfl
  · dsimp only
    split <;> rfl

theorem links_onHello (id : Nat) (resumeToken : String) (subscriptions : List String) :
    (client.onHello id resumeToken subscriptions).links = client.links := by
  unfold onHello
  dsimp only
  split
  · exact links_send _ id _
  · split
    · exact links_applyTopicDiff _
    · rw [links_setStatus]
      exact links_applyTopicDiff _

theorem links_onResumed (subscriptions : List String) :
    (client.onResumed subscriptions).links = client.links := by
  unfold onResumed
  rw [links_setStatus]
  exact links_applyTopicDiff _

theorem links_onSubscribed (topics : List String) :
    (client.onSubscribed topics).links = client.links := by
  unfold onSubscribed
  dsimp only
  split
  · rfl
  · exact links_setStatus _ _

theorem links_onError (code message : String) :
    (client.onError code message).links = client.links := by
  unfold onError
  split
  · rw [links_exchange, links_applyTopicDiff]
    exact links_setStatus _ _
  · rfl

theorem links_onEvent (topic event : String) (sentAt : Option Int) (data : EventData)
    (receivedAt : Int) : (client.onEvent topic event sentAt data receivedAt).links = client.links := by
  unfold onEvent
  dsimp only
  split
  · exact client.links_observe topic event sentAt data receivedAt
  · split
    · rw [links_exchange, links_observe]
    · exact client.links_observe topic event sentAt data receivedAt

theorem links_onMessage (id : Nat) (message : ServerMessage) (receivedAt : Int) :
    (client.onMessage id message receivedAt).links = client.links := by
  cases message with
  | ping pingId => exact client.links_send id _
  | pong => rfl
  | hello resumeToken subscriptions => exact client.links_onHello id resumeToken subscriptions
  | resumed subscriptions => exact client.links_onResumed subscriptions
  | subscribed topics => exact client.links_onSubscribed topics
  | unsubscribed topics => rfl
  | error code message => exact client.links_onError code message
  | event topic event sentAt data => exact client.links_onEvent topic event sentAt data receivedAt

theorem links_markSynchronized : client.markSynchronized.links = client.links := by
  unfold markSynchronized
  dsimp only
  split
  · exact links_setStatus _ _
  · rfl

theorem links_syncTopics (topics : List String) :
    (client.syncTopics topics).links = client.links :=
  links_applyTopicDiff _

theorem closeSocket_eq (id : Nat) :
    client.closeSocket id = { client with sockets := client.links.closing id } := by
  simp only [closeSocket, Links.closing, links]
  cases client.sockets[id]? with
  | none => rfl
  | some state => cases state <;> rfl

theorem links_stop :
    client.stop.links =
      { client.links with
        disposed := true
        reconnectTimer := false
        sockets := (client.links.socket.map client.links.closing).getD client.links.sockets
        socket := none } := by
  unfold stop
  cases hsocket : client.socket with
  | none => simp [clearReconnectTimer, links, hsocket]
  | some id =>
      simp only [clearReconnectTimer, hsocket, closeSocket_eq, links, Option.map_some,
        Option.getD_some]
      rfl

theorem links_reconnecting :
    ({ client with shouldAttemptResume := true }.setStatus .reconnecting).scheduleReconnect.links =
      { client.links with
        reconnectTimer := client.links.reconnectTimer || !client.links.disposed } := by
  rw [links_scheduleReconnect, links_setStatus]
  rfl

theorem links_onClose (code : Nat) (hdisposed : client.disposed = false) :
    ∃ reconnects, (client.onClose code).links =
      { client.links with
        socket := none, reconnectTimer := client.links.reconnectTimer || reconnects } := by
  unfold onClose
  rw [if_neg (by simp [hdisposed])]
  dsimp only
  split
  · exact ⟨false, by simp [exchange, links]⟩
  · have hlinks := links_reconnecting { client with socket := none, subscribedTopics := [] }
    exact ⟨true, hlinks.trans (by simp [links, hdisposed])⟩

end Client

theorem relinks_connect {client : Client} (htimer : client.reconnectTimer = true) :
    Relinks client.links client.connect.links := by
  cases hdisposed : client.disposed with
  | true =>
      simp only [Client.connect, hdisposed, if_true]
      exact .same
  | false =>
      rw [client.links_connect hdisposed]
      exact .reconnect htimer hdisposed

theorem relinks_start (client : Client) : Relinks client.links client.start.links := by
  unfold Client.start
  split
  · exact .same
  · rename_i hnew
    rw [not_or, Bool.not_eq_true, Bool.not_eq_true] at hnew
    obtain ⟨hstarted, hdisposed⟩ := hnew
    have hlinks := Client.links_connect
      ({ client with started := true }.exchange (.connectionStatus client.currentStatus)) hdisposed
    rw [hlinks]
    exact .start hstarted hdisposed

theorem relinks_authToken (client : Client)
    (answer : Except (Option String) (Option String)) :
    Relinks client.links (step client (.authToken answer)).links := by
  simp only [step]
  split
  · exact .same
  · rename_i hpending
    have hpending : 0 < client.links.pendingTokens := Nat.pos_of_ne_zero hpending
    unfold Client.continueConnect
    cases answer with
    | error message =>
        dsimp only
        rw [Client.links_reconnecting]
        exact .tokenFailed hpending
    | ok token =>
        dsimp only
        split
        · exact .noToken hpending
        · exact .dial hpending

theorem relinks_socketClosed (client : Client) (id code : Nat) :
    Relinks client.links (step client (.socketClosed id code)).links := by
  simp only [step]
  split
  · exact .same
  · exact .same
  · rename_i hnone hopen
    obtain ⟨state, hstate⟩ := Option.ne_none_iff_exists'.mp hnone
    have hopen : state ≠ .closed := fun hclosed => hopen (hclosed ▸ hstate)
    by_cases hdisposed : client.disposed = true
    · rw [Client.onClose, if_pos hdisposed]
      exact .closed id hstate hopen hdisposed
    · rw [Bool.not_eq_true] at hdisposed
      obtain ⟨reconnects, hlinks⟩ :=
        Client.links_onClose { client with sockets := client.sockets.set id .closed } code
          hdisposed
      rw [hlinks]
      exact .lost id reconnects hstate hopen hdisposed

/-- **What a step can do.** -/
theorem relinks_step (client : Client) (operation : Operation) :
    Relinks client.links (step client operation).links := by
  cases operation with
  | start => exact relinks_start client
  | stop =>
      simp only [step, client.links_stop]
      exact .stop
  | syncTopics topics =>
      simp only [step, client.links_syncTopics topics]
      exact .same
  | markSynchronized =>
      simp only [step, client.links_markSynchronized]
      exact .same
  | authToken answer => exact relinks_authToken client answer
  | reconnectTimeout =>
      simp only [step]
      split
      · rename_i htimer
        exact relinks_connect htimer
      · exact .same
  | socketOpened id =>
      simp only [step]
      split
      · rename_i hstate
        exact .opened id hstate
      · exact .same
  | socketMessage id message receivedAt =>
      simp only [step]
      split
      · exact .same
      · split
        · rw [client.links_onMessage]
          exact .same
        · exact .same
  | socketClosing id =>
      simp only [step]
      split
      · rename_i hstate
        exact .closing id hstate
      · exact .same
  | socketClosed id code => exact relinks_socketClosed client id code

/-! ## One socket at a time -/

/-- At most one of a token fetch, the timer and a socket that is not closed is under way. -/
structure Single (links : Links) : Prop where
  waits : links.pendingTokens + links.reconnectTimer.toNat ≤ 1
  idle : 0 < links.pendingTokens ∨ links.reconnectTimer = true →
    ∀ (id : Nat) (state : SocketState), links.sockets[id]? = some state → state = .closed
  newest : ∀ (id : Nat) (state : SocketState), links.sockets[id]? = some state →
    state ≠ .closed → id + 1 = links.sockets.length
  held : ∀ id, links.IsOpen id → links.socket = some id
  fresh : links.started = false →
    links.pendingTokens = 0 ∧ links.reconnectTimer = false ∧ links.sockets = []
  stopped : links.disposed = true → links.reconnectTimer = false

theorem getElem?_set_cases {α : Type*} {list : List α} {i j : Nat} {a b : α}
    (hget : (list.set i a)[j]? = some b) : (j = i ∧ b = a) ∨ (j ≠ i ∧ list[j]? = some b) := by
  by_cases hij : j = i
  · subst hij
    have hlt : j < list.length := by
      by_contra hge
      rw [List.set_eq_of_length_le (by omega), List.getElem?_eq_none (by omega)] at hget
      cases hget
    rw [List.getElem?_set_self hlt] at hget
    exact .inl ⟨rfl, (Option.some.inj hget).symm⟩
  · rw [List.getElem?_set_ne (Ne.symm hij)] at hget
    exact .inr ⟨hij, hget⟩

namespace Single

variable {links : Links} {id : Nat} {state : SocketState}

theorem of_closed (hwaits : links.pendingTokens + links.reconnectTimer.toNat ≤ 1)
    (hclosed : ∀ (id : Nat) (state : SocketState),
      links.sockets[id]? = some state → state = .closed)
    (hstarted : links.started = true)
    (hstopped : links.disposed = true → links.reconnectTimer = false) : Single links where
  waits := hwaits
  idle := fun _ => hclosed
  newest := fun id state hstate hopen => absurd (hclosed id state hstate) hopen
  held := by
    rintro id (hopen | hopen)
    · cases hclosed id _ hopen
    · cases hclosed id _ hopen
  fresh := by simp [hstarted]
  stopped := hstopped

variable (hsingle : Single links)
include hsingle

theorem of_not_closed (hstate : links.sockets[id]? = some state) (hopen : state ≠ .closed) :
    links.pendingTokens = 0 ∧ links.reconnectTimer = false ∧ links.started = true ∧
      ∀ (other : Nat) (state' : SocketState), other ≠ id →
        links.sockets[other]? = some state' → state' = .closed := by
  have hwaits : ¬(0 < links.pendingTokens ∨ links.reconnectTimer = true) :=
    fun hwaits => hopen (hsingle.idle hwaits id state hstate)
  rw [not_or, Bool.not_eq_true] at hwaits
  have hstarted : links.started = true := by
    by_contra hfresh
    rw [Bool.not_eq_true] at hfresh
    simp [(hsingle.fresh hfresh).2.2] at hstate
  refine ⟨by omega, hwaits.2, hstarted, ?_⟩
  intro other state' hne hother
  by_contra hclosed
  have hid : id + 1 = links.sockets.length := hsingle.newest id state hstate hopen
  have hother' : other + 1 = links.sockets.length := hsingle.newest other state' hother hclosed
  omega

theorem set (hstate : links.sockets[id]? = some state) (hopen : state ≠ .closed)
    (state' : SocketState)
    (hheld : state' = .connecting ∨ state' = .wsOpen → links.socket = some id) :
    Single { links with sockets := links.sockets.set id state' } := by
  obtain ⟨hpending, htimer, hstarted, hothers⟩ := hsingle.of_not_closed hstate hopen
  refine ⟨hsingle.waits, by simp [hpending, htimer], ?_, ?_, by simp [hstarted], hsingle.stopped⟩
  · intro other state'' hother hopen'
    rw [List.length_set]
    rcases getElem?_set_cases hother with ⟨rfl, rfl⟩ | ⟨-, hother⟩
    · exact hsingle.newest other state hstate hopen
    · exact hsingle.newest other state'' hother hopen'
  · rintro other (hother | hother)
    all_goals
      rcases getElem?_set_cases hother with ⟨rfl, rfl⟩ | ⟨hne, hother⟩
      · exact hheld (by simp)
      · cases hothers other _ hne hother

theorem started (hwaits : 0 < links.pendingTokens ∨ links.reconnectTimer = true) :
    links.started = true := by
  by_contra hfresh
  rw [Bool.not_eq_true] at hfresh
  obtain ⟨hpending, htimer, -⟩ := hsingle.fresh hfresh
  rcases hwaits with hwaits | hwaits
  · omega
  · rw [htimer] at hwaits
    cases hwaits

theorem pending_and_timer (hpending : 0 < links.pendingTokens) :
    links.pendingTokens = 1 ∧ links.reconnectTimer = false := by
  have hwaits := hsingle.waits
  cases htimer : links.reconnectTimer with
  | false => exact ⟨by omega, rfl⟩
  | true =>
      rw [htimer, Bool.toNat_true] at hwaits
      omega

theorem halt (hclosed : ∀ id, ¬links.IsOpen id) :
    Single { links with disposed := true, reconnectTimer := false, socket := none } := by
  have hwaits := hsingle.waits
  refine ⟨by simp; omega, ?_, hsingle.newest, ?_, ?_, by simp⟩
  · rintro (hpending | htimer)
    · exact hsingle.idle (.inl hpending)
    · cases htimer
  · intro id hopen
    exact absurd hopen (hclosed id)
  · intro hfresh
    exact ⟨(hsingle.fresh hfresh).1, rfl, (hsingle.fresh hfresh).2.2⟩

theorem stop :
    Single
      { links with
        disposed := true
        reconnectTimer := false
        sockets := (links.socket.map links.closing).getD links.sockets
        socket := none } := by
  have hheld := hsingle.held
  cases hsocket : links.socket with
  | none =>
      refine hsingle.halt fun id hopen => ?_
      rw [hheld id hopen] at hsocket
      cases hsocket
  | some id =>
      rw [Option.map_some, Option.getD_some]
      have hothers : ∀ other, links.IsOpen other → other = id := fun other hopen =>
        Option.some.inj ((hheld other hopen).symm.trans hsocket)
      -- The socket that is closed is the only one that can be open.
      have hclosing : ∀ state, links.sockets[id]? = some state → state ≠ .closed →
          Single { links with
            disposed := true
            reconnectTimer := false
            sockets := links.sockets.set id .closing
            socket := none } := by
        intro state hstate hopen
        have hset := hsingle.set hstate hopen .closing (by simp)
        refine hset.halt fun other hother => ?_
        have hlast := (hsingle.of_not_closed hstate hopen).2.2.2
        rcases hother with hother | hother
        all_goals
          rcases getElem?_set_cases hother with ⟨-, hstate'⟩ | ⟨hne, hother⟩
          · cases hstate'
          · cases hlast other _ hne hother
      unfold Links.closing
      split
      · rename_i hstate
        exact hclosing _ hstate (by simp)
      · rename_i hstate
        exact hclosing _ hstate (by simp)
      · rename_i hconnecting hopen
        refine hsingle.halt fun other hother => ?_
        obtain rfl := hothers other hother
        exact hother.elim hconnecting hopen

theorem dial (hpending : 0 < links.pendingTokens) :
    Single
      { links with
        pendingTokens := links.pendingTokens - 1
        sockets := links.sockets ++ [.connecting]
        socket := some links.sockets.length } := by
  have hlast : ∀ id state, (links.sockets ++ [SocketState.connecting])[id]? = some state →
      state ≠ .closed → id = links.sockets.length := by
    intro id state hstate hopen
    rcases Nat.lt_trichotomy id links.sockets.length with hlt | heq | hgt
    · rw [List.getElem?_append_left hlt] at hstate
      exact absurd (hsingle.idle (.inl hpending) id state hstate) hopen
    · exact heq
    · rw [List.getElem?_eq_none (by simp; omega)] at hstate
      cases hstate
  obtain ⟨hone, htimer⟩ := hsingle.pending_and_timer hpending
  refine ⟨by simp [hone, htimer], by simp [hone, htimer], ?_, ?_, ?_, hsingle.stopped⟩
  · intro id state hstate hopen
    simp [hlast id state hstate hopen]
  · rintro id (hopen | hopen)
    all_goals exact congrArg some (hlast id _ hopen (by simp)).symm
  · intro hfresh
    have hnone := (hsingle.fresh hfresh).1
    omega

end Single

theorem single_of_relinks {links after : Links} (hsingle : Single links)
    (hrelinks : Relinks links after) : Single after := by
  have hwaits := hsingle.waits
  cases hrelinks with
  | same => exact hsingle
  | start hstarted hdisposed =>
      obtain ⟨hpending, -, hsockets⟩ := hsingle.fresh hstarted
      exact Single.of_closed (by simp [hpending]) (by simp [hsockets]) rfl (by simp)
  | reconnect htimer hdisposed =>
      rw [htimer, Bool.toNat_true] at hwaits
      exact Single.of_closed (by simp; omega) (hsingle.idle (.inr htimer))
        (hsingle.started (.inr htimer)) (by simp)
  | stop => exact hsingle.stop
  | noToken hpending =>
      exact Single.of_closed (by dsimp only; omega) (hsingle.idle (.inl hpending))
        (hsingle.started (.inl hpending)) hsingle.stopped
  | tokenFailed hpending =>
      obtain ⟨hone, htimer⟩ := hsingle.pending_and_timer hpending
      exact Single.of_closed (by simp [hone, Bool.toNat_le]) (hsingle.idle (.inl hpending))
        (hsingle.started (.inl hpending)) (by simp [htimer])
  | dial hpending => exact hsingle.dial hpending
  | opened id hstate =>
      exact hsingle.set hstate (by simp) .wsOpen fun _ => hsingle.held id (.inl hstate)
  | closing id hstate => exact hsingle.set hstate (by simp) .closing (by simp)
  | closed id hstate hopen hdisposed => exact hsingle.set hstate hopen .closed (by simp)
  | lost id reconnects hstate hopen hdisposed =>
      obtain ⟨hpending, -, hstarted, hothers⟩ := hsingle.of_not_closed hstate hopen
      refine Single.of_closed (by simp [hpending, Bool.toNat_le]) ?_ hstarted (by simp [hdisposed])
      intro other state' hother
      rcases getElem?_set_cases hother with ⟨-, hclosed⟩ | ⟨hne, hother⟩
      · exact hclosed
      · exact hothers other state' hne hother

theorem single_step {client : Client} (hsingle : Single client.links) (operation : Operation) :
    Single (step client operation).links :=
  single_of_relinks hsingle (relinks_step client operation)

theorem single_start : Single createHoldemRealtimeClient.links := by
  refine ⟨by decide, ?_, ?_, ?_, fun _ => ⟨rfl, rfl, rfl⟩, by decide⟩
  all_goals simp [createHoldemRealtimeClient, Client.links, Links.IsOpen]

namespace Links

theorem eq_of_isOpen {links : Links} (hsingle : Single links) {id other : Nat}
    (hopen : links.IsOpen id) (hother : links.IsOpen other) : id = other :=
  Option.some.inj ((hsingle.held id hopen).symm.trans (hsingle.held other hother))

/-- After `stop()` no socket is left open. -/
def Halted (links : Links) : Prop :=
  links.disposed = true → ∀ id, ¬links.IsOpen id

end Links

theorem Links.Halted.set {links : Links} (hhalted : links.Halted) {id : Nat} {state : SocketState}
    (hconnecting : state ≠ .connecting) (hopen : state ≠ .wsOpen) :
    Links.Halted { links with sockets := links.sockets.set id state } := by
  rintro hdisposed other (hother | hother)
  · rcases getElem?_set_cases hother with ⟨-, hstate⟩ | ⟨-, hother⟩
    · exact hconnecting hstate.symm
    · exact hhalted hdisposed other (.inl hother)
  · rcases getElem?_set_cases hother with ⟨-, hstate⟩ | ⟨-, hother⟩
    · exact hopen hstate.symm
    · exact hhalted hdisposed other (.inr hother)

theorem halted_of_relinks {links after : Links} (hsingle : Single links) (hhalted : links.Halted)
    (hrelinks : Relinks links after)
    (hdial : links.disposed = true → after.sockets.length = links.sockets.length) :
    after.Halted := by
  cases hrelinks with
  | same => exact hhalted
  | start hstarted hdisposed =>
      intro hstop
      exact absurd (hdisposed.symm.trans hstop) (by simp)
  | reconnect htimer hdisposed =>
      intro hstop
      exact absurd (hdisposed.symm.trans hstop) (by simp)
  | stop =>
      intro _ id hopen
      cases hsingle.stop.held id hopen
  | noToken hpending => exact hhalted
  | tokenFailed hpending => exact hhalted
  | dial hpending =>
      intro hstop
      have hlength := hdial hstop
      simp at hlength
  | opened id hstate =>
      intro hstop
      exact absurd (.inl hstate) (hhalted hstop id)
  | closing id hstate => exact hhalted.set (by simp) (by simp)
  | closed id hstate hopen hdisposed => exact hhalted.set (by simp) (by simp)
  | lost id reconnects hstate hopen hdisposed =>
      intro hstop
      exact absurd (hdisposed.symm.trans hstop) (by simp)

end RewardSystem.RealtimeClient
