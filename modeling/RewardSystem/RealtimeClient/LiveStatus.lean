import RewardSystem.RealtimeClient.Sockets

/-!
# When the realtime client is live

The client asks its caller for a snapshot when a connection could not be resumed, and is live again
when the caller has marked it synchronized. This holds unless a later connection is resumed before
the caller has done so. No socket is open after `stop()` unless the token was still being fetched.
-/

namespace RewardSystem.RealtimeClient

open Transition

/-! ## What the caller has been told -/

def Exchange.waiting (waiting : Bool) : Exchange → Bool
  | .syncNeeded _ => true
  | .markSynchronized => false
  | _ => waiting

/-- The caller was asked for a snapshot and has not marked the client synchronized since. -/
def awaitsSync (exchanges : List Exchange) : Bool :=
  exchanges.foldl Exchange.waiting false

@[simp]
theorem awaitsSync_append_singleton (exchanges : List Exchange) (exchange : Exchange) :
    awaitsSync (exchanges ++ [exchange]) = exchange.waiting (awaitsSync exchanges) := by
  simp [awaitsSync]

/-- The caller is told that the client is live only when no snapshot is needed. -/
def LiveWhenSynchronized (exchanges : List Exchange) : Prop :=
  ∀ earlier later, exchanges = earlier ++ .connectionStatus .live :: later →
    awaitsSync earlier = false

theorem liveWhenSynchronized_append_singleton (exchanges : List Exchange) (exchange : Exchange) :
    LiveWhenSynchronized (exchanges ++ [exchange]) ↔
      LiveWhenSynchronized exchanges ∧
        (exchange = .connectionStatus .live → awaitsSync exchanges = false) := by
  constructor
  · intro hlive
    constructor
    · intro earlier later hexchanges
      refine hlive earlier (later ++ [exchange]) ?_
      rw [hexchanges, List.append_assoc, List.cons_append]
    · rintro rfl
      exact hlive exchanges [] rfl
  · rintro ⟨hlive, hlast⟩ earlier later hexchanges
    rcases List.eq_nil_or_concat later with rfl | ⟨later, last, rfl⟩
    · obtain ⟨rfl, hexchange⟩ := List.append_inj' hexchanges rfl
      exact hlast (List.singleton_inj.mp hexchange)
    · rw [List.concat_eq_append, ← List.cons_append, ← List.append_assoc] at hexchanges
      exact hlive earlier later (List.append_inj' hexchanges rfl).1

/-- What the claims of the client to its caller rest on: `resyncing` says that a snapshot is needed. -/
structure Synchronized (client : Client) : Prop where
  live : LiveWhenSynchronized client.exchanges
  awaits : awaitsSync client.exchanges = client.resyncing
  status : client.resyncing = true → client.currentStatus ≠ .live

/-- The client does what is promised to its caller. -/
structure Coherent (client : Client) : Prop where
  live : LiveWhenSynchronized client.exchanges
  oneSocket : ∀ id other, client.links.IsOpen id → client.links.IsOpen other → id = other
  stopped : client.links.Halted

namespace Client

theorem currentStatus_setStatus (client : Client) (status : ConnectionStatus) :
    (client.setStatus status).currentStatus = status := by
  unfold setStatus
  split
  · assumption
  · rfl

theorem resyncing_setStatus (client : Client) (status : ConnectionStatus) :
    (client.setStatus status).resyncing = client.resyncing := by
  unfold setStatus
  split <;> rfl

theorem eventCallback_cases {event : String} {callback : EventData → Exchange}
    (hcallback : eventCallback event = some callback) (data : EventData) :
    (∀ waiting, (callback data).waiting waiting = waiting) ∧
      ∀ status, callback data ≠ .connectionStatus status := by
  unfold eventCallback at hcallback
  split_ifs at hcallback
  all_goals
    obtain rfl := Option.some.inj hcallback
    exact ⟨fun _ => rfl, by simp⟩

end Client

namespace Synchronized

variable {client : Client} (hsync : Synchronized client)
include hsync

theorem frame {after : Client} (hexchanges : after.exchanges = client.exchanges)
    (hresyncing : after.resyncing = client.resyncing)
    (hstatus : after.currentStatus = client.currentStatus) : Synchronized after := by
  refine ⟨hexchanges ▸ hsync.live, ?_, ?_⟩
  · rw [hexchanges, hresyncing]
    exact hsync.awaits
  · rw [hresyncing, hstatus]
    exact hsync.status

theorem sendsOnly {after : Client} (hsends : client.SendsOnly after) : Synchronized after := by
  obtain ⟨sent, rfl⟩ := hsends
  exact hsync.frame rfl rfl rfl

theorem exchange {exchange : Exchange} (hwaiting : ∀ waiting, exchange.waiting waiting = waiting)
    (hlive : exchange = .connectionStatus .live → client.resyncing = false) :
    Synchronized (client.exchange exchange) := by
  refine ⟨?_, ?_, hsync.status⟩
  · refine (liveWhenSynchronized_append_singleton _ _).mpr ⟨hsync.live, fun h => ?_⟩
    rw [hsync.awaits]
    exact hlive h
  · change awaitsSync (client.exchanges ++ [exchange]) = client.resyncing
    rw [awaitsSync_append_singleton, hwaiting, hsync.awaits]

theorem setStatus {status : ConnectionStatus} (hlive : status = .live → client.resyncing = false) :
    Synchronized (client.setStatus status) := by
  unfold Client.setStatus
  split
  · exact hsync
  · have hstatus : Synchronized { client with currentStatus := status } := by
      refine ⟨hsync.live, hsync.awaits, fun hresyncing hstatus => ?_⟩
      exact absurd (hlive hstatus) (by rw [show client.resyncing = true from hresyncing]; simp)
    refine hstatus.exchange (fun _ => rfl) fun h => ?_
    exact hlive (Exchange.connectionStatus.inj h)

theorem applyTopicDiff : Synchronized client.applyTopicDiff :=
  hsync.sendsOnly client.sendsOnly_applyTopicDiff

theorem scheduleReconnect : Synchronized client.scheduleReconnect := by
  unfold Client.scheduleReconnect
  split
  · exact hsync
  · exact hsync.frame rfl rfl rfl

theorem reconnecting :
    Synchronized
      (({ client with shouldAttemptResume := true }.setStatus .reconnecting).scheduleReconnect) := by
  have hresume : Synchronized { client with shouldAttemptResume := true } :=
    hsync.frame rfl rfl rfl
  exact (hresume.setStatus (by simp)).scheduleReconnect

theorem connect : Synchronized client.connect := by
  unfold Client.connect
  split
  · exact hsync
  · have htimer : Synchronized client.clearReconnectTimer := hsync.frame rfl rfl rfl
    have hstatus : Synchronized (client.clearReconnectTimer.setStatus
        (if client.shouldAttemptResume then .reconnecting else .connecting)) :=
      htimer.setStatus (by split <;> simp)
    exact hstatus.frame rfl rfl rfl

theorem continueConnect (answer : Except (Option String) (Option String)) :
    Synchronized (client.continueConnect answer) := by
  unfold Client.continueConnect
  cases answer with
  | error message => exact (hsync.exchange (fun _ => rfl) (by simp)).reconnecting
  | ok token =>
      dsimp only
      split
      · exact hsync.exchange (fun _ => rfl) (by simp)
      · exact hsync.frame rfl rfl rfl

theorem onClose (code : Nat) : Synchronized (client.onClose code) := by
  have hclosed : Synchronized { client with socket := none, subscribedTopics := [] } :=
    hsync.frame rfl rfl rfl
  unfold Client.onClose
  split
  · exact hsync
  · dsimp only
    split
    · exact hclosed.exchange (fun _ => rfl) (by simp)
    · exact hclosed.reconnecting

theorem onHello (id : Nat) (resumeToken : String) (subscriptions : List String) :
    Synchronized (client.onHello id resumeToken subscriptions) := by
  have hhello : Synchronized
      { client with
        subscribedTopics := subscriptions.eraseDups
        resumeToken := some resumeToken } :=
    hsync.frame rfl rfl rfl
  unfold Client.onHello
  dsimp only
  split
  · exact (hhello.sendsOnly (Client.sendsOnly_send _ id _)).frame rfl rfl rfl
  · split
    · exact hhello.applyTopicDiff
    · rename_i hresyncing
      exact hhello.applyTopicDiff.setStatus fun _ => eq_false_of_ne_true hresyncing

theorem onResumed (subscriptions : List String) (hresyncing : client.resyncing = false) :
    Synchronized (client.onResumed subscriptions) := by
  have hresumed : Synchronized { client with subscribedTopics := subscriptions.eraseDups } :=
    hsync.frame rfl rfl rfl
  unfold Client.onResumed
  obtain ⟨sent, hsent⟩ :=
    Client.sendsOnly_applyTopicDiff { client with subscribedTopics := subscriptions.eraseDups }
  rw [hsent]
  refine setStatus ?_ fun _ => rfl
  exact hresumed.frame rfl hresyncing.symm rfl

theorem onSubscribed (topics : List String) : Synchronized (client.onSubscribed topics) := by
  have hsubscribed : Synchronized
      { client with subscribedTopics := (client.subscribedTopics ++ topics).eraseDups } :=
    hsync.frame rfl rfl rfl
  unfold Client.onSubscribed
  dsimp only
  split
  · exact hsubscribed
  · rename_i hresyncing
    exact hsubscribed.setStatus fun _ => eq_false_of_ne_true hresyncing

theorem onError (code message : String) : Synchronized (client.onError code message) := by
  unfold Client.onError
  split
  · have hstatus : Synchronized (client.setStatus .resyncing) := hsync.setStatus (by simp)
    obtain ⟨sent, hsent⟩ :=
      Client.sendsOnly_applyTopicDiff ({ client with resyncing := true }.setStatus .resyncing)
    have hexchanges : ({ client with resyncing := true }.setStatus .resyncing).exchanges =
        (client.setStatus .resyncing).exchanges := by
      unfold Client.setStatus
      split <;> rfl
    have hresyncing : ({ client with resyncing := true }.setStatus .resyncing).resyncing = true :=
      Client.resyncing_setStatus _ _
    rw [hsent]
    refine ⟨?_, ?_, ?_⟩
    · refine (liveWhenSynchronized_append_singleton _ _).mpr ⟨?_, by simp⟩
      exact hexchanges ▸ hstatus.live
    · change awaitsSync (_ ++ [_]) = _
      rw [awaitsSync_append_singleton]
      exact hresyncing.symm
    · intro _ hlive
      have hresync := Client.currentStatus_setStatus { client with resyncing := true } .resyncing
      cases hresync.symm.trans hlive
  · exact hsync.exchange (fun _ => rfl) (by simp)

theorem onEvent (topic event : String) (sentAt : Option Int) (data : EventData)
    (receivedAt : Int) : Synchronized (client.onEvent topic event sentAt data receivedAt) := by
  have hobserve : Synchronized (client.observe topic event sentAt data receivedAt) := by
    unfold Client.observe
    split
    · exact hsync
    · dsimp only
      split
      · exact hsync
      · exact hsync.exchange (fun _ => rfl) (by simp)
  unfold Client.onEvent
  dsimp only
  split
  · exact hobserve
  · rename_i callback hcallback
    split
    · obtain ⟨hwaiting, hstatus⟩ := Client.eventCallback_cases hcallback data
      exact hobserve.exchange hwaiting fun hlive => absurd hlive (hstatus .live)
    · exact hobserve

theorem start : Synchronized client.start := by
  unfold Client.start
  split
  · exact hsync
  · have hstart : Synchronized { client with started := true } := hsync.frame rfl rfl rfl
    refine (hstart.exchange (fun _ => rfl) fun hlive => ?_).connect
    by_contra hresyncing
    rw [Bool.not_eq_false] at hresyncing
    exact hsync.status hresyncing (Exchange.connectionStatus.inj hlive)

theorem stop : Synchronized client.stop := by
  unfold Client.stop Client.clearReconnectTimer
  cases client.socket with
  | none => exact hsync.frame rfl rfl rfl
  | some id =>
      dsimp only
      rw [Client.closeSocket_eq]
      exact hsync.frame rfl rfl rfl

theorem markSynchronized : Synchronized client.markSynchronized := by
  have hmark : Synchronized { client.exchange .markSynchronized with resyncing := false } := by
    refine ⟨?_, awaitsSync_append_singleton _ _, by simp⟩
    exact (liveWhenSynchronized_append_singleton _ _).mpr ⟨hsync.live, by simp⟩
  unfold Client.markSynchronized
  dsimp only
  split
  · exact hmark.setStatus fun _ => rfl
  · exact hmark

end Synchronized

/-! ## Steps -/

/-- The steps that keep to the promise: a connection is resumed only when no snapshot is needed, and
no token arrives after `stop()`. -/
def InStep (e : Event Client Operation) : Prop :=
  match e.label with
  | .socketMessage id (some (.resumed _)) _ =>
      e.before.Handles id → awaitsSync e.before.exchanges = false
  | .authToken (.ok (some token)) =>
      e.before.disposed = true → e.before.pendingTokens = 0 ∨ token = ""
  | _ => True

section Runs

variable {client : Client}

theorem synchronized_onMessage (hsync : Synchronized client) {id : Nat} {message : ServerMessage}
    {receivedAt : Int} (hresumed : ∀ subscriptions, message = .resumed subscriptions →
      client.resyncing = false) :
    Synchronized (client.onMessage id message receivedAt) := by
  cases message with
  | ping pingId => exact hsync.sendsOnly (client.sendsOnly_send id _)
  | pong => exact hsync
  | hello resumeToken subscriptions => exact hsync.onHello id resumeToken subscriptions
  | resumed subscriptions => exact hsync.onResumed subscriptions (hresumed subscriptions rfl)
  | subscribed topics => exact hsync.onSubscribed topics
  | unsubscribed topics => exact hsync.frame rfl rfl rfl
  | error code message => exact hsync.onError code message
  | event topic event sentAt data => exact hsync.onEvent topic event sentAt data receivedAt

theorem synchronized_step (hsync : Synchronized client) {operation : Operation}
    (hin : InStep ⟨client, operation, step client operation⟩) :
    Synchronized (step client operation) := by
  cases operation with
  | start => exact hsync.start
  | stop => exact hsync.stop
  | syncTopics topics =>
      exact Synchronized.applyTopicDiff (hsync.frame rfl rfl rfl)
  | markSynchronized => exact hsync.markSynchronized
  | authToken answer =>
      simp only [step]
      split
      · exact hsync
      · have htoken : Synchronized { client with pendingTokens := client.pendingTokens - 1 } :=
          hsync.frame rfl rfl rfl
        exact htoken.continueConnect answer
  | reconnectTimeout =>
      simp only [step]
      split
      · exact hsync.connect
      · exact hsync
  | socketOpened id =>
      simp only [step]
      split
      · exact hsync.frame rfl rfl rfl
      · exact hsync
  | socketMessage id message receivedAt =>
      simp only [step]
      split
      · exact hsync
      · rename_i message
        split
        · rename_i hhandles
          refine synchronized_onMessage hsync ?_
          rintro subscriptions rfl
          rw [← hsync.awaits]
          exact hin hhandles
        · exact hsync
  | socketClosing id =>
      simp only [step]
      split
      · exact hsync.frame rfl rfl rfl
      · exact hsync
  | socketClosed id code =>
      simp only [step]
      split
      · exact hsync
      · exact hsync
      · have hclosed : Synchronized { client with sockets := client.sockets.set id .closed } :=
          hsync.frame rfl rfl rfl
        exact hclosed.onClose code

theorem sockets_length_step {operation : Operation}
    (hin : InStep ⟨client, operation, step client operation⟩) (hdisposed : client.disposed = true) :
    (step client operation).sockets.length = client.sockets.length := by
  have hlinks : ∀ after : Client, after.links = client.links →
      after.sockets.length = client.sockets.length :=
    fun after h => congrArg (fun links => links.sockets.length) h
  cases operation with
  | start => simp [step, Client.start, hdisposed]
  | stop =>
      have hstop := congrArg (fun links => links.sockets.length) client.links_stop
      refine hstop.trans ?_
      cases hsocket : client.links.socket with
      | none => rfl
      | some id =>
          rw [Option.map_some, Option.getD_some]
          unfold Links.closing
          split
          · exact List.length_set
          · exact List.length_set
          · rfl
  | syncTopics topics => exact hlinks _ (client.links_syncTopics topics)
  | markSynchronized => exact hlinks _ client.links_markSynchronized
  | authToken answer =>
      simp only [step]
      split
      · rfl
      · rename_i hpending
        unfold Client.continueConnect
        cases answer with
        | error message =>
            dsimp only
            have h := Client.links_reconnecting
              ({ client with pendingTokens := client.pendingTokens - 1 }.exchange
                (.warning (message.getD "Failed to prepare realtime auth token.")))
            exact congrArg (fun links => links.sockets.length) h
        | ok token =>
            dsimp only
            split
            · rfl
            · rename_i htoken
              cases token with
              | none => exact absurd rfl htoken
              | some token => exact absurd (hin hdisposed) (not_or.mpr ⟨hpending, htoken⟩)
  | reconnectTimeout => simp [step, Client.connect, hdisposed]
  | socketOpened id =>
      simp only [step]
      split
      · exact List.length_set
      · rfl
  | socketMessage id message receivedAt =>
      simp only [step]
      split
      · rfl
      · split
        · exact hlinks _ (client.links_onMessage id _ receivedAt)
        · rfl
  | socketClosing id =>
      simp only [step]
      split
      · exact List.length_set
      · rfl
  | socketClosed id code =>
      simp only [step]
      split
      · rfl
      · rfl
      · rw [Client.onClose, if_pos hdisposed]
        exact List.length_set

theorem exchanges_onResumed (hstatus : client.currentStatus ≠ .live) (subscriptions : List String) :
    (client.onResumed subscriptions).exchanges =
      client.exchanges ++ [.connectionStatus .live] := by
  obtain ⟨sent, hsent⟩ :=
    Client.sendsOnly_applyTopicDiff { client with subscribedTopics := subscriptions.eraseDups }
  unfold Client.onResumed
  rw [hsent]
  exact congrArg Client.exchanges (if_neg hstatus)

theorem inStep_of_coherent (hsync : Synchronized client) {operation : Operation}
    (hcoherent : Coherent (step client operation)) :
    InStep ⟨client, operation, step client operation⟩ := by
  unfold InStep
  dsimp only
  split
  · rename_i id subscriptions receivedAt
    intro hhandles
    by_contra hawaits
    rw [Bool.not_eq_false, hsync.awaits] at hawaits
    have hlive := hcoherent.live
    simp only [step] at hlive
    rw [if_pos hhandles, Client.onMessage, exchanges_onResumed (hsync.status hawaits)] at hlive
    have hsynced := ((liveWhenSynchronized_append_singleton _ _).mp hlive).2 rfl
    rw [hsync.awaits, hawaits] at hsynced
    cases hsynced
  · rename_i token
    intro hdisposed
    by_contra htoken
    rw [not_or] at htoken
    have hstopped := hcoherent.stopped
    simp only [step, if_neg htoken.1, Client.continueConnect, Option.getD_some,
      if_neg htoken.2] at hstopped
    refine hstopped hdisposed client.sockets.length (.inl ?_)
    exact List.getElem?_concat_length
  · trivial

/-- **When the client is live only when synchronized.** It is so, with at most one open socket and
none after `stop()`, throughout a run exactly if every connection is resumed when no snapshot is
needed, and no token arrives after `stop()`. -/
theorem coherent_iff_inStep {events : List (Event Client Operation)} {t : Client}
    (hrun : Run (Takes step) createHoldemRealtimeClient events t) :
    (∀ e ∈ events, Coherent e.after) ↔ ∀ e ∈ events, InStep e := by
  have hstart : Synchronized createHoldemRealtimeClient ∧
      Single createHoldemRealtimeClient.links ∧ createHoldemRealtimeClient.links.Halted := by
    refine ⟨⟨?_, rfl, by simp [createHoldemRealtimeClient]⟩, single_start, by
      simp [Links.Halted, createHoldemRealtimeClient, Client.links]⟩
    intro earlier later hexchanges
    simp [createHoldemRealtimeClient] at hexchanges
  refine Run.forall_iff_of_guard
    (I := fun client => Synchronized client ∧ Single client.links ∧ client.links.Halted)
    (P := fun e => Coherent e.after) ?_ ?_ hrun hstart
  · rintro client operation _ ⟨hsync, hsingle, hhalted⟩ rfl
    refine ⟨inStep_of_coherent hsync, fun hin => ?_⟩
    have hsingle' := single_step hsingle operation
    exact
      { live := (synchronized_step hsync hin).live
        oneSocket := fun _ _ => Links.eq_of_isOpen hsingle'
        stopped := halted_of_relinks hsingle hhalted (relinks_step client operation)
          (sockets_length_step hin) }
  · rintro client operation _ ⟨hsync, hsingle, hhalted⟩ rfl hin
    exact ⟨synchronized_step hsync hin, single_step hsingle operation,
      halted_of_relinks hsingle hhalted (relinks_step client operation) (sockets_length_step hin)⟩

end Runs

section Example

instance (e : Event Client Operation) : Decidable (InStep e) := by
  unfold InStep
  split <;> infer_instance

/-- A token arrives, the socket opens, and the server says hello. -/
def connectAs (id : Nat) (resumeToken : String) : List Operation :=
  [.authToken (.ok (some "token")), .socketOpened id,
    .socketMessage id (some (.hello resumeToken [])) 0]

/-- The second connection cannot be resumed, and is lost before the caller has marked the client
synchronized; the third is resumed. -/
def resumedWhileResyncing : List Operation :=
  .start :: connectAs 0 "resume-1" ++ [.socketClosed 0 4001, .reconnectTimeout] ++
    connectAs 1 "resume-2" ++
    [.socketMessage 1 (some (.error "RESUME_NOT_AVAILABLE" "Resume window expired.")) 0,
      .socketClosed 1 4001, .reconnectTimeout] ++
    connectAs 2 "resume-3" ++ [.socketMessage 2 (some (.resumed [])) 0]

theorem not_coherent_of_resumedWhileResyncing :
    ¬∀ events t, Run (Takes step) createHoldemRealtimeClient events t →
      ∀ e ∈ events, Coherent e.after := by
  intro hclaim
  have hrun := Run.of_visits step createHoldemRealtimeClient resumedWhileResyncing
  have hcoherent := hclaim _ _ hrun
  obtain ⟨e, he, hlast, hawaits⟩ : ∃ e ∈ visits step createHoldemRealtimeClient
      resumedWhileResyncing, e.after.exchanges = e.after.exchanges.dropLast ++
        .connectionStatus .live :: [] ∧ awaitsSync e.after.exchanges.dropLast = true := by
    decide +kernel
  have hsynced := (hcoherent e he).live _ _ hlast
  rw [hawaits] at hsynced
  cases hsynced

theorem coherent_of_inStep_calls :
    let events := visits step createHoldemRealtimeClient
      (.start :: connectAs 0 "resume-1" ++ [.stop, .socketClosed 0 1000])
    (∃ e ∈ events, e.after.currentStatus = .live) ∧ ∀ e ∈ events, Coherent e.after :=
  ⟨by decide +kernel,
    (coherent_iff_inStep (Run.of_visits step createHoldemRealtimeClient
      (.start :: connectAs 0 "resume-1" ++ [.stop, .socketClosed 0 1000]))).mpr (by decide +kernel)⟩

/-- The token that was being fetched opens a socket after `stop()`. -/
example : (List.foldl step createHoldemRealtimeClient
    [.start, .stop, .authToken (.ok (some "token")), .socketOpened 0]).sockets = [.wsOpen] := by
  decide

end Example

end RewardSystem.RealtimeClient
