import RewardSystem.Lib.Runs
import RewardSystem.Shared.Text

/-!
# The realtime client of a holdem table

The client that keeps one socket to the realtime transport open, reconnects when it closes, and tells
its caller when to fetch a fresh snapshot. The caller, the socket and the token fetch may act in any
order. Times are in milliseconds.
-/

namespace RewardSystem.RealtimeClient

inductive ConnectionStatus where
  | connecting
  | live
  | reconnecting
  | resyncing
  deriving DecidableEq, Repr

/-- The client gives only `resumeFailed`. -/
inductive SyncReason where
  | resume
  | resumeFailed
  deriving DecidableEq, Repr

inductive SocketState where
  | connecting
  | wsOpen
  | closing
  | closed
  deriving DecidableEq, Repr

/-- The payload of an event, as far as the client looks into it: the identifiers that are integers,
and whether the schema that goes with the event's name accepts it. -/
structure EventData where
  tableObjectId : Option Int
  tableId : Option Int
  roundId : Option String
  accepted : Bool
  deriving DecidableEq, Repr

/-- A message that the schema accepts. `sentAt` is what `Date.parse` makes of the field. -/
inductive ServerMessage where
  | ping (pingId : String)
  | pong
  | hello (resumeToken : String) (subscriptions : List String)
  | resumed (subscriptions : List String)
  | subscribed (topics : List String)
  | unsubscribed (topics : List String)
  | error (code message : String)
  | event (topic event : String) (sentAt : Option Int) (data : EventData)
  deriving DecidableEq, Repr

inductive ClientMessage where
  | pong (pingId : String)
  | resume (resumeToken : String)
  | subscribe (topics : List String)
  | unsubscribe (topics : List String)
  deriving DecidableEq, Repr

structure Observation where
  topic : String
  event : String
  sentAt : Int
  receivedAt : Int
  deliveryLatencyMs : Int
  tableId : Option Int
  roundId : Option String
  deriving DecidableEq, Repr

/-- What passes between the client and its caller: `markSynchronized` is called by the caller, the
others are callbacks of the client. -/
inductive Exchange where
  | connectionStatus (status : ConnectionStatus)
  | syncNeeded (reason : SyncReason)
  | markSynchronized
  | unauthorized
  | warning (message : String)
  | observation (observation : Observation)
  | publicUpdate (data : EventData)
  | privateUpdate (data : EventData)
  | tableMessage (data : EventData)
  | dealerEvent (data : EventData)
  deriving DecidableEq, Repr

/-- The variables of the client, and around them the sockets there have been, each known by its place
in the list, the token fetches under way, what was sent on the sockets, and what passed between the
client and its caller. -/
structure Client where
  currentStatus : ConnectionStatus
  requestedTopics : List String
  subscribedTopics : List String
  socket : Option Nat
  resumeToken : Option String
  shouldAttemptResume : Bool
  reconnectTimer : Bool
  disposed : Bool
  started : Bool
  resyncing : Bool
  sockets : List SocketState
  pendingTokens : Nat
  sent : List (Nat × ClientMessage)
  exchanges : List Exchange
  deriving DecidableEq, Repr

def createHoldemRealtimeClient : Client :=
  { currentStatus := .connecting
    requestedTopics := []
    subscribedTopics := []
    socket := none
    resumeToken := none
    shouldAttemptResume := false
    reconnectTimer := false
    disposed := false
    started := false
    resyncing := false
    sockets := []
    pendingTokens := 0
    sent := []
    exchanges := [] }

namespace Client

def exchange (client : Client) (exchange : Exchange) : Client :=
  { client with exchanges := client.exchanges ++ [exchange] }

/-- `socket.send`, which drops the message once the socket is closing. -/
def send (client : Client) (id : Nat) (message : ClientMessage) : Client :=
  if client.sockets[id]? = some .wsOpen then
    { client with sent := client.sent ++ [(id, message)] }
  else client

/-- `socket.close()` -/
def closeSocket (client : Client) (id : Nat) : Client :=
  match client.sockets[id]? with
  | some .connecting | some .wsOpen =>
      { client with sockets := client.sockets.set id .closing }
  | _ => client

/-! ## The helpers of the client -/

def setStatus (client : Client) (status : ConnectionStatus) : Client :=
  if client.currentStatus = status then client
  else { client with currentStatus := status }.exchange (.connectionStatus status)

def clearReconnectTimer (client : Client) : Client :=
  { client with reconnectTimer := false }

def applyTopicDiff (client : Client) : Client :=
  match client.socket with
  | none => client
  | some id =>
      if client.sockets[id]? ≠ some .wsOpen then client
      else
        let topicsToSubscribe :=
          client.requestedTopics.filter fun topic => topic ∉ client.subscribedTopics
        let topicsToUnsubscribe :=
          client.subscribedTopics.filter fun topic => topic ∉ client.requestedTopics
        let unsubscribed :=
          if topicsToUnsubscribe.length > 0 then client.send id (.unsubscribe topicsToUnsubscribe)
          else client
        if topicsToSubscribe.length > 0 then unsubscribed.send id (.subscribe topicsToSubscribe)
        else unsubscribed

def scheduleReconnect (client : Client) : Client :=
  if client.disposed then client
  else { client.clearReconnectTimer with reconnectTimer := true }

/-- `connect` up to the fetch of the token. -/
def connect (client : Client) : Client :=
  if client.disposed then client
  else
    let status := if client.shouldAttemptResume then .reconnecting else .connecting
    let client := client.clearReconnectTimer.setStatus status
    { client with pendingTokens := client.pendingTokens + 1 }

/-- `connect` from the token on. The answer is the token, or the message if what was thrown is an
`Error`. -/
def continueConnect (client : Client) (answer : Except (Option String) (Option String)) : Client :=
  match answer with
  | .error message =>
      let client := client.exchange
        (.warning (message.getD "Failed to prepare realtime auth token."))
      ({ client with shouldAttemptResume := true }.setStatus .reconnecting).scheduleReconnect
  | .ok token =>
      if token.getD "" = "" then client.exchange .unauthorized
      else
        { client with
          sockets := client.sockets ++ [.connecting]
          socket := some client.sockets.length }

/-! ## Messages -/

/-- `buildObservation`, and the callback if there is an observation. -/
def observe (client : Client) (topic event : String) (sentAt : Option Int) (data : EventData)
    (receivedAt : Int) : Client :=
  match sentAt with
  | none => client
  | some sentAt =>
      let deliveryLatencyMs := receivedAt - sentAt
      if deliveryLatencyMs < 0 ∨ 60000 < deliveryLatencyMs then client
      else
        client.exchange (.observation
          { topic, event, sentAt, receivedAt, deliveryLatencyMs
            tableId := data.tableObjectId.or data.tableId
            roundId := data.roundId.filter (· ≠ "") })

def eventCallback (event : String) : Option (EventData → Exchange) :=
  if event = "holdem.lobby.updated" ∨ event = "holdem.table.updated" then some .publicUpdate
  else if event = "holdem.table.message" then some .tableMessage
  else if event = "dealer.action" ∨ event = "dealer.message" ∨ event = "dealer.pace_hint" then
    some .dealerEvent
  else if event = "holdem.table.private.updated" then some .privateUpdate
  else none

def onEvent (client : Client) (topic event : String) (sentAt : Option Int) (data : EventData)
    (receivedAt : Int) : Client :=
  let observed := client.observe topic event sentAt data receivedAt
  match eventCallback event with
  | none => observed
  | some callback => if data.accepted then observed.exchange (callback data) else observed

def previousResumeToken (client : Client) : Option String :=
  if client.shouldAttemptResume then client.resumeToken else none

def onHello (client : Client) (id : Nat) (resumeToken : String) (subscriptions : List String) :
    Client :=
  let previous := client.previousResumeToken.getD ""
  let client :=
    { client with
      subscribedTopics := subscriptions.eraseDups
      resumeToken := some resumeToken }
  if previous ≠ "" then { client.send id (.resume previous) with shouldAttemptResume := false }
  else
    let client := client.applyTopicDiff
    if client.resyncing then client else client.setStatus .live

def onResumed (client : Client) (subscriptions : List String) : Client :=
  let client := { client with subscribedTopics := subscriptions.eraseDups }.applyTopicDiff
  { client with resyncing := false }.setStatus .live

def onSubscribed (client : Client) (topics : List String) : Client :=
  let client :=
    { client with subscribedTopics := (client.subscribedTopics ++ topics).eraseDups }
  if client.resyncing then client else client.setStatus .live

def onUnsubscribed (client : Client) (topics : List String) : Client :=
  { client with
    subscribedTopics := client.subscribedTopics.filter fun topic => topic ∉ topics }

def onError (client : Client) (code message : String) : Client :=
  if code = "RESUME_NOT_AVAILABLE" ∨ code = "RESUME_SESSION_MISMATCH" then
    (({ client with resyncing := true }.setStatus .resyncing).applyTopicDiff).exchange
      (.syncNeeded .resumeFailed)
  else client.exchange (.warning message)

/-- `nextSocket.onmessage`, for a message that the schema accepts. -/
def onMessage (client : Client) (id : Nat) (message : ServerMessage) (receivedAt : Int) : Client :=
  match message with
  | .ping pingId => client.send id (.pong pingId)
  | .pong => client
  | .hello resumeToken subscriptions => client.onHello id resumeToken subscriptions
  | .resumed subscriptions => client.onResumed subscriptions
  | .subscribed topics => client.onSubscribed topics
  | .unsubscribed topics => client.onUnsubscribed topics
  | .error code message => client.onError code message
  | .event topic event sentAt data => client.onEvent topic event sentAt data receivedAt

/-- `nextSocket.onclose` -/
def onClose (client : Client) (code : Nat) : Client :=
  if client.disposed then client
  else
    let client := { client with socket := none, subscribedTopics := [] }
    -- `REALTIME_CLOSE_CODES.SESSION_REVOKED`
    if code = 4002 then client.exchange .unauthorized
    else ({ client with shouldAttemptResume := true }.setStatus .reconnecting).scheduleReconnect

/-! ## What the caller may do -/

def markSynchronized (client : Client) : Client :=
  let client := { client.exchange .markSynchronized with resyncing := false }
  let readyState := client.socket.bind fun id => client.sockets[id]?
  if client.disposed = false ∧ readyState = some .wsOpen then client.setStatus .live else client

def start (client : Client) : Client :=
  if client.started ∨ client.disposed then client
  else
    ({ client with started := true }.exchange (.connectionStatus client.currentStatus)).connect

def stop (client : Client) : Client :=
  let client := { client with disposed := true }.clearReconnectTimer
  let client :=
    match client.socket with
    | none => client
    | some id => client.closeSocket id
  { client with socket := none, subscribedTopics := [] }

def syncTopics (client : Client) (topics : List String) : Client :=
  { client with
    requestedTopics := (topics.filter fun topic => (trim topic).length > 0).eraseDups }.applyTopicDiff

end Client

/-! ## Steps -/

/-- What may happen next: a call of the caller, the end of a token fetch, the reconnect timer, or an
event of a socket. A message is `none` when it is no text or the schema refuses it. -/
inductive Operation where
  | start
  | stop
  | syncTopics (topics : List String)
  | markSynchronized
  | authToken (answer : Except (Option String) (Option String))
  | reconnectTimeout
  | socketOpened (id : Nat)
  | socketMessage (id : Nat) (message : Option ServerMessage) (receivedAt : Int)
  | socketClosing (id : Nat)
  | socketClosed (id : Nat) (code : Nat)

namespace Client

/-- A message that reaches socket `id` is handled. -/
def Handles (client : Client) (id : Nat) : Prop :=
  client.disposed = false ∧
    (client.sockets[id]? = some .wsOpen ∨ client.sockets[id]? = some .closing)

instance (client : Client) (id : Nat) : Decidable (client.Handles id) :=
  inferInstanceAs (Decidable (_ ∧ _))

end Client

/-- An operation that cannot happen in this state leaves the client as it is. -/
def step (client : Client) : Operation → Client
  | .start => client.start
  | .stop => client.stop
  | .syncTopics topics => client.syncTopics topics
  | .markSynchronized => client.markSynchronized
  | .authToken answer =>
      if client.pendingTokens = 0 then client
      else { client with pendingTokens := client.pendingTokens - 1 }.continueConnect answer
  | .reconnectTimeout => if client.reconnectTimer then client.connect else client
  | .socketOpened id =>
      if client.sockets[id]? = some .connecting then
        { client with sockets := client.sockets.set id .wsOpen }
      else client
  | .socketMessage id message receivedAt =>
      match message with
      | none => client
      | some message =>
          if client.Handles id then client.onMessage id message receivedAt else client
  | .socketClosing id =>
      if client.sockets[id]? = some .wsOpen then
        { client with sockets := client.sockets.set id .closing }
      else client
  | .socketClosed id code =>
      match client.sockets[id]? with
      | none | some .closed => client
      | _ => { client with sockets := client.sockets.set id .closed }.onClose code

end RewardSystem.RealtimeClient
