import RewardSystem.Lib.Multimap
import RewardSystem.Lib.Runs

/-!
# Realtime connections

The connections of the realtime transport, the topics they are subscribed to, and the events that are
buffered for a client that reconnects. A subscription is authorised topic by topic, and anything may
happen in between. Identifiers and tokens are drawn at random and numbered here in that order; times
are in milliseconds.
-/

namespace RewardSystem.Realtime

/-- `socket.readyState` -/
inductive ReadyState where
  | wsOpen
  | wsClosing
  | wsClosed
  deriving DecidableEq, Repr

/-- Whom an event is published to. -/
inductive Scope where
  | topic (topic : String)
  | user (userId : Nat)
  | session (sessionId : String)
  deriving DecidableEq, Repr

def getUserScopeTopic (userId : Nat) : String :=
  "user:" ++ toString userId

def getSessionScopeTopic (sessionId : String) : String :=
  "session:" ++ sessionId

def Scope.name : Scope → String
  | .topic name => name
  | .user userId => getUserScopeTopic userId
  | .session sessionId => getSessionScopeTopic sessionId

def startsWith (topic stem : String) : Bool :=
  stem.toList.isPrefixOf topic.toList

def isReservedTopic (topic : String) : Bool :=
  startsWith topic "user:" || startsWith topic "session:"

def uniqueTopics (topics : List String) : List String :=
  topics.eraseDups

structure RealtimeEventMessage where
  topic : String
  event : String
  data : String
  sentAt : Int
  deriving DecidableEq, Repr

/-- The service does not read `scope`, which keeps whom the event was published to. -/
structure BufferedRealtimeEvent where
  sequence : Nat
  createdAt : Int
  message : RealtimeEventMessage
  scope : Scope
  deriving DecidableEq, Repr

/-- A topic in a connection's set. The service does not read the other fields: the event that was
next when the topic was added, whether the connection was closed then, and whether its client had
unsubscribed from the topic since it asked for it. -/
structure Subscription where
  topic : String
  since : Nat
  afterClose : Bool
  overtaken : Bool
  deriving DecidableEq, Repr

/-- The service does not read `attachedAt`, the event that was next when the connection opened. -/
structure RealtimeConnectionState where
  id : Nat
  readyState : ReadyState
  userId : Nat
  sessionId : String
  resumeToken : Nat
  subscriptions : List Subscription
  preserveResumeOnClose : Bool
  closed : Bool
  attachedAt : Nat
  deriving DecidableEq, Repr

structure RealtimeResumeSnapshot where
  resumeToken : Nat
  connectionId : Nat
  userId : Nat
  sessionId : String
  subscriptions : List Subscription
  expiresAt : Int
  lastEventSequence : Nat
  attachedAt : Nat
  deriving DecidableEq, Repr

inductive RealtimeErrorCode where
  | forbiddenTopic
  | invalidMessage
  | resumeNotAvailable
  | resumeSessionMismatch
  deriving DecidableEq, Repr

structure RealtimeTransportOptions where
  heartbeatIntervalMs : Int
  heartbeatTimeoutMs : Int
  reconnectWindowMs : Int

/-- An event is sent without its number, which only tells publications apart. -/
inductive RealtimeServerMessage where
  | hello (connectionId : Nat) (sessionId : String) (userId resumeToken : Nat)
      (heartbeatIntervalMs heartbeatTimeoutMs reconnectWindowMs serverTime : Int)
      (subscriptions : List String)
  | pong (pingId : Option String) (sentAt : Int)
  | subscribed (topics : List String)
  | unsubscribed (topics : List String)
  | resumed (previousConnectionId : Nat) (resumedAt : Int) (subscriptions : List String)
  | event (event : BufferedRealtimeEvent)
  | error (code : RealtimeErrorCode) (message : String) (retryable : Bool) (details : List String)
  deriving DecidableEq, Repr

inductive RealtimeClientMessage where
  | ping (pingId : Option String)
  | pong
  | subscribe (topics : List String)
  | unsubscribe (topics : List String)
  | resume (resumeToken : Nat)
  deriving DecidableEq, Repr

/-- A message on its way to a client. -/
structure Sent where
  connectionId : Nat
  message : RealtimeServerMessage
  deriving DecidableEq, Repr

/-- `objects` are all connections there have been, closed ones too; the other fields are those of
the service. -/
structure RealtimeService where
  objects : List RealtimeConnectionState
  connections : List Nat
  topicConnections : Multimap String Nat
  userConnections : Multimap Nat Nat
  sessionConnections : Multimap String Nat
  resumeSnapshots : List RealtimeResumeSnapshot
  bufferedEvents : List BufferedRealtimeEvent
  nextEventSequence : Nat
  shuttingDown : Bool

/-- A subscribe message that is being authorised. `overtaken` are the topics from which the client
has unsubscribed in the meantime; the service does not read it. -/
structure PendingSubscribe where
  request : Nat
  connectionId : Nat
  remaining : List String
  accepted : List String
  rejected : List String
  overtaken : List String
  deriving DecidableEq, Repr

def RealtimeConnectionState.topics (state : RealtimeConnectionState) : List String :=
  state.subscriptions.map Subscription.topic

def RealtimeResumeSnapshot.topics (snapshot : RealtimeResumeSnapshot) : List String :=
  snapshot.subscriptions.map Subscription.topic

namespace RealtimeService

def object (service : RealtimeService) (id : Nat) : Option RealtimeConnectionState :=
  Keyed.lookup RealtimeConnectionState.id id service.objects

/-- `connections.get(id)` -/
def connection (service : RealtimeService) (id : Nat) : Option RealtimeConnectionState :=
  if id ∈ service.connections then service.object id else none

def setObject (service : RealtimeService) (state : RealtimeConnectionState) : RealtimeService :=
  { service with
    objects := Keyed.modify RealtimeConnectionState.id state.id (fun _ => state) service.objects }

/-- The bucket that a publication goes to. -/
def connectionsOf (service : RealtimeService) : Scope → List Nat
  | .topic topic => Multimap.get topic service.topicConnections
  | .user userId => Multimap.get userId service.userConnections
  | .session sessionId => Multimap.get sessionId service.sessionConnections

end RealtimeService

/-! ## Sending -/

def sendServerMessage (state : RealtimeConnectionState) (message : RealtimeServerMessage) :
    List Sent :=
  if state.readyState = .wsOpen ∧ state.closed = false then [⟨state.id, message⟩] else []

def sendTransportError (state : RealtimeConnectionState) (code : RealtimeErrorCode)
    (message : String) (details : List String) : List Sent :=
  let retryable := code = .resumeNotAvailable || code = .resumeSessionMismatch
  sendServerMessage state (.error code message retryable details)

def publishToConnections (service : RealtimeService) (connectionIds : List Nat)
    (message : RealtimeServerMessage) : List Sent :=
  connectionIds.flatMap fun connectionId =>
    match service.connection connectionId with
    | none => []
    | some connection => if connection.closed then [] else sendServerMessage connection message

/-! ## Publishing -/

def pruneBufferedEvents (options : RealtimeTransportOptions) (service : RealtimeService)
    (now : Int) : RealtimeService :=
  let cutoff := now - options.reconnectWindowMs
  { service with
    bufferedEvents := service.bufferedEvents.dropWhile fun event => event.createdAt ≤ cutoff }

def bufferRealtimeEvent (options : RealtimeTransportOptions) (service : RealtimeService)
    (event : BufferedRealtimeEvent) (now : Int) : RealtimeService :=
  pruneBufferedEvents options
    { service with
      bufferedEvents := service.bufferedEvents ++ [event]
      nextEventSequence := service.nextEventSequence + 1 } now

structure Publication where
  scope : Scope
  event : String
  data : String
  deriving DecidableEq, Repr

def RealtimeService.nextEvent (service : RealtimeService) (publication : Publication) (now : Int) :
    BufferedRealtimeEvent :=
  { sequence := service.nextEventSequence
    createdAt := now
    message := ⟨publication.scope.name, publication.event, publication.data, now⟩
    scope := publication.scope }

def publish (options : RealtimeTransportOptions) (service : RealtimeService)
    (publication : Publication) (now : Int) : RealtimeService × List Sent :=
  let event := service.nextEvent publication now
  let service := bufferRealtimeEvent options service event now
  (service, publishToConnections service (service.connectionsOf publication.scope) (.event event))

def publishToTopic (options : RealtimeTransportOptions) (service : RealtimeService)
    (topic event data : String) (now : Int) : RealtimeService × List Sent :=
  publish options service ⟨.topic topic, event, data⟩ now

def publishToUser (options : RealtimeTransportOptions) (service : RealtimeService) (userId : Nat)
    (event data : String) (now : Int) : RealtimeService × List Sent :=
  publish options service ⟨.user userId, event, data⟩ now

def publishToSession (options : RealtimeTransportOptions) (service : RealtimeService)
    (sessionId event data : String) (now : Int) : RealtimeService × List Sent :=
  publish options service ⟨.session sessionId, event, data⟩ now

/-! ## Opening and closing -/

def attachConnection (options : RealtimeTransportOptions) (service : RealtimeService)
    (userId : Nat) (sessionId : String) (now : Int) : RealtimeService × List Sent :=
  let id := service.objects.length
  let state : RealtimeConnectionState :=
    { id := id
      readyState := .wsOpen
      userId := userId
      sessionId := sessionId
      resumeToken := id
      subscriptions := []
      preserveResumeOnClose := true
      closed := false
      attachedAt := service.nextEventSequence }
  ({ service with
      objects := service.objects ++ [state]
      connections := service.connections ++ [id]
      userConnections := Multimap.add userId id service.userConnections
      sessionConnections := Multimap.add sessionId id service.sessionConnections },
    sendServerMessage state
      (.hello id sessionId userId id options.heartbeatIntervalMs options.heartbeatTimeoutMs
        options.reconnectWindowMs now []))

def resumeSnapshotOf (options : RealtimeTransportOptions) (service : RealtimeService)
    (state : RealtimeConnectionState) (now : Int) : RealtimeResumeSnapshot :=
  { resumeToken := state.resumeToken
    connectionId := state.id
    userId := state.userId
    sessionId := state.sessionId
    subscriptions := state.subscriptions
    expiresAt := now + options.reconnectWindowMs
    lastEventSequence := service.nextEventSequence - 1
    attachedAt := state.attachedAt }

def handleClose (options : RealtimeTransportOptions) (service : RealtimeService)
    (state : RealtimeConnectionState) (now : Int) : RealtimeService :=
  if state.closed then service
  else
    let service' := service.setObject { state with closed := true }
    { service' with
      connections := service.connections.filter (· ≠ state.id)
      userConnections := Multimap.delete state.userId state.id service.userConnections
      sessionConnections := Multimap.delete state.sessionId state.id service.sessionConnections
      topicConnections :=
        state.topics.foldl (fun index topic => Multimap.delete topic state.id index)
          service.topicConnections
      resumeSnapshots :=
        if state.preserveResumeOnClose && !service.shuttingDown then
          service.resumeSnapshots ++ [resumeSnapshotOf options service state now]
        else service.resumeSnapshots }

def forceCloseConnection (options : RealtimeTransportOptions) (service : RealtimeService)
    (state : RealtimeConnectionState) (preserveResume : Bool) (now : Int) : RealtimeService :=
  if state.closed then service
  else
    let state := { state with preserveResumeOnClose := preserveResume }
    if state.readyState = .wsOpen then
      service.setObject { state with readyState := .wsClosing }
    else handleClose options service state now

def close (options : RealtimeTransportOptions) (service : RealtimeService) (now : Int) :
    RealtimeService :=
  if service.shuttingDown then service
  else
    let closing := service.connections.foldl (fun service id =>
      match service.object id with
      | none => service
      | some connection => forceCloseConnection options service connection false now)
      { service with shuttingDown := true }
    { closing with resumeSnapshots := [] }

def pruneExpiredResumeSnapshots (service : RealtimeService) (now : Int) : RealtimeService :=
  { service with
    resumeSnapshots := service.resumeSnapshots.filter fun snapshot => now < snapshot.expiresAt }

/-! ## Messages of the client -/

/-- The loop that `handleSubscribe` and `handleResume` share: a topic that the connection has is
left as it is. -/
def addSubscription (service : RealtimeService) (id : Nat) (topic : String) (overtaken : Bool) :
    RealtimeService :=
  match service.object id with
  | none => service
  | some state =>
      if topic ∈ state.topics then service
      else
        let added : Subscription := ⟨topic, service.nextEventSequence, state.closed, overtaken⟩
        let service := service.setObject { state with subscriptions := state.subscriptions ++ [added] }
        { service with topicConnections := Multimap.add topic id service.topicConnections }

/-- `answer` is what the registered authorisers say. -/
def canSubscribeToTopic (topic : String) (answer : Bool) : Bool :=
  if isReservedTopic topic then false
  else if startsWith topic "public:" then true
  else answer

/-- What `handleSubscribe` sends at its end. -/
def subscribeReplies (service : RealtimeService) (pending : PendingSubscribe) : List Sent :=
  match service.object pending.connectionId with
  | none => []
  | some state =>
      (if pending.accepted = [] then []
        else sendServerMessage state (.subscribed pending.accepted)) ++
      (if pending.rejected = [] then []
        else
          sendTransportError state .forbiddenTopic "One or more realtime topics are not allowed."
            (pending.rejected.map ("forbidden topic: " ++ ·)))

/-- One round of the loop in `handleSubscribe`, after its authorisation. -/
def continueSubscribe (service : RealtimeService) (pending : PendingSubscribe) (answer : Bool) :
    RealtimeService × Option PendingSubscribe × List Sent :=
  match pending.remaining with
  | [] => (service, none, [])
  | topic :: remaining =>
      let authorized := canSubscribeToTopic topic answer
      let service :=
        if authorized then
          addSubscription service pending.connectionId topic (decide (topic ∈ pending.overtaken))
        else service
      let pending :=
        if authorized then
          { pending with remaining := remaining, accepted := pending.accepted ++ [topic] }
        else { pending with remaining := remaining, rejected := pending.rejected ++ [topic] }
      if remaining = [] then (service, none, subscribeReplies service pending)
      else (service, some pending, [])

def deleteSubscription (service : RealtimeService) (id : Nat) (topic : String) : RealtimeService :=
  match service.object id with
  | none => service
  | some state =>
      let kept := state.subscriptions.filter fun subscription => subscription.topic ≠ topic
      let service := service.setObject { state with subscriptions := kept }
      { service with topicConnections := Multimap.delete topic id service.topicConnections }

def handleUnsubscribe (service : RealtimeService) (state : RealtimeConnectionState)
    (requestedTopics : List String) : RealtimeService × List Sent :=
  let removed := (uniqueTopics requestedTopics).filter (· ∈ state.topics)
  let service := removed.foldl (fun service topic => deleteSubscription service state.id topic)
    service
  (service, if removed = [] then [] else sendServerMessage state (.unsubscribed removed))

/-- The events that the client of the snapshot missed, if they are all still there. -/
def collectReplayableEvents (service : RealtimeService) (snapshot : RealtimeResumeSnapshot) :
    Option (List BufferedRealtimeEvent) :=
  let currentLastSequence := service.nextEventSequence - 1
  if currentLastSequence ≤ snapshot.lastEventSequence then some []
  else
    match service.bufferedEvents with
    | [] => none
    | oldest :: _ =>
        if snapshot.lastEventSequence + 1 < oldest.sequence then none
        else
          let replayTopics := snapshot.topics ++
            [getUserScopeTopic snapshot.userId, getSessionScopeTopic snapshot.sessionId]
          some (service.bufferedEvents.filter fun event =>
            snapshot.lastEventSequence < event.sequence ∧ event.message.topic ∈ replayTopics)

def deleteSnapshot (service : RealtimeService) (resumeToken : Nat) : RealtimeService :=
  { service with
    resumeSnapshots := service.resumeSnapshots.filter fun snapshot =>
      snapshot.resumeToken ≠ resumeToken }

inductive ResumeRefusal where
  | expired
  | sessionMismatch
  | replayGone
  deriving DecidableEq, Repr

/-- The checks of `handleResume`: the snapshot and the events to replay. -/
def resumable (service : RealtimeService) (state : RealtimeConnectionState) (resumeToken : Nat)
    (now : Int) :
    Except ResumeRefusal (RealtimeResumeSnapshot × List BufferedRealtimeEvent) :=
  match Keyed.lookup RealtimeResumeSnapshot.resumeToken resumeToken service.resumeSnapshots with
  | none => .error .expired
  | some snapshot =>
      if snapshot.expiresAt ≤ now then .error .expired
      else if snapshot.userId ≠ state.userId ∨ snapshot.sessionId ≠ state.sessionId then
        .error .sessionMismatch
      else
        match collectReplayableEvents service snapshot with
        | none => .error .replayGone
        | some replayEvents => .ok (snapshot, replayEvents)

def handleResume (service : RealtimeService) (state : RealtimeConnectionState) (resumeToken : Nat)
    (now : Int) : RealtimeService × List Sent :=
  match resumable service state resumeToken now with
  | .error .expired =>
      (deleteSnapshot service resumeToken,
        sendTransportError state .resumeNotAvailable
          "Reconnect window expired. Please perform a fresh sync."
          ["resume token not found or expired"])
  | .error .sessionMismatch =>
      (service,
        sendTransportError state .resumeSessionMismatch
          "Reconnect token does not belong to the current session."
          ["resume token session mismatch"])
  | .error .replayGone =>
      (deleteSnapshot service resumeToken,
        sendTransportError state .resumeNotAvailable
          "Reconnect window replay is no longer available. Please perform a fresh sync."
          ["buffered realtime events expired before replay completed"])
  | .ok (snapshot, replayEvents) =>
      let service := snapshot.topics.foldl
        (fun service topic => addSubscription service state.id topic false)
        (deleteSnapshot service resumeToken)
      let subscriptions := ((service.object state.id).map RealtimeConnectionState.topics).getD []
      (service,
        sendServerMessage state (.resumed snapshot.connectionId now subscriptions) ++
          replayEvents.flatMap fun event => sendServerMessage state (.event event))

/-! ## Runs -/

/-- The service, what its clients have been sent, and what has been published. -/
structure Transport where
  service : RealtimeService
  clock : Int
  requests : Nat
  pending : List PendingSubscribe
  sent : List Sent
  published : List BufferedRealtimeEvent

/-- `receive` gets the parsed message, or why it cannot be parsed. `authorize` ends the wait for
the next topic of a subscribe message. -/
inductive Operation where
  | attach (userId : Nat) (sessionId : String)
  | receive (id : Nat) (raw : Except (List String) RealtimeClientMessage)
  | authorize (request : Nat) (answer : Bool)
  | publish (publication : Publication)
  | forceClose (id : Nat) (preserveResume : Bool)
  | socketClosing (id : Nat)
  | socketClosed (id : Nat)
  | cleanup
  | shutDown

/-- An operation, and the time since the one before it. -/
structure Call where
  elapsed : Nat
  operation : Operation

def Transport.served (transport : Transport) (result : RealtimeService × List Sent) : Transport :=
  { transport with
    service := result.1
    sent := transport.sent ++ result.2 }

/-- A message of a client whose connection is not closed. -/
def receiveMessage (transport : Transport) (state : RealtimeConnectionState) :
    Except (List String) RealtimeClientMessage → Transport
  | .error details =>
      transport.served (transport.service,
        sendTransportError state .invalidMessage "Invalid realtime message." details)
  | .ok (.ping pingId) =>
      transport.served (transport.service, sendServerMessage state (.pong pingId transport.clock))
  | .ok .pong => transport
  | .ok (.subscribe topics) =>
      { transport with
        requests := transport.requests + 1
        pending := transport.pending ++
          [⟨transport.requests, state.id, uniqueTopics topics, [], [], []⟩] }
  | .ok (.unsubscribe topics) =>
      { transport.served (handleUnsubscribe transport.service state topics) with
        pending := transport.pending.map fun pending =>
          if pending.connectionId = state.id then
            { pending with overtaken := pending.overtaken ++ topics }
          else pending }
  | .ok (.resume resumeToken) =>
      transport.served (handleResume transport.service state resumeToken transport.clock)

def authorizeNext (transport : Transport) (pending : PendingSubscribe) (answer : Bool) :
    Transport :=
  let (service, next, sent) := continueSubscribe transport.service pending answer
  { transport.served (service, sent) with
    pending := transport.pending.flatMap fun other =>
      if other.request = pending.request then next.toList else [other] }

def perform (options : RealtimeTransportOptions) (transport : Transport) : Operation → Transport
  | .attach userId sessionId =>
      transport.served (attachConnection options transport.service userId sessionId transport.clock)
  | .receive id raw =>
      match transport.service.object id with
      | none => transport
      | some state => if state.closed then transport else receiveMessage transport state raw
  | .authorize request answer =>
      match Keyed.lookup PendingSubscribe.request request transport.pending with
      | none => transport
      | some pending => authorizeNext transport pending answer
  | .publish publication =>
      { transport.served (Realtime.publish options transport.service publication transport.clock)
          with
        published := transport.published ++
          [transport.service.nextEvent publication transport.clock] }
  | .forceClose id preserveResume =>
      match transport.service.object id with
      | none => transport
      | some state =>
          { transport with
            service :=
              forceCloseConnection options transport.service state preserveResume transport.clock }
  | .socketClosing id =>
      match transport.service.object id with
      | none => transport
      | some state =>
          if state.readyState = .wsOpen then
            { transport with
              service := transport.service.setObject { state with readyState := .wsClosing } }
          else transport
  | .socketClosed id =>
      match transport.service.object id with
      | none => transport
      | some state =>
          { transport with
            service :=
              handleClose options transport.service { state with readyState := .wsClosed }
                transport.clock }
  | .cleanup =>
      { transport with
        service :=
          pruneBufferedEvents options
            (pruneExpiredResumeSnapshots transport.service transport.clock) transport.clock }
  | .shutDown =>
      { transport with service := close options transport.service transport.clock }

def step (options : RealtimeTransportOptions) (transport : Transport) (call : Call) : Transport :=
  perform options { transport with clock := transport.clock + call.elapsed } call.operation

/-- A new service without clients. -/
def Transport.start (clock : Int) : Transport :=
  { service :=
      { objects := []
        connections := []
        topicConnections := []
        userConnections := []
        sessionConnections := []
        resumeSnapshots := []
        bufferedEvents := []
        nextEventSequence := 1
        shuttingDown := false }
    clock := clock
    requests := 0
    pending := []
    sent := []
    published := [] }

end RewardSystem.Realtime
