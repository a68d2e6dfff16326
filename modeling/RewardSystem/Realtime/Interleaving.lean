import RewardSystem.Realtime.Connections

/-!
# Subscriptions that come too late

A subscribe message is authorised while other messages and the close of the connection are handled.
The indices are those of the open connections through a run exactly if no topic is added after the
close or after the client has unsubscribed from it.
-/

namespace RewardSystem.Realtime

open Transition

/-- The indices name the open connections, and no subscribe message has undone a later
unsubscribe message. -/
structure IndexConsistent (service : RealtimeService) : Prop where
  topics : ∀ topic id, id ∈ Multimap.get topic service.topicConnections ↔
    ∃ state, service.object id = some state ∧ state.closed = false ∧ topic ∈ state.topics
  closed : ∀ id state, service.object id = some state → state.closed = true →
    id ∉ service.connections ∧
      (∀ userId, id ∉ Multimap.get userId service.userConnections) ∧
      (∀ sessionId, id ∉ Multimap.get sessionId service.sessionConnections) ∧
      ∀ topic, id ∉ Multimap.get topic service.topicConnections
  current : ∀ id state, service.object id = some state →
    ∀ subscription ∈ state.subscriptions, subscription.overtaken = false

/-- The topic that the next round of a subscribe message adds, and to which connection. -/
def topicAdded (service : RealtimeService) (pending : PendingSubscribe) (answer : Bool) :
    Option (RealtimeConnectionState × String) := do
  let topic ← pending.remaining.head?
  let state ← service.object pending.connectionId
  if canSubscribeToTopic topic answer ∧ topic ∉ state.topics then some (state, topic) else none

/-- A topic that is added for a subscribe message finds the connection open, and the client has not
unsubscribed from it since. -/
def InTime (e : Event Transport Call) : Prop :=
  match e.label.operation with
  | .authorize request answer =>
      ∀ pending ∈ Keyed.lookup PendingSubscribe.request request e.before.pending,
        ∀ added ∈ topicAdded e.before.service pending answer,
          added.1.closed = false ∧ added.2 ∉ pending.overtaken
  | _ => True

/-- No topic of any connection was added too late. -/
def OnTime (service : RealtimeService) : Prop :=
  ∀ id state, service.object id = some state →
    ∀ subscription ∈ state.subscriptions,
      subscription.afterClose = false ∧ subscription.overtaken = false

section OnTime

variable {options : RealtimeTransportOptions} {service service' : RealtimeService}
  {state state' : RealtimeConnectionState} {id : Nat} {topic : String} {now : Int}

theorem indexConsistent_iff (hwf : WellFormed service) :
    IndexConsistent service ↔ OnTime service := by
  constructor
  · intro hconsistent id state hstate subscription hsubscription
    refine ⟨?_, hconsistent.current id state hstate subscription hsubscription⟩
    cases hafter : subscription.afterClose with
    | false => rfl
    | true =>
        have hin : state.InTopic subscription.topic :=
          ⟨subscription, hsubscription, rfl, .inr hafter⟩
        have hmem := ((hwf.topics subscription.topic).mem_iff hstate).mpr hin
        obtain ⟨state', hstate', hopen, _⟩ := (hconsistent.topics _ id).mp hmem
        obtain rfl := Option.some.inj (hstate.symm.trans hstate')
        have hfalse := hwf.opened id state hstate hopen subscription hsubscription
        exact absurd (hafter.symm.trans hfalse) (by simp)
  · intro honTime
    have htopics : ∀ topic id, id ∈ Multimap.get topic service.topicConnections ↔
        ∃ state, service.object id = some state ∧ state.closed = false ∧ topic ∈ state.topics := by
      intro topic id
      rw [hwf.topics topic id]
      constructor
      · rintro ⟨state, hstate, subscription, hsubscription, rfl, hopen | hafter⟩
        · exact ⟨state, hstate, hopen, List.mem_map_of_mem hsubscription⟩
        · have hfalse := (honTime id state hstate subscription hsubscription).1
          exact absurd (hafter.symm.trans hfalse) (by simp)
      · rintro ⟨state, hstate, hopen, htopic⟩
        obtain ⟨subscription, hsubscription, rfl⟩ := List.mem_map.mp htopic
        exact ⟨state, hstate, subscription, hsubscription, rfl, .inl hopen⟩
    refine ⟨htopics, ?_, fun id state hstate subscription hsubscription =>
      (honTime id state hstate subscription hsubscription).2⟩
    intro id state hstate hclosed
    refine ⟨?_, ?_, ?_, ?_⟩
    · rw [hwf.connections.mem_iff hstate, hclosed]
      simp
    · intro userId
      rw [(hwf.users userId).mem_iff hstate, hclosed]
      simp
    · intro sessionId
      rw [(hwf.sessions sessionId).mem_iff hstate, hclosed]
      simp
    · intro topic
      rw [htopics topic id]
      rintro ⟨state', hstate', hopen, _⟩
      obtain rfl := Option.some.inj (hstate.symm.trans hstate')
      exact absurd (hclosed.symm.trans hopen) (by simp)

theorem SameConnections.onTime (h : SameConnections service service') (honTime : OnTime service) :
    OnTime service' := by
  intro id state hstate
  rw [h.object] at hstate
  exact honTime id state hstate

theorem OnTime.replace (honTime : OnTime service) (hstate : service.object id = some state)
    (hreplaces : Replaces service service' id state')
    (hsubset : state'.subscriptions ⊆ state.subscriptions) : OnTime service' := by
  refine hreplaces.forall honTime ?_
  intro subscription hsubscription
  exact honTime id state hstate subscription (hsubset hsubscription)

theorem onTime_addSubscription (honTime : OnTime service)
    (hstate : service.object id = some state) (overtaken : Bool) :
    OnTime (addSubscription service id topic overtaken) ↔
      (topic ∉ state.topics → state.closed = false ∧ overtaken = false) := by
  by_cases hmem : topic ∈ state.topics
  · rw [addSubscription_of_mem hstate hmem]
    simp [hmem, honTime]
  · rw [addSubscription_of_notMem hstate hmem]
    have hid : state.id = id := id_of_object hstate
    have hreplaces := replaces_setObject hstate
      (show (state.adding topic service.nextEventSequence overtaken).id = id from hid)
    constructor
    · intro h _
      have hnew := h id (state.adding topic service.nextEventSequence overtaken)
        ((hreplaces id).trans (if_pos rfl)) ⟨topic, service.nextEventSequence, state.closed, overtaken⟩
        (by simp [RealtimeConnectionState.adding])
      exact hnew
    · intro h
      refine hreplaces.forall honTime ?_
      intro subscription hsubscription
      rcases List.mem_append.mp hsubscription with hold | hnew
      · exact honTime id state hstate subscription hold
      · obtain rfl := List.mem_singleton.mp hnew
        exact h hmem

theorem onTime_deleteSubscription (honTime : OnTime service) :
    OnTime (deleteSubscription service id topic) := by
  cases hstate : service.object id with
  | none =>
      unfold deleteSubscription
      rw [hstate]
      exact honTime
  | some state =>
      rw [deleteSubscription_of_object hstate]
      have hid : state.id = id := id_of_object hstate
      have hreplaces := replaces_setObject hstate (show (state.dropping topic).id = id from hid)
      exact honTime.replace hstate hreplaces fun _ hmem => List.mem_of_mem_filter hmem

theorem onTime_handleClose (honTime : OnTime service)
    (hstate : service.object state'.id = some state)
    (hsubscriptions : state'.subscriptions = state.subscriptions) :
    OnTime (handleClose options service state' now) := by
  cases hopen : state'.closed with
  | true =>
      rw [handleClose_of_closed hopen]
      exact honTime
  | false =>
      refine honTime.replace hstate (replaces_handleClose hstate hopen) ?_
      unfold RealtimeConnectionState.shut
      rw [hsubscriptions]
      exact List.Subset.refl _

theorem onTime_forceClose (honTime : OnTime service)
    (hstate : service.object state.id = some state) (preserveResume : Bool) :
    OnTime (forceCloseConnection options service state preserveResume now) := by
  unfold forceCloseConnection
  split
  · exact honTime
  · dsimp only
    split
    · exact honTime.replace hstate (replaces_setObject hstate rfl) (List.Subset.refl _)
    · exact onTime_handleClose honTime hstate rfl

theorem onTime_close (honTime : OnTime service) : OnTime (close options service now) := by
  cases hdown : service.shuttingDown with
  | true =>
      simp only [close, hdown, if_true]
      exact honTime
  | false =>
      rw [close_of_not_shuttingDown hdown]
      apply (sameConnections_snapshots []).onTime
      apply foldl_keeps
      · intro service id honTime
        split
        · exact honTime
        · rename_i connection hconnection
          obtain rfl := id_of_object hconnection
          exact onTime_forceClose honTime hconnection false
      · exact sameConnections_shuttingDown.onTime honTime

theorem onTime_handleUnsubscribe (honTime : OnTime service) (requestedTopics : List String) :
    OnTime (handleUnsubscribe service state requestedTopics).1 := by
  unfold handleUnsubscribe
  dsimp only
  apply foldl_keeps
  · intro service topic honTime
    exact onTime_deleteSubscription honTime
  · exact honTime

theorem onTime_handleResume (honTime : OnTime service)
    (hstate : service.object state.id = some state) (hopen : state.closed = false)
    (resumeToken : Nat) : OnTime (handleResume service state resumeToken now).1 := by
  have hdeleted := (sameConnections_deleteSnapshot resumeToken).onTime honTime
  unfold handleResume
  split
  · exact hdeleted
  · exact honTime
  · exact hdeleted
  · rename_i snapshot _ _
    dsimp only
    refine (foldl_keeps (P := fun service => OnTime service ∧ IsOpen service state.id) ?_
      ⟨hdeleted, state, hstate, hopen⟩).1
    rintro service topic ⟨honTime, row, hrow, hclosed⟩
    refine ⟨?_, isOpen_addSubscription ⟨row, hrow, hclosed⟩ false⟩
    exact (onTime_addSubscription honTime hrow false).mpr fun _ => ⟨hclosed, rfl⟩

end OnTime

section Runs

variable {options : RealtimeTransportOptions} {transport t : Transport}
  {events : List (Event Transport Call)}

theorem onTime_continueSubscribe {service : RealtimeService} (honTime : OnTime service)
    (pending : PendingSubscribe) (answer : Bool) :
    OnTime (continueSubscribe service pending answer).1 ↔
      ∀ added ∈ topicAdded service pending answer,
        added.1.closed = false ∧ added.2 ∉ pending.overtaken := by
  cases hremaining : pending.remaining with
  | nil =>
      rw [continueSubscribe_nil hremaining]
      simp [honTime, topicAdded, hremaining]
  | cons topic remaining =>
      rw [continueSubscribe_cons hremaining]
      cases hstate : service.object pending.connectionId with
      | none =>
          have hsame : addSubscription service pending.connectionId topic
              (decide (topic ∈ pending.overtaken)) = service := by
            unfold addSubscription
            rw [hstate]
          simp [honTime, hsame, topicAdded, hremaining, hstate]
      | some state =>
          cases hauthorized : canSubscribeToTopic topic answer with
          | false => simp [honTime, topicAdded, hremaining, hstate, hauthorized]
          | true =>
              rw [if_pos rfl, onTime_addSubscription honTime hstate, decide_eq_false_iff_not]
              by_cases hmem : topic ∈ state.topics
              · simp [topicAdded, hremaining, hstate, hauthorized, hmem]
              · simp [topicAdded, hremaining, hstate, hauthorized, hmem]

theorem onTime_receiveMessage {state : RealtimeConnectionState}
    (honTime : OnTime transport.service)
    (hstate : transport.service.object state.id = some state) (hopen : state.closed = false)
    (raw : Except (List String) RealtimeClientMessage) :
    OnTime (receiveMessage transport state raw).service := by
  cases raw with
  | error details => exact honTime
  | ok message =>
      cases message with
      | ping pingId => exact honTime
      | pong => exact honTime
      | subscribe topics => exact honTime
      | unsubscribe topics => exact onTime_handleUnsubscribe honTime topics
      | resume resumeToken => exact onTime_handleResume honTime hstate hopen resumeToken

theorem onTime_perform (honTime : OnTime transport.service) {operation : Operation}
    (hother : ∀ request answer, operation ≠ .authorize request answer)
    (hwf : WellFormed transport.service) :
    OnTime (perform options transport operation).service := by
  cases operation with
  | attach userId sessionId =>
      have hreplaces := @replaces_attachConnection options transport.service transport.clock hwf
        userId sessionId
      refine hreplaces.forall honTime ?_
      simp [newConnection]
  | receive id raw =>
      simp only [perform]
      split
      · exact honTime
      · rename_i state hstate
        obtain rfl := id_of_object hstate
        split
        · exact honTime
        · rename_i hopen
          exact onTime_receiveMessage honTime hstate (by simpa using hopen) raw
  | authorize request answer => exact absurd rfl (hother request answer)
  | publish publication => exact (sameConnections_publish publication).onTime honTime
  | forceClose id preserveResume =>
      simp only [perform]
      split
      · exact honTime
      · rename_i state hstate
        obtain rfl := id_of_object hstate
        exact onTime_forceClose honTime hstate preserveResume
  | socketClosing id =>
      simp only [perform]
      split
      · exact honTime
      · rename_i state hstate
        have hid : state.id = id := id_of_object hstate
        split
        · exact honTime.replace hstate (replaces_setObject hstate hid) (List.Subset.refl _)
        · exact honTime
  | socketClosed id =>
      simp only [perform]
      split
      · exact honTime
      · rename_i state hstate
        obtain rfl := id_of_object hstate
        exact onTime_handleClose honTime hstate rfl
  | cleanup => exact sameConnections_cleanup.onTime honTime
  | shutDown => exact onTime_close honTime

theorem onTime_step_iff (hwf : WellFormed transport.service) (honTime : OnTime transport.service)
    (call : Call) :
    OnTime (step options transport call).service ↔
      InTime ⟨transport, call, step options transport call⟩ := by
  obtain ⟨elapsed, operation⟩ := call
  unfold InTime step
  have hperform : ∀ transport : Transport, WellFormed transport.service →
      OnTime transport.service → (∀ request answer, operation ≠ .authorize request answer) →
        OnTime (perform options transport operation).service :=
    fun transport hwf honTime hother => onTime_perform honTime hother hwf
  cases operation with
  | authorize request answer =>
      dsimp only [perform]
      cases hpending : Keyed.lookup PendingSubscribe.request request transport.pending with
      | none => exact iff_of_true honTime (by simp)
      | some pending =>
          change OnTime (continueSubscribe transport.service pending answer).1 ↔ _
          rw [onTime_continueSubscribe honTime]
          simp
  | _ => exact iff_of_true (hperform _ hwf honTime (by simp)) trivial

/-- **When the indices are those of the open connections.** They are so through a run exactly if
every topic that is added for a subscribe message finds the connection open and the client has not
unsubscribed from it since. -/
theorem indexConsistent_iff_inTime {clock : Int}
    (hrun : Run (Takes (step options)) (Transport.start clock) events t) :
    (∀ e ∈ events, IndexConsistent e.after.service) ↔ ∀ e ∈ events, InTime e := by
  have hstart : WellFormed (Transport.start clock).service ∧
      OnTime (Transport.start clock).service := by
    refine ⟨wellFormed_start clock, ?_⟩
    simp [OnTime, Transport.start, RealtimeService.object, Keyed.lookup]
  refine Run.forall_after_iff_of_guard
    (I := fun transport => WellFormed transport.service ∧ OnTime transport.service)
    (P := fun transport => IndexConsistent transport.service) ?_ ?_ hrun hstart
  · rintro transport call _ ⟨hwf, honTime⟩ rfl
    rw [indexConsistent_iff (wellFormed_step hwf call)]
    exact onTime_step_iff hwf honTime call
  · rintro transport call _ ⟨hwf, _⟩ rfl hconsistent
    have hwf' : WellFormed (step options transport call).service := wellFormed_step hwf call
    exact ⟨hwf', (indexConsistent_iff hwf').mp hconsistent⟩

end Runs

section Example

instance (e : Event Transport Call) : Decidable (InTime e) := by
  unfold InTime
  cases e.label.operation <;> infer_instance

def defaultOptions : RealtimeTransportOptions :=
  { heartbeatIntervalMs := 25000
    heartbeatTimeoutMs := 10000
    reconnectWindowMs := 60000 }

def attachUser : Call :=
  ⟨0, .attach 1 "s1"⟩

def subscribeTable : Call :=
  ⟨10, .receive 0 (.ok (.subscribe ["table-7"]))⟩

def authorizeTable : Call :=
  ⟨10, .authorize 0 true⟩

/-- The socket closes while the subscribe message is being authorised. -/
def lateCalls : List Call :=
  [attachUser, subscribeTable, ⟨10, .socketClosed 0⟩, authorizeTable]

theorem not_indexConsistent_of_lateCalls :
    ¬∀ options clock events t, Run (Takes (step options)) (Transport.start clock) events t →
      ∀ e ∈ events, IndexConsistent e.after.service := by
  intro hclaim
  have hconsistent := hclaim defaultOptions 0 _ _
    (Run.of_visits (step defaultOptions) (Transport.start 0) lateCalls)
  obtain ⟨e, he, hmem, hclosed⟩ : ∃ e ∈ visits (step defaultOptions) (Transport.start 0) lateCalls,
      0 ∈ Multimap.get "table-7" e.after.service.topicConnections ∧
        (e.after.service.object 0).map RealtimeConnectionState.closed = some true := by
    decide +kernel
  obtain ⟨state, hstate, hopen, _⟩ := ((hconsistent e he).topics "table-7" 0).mp hmem
  rw [hstate, Option.map_some, hopen] at hclosed
  cases hclosed

theorem indexConsistent_of_inTime_calls :
    let events := visits (step defaultOptions) (Transport.start 0)
      [attachUser, subscribeTable, authorizeTable, ⟨10, .socketClosed 0⟩]
    (∃ e ∈ events, 0 ∈ Multimap.get "table-7" e.after.service.topicConnections) ∧
      ∀ e ∈ events, IndexConsistent e.after.service :=
  ⟨by decide +kernel,
    (indexConsistent_iff_inTime (Run.of_visits (step defaultOptions) (Transport.start 0)
      [attachUser, subscribeTable, authorizeTable, ⟨10, .socketClosed 0⟩])).mpr
        (by decide +kernel)⟩

end Example

end RewardSystem.Realtime
