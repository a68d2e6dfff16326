import RewardSystem.Realtime.Connections

/-!
# What a client is to hear

Which events a connection is to hear, which messages bring it events, and what the operations that
publish nothing do to the connections.
-/

namespace RewardSystem.Realtime

open Transition

def eventsTo (sent : List Sent) (id : Nat) : List BufferedRealtimeEvent :=
  sent.filterMap fun message =>
    match message with
    | ⟨connectionId, .event event⟩ => if connectionId = id then some event else none
    | _ => none

/-- What a client is to hear, and from which event on. -/
structure Audience where
  userId : Nat
  sessionId : String
  attachedAt : Nat
  subscriptions : List Subscription

def Audience.Hears (audience : Audience) (event : BufferedRealtimeEvent) : Prop :=
  match event.scope with
  | .topic topic =>
      ∃ subscription ∈ audience.subscriptions,
        subscription.topic = topic ∧ subscription.since ≤ event.sequence
  | .user userId => userId = audience.userId ∧ audience.attachedAt ≤ event.sequence
  | .session sessionId => sessionId = audience.sessionId ∧ audience.attachedAt ≤ event.sequence

instance (audience : Audience) (event : BufferedRealtimeEvent) :
    Decidable (audience.Hears event) := by
  unfold Audience.Hears
  split <;> infer_instance

def RealtimeConnectionState.audience (state : RealtimeConnectionState) : Audience :=
  ⟨state.userId, state.sessionId, state.attachedAt, state.subscriptions⟩

def RealtimeResumeSnapshot.audience (snapshot : RealtimeResumeSnapshot) : Audience :=
  ⟨snapshot.userId, snapshot.sessionId, snapshot.attachedAt, snapshot.subscriptions⟩

/-- `after` hears nothing that was published before `next` and that `before` did not hear. -/
structure Audience.Follows (next : Nat) (before after : Audience) : Prop where
  userId : after.userId = before.userId
  sessionId : after.sessionId = before.sessionId
  attachedAt : after.attachedAt = before.attachedAt
  subscriptions : ∀ subscription ∈ after.subscriptions, subscription ∈ before.subscriptions ∨
    (subscription.since = next ∧ isReservedTopic subscription.topic = false)

theorem Audience.Follows.refl (next : Nat) (audience : Audience) :
    audience.Follows next audience :=
  ⟨rfl, rfl, rfl, fun _ hmem => .inl hmem⟩

theorem Audience.Follows.trans {next : Nat} {first second third : Audience}
    (h : first.Follows next second) (h' : second.Follows next third) : first.Follows next third where
  userId := h'.userId.trans h.userId
  sessionId := h'.sessionId.trans h.sessionId
  attachedAt := h'.attachedAt.trans h.attachedAt
  subscriptions subscription hmem := by
    rcases h'.subscriptions subscription hmem with hmem | hnew
    · exact h.subscriptions subscription hmem
    · exact .inr hnew

theorem Audience.Follows.hears {next : Nat} {before after : Audience}
    {event : BufferedRealtimeEvent} (h : before.Follows next after) (hold : event.sequence < next)
    (hhears : after.Hears event) : before.Hears event := by
  unfold Audience.Hears at *
  split at hhears
  · obtain ⟨subscription, hmem, rfl, hsince⟩ := hhears
    rcases h.subscriptions subscription hmem with hmem | ⟨hnext, _⟩
    · exact ⟨subscription, hmem, rfl, hsince⟩
    · omega
  · rwa [← h.userId, ← h.attachedAt]
  · rwa [← h.sessionId, ← h.attachedAt]

/-! ## Changes without deliveries -/

/-- What becomes of a connection while nothing is published. -/
structure Becomes (next : Nat) (before after : RealtimeConnectionState) : Prop where
  audience : before.audience.Follows next after.audience
  closed : before.closed = true → after.closed = true

structure LeftBehind (service service' : RealtimeService) (snapshot : RealtimeResumeSnapshot) :
    Prop where
  connection : ∃ state, service.object snapshot.connectionId = some state ∧ state.closed = false ∧
    state.audience.Follows service.nextEventSequence snapshot.audience
  closed : ∃ state', service'.object snapshot.connectionId = some state' ∧ state'.closed = true
  last : snapshot.lastEventSequence = service.nextEventSequence - 1

/-- Connections are subscribed, unsubscribed and closed, and snapshots come and go. -/
structure Quiet (service service' : RealtimeService) : Prop where
  next : service'.nextEventSequence = service.nextEventSequence
  buffered : service'.bufferedEvents <:+ service.bufferedEvents
  objects : ∀ id, Option.Rel (Becomes service.nextEventSequence) (service.object id)
    (service'.object id)
  snapshots : ∀ snapshot ∈ service'.resumeSnapshots, snapshot ∈ service.resumeSnapshots ∨
    LeftBehind service service' snapshot

section Quiet

variable {options : RealtimeTransportOptions} {service service' service'' : RealtimeService}
  {state state' : RealtimeConnectionState} {id : Nat} {topic : String} {now : Int}

theorem Becomes.refl (next : Nat) (state : RealtimeConnectionState) : Becomes next state state :=
  ⟨.refl next _, fun h => h⟩

theorem Becomes.trans {next : Nat} {first second third : RealtimeConnectionState}
    (h : Becomes next first second) (h' : Becomes next second third) : Becomes next first third :=
  ⟨h.audience.trans h'.audience, fun hclosed => h'.closed (h.closed hclosed)⟩

theorem Quiet.origin (h : Quiet service service') (hstate' : service'.object id = some state') :
    ∃ state, service.object id = some state ∧ Becomes service.nextEventSequence state state' := by
  have hrel := h.objects id
  rw [hstate'] at hrel
  cases hstate : service.object id with
  | none =>
      rw [hstate] at hrel
      cases hrel
  | some state =>
      rw [hstate] at hrel
      cases hrel with
      | some hbecomes => exact ⟨state, rfl, hbecomes⟩

theorem Quiet.successor (h : Quiet service service') (hstate : service.object id = some state) :
    ∃ state', service'.object id = some state' ∧ Becomes service.nextEventSequence state state' := by
  have hrel := h.objects id
  rw [hstate] at hrel
  cases hstate' : service'.object id with
  | none =>
      rw [hstate'] at hrel
      cases hrel
  | some state' =>
      rw [hstate'] at hrel
      cases hrel with
      | some hbecomes => exact ⟨state', rfl, hbecomes⟩

theorem objects_refl (next : Nat) (row : Option RealtimeConnectionState) :
    Option.Rel (Becomes next) row row := by
  cases row with
  | none => exact .none
  | some state => exact .some (.refl next state)

theorem Quiet.refl (service : RealtimeService) : Quiet service service :=
  ⟨rfl, List.suffix_rfl, fun _ => objects_refl _ _, fun _ hmem => .inl hmem⟩

theorem Quiet.trans (h : Quiet service service') (h' : Quiet service' service'') :
    Quiet service service'' where
  next := h'.next.trans h.next
  buffered := h'.buffered.trans h.buffered
  objects id := by
    have hrel := h'.objects id
    rw [h.next] at hrel
    cases hstate : service.object id with
    | none =>
        have hfirst := h.objects id
        rw [hstate] at hfirst
        cases hstate' : service'.object id with
        | none =>
            rw [hstate'] at hrel
            exact hrel
        | some state' =>
            rw [hstate'] at hfirst
            cases hfirst
    | some state =>
        obtain ⟨state', hstate', hbecomes⟩ := h.successor hstate
        obtain ⟨state'', hstate'', hbecomes'⟩ := h'.successor hstate'
        rw [hstate'']
        rw [h.next] at hbecomes'
        exact .some (hbecomes.trans hbecomes')
  snapshots snapshot hmem := by
    rcases h'.snapshots snapshot hmem with hmem | hleft
    · rcases h.snapshots snapshot hmem with hmem | hleft
      · exact .inl hmem
      · obtain ⟨state', hstate', hclosed'⟩ := hleft.closed
        obtain ⟨state'', hstate'', hbecomes⟩ := h'.successor hstate'
        exact .inr { hleft with closed := ⟨state'', hstate'', hbecomes.closed hclosed'⟩ }
    · obtain ⟨state', hstate', hopen, hfollows⟩ := hleft.connection
      obtain ⟨state, hstate, hbecomes⟩ := h.origin hstate'
      rw [h.next] at hfollows
      refine .inr ⟨⟨state, hstate, ?_, hbecomes.audience.trans hfollows⟩, hleft.closed, ?_⟩
      · cases hclosed : state.closed with
        | false => rfl
        | true => exact absurd (hopen.symm.trans (hbecomes.closed hclosed)) (by simp)
      · rw [hleft.last, h.next]

theorem quiet_of_replaces (hstate : service.object id = some state)
    (hreplaces : Replaces service service' id state')
    (hbecomes : Becomes service.nextEventSequence state state')
    (hnext : service'.nextEventSequence = service.nextEventSequence)
    (hbuffered : service'.bufferedEvents = service.bufferedEvents)
    (hsnapshots : ∀ snapshot ∈ service'.resumeSnapshots, snapshot ∈ service.resumeSnapshots ∨
      LeftBehind service service' snapshot) : Quiet service service' where
  next := hnext
  buffered := hbuffered ▸ List.suffix_rfl
  objects id' := by
    rw [hreplaces id']
    by_cases hid : id' = id
    · rw [if_pos hid, hid, hstate]
      exact .some hbecomes
    · rw [if_neg hid]
      exact objects_refl _ _
  snapshots := hsnapshots

theorem quiet_setObject (hstate : service.object id = some state) (hid : state'.id = id)
    (hbecomes : Becomes service.nextEventSequence state state') :
    Quiet service (service.setObject state') :=
  quiet_of_replaces hstate (replaces_setObject hstate hid) hbecomes rfl rfl
    fun _ hmem => .inl hmem

theorem quiet_addSubscription (htopic : isReservedTopic topic = false) (overtaken : Bool) :
    Quiet service (addSubscription service id topic overtaken) := by
  cases hstate : service.object id with
  | none =>
      unfold addSubscription
      rw [hstate]
      exact .refl service
  | some state =>
      by_cases hmem : topic ∈ state.topics
      · rw [addSubscription_of_mem hstate hmem]
        exact .refl service
      · rw [addSubscription_of_notMem hstate hmem]
        have hid : state.id = id := id_of_object hstate
        refine quiet_of_replaces hstate (replaces_setObject hstate
          (show (state.adding topic service.nextEventSequence overtaken).id = id from hid))
          ⟨⟨rfl, rfl, rfl, ?_⟩, fun h => h⟩ rfl rfl fun _ hmem => .inl hmem
        intro subscription hsubscription
        rcases List.mem_append.mp hsubscription with hold | hnew
        · exact .inl hold
        · obtain rfl := List.mem_singleton.mp hnew
          exact .inr ⟨rfl, htopic⟩

theorem quiet_deleteSubscription : Quiet service (deleteSubscription service id topic) := by
  cases hstate : service.object id with
  | none =>
      unfold deleteSubscription
      rw [hstate]
      exact .refl service
  | some state =>
      rw [deleteSubscription_of_object hstate]
      have hid : state.id = id := id_of_object hstate
      exact quiet_of_replaces hstate
        (replaces_setObject hstate (show (state.dropping topic).id = id from hid))
        ⟨⟨rfl, rfl, rfl, fun _ hmem => .inl (List.mem_of_mem_filter hmem)⟩, fun h => h⟩ rfl rfl
        fun _ hmem => .inl hmem

theorem quiet_handleClose (hstate : service.object state'.id = some state)
    (hclosed : state'.closed = state.closed) (haudience : state'.audience = state.audience) :
    Quiet service (handleClose options service state' now) := by
  cases hopen : state'.closed with
  | true =>
      rw [handleClose_of_closed hopen]
      exact .refl service
  | false =>
      have hreplaces : Replaces service (handleClose options service state' now) state'.id
          state'.shut := replaces_handleClose hstate hopen
      have hfollows : state.audience.Follows service.nextEventSequence state'.audience := by
        rw [haudience]
        exact .refl _ _
      rw [handleClose_of_open hopen] at hreplaces ⊢
      refine quiet_of_replaces hstate hreplaces ⟨hfollows, fun _ => rfl⟩ rfl rfl ?_
      intro snapshot hsnapshot
      dsimp only at hsnapshot
      split at hsnapshot
      · rcases List.mem_append.mp hsnapshot with hold | hnew
        · exact .inl hold
        · obtain rfl := List.mem_singleton.mp hnew
          exact .inr ⟨⟨state, hstate, hclosed.symm.trans hopen, hfollows⟩,
            ⟨state'.shut, (hreplaces state'.id).trans (if_pos rfl), rfl⟩, rfl⟩
      · exact .inl hsnapshot

theorem quiet_forceClose (hstate : service.object state.id = some state) (preserveResume : Bool) :
    Quiet service (forceCloseConnection options service state preserveResume now) := by
  unfold forceCloseConnection
  split
  · exact .refl service
  · dsimp only
    split
    · exact quiet_setObject hstate rfl ⟨.refl _ _, fun h => h⟩
    · exact quiet_handleClose hstate rfl rfl

theorem quiet_of_sameConnections (h : SameConnections service service')
    (hnext : service'.nextEventSequence = service.nextEventSequence)
    (hbuffered : service'.bufferedEvents <:+ service.bufferedEvents)
    (hsnapshots : service'.resumeSnapshots ⊆ service.resumeSnapshots) : Quiet service service' where
  next := hnext
  buffered := hbuffered
  objects id := by
    rw [h.object]
    exact objects_refl _ _
  snapshots _ hmem := .inl (hsnapshots hmem)

theorem quiet_foldl {α : Type*} {f : RealtimeService → α → RealtimeService} {items : List α}
    (h : ∀ service, ∀ item ∈ items, Quiet service (f service item)) :
    Quiet service (items.foldl f service) := by
  induction items generalizing service with
  | nil => exact .refl service
  | cons head rest ih =>
      have hfirst := h service head List.mem_cons_self
      exact hfirst.trans (ih fun service item hmem => h service item (List.mem_cons_of_mem _ hmem))

theorem quiet_close : Quiet service (close options service now) := by
  cases hdown : service.shuttingDown with
  | true =>
      simp only [close, hdown, if_true]
      exact .refl service
  | false =>
      rw [close_of_not_shuttingDown hdown]
      have hflag : Quiet service { service with shuttingDown := true } :=
        quiet_of_sameConnections sameConnections_shuttingDown rfl List.suffix_rfl
          (List.Subset.refl _)
      have hall : Quiet { service with shuttingDown := true }
          (closeAll options now { service with shuttingDown := true } service.connections) := by
        apply quiet_foldl
        intro service id _
        split
        · exact .refl service
        · rename_i connection hconnection
          obtain rfl := id_of_object hconnection
          exact quiet_forceClose hconnection false
      refine (hflag.trans hall).trans ?_
      exact quiet_of_sameConnections (sameConnections_snapshots []) rfl List.suffix_rfl
        (List.nil_subset _)

theorem quiet_deleteSnapshot (resumeToken : Nat) :
    Quiet service (deleteSnapshot service resumeToken) :=
  quiet_of_sameConnections (sameConnections_deleteSnapshot resumeToken) rfl List.suffix_rfl
    fun _ hmem => List.mem_of_mem_filter hmem

theorem quiet_cleanup :
    Quiet service (pruneBufferedEvents options (pruneExpiredResumeSnapshots service now) now) :=
  quiet_of_sameConnections sameConnections_cleanup rfl (List.dropWhile_suffix _)
    fun _ hmem => List.mem_of_mem_filter hmem

theorem quiet_handleUnsubscribe (requestedTopics : List String) :
    Quiet service (handleUnsubscribe service state requestedTopics).1 := by
  unfold handleUnsubscribe
  dsimp only
  exact quiet_foldl fun _ _ _ => quiet_deleteSubscription

theorem quiet_continueSubscribe (pending : PendingSubscribe) (answer : Bool) :
    Quiet service (continueSubscribe service pending answer).1 := by
  cases hremaining : pending.remaining with
  | nil =>
      rw [continueSubscribe_nil hremaining]
      exact .refl service
  | cons topic remaining =>
      rw [continueSubscribe_cons hremaining]
      split
      · rename_i hauthorized
        refine quiet_addSubscription ?_ _
        unfold canSubscribeToTopic at hauthorized
        cases hreserved : isReservedTopic topic with
        | false => rfl
        | true => simp [hreserved] at hauthorized
      · exact .refl service

end Quiet

/-! ## The events that a message list brings -/

section EventsTo

variable {service : RealtimeService} {state : RealtimeConnectionState} {id : Nat}
  {event : BufferedRealtimeEvent}

theorem eventsTo_append (sent sent' : List Sent) (id : Nat) :
    eventsTo (sent ++ sent') id = eventsTo sent id ++ eventsTo sent' id := by
  unfold eventsTo
  rw [List.filterMap_append]

theorem eventsTo_flatMap {α : Type*} (items : List α) (f : α → List Sent) (id : Nat) :
    eventsTo (items.flatMap f) id = items.flatMap fun item => eventsTo (f item) id := by
  induction items with
  | nil => rfl
  | cons head rest ih => rw [List.flatMap_cons, eventsTo_append, ih, List.flatMap_cons]

theorem eventsTo_sendServerMessage {message : RealtimeServerMessage}
    (h : ∀ event, message ≠ .event event) : eventsTo (sendServerMessage state message) id = [] := by
  unfold sendServerMessage
  split
  · cases message with
    | event event => exact absurd rfl (h event)
    | _ => rfl
  · rfl

/-- The socket takes messages. -/
def RealtimeConnectionState.Ready (state : RealtimeConnectionState) : Prop :=
  state.readyState = .wsOpen ∧ state.closed = false

instance (state : RealtimeConnectionState) : Decidable state.Ready :=
  inferInstanceAs (Decidable (_ ∧ _))

theorem eventsTo_sendEvent :
    eventsTo (sendServerMessage state (.event event)) id =
      if state.id = id ∧ state.Ready then [event] else [] := by
  unfold sendServerMessage RealtimeConnectionState.Ready
  by_cases hready : state.readyState = .wsOpen ∧ state.closed = false
  · rw [if_pos hready]
    by_cases hid : state.id = id
    · simp [eventsTo, hid, hready]
    · simp [eventsTo, hid]
  · simp [eventsTo, hready]

theorem flatMap_single {bucket : List Nat} (hnodup : bucket.Nodup) (P : Prop) [Decidable P] :
    (bucket.flatMap fun id' => if id' = id ∧ P then [event] else []) =
      if id ∈ bucket ∧ P then [event] else [] := by
  induction bucket with
  | nil => simp
  | cons head rest ih =>
      obtain ⟨hhead, hrest⟩ := List.nodup_cons.mp hnodup
      rw [List.flatMap_cons, ih hrest]
      by_cases hid : head = id
      · subst hid
        by_cases hP : P
        · simp [hhead, hP]
        · simp [hP]
      · have hid' : ¬id = head := fun h => hid h.symm
        simp [hid, hid']

theorem eventsTo_publish {bucket : List Nat} (hnodup : bucket.Nodup) (id : Nat) :
    eventsTo (publishToConnections service bucket (.event event)) id =
      if id ∈ bucket ∧ ∃ state, service.connection id = some state ∧ state.Ready then [event]
      else [] := by
  classical
  rw [← flatMap_single hnodup, publishToConnections, eventsTo_flatMap]
  congr 1
  funext id'
  cases hconnection : service.connection id' with
  | none =>
      rw [if_neg]
      · rfl
      · rintro ⟨rfl, state, hstate, _⟩
        rw [hconnection] at hstate
        cases hstate
  | some connection =>
      have hid : connection.id = id' := by
        unfold RealtimeService.connection at hconnection
        split at hconnection
        · exact id_of_object hconnection
        · cases hconnection
      dsimp only
      split
      · rename_i hclosed
        rw [if_neg]
        · rfl
        · rintro ⟨rfl, state, hstate, hready⟩
          obtain rfl := Option.some.inj (hconnection.symm.trans hstate)
          exact absurd (hclosed.symm.trans hready.2) (by simp)
      · rw [eventsTo_sendEvent, hid]
        by_cases hsame : id' = id
        · subst hsame
          simp [hconnection]
        · simp [hsame]

theorem eventsTo_replay (replayEvents : List BufferedRealtimeEvent) :
    eventsTo (replayEvents.flatMap fun event => sendServerMessage state (.event event)) id =
      if state.id = id ∧ state.Ready then replayEvents else [] := by
  rw [eventsTo_flatMap]
  simp only [eventsTo_sendEvent]
  by_cases h : state.id = id ∧ state.Ready
  · simp [h]
  · simp [h]

end EventsTo

/-! ## Buckets without duplicates -/

section Buckets

variable {options : RealtimeTransportOptions} {service : RealtimeService}
  {state : RealtimeConnectionState} {id : Nat} {topic : String} {now : Int}

def BucketsNodup (service : RealtimeService) : Prop :=
  ∀ scope, (service.connectionsOf scope).Nodup

theorem bucketsNodup_of_topics {service' : RealtimeService} (h : BucketsNodup service)
    (husers : service'.userConnections = service.userConnections)
    (hsessions : service'.sessionConnections = service.sessionConnections)
    (htopics : ∀ topic, (Multimap.get topic service'.topicConnections).Nodup) :
    BucketsNodup service' := by
  intro scope
  cases scope with
  | topic topic => exact htopics topic
  | user userId =>
      unfold RealtimeService.connectionsOf
      rw [husers]
      exact h (.user userId)
  | session sessionId =>
      unfold RealtimeService.connectionsOf
      rw [hsessions]
      exact h (.session sessionId)

theorem SameConnections.bucketsNodup {service' : RealtimeService}
    (hsame : SameConnections service service') (h : BucketsNodup service) :
    BucketsNodup service' :=
  bucketsNodup_of_topics h hsame.users hsame.sessions fun topic => hsame.topics ▸ h (.topic topic)

theorem bucketsNodup_addSubscription (h : BucketsNodup service) (overtaken : Bool) :
    BucketsNodup (addSubscription service id topic overtaken) := by
  unfold addSubscription
  split
  · exact h
  · split
    · exact h
    · exact bucketsNodup_of_topics h rfl rfl fun topic' =>
        Multimap.nodup_get_add (h (.topic topic'))

theorem bucketsNodup_deleteSubscription (h : BucketsNodup service) :
    BucketsNodup (deleteSubscription service id topic) := by
  unfold deleteSubscription
  split
  · exact h
  · exact bucketsNodup_of_topics h rfl rfl fun topic' =>
      Multimap.nodup_get_delete fun topic => h (.topic topic)

theorem nodup_deleteTopics {index : Multimap String Nat} {topics : List String}
    (h : ∀ topic, (Multimap.get topic index).Nodup) (topic : String) :
    (Multimap.get topic
      (topics.foldl (fun index topic => Multimap.delete topic id index) index)).Nodup := by
  induction topics generalizing index with
  | nil => exact h topic
  | cons head rest ih => exact ih fun topic => Multimap.nodup_get_delete h

theorem bucketsNodup_handleClose (h : BucketsNodup service) :
    BucketsNodup (handleClose options service state now) := by
  cases hopen : state.closed with
  | true =>
      rw [handleClose_of_closed hopen]
      exact h
  | false =>
      rw [handleClose_of_open hopen]
      intro scope
      cases scope with
      | topic topic => exact nodup_deleteTopics (fun topic => h (.topic topic)) topic
      | user userId => exact Multimap.nodup_get_delete fun userId => h (.user userId)
      | session sessionId => exact Multimap.nodup_get_delete fun sessionId => h (.session sessionId)

theorem bucketsNodup_forceClose (h : BucketsNodup service) (preserveResume : Bool) :
    BucketsNodup (forceCloseConnection options service state preserveResume now) := by
  unfold forceCloseConnection
  split
  · exact h
  · dsimp only
    split
    · exact h
    · exact bucketsNodup_handleClose h

theorem bucketsNodup_close (h : BucketsNodup service) :
    BucketsNodup (close options service now) := by
  cases hdown : service.shuttingDown with
  | true =>
      simp only [close, hdown, if_true]
      exact h
  | false =>
      rw [close_of_not_shuttingDown hdown]
      apply (sameConnections_snapshots []).bucketsNodup
      apply foldl_keeps
      · intro service id h
        split
        · exact h
        · exact bucketsNodup_forceClose h false
      · exact sameConnections_shuttingDown.bucketsNodup h

theorem bucketsNodup_attachConnection (h : BucketsNodup service) (userId : Nat)
    (sessionId : String) :
    BucketsNodup (attachConnection options service userId sessionId now).1 := by
  intro scope
  cases scope with
  | topic topic => exact h (.topic topic)
  | user userId => exact Multimap.nodup_get_add (h (.user userId))
  | session sessionId => exact Multimap.nodup_get_add (h (.session sessionId))

theorem bucketsNodup_handleUnsubscribe (h : BucketsNodup service) (requestedTopics : List String) :
    BucketsNodup (handleUnsubscribe service state requestedTopics).1 := by
  unfold handleUnsubscribe
  dsimp only
  apply foldl_keeps
  · intro service topic h
    exact bucketsNodup_deleteSubscription h
  · exact h

theorem bucketsNodup_handleResume (h : BucketsNodup service) (resumeToken : Nat) :
    BucketsNodup (handleResume service state resumeToken now).1 := by
  have hdeleted := (sameConnections_deleteSnapshot resumeToken).bucketsNodup h
  unfold handleResume
  split
  · exact hdeleted
  · exact h
  · exact hdeleted
  · dsimp only
    apply foldl_keeps
    · intro service topic h
      exact bucketsNodup_addSubscription h false
    · exact hdeleted

theorem bucketsNodup_continueSubscribe (h : BucketsNodup service) (pending : PendingSubscribe)
    (answer : Bool) : BucketsNodup (continueSubscribe service pending answer).1 := by
  cases hremaining : pending.remaining with
  | nil =>
      rw [continueSubscribe_nil hremaining]
      exact h
  | cons topic remaining =>
      rw [continueSubscribe_cons hremaining]
      split
      · exact bucketsNodup_addSubscription h _
      · exact h

theorem bucketsNodup_perform {transport : Transport} (h : BucketsNodup transport.service)
    (operation : Operation) : BucketsNodup (perform options transport operation).service := by
  cases operation with
  | attach userId sessionId =>
      exact @bucketsNodup_attachConnection options transport.service transport.clock h userId
        sessionId
  | receive id raw =>
      simp only [perform]
      split
      · exact h
      · split
        · exact h
        · cases raw with
          | error details => exact h
          | ok message =>
              cases message with
              | unsubscribe topics => exact bucketsNodup_handleUnsubscribe h topics
              | resume resumeToken => exact bucketsNodup_handleResume h resumeToken
              | _ => exact h
  | authorize request answer =>
      simp only [perform]
      split
      · exact h
      · exact bucketsNodup_continueSubscribe h _ answer
  | publish publication => exact (sameConnections_publish publication).bucketsNodup h
  | forceClose id preserveResume =>
      simp only [perform]
      split
      · exact h
      · exact bucketsNodup_forceClose h preserveResume
  | socketClosing id =>
      simp only [perform]
      split
      · exact h
      · split <;> exact h
  | socketClosed id =>
      simp only [perform]
      split
      · exact h
      · exact bucketsNodup_handleClose h
  | cleanup => exact sameConnections_cleanup.bucketsNodup h
  | shutDown => exact bucketsNodup_close h

end Buckets

end RewardSystem.Realtime
