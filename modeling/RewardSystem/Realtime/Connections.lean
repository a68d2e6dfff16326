import RewardSystem.Realtime.Service

/-!
# The indices of the realtime connections

What the service keeps for every connection, and how its operations keep the indices in step with
it. A topic that is added to a connection after its close stays in the index.
-/

namespace RewardSystem.Realtime

open Transition

def RealtimeConnectionState.InTopic (state : RealtimeConnectionState) (topic : String) : Prop :=
  ∃ subscription ∈ state.subscriptions, subscription.topic = topic ∧
    (state.closed = false ∨ subscription.afterClose = true)

/-- The bucket holds the connections that are to be in it. -/
def Indexed (service : RealtimeService) (relevant : RealtimeConnectionState → Prop)
    (bucket : List Nat) : Prop :=
  ∀ id, id ∈ bucket ↔ ∃ state, service.object id = some state ∧ relevant state

structure WellFormed (service : RealtimeService) : Prop where
  fresh : ∀ id state, service.object id = some state → id < service.objects.length
  topicsNodup : ∀ id state, service.object id = some state → state.topics.Nodup
  opened : ∀ id state, service.object id = some state → state.closed = false →
    ∀ subscription ∈ state.subscriptions, subscription.afterClose = false
  connections : Indexed service (fun state => state.closed = false) service.connections
  users : ∀ userId, Indexed service (fun state => state.closed = false ∧ state.userId = userId)
    (Multimap.get userId service.userConnections)
  sessions : ∀ sessionId, Indexed service
    (fun state => state.closed = false ∧ state.sessionId = sessionId)
    (Multimap.get sessionId service.sessionConnections)
  topics : ∀ topic, Indexed service (fun state => state.InTopic topic)
    (Multimap.get topic service.topicConnections)

section Objects

variable {service service' : RealtimeService} {state state' : RealtimeConnectionState} {id id' : Nat}

theorem id_of_object (h : service.object id = some state) : state.id = id :=
  Keyed.key_of_lookup h

theorem object_setObject (h : service.object state'.id = some state) :
    (service.setObject state').object id = if id = state'.id then some state' else service.object id := by
  have hkey : ∀ row : RealtimeConnectionState, row.id = state'.id →
      ((fun _ => state') row).id = state'.id := fun _ _ => rfl
  by_cases hid : id = state'.id
  · rw [if_pos hid, hid]
    exact Keyed.lookup_modify_self hkey h
  · rw [if_neg hid]
    exact Keyed.lookup_modify_ne hkey hid

theorem length_setObject : (service.setObject state').objects.length = service.objects.length := by
  simp [RealtimeService.setObject, Keyed.modify]

/-- `service'` has `state'` in place of the connection with its identifier. -/
def Replaces (service service' : RealtimeService) (id : Nat) (state' : RealtimeConnectionState) :
    Prop :=
  ∀ id', service'.object id' = if id' = id then some state' else service.object id'

theorem Indexed.mem_iff {relevant : RealtimeConnectionState → Prop} {bucket : List Nat}
    (hindexed : Indexed service relevant bucket) (h : service.object id = some state) :
    id ∈ bucket ↔ relevant state := by
  rw [hindexed id, h]
  simp

theorem Indexed.notMem {relevant : RealtimeConnectionState → Prop} {bucket : List Nat}
    (hindexed : Indexed service relevant bucket) (h : service.object id = none) : id ∉ bucket := by
  rw [hindexed id, h]
  simp

theorem Indexed.replace {relevant : RealtimeConnectionState → Prop} {bucket bucket' : List Nat}
    (hindexed : Indexed service relevant bucket) (hreplaces : Replaces service service' id state')
    (hrest : ∀ id', id' ≠ id → (id' ∈ bucket' ↔ id' ∈ bucket))
    (hself : id ∈ bucket' ↔ relevant state') : Indexed service' relevant bucket' := by
  intro id'
  rw [hreplaces id']
  by_cases hid : id' = id
  · subst hid
    simp [hself]
  · simp only [hid, if_false]
    rw [hrest id' hid]
    exact hindexed id'

theorem Replaces.forall {P : RealtimeConnectionState → Prop}
    (hreplaces : Replaces service service' id state')
    (hrest : ∀ id state, service.object id = some state → P state) (hself : P state') :
    ∀ id state, service'.object id = some state → P state := by
  intro id' state hstate
  rw [hreplaces id'] at hstate
  by_cases hid : id' = id
  · rw [if_pos hid] at hstate
    obtain rfl := Option.some.inj hstate
    exact hself
  · rw [if_neg hid] at hstate
    exact hrest id' state hstate

end Objects

section Operations

variable {options : RealtimeTransportOptions} {service service' : RealtimeService}
  {state state' : RealtimeConnectionState} {id : Nat} {topic : String} {now : Int}

theorem WellFormed.replace (hwf : WellFormed service) (hstate : service.object id = some state)
    (hreplaces : Replaces service service' id state')
    (hlength : service'.objects.length = service.objects.length)
    (hclosed : state'.closed = state.closed) (huser : state'.userId = state.userId)
    (hsession : state'.sessionId = state.sessionId)
    (hconnections : service'.connections = service.connections)
    (husers : service'.userConnections = service.userConnections)
    (hsessions : service'.sessionConnections = service.sessionConnections)
    (hnodup : state'.topics.Nodup)
    (hopened : state'.closed = false →
      ∀ subscription ∈ state'.subscriptions, subscription.afterClose = false)
    (hrest : ∀ topic id', id' ≠ id → (id' ∈ Multimap.get topic service'.topicConnections ↔
      id' ∈ Multimap.get topic service.topicConnections))
    (hself : ∀ topic, id ∈ Multimap.get topic service'.topicConnections ↔ state'.InTopic topic) :
    WellFormed service' where
  fresh id' other hother := by
    rw [hlength]
    rw [hreplaces id'] at hother
    by_cases hid : id' = id
    · rw [hid]
      exact hwf.fresh id state hstate
    · rw [if_neg hid] at hother
      exact hwf.fresh id' other hother
  topicsNodup := hreplaces.forall hwf.topicsNodup hnodup
  opened := hreplaces.forall hwf.opened hopened
  connections := by
    rw [hconnections]
    apply hwf.connections.replace hreplaces (fun _ _ => Iff.rfl)
    rw [hwf.connections.mem_iff hstate, hclosed]
  users userId := by
    rw [husers]
    apply (hwf.users userId).replace hreplaces (fun _ _ => Iff.rfl)
    rw [(hwf.users userId).mem_iff hstate, hclosed, huser]
  sessions sessionId := by
    rw [hsessions]
    apply (hwf.sessions sessionId).replace hreplaces (fun _ _ => Iff.rfl)
    rw [(hwf.sessions sessionId).mem_iff hstate, hclosed, hsession]
  topics topic := (hwf.topics topic).replace hreplaces (hrest topic) (hself topic)

theorem replaces_setObject (hstate : service.object id = some state) (hid : state'.id = id) :
    Replaces service (service.setObject state') id state' := by
  intro id'
  rw [object_setObject (by rw [hid]; exact hstate), hid]

theorem wellFormed_setObject (hwf : WellFormed service) (hstate : service.object id = some state)
    (hid : state'.id = id) (hclosed : state'.closed = state.closed)
    (huser : state'.userId = state.userId) (hsession : state'.sessionId = state.sessionId)
    (hsubscriptions : state'.subscriptions = state.subscriptions) :
    WellFormed (service.setObject state') := by
  have hreplaces := replaces_setObject hstate hid
  refine hwf.replace hstate hreplaces length_setObject hclosed huser hsession rfl rfl rfl ?_ ?_
    (fun _ _ _ => Iff.rfl) ?_
  · unfold RealtimeConnectionState.topics
    rw [hsubscriptions]
    exact hwf.topicsNodup id state hstate
  · rw [hclosed, hsubscriptions]
    exact hwf.opened id state hstate
  · intro topic
    unfold RealtimeConnectionState.InTopic
    rw [hclosed, hsubscriptions]
    exact (hwf.topics topic).mem_iff hstate

def RealtimeConnectionState.adding (state : RealtimeConnectionState) (topic : String)
    (since : Nat) (overtaken : Bool) : RealtimeConnectionState :=
  { state with
    subscriptions := state.subscriptions ++ [⟨topic, since, state.closed, overtaken⟩] }

def RealtimeConnectionState.dropping (state : RealtimeConnectionState) (topic : String) :
    RealtimeConnectionState :=
  { state with
    subscriptions := state.subscriptions.filter fun subscription => subscription.topic ≠ topic }

theorem addSubscription_of_mem (hstate : service.object id = some state) (h : topic ∈ state.topics)
    (overtaken : Bool) : addSubscription service id topic overtaken = service := by
  simp [addSubscription, hstate, h]

theorem addSubscription_of_notMem (hstate : service.object id = some state)
    (h : topic ∉ state.topics) (overtaken : Bool) :
    addSubscription service id topic overtaken =
      { service.setObject (state.adding topic service.nextEventSequence overtaken) with
        topicConnections := Multimap.add topic id service.topicConnections } := by
  simp only [addSubscription, hstate, h, if_false]
  rfl

theorem wellFormed_addSubscription (hwf : WellFormed service) (overtaken : Bool) :
    WellFormed (addSubscription service id topic overtaken) := by
  cases hstate : service.object id with
  | none =>
      unfold addSubscription
      rw [hstate]
      exact hwf
  | some state =>
      by_cases hmem : topic ∈ state.topics
      · rw [addSubscription_of_mem hstate hmem]
        exact hwf
      · rw [addSubscription_of_notMem hstate hmem]
        have hid : state.id = id := id_of_object hstate
        have hreplaces := replaces_setObject hstate
          (show (state.adding topic service.nextEventSequence overtaken).id = id from hid)
        refine hwf.replace hstate hreplaces length_setObject rfl rfl rfl rfl rfl rfl ?_ ?_ ?_ ?_
        · have hnodup := hwf.topicsNodup id state hstate
          unfold RealtimeConnectionState.topics RealtimeConnectionState.adding at *
          rw [List.map_append, List.nodup_append]
          refine ⟨hnodup, by simp, ?_⟩
          rintro a ha b hb rfl
          obtain rfl := List.mem_singleton.mp hb
          exact hmem ha
        · intro hclosed subscription hsubscription
          rcases List.mem_append.mp hsubscription with hold | hnew
          · exact hwf.opened id state hstate hclosed subscription hold
          · obtain rfl := List.mem_singleton.mp hnew
            exact hclosed
        · intro topic' id' hne
          rw [Multimap.mem_get_add]
          simp [hne]
        · intro topic'
          rw [Multimap.mem_get_add, (hwf.topics topic').mem_iff hstate]
          unfold RealtimeConnectionState.InTopic RealtimeConnectionState.adding
          simp only [List.mem_append, List.mem_singleton, and_true]
          constructor
          · rintro (⟨subscription, hsubscription, hin⟩ | rfl)
            · exact ⟨subscription, .inl hsubscription, hin⟩
            · refine ⟨_, .inr rfl, rfl, ?_⟩
              cases state.closed
              · exact .inl rfl
              · exact .inr rfl
          · rintro ⟨subscription, hsubscription | rfl, htopic, hin⟩
            · exact .inl ⟨subscription, hsubscription, htopic, hin⟩
            · exact .inr htopic.symm

theorem deleteSubscription_of_object (hstate : service.object id = some state) :
    deleteSubscription service id topic =
      { service.setObject (state.dropping topic) with
        topicConnections := Multimap.delete topic id service.topicConnections } := by
  simp only [deleteSubscription, hstate]
  rfl

/-- The connection is there, and it is not closed. -/
def IsOpen (service : RealtimeService) (id : Nat) : Prop :=
  ∃ state, service.object id = some state ∧ state.closed = false

theorem isOpen_addSubscription {id' : Nat} (hopen : IsOpen service id) (overtaken : Bool) :
    IsOpen (addSubscription service id' topic overtaken) id := by
  obtain ⟨state, hstate, hclosed⟩ := hopen
  cases hstate' : service.object id' with
  | none =>
      unfold addSubscription
      rw [hstate']
      exact ⟨state, hstate, hclosed⟩
  | some other =>
      by_cases hmem : topic ∈ other.topics
      · rw [addSubscription_of_mem hstate' hmem]
        exact ⟨state, hstate, hclosed⟩
      · rw [addSubscription_of_notMem hstate' hmem]
        have hid : other.id = id' := id_of_object hstate'
        have hreplaces := replaces_setObject hstate'
          (show (other.adding topic service.nextEventSequence overtaken).id = id' from hid)
        by_cases hsame : id = id'
        · subst hsame
          obtain rfl := Option.some.inj (hstate.symm.trans hstate')
          exact ⟨_, (hreplaces id).trans (if_pos rfl), hclosed⟩
        · exact ⟨state, (hreplaces id).trans ((if_neg hsame).trans hstate), hclosed⟩

theorem wellFormed_deleteSubscription (hwf : WellFormed service) :
    WellFormed (deleteSubscription service id topic) := by
  cases hstate : service.object id with
  | none =>
      unfold deleteSubscription
      rw [hstate]
      exact hwf
  | some state =>
      rw [deleteSubscription_of_object hstate]
      have hid : state.id = id := id_of_object hstate
      have hreplaces := replaces_setObject hstate (show (state.dropping topic).id = id from hid)
      refine hwf.replace hstate hreplaces length_setObject rfl rfl rfl rfl rfl rfl ?_ ?_ ?_ ?_
      · exact (hwf.topicsNodup id state hstate).sublist
          ((List.filter_sublist (l := state.subscriptions)).map _)
      · intro hclosed subscription hsubscription
        exact hwf.opened id state hstate hclosed subscription (List.mem_of_mem_filter hsubscription)
      · intro topic' id' hne
        rw [Multimap.mem_get_delete]
        simp [hne]
      · intro topic'
        rw [Multimap.mem_get_delete, (hwf.topics topic').mem_iff hstate]
        unfold RealtimeConnectionState.InTopic RealtimeConnectionState.dropping
        simp only [List.mem_filter, decide_eq_true_eq, and_true]
        constructor
        · rintro ⟨⟨subscription, hsubscription, rfl, hin⟩, hne⟩
          exact ⟨subscription, ⟨hsubscription, hne⟩, rfl, hin⟩
        · rintro ⟨subscription, ⟨hsubscription, hne⟩, rfl, hin⟩
          exact ⟨⟨subscription, hsubscription, rfl, hin⟩, hne⟩

/-- The service differs in its snapshots, its events and its flag only. -/
structure SameConnections (service service' : RealtimeService) : Prop where
  objects : service'.objects = service.objects
  connections : service'.connections = service.connections
  users : service'.userConnections = service.userConnections
  sessions : service'.sessionConnections = service.sessionConnections
  topics : service'.topicConnections = service.topicConnections

theorem SameConnections.object (h : SameConnections service service') (id : Nat) :
    service'.object id = service.object id := by
  unfold RealtimeService.object
  rw [h.objects]

theorem SameConnections.wellFormed (h : SameConnections service service')
    (hwf : WellFormed service) : WellFormed service' := by
  constructor
  · rw [h.objects]
    simpa only [h.object] using hwf.fresh
  · simpa only [h.object] using hwf.topicsNodup
  · simpa only [h.object] using hwf.opened
  · simpa only [Indexed, h.object, h.connections] using hwf.connections
  · simpa only [Indexed, h.object, h.users] using hwf.users
  · simpa only [Indexed, h.object, h.sessions] using hwf.sessions
  · simpa only [Indexed, h.object, h.topics] using hwf.topics

theorem mem_deleteTopics {index : Multimap String Nat} {topics : List String} {id' : Nat} :
    id' ∈ Multimap.get topic (topics.foldl (fun index topic => Multimap.delete topic id index) index) ↔
      id' ∈ Multimap.get topic index ∧ ¬(id' = id ∧ topic ∈ topics) := by
  induction topics generalizing index with
  | nil => simp
  | cons head rest ih =>
      rw [List.foldl_cons, ih, Multimap.mem_get_delete, List.mem_cons]
      constructor
      · rintro ⟨⟨hmem, hhead⟩, hrest⟩
        refine ⟨hmem, ?_⟩
        rintro ⟨rfl, rfl | htopic⟩
        · exact hhead ⟨rfl, rfl⟩
        · exact hrest ⟨rfl, htopic⟩
      · rintro ⟨hmem, hnot⟩
        refine ⟨⟨hmem, ?_⟩, ?_⟩
        · rintro ⟨rfl, rfl⟩
          exact hnot ⟨rfl, .inl rfl⟩
        · rintro ⟨rfl, htopic⟩
          exact hnot ⟨rfl, .inr htopic⟩

theorem handleClose_of_closed (h : state.closed = true) :
    handleClose options service state now = service := by
  simp [handleClose, h]

def RealtimeConnectionState.shut (state : RealtimeConnectionState) : RealtimeConnectionState :=
  { state with closed := true }

theorem handleClose_of_open (h : state.closed = false) :
    handleClose options service state now =
      { service.setObject state.shut with
        connections := service.connections.filter (· ≠ state.id)
        userConnections := Multimap.delete state.userId state.id service.userConnections
        sessionConnections := Multimap.delete state.sessionId state.id service.sessionConnections
        topicConnections :=
          state.topics.foldl (fun index topic => Multimap.delete topic state.id index)
            service.topicConnections
        resumeSnapshots :=
          if state.preserveResumeOnClose && !service.shuttingDown then
            service.resumeSnapshots ++ [resumeSnapshotOf options service state now]
          else service.resumeSnapshots } := by
  simp only [handleClose, h, Bool.false_eq_true, if_false]
  rfl

theorem replaces_handleClose (hstate : service.object state'.id = some state)
    (h : state'.closed = false) :
    Replaces service (handleClose options service state' now) state'.id state'.shut := by
  rw [handleClose_of_open h]
  exact replaces_setObject hstate rfl

theorem wellFormed_handleClose (hwf : WellFormed service)
    (hstate : service.object state'.id = some state) (hclosed : state'.closed = state.closed)
    (huser : state'.userId = state.userId) (hsession : state'.sessionId = state.sessionId)
    (hsubscriptions : state'.subscriptions = state.subscriptions) :
    WellFormed (handleClose options service state' now) := by
  cases hopen : state'.closed with
  | true =>
      rw [handleClose_of_closed hopen]
      exact hwf
  | false =>
      have hreplaces : Replaces service (handleClose options service state' now) state'.id
          state'.shut := replaces_handleClose hstate hopen
      have hopened := hwf.opened state'.id state hstate (hclosed.symm.trans hopen)
      have htopics : state'.topics = state.topics := by
        unfold RealtimeConnectionState.topics
        rw [hsubscriptions]
      rw [handleClose_of_open hopen] at hreplaces ⊢
      constructor
      · intro id' other hother
        rw [hreplaces id'] at hother
        change id' < (service.setObject state'.shut).objects.length
        rw [length_setObject]
        by_cases hid : id' = state'.id
        · rw [hid]
          exact hwf.fresh _ state hstate
        · rw [if_neg hid] at hother
          exact hwf.fresh id' other hother
      · refine hreplaces.forall hwf.topicsNodup ?_
        change state'.topics.Nodup
        rw [htopics]
        exact hwf.topicsNodup _ state hstate
      · exact hreplaces.forall hwf.opened fun h => absurd h (by simp [RealtimeConnectionState.shut])
      · refine hwf.connections.replace hreplaces ?_ ?_
        · intro id' hne
          simp [hne]
        · simp [RealtimeConnectionState.shut]
      · intro userId
        refine (hwf.users userId).replace hreplaces ?_ ?_
        · intro id' hne
          rw [Multimap.mem_get_delete]
          simp [hne]
        · rw [Multimap.mem_get_delete, (hwf.users userId).mem_iff hstate, huser]
          constructor
          · rintro ⟨⟨_, rfl⟩, hne⟩
            exact absurd ⟨rfl, rfl⟩ hne
          · rintro ⟨h, _⟩
            cases h
      · intro sessionId
        refine (hwf.sessions sessionId).replace hreplaces ?_ ?_
        · intro id' hne
          rw [Multimap.mem_get_delete]
          simp [hne]
        · rw [Multimap.mem_get_delete, (hwf.sessions sessionId).mem_iff hstate, hsession]
          constructor
          · rintro ⟨⟨_, rfl⟩, hne⟩
            exact absurd ⟨rfl, rfl⟩ hne
          · rintro ⟨h, _⟩
            cases h
      · intro topic
        refine (hwf.topics topic).replace hreplaces ?_ ?_
        · intro id' hne
          rw [mem_deleteTopics]
          simp [hne]
        · rw [mem_deleteTopics, (hwf.topics topic).mem_iff hstate, htopics]
          unfold RealtimeConnectionState.InTopic RealtimeConnectionState.shut
          constructor
          · rintro ⟨⟨subscription, hsubscription, rfl, _⟩, hnot⟩
            exact absurd ⟨rfl, List.mem_map_of_mem hsubscription⟩ hnot
          · rintro ⟨subscription, hsubscription, _, hclosed | hafter⟩
            · cases hclosed
            · rw [hsubscriptions] at hsubscription
              rw [hopened subscription hsubscription] at hafter
              cases hafter

theorem object_length_eq_none (hwf : WellFormed service) :
    service.object service.objects.length = none := by
  cases h : service.object service.objects.length with
  | none => rfl
  | some state => exact absurd (hwf.fresh _ state h) (lt_irrefl _)

def newConnection (service : RealtimeService) (userId : Nat) (sessionId : String) :
    RealtimeConnectionState :=
  { id := service.objects.length
    readyState := .wsOpen
    userId := userId
    sessionId := sessionId
    resumeToken := service.objects.length
    subscriptions := []
    preserveResumeOnClose := true
    closed := false
    attachedAt := service.nextEventSequence }

theorem replaces_attachConnection (hwf : WellFormed service) (userId : Nat) (sessionId : String) :
    Replaces service (attachConnection options service userId sessionId now).1
      service.objects.length (newConnection service userId sessionId) := by
  intro id'
  change Keyed.lookup RealtimeConnectionState.id id'
    (service.objects ++ [newConnection service userId sessionId]) = _
  by_cases hid : id' = service.objects.length
  · rw [if_pos hid, hid]
    have hnew : Keyed.lookup RealtimeConnectionState.id
        (newConnection service userId sessionId).id service.objects = none :=
      object_length_eq_none hwf
    exact Keyed.lookup_append_self hnew
  · rw [if_neg hid]
    exact Keyed.lookup_append_of_ne (fun h => hid h.symm)

theorem wellFormed_attachConnection (hwf : WellFormed service) (userId : Nat)
    (sessionId : String) :
    WellFormed (attachConnection options service userId sessionId now).1 := by
  have hreplaces := @replaces_attachConnection options service now hwf userId sessionId
  have hnone := object_length_eq_none hwf
  constructor
  · intro id' other hother
    change id' < (service.objects ++ [newConnection service userId sessionId]).length
    rw [List.length_append, List.length_singleton]
    rw [hreplaces id'] at hother
    by_cases hid : id' = service.objects.length
    · omega
    · rw [if_neg hid] at hother
      have hfresh := hwf.fresh id' other hother
      omega
  · exact hreplaces.forall hwf.topicsNodup List.nodup_nil
  · exact hreplaces.forall hwf.opened fun _ => by simp [newConnection]
  · refine hwf.connections.replace hreplaces ?_ ?_
    · intro id' hne
      simp [attachConnection, hne]
    · simp [attachConnection, newConnection]
  · intro userId'
    refine (hwf.users userId').replace hreplaces ?_ ?_
    · intro id' hne
      simp only [attachConnection, Multimap.mem_get_add]
      simp [hne]
    · simp only [attachConnection, Multimap.mem_get_add]
      simp [(hwf.users userId').notMem hnone, newConnection, eq_comm]
  · intro sessionId'
    refine (hwf.sessions sessionId').replace hreplaces ?_ ?_
    · intro id' hne
      simp only [attachConnection, Multimap.mem_get_add]
      simp [hne]
    · simp only [attachConnection, Multimap.mem_get_add]
      simp [(hwf.sessions sessionId').notMem hnone, newConnection, eq_comm]
  · intro topic
    refine (hwf.topics topic).replace hreplaces (fun _ _ => Iff.rfl) ?_
    simp only [attachConnection]
    simp [(hwf.topics topic).notMem hnone, newConnection, RealtimeConnectionState.InTopic]

theorem wellFormed_forceClose (hwf : WellFormed service)
    (hstate : service.object state.id = some state) (preserveResume : Bool) :
    WellFormed (forceCloseConnection options service state preserveResume now) := by
  unfold forceCloseConnection
  split
  · exact hwf
  · dsimp only
    split
    · exact wellFormed_setObject hwf hstate rfl rfl rfl rfl rfl
    · exact wellFormed_handleClose hwf hstate rfl rfl rfl rfl

theorem foldl_keeps {α : Type*} {P : RealtimeService → Prop}
    {f : RealtimeService → α → RealtimeService} {items : List α}
    (h : ∀ service item, P service → P (f service item)) (hservice : P service) :
    P (items.foldl f service) := by
  induction items generalizing service with
  | nil => exact hservice
  | cons head rest ih => exact ih (h service head hservice)

def closeAll (options : RealtimeTransportOptions) (now : Int) (service : RealtimeService)
    (ids : List Nat) : RealtimeService :=
  ids.foldl (fun service id =>
    match service.object id with
    | none => service
    | some connection => forceCloseConnection options service connection false now) service

theorem close_of_not_shuttingDown (h : service.shuttingDown = false) :
    close options service now =
      { closeAll options now { service with shuttingDown := true } service.connections with
        resumeSnapshots := [] } := by
  simp only [close, h, Bool.false_eq_true, if_false]
  rfl

theorem sameConnections_shuttingDown :
    SameConnections service { service with shuttingDown := true } :=
  ⟨rfl, rfl, rfl, rfl, rfl⟩

theorem sameConnections_snapshots (snapshots : List RealtimeResumeSnapshot) :
    SameConnections service { service with resumeSnapshots := snapshots } :=
  ⟨rfl, rfl, rfl, rfl, rfl⟩

theorem wellFormed_close (hwf : WellFormed service) : WellFormed (close options service now) := by
  cases hdown : service.shuttingDown with
  | true =>
      simp only [close, hdown, if_true]
      exact hwf
  | false =>
      rw [close_of_not_shuttingDown hdown]
      apply (sameConnections_snapshots []).wellFormed
      apply foldl_keeps
      · intro service id hwf
        split
        · exact hwf
        · rename_i connection hconnection
          have hid := id_of_object hconnection
          exact wellFormed_forceClose hwf (by rw [hid]; exact hconnection) false
      · exact sameConnections_shuttingDown.wellFormed hwf

theorem sameConnections_publish (publication : Publication) :
    SameConnections service (publish options service publication now).1 :=
  ⟨rfl, rfl, rfl, rfl, rfl⟩

theorem sameConnections_cleanup :
    SameConnections service
      (pruneBufferedEvents options (pruneExpiredResumeSnapshots service now) now) :=
  ⟨rfl, rfl, rfl, rfl, rfl⟩

theorem sameConnections_deleteSnapshot (resumeToken : Nat) :
    SameConnections service (deleteSnapshot service resumeToken) :=
  ⟨rfl, rfl, rfl, rfl, rfl⟩

theorem wellFormed_handleUnsubscribe (hwf : WellFormed service) (requestedTopics : List String) :
    WellFormed (handleUnsubscribe service state requestedTopics).1 := by
  unfold handleUnsubscribe
  dsimp only
  apply foldl_keeps
  · intro service topic hwf
    exact wellFormed_deleteSubscription hwf
  · exact hwf

theorem wellFormed_handleResume (hwf : WellFormed service) (resumeToken : Nat) :
    WellFormed (handleResume service state resumeToken now).1 := by
  unfold handleResume
  have hdeleted := (sameConnections_deleteSnapshot resumeToken).wellFormed hwf
  split
  · exact hdeleted
  · exact hwf
  · exact hdeleted
  · dsimp only
    apply foldl_keeps
    · intro service topic hwf
      exact wellFormed_addSubscription hwf false
    · exact hdeleted

theorem isOpen_handleResume {resumeToken : Nat} (hopen : IsOpen service id) :
    IsOpen (handleResume service state resumeToken now).1 id := by
  unfold handleResume
  split
  · exact hopen
  · exact hopen
  · exact hopen
  · exact foldl_keeps (P := fun service => IsOpen service id)
      (fun _ _ hopen => isOpen_addSubscription hopen false) hopen

theorem continueSubscribe_nil {pending : PendingSubscribe} (h : pending.remaining = [])
    (answer : Bool) : continueSubscribe service pending answer = (service, none, []) := by
  simp only [continueSubscribe, h]

theorem continueSubscribe_cons {pending : PendingSubscribe} {remaining : List String}
    (h : pending.remaining = topic :: remaining) (answer : Bool) :
    (continueSubscribe service pending answer).1 =
      if canSubscribeToTopic topic answer then
        addSubscription service pending.connectionId topic (decide (topic ∈ pending.overtaken))
      else service := by
  simp only [continueSubscribe, h]
  by_cases hlast : remaining = []
  · rw [if_pos hlast]
  · rw [if_neg hlast]

theorem wellFormed_continueSubscribe (hwf : WellFormed service) (pending : PendingSubscribe)
    (answer : Bool) : WellFormed (continueSubscribe service pending answer).1 := by
  cases hremaining : pending.remaining with
  | nil =>
      rw [continueSubscribe_nil hremaining]
      exact hwf
  | cons topic remaining =>
      rw [continueSubscribe_cons hremaining]
      split
      · exact wellFormed_addSubscription hwf _
      · exact hwf

end Operations

section Steps

variable {options : RealtimeTransportOptions} {transport : Transport}

theorem wellFormed_receiveMessage {state : RealtimeConnectionState}
    (hwf : WellFormed transport.service) (raw : Except (List String) RealtimeClientMessage) :
    WellFormed (receiveMessage transport state raw).service := by
  cases raw with
  | error details => exact hwf
  | ok message =>
      cases message with
      | ping pingId => exact hwf
      | pong => exact hwf
      | subscribe topics => exact hwf
      | unsubscribe topics => exact wellFormed_handleUnsubscribe hwf topics
      | resume resumeToken => exact wellFormed_handleResume hwf resumeToken

theorem wellFormed_perform (hwf : WellFormed transport.service) (operation : Operation) :
    WellFormed (perform options transport operation).service := by
  cases operation with
  | attach userId sessionId =>
      exact @wellFormed_attachConnection options transport.service transport.clock hwf userId
        sessionId
  | receive id raw =>
      simp only [perform]
      split
      · exact hwf
      · split
        · exact hwf
        · exact wellFormed_receiveMessage hwf raw
  | authorize request answer =>
      simp only [perform]
      split
      · exact hwf
      · exact wellFormed_continueSubscribe hwf _ answer
  | publish publication => exact (sameConnections_publish publication).wellFormed hwf
  | forceClose id preserveResume =>
      simp only [perform]
      split
      · exact hwf
      · rename_i state hstate
        obtain rfl := id_of_object hstate
        exact wellFormed_forceClose hwf hstate preserveResume
  | socketClosing id =>
      simp only [perform]
      split
      · exact hwf
      · rename_i state hstate
        have hid : state.id = id := id_of_object hstate
        split
        · exact wellFormed_setObject hwf hstate hid rfl rfl rfl rfl
        · exact hwf
  | socketClosed id =>
      simp only [perform]
      split
      · exact hwf
      · rename_i state hstate
        obtain rfl := id_of_object hstate
        exact wellFormed_handleClose hwf hstate rfl rfl rfl rfl
  | cleanup => exact sameConnections_cleanup.wellFormed hwf
  | shutDown => exact wellFormed_close hwf

/-- **The indices are kept in step.** -/
theorem wellFormed_step (hwf : WellFormed transport.service) (call : Call) :
    WellFormed (step options transport call).service := by
  have hwf' : WellFormed
      ({ transport with clock := transport.clock + call.elapsed } : Transport).service := hwf
  exact wellFormed_perform hwf' call.operation

theorem wellFormed_start (clock : Int) : WellFormed (Transport.start clock).service := by
  constructor <;> simp [Transport.start, RealtimeService.object, Keyed.lookup, Indexed]

end Steps

end RewardSystem.Realtime
