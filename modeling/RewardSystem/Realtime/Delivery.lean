import RewardSystem.Realtime.Audience

/-!
# What the clients have been sent

Every open connection has been sent the events that it is to hear, in the order of their
publication, as long as no event is published to a connection whose socket is closing. A closed
connection has been sent those before its close.
-/

namespace RewardSystem.Realtime

open Transition

/-- A snapshot tells which events its connection was sent. -/
structure SnapshotKept (transport : Transport) (snapshot : RealtimeResumeSnapshot) : Prop where
  closed : ∃ state, transport.service.object snapshot.connectionId = some state ∧
    state.closed = true
  last : snapshot.lastEventSequence < transport.service.nextEventSequence
  attachedAt : snapshot.attachedAt ≤ snapshot.lastEventSequence + 1
  since : ∀ subscription ∈ snapshot.subscriptions,
    subscription.since ≤ snapshot.lastEventSequence + 1 ∧
      isReservedTopic subscription.topic = false
  sent : (eventsTo transport.sent snapshot.connectionId).filter
      (fun event => snapshot.audience.Hears event) =
    transport.published.filter fun event =>
      snapshot.audience.Hears event ∧ event.sequence ≤ snapshot.lastEventSequence

structure Delivered (transport : Transport) : Prop where
  wellFormed : WellFormed transport.service
  buckets : BucketsNodup transport.service
  positive : 0 < transport.service.nextEventSequence
  increasing : transport.published.Pairwise fun earlier later => earlier.sequence < later.sequence
  recent : ∀ event ∈ transport.published, event.sequence < transport.service.nextEventSequence
  named : ∀ event ∈ transport.published, event.message.topic = event.scope.name
  buffered : transport.service.bufferedEvents <:+ transport.published
  sent : ∀ id, ∀ event ∈ eventsTo transport.sent id, event ∈ transport.published
  unattached : ∀ id, transport.service.object id = none → eventsTo transport.sent id = []
  since : ∀ id state, transport.service.object id = some state →
    state.attachedAt ≤ transport.service.nextEventSequence ∧
      ∀ subscription ∈ state.subscriptions,
        subscription.since ≤ transport.service.nextEventSequence ∧
          isReservedTopic subscription.topic = false
  live : ∀ id state, transport.service.object id = some state → state.closed = false →
    (eventsTo transport.sent id).filter (fun event => state.audience.Hears event) =
      transport.published.filter fun event => state.audience.Hears event
  snapshots : ∀ snapshot ∈ transport.service.resumeSnapshots, SnapshotKept transport snapshot

section Lists

variable {α : Type*}

theorem filter_of_filter {P Q : α → Prop} [DecidablePred P] [DecidablePred Q] {l l' : List α}
    (h : l.filter (fun a => P a) = l'.filter fun a => P a) (hl : ∀ a ∈ l, Q a → P a)
    (hl' : ∀ a ∈ l', Q a → P a) : l.filter (fun a => Q a) = l'.filter fun a => Q a := by
  have hthrough : ∀ l : List α, (∀ a ∈ l, Q a → P a) →
      l.filter (fun a => Q a) = (l.filter fun a => P a).filter fun a => Q a := by
    intro l hl
    rw [List.filter_filter]
    refine List.filter_congr fun a ha => ?_
    by_cases hQ : Q a
    · simp [hQ, hl a ha hQ]
    · simp [hQ]
  rw [hthrough l hl, hthrough l' hl', h]

theorem filter_split {P : α → Prop} [DecidablePred P] {f : α → Nat} {l : List α} (k : Nat)
    (h : l.Pairwise fun a b => f a < f b) :
    (l.filter fun a => P a ∧ f a ≤ k) ++ (l.filter fun a => P a ∧ k < f a) =
      l.filter fun a => P a := by
  induction l with
  | nil => rfl
  | cons head rest ih =>
      obtain ⟨hhead, hrest⟩ := List.pairwise_cons.mp h
      by_cases hk : f head ≤ k
      · have hnot : ¬k < f head := by omega
        by_cases hP : P head
        · simp only [List.filter_cons, hP, hk, hnot, and_self, and_false, decide_true,
            decide_false, if_true, Bool.false_eq_true, if_false, List.cons_append, ih hrest]
        · simp only [List.filter_cons, hP, false_and, decide_false, Bool.false_eq_true, if_false,
            ih hrest]
      · have hnone : ∀ a ∈ head :: rest, ¬(P a ∧ f a ≤ k) := by
          intro a ha hle
          rcases List.mem_cons.mp ha with rfl | ha
          · exact hk hle.2
          · have hlt := hhead a ha
            omega
        rw [List.filter_eq_nil_iff.mpr fun a ha => by simpa using hnone a ha, List.nil_append]
        refine List.filter_congr fun a ha => ?_
        have hlt : k < f a := by
          rcases List.mem_cons.mp ha with rfl | ha
          · omega
          · have hlt := hhead a ha
            omega
        simp [hlt]

end Lists

section Steps

variable {options : RealtimeTransportOptions} {transport transport' : Transport}

/-- **Without deliveries.** -/
theorem delivered_quiet (h : Delivered transport) (hquiet : Quiet transport.service transport'.service)
    (hwf : WellFormed transport'.service) (hbuckets : BucketsNodup transport'.service)
    (hpublished : transport'.published = transport.published)
    (hsent : ∀ id, eventsTo transport'.sent id = eventsTo transport.sent id) :
    Delivered transport' where
  wellFormed := hwf
  buckets := hbuckets
  positive := by
    rw [hquiet.next]
    exact h.positive
  increasing := by
    rw [hpublished]
    exact h.increasing
  recent := by
    rw [hpublished, hquiet.next]
    exact h.recent
  named := by
    rw [hpublished]
    exact h.named
  buffered := by
    rw [hpublished]
    exact hquiet.buffered.trans h.buffered
  sent id event hevent := by
    rw [hpublished]
    rw [hsent] at hevent
    exact h.sent id event hevent
  unattached id hnone := by
    rw [hsent]
    apply h.unattached
    cases hstate : transport.service.object id with
    | none => rfl
    | some state =>
        obtain ⟨state', hstate', _⟩ := hquiet.successor hstate
        rw [hnone] at hstate'
        cases hstate'
  since id state' hstate' := by
    obtain ⟨state, hstate, hbecomes⟩ := hquiet.origin hstate'
    obtain ⟨hattached, hsince⟩ := h.since id state hstate
    rw [hquiet.next]
    have hsame : state'.attachedAt = state.attachedAt := hbecomes.audience.attachedAt
    refine ⟨hsame ▸ hattached, ?_⟩
    intro subscription hsubscription
    rcases hbecomes.audience.subscriptions subscription hsubscription with hold | ⟨hnew, htopic⟩
    · exact hsince subscription hold
    · exact ⟨hnew.le, htopic⟩
  live id state' hstate' hopen' := by
    obtain ⟨state, hstate, hbecomes⟩ := hquiet.origin hstate'
    have hopen : state.closed = false := by
      cases hclosed : state.closed with
      | false => rfl
      | true => exact absurd (hopen'.symm.trans (hbecomes.closed hclosed)) (by simp)
    have hlive := h.live id state hstate hopen
    rw [hsent, hpublished]
    have hears : ∀ event ∈ transport.published, state'.audience.Hears event →
        state.audience.Hears event := fun event hevent =>
      hbecomes.audience.hears (h.recent event hevent)
    exact filter_of_filter hlive (fun event hevent => hears event (h.sent id event hevent)) hears
  snapshots snapshot hsnapshot := by
    rcases hquiet.snapshots snapshot hsnapshot with hold | hleft
    · have hkept := h.snapshots snapshot hold
      obtain ⟨state, hstate, hclosed⟩ := hkept.closed
      obtain ⟨state', hstate', hbecomes⟩ := hquiet.successor hstate
      refine ⟨⟨state', hstate', hbecomes.closed hclosed⟩, ?_, hkept.attachedAt, hkept.since, ?_⟩
      · rw [hquiet.next]
        exact hkept.last
      · rw [hsent, hpublished]
        exact hkept.sent
    · obtain ⟨state, hstate, hopen, hfollows⟩ := hleft.connection
      obtain ⟨hattached, hsince⟩ := h.since _ state hstate
      have hlast := hleft.last
      have hpositive := h.positive
      have hsame : snapshot.attachedAt = state.attachedAt := hfollows.attachedAt
      refine ⟨hleft.closed, ?_, ?_, ?_, ?_⟩
      · rw [hquiet.next]
        omega
      · omega
      · intro subscription hsubscription
        rcases hfollows.subscriptions subscription hsubscription with hold | ⟨hnew, htopic⟩
        · obtain ⟨hle, htopic⟩ := hsince subscription hold
          exact ⟨by omega, htopic⟩
        · exact ⟨by omega, htopic⟩
      · rw [hsent, hpublished]
        have hears : ∀ event ∈ transport.published, snapshot.audience.Hears event →
            state.audience.Hears event := fun event hevent =>
          hfollows.hears (h.recent event hevent)
        have hfilter := filter_of_filter (h.live _ state hstate hopen)
          (fun event hevent => hears event (h.sent _ event hevent)) hears
        rw [hfilter]
        refine List.filter_congr fun event hevent => ?_
        have hlt := h.recent event hevent
        have hle : event.sequence ≤ snapshot.lastEventSequence := by omega
        simp [hle]

theorem connection_eq_some {service : RealtimeService} (hwf : WellFormed service) {id : Nat}
    {state : RealtimeConnectionState} :
    service.connection id = some state ↔
      service.object id = some state ∧ state.closed = false := by
  unfold RealtimeService.connection
  constructor
  · intro h
    split at h
    · rename_i hmem
      exact ⟨h, (hwf.connections.mem_iff h).mp hmem⟩
    · cases h
  · rintro ⟨hstate, hopen⟩
    rw [if_pos ((hwf.connections.mem_iff hstate).mpr hopen)]
    exact hstate

theorem hears_nextEvent (h : Delivered transport) {id : Nat} {state : RealtimeConnectionState}
    (hstate : transport.service.object id = some state) (hopen : state.closed = false)
    (publication : Publication) (now : Int) :
    state.audience.Hears (transport.service.nextEvent publication now) ↔
      id ∈ transport.service.connectionsOf publication.scope := by
  obtain ⟨hattached, hsince⟩ := h.since id state hstate
  obtain ⟨scope, name, data⟩ := publication
  cases scope with
  | topic topic =>
      change _ ↔ id ∈ Multimap.get topic transport.service.topicConnections
      rw [(h.wellFormed.topics topic).mem_iff hstate]
      constructor
      · rintro ⟨subscription, hmem, htopic, _⟩
        exact ⟨subscription, hmem, htopic, .inl hopen⟩
      · rintro ⟨subscription, hmem, htopic, _⟩
        exact ⟨subscription, hmem, htopic, (hsince subscription hmem).1⟩
  | user userId =>
      change _ ↔ id ∈ Multimap.get userId transport.service.userConnections
      rw [(h.wellFormed.users userId).mem_iff hstate]
      exact ⟨fun hears => ⟨hopen, hears.1.symm⟩, fun hin => ⟨hin.2.symm, hattached⟩⟩
  | session sessionId =>
      change _ ↔ id ∈ Multimap.get sessionId transport.service.sessionConnections
      rw [(h.wellFormed.sessions sessionId).mem_iff hstate]
      exact ⟨fun hears => ⟨hopen, hears.1.symm⟩, fun hin => ⟨hin.2.symm, hattached⟩⟩

theorem eventsTo_publication (h : Delivered transport) {publication : Publication}
    (hready : ∀ id ∈ transport.service.connectionsOf publication.scope,
      ∀ state ∈ transport.service.connection id, state.readyState = .wsOpen) (id : Nat) :
    (∀ state, transport.service.object id = some state → state.closed = false →
      state.audience.Hears (transport.service.nextEvent publication transport.clock) →
        eventsTo (Realtime.publish options transport.service publication transport.clock).2 id =
          [transport.service.nextEvent publication transport.clock]) ∧
    ((∀ state, transport.service.object id = some state → state.closed = false →
      ¬state.audience.Hears (transport.service.nextEvent publication transport.clock)) →
        eventsTo (Realtime.publish options transport.service publication transport.clock).2 id =
          []) := by
  classical
  have hsent : eventsTo
      (Realtime.publish options transport.service publication transport.clock).2 id =
        if id ∈ transport.service.connectionsOf publication.scope ∧
          ∃ state, transport.service.connection id = some state ∧ state.Ready then
            [transport.service.nextEvent publication transport.clock] else [] := by
    have hbucket : (Realtime.publish options transport.service publication
        transport.clock).1.connectionsOf publication.scope =
          transport.service.connectionsOf publication.scope := by
      cases publication.scope <;> rfl
    change eventsTo (publishToConnections
      (Realtime.publish options transport.service publication transport.clock).1
        ((Realtime.publish options transport.service publication transport.clock).1.connectionsOf
          publication.scope) (.event _)) id = _
    rw [hbucket, eventsTo_publish (h.buckets publication.scope)]
    rfl
  rw [hsent]
  constructor
  · intro state hstate hopen hears
    have hmem := (hears_nextEvent h hstate hopen publication transport.clock).mp hears
    have hconnection := (connection_eq_some h.wellFormed).mpr ⟨hstate, hopen⟩
    exact if_pos ⟨hmem, state, hconnection, hready id hmem state hconnection, hopen⟩
  · intro hnone
    refine if_neg ?_
    rintro ⟨hmem, state, hconnection, _⟩
    obtain ⟨hstate, hopen⟩ := (connection_eq_some h.wellFormed).mp hconnection
    exact hnone state hstate hopen
      ((hears_nextEvent h hstate hopen publication transport.clock).mpr hmem)

/-- **A publication.** Every connection that is to hear the event is sent it. -/
theorem delivered_publish (h : Delivered transport) {publication : Publication}
    (hready : ∀ id ∈ transport.service.connectionsOf publication.scope,
      ∀ state ∈ transport.service.connection id, state.readyState = .wsOpen) :
    Delivered (perform options transport (.publish publication)) := by
  have hsame : SameConnections transport.service
      (Realtime.publish options transport.service publication transport.clock).1 :=
    sameConnections_publish publication
  have hsent : ∀ id, eventsTo (perform options transport (.publish publication)).sent id =
      eventsTo transport.sent id ++
        eventsTo (Realtime.publish options transport.service publication transport.clock).2 id :=
    fun id => eventsTo_append _ _ id
  have hobject : ∀ id, (perform options transport (.publish publication)).service.object id =
      transport.service.object id := hsame.object
  constructor
  · exact hsame.wellFormed h.wellFormed
  · exact hsame.bucketsNodup h.buckets
  · exact Nat.succ_pos _
  · refine List.pairwise_append.mpr ⟨h.increasing, List.pairwise_singleton _ _, ?_⟩
    intro earlier hearlier later hlater
    obtain rfl := List.mem_singleton.mp hlater
    exact h.recent earlier hearlier
  · intro event hevent
    rcases List.mem_append.mp hevent with hold | hnew
    · exact (h.recent event hold).trans (Nat.lt_succ_self _)
    · obtain rfl := List.mem_singleton.mp hnew
      exact Nat.lt_succ_self _
  · intro event hevent
    rcases List.mem_append.mp hevent with hold | hnew
    · exact h.named event hold
    · obtain rfl := List.mem_singleton.mp hnew
      rfl
  · obtain ⟨dropped, hdropped⟩ := h.buffered
    refine (List.dropWhile_suffix _).trans ⟨dropped, ?_⟩
    change dropped ++ (_ ++ [_]) = transport.published ++ [_]
    rw [← List.append_assoc, hdropped]
  · intro id event hevent
    rw [hsent] at hevent
    rcases List.mem_append.mp hevent with hold | hnew
    · exact List.mem_append_left _ (h.sent id event hold)
    · by_cases hears : ∃ state, transport.service.object id = some state ∧
          state.closed = false ∧
            state.audience.Hears (transport.service.nextEvent publication transport.clock)
      · obtain ⟨state, hstate, hopen, hears⟩ := hears
        rw [(eventsTo_publication h hready id).1 state hstate hopen hears] at hnew
        exact List.mem_append_right _ hnew
      · rw [(eventsTo_publication h hready id).2 fun state hstate hopen hears' =>
          hears ⟨state, hstate, hopen, hears'⟩] at hnew
        cases hnew
  · intro id hnone
    rw [hobject] at hnone
    rw [hsent, h.unattached id hnone, List.nil_append]
    refine (eventsTo_publication h hready id).2 fun state hstate => ?_
    rw [hnone] at hstate
    cases hstate
  · intro id state hstate
    rw [hobject] at hstate
    obtain ⟨hattached, hsince⟩ := h.since id state hstate
    refine ⟨hattached.trans (Nat.le_succ _), ?_⟩
    intro subscription hsubscription
    obtain ⟨hle, htopic⟩ := hsince subscription hsubscription
    exact ⟨hle.trans (Nat.le_succ _), htopic⟩
  · intro id state hstate hopen
    rw [hobject] at hstate
    have hlive := h.live id state hstate hopen
    rw [hsent, List.filter_append, hlive]
    change _ = (transport.published ++ [_]).filter _
    rw [List.filter_append]
    congr 1
    by_cases hears : state.audience.Hears
        (transport.service.nextEvent publication transport.clock)
    · rw [(eventsTo_publication h hready id).1 state hstate hopen hears]
    · rw [(eventsTo_publication h hready id).2 fun state' hstate' _ => by
        obtain rfl := Option.some.inj (hstate.symm.trans hstate')
        exact hears]
      simp [hears]
  · intro snapshot hsnapshot
    have hkept := h.snapshots snapshot hsnapshot
    obtain ⟨state, hstate, hclosed⟩ := hkept.closed
    refine ⟨⟨state, (hobject _).trans hstate, hclosed⟩, hkept.last.trans (Nat.lt_succ_self _),
      hkept.attachedAt, hkept.since, ?_⟩
    have hnothing : eventsTo
        (Realtime.publish options transport.service publication transport.clock).2
          snapshot.connectionId = [] := by
      refine (eventsTo_publication h hready _).2 fun state' hstate' hopen => ?_
      obtain rfl := Option.some.inj (hstate.symm.trans hstate')
      exact absurd (hclosed.symm.trans hopen) (by simp)
    rw [hsent, hnothing, List.append_nil, hkept.sent]
    change _ = (transport.published ++ [_]).filter _
    rw [List.filter_append]
    have hlast : ¬transport.service.nextEventSequence ≤ snapshot.lastEventSequence := by
      have hlt := hkept.last
      omega
    have hlate : ¬(transport.service.nextEvent publication transport.clock).sequence ≤
        snapshot.lastEventSequence := hlast
    simp [hlate]

theorem delivered_attach (h : Delivered transport) (userId : Nat) (sessionId : String) :
    Delivered (perform options transport (.attach userId sessionId)) := by
  have hreplaces : Replaces transport.service
      (perform options transport (.attach userId sessionId)).service
        transport.service.objects.length (newConnection transport.service userId sessionId) :=
    @replaces_attachConnection options transport.service transport.clock h.wellFormed userId
      sessionId
  have hnone := object_length_eq_none h.wellFormed
  have hsent : ∀ id, eventsTo (perform options transport (.attach userId sessionId)).sent id =
      eventsTo transport.sent id := by
    intro id
    have hhello : eventsTo (attachConnection options transport.service userId sessionId
        transport.clock).2 id = [] := by
      dsimp only [attachConnection]
      apply eventsTo_sendServerMessage
      intro event hsame
      cases hsame
    refine (eventsTo_append _ _ id).trans ?_
    rw [hhello, List.append_nil]
  constructor
  · exact wellFormed_perform h.wellFormed _
  · exact bucketsNodup_perform h.buckets _
  · exact h.positive
  · exact h.increasing
  · exact h.recent
  · exact h.named
  · exact h.buffered
  · intro id event hevent
    rw [hsent] at hevent
    exact h.sent id event hevent
  · intro id hid
    rw [hsent]
    rw [hreplaces id] at hid
    split at hid
    · cases hid
    · exact h.unattached id hid
  · intro id state hstate
    rw [hreplaces id] at hstate
    split at hstate
    · obtain rfl := Option.some.inj hstate
      exact ⟨le_rfl, by simp [newConnection]⟩
    · exact h.since id state hstate
  · intro id state hstate hopen
    rw [hsent]
    rw [hreplaces id] at hstate
    split at hstate
    · rename_i hid
      obtain rfl := Option.some.inj hstate
      rw [hid, h.unattached _ hnone]
      refine (List.filter_eq_nil_iff.mpr ?_).symm
      intro event hevent
      have hlt := h.recent event hevent
      have hdeaf : ¬(newConnection transport.service userId sessionId).audience.Hears event := by
        unfold Audience.Hears RealtimeConnectionState.audience newConnection
        split
        · simp
        · rintro ⟨_, hle⟩
          exact absurd hlt (not_lt.mpr hle)
        · rintro ⟨_, hle⟩
          exact absurd hlt (not_lt.mpr hle)
      simpa using hdeaf
    · exact h.live id state hstate hopen
  · intro snapshot hsnapshot
    have hkept := h.snapshots snapshot hsnapshot
    obtain ⟨state, hstate, hclosed⟩ := hkept.closed
    refine ⟨⟨state, ?_, hclosed⟩, hkept.last, hkept.attachedAt, hkept.since, ?_⟩
    · rw [hreplaces, if_neg]
      · exact hstate
      · intro hid
        rw [hid, hnone] at hstate
        cases hstate
    · rw [hsent]
      exact hkept.sent

theorem delivered_replay (h : Delivered transport) {state : RealtimeConnectionState} {ready : Prop}
    [Decidable ready] (hstate : transport.service.object state.id = some state)
    (hopen : state.closed = false) {events : List BufferedRealtimeEvent}
    (hevents : ∀ event ∈ events, event ∈ transport.published)
    (hdeaf : ready → ∀ event ∈ events, ¬state.audience.Hears event) {sent : List Sent}
    (hsent : ∀ id, eventsTo sent id = eventsTo transport.sent id ++
      if state.id = id ∧ ready then events else []) :
    Delivered { transport with sent := sent } := by
  have hother : ∀ id, id ≠ state.id → eventsTo sent id = eventsTo transport.sent id := by
    intro id hne
    rw [hsent, if_neg (fun hid => hne hid.1.symm), List.append_nil]
  refine { h with sent := ?_, unattached := ?_, live := ?_, snapshots := ?_ }
  · intro id event hevent
    rw [hsent] at hevent
    rcases List.mem_append.mp hevent with hold | hnew
    · exact h.sent id event hold
    · split at hnew
      · exact hevents event hnew
      · cases hnew
  · intro id hnone
    rw [hother id]
    · exact h.unattached id hnone
    · rintro rfl
      exact absurd (hstate.symm.trans hnone) (by simp)
  · intro id other hother' hopen'
    by_cases hid : id = state.id
    · subst hid
      obtain rfl := Option.some.inj (hstate.symm.trans hother')
      rw [hsent, List.filter_append, h.live _ state hstate hopen]
      refine List.append_right_eq_self.mpr ?_
      split
      · rename_i hready
        exact List.filter_eq_nil_iff.mpr fun event hevent => by
          simpa using hdeaf hready.2 event hevent
      · rfl
    · rw [hother id hid]
      exact h.live id other hother' hopen'
  · intro snapshot hsnapshot
    have hkept := h.snapshots snapshot hsnapshot
    obtain ⟨other, hother', hclosed⟩ := hkept.closed
    refine { hkept with sent := ?_ }
    dsimp only
    rw [hother]
    · exact hkept.sent
    · intro hid
      rw [hid] at hother'
      obtain rfl := Option.some.inj (hstate.symm.trans hother')
      exact absurd (hclosed.symm.trans hopen) (by simp)

end Steps

end RewardSystem.Realtime
