import RewardSystem.Realtime.Delivery
import RewardSystem.Realtime.Interleaving

/-!
# What a resumed client has been sent

A client that resumes has been sent every event it is to hear exactly once, if no event was
published to a connection whose socket was closing and if the new connection had been sent none of
these events before.
-/

namespace RewardSystem.Realtime

open Transition

/-- The connection that a call resumes on, and the snapshot that it resumes. -/
def succeeded (e : Event Transport Call) :
    Option (RealtimeConnectionState × RealtimeResumeSnapshot) :=
  match e.label.operation with
  | .receive id (.ok (.resume resumeToken)) =>
      match e.before.service.object id with
      | none => none
      | some state =>
          if state.Ready then
            match resumable e.before.service state resumeToken
              (e.before.clock + e.label.elapsed) with
            | .ok (snapshot, _) => some (state, snapshot)
            | .error _ => none
          else none
  | _ => none

/-- What the client was sent on the old connection and then on the new one are the events that it
was to hear, each once and in the order of publication. -/
def ExactlyOnce (e : Event Transport Call) : Prop :=
  ∀ resumed ∈ succeeded e,
    (eventsTo e.after.sent resumed.2.connectionId ++ eventsTo e.after.sent resumed.1.id).filter
        (fun event => resumed.2.audience.Hears event) =
      e.after.published.filter fun event => resumed.2.audience.Hears event

/-- An event is published only while the sockets of its connections take messages. -/
def ReachesAll (e : Event Transport Call) : Prop :=
  match e.label.operation with
  | .publish publication =>
      ∀ id ∈ e.before.service.connectionsOf publication.scope,
        ∀ state ∈ e.before.service.connection id, state.readyState = .wsOpen
  | _ => True

/-- The new connection has been sent none of the events that the old one was to hear. -/
def ResumesFresh (e : Event Transport Call) : Prop :=
  ∀ resumed ∈ succeeded e, ∀ event ∈ eventsTo e.before.sent resumed.1.id,
    ¬resumed.2.audience.Hears event

section Resume

variable {transport : Transport} {state : RealtimeConnectionState}
  {snapshot : RealtimeResumeSnapshot} {replayEvents : List BufferedRealtimeEvent}
  {resumeToken : Nat} {now : Int}

theorem resumable_spec
    (h : resumable transport.service state resumeToken now = .ok (snapshot, replayEvents)) :
    snapshot ∈ transport.service.resumeSnapshots ∧ snapshot.userId = state.userId ∧
      snapshot.sessionId = state.sessionId ∧
      collectReplayableEvents transport.service snapshot = some replayEvents := by
  unfold resumable at h
  split at h
  · cases h
  · rename_i stored hstored
    split at h
    · cases h
    · split at h
      · cases h
      · rename_i hmatch
        split at h
        · cases h
        · rename_i events hevents
          obtain ⟨rfl, rfl⟩ := Prod.mk.inj (Except.ok.inj h)
          have hmatch : stored.userId = state.userId ∧ stored.sessionId = state.sessionId := by
            simpa using hmatch
          exact ⟨Keyed.mem_of_lookup hstored, hmatch.1, hmatch.2, hevents⟩

def RealtimeResumeSnapshot.replayTopics (snapshot : RealtimeResumeSnapshot) : List String :=
  snapshot.topics ++
    [getUserScopeTopic snapshot.userId, getSessionScopeTopic snapshot.sessionId]

theorem mem_replayTopics {event : BufferedRealtimeEvent} (hears : snapshot.audience.Hears event) :
    event.scope.name ∈ snapshot.replayTopics := by
  unfold Audience.Hears at hears
  unfold RealtimeResumeSnapshot.replayTopics
  split at hears
  · obtain ⟨subscription, hmem, rfl, _⟩ := hears
    rename_i hscope
    rw [hscope]
    exact List.mem_append_left _ (List.mem_map_of_mem hmem)
  · rename_i hscope
    rw [hscope, hears.1]
    exact List.mem_append_right _ (List.mem_cons_self ..)
  · rename_i hscope
    rw [hscope, hears.1]
    exact List.mem_append_right _ (List.mem_cons_of_mem _ (List.mem_cons_self ..))

theorem isReservedTopic_user {topic : String} {userId : Nat}
    (h : topic = getUserScopeTopic userId) : isReservedTopic topic = true := by
  have hstarts : startsWith topic "user:" = true := by
    rw [h, startsWith, List.isPrefixOf_iff_prefix, getUserScopeTopic, String.toList_append]
    exact List.prefix_append _ _
  simp [isReservedTopic, hstarts]

theorem isReservedTopic_session {topic sessionId : String}
    (h : topic = getSessionScopeTopic sessionId) : isReservedTopic topic = true := by
  have hstarts : startsWith topic "session:" = true := by
    rw [h, startsWith, List.isPrefixOf_iff_prefix, getSessionScopeTopic, String.toList_append]
    exact List.prefix_append _ _
  simp [isReservedTopic, hstarts]

theorem replay_spec (h : Delivered transport)
    (hcollect : collectReplayableEvents transport.service snapshot = some replayEvents) :
    (∀ event ∈ replayEvents, event ∈ transport.published ∧
      snapshot.lastEventSequence < event.sequence ∧
        event.message.topic ∈ snapshot.replayTopics) ∧
    replayEvents.filter (fun event => snapshot.audience.Hears event) =
      transport.published.filter fun event =>
        snapshot.audience.Hears event ∧ snapshot.lastEventSequence < event.sequence := by
  unfold collectReplayableEvents at hcollect
  dsimp only at hcollect
  split at hcollect
  · rename_i hnone
    obtain rfl := Option.some.inj hcollect
    refine ⟨by simp, (List.filter_eq_nil_iff.mpr ?_).symm⟩
    intro event hevent
    have hlt := h.recent event hevent
    have hold : ¬snapshot.lastEventSequence < event.sequence := by omega
    simp [hold]
  · split at hcollect
    · cases hcollect
    · rename_i oldest rest hbuffer
      split at hcollect
      · cases hcollect
      · rename_i hoverlap
        obtain rfl := Option.some.inj hcollect
        obtain ⟨dropped, hdropped⟩ := h.buffered
        constructor
        · intro event hevent
          obtain ⟨hmem, hfilter⟩ := List.mem_filter.mp hevent
          have hfilter := of_decide_eq_true hfilter
          refine ⟨?_, hfilter.1, hfilter.2⟩
          rw [← hdropped]
          exact List.mem_append_right _ hmem
        · have hearly : ∀ event ∈ dropped, ¬snapshot.lastEventSequence < event.sequence := by
            intro event hevent
            have hincreasing := h.increasing
            rw [← hdropped] at hincreasing
            have hlt := (List.pairwise_append.mp hincreasing).2.2 event hevent oldest
              (by rw [hbuffer]; exact List.mem_cons_self ..)
            omega
          have hnone : dropped.filter (fun event => decide (snapshot.audience.Hears event ∧
              snapshot.lastEventSequence < event.sequence)) = [] := by
            refine List.filter_eq_nil_iff.mpr fun event hevent => ?_
            simp [hearly event hevent]
          rw [← hdropped, List.filter_append, hnone, List.nil_append, List.filter_filter]
          refine List.filter_congr fun event hevent => ?_
          have hnamed := h.named event (by
            rw [← hdropped]
            exact List.mem_append_right _ hevent)
          by_cases hears : snapshot.audience.Hears event
          · have htopic := mem_replayTopics hears
            rw [← hnamed] at htopic
            unfold RealtimeResumeSnapshot.replayTopics at htopic
            simp only [hears, htopic, and_true, true_and, decide_true, Bool.true_and]
          · simp [hears]

theorem eventsTo_handleResume
    (hresumable : resumable transport.service state resumeToken now =
      .ok (snapshot, replayEvents)) (id : Nat) :
    eventsTo (handleResume transport.service state resumeToken now).2 id =
      if state.id = id ∧ state.Ready then replayEvents else [] := by
  unfold handleResume
  simp only [hresumable]
  rw [eventsTo_append, eventsTo_sendServerMessage (by simp), List.nil_append, eventsTo_replay]

theorem eventsTo_handleResume_error {refusal : ResumeRefusal}
    (hresumable : resumable transport.service state resumeToken now = .error refusal) (id : Nat) :
    eventsTo (handleResume transport.service state resumeToken now).2 id = [] := by
  unfold handleResume
  simp only [hresumable]
  cases refusal <;> exact eventsTo_sendServerMessage (by simp)

theorem quiet_handleResume (h : Delivered transport) :
    Quiet transport.service (handleResume transport.service state resumeToken now).1 := by
  unfold handleResume
  split
  · exact quiet_deleteSnapshot resumeToken
  · exact .refl transport.service
  · exact quiet_deleteSnapshot resumeToken
  · rename_i snapshot replayEvents hresumable
    dsimp only
    refine (quiet_deleteSnapshot resumeToken).trans (quiet_foldl ?_)
    intro service topic htopic
    obtain ⟨subscription, hmem, rfl⟩ := List.mem_map.mp htopic
    have hkept := h.snapshots snapshot (resumable_spec hresumable).1
    exact quiet_addSubscription (hkept.since subscription hmem).2 false

theorem heard_of_replay (h : Delivered transport)
    (hstate : transport.service.object state.id = some state) (hopen : state.closed = false)
    (hresumable : resumable transport.service state resumeToken now =
      .ok (snapshot, replayEvents)) {event : BufferedRealtimeEvent} (hevent : event ∈ replayEvents)
    (hears : state.audience.Hears event) :
    event ∈ eventsTo transport.sent state.id ∧ snapshot.audience.Hears event := by
  obtain ⟨hsnapshot, huser, hsession, hcollect⟩ := resumable_spec hresumable
  obtain ⟨hpublished, hlate, htopic⟩ := (replay_spec h hcollect).1 event hevent
  have hkept := h.snapshots snapshot hsnapshot
  constructor
  · have hmem : event ∈ transport.published.filter fun event => state.audience.Hears event :=
      List.mem_filter.mpr ⟨hpublished, decide_eq_true hears⟩
    rw [← h.live state.id state hstate hopen] at hmem
    exact List.mem_of_mem_filter hmem
  · rw [h.named event hpublished] at htopic
    unfold Audience.Hears at hears ⊢
    split at hears
    · rename_i topic hscope
      obtain ⟨subscription, hmem, rfl, _⟩ := hears
      have hreserved := ((h.since state.id state hstate).2 subscription hmem).2
      rw [hscope] at htopic
      rcases List.mem_append.mp htopic with htopic | hscopeTopic
      · obtain ⟨kept, hkeptMem, hsame⟩ := List.mem_map.mp htopic
        have hsince := (hkept.since kept hkeptMem).1
        exact ⟨kept, hkeptMem, hsame, by omega⟩
      · have hisReserved : isReservedTopic subscription.topic = true := by
          rcases List.mem_cons.mp hscopeTopic with hname | hname
          · exact isReservedTopic_user hname
          · exact isReservedTopic_session (List.mem_singleton.mp hname)
        rw [hisReserved] at hreserved
        cases hreserved
    · obtain ⟨rfl, _⟩ := hears
      have hattached := hkept.attachedAt
      exact ⟨huser.symm, by change snapshot.attachedAt ≤ event.sequence; omega⟩
    · obtain ⟨rfl, _⟩ := hears
      have hattached := hkept.attachedAt
      exact ⟨hsession.symm, by change snapshot.attachedAt ≤ event.sequence; omega⟩

theorem exactlyOnce_iff (h : Delivered transport)
    (hstate : transport.service.object state.id = some state) (hready : state.Ready)
    (hresumable : resumable transport.service state resumeToken now =
      .ok (snapshot, replayEvents)) :
    (eventsTo (transport.served (handleResume transport.service state resumeToken now)).sent
          snapshot.connectionId ++
        eventsTo (transport.served (handleResume transport.service state resumeToken now)).sent
          state.id).filter (fun event => snapshot.audience.Hears event) =
      transport.published.filter (fun event => snapshot.audience.Hears event) ↔
    ∀ event ∈ eventsTo transport.sent state.id, ¬snapshot.audience.Hears event := by
  obtain ⟨hsnapshot, _, _, hcollect⟩ := resumable_spec hresumable
  have hkept := h.snapshots snapshot hsnapshot
  have hother : state.id ≠ snapshot.connectionId := by
    intro hid
    obtain ⟨other, hother, hclosed⟩ := hkept.closed
    rw [← hid] at hother
    obtain rfl := Option.some.inj (hstate.symm.trans hother)
    exact absurd (hclosed.symm.trans hready.2) (by simp)
  have hsent : ∀ id, eventsTo
      (transport.served (handleResume transport.service state resumeToken now)).sent id =
        eventsTo transport.sent id ++ if state.id = id ∧ state.Ready then replayEvents else [] := by
    intro id
    refine (eventsTo_append _ _ id).trans ?_
    rw [eventsTo_handleResume hresumable]
  have hold := hsent snapshot.connectionId
  have hnew := hsent state.id
  rw [if_neg (fun hboth => hother hboth.1), List.append_nil] at hold
  rw [if_pos ⟨rfl, hready⟩] at hnew
  rw [hold, hnew, List.filter_append, List.filter_append, hkept.sent, (replay_spec h hcollect).2,
    ← filter_split (P := fun event => snapshot.audience.Hears event)
      snapshot.lastEventSequence h.increasing, List.append_cancel_left_eq]
  constructor
  · intro hnone event hevent
    have hempty := List.append_left_eq_self.mp hnone
    simpa using List.filter_eq_nil_iff.mp hempty event hevent
  · intro hdeaf
    refine List.append_left_eq_self.mpr (List.filter_eq_nil_iff.mpr fun event hevent => ?_)
    simpa using hdeaf event hevent

theorem delivered_handleResume (h : Delivered transport)
    (hstate : transport.service.object state.id = some state) (hopen : state.closed = false)
    (hfresh : ∀ snapshot replayEvents, resumable transport.service state resumeToken now =
      .ok (snapshot, replayEvents) → state.Ready →
        ∀ event ∈ eventsTo transport.sent state.id, ¬snapshot.audience.Hears event) :
    Delivered (transport.served (handleResume transport.service state resumeToken now)) := by
  have hquiet : Quiet transport.service (handleResume transport.service state resumeToken now).1 :=
    quiet_handleResume h
  have hrestored : Delivered { transport with
      service := (handleResume transport.service state resumeToken now).1 } :=
    delivered_quiet h hquiet (wellFormed_handleResume h.wellFormed resumeToken)
      (bucketsNodup_handleResume h.buckets resumeToken) rfl fun _ => rfl
  cases hresumable : resumable transport.service state resumeToken now with
  | error refusal =>
      refine delivered_quiet h hquiet hrestored.wellFormed hrestored.buckets rfl ?_
      intro id
      refine (eventsTo_append _ _ id).trans ?_
      rw [eventsTo_handleResume_error hresumable, List.append_nil]
  | ok result =>
      obtain ⟨snapshot, replayEvents⟩ := result
      obtain ⟨_, _, _, hcollect⟩ := resumable_spec hresumable
      obtain ⟨state', hstate', hbecomes⟩ := hquiet.successor hstate
      have hid : state'.id = state.id := id_of_object hstate'
      have hopen' : state'.closed = false := by
        have hstill : IsOpen (handleResume transport.service state resumeToken now).1 state.id :=
          isOpen_handleResume ⟨state, hstate, hopen⟩
        obtain ⟨other, hother, hclosed⟩ := hstill
        obtain rfl := Option.some.inj (hother.symm.trans hstate')
        exact hclosed
      rw [← hid] at hstate'
      have hsent : ∀ id, eventsTo
          (transport.served (handleResume transport.service state resumeToken now)).sent id =
            eventsTo transport.sent id ++
              if state'.id = id ∧ state.Ready then replayEvents else [] := by
        intro id
        refine (eventsTo_append _ _ id).trans ?_
        rw [eventsTo_handleResume hresumable, hid]
      refine delivered_replay hrestored hstate' hopen'
        (fun event hevent => ((replay_spec h hcollect).1 event hevent).1) ?_ hsent
      intro hready event hevent hears
      have hpublished := ((replay_spec h hcollect).1 event hevent).1
      have hears' := hbecomes.audience.hears (h.recent event hpublished) hears
      obtain ⟨hmem, hheard⟩ := heard_of_replay h hstate hopen hresumable hevent hears'
      exact hfresh snapshot replayEvents hresumable hready event hmem hheard

end Resume

section Runs

variable {options : RealtimeTransportOptions} {transport t : Transport}
  {events : List (Event Transport Call)}

theorem eventsTo_sendTransportError {state : RealtimeConnectionState} (code : RealtimeErrorCode)
    (message : String) (details : List String) (id : Nat) :
    eventsTo (sendTransportError state code message details) id = [] :=
  eventsTo_sendServerMessage (by simp)

theorem eventsTo_subscribeReplies {service : RealtimeService} (pending : PendingSubscribe)
    (id : Nat) : eventsTo (subscribeReplies service pending) id = [] := by
  unfold subscribeReplies
  split
  · rfl
  · rw [eventsTo_append]
    refine List.append_eq_nil_iff.mpr ⟨?_, ?_⟩
    · split
      · rfl
      · exact eventsTo_sendServerMessage (by simp)
    · split
      · rfl
      · exact eventsTo_sendTransportError _ _ _ id

theorem eventsTo_continueSubscribe {service : RealtimeService} (pending : PendingSubscribe)
    (answer : Bool) (id : Nat) :
    eventsTo (continueSubscribe service pending answer).2.2 id = [] := by
  unfold continueSubscribe
  split
  · rfl
  · dsimp only
    split
    · exact eventsTo_subscribeReplies _ id
    · rfl

theorem eventsTo_handleUnsubscribe {service : RealtimeService} {state : RealtimeConnectionState}
    (requestedTopics : List String) (id : Nat) :
    eventsTo (handleUnsubscribe service state requestedTopics).2 id = [] := by
  unfold handleUnsubscribe
  dsimp only
  split
  · rfl
  · exact eventsTo_sendServerMessage (by simp)

theorem delivered_perform_quiet (h : Delivered transport) {operation : Operation}
    (hquiet : Quiet transport.service (perform options transport operation).service)
    (hpublished : (perform options transport operation).published = transport.published)
    (hsent : ∃ sent, (perform options transport operation).sent = transport.sent ++ sent ∧
      ∀ id, eventsTo sent id = []) :
    Delivered (perform options transport operation) := by
  obtain ⟨sent, hsame, hnone⟩ := hsent
  refine delivered_quiet h hquiet (wellFormed_perform h.wellFormed operation)
    (bucketsNodup_perform h.buckets operation) hpublished fun id => ?_
  rw [hsame, eventsTo_append, hnone, List.append_nil]

theorem delivered_clock (h : Delivered transport) (clock : Int) :
    Delivered { transport with clock := clock } where
  wellFormed := h.wellFormed
  buckets := h.buckets
  positive := h.positive
  increasing := h.increasing
  recent := h.recent
  named := h.named
  buffered := h.buffered
  sent := h.sent
  unattached := h.unattached
  since := h.since
  live := h.live
  snapshots snapshot hsnapshot :=
    have hkept := h.snapshots snapshot hsnapshot
    ⟨hkept.closed, hkept.last, hkept.attachedAt, hkept.since, hkept.sent⟩

theorem perform_receive {id : Nat} {state : RealtimeConnectionState}
    (hstate : transport.service.object id = some state) (hopen : state.closed = false)
    (raw : Except (List String) RealtimeClientMessage) :
    perform options transport (.receive id raw) = receiveMessage transport state raw := by
  simp [perform, hstate, hopen]

theorem delivered_of_eq (h : Delivered transport) {operation : Operation}
    (hsame : perform options transport operation = transport) :
    Delivered (perform options transport operation) := by
  rw [hsame]
  exact h

theorem delivered_receive (h : Delivered transport) {id : Nat}
    {raw : Except (List String) RealtimeClientMessage}
    (hfresh : ∀ state resumeToken snapshot replayEvents,
      transport.service.object id = some state → raw = .ok (.resume resumeToken) →
        resumable transport.service state resumeToken transport.clock =
          .ok (snapshot, replayEvents) → state.Ready →
            ∀ event ∈ eventsTo transport.sent state.id, ¬snapshot.audience.Hears event) :
    Delivered (perform options transport (.receive id raw)) := by
  cases hstate : transport.service.object id with
  | none => exact delivered_of_eq h (by simp [perform, hstate])
  | some state =>
      cases hopen : state.closed with
      | true => exact delivered_of_eq h (by simp [perform, hstate, hopen])
      | false =>
          have hperform : perform options transport (.receive id raw) =
              receiveMessage transport state raw := perform_receive hstate hopen raw
          cases raw with
          | error details =>
              refine delivered_perform_quiet h ?_ ?_ ?_
              · rw [hperform]
                exact .refl _
              · rw [hperform]
                rfl
              · rw [hperform]
                exact ⟨_, rfl, eventsTo_sendTransportError _ _ _⟩
          | ok message =>
              cases message with
              | ping pingId =>
                  refine delivered_perform_quiet h ?_ ?_ ?_
                  · rw [hperform]
                    exact .refl _
                  · rw [hperform]
                    rfl
                  · rw [hperform]
                    exact ⟨_, rfl, fun _ => eventsTo_sendServerMessage (by simp)⟩
              | pong => exact delivered_of_eq h hperform
              | subscribe topics =>
                  refine delivered_perform_quiet h ?_ ?_ ?_
                  · rw [hperform]
                    exact .refl _
                  · rw [hperform]
                    rfl
                  · rw [hperform]
                    exact ⟨[], (List.append_nil _).symm, fun _ => rfl⟩
              | unsubscribe topics =>
                  refine delivered_perform_quiet h ?_ ?_ ?_
                  · rw [hperform]
                    exact quiet_handleUnsubscribe topics
                  · rw [hperform]
                    rfl
                  · rw [hperform]
                    exact ⟨_, rfl, eventsTo_handleUnsubscribe topics⟩
              | resume resumeToken =>
                  have hid : state.id = id := id_of_object hstate
                  rw [hperform]
                  refine delivered_handleResume h (hid ▸ hstate) hopen ?_
                  intro snapshot replayEvents hresumable hready
                  exact hfresh state resumeToken snapshot replayEvents hstate rfl hresumable hready

theorem delivered_service (h : Delivered transport) {operation : Operation}
    {service : RealtimeService}
    (hperform : perform options transport operation = { transport with service := service })
    (hquiet : Quiet transport.service service) :
    Delivered (perform options transport operation) := by
  refine delivered_perform_quiet h ?_ ?_ ?_
  · rw [hperform]
    exact hquiet
  · rw [hperform]
  · rw [hperform]
    exact ⟨[], (List.append_nil _).symm, fun _ => rfl⟩

theorem delivered_authorize (h : Delivered transport) (request : Nat) (answer : Bool) :
    Delivered (perform options transport (.authorize request answer)) := by
  cases hpending : Keyed.lookup PendingSubscribe.request request transport.pending with
  | none => exact delivered_of_eq h (by simp [perform, hpending])
  | some pending =>
      have hperform : perform options transport (.authorize request answer) =
          authorizeNext transport pending answer := by simp [perform, hpending]
      refine delivered_perform_quiet h ?_ ?_ ?_
      · rw [hperform]
        exact quiet_continueSubscribe pending answer
      · rw [hperform]
        rfl
      · rw [hperform]
        exact ⟨_, rfl, eventsTo_continueSubscribe pending answer⟩

/-- **What a step keeps.** -/
theorem delivered_step (h : Delivered transport) {call : Call}
    (hreaches : ReachesAll ⟨transport, call, step options transport call⟩)
    (hfresh : ResumesFresh ⟨transport, call, step options transport call⟩) :
    Delivered (step options transport call) := by
  obtain ⟨elapsed, operation⟩ := call
  unfold step
  have h' := delivered_clock h (transport.clock + elapsed)
  generalize hnow : { transport with clock := transport.clock + elapsed } = transport' at h'
  have hservice : transport'.service = transport.service := by rw [← hnow]
  have hsent : transport'.sent = transport.sent := by rw [← hnow]
  have hclock : transport'.clock = transport.clock + elapsed := by rw [← hnow]
  cases operation with
  | attach userId sessionId => exact delivered_attach h' userId sessionId
  | receive id raw =>
      refine delivered_receive h' ?_
      rintro state resumeToken snapshot replayEvents hstate rfl hresumable hready
      rw [hservice] at hstate hresumable
      rw [hclock] at hresumable
      rw [hsent]
      refine hfresh (state, snapshot) ?_
      simp only [succeeded, hstate, if_pos hready, hresumable]
      exact rfl
  | authorize request answer => exact delivered_authorize h' request answer
  | publish publication =>
      refine delivered_publish h' ?_
      rw [hservice]
      exact hreaches
  | forceClose id preserveResume =>
      cases hstate : transport'.service.object id with
      | none => exact delivered_of_eq h' (by simp [perform, hstate])
      | some state =>
          obtain rfl := id_of_object hstate
          have hperform : perform options transport' (.forceClose state.id preserveResume) =
              { transport' with
                service := forceCloseConnection options transport'.service state preserveResume
                  transport'.clock } := by simp only [perform, hstate]
          exact delivered_service h' hperform (quiet_forceClose hstate preserveResume)
  | socketClosing id =>
      cases hstate : transport'.service.object id with
      | none => exact delivered_of_eq h' (by simp [perform, hstate])
      | some state =>
          by_cases hready : state.readyState = .wsOpen
          · have hid : state.id = id := id_of_object hstate
            have hperform : perform options transport' (.socketClosing id) =
                { transport' with
                  service :=
                    transport'.service.setObject { state with readyState := .wsClosing } } := by
              simp only [perform, hstate, hready, if_true]
            have hbecomes : Becomes transport'.service.nextEventSequence state
                { state with readyState := .wsClosing } := ⟨.refl _ _, fun hclosed => hclosed⟩
            exact delivered_service h' hperform (quiet_setObject hstate hid hbecomes)
          · exact delivered_of_eq h' (by simp [perform, hstate, hready])
  | socketClosed id =>
      cases hstate : transport'.service.object id with
      | none => exact delivered_of_eq h' (by simp [perform, hstate])
      | some state =>
          obtain rfl := id_of_object hstate
          have hperform : perform options transport' (.socketClosed state.id) =
              { transport' with
                service := handleClose options transport'.service
                  { state with readyState := .wsClosed } transport'.clock } := by
            simp only [perform, hstate]
          exact delivered_service h' hperform (quiet_handleClose hstate rfl rfl)
  | cleanup => exact delivered_service h' rfl quiet_cleanup
  | shutDown => exact delivered_service h' rfl quiet_close

theorem succeeded_spec {e : Event Transport Call} {state : RealtimeConnectionState}
    {snapshot : RealtimeResumeSnapshot} (h : (state, snapshot) ∈ succeeded e) :
    ∃ resumeToken replayEvents,
      e.label.operation = .receive state.id (.ok (.resume resumeToken)) ∧
      e.before.service.object state.id = some state ∧ state.Ready ∧
      resumable e.before.service state resumeToken (e.before.clock + e.label.elapsed) =
        .ok (snapshot, replayEvents) := by
  unfold succeeded at h
  split at h
  · rename_i id resumeToken hoperation
    split at h
    · cases h
    · rename_i found hfound
      split at h
      · rename_i hready
        split at h
        · rename_i kept replayEvents hresumable
          obtain ⟨rfl, rfl⟩ := Prod.mk.inj (Option.some.inj h)
          obtain rfl := id_of_object hfound
          exact ⟨resumeToken, replayEvents, hoperation, hfound, hready, hresumable⟩
        · cases h
      · cases h
  · cases h

theorem exactlyOnce_step_iff (h : Delivered transport) (call : Call) :
    ExactlyOnce ⟨transport, call, step options transport call⟩ ↔
      ResumesFresh ⟨transport, call, step options transport call⟩ := by
  refine forall₂_congr fun resumed hresumed => ?_
  obtain ⟨state, snapshot⟩ := resumed
  obtain ⟨resumeToken, replayEvents, hoperation, hstate, hready, hresumable⟩ :=
    succeeded_spec hresumed
  obtain ⟨elapsed, operation⟩ := call
  dsimp only at hoperation hstate hresumable ⊢
  have h' := delivered_clock h (transport.clock + elapsed)
  have hperform : step options transport ⟨elapsed, operation⟩ =
      ({ transport with clock := transport.clock + elapsed } : Transport).served
        (handleResume transport.service state resumeToken (transport.clock + elapsed)) := by
    unfold step
    rw [hoperation]
    have hstate' : ({ transport with clock := transport.clock + elapsed } :
        Transport).service.object state.id = some state := hstate
    exact perform_receive hstate' hready.2 _
  rw [hperform]
  exact exactlyOnce_iff h' hstate hready hresumable

theorem delivered_start (clock : Int) : Delivered (Transport.start clock) where
  wellFormed := wellFormed_start clock
  buckets scope := by cases scope <;> exact List.nodup_nil
  positive := Nat.one_pos
  increasing := List.Pairwise.nil
  recent := by simp [Transport.start]
  named := by simp [Transport.start]
  buffered := List.suffix_rfl
  sent := by simp [Transport.start, eventsTo]
  unattached _ _ := rfl
  since := by simp [Transport.start, RealtimeService.object, Keyed.lookup]
  live := by simp [Transport.start, RealtimeService.object, Keyed.lookup]
  snapshots := by simp [Transport.start]

end Runs

section Example

instance (e : Event Transport Call) : Decidable (ReachesAll e) := by
  obtain ⟨_, ⟨_, operation⟩, _⟩ := e
  unfold ReachesAll
  cases operation <;> infer_instance

instance (e : Event Transport Call) : Decidable (ResumesFresh e) := by
  unfold ResumesFresh
  infer_instance

instance (e : Event Transport Call) : Decidable (ExactlyOnce e) := by
  unfold ExactlyOnce
  infer_instance

def notify : Call :=
  ⟨10, .publish ⟨.user 1, "wallet.updated", "27.00"⟩⟩

/-- The heartbeat of the connection times out, and an event is published before its close event. -/
def closingCalls : List Call :=
  [attachUser, ⟨35000, .forceClose 0 true⟩, notify, ⟨10, .socketClosed 0⟩, attachUser,
    ⟨10, .receive 1 (.ok (.resume 0))⟩]

/-- The event is published after the close, and the new connection has not been opened yet. -/
def resumingCalls : List Call :=
  [attachUser, subscribeTable, authorizeTable, notify, ⟨10, .socketClosed 0⟩, notify, attachUser,
    ⟨10, .receive 1 (.ok (.resume 0))⟩]

end Example

end RewardSystem.Realtime
