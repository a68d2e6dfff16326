import RewardSystem.Webhook.Integrity

/-!
# One effect for a key

An event is taken when a worker holds it as verified and is still to apply it, or has applied it. As
long as every write finds the row as it was read, and no lock is recovered from an event that is
taken, an event is taken at most once.
-/

namespace RewardSystem.Webhook

open Transition

/-- The worker holds the event as a verified one and has not applied it. -/
def Working (id : Nat) (entry : ClaimedEvent) : Prop :=
  entry.event.id = id ∧ entry.event.signatureStatus = .verified ∧
    entry.outcome ≠ some .processed

instance (id : Nat) : DecidablePred (Working id) := fun _ =>
  inferInstanceAs (Decidable (_ ∧ _ ∧ _))

def Applied (id : Nat) (call : OrderCall) : Prop :=
  call.event.id = id ∧ call.answer = .updated

instance (id : Nat) : DecidablePred (Applied id) := fun _ =>
  inferInstanceAs (Decidable (_ ∧ _))

def takers (state : QueueState) (id : Nat) : Nat :=
  state.claimed.countP (fun entry => Working id entry) +
    state.calls.countP fun call => Applied id call

/-- The event can be claimed, now or after another delivery, and then be applied. -/
def WebhookEvent.IsOpen (row : WebhookEvent) : Prop :=
  row.processingStatus = .pending ∨ row.processingStatus = .failed ∨
    row.signatureStatus ≠ .verified

structure TakenOnce (state : QueueState) : Prop where
  atMost : ∀ id, takers state id ≤ 1
  closed : ∀ row ∈ state.events, row.IsOpen → takers state row.id = 0

/-- A duplicate delivery finds its row with the statuses that it has read, and it is itself verified if
the row is. -/
def FindsAsRead (state : QueueState) (request : Nat) : Prop :=
  ∀ waiting ∈ state.duplicates request, ∀ existing ∈ waiting.existing, ∀ row ∈ state.events,
    row.id = existing.id →
      (row.signatureStatus = .verified → waiting.delivery.signatureStatus = .verified) ∧
        row.signatureStatus = existing.signatureStatus ∧
          row.processingStatus = existing.processingStatus

instance (state : QueueState) (request : Nat) : Decidable (FindsAsRead state request) :=
  inferInstanceAs (Decidable (∀ waiting ∈ state.duplicates request, ∀ existing ∈ waiting.existing,
    ∀ row ∈ state.events, row.id = existing.id → (_ → _) ∧ _ ∧ _))

/-- The locks that are recovered are of events that nobody has taken. -/
def RecoversUntaken (runtime : WebhookRuntime) (state : QueueState) (now : Int) : Prop :=
  ∀ row ∈ state.events, isStuck runtime now row = true →
    (∀ entry ∈ state.claimed, ¬Working row.id entry) ∧ ∀ call ∈ state.calls, ¬Applied row.id call

instance (runtime : WebhookRuntime) (state : QueueState) (now : Int) :
    Decidable (RecoversUntaken runtime state now) :=
  inferInstanceAs (Decidable (∀ row ∈ state.events, isStuck runtime now row = true →
    (∀ entry ∈ state.claimed, ¬_) ∧ ∀ call ∈ state.calls, ¬_))

def Careful (runtime : WebhookRuntime) (event : Event QueueState QueueOperation) : Prop :=
  match event.label with
  | .update request _ => FindsAsRead event.before request
  | .recover now => RecoversUntaken runtime event.before now
  | _ => True

instance (runtime : WebhookRuntime) : DecidablePred (Careful runtime)
  | ⟨state, .update request _, _⟩ => inferInstanceAs (Decidable (FindsAsRead state request))
  | ⟨state, .recover now, _⟩ => inferInstanceAs (Decidable (RecoversUntaken runtime state now))
  | ⟨_, .insert .., _⟩ | ⟨_, .select _, _⟩ | ⟨_, .claim .., _⟩ | ⟨_, .consume .., _⟩
  | ⟨_, .finalize _, _⟩ | ⟨_, .stop _, _⟩ => isTrue trivial

section Takers

variable {runtime : WebhookRuntime} {state next : QueueState} {id : Nat}

theorem takers_eq_zero : takers state id = 0 ↔
    (∀ entry ∈ state.claimed, ¬Working id entry) ∧ ∀ call ∈ state.calls, ¬Applied id call := by
  simp [takers, List.countP_eq_zero]

theorem takers_fresh (h : Sound runtime state) (hfresh : ∀ row ∈ state.events, row.id ≠ id) :
    takers state id = 0 := by
  refine takers_eq_zero.mpr ⟨?_, ?_⟩
  · intro entry hentry hworking
    obtain ⟨row, hrow, hid, -⟩ := (h.claimed entry hentry).1
    exact hfresh row hrow (hid.trans hworking.1)
  · intro call hcall happlied
    obtain ⟨row, hrow, hid, -⟩ := (h.calls call hcall).1
    exact hfresh row hrow (hid.trans happlied.1)

theorem Sound.id_le (h : Sound runtime state) {row : WebhookEvent} (hrow : row ∈ state.events) :
    row.id ≤ state.events.length := by
  have hmem := List.mem_map_of_mem (f := WebhookEvent.id) hrow
  rw [h.serial, List.mem_range'_1] at hmem
  omega

theorem TakenOnce.of_le (h : TakenOnce state) (htakers : ∀ id, takers next id ≤ takers state id)
    (hclosed : ∀ row ∈ next.events, row.IsOpen → takers next row.id = 0) : TakenOnce next :=
  ⟨fun id => (htakers id).trans (h.atMost id), hclosed⟩

theorem TakenOnce.insert (h : TakenOnce state) (hsound : Sound runtime state) (request : Nat)
    (delivery : WebhookDelivery) (now : Int) :
    TakenOnce (insertDelivery runtime state request delivery now) := by
  unfold insertDelivery
  split
  · refine h.of_le (fun _ => le_rfl) ?_
    intro row hrow hopen
    rcases List.mem_append.mp hrow with hrow | hrow
    · exact h.closed row hrow hopen
    · obtain rfl := List.mem_singleton.mp hrow
      have hfresh : takers state (state.events.length + 1) = 0 := by
        refine takers_fresh hsound fun row hrow hid => ?_
        have hle := hsound.id_le hrow
        omega
      exact hfresh
  · exact ⟨h.atMost, h.closed⟩

theorem TakenOnce.select (h : TakenOnce state) (request : Nat) :
    TakenOnce (selectExistingEvent runtime state request) := by
  unfold selectExistingEvent
  split
  · exact ⟨h.atMost, h.closed⟩
  · exact h

theorem TakenOnce.update (h : TakenOnce state) (request : Nat) (now : Int)
    (hcareful : Careful runtime ⟨state, .update request now, next⟩) :
    TakenOnce (updateExistingEvent runtime state request now) := by
  unfold updateExistingEvent
  split
  · rename_i delivery existing hwaiting
    refine h.of_le (fun _ => le_rfl) ?_
    intro row' hrow' hopen
    rcases Keyed.mem_modify.mp hrow' with ⟨hrow, -⟩ | ⟨row, hrow, hid, rfl⟩
    · exact h.closed row' hrow hopen
    · obtain ⟨hverified, hsignature, hstatus⟩ :=
        hcareful _ hwaiting existing rfl row hrow hid
      refine h.closed row hrow ?_
      by_cases hrequeue : shouldRequeue existing delivery = true
      · -- the row was failed or not verified
        simp only [shouldRequeue, decide_eq_true_eq] at hrequeue
        rw [← hsignature, ← hstatus] at hrequeue
        exact .inr (hrequeue.imp_right And.left)
      · simp only [WebhookEvent.IsOpen, updateRow, if_neg hrequeue] at hopen
        rw [← hstatus] at hopen
        exact hopen.imp_right fun hrest => hrest.imp_right fun hne hrow => hne (hverified hrow)
  · exact h

theorem takers_append (events : List WebhookEvent) (more : List ClaimedEvent) (id : Nat) :
    takers { state with events := events, claimed := state.claimed ++ more } id =
      takers state id + more.countP fun entry => Working id entry := by
  unfold takers
  rw [List.countP_append, Nat.add_right_comm]

theorem nodup_dueEvents (hsound : Sound runtime state) (limit : Nat) (locked : List Nat) :
    ((dueEvents state.events limit locked).map WebhookEvent.id).Nodup := by
  have hpending : ((state.events.filter fun row => decide (row.processingStatus = .pending ∧
      row.id ∉ locked)).map WebhookEvent.id).Nodup :=
    hsound.ids.sublist (List.filter_sublist.map WebhookEvent.id)
  have hsorted := ((List.perm_insertionSort (fun row row' : WebhookEvent =>
    row.lastReceivedAt < row'.lastReceivedAt ∨
      (row.lastReceivedAt = row'.lastReceivedAt ∧ row.id ≤ row'.id)) _).map
        WebhookEvent.id).nodup_iff.mpr hpending
  exact hsorted.sublist ((List.take_sublist limit _).map WebhookEvent.id)

theorem claims_le_one (worker : Nat) (now : Int) {due : List WebhookEvent}
    (hnodup : (due.map WebhookEvent.id).Nodup) :
    (due.map (claimEvent worker now)).countP (fun entry => Working id entry) ≤ 1 :=
  calc (due.map (claimEvent worker now)).countP (fun entry => Working id entry)
      = due.countP fun row => Working id (claimEvent worker now row) := by
        rw [List.countP_map]
        rfl
    _ ≤ due.countP fun row => row.id == id := by
        apply List.countP_mono_left
        intro row _ hworking
        exact beq_iff_eq.mpr (of_decide_eq_true hworking).1
    _ = (due.map WebhookEvent.id).count id := by
        rw [List.count, List.countP_map]
        rfl
    _ ≤ 1 := List.nodup_iff_count_le_one.mp hnodup id

theorem claims_eq_zero (worker : Nat) (now : Int) {due : List WebhookEvent}
    (hrows : ∀ row ∈ due, row.id = id → row.signatureStatus ≠ .verified) :
    (due.map (claimEvent worker now)).countP (fun entry => Working id entry) = 0 := by
  rw [List.countP_eq_zero]
  intro entry hentry hworking
  obtain ⟨row, hrow, rfl⟩ := List.mem_map.mp hentry
  obtain ⟨hid, hverified, -⟩ := of_decide_eq_true hworking
  exact hrows row hrow hid hverified

theorem TakenOnce.claim (h : TakenOnce state) (hsound : Sound runtime state)
    (worker limit : Nat) (locked : List Nat) (now : Int) :
    TakenOnce (claimPendingPaymentWebhookEvents state worker limit locked now) := by
  unfold claimPendingPaymentWebhookEvents
  split
  · exact h
  dsimp only
  constructor
  · intro id
    rw [takers_append]
    by_cases hmem : ∃ row ∈ dueEvents state.events limit locked, row.id = id
    · obtain ⟨row, hrow, rfl⟩ := hmem
      obtain ⟨hevent, hpending⟩ := mem_dueEvents hrow
      have hfree := h.closed row hevent (.inl hpending)
      have hle := @claims_le_one row.id worker now _ (nodup_dueEvents hsound limit locked)
      omega
    · have hzero := @claims_eq_zero id worker now _ fun row hrow hid => (hmem ⟨row, hrow, hid⟩).elim
      have hle := h.atMost id
      omega
  · intro row' hrow' hopen
    rw [takers_append]
    obtain ⟨row, hrow, rfl⟩ := List.mem_map.mp hrow'
    by_cases hclaimed : row.id ∈ (dueEvents state.events limit locked).map WebhookEvent.id
    · rw [if_pos hclaimed] at hopen ⊢
      -- it is open although it is being processed, and so the worker will ignore it
      have hunverified : row.signatureStatus ≠ .verified := by
        simpa [WebhookEvent.IsOpen, claimRow] using hopen
      have hfree := h.closed row hrow (.inr (.inr hunverified))
      have hzero := @claims_eq_zero row.id worker now (dueEvents state.events limit locked)
        fun other hother hid => by
          rw [hsound.eq_of_id (mem_dueEvents hother).1 hrow hid]
          exact hunverified
      exact Nat.add_eq_zero_iff.mpr ⟨hfree, hzero⟩
    · rw [if_neg hclaimed] at hopen ⊢
      have hfree := h.closed row hrow hopen
      have hzero := @claims_eq_zero row.id worker now (dueEvents state.events limit locked)
        fun other hother hid => (hclaimed (hid ▸ List.mem_map_of_mem hother)).elim
      exact Nat.add_eq_zero_iff.mpr ⟨hfree, hzero⟩

theorem takers_consume (worker : Nat) (answer : OrderAnswer) (id : Nat) :
    takers (consumeNext runtime state worker answer) id = takers state id := by
  unfold consumeNext
  split
  · rename_i before worker' event after hcurrent
    obtain ⟨hclaimed, -⟩ := currentOf_eq hcurrent
    obtain ⟨⟨status, call⟩, hconsumed⟩ : ∃ result, consumePaymentWebhookEvent runtime event answer =
        result := ⟨_, rfl⟩
    rw [hconsumed]
    unfold takers
    simp only [hclaimed, List.countP_append, List.countP_cons]
    rcases consume_cases hconsumed with ⟨hunverified, rfl, rfl⟩ | ⟨-, hstatus, rfl⟩ |
      ⟨hverified, rfl, call', rfl, hevent, hanswer, -⟩
    · simp [Working, hunverified]
    · rcases hstatus with rfl | rfl <;> simp [Working]
    · -- the call takes the place of the worker
      cases answer <;> by_cases hid : event.id = id <;>
        simp [Working, Applied, hevent, hanswer, hverified, hid, OrderAnswer.status]
      omega
  · rfl

theorem TakenOnce.consume (h : TakenOnce state) (worker : Nat) (answer : OrderAnswer) :
    TakenOnce (consumeNext runtime state worker answer) := by
  have hevents : (consumeNext runtime state worker answer).events = state.events := by
    unfold consumeNext
    split <;> rfl
  constructor
  · intro id
    rw [takers_consume]
    exact h.atMost id
  · intro row hrow hopen
    rw [takers_consume]
    exact h.closed row (hevents ▸ hrow) hopen

theorem TakenOnce.finalize (h : TakenOnce state) (hsound : Sound runtime state) (worker : Nat) :
    TakenOnce (finalizePaymentWebhookEvent state worker) := by
  unfold finalizePaymentWebhookEvent
  split
  · rename_i before worker' event status after hcurrent
    obtain ⟨hclaimed, -⟩ := currentOf_eq hcurrent
    have htakers (id : Nat) (events : List WebhookEvent) :
        takers { state with events := events, claimed := before ++ after } id +
          (if Working id ⟨worker', event, some status⟩ then 1 else 0) = takers state id := by
      unfold takers
      simp only [hclaimed, List.countP_append, List.countP_cons, decide_eq_true_eq]
      omega
    refine h.of_le (fun id => ?_) ?_
    · have hsum := htakers id (Keyed.modify WebhookEvent.id event.id (finalizeRow status) state.events)
      omega
    · intro row' hrow' hopen
      have hsum := htakers row'.id
        (Keyed.modify WebhookEvent.id event.id (finalizeRow status) state.events)
      rcases Keyed.mem_modify.mp hrow' with ⟨hrow, -⟩ | ⟨row, hrow, hid, rfl⟩
      · have hfree := h.closed row' hrow hopen
        omega
      · by_cases hunverified : row.signatureStatus ≠ .verified
        · have hfree : takers state (finalizeRow status row).id = 0 :=
            h.closed row hrow (.inr (.inr hunverified))
          omega
        · -- an event that failed was held by the worker, and by nobody else
          have hfailed : status = .failed := by
            cases status <;> simp_all [WebhookEvent.IsOpen, finalizeRow, FinalStatus.status]
          subst hfailed
          have hverified := (hsound.claimed ⟨worker', event, some .failed⟩
            (by simp [hclaimed])).2.2 rfl
          have hworking : Working (finalizeRow .failed row).id ⟨worker', event, some .failed⟩ :=
            ⟨hid.symm, hverified, by simp⟩
          have hle := h.atMost (finalizeRow .failed row).id
          rw [if_pos hworking] at hsum
          omega
  · exact h

theorem TakenOnce.stop (h : TakenOnce state) (worker : Nat) :
    TakenOnce (stopWorker state worker) := by
  have hle (id : Nat) : takers (stopWorker state worker) id ≤ takers state id :=
    Nat.add_le_add_right (List.filter_sublist.countP_le) _
  refine h.of_le hle fun row hrow hopen => ?_
  have hfree := h.closed row hrow hopen
  have hrest := hle row.id
  omega

theorem TakenOnce.recover (h : TakenOnce state) (now : Int)
    (hcareful : Careful runtime ⟨state, .recover now, next⟩) :
    TakenOnce (recoverStuckPaymentWebhookEvents runtime state now) := by
  refine h.of_le (fun _ => le_rfl) ?_
  intro row' hrow' hopen
  obtain ⟨row, hrow, rfl⟩ := List.mem_map.mp hrow'
  by_cases hstuck : isStuck runtime now row = true
  · rw [if_pos hstuck]
    exact takers_eq_zero.mpr (hcareful row hrow hstuck)
  · rw [if_neg hstuck] at hopen ⊢
    exact h.closed row hrow hopen

theorem TakenOnce.step (h : TakenOnce state) (hsound : Sound runtime state) (op : QueueOperation)
    (hcareful : Careful runtime ⟨state, op, next⟩) : TakenOnce (queueStep runtime state op) := by
  cases op with
  | insert request delivery now => exact h.insert hsound request delivery now
  | select request => exact h.select request
  | update request now => exact h.update request now hcareful
  | claim worker limit locked now => exact h.claim hsound worker limit locked now
  | consume worker answer => exact h.consume worker answer
  | finalize worker => exact h.finalize hsound worker
  | stop worker => exact h.stop worker
  | recover now => exact h.recover now hcareful

end Takers

/-! ## The runs of the queue -/

/-- The step writes a delivery that is not verified. -/
def WritesUnverified (event : Event QueueState QueueOperation) : Prop :=
  match event.label with
  | .insert _ delivery _ => delivery.signatureStatus ≠ .verified
  | .update request _ =>
      ∃ delivery existing, event.before.duplicates request = some ⟨delivery, some existing⟩ ∧
        delivery.signatureStatus ≠ .verified
  | _ => False

/-- An unverified delivery leaves the events alone that are recorded as verified. -/
def ProtectsVerified (event : Event QueueState QueueOperation) : Prop :=
  WritesUnverified event → ∀ row ∈ event.before.events, row.signatureStatus = .verified →
    ∃ row' ∈ event.after.events, row'.id = row.id ∧
      row'.signatureStatus = row.signatureStatus ∧ row'.payloadRaw = row.payloadRaw ∧
        row'.payloadJson = row.payloadJson

/-- The event of a duplicate delivery is recorded as verified, and the delivery is not. -/
def OverwritesVerified (event : Event QueueState QueueOperation) : Prop :=
  match event.label with
  | .update request _ =>
      ∃ delivery existing, event.before.duplicates request = some ⟨delivery, some existing⟩ ∧
        delivery.signatureStatus ≠ .verified ∧
          ∃ row ∈ event.before.events, row.id = existing.id ∧ row.signatureStatus = .verified
  | _ => False

def AppliedOnce (state : QueueState) : Prop :=
  ∀ key, (state.calls.countP fun call =>
    decide (call.event.key = key ∧ call.answer = .updated)) ≤ 1

section Runs

variable {runtime : WebhookRuntime} {state next : QueueState} {op : QueueOperation}

theorem mem_insertDelivery {request : Nat} {delivery : WebhookDelivery} {now : Int}
    {row : WebhookEvent} (hrow : row ∈ state.events) :
    row ∈ (insertDelivery runtime state request delivery now).events := by
  unfold insertDelivery
  split
  · exact List.mem_append_left _ hrow
  · exact hrow

/-- **A duplicate delivery writes its signature status, whatever it is.** -/
theorem protectsVerified_iff (hstep : Takes (queueStep runtime) state op next) :
    ProtectsVerified ⟨state, op, next⟩ ↔ ¬OverwritesVerified ⟨state, op, next⟩ := by
  obtain rfl := hstep
  cases op with
  | insert request delivery now =>
      exact iff_of_true
        (fun _ row hrow _ => ⟨row, mem_insertDelivery hrow, rfl, rfl, rfl, rfl⟩) id
  | update request now =>
      constructor
      · rintro hprotects ⟨delivery, existing, hwaiting, hunverified, row, hrow, hid, hverified⟩
        obtain ⟨row', hrow', hid', hsignature, -⟩ :=
          hprotects ⟨delivery, existing, hwaiting, hunverified⟩ row hrow hverified
        change row' ∈ (updateExistingEvent runtime state request now).events at hrow'
        unfold updateExistingEvent at hrow'
        rw [hwaiting] at hrow'
        rcases Keyed.mem_modify.mp hrow' with ⟨-, hne⟩ | ⟨row'', -, -, rfl⟩
        · exact hne (hid'.trans hid)
        · exact hunverified (hsignature.trans hverified)
      · rintro hleaves ⟨delivery, existing, hwaiting, hunverified⟩ row hrow hverified
        refine ⟨row, ?_, rfl, rfl, rfl, rfl⟩
        change row ∈ (updateExistingEvent runtime state request now).events
        unfold updateExistingEvent
        rw [hwaiting]
        refine Keyed.mem_modify.mpr (.inl ⟨hrow, fun hid => hleaves ?_⟩)
        exact ⟨delivery, existing, hwaiting, hunverified, row, hrow, hid, hverified⟩
  | _ => exact iff_of_true (fun hwrites => hwrites.elim) id

theorem not_overwritesVerified_of_careful {event : Event QueueState QueueOperation}
    (h : Careful runtime event) : ¬OverwritesVerified event := by
  obtain ⟨before, op, after⟩ := event
  cases op with
  | update request now =>
      rintro ⟨delivery, existing, hwaiting, hunverified, row, hrow, hid, hverified⟩
      exact hunverified ((h _ hwaiting existing rfl row hrow hid).1 hverified)
  | _ => exact id

theorem appliedOnce_of_takenOnce (hsound : Sound runtime state) (h : TakenOnce state) :
    AppliedOnce state := by
  intro key
  by_cases hcall : ∃ call ∈ state.calls, call.event.key = key
  · obtain ⟨call, hmem, rfl⟩ := hcall
    obtain ⟨row, hrow, hid, hkey⟩ := (hsound.calls call hmem).1
    calc state.calls.countP (fun other =>
            decide (other.event.key = call.event.key ∧ other.answer = .updated))
        ≤ state.calls.countP fun other => Applied call.event.id other := by
          apply List.countP_mono_left
          intro other hother hsame
          obtain ⟨hkey', hupdated⟩ := of_decide_eq_true hsame
          obtain ⟨row', hrow', hid', hkey''⟩ := (hsound.calls other hother).1
          have hrows : row' = row := List.inj_on_of_nodup_map hsound.keys hrow' hrow
            (hkey''.trans (hkey'.trans hkey.symm))
          exact decide_eq_true ⟨hid'.symm.trans (hrows ▸ hid), hupdated⟩
      _ ≤ takers state call.event.id := Nat.le_add_left ..
      _ ≤ 1 := h.atMost call.event.id
  · have hzero : (state.calls.countP fun call =>
        decide (call.event.key = key ∧ call.answer = .updated)) = 0 := by
      rw [List.countP_eq_zero]
      exact fun call hmem hsame => hcall ⟨call, hmem, (of_decide_eq_true hsame).1⟩
    omega

variable {events : List (Event QueueState QueueOperation)}

/-- **A worker applies only what a verified delivery has brought**, in every run. -/
theorem sound_of_run (hrun : Run (Takes (queueStep runtime)) .empty events state) :
    Sound runtime state :=
  hrun.invariant (fun u op v hsound (hstep : queueStep runtime u op = v) =>
    hstep ▸ hsound.step op) sound_empty

theorem takenOnce_empty : TakenOnce .empty :=
  ⟨fun _ => Nat.zero_le _, nofun⟩

end Runs

section Example

def exampleRuntime : WebhookRuntime :=
  { sha256 := id, parseJson := fun _ => .null, lockTimeoutMs := 60000 }

def genuineDelivery : WebhookDelivery :=
  { provider := "stripe", eventId := none, signatureStatus := .verified, payloadRaw := "genuine"
    payloadJson := depositSucceededPayload }

def forgedDelivery : WebhookDelivery :=
  { genuineDelivery with signatureStatus := .failed, payloadRaw := "forged" }

def forgedRun : List QueueOperation :=
  [.insert 0 genuineDelivery 0, .insert 1 forgedDelivery 10, .select 1, .update 1 20]

/-- The same event is delivered twice and processed once. -/
def genuineRun : List QueueOperation :=
  [.insert 0 genuineDelivery 0, .insert 1 genuineDelivery 10, .select 1, .update 1 20,
    .claim 7 20 [] 30, .consume 7 .updated, .finalize 7, .recover 90000]

theorem sound_forged : Sound exampleRuntime (forgedRun.foldl (queueStep exampleRuntime) .empty) :=
  sound_of_run (Run.of_visits (queueStep exampleRuntime) .empty forgedRun)

end Example

end RewardSystem.Webhook
