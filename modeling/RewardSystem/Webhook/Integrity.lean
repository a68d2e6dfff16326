import RewardSystem.Lib.Runs
import RewardSystem.Webhook.Queue

/-!
# What the queue is safe against

The signature status and the payload of a row are always written together, so that a worker never
applies a payload under the status of another one. A duplicate delivery however writes whatever the
signature is, and from what it has read before; and a lock is taken from a worker that may go on.
-/

namespace RewardSystem.Webhook

open Transition

/-- The event is still in the table, under the same key. -/
def Known (events : List WebhookEvent) (event : WebhookEvent) : Prop :=
  ∃ row ∈ events, row.id = event.id ∧ row.key = event.key

/-- The signature status and the payload of the event come from one delivery of its key. -/
def Backed (runtime : WebhookRuntime) (received : List WebhookDelivery) (event : WebhookEvent) :
    Prop :=
  ∃ delivery ∈ received, delivery.key runtime = event.key ∧
    event.signatureStatus = delivery.signatureStatus ∧ event.payloadRaw = delivery.payloadRaw ∧
      event.payloadJson = delivery.payloadJson

/-- The payload of the call is that of a verified delivery of its key. -/
def FromVerified (runtime : WebhookRuntime) (received : List WebhookDelivery) (call : OrderCall) :
    Prop :=
  ∃ delivery ∈ received, delivery.signatureStatus = .verified ∧
    delivery.key runtime = call.event.key ∧
      call.payloadJson = parsedPayload runtime delivery.payloadJson delivery.payloadRaw

/-- An update that leaves the key, the signature status and the payload of each row alone. -/
def KeepsContent (f : WebhookEvent → WebhookEvent) : Prop :=
  ∀ row, (f row).id = row.id ∧ (f row).key = row.key ∧
    (f row).signatureStatus = row.signatureStatus ∧ (f row).payloadRaw = row.payloadRaw ∧
      (f row).payloadJson = row.payloadJson

/-- What holds in the queue whatever happens. -/
structure Sound (runtime : WebhookRuntime) (state : QueueState) : Prop where
  serial : state.events.map WebhookEvent.id = List.range' 1 state.events.length
  keys : Keyed.HasKeys WebhookEvent.key state.events
  backed : ∀ row ∈ state.events, Backed runtime state.received row
  waiting : ∀ request delivery existing,
    state.duplicates request = some ⟨delivery, existing⟩ → delivery ∈ state.received ∧
      ∀ row, existing = some row → Known state.events row ∧ row.key = delivery.key runtime
  claimed : ∀ entry ∈ state.claimed, Known state.events entry.event ∧
    Backed runtime state.received entry.event ∧
      (entry.outcome = some .failed → entry.event.signatureStatus = .verified)
  calls : ∀ call ∈ state.calls, Known state.events call.event ∧
    FromVerified runtime state.received call

section Tables

variable {runtime : WebhookRuntime} {state : QueueState} {events : List WebhookEvent}
  {row row' event : WebhookEvent} {f : WebhookEvent → WebhookEvent}

theorem Known.map (h : Known events event)
    (hf : ∀ row ∈ events, (f row).id = row.id ∧ (f row).key = row.key) :
    Known (events.map f) event := by
  obtain ⟨row, hrow, hid, hkey⟩ := h
  exact ⟨f row, List.mem_map_of_mem hrow, (hf row hrow).1.trans hid, (hf row hrow).2.trans hkey⟩

theorem Known.append (h : Known events event) (row : WebhookEvent) :
    Known (events ++ [row]) event := by
  obtain ⟨row', hrow', hid, hkey⟩ := h
  exact ⟨row', List.mem_append_left _ hrow', hid, hkey⟩

theorem known_of_mem (h : row ∈ events) : Known events row :=
  ⟨row, h, rfl, rfl⟩

theorem Backed.mono {received : List WebhookDelivery} (h : Backed runtime received event)
    (delivery : WebhookDelivery) : Backed runtime (received ++ [delivery]) event := by
  obtain ⟨delivery', hmem, hrest⟩ := h
  exact ⟨delivery', List.mem_append_left _ hmem, hrest⟩

theorem FromVerified.mono {received : List WebhookDelivery} {call : OrderCall}
    (h : FromVerified runtime received call) (delivery : WebhookDelivery) :
    FromVerified runtime (received ++ [delivery]) call := by
  obtain ⟨delivery', hmem, hrest⟩ := h
  exact ⟨delivery', List.mem_append_left _ hmem, hrest⟩

theorem Backed.of_content {received : List WebhookDelivery} (hf : KeepsContent f)
    (h : Backed runtime received row) : Backed runtime received (f row) := by
  obtain ⟨delivery, hmem, hkey, hsignature, hraw, hjson⟩ := h
  obtain ⟨-, hkey', hsignature', hraw', hjson'⟩ := hf row
  exact ⟨delivery, hmem, hkey.trans hkey'.symm, hsignature'.trans hsignature, hraw'.trans hraw,
    hjson'.trans hjson⟩

theorem Sound.ids (h : Sound runtime state) : Keyed.HasKeys WebhookEvent.id state.events := by
  unfold Keyed.HasKeys
  rw [h.serial]
  exact List.nodup_range'

theorem Sound.eq_of_id (h : Sound runtime state) (hrow : row ∈ state.events)
    (hrow' : row' ∈ state.events) (hid : row.id = row'.id) : row = row' :=
  List.inj_on_of_nodup_map h.ids hrow hrow' hid

theorem Sound.key_of_known (h : Sound runtime state) (hknown : Known state.events event)
    (hrow : row ∈ state.events) (hid : row.id = event.id) : row.key = event.key := by
  obtain ⟨row', hrow', hid', hkey'⟩ := hknown
  rw [h.eq_of_id hrow hrow' (hid.trans hid'.symm)]
  exact hkey'

theorem Sound.map_events (h : Sound runtime state)
    (hf : ∀ row ∈ state.events, (f row).id = row.id ∧ (f row).key = row.key)
    (hbacked : ∀ row ∈ state.events, Backed runtime state.received (f row)) :
    Sound runtime { state with events := state.events.map f } where
  serial := by
    rw [List.length_map, ← h.serial, List.map_map]
    exact List.map_congr_left fun row hrow => (hf row hrow).1
  keys := by
    have hsame : (state.events.map f).map WebhookEvent.key = state.events.map WebhookEvent.key := by
      rw [List.map_map]
      exact List.map_congr_left fun row hrow => (hf row hrow).2
    unfold Keyed.HasKeys
    rw [hsame]
    exact h.keys
  backed row hrow := by
    obtain ⟨row', hrow', rfl⟩ := List.mem_map.mp hrow
    exact hbacked row' hrow'
  waiting request delivery existing hwaiting := by
    obtain ⟨hmem, hexisting⟩ := h.waiting request delivery existing hwaiting
    exact ⟨hmem, fun row hrow => ⟨(hexisting row hrow).1.map hf, (hexisting row hrow).2⟩⟩
  claimed entry hentry := by
    obtain ⟨hknown, hrest⟩ := h.claimed entry hentry
    exact ⟨hknown.map hf, hrest⟩
  calls call hcall := by
    obtain ⟨hknown, hrest⟩ := h.calls call hcall
    exact ⟨hknown.map hf, hrest⟩

theorem Sound.keep_content (h : Sound runtime state) (hf : KeepsContent f) :
    Sound runtime { state with events := state.events.map f } :=
  h.map_events (fun row _ => ⟨(hf row).1, (hf row).2.1⟩)
    fun row hrow => (h.backed row hrow).of_content hf

theorem KeepsContent.ite (hf : KeepsContent f) (p : WebhookEvent → Prop) [DecidablePred p] :
    KeepsContent fun row => if p row then f row else row := by
  intro row
  by_cases hp : p row
  · simpa only [if_pos hp] using hf row
  · simp only [if_neg hp, and_self]

end Tables

section Steps

variable {runtime : WebhookRuntime} {state : QueueState}

theorem keepsContent_claimRow (now : Int) : KeepsContent (claimRow now) := fun _ =>
  ⟨rfl, rfl, rfl, rfl, rfl⟩

theorem keepsContent_finalizeRow (status : FinalStatus) : KeepsContent (finalizeRow status) :=
  fun _ => ⟨rfl, rfl, rfl, rfl, rfl⟩

theorem keepsContent_recoverRow : KeepsContent recoverRow := fun _ => ⟨rfl, rfl, rfl, rfl, rfl⟩

theorem Sound.receive (h : Sound runtime state) (delivery : WebhookDelivery) :
    Sound runtime { state with received := state.received ++ [delivery] } where
  serial := h.serial
  keys := h.keys
  backed row hrow := (h.backed row hrow).mono delivery
  waiting request delivery' existing hwaiting := by
    obtain ⟨hmem, hexisting⟩ := h.waiting request delivery' existing hwaiting
    exact ⟨List.mem_append_left _ hmem, hexisting⟩
  claimed entry hentry := by
    obtain ⟨hknown, hbacked, hfailed⟩ := h.claimed entry hentry
    exact ⟨hknown, hbacked.mono delivery, hfailed⟩
  calls call hcall := by
    obtain ⟨hknown, hverified⟩ := h.calls call hcall
    exact ⟨hknown, hverified.mono delivery⟩

theorem Sound.append_event (h : Sound runtime state) {row : WebhookEvent}
    (hid : row.id = state.events.length + 1)
    (hnew : Keyed.lookup WebhookEvent.key row.key state.events = none)
    (hbacked : Backed runtime state.received row) :
    Sound runtime { state with events := state.events ++ [row] } where
  serial := by
    rw [List.map_append, h.serial, List.length_append, List.length_singleton, List.range'_concat]
    simp [hid, Nat.add_comm]
  keys := Keyed.hasKeys_append h.keys hnew
  backed row' hrow' := by
    rcases List.mem_append.mp hrow' with hrow' | hrow'
    · exact h.backed row' hrow'
    · obtain rfl := List.mem_singleton.mp hrow'
      exact hbacked
  waiting request delivery existing hwaiting := by
    obtain ⟨hmem, hexisting⟩ := h.waiting request delivery existing hwaiting
    exact ⟨hmem, fun row' hrow' =>
      ⟨(hexisting row' hrow').1.append row, (hexisting row' hrow').2⟩⟩
  claimed entry hentry := by
    obtain ⟨hknown, hrest⟩ := h.claimed entry hentry
    exact ⟨hknown.append row, hrest⟩
  calls call hcall := by
    obtain ⟨hknown, hrest⟩ := h.calls call hcall
    exact ⟨hknown.append row, hrest⟩

theorem Sound.set_duplicate (h : Sound runtime state) (request : Nat)
    (duplicate : Option DuplicateDelivery)
    (hduplicate : ∀ delivery existing, duplicate = some ⟨delivery, existing⟩ →
      delivery ∈ state.received ∧
        ∀ row, existing = some row → Known state.events row ∧ row.key = delivery.key runtime) :
    Sound runtime
      { state with duplicates := Function.update state.duplicates request duplicate } where
  serial := h.serial
  keys := h.keys
  backed := h.backed
  waiting request' delivery existing hwaiting := by
    dsimp only at hwaiting
    by_cases hrequest : request' = request
    · rw [hrequest, Function.update_self] at hwaiting
      exact hduplicate delivery existing hwaiting
    · rw [Function.update_of_ne hrequest] at hwaiting
      exact h.waiting request' delivery existing hwaiting
  claimed := h.claimed
  calls := h.calls

theorem Sound.insert (h : Sound runtime state) (request : Nat) (delivery : WebhookDelivery)
    (now : Int) : Sound runtime (insertDelivery runtime state request delivery now) := by
  have hreceived := h.receive delivery
  unfold insertDelivery
  split
  · rename_i hnew
    have hid : (insertRow runtime delivery (state.events.length + 1) now).id =
        state.events.length + 1 := rfl
    exact hreceived.append_event hid hnew ⟨delivery, by simp, rfl, rfl, rfl, rfl⟩
  · refine hreceived.set_duplicate request (some ⟨delivery, none⟩) ?_
    intro delivery' existing hexisting
    cases hexisting
    exact ⟨by simp, nofun⟩

theorem Sound.select (h : Sound runtime state) (request : Nat) :
    Sound runtime (selectExistingEvent runtime state request) := by
  unfold selectExistingEvent
  split
  · rename_i delivery hwaiting
    refine h.set_duplicate request _ ?_
    intro delivery' existing hexisting
    obtain ⟨row, hlookup, heq⟩ := Option.map_eq_some_iff.mp hexisting
    cases heq
    refine ⟨(h.waiting request delivery none hwaiting).1, ?_⟩
    intro row' hrow'
    cases hrow'
    exact ⟨known_of_mem (Keyed.mem_of_lookup hlookup), Keyed.key_of_lookup hlookup⟩
  · exact h

theorem Sound.update (h : Sound runtime state) (request : Nat) (now : Int) :
    Sound runtime (updateExistingEvent runtime state request now) := by
  unfold updateExistingEvent
  split
  · rename_i delivery existing hwaiting
    obtain ⟨hmem, hexisting⟩ := h.waiting request delivery (some existing) hwaiting
    obtain ⟨hknown, hkey⟩ := hexisting existing rfl
    have hrow : ∀ row ∈ state.events, row.id = existing.id →
        (updateRow runtime delivery existing now row).key = row.key := by
      intro row hrow hid
      have hsame := (h.key_of_known hknown hrow hid).trans hkey
      unfold WebhookEvent.key updateRow
      rw [WebhookEvent.key, WebhookDelivery.key, Prod.mk.injEq] at hsame
      rw [hsame.2]
    refine Sound.set_duplicate (h.map_events ?_ ?_) request none nofun
    · intro row hmemRow
      by_cases hid : row.id = existing.id
      · rw [if_pos hid]
        exact ⟨rfl, hrow row hmemRow hid⟩
      · rw [if_neg hid]
        exact ⟨rfl, rfl⟩
    · intro row hmemRow
      by_cases hid : row.id = existing.id
      · rw [if_pos hid]
        refine ⟨delivery, hmem, ?_, rfl, rfl, rfl⟩
        rw [hrow row hmemRow hid]
        exact ((h.key_of_known hknown hmemRow hid).trans hkey).symm
      · rw [if_neg hid]
        exact h.backed row hmemRow
  · exact h

theorem Sound.set_claimed (h : Sound runtime state) {claimed : List ClaimedEvent}
    (hclaimed : ∀ entry ∈ claimed, Known state.events entry.event ∧
      Backed runtime state.received entry.event ∧
        (entry.outcome = some .failed → entry.event.signatureStatus = .verified)) :
    Sound runtime { state with claimed := claimed } where
  serial := h.serial
  keys := h.keys
  backed := h.backed
  waiting := h.waiting
  claimed := hclaimed
  calls := h.calls

theorem mem_dueEvents {events : List WebhookEvent} {limit : Nat} {locked : List Nat}
    {row : WebhookEvent} (h : row ∈ dueEvents events limit locked) :
    row ∈ events ∧ row.processingStatus = .pending := by
  have hmem := List.mem_of_mem_take h
  rw [List.mem_insertionSort, List.mem_filter] at hmem
  exact ⟨hmem.1, (of_decide_eq_true hmem.2).1⟩

theorem Sound.claim (h : Sound runtime state) (worker limit : Nat) (locked : List Nat)
    (now : Int) :
    Sound runtime (claimPendingPaymentWebhookEvents state worker limit locked now) := by
  unfold claimPendingPaymentWebhookEvents
  split
  · exact h
  · have hkept := h.keep_content ((keepsContent_claimRow now).ite fun row =>
      row.id ∈ (dueEvents state.events limit locked).map WebhookEvent.id)
    refine hkept.set_claimed ?_
    intro entry hentry
    rcases List.mem_append.mp hentry with hentry | hentry
    · exact hkept.claimed entry hentry
    · obtain ⟨row, hdue, rfl⟩ := List.mem_map.mp hentry
      have hrow := (mem_dueEvents hdue).1
      refine ⟨⟨claimRow now row, ?_, rfl, rfl⟩,
        (h.backed row hrow).of_content (keepsContent_claimRow now), nofun⟩
      refine List.mem_map.mpr ⟨row, hrow, ?_⟩
      rw [if_pos (List.mem_map_of_mem hdue)]

theorem currentOf_eq {claimed before after : List ClaimedEvent} {entry : ClaimedEvent}
    {worker : Nat} (h : currentOf claimed worker = some (before, entry, after)) :
    claimed = before ++ entry :: after ∧ entry.worker = worker := by
  unfold currentOf at h
  split at h
  · cases h
  · rename_i before' entry' after' hspan
    cases h
    rw [List.span_eq_takeWhile_dropWhile] at hspan
    obtain ⟨htake, hdrop⟩ := Prod.mk.inj hspan
    refine ⟨by rw [← htake, ← hdrop, List.takeWhile_append_dropWhile], ?_⟩
    have hhead := List.head_dropWhile_not (fun entry => decide (entry.worker ≠ worker))
      (l := claimed) (by rw [hdrop]; simp)
    simp only [hdrop, List.head_cons, decide_eq_false_iff_not, not_not] at hhead
    exact hhead

theorem consume_cases {event : WebhookEvent} {answer : OrderAnswer} {status : FinalStatus}
    {call : Option OrderCall}
    (h : consumePaymentWebhookEvent runtime event answer = (status, call)) :
    (event.signatureStatus ≠ .verified ∧ status = .ignored ∧ call = none) ∨
      (event.signatureStatus = .verified ∧ (status = .failed ∨ status = .ignored) ∧ call = none) ∨
      (event.signatureStatus = .verified ∧ status = answer.status ∧ ∃ made, call = some made ∧
        made.event = event ∧ made.answer = answer ∧
          made.payloadJson = parsedPayload runtime event.payloadJson event.payloadRaw) := by
  unfold consumePaymentWebhookEvent at h
  by_cases hsignature : event.signatureStatus = .verified
  · rw [if_neg (not_not.mpr hsignature)] at h
    refine .inr ?_
    split at h
    · cases h
      exact .inl ⟨hsignature, .inl rfl, rfl⟩
    · split at h
      · cases h
        exact .inl ⟨hsignature, .inr rfl, rfl⟩
      · cases h
        exact .inr ⟨hsignature, rfl, _, rfl, rfl, rfl, rfl⟩
  · rw [if_pos hsignature] at h
    cases h
    exact .inl ⟨hsignature, rfl, rfl⟩

theorem Sound.consume (h : Sound runtime state) (worker : Nat) (answer : OrderAnswer) :
    Sound runtime (consumeNext runtime state worker answer) := by
  unfold consumeNext
  split
  · rename_i before worker' event after hcurrent
    obtain ⟨hclaimed, -⟩ := currentOf_eq hcurrent
    obtain ⟨hknown, hbacked, -⟩ := h.claimed ⟨worker', event, none⟩ (by simp [hclaimed])
    obtain ⟨⟨status, call⟩, hconsumed⟩ : ∃ result, consumePaymentWebhookEvent runtime event answer =
        result := ⟨_, rfl⟩
    have hcases := consume_cases hconsumed
    rw [hconsumed]
    refine ⟨h.serial, h.keys, h.backed, h.waiting, ?_, ?_⟩
    · intro entry hentry
      rcases List.mem_append.mp hentry with hentry | hentry
      · exact h.claimed entry (by simp [hclaimed, hentry])
      rcases List.mem_cons.mp hentry with rfl | hentry
      · refine ⟨hknown, hbacked, fun hfailed => ?_⟩
        rcases hcases with ⟨-, hignored, -⟩ | ⟨hverified, -⟩ | ⟨hverified, -⟩
        · rw [hignored] at hfailed
          cases hfailed
        · exact hverified
        · exact hverified
      · exact h.claimed entry (by simp [hclaimed, hentry])
    · intro made hmade
      rcases List.mem_append.mp hmade with hmade | hmade
      · exact h.calls made hmade
      rcases hcases with ⟨-, -, hnone⟩ | ⟨-, -, hnone⟩ | ⟨hverified, -, call', hsome, hevent, -, hjson⟩
      · rw [hnone] at hmade
        cases hmade
      · rw [hnone] at hmade
        cases hmade
      · rw [hsome] at hmade
        obtain rfl := List.mem_singleton.mp hmade
        obtain ⟨delivery, hmem, hkey, hsignature, hraw, hpayload⟩ := hbacked
        rw [hraw, hpayload] at hjson
        rw [hevent]
        exact ⟨hknown, delivery, hmem, hsignature.symm.trans hverified, by rw [hevent, hkey], hjson⟩
  · exact h

theorem Sound.finalize (h : Sound runtime state) (worker : Nat) :
    Sound runtime (finalizePaymentWebhookEvent state worker) := by
  unfold finalizePaymentWebhookEvent
  split
  · rename_i before worker' event status after hcurrent
    obtain ⟨hclaimed, -⟩ := currentOf_eq hcurrent
    have hkept := h.keep_content ((keepsContent_finalizeRow status).ite fun row => row.id = event.id)
    refine hkept.set_claimed ?_
    intro entry hentry
    refine hkept.claimed entry ?_
    rw [hclaimed]
    rcases List.mem_append.mp hentry with hentry | hentry
    · exact List.mem_append_left _ hentry
    · exact List.mem_append_right _ (List.mem_cons_of_mem _ hentry)
  · exact h

theorem Sound.stop (h : Sound runtime state) (worker : Nat) :
    Sound runtime (stopWorker state worker) :=
  h.set_claimed fun entry hentry => h.claimed entry (List.mem_of_mem_filter hentry)

theorem Sound.recover (h : Sound runtime state) (now : Int) :
    Sound runtime (recoverStuckPaymentWebhookEvents runtime state now) :=
  h.keep_content (keepsContent_recoverRow.ite fun row => isStuck runtime now row = true)

theorem Sound.step (h : Sound runtime state) (op : QueueOperation) :
    Sound runtime (queueStep runtime state op) := by
  cases op with
  | insert request delivery now => exact h.insert request delivery now
  | select request => exact h.select request
  | update request now => exact h.update request now
  | claim worker limit locked now => exact h.claim worker limit locked now
  | consume worker answer => exact h.consume worker answer
  | finalize worker => exact h.finalize worker
  | stop worker => exact h.stop worker
  | recover now => exact h.recover now

theorem sound_empty : Sound runtime .empty where
  serial := rfl
  keys := List.nodup_nil
  backed _ hrow := (List.not_mem_nil hrow).elim
  waiting _ _ _ hwaiting := (Option.some_ne_none _ hwaiting.symm).elim
  claimed _ hentry := (List.not_mem_nil hentry).elim
  calls _ hcall := (List.not_mem_nil hcall).elim

end Steps

end RewardSystem.Webhook
