import RewardSystem.Lib.Latest
import Mathlib.Data.Int.Order.Basic
import Mathlib.Data.List.Induction
import Mathlib.Data.Prod.Lex

/-!
# The chat of a holdem table

Messages reach the client in any order and more than once. The client keeps the latest of them,
sorted by time and id. Times are in milliseconds.
-/

namespace RewardSystem.RealtimeClient

inductive HoldemTableMessageKind where
  | chat
  | emoji
  deriving DecidableEq, Repr

structure HoldemTableMessage where
  id : Nat
  tableId : Nat
  userId : Nat
  seatIndex : Nat
  displayName : String
  kind : HoldemTableMessageKind
  text : Option String
  emoji : Option String
  createdAt : Int
  deriving DecidableEq, Repr

def holdemTableMessageLimit : Int := 40

def compareMessages (left right : HoldemTableMessage) : Int :=
  if left.createdAt ≠ right.createdAt then left.createdAt - right.createdAt
  else (left.id : Int) - right.id

def sortMessages (messages : List HoldemTableMessage) : List HoldemTableMessage :=
  messages.insertionSort fun left right => compareMessages left right ≤ 0

def resolveMaxMessages (maxMessages : Option Int) : Nat :=
  (max 1 (maxMessages.getD holdemTableMessageLimit)).toNat

def applyHoldemTableMessage (maxMessages : Option Int) (currentMessages : List HoldemTableMessage)
    (message : HoldemTableMessage) : List HoldemTableMessage :=
  let dedupedMessages := currentMessages.filter fun entry => entry.id ≠ message.id
  let sorted := sortMessages (dedupedMessages ++ [message])
  sorted.drop (sorted.length - resolveMaxMessages maxMessages)

def deliverMessages (maxMessages : Option Int) (deliveries : List HoldemTableMessage) :
    List HoldemTableMessage :=
  deliveries.foldl (applyHoldemTableMessage maxMessages) []

/-- An id is always that of the same message. -/
def IdsAgree (messages : List HoldemTableMessage) : Prop :=
  ∀ a ∈ messages, ∀ b ∈ messages, a.id = b.id → a = b

def messageKey (message : HoldemTableMessage) : Int ×ₗ Nat :=
  toLex (message.createdAt, message.id)

variable {maxMessages : Option Int} {messages deliveries seen : List HoldemTableMessage}
  {message : HoldemTableMessage}

theorem compareMessages_nonpos {a b : HoldemTableMessage} :
    compareMessages a b ≤ 0 ↔ messageKey a ≤ messageKey b := by
  unfold compareMessages messageKey
  rw [Prod.Lex.toLex_le_toLex]
  split
  case isTrue hne => simp only [ne_eq] at hne; omega
  case isFalse heq => simp only [ne_eq, not_not] at heq; omega

theorem id_eq_of_messageKey {a b : HoldemTableMessage} (h : messageKey a = messageKey b) :
    a.id = b.id :=
  congrArg (fun key => (ofLex key).2) h

theorem sortMessages_pairwise (hids : (messages.map HoldemTableMessage.id).Nodup) :
    (sortMessages messages).Pairwise fun a b => messageKey a < messageKey b := by
  have hle : (sortMessages messages).Pairwise fun a b => compareMessages a b ≤ 0 := by
    refine Sorting.pairwise_insertionSort (fun a b => ?_) (fun a b c hab hbc => ?_) messages
    · rw [compareMessages_nonpos, compareMessages_nonpos]
      exact le_total _ _
    · rw [compareMessages_nonpos] at hab hbc ⊢
      exact hab.trans hbc
  have hne : (sortMessages messages).Pairwise fun a b => a.id ≠ b.id := by
    have hperm := List.perm_insertionSort (fun a b => compareMessages a b ≤ 0) messages
    exact List.pairwise_map.mp ((hperm.map HoldemTableMessage.id).nodup_iff.mpr hids)
  refine (hle.and hne).imp fun {a b} h => ?_
  exact (compareMessages_nonpos.mp h.1).lt_of_ne fun heq => h.2 (id_eq_of_messageKey heq)

theorem applyHoldemTableMessage_latest
    (h : Sorting.Latest messageKey (resolveMaxMessages maxMessages) seen messages)
    (hids : IdsAgree (seen ++ [message])) :
    Sorting.Latest messageKey (resolveMaxMessages maxMessages) (seen ++ [message])
      (applyHoldemTableMessage maxMessages messages message) := by
  have hsame : ∀ entry ∈ messages, entry.id = message.id → entry = message := fun entry hentry =>
    hids entry (List.mem_append_left _ (h.subset entry hentry)) message (by simp)
  have hnodup : (messages.map HoldemTableMessage.id).Nodup := by
    refine List.pairwise_map.mpr (h.sorted.imp_of_mem fun {a b} ha hb hlt heq => ?_)
    have hab := hids a (List.mem_append_left _ (h.subset a ha)) b
      (List.mem_append_left _ (h.subset b hb)) heq
    exact (hab ▸ hlt).false
  refine h.insert (sortMessages_pairwise ?_) fun a => ?_
  · rw [List.map_append, List.nodup_append]
    refine ⟨hnodup.sublist (List.filter_sublist.map _), List.nodup_singleton _, ?_⟩
    intro i hi j hj
    obtain ⟨entry, hentry, rfl⟩ := List.mem_map.mp hi
    obtain rfl : j = message.id := by simpa using hj
    exact of_decide_eq_true (List.mem_filter.mp hentry).2
  · unfold sortMessages
    rw [List.mem_insertionSort, List.mem_append, List.mem_singleton, List.mem_filter]
    constructor
    · rintro (⟨ha, -⟩ | rfl)
      · exact .inl ha
      · exact .inr rfl
    · rintro (ha | rfl)
      · by_cases heq : a.id = message.id
        · exact .inr (hsame a ha heq)
        · exact .inl ⟨ha, decide_eq_true heq⟩
      · exact .inr rfl

theorem deliverMessages_latest (hids : IdsAgree deliveries) :
    Sorting.Latest messageKey (resolveMaxMessages maxMessages) deliveries
      (deliverMessages maxMessages deliveries) := by
  induction deliveries using List.reverseRecOn with
  | nil => exact Sorting.latest_nil _ _
  | append_singleton earlier message ih =>
      have hearlier : IdsAgree earlier := fun a ha b hb =>
        hids a (List.mem_append_left _ ha) b (List.mem_append_left _ hb)
      unfold deliverMessages
      rw [List.foldl_append]
      exact applyHoldemTableMessage_latest (ih hearlier) hids

/-- **The order of the deliveries does not matter.** The chat holds the latest messages, sorted, each
once: as many as fit, which is at least one. -/
theorem deliverMessages_order_independent (hids : IdsAgree deliveries) :
    Sorting.Latest messageKey (resolveMaxMessages maxMessages) deliveries
        (deliverMessages maxMessages deliveries) ∧
      ((deliverMessages maxMessages deliveries).map HoldemTableMessage.id).Nodup ∧
      ∀ redeliveries, (∀ message, message ∈ redeliveries ↔ message ∈ deliveries) →
        deliverMessages maxMessages redeliveries = deliverMessages maxMessages deliveries := by
  have hlatest : Sorting.Latest messageKey (resolveMaxMessages maxMessages) deliveries
      (deliverMessages maxMessages deliveries) := deliverMessages_latest hids
  refine ⟨hlatest, ?_, fun redeliveries hsame => ?_⟩
  · refine List.pairwise_map.mpr (hlatest.sorted.imp_of_mem fun {a b} ha hb hlt heq => ?_)
    exact (hids a (hlatest.subset a ha) b (hlatest.subset b hb) heq ▸ hlt).false
  · have hagain : IdsAgree redeliveries := fun a ha b hb =>
      hids a ((hsame a).mp ha) b ((hsame b).mp hb)
    exact (deliverMessages_latest hagain).unique hlatest hsame

def sampleMessage (id : Nat) (createdAt : Int) : HoldemTableMessage :=
  { id := id
    tableId := 7
    userId := 42
    seatIndex := 0
    displayName := "Hero"
    kind := .chat
    text := some "nh"
    emoji := none
    createdAt := createdAt }

/-- Four deliveries of three messages, with room for two. -/
theorem deliverMessages_order_independent_three :
    deliverMessages (some 2) [sampleMessage 2 20, sampleMessage 1 10, sampleMessage 3 20,
        sampleMessage 1 10] = [sampleMessage 2 20, sampleMessage 3 20] ∧
      ∀ redeliveries, (∀ message, message ∈ redeliveries ↔ message ∈ [sampleMessage 2 20,
          sampleMessage 1 10, sampleMessage 3 20, sampleMessage 1 10]) →
        deliverMessages (some 2) redeliveries = deliverMessages (some 2) [sampleMessage 2 20,
          sampleMessage 1 10, sampleMessage 3 20, sampleMessage 1 10] :=
  ⟨by decide, (deliverMessages_order_independent (by unfold IdsAgree; decide)).2.2⟩

/-- With a maximum of zero messages one is kept all the same. -/
theorem deliverMessages_keeps_one :
    ∃ (maximum : Int) (deliveries : List HoldemTableMessage), 0 ≤ maximum ∧ IdsAgree deliveries ∧
      ¬((deliverMessages (some maximum) deliveries).length : Int) ≤ maximum :=
  ⟨0, [sampleMessage 1 10], le_rfl, by unfold IdsAgree; decide, by decide⟩

end RewardSystem.RealtimeClient
