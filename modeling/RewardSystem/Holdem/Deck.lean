import Mathlib.Data.List.Rotate
import RewardSystem.Holdem.Opening

/-!
# The deck and the hole cards

The shuffle swaps cards, so every seed gives an order of the 52 cards. The hole cards go round the
table twice.
-/

namespace RewardSystem.Holdem

open ApiError

/-! ## The shuffle -/

theorem deckTemplate_nodup : deckTemplate.Nodup := by decide

theorem deckTemplate_length : deckTemplate.length = 52 := rfl

variable (sha256 : HashFunction)

theorem shuffleFrom_perm (handSeed : String) (cursor : Nat) (deck : List Card)
    (hcursor : cursor < deck.length) : ∃ shuffled digests,
      shuffleFrom sha256 handSeed cursor deck = .ok (shuffled, digests) ∧ shuffled.Perm deck := by
  induction cursor generalizing deck with
  | zero => exact ⟨deck, [], rfl, .refl deck⟩
  | succ cursor ih =>
      set digest := swapDigest sha256 handSeed (cursor + 1) with hdigest
      set swapIndex := digest.readUInt32BE % (cursor + 2) with hswapIndex
      have hswap : swapIndex < deck.length := by
        have : swapIndex < cursor + 2 := Nat.mod_lt _ (by omega)
        omega
      let swapped := (deck.set (cursor + 1) deck[swapIndex]).set swapIndex deck[cursor + 1]
      have hswapped : swapped.Perm deck := List.set_set_perm hcursor hswap
      obtain ⟨shuffled, digests, hshuffled, hperm⟩ :=
        ih swapped (by rw [hswapped.length_eq]; omega)
      refine ⟨shuffled, digest.hex :: digests, ?_, hperm.trans hswapped⟩
      unfold shuffleFrom
      simp only [← hdigest, ← hswapIndex, List.getElem?_eq_getElem hcursor,
        List.getElem?_eq_getElem hswap]
      exact bind_eq_ok.mpr ⟨_, hshuffled, rfl⟩

theorem shuffleHoldemDeck_perm (handSeed : String) : ∃ shuffled,
    shuffleHoldemDeck sha256 handSeed = .ok shuffled ∧ shuffled.deck.Perm deckTemplate := by
  obtain ⟨deck, digests, hdeck, hperm⟩ := shuffleFrom_perm sha256 handSeed
    (deckTemplate.length - 1) deckTemplate (by decide)
  unfold shuffleHoldemDeck
  rw [hdeck]
  exact ⟨_, rfl, hperm⟩

variable {sha256} in
theorem deck_perm_of_shuffle {handSeed : String} {shuffled : ShuffledDeck}
    (h : shuffleHoldemDeck sha256 handSeed = .ok shuffled) : shuffled.deck.Perm deckTemplate := by
  obtain ⟨shuffled', h', hperm⟩ := shuffleHoldemDeck_perm sha256 handSeed
  have hsame : shuffled = shuffled' := Except.ok.inj (h.symm.trans h')
  exact hsame ▸ hperm

/-! ## The order of the deal -/

theorem nextSeatIndex_getElem {ordered : List Nat} (hnodup : ordered.Nodup) {i : Nat}
    (hi : i < ordered.length) :
    nextSeatIndex ordered ordered[i] = ordered[(i + 1) % ordered.length]? := by
  have hfind : ordered.findIdx? (· = ordered[i]) = some i := by
    refine List.findIdx?_eq_some_iff_getElem.mpr ⟨hi, by simp, fun j hj hsame => ?_⟩
    have hij : j = i := hnodup.getElem_inj_iff.mp (by simpa using hsame)
    omega
  unfold nextSeatIndex
  rw [hfind]

theorem dealOrderFrom_eq {ordered : List Nat} (hnodup : ordered.Nodup) (count : Nat) {first : Nat}
    (hfirst : first < ordered.length) (hcount : count ≤ ordered.length) :
    Table.dealOrderFrom ordered count ordered[first] = (ordered.rotate first).take count := by
  induction count generalizing first with
  | zero => rfl
  | succ count ih =>
      have hsecond : (first + 1) % ordered.length < ordered.length := Nat.mod_lt _ (by omega)
      obtain ⟨head, rest, hrotate⟩ : ∃ head rest, ordered.rotate first = head :: rest := by
        refine List.exists_cons_of_ne_nil fun h => ?_
        rw [List.rotate_eq_nil_iff] at h
        simp [h] at hfirst
      have hhead : head = ordered[first] := by
        have hget := List.getElem_rotate ordered first 0 (by simpa using Nat.zero_lt_of_lt hfirst)
        simp only [Nat.zero_add, Nat.mod_eq_of_lt hfirst] at hget
        rw [← hget]
        simp [hrotate]
      have hrest : count ≤ rest.length := by
        have := congrArg List.length hrotate
        simp only [List.length_rotate, List.length_cons] at this
        omega
      have hnext : (ordered.rotate ((first + 1) % ordered.length)) = rest ++ [head] := by
        rw [List.rotate_mod, ← List.rotate_rotate, hrotate]
        simp
      unfold Table.dealOrderFrom
      rw [nextSeatIndex_getElem hnodup hfirst, List.getElem?_eq_getElem hsecond, Option.getD_some,
        ih hsecond (by omega), hnext, hrotate, List.take_succ_cons, hhead,
        List.take_append_of_le_length hrest]

namespace Table

variable {state next : Table} {seat : Seat} {i : Nat} {order : List Nat}

theorem resolveDealOrder_perm (hkeys : state.HasSeatKeys) {first : Nat}
    (hfirst : first ∈ state.eligibleSeatIndexes) :
    (state.resolveDealOrder first).Perm state.eligibleSeatIndexes := by
  obtain ⟨k, hk, rfl⟩ := List.getElem_of_mem hfirst
  have hnodup : state.eligibleSeatIndexes.Nodup :=
    (eligibleSeatIndexes_sorted hkeys).imp Nat.ne_of_lt
  have horder := dealOrderFrom_eq hnodup state.eligibleSeatIndexes.length hk le_rfl
  have hperm : (dealOrderFrom state.eligibleSeatIndexes state.eligibleSeatIndexes.length
      state.eligibleSeatIndexes[k]).Perm state.eligibleSeatIndexes := by
    rw [horder, List.take_of_length_le (by simp)]
    exact List.rotate_perm _ k
  unfold resolveDealOrder
  rw [List.filter_eq_self.mpr]
  · exact hperm
  · intro seatIndex hmem
    obtain ⟨seat, hseat, -, rfl⟩ := mem_eligibleSeatIndexes.mp (hperm.subset hmem)
    rw [find_of_mem hkeys hseat]
    rfl

/-! ## Dealing -/

def heldCards (state : Table) : List Card :=
  state.seats.flatMap Seat.holeCards

/-- The cards of `order` were dealt from the top of the deck, one to each seat. -/
structure DealtTo (order : List Nat) (state next : Table) : Prop where
  exists_cards : ∃ cards : Seat → List Card,
    next = { state with
      seats := state.seats.map fun seat => { seat with holeCards := cards seat }
      nextCardIndex := state.nextCardIndex + order.length } ∧
    ∀ seat, (cards seat).length = seat.holeCards.length + order.count seat.seatIndex
  enough : order = [] ∨ state.nextCardIndex + order.length ≤ state.deck.length
  held : next.heldCards.Perm
    (state.heldCards ++ (state.deck.drop state.nextCardIndex).take order.length)

theorem dealHoleCard_dealtTo (hkeys : state.HasSeatKeys) (hseat : seat ∈ state.seats)
    (h : state.dealHoleCard seat.seatIndex = .ok next) : DealtTo [seat.seatIndex] state next := by
  obtain ⟨card, hcard, rfl⟩ := dealHoleCard_eq_ok.mp h
  obtain ⟨hlt, hget⟩ := List.getElem?_eq_some_iff.mp hcard
  refine ⟨⟨fun row => if row.seatIndex = seat.seatIndex then row.holeCards ++ [card]
    else row.holeCards, ?_, fun row => ?_⟩, .inr (by simp only [List.length_singleton]; omega), ?_⟩
  · unfold Table.updateSeat Keyed.modify
    congr 1
    refine List.map_congr_left fun row _ => ?_
    by_cases hrow : row.seatIndex = seat.seatIndex <;> simp [hrow]
  · by_cases hrow : row.seatIndex = seat.seatIndex
    · simp [hrow]
    · simp [hrow, Ne.symm hrow]
  · have htop : (state.deck.drop state.nextCardIndex).take 1 = [card] := by
      rw [List.drop_eq_getElem_cons hlt, hget]
      rfl
    rw [List.length_singleton, htop]
    exact Keyed.flatMap_modify_perm hkeys (find_of_mem hkeys hseat) rfl

theorem DealtTo.trans {order' : List Nat} {s t u : Table} (h : DealtTo order s t)
    (h' : DealtTo order' t u) : DealtTo (order ++ order') s u := by
  obtain ⟨cards, hnext, hlength⟩ := h.exists_cards
  obtain ⟨cards', hnext', hlength'⟩ := h'.exists_cards
  have hdeck : t.deck = s.deck := by rw [hnext]
  have hindex : t.nextCardIndex = s.nextCardIndex + order.length := by rw [hnext]
  refine ⟨⟨fun seat => cards' { seat with holeCards := cards seat }, ?_, fun seat => ?_⟩, ?_, ?_⟩
  · rw [hnext', hnext]
    simp [Nat.add_assoc]
  · have := hlength seat
    have := hlength' { seat with holeCards := cards seat }
    simp only [List.count_append] at *
    omega
  · have henough := h.enough
    have henough' := h'.enough
    rw [hdeck, hindex] at henough'
    rcases henough with rfl | henough
    · simpa using henough'
    · rcases henough' with rfl | henough'
      · exact .inr (by simpa using henough)
      · exact .inr (by simp only [List.length_append]; omega)
  · have hheld' := h'.held
    rw [hdeck, hindex] at hheld'
    have hsplit : (s.deck.drop s.nextCardIndex).take (order ++ order').length =
        (s.deck.drop s.nextCardIndex).take order.length ++
          (s.deck.drop (s.nextCardIndex + order.length)).take order'.length := by
      rw [List.length_append, List.take_add, List.drop_drop]
    rw [hsplit, ← List.append_assoc]
    exact hheld'.trans (h.held.append_right _)

theorem foldlM_dealtTo (hkeys : state.HasSeatKeys)
    (hseats : ∀ i ∈ order, ∃ seat ∈ state.seats, seat.seatIndex = i)
    (h : order.foldlM dealHoleCard state = .ok next) : DealtTo order state next := by
  induction order generalizing state with
  | nil =>
      injection h with h
      rw [← h]
      exact ⟨⟨Seat.holeCards, by simp, fun seat => by simp⟩, .inl rfl, by simp⟩
  | cons i order ih =>
      obtain ⟨first, hfirst, hrest⟩ := bind_eq_ok.mp h
      obtain ⟨seat, hseat, rfl⟩ := hseats i (by simp)
      have hdealt := dealHoleCard_dealtTo hkeys hseat hfirst
      obtain ⟨cards, hcards, -⟩ := hdealt.exists_cards
      have hkeys' : first.HasSeatKeys := by
        rw [hcards]
        exact hasSeatKeys_map hkeys fun _ => rfl
      refine hdealt.trans (ih hkeys' (fun j hj => ?_) hrest)
      obtain ⟨row, hrow, hindex⟩ := hseats j (by simp [hj])
      rw [hcards]
      exact ⟨_, List.mem_map_of_mem hrow, hindex⟩

theorem dealHoleCards_dealtTo (hkeys : state.HasSeatKeys)
    (hseats : ∀ i ∈ order, ∃ seat ∈ state.seats, seat.seatIndex = i)
    (h : state.dealHoleCards order = .ok next) : DealtTo (order ++ order) state next := by
  obtain ⟨first, hfirst, hsecond⟩ := bind_eq_ok.mp h
  have hround := foldlM_dealtTo hkeys hseats hfirst
  obtain ⟨cards, hcards, -⟩ := hround.exists_cards
  refine hround.trans (foldlM_dealtTo ?_ (fun i hi => ?_) hsecond)
  · rw [hcards]
    exact hasSeatKeys_map hkeys fun _ => rfl
  · obtain ⟨row, hrow, hindex⟩ := hseats i hi
    rw [hcards]
    exact ⟨_, List.mem_map_of_mem hrow, hindex⟩

end Table

end RewardSystem.Holdem
