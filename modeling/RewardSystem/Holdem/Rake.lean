import RewardSystem.Holdem.Invariants
import RewardSystem.Holdem.PotLaw

/-!
# The rake

The rake of a hand is capped once, taken pot by pot, and from each pot evenly of its winners. What a
winner pays of a pot is at most what it won of it.
-/

namespace RewardSystem.Holdem

open ApiError

namespace Table

variable {state settled : Table} {policy : RakePolicy} {pots : List Pot} {i : Nat}

/-! ## One pot -/

/-- A pot that was won: the winners are different seats, and there is at least one. -/
structure Won (pot : Pot) : Prop where
  amount_nonneg : 0 ≤ pot.amount
  nodup : pot.winnerSeatIndexes.Nodup
  ne_nil : pot.winnerSeatIndexes ≠ []

theorem potTotal_nonneg (h : ∀ pot ∈ pots, Won pot) : 0 ≤ potTotal pots :=
  List.sum_nonneg fun amount hamount => by
    obtain ⟨pot, hpot, rfl⟩ := List.mem_map.mp hamount
    exact (h pot hpot).amount_nonneg

def rakeOf (pots : List Pot) (i : Nat) : Int :=
  (pots.map fun pot => Shares.amountOf (Shares.split pot.rakeAmount pot.winnerSeatIndexes) i).sum

def rakeTotal (pots : List Pot) : Int :=
  (pots.map Pot.rakeAmount).sum

theorem takeRakeFromSeats_pays {parts : List (Nat × Int)} (hparts : ∀ part ∈ parts, 0 ≤ part.2)
    (state : Table) :
    Pays (fun i => -Shares.amountOf parts i) state (takeRakeFromSeats parts state) := by
  induction parts generalizing state with
  | nil => exact .of_seats_eq rfl
  | cons part parts ih =>
      obtain ⟨hpart, hrest⟩ := List.forall_mem_cons.mp hparts
      have hfirst : Pays (fun i => if part.1 = i then -part.2 else 0) state
          (state.updateSeat part.1 (subtractFromSeatStack part.2)) := by
        refine updateSeat_pays (fun row _ => ?_) state
        unfold subtractFromSeatStack
        split
        · have hzero : part.2 = 0 := by omega
          exact ⟨rfl, by rw [hzero, neg_zero, add_zero]⟩
        · exact ⟨rfl, Int.sub_eq_add_neg⟩
      refine (hfirst.trans (ih hrest _)).congr fun i => ?_
      rw [Shares.amountOf_cons]
      split <;> omega

theorem amountOf_split_zero (winners : List Nat) (i : Nat) :
    Shares.amountOf (Shares.split 0 winners) i = 0 := by
  have hnonneg : ∀ part ∈ Shares.split 0 winners, 0 ≤ part.2 := Shares.split_nonneg le_rfl
  by_cases hnil : winners = []
  · subst hnil
    rfl
  · have hsum := Shares.split_sum 0 winners hnil
    have hle := Shares.amountOf_le_sum (i := i) hnonneg
    have hge := Shares.amountOf_nonneg (i := i) hnonneg
    omega

/-- Every one of the winners sits at the table. -/
def Seated (state : Table) (winners : List Nat) : Prop :=
  ∀ w ∈ winners, ∃ seat ∈ state.seats, seat.seatIndex = w

theorem Pays.seated {next : Table} {due : Nat → Int} {winners : List Nat} (h : Pays due state next)
    (hseated : Seated state winners) : Seated next winners := fun w hw => by
  obtain ⟨g, hg, hseats⟩ := h
  obtain ⟨seat, hseat, rfl⟩ := hseated w hw
  exact ⟨g seat, hseats ▸ List.mem_map_of_mem hseat, (hg seat).seatIndex⟩

theorem findSeatByIndex_isSome (h : ∃ seat ∈ state.seats, seat.seatIndex = i) :
    (state.findSeatByIndex i).isSome := by
  obtain ⟨seat, hseat, hindex⟩ := h
  rw [Option.isSome_iff_ne_none]
  exact fun hnone => Keyed.lookup_eq_none.mp hnone seat hseat hindex

/-- `amount` is taken from the winners of a pot. -/
structure TakesFrom (winners : List Nat) (amount : Int) (before after : RakeProgress) : Prop where
  remaining : after.remaining = before.remaining - amount
  pays : Pays (fun i => -Shares.amountOf (Shares.split amount winners) i) before.table after.table
  seatRake : ∀ i, Shares.amountOf after.seatRakes i =
    Shares.amountOf before.seatRakes i + Shares.amountOf (Shares.split amount winners) i
  sum : (after.seatRakes.map Prod.snd).sum = (before.seatRakes.map Prod.snd).sum + amount

theorem rakePot_takes (progress : RakeProgress) {pot : Pot} (hpot : Won pot)
    (hremaining : 0 ≤ progress.remaining) (hseated : Seated progress.table pot.winnerSeatIndexes) :
    (rakePot progress pot).2 = { pot with rakeAmount := min progress.remaining pot.amount } ∧
      TakesFrom pot.winnerSeatIndexes (min progress.remaining pot.amount) progress
        (rakePot progress pot).1 := by
  have hamount : 0 ≤ min progress.remaining pot.amount := le_min hremaining hpot.amount_nonneg
  unfold rakePot
  simp only [hpot.ne_nil, or_false]
  split
  case isTrue hle =>
    have hzero : min progress.remaining pot.amount = 0 := le_antisymm hle hamount
    rw [hzero]
    refine ⟨rfl, (sub_zero _).symm, ?_, fun i => ?_, (add_zero _).symm⟩
    · refine (Pays.of_seats_eq rfl).congr fun i => ?_
      rw [amountOf_split_zero, neg_zero]
    · rw [amountOf_split_zero, add_zero]
  case isFalse =>
    have hall : (Shares.split (min progress.remaining pot.amount) pot.winnerSeatIndexes).filter
        (fun part => (progress.table.findSeatByIndex part.1).isSome) =
        Shares.split (min progress.remaining pot.amount) pot.winnerSeatIndexes := by
      refine List.filter_eq_self.mpr fun part hpart => findSeatByIndex_isSome (hseated part.1 ?_)
      have hmem := List.mem_map_of_mem (f := Prod.fst) hpart
      rwa [Shares.split_fst] at hmem
    rw [hall]
    refine ⟨rfl, rfl, takeRakeFromSeats_pays (Shares.split_nonneg hamount) _, fun i => ?_, ?_⟩
    · exact Shares.amountOf_append ..
    · rw [List.map_append, List.sum_append, Shares.split_sum _ _ hpot.ne_nil]

/-! ## All pots -/

/-- The rake that the loop has taken from the pots. -/
structure TakesAll (pots raked : List Pot) (before after : RakeProgress) : Prop where
  figures : List.Forall₂ (fun pot raked => raked = { pot with rakeAmount := raked.rakeAmount } ∧
    0 ≤ raked.rakeAmount ∧ raked.rakeAmount ≤ pot.amount) pots raked
  total : rakeTotal raked = min before.remaining (potTotal pots)
  pays : Pays (fun i => -rakeOf raked i) before.table after.table
  seatRake : ∀ i, Shares.amountOf after.seatRakes i =
    Shares.amountOf before.seatRakes i + rakeOf raked i
  sum : (after.seatRakes.map Prod.snd).sum = (before.seatRakes.map Prod.snd).sum + rakeTotal raked

theorem rakePots_cons (progress : RakeProgress) (pot : Pot) (pots : List Pot) :
    rakePots progress (pot :: pots) = ((rakePots (rakePot progress pot).1 pots).1,
      (rakePot progress pot).2 :: (rakePots (rakePot progress pot).1 pots).2) := rfl

theorem rakePots_takes (pots : List Pot) (progress : RakeProgress) (hpots : ∀ pot ∈ pots, Won pot)
    (hremaining : 0 ≤ progress.remaining)
    (hseated : ∀ pot ∈ pots, Seated progress.table pot.winnerSeatIndexes) :
    TakesAll pots (rakePots progress pots).2 progress (rakePots progress pots).1 := by
  induction pots generalizing progress with
  | nil =>
      refine ⟨.nil, ?_, ?_, fun i => (add_zero _).symm, (add_zero _).symm⟩
      · exact (min_eq_right hremaining).symm
      · exact (Pays.of_seats_eq rfl).congr fun i => neg_zero.symm
  | cons pot pots ih =>
      obtain ⟨hpot, hothers⟩ := List.forall_mem_cons.mp hpots
      obtain ⟨hfirst, hlater⟩ := List.forall_mem_cons.mp hseated
      have hamount := hpot.amount_nonneg
      obtain ⟨hraked, htakes⟩ := rakePot_takes progress hpot hremaining hfirst
      have hleft : 0 ≤ (rakePot progress pot).1.remaining := by
        rw [htakes.remaining]
        omega
      have hrest := ih (rakePot progress pot).1 hothers hleft fun other hother =>
        htakes.pays.seated (hlater other hother)
      have hnonneg := potTotal_nonneg hothers
      rw [rakePots_cons, hraked]
      refine ⟨.cons ⟨rfl, le_min hremaining hamount, min_le_right _ _⟩ hrest.figures, ?_, ?_,
        fun i => ?_, ?_⟩
      · have htotal := hrest.total
        rw [htakes.remaining] at htotal
        simp only [potTotal, rakeTotal, List.map_cons, List.sum_cons] at htotal hnonneg ⊢
        omega
      · refine (htakes.pays.trans hrest.pays).congr fun i => ?_
        simp only [rakeOf, List.map_cons, List.sum_cons]
        omega
      · have hfirstRake := htakes.seatRake i
        have hrestRake := hrest.seatRake i
        simp only [rakeOf, List.map_cons, List.sum_cons] at hrestRake ⊢
        omega
      · have hfirstSum := htakes.sum
        have hrestSum := hrest.sum
        simp only [rakeTotal, List.map_cons, List.sum_cons] at hrestSum ⊢
        omega

/-! ## The figures of the seats -/

theorem addSeatRake_eq (totals : List (Nat × Int)) (part : Nat × Int) :
    addSeatRake totals part =
      Keyed.upsert Prod.fst part.1 (part.1, 0) (fun row => (row.1, row.2 + part.2)) totals := by
  unfold addSeatRake Keyed.upsert
  cases Keyed.lookup Prod.fst part.1 totals with
  | none => simp
  | some row => rfl

theorem foldl_addSeatRake (p : Nat → Bool) (parts totals : List (Nat × Int))
    (hkeys : Keyed.HasKeys Prod.fst totals) :
    (((parts.foldl addSeatRake totals).filter fun part => p part.1).map Prod.snd).sum =
      ((totals.filter fun part => p part.1).map Prod.snd).sum +
        ((parts.filter fun part => p part.1).map Prod.snd).sum := by
  induction parts generalizing totals with
  | nil => exact (add_zero _).symm
  | cons part parts ih =>
      have hnext : Keyed.HasKeys Prod.fst (addSeatRake totals part) := by
        rw [addSeatRake_eq]
        exact Keyed.hasKeys_upsert (fun _ h => h) rfl hkeys
      rw [List.foldl_cons, ih _ hnext]
      have hstep : (((addSeatRake totals part).filter fun part => p part.1).map Prod.snd).sum =
          ((totals.filter fun part => p part.1).map Prod.snd).sum +
            if p part.1 then part.2 else 0 := by
        rw [addSeatRake_eq, Keyed.sum_filter, Keyed.sum_filter]
        refine Keyed.sum_upsert _ hkeys ?_ fun row _ hrow => ?_
        · simp
        · simp only [hrow]
          split <;> simp
      rw [hstep, List.filter_cons]
      split <;> simp [add_assoc]

/-- The rake as a whole: what is due is taken from the pots, and of every pot from its winners. -/
structure RakeTaken (settled raked : Table) (applied : AppliedRake) : Prop where
  pots : List.Forall₂ (fun pot raked => raked = { pot with rakeAmount := raked.rakeAmount } ∧
    0 ≤ raked.rakeAmount ∧ raked.rakeAmount ≤ pot.amount) settled.resolvedPots raked.resolvedPots
  potTotal : rakeTotal raked.resolvedPots =
    min applied.totalRakeAmount (Table.potTotal settled.resolvedPots)
  seatTotal : (applied.seatRakeAmounts.map Prod.snd).sum = rakeTotal raked.resolvedPots
  seatRake : ∀ i, Shares.amountOf applied.seatRakeAmounts i = rakeOf raked.resolvedPots i
  pays : Pays (fun i => -rakeOf raked.resolvedPots i) settled raked

theorem rakeDue_nonneg (state : Table) (policy : RakePolicy) : 0 ≤ state.rakeDue policy := by
  unfold rakeDue
  split
  · exact le_rfl
  · split
    · exact le_rfl
    · exact le_max_left _ _

theorem applyRake_total (state : Table) (policy : RakePolicy) :
    (state.applyRakeToSettledState policy).2.totalRakeAmount = state.rakeDue policy := by
  unfold applyRakeToSettledState
  simp only
  split
  case isTrue hzero => exact hzero.symm
  case isFalse => rfl

theorem rakeTotal_eq_zero (h : ∀ pot ∈ pots, pot.rakeAmount = 0) : rakeTotal pots = 0 :=
  List.sum_eq_zero fun amount hamount => by
    obtain ⟨pot, hpot, rfl⟩ := List.mem_map.mp hamount
    exact h pot hpot

theorem rakeOf_eq_zero (h : ∀ pot ∈ pots, pot.rakeAmount = 0) (i : Nat) : rakeOf pots i = 0 :=
  List.sum_eq_zero fun amount hamount => by
    obtain ⟨pot, hpot, rfl⟩ := List.mem_map.mp hamount
    rw [h pot hpot, amountOf_split_zero]

theorem RakeTaken.refl (hpots : ∀ pot ∈ state.resolvedPots, Won pot ∧ pot.rakeAmount = 0) :
    RakeTaken state state { totalRakeAmount := 0, seatRakeAmounts := [] } := by
  have hnonneg := potTotal_nonneg fun pot hpot => (hpots pot hpot).1
  have hrake := fun pot hpot => (hpots pot hpot).2
  refine ⟨List.forall₂_same.mpr fun pot hpot => ⟨rfl, (hrake pot hpot).ge, ?_⟩, ?_, ?_,
    fun i => ?_, (Pays.of_seats_eq rfl).congr fun i => ?_⟩
  · exact (hrake pot hpot).trans_le (hpots pot hpot).1.amount_nonneg
  · rw [rakeTotal_eq_zero hrake, min_eq_left hnonneg]
  · exact (rakeTotal_eq_zero hrake).symm
  · exact (rakeOf_eq_zero hrake i).symm
  · rw [rakeOf_eq_zero hrake, neg_zero]

theorem applyRake_taken (hpots : ∀ pot ∈ state.resolvedPots, Won pot ∧ pot.rakeAmount = 0)
    (hseated : ∀ pot ∈ state.resolvedPots, Seated state pot.winnerSeatIndexes) :
    RakeTaken state (state.applyRakeToSettledState policy).1
      (state.applyRakeToSettledState policy).2 := by
  unfold applyRakeToSettledState
  simp only
  split
  case isTrue => exact .refl hpots
  case isFalse =>
    have htakes := rakePots_takes state.resolvedPots
      { remaining := state.rakeDue policy, table := state, seatRakes := [] }
      (fun pot hpot => (hpots pot hpot).1) (rakeDue_nonneg state policy) hseated
    set progress := rakePots { remaining := state.rakeDue policy, table := state, seatRakes := [] }
      state.resolvedPots with hprogress
    have hsorted : ((progress.1.seatRakes.foldl addSeatRake []).insertionSort fun left right =>
        left.1 ≤ right.1).Perm (progress.1.seatRakes.foldl addSeatRake []) :=
      List.perm_insertionSort _ _
    refine ⟨htakes.figures, htakes.total, ?_, fun i => ?_, ?_⟩
    · have hall := foldl_addSeatRake (fun _ => true) progress.1.seatRakes [] List.nodup_nil
      simp only [List.filter_true, List.filter_nil, List.map_nil, List.sum_nil, zero_add] at hall
      rw [(hsorted.map _).sum_eq, hall, htakes.sum]
      exact zero_add _
    · have hseat := foldl_addSeatRake (fun j => j = i) progress.1.seatRakes [] List.nodup_nil
      simp only [List.filter_nil, List.map_nil, List.sum_nil, zero_add] at hseat
      calc Shares.amountOf ((progress.1.seatRakes.foldl addSeatRake []).insertionSort
            fun left right => left.1 ≤ right.1) i
          = Shares.amountOf (progress.1.seatRakes.foldl addSeatRake []) i :=
            ((hsorted.filter _).map _).sum_eq
        _ = Shares.amountOf progress.1.seatRakes i := hseat
        _ = rakeOf progress.2 i := (htakes.seatRake i).trans (zero_add _)
    · exact htakes.pays.trans_zero (.of_seats_eq rfl)

end Table

end RewardSystem.Holdem
