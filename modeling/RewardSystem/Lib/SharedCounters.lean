import Mathlib.Algebra.BigOperators.Group.Finset.Piecewise
import Mathlib.Algebra.Order.BigOperators.Group.Finset
import Mathlib.Algebra.Order.Group.Int
import Mathlib.Algebra.Order.Pi
import Mathlib.Tactic.Abel
import RewardSystem.Lib.Runs

/-!
# Counters changed by single commands

Callers share integer counters. Each command is atomic, and the commands of different callers
interleave in any order. Where every caller knows what it has counted into a counter and has not
taken out again, the counters hold the sums of these exactly as long as no counter above zero is
deleted.
-/

namespace SharedCounters

open Transition

inductive Command (κ : Type) where
  | incr (key : κ)
  | decr (key : κ)
  | del (key : κ)
  | pexpire (key : κ)
  deriving DecidableEq

/-- What a caller does next: a command with what it does with the reply, or a step of its own. -/
inductive Move (κ γ : Type) where
  | call (command : Command κ) (next : Int → γ)
  | goto (next : γ)

/-- The code of the callers; the choice is what else decides how a caller goes on. -/
structure Program (τ κ γ β : Type) where
  move : τ → γ → β → Option (Move κ γ)

structure System (τ κ γ : Type) where
  /-- A missing counter counts as zero. -/
  counters : κ → Int
  stages : τ → γ

structure Label (τ β : Type) where
  caller : τ
  choice : β

variable {τ κ γ β : Type} [DecidableEq τ] [DecidableEq κ]

namespace Command

def key : Command κ → κ
  | .incr key | .decr key | .del key | .pexpire key => key

/-- What a command that deletes nothing adds to the counters. -/
def delta : Command κ → κ → Int
  | .incr key => Pi.single key 1
  | .decr key => Pi.single key (-1)
  | .del _ | .pexpire _ => 0

def exec (counters : κ → Int) : Command κ → κ → Int
  | .del key => Function.update counters key 0
  | command => counters + command.delta

/-- The new value of the counter; nobody looks at the replies of the other commands. -/
def reply (counters : κ → Int) (command : Command κ) : Int :=
  command.exec counters command.key

end Command

def perform (sys : System τ κ γ) (caller : τ) : Move κ γ → System τ κ γ
  | .call command next =>
      { counters := command.exec sys.counters
        stages := Function.update sys.stages caller (next (command.reply sys.counters)) }
  | .goto next => { sys with stages := Function.update sys.stages caller next }

def machine (program : Program τ κ γ β) (sys : System τ κ γ) (label : Label τ β) :
    Except Unit (System τ κ γ) :=
  match program.move label.caller (sys.stages label.caller) label.choice with
  | none => .error ()
  | some move => .ok (perform sys label.caller move)

/-- The steps of all interleavings of the callers. -/
def Steps (program : Program τ κ γ β) : System τ κ γ → Label τ β → System τ κ γ → Prop :=
  Accepts (machine program)

/-- The counter that a step deletes. -/
def deleted (program : Program τ κ γ β) (sys : System τ κ γ) (label : Label τ β) : Option κ :=
  match program.move label.caller (sys.stages label.caller) label.choice with
  | some (.call (.del key) _) => some key
  | _ => none

/-- A step that deletes a counter finds it at zero or below. -/
def DeletesIdle (program : Program τ κ γ β) (e : Event (System τ κ γ) (Label τ β)) : Prop :=
  ∀ key ∈ deleted program e.before e.label, e.before.counters key ≤ 0

instance (program : Program τ κ γ β) (e : Event (System τ κ γ) (Label τ β)) :
    Decidable (DeletesIdle program e) :=
  inferInstanceAs (Decidable (∀ _ ∈ _, _))

/-- `held` says what every caller has counted and not taken out again. -/
structure Tallied (program : Program τ κ γ β) (held : τ → γ → κ → Int) : Prop where
  nonneg : ∀ t stage, 0 ≤ held t stage
  goto : ∀ t stage choice next, program.move t stage choice = some (.goto next) →
    held t next = held t stage
  call : ∀ t stage choice command next, program.move t stage choice = some (.call command next) →
    ∀ reply, held t (next reply) = held t stage + command.delta

/-- A caller is granted a place in a counter only by an increment that stays within the limit. -/
structure Granted (program : Program τ κ γ β) (held granted : τ → γ → κ → Int) (limit : κ → Int) :
    Prop where
  le_held : ∀ t stage, granted t stage ≤ held t stage
  goto : ∀ t stage choice next, program.move t stage choice = some (.goto next) →
    granted t next ≤ granted t stage
  call : ∀ t stage choice command next, program.move t stage choice = some (.call command next) →
    ∀ reply key, granted t (next reply) key ≤ granted t stage key ∨
      command = .incr key ∧ reply ≤ limit key

section Sums

variable [Fintype τ]

def total (held : τ → γ → κ → Int) (sys : System τ κ γ) : κ → Int :=
  ∑ t, held t (sys.stages t)

/-- The counters hold what the callers have counted. -/
def Balanced (held : τ → γ → κ → Int) (sys : System τ κ γ) : Prop :=
  sys.counters = total held sys

def WithinLimit (granted : τ → γ → κ → Int) (limit : κ → Int) (sys : System τ κ γ) : Prop :=
  total granted sys ≤ limit

variable {program : Program τ κ γ β} {held granted : τ → γ → κ → Int} {limit : κ → Int}
  {sys sys' : System τ κ γ} {label : Label τ β}

omit [Fintype τ] in
theorem step_cases (hstep : Steps program sys label sys') :
    ∃ move, program.move label.caller (sys.stages label.caller) label.choice = some move ∧
      sys' = perform sys label.caller move := by
  unfold Steps Accepts machine at hstep
  split at hstep
  · cases hstep
  · exact ⟨_, ‹_›, (Except.ok.inj hstep).symm⟩

omit [DecidableEq κ] in
/-- Only the caller that moves changes what it has counted. -/
theorem total_update (held : τ → γ → κ → Int) (counters : κ → Int) (stages : τ → γ) (t : τ)
    (next : γ) :
    total held ⟨counters, Function.update stages t next⟩ =
      total held ⟨counters, stages⟩ + (held t next - held t (stages t)) := by
  have hupdate : (fun t' => held t' (Function.update stages t next t')) =
      Function.update (fun t' => held t' (stages t')) t (held t next) := by
    funext t'
    by_cases heq : t' = t
    · subst heq
      simp
    · simp [heq]
  have hrest := Finset.sum_erase_add Finset.univ (fun t' => held t' (stages t'))
    (Finset.mem_univ t)
  unfold total
  simp only
  rw [hupdate, Finset.sum_update_of_mem (Finset.mem_univ t), Finset.sdiff_singleton_eq_erase,
    ← hrest]
  abel

omit [DecidableEq τ] in
theorem total_nonneg (htallied : Tallied program held) (sys : System τ κ γ) :
    0 ≤ total held sys :=
  Finset.sum_nonneg fun t _ => htallied.nonneg t (sys.stages t)

/-- Deleting a counter changes it unless it is at zero; the other commands add their delta. -/
theorem exec_eq_add_delta {counters : κ → Int} {command : Command κ} :
    command.exec counters = counters + command.delta ↔
      ∀ key, command = .del key → counters key = 0 := by
  cases command with
  | del key =>
      simp only [Command.exec, Command.delta, add_zero, Function.update_eq_self_iff,
        Command.del.injEq, forall_eq']
      exact eq_comm
  | incr key => simp [Command.exec]
  | decr key => simp [Command.exec]
  | pexpire key => simp [Command.exec]

theorem balanced_step_iff (htallied : Tallied program held) (hsys : Balanced held sys)
    (hstep : Steps program sys label sys') :
    Balanced held sys' ↔ DeletesIdle program ⟨sys, label, sys'⟩ := by
  obtain ⟨move, hmove, rfl⟩ := step_cases hstep
  have hnonneg : 0 ≤ sys.counters := by
    rw [hsys]
    exact total_nonneg htallied sys
  cases move with
  | goto next =>
      have hheld := htallied.goto _ _ _ _ hmove
      refine iff_of_true ?_ ?_
      · unfold Balanced perform
        rw [total_update, hheld, sub_self, add_zero]
        exact hsys
      · simp [DeletesIdle, deleted, hmove]
  | call command next =>
      have hheld := htallied.call _ _ _ _ _ hmove (command.reply sys.counters)
      have htotal : total held (perform sys label.caller (.call command next)) =
          sys.counters + command.delta := by
        unfold perform
        rw [total_update, hheld, hsys, add_sub_cancel_left]
        rfl
      unfold Balanced
      rw [htotal]
      refine exec_eq_add_delta.trans ?_
      constructor
      · intro hzero key hdel
        cases command with
        | del key' =>
            obtain rfl : key' = key := by simpa [deleted, hmove] using hdel
            exact (hzero key' rfl).le
        | incr key' => simp [deleted, hmove] at hdel
        | decr key' => simp [deleted, hmove] at hdel
        | pexpire key' => simp [deleted, hmove] at hdel
      · rintro hidle key rfl
        exact le_antisymm (hidle key (by simp [deleted, hmove])) (hnonneg key)

/-- The increment that grants a place has found the counter below the limit. -/
theorem within_step (hgranted : Granted program held granted limit)
    (hsys : WithinLimit granted limit sys) (hstep : Steps program sys label sys')
    (hbalanced : Balanced held sys') : WithinLimit granted limit sys' := by
  have hle : total granted sys' ≤ total held sys' :=
    Finset.sum_le_sum fun t _ => hgranted.le_held t (sys'.stages t)
  obtain ⟨move, hmove, rfl⟩ := step_cases hstep
  intro key
  have hbefore : total granted sys key ≤ limit key := hsys key
  cases move with
  | goto next =>
      have hfewer : granted label.caller next key ≤
          granted label.caller (sys.stages label.caller) key := hgranted.goto _ _ _ _ hmove key
      unfold perform
      rw [total_update]
      simp only [Pi.add_apply, Pi.sub_apply]
      have hsame : total granted ⟨sys.counters, sys.stages⟩ key = total granted sys key := rfl
      omega
  | call command next =>
      rcases hgranted.call _ _ _ _ _ hmove (command.reply sys.counters) key with
        hfewer | ⟨rfl, hreply⟩
      · unfold perform
        rw [total_update]
        simp only [Pi.add_apply, Pi.sub_apply]
        have hsame : ∀ counters, total granted ⟨counters, sys.stages⟩ key = total granted sys key :=
          fun _ => rfl
        rw [hsame]
        omega
      · calc total granted (perform sys label.caller (.call (.incr key) next)) key
            ≤ total held (perform sys label.caller (.call (.incr key) next)) key := hle key
          _ = (Command.incr key).reply sys.counters := by rw [← hbalanced]; rfl
          _ ≤ limit key := hreply

variable {events : List (Event (System τ κ γ) (Label τ β))}

/-- The counters are exact throughout a run exactly if no counter above zero is deleted. -/
theorem balanced_iff (htallied : Tallied program held)
    (hrun : Run (Steps program) sys events sys') (hsys : Balanced held sys) :
    (∀ e ∈ events, Balanced held e.after) ↔ ∀ e ∈ events, DeletesIdle program e :=
  Run.forall_after_iff (fun _ _ _ hu hstep => balanced_step_iff htallied hu hstep) hrun hsys

/-- And then no more places are held at any time than the limit allows. -/
theorem run_within (htallied : Tallied program held)
    (hgranted : Granted program held granted limit)
    (hrun : Run (Steps program) sys events sys') (hsys : Balanced held sys)
    (hlimit : WithinLimit granted limit sys) (hidle : ∀ e ∈ events, DeletesIdle program e) :
    (∀ e ∈ events, (Balanced held e.before ∧ WithinLimit granted limit e.before) ∧
        (Balanced held e.after ∧ WithinLimit granted limit e.after)) ∧
      (Balanced held sys' ∧ WithinLimit granted limit sys') := by
  refine Run.invariant_of_forall (I := fun u => Balanced held u ∧ WithinLimit granted limit u)
    (fun u i v hu hstep hok => ?_) hrun ⟨hsys, hlimit⟩ hidle
  have hbalanced := (balanced_step_iff htallied hu.1 hstep).mpr hok
  exact ⟨hbalanced, within_step hgranted hu.2 hstep hbalanced⟩

end Sums

end SharedCounters
