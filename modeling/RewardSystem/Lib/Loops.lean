import Mathlib.Order.WellFounded
import Mathlib.Tactic.Common

/-!
# While loops

A loop body either ends the loop with a result or hands over the state of the next turn. A loop is
run for a number of turns; `none` says that they did not suffice.
-/

namespace Loop

variable {σ ρ : Type*}

/-- What one turn of a loop comes to. -/
inductive Turn (σ ρ : Type*) where
  | done (result : ρ)
  | again (state : σ)

def run (body : σ → Turn σ ρ) : Nat → σ → Option ρ
  | 0, _ => none
  | turns + 1, s =>
      match body s with
      | .done result => some result
      | .again s' => run body turns s'

/-- The loop started in `s` ends with `result`. -/
def EndsWith (body : σ → Turn σ ρ) (s : σ) (result : ρ) : Prop :=
  ∃ turns, run body turns s = some result

variable {body : σ → Turn σ ρ} {s s' : σ} {turns more : Nat} {result : ρ}

theorem run_succ_of_done (h : body s = .done result) : run body (turns + 1) s = some result := by
  simp [run, h]

theorem run_succ_of_again (h : body s = .again s') : run body (turns + 1) s = run body turns s' := by
  simp [run, h]

/-- A loop with a measure that falls from turn to turn ends within as many turns. -/
theorem exists_run_of_measure (μ : σ → Nat) (hfalls : ∀ s s', body s = .again s' → μ s' < μ s)
    (hturns : μ s < turns) : ∃ result, run body turns s = some result := by
  induction turns generalizing s with
  | zero => omega
  | succ turns ih =>
      cases hbody : body s with
      | done r => exact ⟨r, run_succ_of_done hbody⟩
      | again next =>
          have hnext : μ next < turns := by
            have := hfalls s next hbody
            omega
          obtain ⟨r, hr⟩ := ih hnext
          exact ⟨r, by rwa [run_succ_of_again hbody]⟩

/-- The rule of loops: what holds at the start and is kept by every further turn holds of the
state in which the last turn begins. -/
theorem exists_last_turn {I : σ → Prop} (hpres : ∀ s s', I s → body s = .again s' → I s')
    (hs : I s) (h : run body turns s = some result) : ∃ last, I last ∧ body last = .done result := by
  induction turns generalizing s with
  | zero => simp [run] at h
  | succ turns ih =>
      cases hbody : body s with
      | done r =>
          have hr : r = result := by simpa [run, hbody] using h
          exact ⟨s, hs, by rw [hbody, hr]⟩
      | again next =>
          rw [run_succ_of_again hbody] at h
          exact ih (hpres s next hs hbody) h

end Loop
