import RewardSystem.Lib.Runs

/-!
# What has held since a moment of a run

A run remembers where it comes from: something held at one of its states, and holds still unless a
step of some kind has been taken since.
-/

namespace Transition

variable {σ ι : Type*} {step : σ → ι → σ → Prop} {s t u : σ} {i : ι} {events : List (Event σ ι)}

/-- **The history rule.** What holds of the first state with nothing behind it, and of a state and
what lies behind it together with each step from there, holds of every run. -/
theorem Run.with_history {I : List (Event σ ι) → σ → Prop}
    (hpres : ∀ history u i v, I history u → step u i v → I (history ++ [⟨u, i, v⟩]) v)
    (hrun : Run step s events t) (hs : I [] s) : I events t := by
  have hfrom : ∀ history, I history s → I (history ++ events) t := by
    clear hs
    induction hrun with
    | nil =>
        intro history hhistory
        rwa [List.append_nil]
    | @cons s m t i events hstep _ ih =>
        intro history hhistory
        have hnext := ih (history ++ [⟨s, i, m⟩]) (hpres history s i m hhistory hstep)
        rwa [List.append_assoc] at hnext
  exact hfrom [] hs

theorem Run.snoc (hrun : Run step s events t) (hstep : step t i u) :
    Run step s (events ++ [⟨t, i, u⟩]) u :=
  hrun.append (.cons hstep (.nil u))

/-- `M` held of a state of the run, and `N` holds at its end unless a step after that state has met
`C`. -/
def Since (step : σ → ι → σ → Prop) (s : σ) (events : List (Event σ ι)) (t : σ) (M : σ → Prop)
    (C : Event σ ι → Prop) (N : σ → Prop) : Prop :=
  ∃ earlier m later, events = earlier ++ later ∧ Run step s earlier m ∧ Run step m later t ∧ M m ∧
    ((∀ e ∈ later, ¬C e) → N t)

namespace Since

variable {M N : σ → Prop} {C : Event σ ι → Prop}

theorem now (hrun : Run step s events t) (hM : M t) (hN : N t) : Since step s events t M C N :=
  ⟨events, t, [], (List.append_nil _).symm, hrun, .nil t, hM, fun _ => hN⟩

/-- The moment is the state before the last step. -/
theorem before_step (hrun : Run step s events t) (hM : M t) (hstep : step t i u) (hN : N u) :
    Since step s (events ++ [⟨t, i, u⟩]) u M C N :=
  ⟨events, t, [⟨t, i, u⟩], rfl, hrun, .cons hstep (.nil u), hM, fun _ => hN⟩

/-- A step that does not meet `C` and keeps `N`, or that meets `C`, keeps the moment. -/
theorem later (hsince : Since step s events t M C N) (hstep : step t i u)
    (hkeeps : ¬C ⟨t, i, u⟩ → N t → N u) : Since step s (events ++ [⟨t, i, u⟩]) u M C N := by
  obtain ⟨earlier, m, later, rfl, hearlier, hlater, hM, hN⟩ := hsince
  refine ⟨earlier, m, later ++ [⟨t, i, u⟩], List.append_assoc _ _ _, hearlier, hlater.snoc hstep,
    hM, fun hclear => ?_⟩
  have hlast := hclear ⟨t, i, u⟩ (List.mem_append_right _ (List.mem_singleton_self _))
  exact hkeeps hlast (hN fun e he => hclear e (List.mem_append_left _ he))

end Since

end Transition
