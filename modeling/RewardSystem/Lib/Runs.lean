import Mathlib.Data.List.Basic
import Mathlib.Tactic.Common

/-!
# Runs of a transition relation

A run is a finite chain of steps. Every step is kept together with the states around it, so that
a condition on the steps of a run and a property of the states it visits can both be stated.
-/

namespace Transition

variable {σ ι : Type*}

/-- One step of a run with the states before and after it. -/
structure Event (σ ι : Type*) where
  before : σ
  label : ι
  after : σ

/-- `Run step s events t`: the `events`, each a step, lead from `s` to `t`. -/
inductive Run (step : σ → ι → σ → Prop) : σ → List (Event σ ι) → σ → Prop
  | nil (s : σ) : Run step s [] s
  | cons {s m t : σ} {i : ι} {events : List (Event σ ι)} :
      step s i m → Run step m events t → Run step s (⟨s, i, m⟩ :: events) t

/-- The transition relation of a machine that may refuse an input. -/
def Accepts {ε : Type*} (machine : σ → ι → Except ε σ) (s : σ) (i : ι) (t : σ) : Prop :=
  machine s i = .ok t

/-- The transition relation of a machine that takes every input. -/
def Takes (machine : σ → ι → σ) (s : σ) (i : ι) (t : σ) : Prop :=
  machine s i = t

/-- The events of a list of inputs to a machine that takes them all. -/
def visits (machine : σ → ι → σ) : σ → List ι → List (Event σ ι)
  | _, [] => []
  | s, i :: inputs => ⟨s, i, machine s i⟩ :: visits machine (machine s i) inputs

/-- The events of a list of inputs, none of them refused, and the state they lead to. -/
def trace {ε : Type*} (machine : σ → ι → Except ε σ) :
    σ → List ι → Except ε (List (Event σ ι) × σ)
  | s, [] => .ok ([], s)
  | s, i :: inputs =>
      match machine s i with
      | .error e => .error e
      | .ok m =>
          match trace machine m inputs with
          | .error e => .error e
          | .ok (events, t) => .ok (⟨s, i, m⟩ :: events, t)

namespace Run

variable {step : σ → ι → σ → Prop} {s m t : σ} {events rest : List (Event σ ι)}

theorem append (hfirst : Run step s events m) (hrest : Run step m rest t) :
    Run step s (events ++ rest) t := by
  induction hfirst with
  | nil => exact hrest
  | cons hstep _ ih => exact .cons hstep (ih hrest)

theorem split {e : Event σ ι} {earlier later : List (Event σ ι)}
    (hrun : Run step s (earlier ++ e :: later) t) :
    Run step s earlier e.before ∧ step e.before e.label e.after ∧ Run step e.after later t := by
  induction earlier generalizing s with
  | nil =>
      cases hrun with
      | cons hstep hrest => exact ⟨.nil _, hstep, hrest⟩
  | cons head earlier ih =>
      cases hrun with
      | cons hstep hrest =>
          obtain ⟨hearlier, hlast⟩ := ih hrest
          exact ⟨.cons hstep hearlier, hlast⟩

theorem step_of_mem (hrun : Run step s events t) {e : Event σ ι} (he : e ∈ events) :
    step e.before e.label e.after := by
  induction hrun with
  | nil => simp at he
  | cons hstep _ ih =>
      rcases List.mem_cons.mp he with rfl | he
      · exact hstep
      · exact ih he

/-- An invariant that every step meeting `C` preserves holds around every step of a run whose
steps all meet `C`, and at its end. -/
theorem invariant_of_forall {I : σ → Prop} {C : Event σ ι → Prop}
    (hpres : ∀ u i v, I u → step u i v → C ⟨u, i, v⟩ → I v)
    (hrun : Run step s events t) (hs : I s) (hok : ∀ e ∈ events, C e) :
    (∀ e ∈ events, I e.before ∧ I e.after) ∧ I t := by
  induction hrun with
  | nil => exact ⟨by simp, hs⟩
  | @cons s m t i events hstep _ ih =>
      have hm : I m := hpres s i m hs hstep (hok _ (by simp))
      obtain ⟨hall, hend⟩ := ih hm fun e he => hok e (by simp [he])
      refine ⟨?_, hend⟩
      intro e he
      rcases List.mem_cons.mp he with rfl | he
      · exact ⟨hs, hm⟩
      · exact hall e he

/-- **The invariant rule.** What every step preserves holds at the end of every run. -/
theorem invariant {I : σ → Prop} (hpres : ∀ u i v, I u → step u i v → I v)
    (hrun : Run step s events t) (hs : I s) : I t :=
  (invariant_of_forall (C := fun _ => True)
    (fun u i v hu huv _ => hpres u i v hu huv) hrun hs (by simp)).2

theorem invariant_around {I : σ → Prop} (hpres : ∀ u i v, I u → step u i v → I v)
    (hrun : Run step s events t) (hs : I s) {e : Event σ ι} (he : e ∈ events) :
    I e.before ∧ I e.after :=
  (invariant_of_forall (C := fun _ => True)
    (fun u i v hu huv _ => hpres u i v hu huv) hrun hs (by simp)).1 e he

/-- Where `I` holds, a step has `P` exactly if it meets `C`, and then `I` holds again: all steps of a
run have `P` exactly if they all meet `C`. -/
theorem forall_iff_of_guard {I : σ → Prop} {P C : Event σ ι → Prop}
    (hiff : ∀ u i v, I u → step u i v → (P ⟨u, i, v⟩ ↔ C ⟨u, i, v⟩))
    (hpres : ∀ u i v, I u → step u i v → C ⟨u, i, v⟩ → I v)
    (hrun : Run step s events t) (hs : I s) :
    (∀ e ∈ events, P e) ↔ ∀ e ∈ events, C e := by
  induction hrun with
  | nil => simp
  | @cons s m t i events hstep _ ih =>
      have hhead : P ⟨s, i, m⟩ ↔ C ⟨s, i, m⟩ := hiff s i m hs hstep
      simp only [List.forall_mem_cons]
      constructor
      · rintro ⟨hm, hrest⟩
        exact ⟨hhead.mp hm, (ih (hpres s i m hs hstep (hhead.mp hm))).mp hrest⟩
      · rintro ⟨hok, hrest⟩
        exact ⟨hhead.mpr hok, (ih (hpres s i m hs hstep hok)).mpr hrest⟩

/-- Where `I` holds, a step leads into `P` exactly if it meets `C`, and then `I` holds again: a run
visits states of `P` only exactly if all its steps meet `C`. -/
theorem forall_after_iff_of_guard {I P : σ → Prop} {C : Event σ ι → Prop}
    (hiff : ∀ u i v, I u → step u i v → (P v ↔ C ⟨u, i, v⟩))
    (hpres : ∀ u i v, I u → step u i v → P v → I v)
    (hrun : Run step s events t) (hs : I s) :
    (∀ e ∈ events, P e.after) ↔ ∀ e ∈ events, C e :=
  forall_iff_of_guard hiff
    (fun u i v hu hstep hok => hpres u i v hu hstep ((hiff u i v hu hstep).mpr hok)) hrun hs

/-- When a step keeps `I` exactly if it meets `C`, a run keeps `I` throughout exactly if all its
steps meet `C`. -/
theorem forall_after_iff {I : σ → Prop} {C : Event σ ι → Prop}
    (hiff : ∀ u i v, I u → step u i v → (I v ↔ C ⟨u, i, v⟩))
    (hrun : Run step s events t) (hs : I s) :
    (∀ e ∈ events, I e.after) ↔ ∀ e ∈ events, C e :=
  forall_after_iff_of_guard hiff (fun _ _ _ _ _ hm => hm) hrun hs

/-- **The measure rule.** Where a measure falls with every step, it bounds the length of a run. -/
theorem length_le_of_measure {I : σ → Prop} (μ : σ → Nat)
    (hfalls : ∀ u i v, I u → step u i v → I v ∧ μ v < μ u)
    (hrun : Run step s events t) (hs : I s) : events.length + μ t ≤ μ s := by
  induction hrun with
  | nil => simp
  | @cons s m t i events hstep _ ih =>
      obtain ⟨hm, hlt⟩ := hfalls s i m hs hstep
      have := ih hm
      simp only [List.length_cons]
      omega

/-- What is entered and never left is entered once, if at all. -/
theorem countP_entering {I P : σ → Prop} {Q : Event σ ι → Prop} [DecidablePred P] [DecidablePred Q]
    (hpres : ∀ u i v, I u → step u i v → I v) (hstays : ∀ u i v, I u → step u i v → P u → P v)
    (henters : ∀ u i v, I u → step u i v → (Q ⟨u, i, v⟩ ↔ ¬P u ∧ P v))
    (hrun : Run step s events t) (hs : I s) :
    (if P s then 1 else 0) + events.countP (fun e => Q e) = if P t then 1 else 0 := by
  induction hrun with
  | nil => simp
  | @cons s m t i events hstep _ ih =>
      have hrest := ih (hpres s i m hs hstep)
      have hquit := henters s i m hs hstep
      rw [List.countP_cons, ← hrest]
      by_cases hP : P s
      · have hm := hstays s i m hs hstep hP
        simp [hP, hm, hquit]
      · by_cases hm : P m
        · simp [hP, hm, hquit, Nat.add_comm]
        · simp [hP, hm, hquit]

/-- A run whose steps all meet `C` is a run of the steps that meet it. -/
theorem restrict {C : Event σ ι → Prop} (hrun : Run step s events t) (hok : ∀ e ∈ events, C e) :
    Run (fun u i v => step u i v ∧ C ⟨u, i, v⟩) s events t := by
  induction hrun with
  | nil => exact .nil _
  | cons hstep _ ih =>
      exact .cons ⟨hstep, hok _ (by simp)⟩ (ih fun e he => hok e (by simp [he]))

/-- `e` is a step into `P`, and the run stays there in all the `later` steps. -/
structure Entrance (step : σ → ι → σ → Prop) (P : σ → Prop) (s : σ) (earlier : List (Event σ ι))
    (e : Event σ ι) (later : List (Event σ ι)) (t : σ) : Prop where
  leads : Run step s earlier e.before
  outside : ¬P e.before
  enters : step e.before e.label e.after
  inside : P e.after
  follows : Run step e.after later t
  stays : ∀ e' ∈ later, P e'.before ∧ P e'.after

theorem inside_or_entrance {P : σ → Prop} (hrun : Run step s events t) (ht : P t) :
    (P s ∧ ∀ e ∈ events, P e.before ∧ P e.after) ∨
      ∃ earlier e later, events = earlier ++ e :: later ∧ Entrance step P s earlier e later t := by
  induction hrun with
  | nil => exact .inl ⟨ht, by simp⟩
  | @cons s m t i events hstep hrest ih =>
      rcases ih ht with ⟨hm, hall⟩ | ⟨earlier, e, later, rfl, hentrance⟩
      · by_cases hs : P s
        · left
          refine ⟨hs, fun e he => ?_⟩
          rcases List.mem_cons.mp he with rfl | he
          · exact ⟨hs, hm⟩
          · exact hall e he
        · exact .inr ⟨[], ⟨s, i, m⟩, events, rfl, .nil s, hs, hstep, hm, hrest, hall⟩
      · exact .inr ⟨⟨s, i, m⟩ :: earlier, e, later, rfl,
          { hentrance with leads := .cons hstep hentrance.leads }⟩

/-- A run from outside `P` into `P` has a last step that enters it. -/
theorem exists_entrance {P : σ → Prop} (hrun : Run step s events t) (hs : ¬P s) (ht : P t) :
    ∃ earlier e later, events = earlier ++ e :: later ∧ Entrance step P s earlier e later t := by
  rcases inside_or_entrance hrun ht with ⟨hin, -⟩ | hentrance
  · exact absurd hin hs
  · exact hentrance

/-- A run of one relation is a run of any relation that allows the same steps under other
labels. -/
theorem map {ι' : Type*} {step' : σ → ι' → σ → Prop} (f : ι → ι')
    (hstep : ∀ u i v, step u i v → step' u (f i) v) (hrun : Run step s events t) :
    Run step' s (events.map fun e => ⟨e.before, f e.label, e.after⟩) t := by
  induction hrun with
  | nil => exact .nil _
  | cons h _ ih => exact .cons (hstep _ _ _ h) ih

theorem of_trace {ε : Type*} {machine : σ → ι → Except ε σ} {inputs : List ι}
    (htrace : trace machine s inputs = .ok (events, t)) :
    Run (Accepts machine) s events t := by
  induction inputs generalizing s events with
  | nil =>
      obtain ⟨rfl, rfl⟩ : [] = events ∧ s = t := by simpa [trace] using htrace
      exact .nil s
  | cons i inputs ih =>
      cases hstep : machine s i with
      | error e => simp [trace, hstep] at htrace
      | ok m =>
          cases hrest : trace machine m inputs with
          | error e => simp [trace, hstep, hrest] at htrace
          | ok result =>
              obtain ⟨later, u⟩ := result
              obtain ⟨rfl, rfl⟩ : ⟨s, i, m⟩ :: later = events ∧ u = t := by
                simpa [trace, hstep, hrest] using htrace
              exact .cons hstep (ih hrest)

theorem of_visits (machine : σ → ι → σ) (s : σ) (inputs : List ι) :
    Run (Takes machine) s (visits machine s inputs) (inputs.foldl machine s) := by
  induction inputs generalizing s with
  | nil => exact .nil s
  | cons i inputs ih => exact .cons rfl (ih (machine s i))

/-- A run found by evaluation. -/
theorem exists_of_check {ε : Type*} (machine : σ → ι → Except ε σ) (s : σ) (inputs : List ι)
    (check : List (Event σ ι) → σ → Bool)
    (h : (match trace machine s inputs with
      | .ok (events, t) => check events t
      | .error _ => false) = true) :
    ∃ events t, Run (Accepts machine) s events t ∧ check events t = true := by
  cases htrace : trace machine s inputs with
  | error e => simp [htrace] at h
  | ok result => exact ⟨result.1, result.2, of_trace htrace, by simpa [htrace] using h⟩

end Run

/-- Where a measure falls with every step, no chain of steps goes on for ever. -/
theorem not_endless_of_measure {step : σ → ι → σ → Prop} {I : σ → Prop} (μ : σ → Nat)
    (hfalls : ∀ u i v, I u → step u i v → I v ∧ μ v < μ u) {states : Nat → σ} (hs : I (states 0)) :
    ¬∀ n, ∃ i, step (states n) i (states (n + 1)) := by
  intro hsteps
  have hbound : ∀ n, I (states n) ∧ n + μ (states n) ≤ μ (states 0) := by
    intro n
    induction n with
    | zero => exact ⟨hs, by simp⟩
    | succ n ih =>
        obtain ⟨i, hstep⟩ := hsteps n
        obtain ⟨hI, hlt⟩ := hfalls _ i _ ih.1 hstep
        exact ⟨hI, by have := ih.2; omega⟩
  have := (hbound (μ (states 0) + 1)).2
  omega

end Transition
