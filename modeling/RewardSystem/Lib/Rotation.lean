import Mathlib.Data.List.Sort
import Mathlib.Order.Basic
import Mathlib.Tactic.Order

/-!
# Taking turns around a table

Places are numbered around a table. A round that starts behind the place `a` visits the places above
`a` in order and then those from the lowest up to `a` itself.
-/

namespace Rotation

variable {α : Type*} [LinearOrder α]

/-- The round that starts behind `a` visits `x` before `y`. -/
def Visits (a x y : α) : Prop :=
  (a < x ∧ (y ≤ a ∨ x < y)) ∨ (x ≤ a ∧ y ≤ a ∧ x < y)

instance (a x y : α) : Decidable (Visits a x y) :=
  inferInstanceAs (Decidable (_ ∨ _))

/-- `p` is the first place with `S` of the round that starts behind `a`. -/
def IsNext (S : α → Prop) (a p : α) : Prop :=
  S p ∧ ∀ y, S y → y ≠ p → Visits a p y

/-- Behind the first place of a round the other places come in the same order as before. -/
theorem visits_of_visits_next {a p x y : α} (hx : Visits a p x) (hy : Visits a p y)
    (h : Visits p x y) : Visits a x y := by
  unfold Visits at *
  rcases hx with ⟨h1, h2 | h2⟩ | ⟨h1, h2, h3⟩ <;> rcases hy with ⟨h4, h5 | h5⟩ | ⟨h4, h5, h6⟩ <;>
    rcases h with ⟨h7, h8 | h8⟩ | ⟨h7, h8, h9⟩ <;> grind

/-- The place that just had its turn comes last. -/
theorem not_visits_of_start (p y : α) : ¬Visits p p y := by
  unfold Visits
  rintro (⟨h, -⟩ | ⟨-, h, h'⟩) <;> order

/-- The places that still wait (`T`) come before the others. -/
def WaitingFirst (S T : α → Prop) (a : α) : Prop :=
  ∀ x y, S x → S y → Visits a x y → T y → T x

/-- If anyone still waits, the first place does. -/
theorem WaitingFirst.next {S T : α → Prop} {a p y : α} (h : WaitingFirst S T a)
    (hp : IsNext S a p) (hy : S y) (hwaits : T y) : T p := by
  by_cases hne : y = p
  · exact hne ▸ hwaits
  · exact h p y hp.1 hy (hp.2 y hy hne) hwaits

/-- After the turn of the first place `p`, the round goes on behind `p`: nobody but `p` stops
waiting, and places may drop out. -/
theorem WaitingFirst.advance {S T S' T' : α → Prop} {a p : α} (h : WaitingFirst S T a)
    (hp : IsNext S a p) (hS : ∀ x, S' x → S x) (hT : ∀ x, S' x → T' x → T x)
    (hkeeps : ∀ x, S' x → x ≠ p → T x → T' x) (hdone : S' p → ¬T' p) :
    WaitingFirst S' T' p := by
  intro x y hx hy hvisits hwaits
  have hyp : y ≠ p := fun heq => hdone (heq ▸ hy) (heq ▸ hwaits)
  have hxp : x ≠ p := fun heq => not_visits_of_start p y (heq ▸ hvisits)
  have hbefore : Visits a x y :=
    visits_of_visits_next (hp.2 x (hS x hx) hxp) (hp.2 y (hS y hy) hyp) hvisits
  exact hkeeps x hx hxp (h x y (hS x hx) (hS y hy) hbefore (hT y hy hwaits))

/-- When all others wait, the place that just had its turn comes last. -/
theorem waitingFirst_of_others {S T : α → Prop} {p : α} (h : ∀ x, S x → x ≠ p → T x) :
    WaitingFirst S T p :=
  fun x y hx _ hvisits _ => h x hx fun heq => not_visits_of_start p y (heq ▸ hvisits)

theorem waitingFirst_of_forall {S T : α → Prop} (a : α) (h : ∀ x, S x → T x) :
    WaitingFirst S T a :=
  fun x _ hx _ _ _ => h x hx

/-- The first place behind `a` of a list that goes up. -/
def next (places : List α) (a : α) : Option α :=
  (places.find? (a < ·)).or places.head?

theorem next_eq_none {places : List α} {a : α} : next places a = none ↔ places = [] := by
  cases places <;> simp [next]

theorem isNext_of_next {places : List α} {a p : α} (hsorted : places.Pairwise (· < ·))
    (h : next places a = some p) : IsNext (· ∈ places) a p := by
  unfold next at h
  cases hfind : places.find? (a < ·) with
  | some q =>
      have hq : q = p := by simpa [hfind] using h
      subst hq
      obtain ⟨hgt, before, after, rfl, hbefore⟩ := List.find?_eq_some_iff_append.mp hfind
      refine ⟨by simp, fun y hy hne => .inl ⟨by simpa using hgt, ?_⟩⟩
      rcases List.mem_append.mp hy with hy | hy
      · exact .inl (by simpa using hbefore y hy)
      · rcases List.mem_cons.mp hy with hy | hy
        · exact absurd hy hne
        · exact .inr ((List.pairwise_cons.mp (List.pairwise_append.mp hsorted).2.1).1 y hy)
  | none =>
      have hle : ∀ y ∈ places, y ≤ a := by simpa using hfind
      have hhead : places.head? = some p := by simpa [hfind] using h
      obtain ⟨rest, rfl⟩ := List.head?_eq_some_iff.mp hhead
      refine ⟨by simp, fun y hy hne => .inr ⟨hle p (by simp), hle y hy, ?_⟩⟩
      rcases List.mem_cons.mp hy with hy | hy
      · exact absurd hy hne
      · exact (List.pairwise_cons.mp hsorted).1 y hy

end Rotation
