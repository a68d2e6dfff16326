import Mathlib.Data.List.Forall2

namespace RewardSystem

/-- The errors the services throw. A thrown error rolls the surrounding transaction back. -/
inductive ApiError where
  | badRequest (message : String)
  | forbidden (message : String)
  | notFound (message : String)
  | conflict (message : String)
  | unprocessableEntity (message : String)
  | serviceUnavailable (message : String)
  | internalInvariant (message : String)
  | persistence (message : String)
  deriving DecidableEq, Repr

namespace ApiError

variable {α β : Type}

/-- `if (…) throw …` -/
def throwIf (condition : Prop) [Decidable condition] (error : ApiError) : Except ApiError Unit :=
  if condition then .error error else .ok ()

@[simp]
theorem throwIf_eq_ok (condition : Prop) [Decidable condition] (error : ApiError) (u : Unit) :
    throwIf condition error = .ok u ↔ ¬condition := by
  by_cases h : condition <;> simp [throwIf, h]

theorem bind_eq_ok {x : Except ApiError α} {f : α → Except ApiError β} {b : β} :
    (x >>= f) = .ok b ↔ ∃ a, x = .ok a ∧ f a = .ok b := by
  cases x <;> simp [bind, Except.bind]

theorem map_eq_ok {x : Except ApiError α} {f : α → β} {b : β} :
    x.map f = .ok b ↔ ∃ a, x = .ok a ∧ f a = b := by
  cases x <;> simp [Except.map]

theorem exists_ok_of_check {x : Except ApiError α} {check : α → Bool}
    (h : (match x with
      | .ok a => check a
      | .error _ => false) = true) : ∃ a, x = .ok a ∧ check a = true := by
  cases x with
  | error e => simp at h
  | ok a => exact ⟨a, rfl, h⟩

theorem forall₂_of_mapM {f : α → Except ApiError β} {as : List α} {bs : List β}
    (h : as.mapM f = .ok bs) : List.Forall₂ (fun a b => f a = .ok b) as bs := by
  induction as generalizing bs with
  | nil =>
      obtain rfl : [] = bs := by simpa [pure, Except.pure] using h
      exact .nil
  | cons a rest ih =>
      rw [List.mapM_cons] at h
      obtain ⟨b, hb, h⟩ := bind_eq_ok.mp h
      obtain ⟨more, hmore, h⟩ := bind_eq_ok.mp h
      obtain rfl : b :: more = bs := by simpa [pure, Except.pure] using h
      exact .cons hb (ih hmore)

theorem mapM_eq_ok {f : α → Except ApiError β} {g : α → β} {as : List α}
    (h : ∀ a ∈ as, f a = .ok (g a)) : as.mapM f = .ok (as.map g) := by
  induction as with
  | nil => rfl
  | cons a rest ih =>
      rw [List.mapM_cons, h a (by simp), ih fun b hb => h b (by simp [hb])]
      rfl

end ApiError

end RewardSystem
