import Mathlib.Data.List.Forall2
import Mathlib.Data.List.Perm.Basic
import Mathlib.Data.List.Nodup
import Mathlib.Data.String.Basic
import Mathlib.Tactic.Common

/-!
# Sorting the keys of JSON values

The canonical form of a JSON value has the fields of every object sorted by their keys. The sort is
stable, and the order of the keys is only a preorder: keys that it does not tell apart keep the places
that they have in the object.
-/

namespace CanonicalJson

/-- A JSON value, with the fields of an object in their order. -/
inductive Json (ν : Type) where
  | null
  | boolean (value : Bool)
  | number (value : ν)
  | string (value : String)
  | array (values : List (Json ν))
  | object (fields : List (String × Json ν))

namespace Json

variable {ν β : Type}

/-- A value that has no parts. -/
def IsScalar : Json ν → Prop
  | .array _ | .object _ => False
  | _ => True

mutual

/-- Recursion over the parts of a value. -/
def fold (scalar : Json ν → β) (array : List β → β) (object : List (String × β) → β) : Json ν → β
  | .array values => array (foldValues scalar array object values)
  | .object fields => object (foldFields scalar array object fields)
  | value => scalar value

def foldValues (scalar : Json ν → β) (array : List β → β) (object : List (String × β) → β) :
    List (Json ν) → List β
  | [] => []
  | value :: values => fold scalar array object value :: foldValues scalar array object values

def foldFields (scalar : Json ν → β) (array : List β → β) (object : List (String × β) → β) :
    List (String × Json ν) → List (String × β)
  | [] => []
  | (key, value) :: fields =>
      (key, fold scalar array object value) :: foldFields scalar array object fields

end

section Fold

variable {scalar : Json ν → β} {array : List β → β} {object : List (String × β) → β}

theorem fold_scalar {value : Json ν} (h : value.IsScalar) :
    value.fold scalar array object = scalar value := by
  cases value with
  | array | object => exact h.elim
  | null | boolean | number | string => rfl

theorem fold_array {values : List (Json ν)} :
    (Json.array values).fold scalar array object =
      array (values.map fun value => value.fold scalar array object) := by
  have hvalues : foldValues scalar array object values =
      values.map fun value => value.fold scalar array object := by
    induction values with
    | nil => rfl
    | cons value values ih => rw [foldValues, ih, List.map_cons]
  rw [fold, hvalues]

theorem fold_object {fields : List (String × Json ν)} :
    (Json.object fields).fold scalar array object =
      object (fields.map fun field => (field.1, field.2.fold scalar array object)) := by
  have hfields : foldFields scalar array object fields =
      fields.map fun field => (field.1, field.2.fold scalar array object) := by
    induction fields with
    | nil => rfl
    | cons field fields ih => rw [foldFields, ih, List.map_cons]
  rw [fold, hfields]

end Fold

/-- Induction over the parts of a value. -/
@[elab_as_elim]
theorem parts_induction {motive : Json ν → Prop}
    (scalar : ∀ value, value.IsScalar → motive value)
    (array : ∀ values, (∀ value ∈ values, motive value) → motive (.array values))
    (object : ∀ fields, (∀ field ∈ fields, motive field.2) → motive (.object fields))
    (value : Json ν) : motive value :=
  @Json.rec ν motive (fun values => ∀ value ∈ values, motive value)
    (fun fields => ∀ field ∈ fields, motive field.2) (fun field => motive field.2)
    (scalar .null trivial) (fun flag => scalar (.boolean flag) trivial)
    (fun amount => scalar (.number amount) trivial) (fun text => scalar (.string text) trivial)
    array object
    (List.forall_mem_nil _) (fun _ _ hfirst hrest => List.forall_mem_cons.mpr ⟨hfirst, hrest⟩)
    (List.forall_mem_nil _) (fun _ _ hfirst hrest => List.forall_mem_cons.mpr ⟨hfirst, hrest⟩)
    (fun _ _ hvalue => hvalue) value

end Json

/-! ## Orders of keys -/

/-- A comparison of keys that may not tell different keys apart. -/
structure Collation where
  le : String → String → Bool
  trans : ∀ a b c, le a b → le b c → le a c
  total : ∀ a b, le a b || le b a

namespace Collation

def Ties (order : Collation) (a b : String) : Prop :=
  order.le a b ∧ order.le b a

def Strict (order : Collation) : Prop :=
  ∀ a b, order.le a b → order.le b a → a = b

def codePoints : Collation where
  le a b := a ≤ b
  trans a b c hab hbc := decide_eq_true ((of_decide_eq_true hab).trans (of_decide_eq_true hbc))
  total a b := by simpa using le_total a b

theorem codePoints_strict : codePoints.Strict :=
  fun _ _ hab hba => le_antisymm (of_decide_eq_true hab) (of_decide_eq_true hba)

/-- The second order decides where the first one ties. -/
def lex (first second : Collation) : Collation where
  le a b := first.le a b && (!first.le b a || second.le a b)
  trans a b c hab hbc := by
    simp only [Bool.and_eq_true, Bool.or_eq_true, Bool.not_eq_true'] at hab hbc ⊢
    obtain ⟨hab, habSecond⟩ := hab
    obtain ⟨hbc, hbcSecond⟩ := hbc
    refine ⟨first.trans a b c hab hbc, ?_⟩
    by_cases hca : first.le c a = true
    · have hba := first.trans b c a hbc hca
      have hcb := first.trans c a b hca hab
      refine .inr (second.trans a b c ?_ ?_)
      · exact habSecond.resolve_left (by simp [hba])
      · exact hbcSecond.resolve_left (by simp [hcb])
    · exact .inl (by simpa using hca)
  total a b := by
    have hfirst := first.total a b
    have hsecond := second.total a b
    cases hab : first.le a b <;> cases hba : first.le b a <;> simp_all

theorem lex_strict {first second : Collation} (h : second.Strict) : (first.lex second).Strict := by
  intro a b hab hba
  simp only [lex, Bool.and_eq_true, Bool.or_eq_true, Bool.not_eq_true'] at hab hba
  refine h a b (hab.2.resolve_left ?_) (hba.2.resolve_left ?_)
  · simp [hba.1]
  · simp [hab.1]

/-- The keys that have a place come first, in the order of their places. -/
def places (place : String → Option Nat) : Collation where
  le a b :=
    match place a, place b with
    | some i, some j => i ≤ j
    | _, none => true
    | none, some _ => false
  trans a b c := by
    cases place a <;> cases place b <;> cases place c <;> simp
    omega
  total a b := by
    cases place a <;> cases place b <;> simp
    omega

/-- Ties are decided by the places of the keys. -/
def refined (order : Collation) (place : String → Option Nat) : Collation :=
  order.lex ((places place).lex codePoints)

theorem refined_strict {order : Collation} {place : String → Option Nat} :
    (order.refined place).Strict :=
  lex_strict (lex_strict codePoints_strict)

section Sorting

variable {β γ : Type} (order : Collation)

def sort (fields : List (String × β)) : List (String × β) :=
  fields.mergeSort fun x y => order.le x.1 y.1

variable {order} {fields others : List (String × β)}

theorem sort_perm : (order.sort fields).Perm fields :=
  List.mergeSort_perm ..

theorem sort_pairwise : (order.sort fields).Pairwise fun x y => order.le x.1 y.1 :=
  List.pairwise_mergeSort (fun x y z => order.trans x.1 y.1 z.1) (fun x y => order.total x.1 y.1)
    fields

/-- Tied fields keep their places. -/
theorem pair_sublist_sort {x y : String × β} (hle : order.le x.1 y.1) (h : [x, y].Sublist fields) :
    [x, y].Sublist (order.sort fields) :=
  List.pair_sublist_mergeSort (fun x y z => order.trans x.1 y.1 z.1)
    (fun x y => order.total x.1 y.1) hle h

/-- The sort looks at the keys only. -/
theorem map_sort (f : β → γ) : (order.sort fields).map (Prod.map id f) =
    order.sort (fields.map (Prod.map id f)) :=
  List.map_mergeSort fun _ _ _ _ => rfl

theorem map_fst_map {f : β → γ} : (fields.map (Prod.map id f)).map Prod.fst =
    fields.map Prod.fst := by
  rw [List.map_map]
  rfl

theorem eq_of_mem_of_fst_eq {x y : String × β} (hunique : (fields.map Prod.fst).Nodup)
    (hx : x ∈ fields) (hy : y ∈ fields) (h : x.1 = y.1) : x = y :=
  List.inj_on_of_nodup_map hunique hx hy h

/-- A strict order brings fields of different keys in one order. -/
theorem sort_eq_of_perm (hstrict : order.Strict) (hunique : (fields.map Prod.fst).Nodup)
    (h : others.Perm fields) : order.sort others = order.sort fields := by
  refine List.Perm.eq_of_pairwise (fun x y hx hy hxy hyx => ?_) sort_pairwise sort_pairwise
    ((sort_perm.trans h).trans sort_perm.symm)
  exact eq_of_mem_of_fst_eq hunique (h.subset (sort_perm.subset hx)) (sort_perm.subset hy)
    (hstrict _ _ hxy hyx)

/-- Fields of the same keys that are sorted to the same list are the same. -/
theorem eq_of_sort_eq (hunique : (fields.map Prod.fst).Nodup)
    (hkeys : others.map Prod.fst = fields.map Prod.fst) (h : order.sort others = order.sort fields) :
    others = fields := by
  have hperm : others.Perm fields := sort_perm.symm.trans (h.symm ▸ sort_perm)
  clear h
  induction fields generalizing others with
  | nil => exact hperm.eq_nil
  | cons field fields ih =>
      cases others with
      | nil => exact absurd hkeys (by simp)
      | cons other others =>
          rw [List.map_cons, List.map_cons, List.cons.injEq] at hkeys
          have hsame : other = field :=
            eq_of_mem_of_fst_eq hunique (hperm.subset List.mem_cons_self) List.mem_cons_self hkeys.1
          subst hsame
          rw [ih (List.nodup_cons.mp hunique).2 hkeys.2 hperm.cons_inv]

end Sorting

end Collation

/-! ## Values with sorted keys -/

namespace Json

variable {ν : Type}

/-- The fields of every object are sorted. -/
def sortKeys (order : Collation) : Json ν → Json ν :=
  fold id .array fun fields => .object (order.sort fields)

/-- The keys of every object meet a condition. -/
def AllObjects (condition : List String → Prop) : Json ν → Prop :=
  fold (fun _ => True) (fun parts => ∀ part ∈ parts, part) fun fields =>
    condition (fields.map Prod.fst) ∧ ∀ field ∈ fields, field.2

/-- The values are equal up to the order of their keys. -/
def SameContent (value other : Json ν) : Prop :=
  value.sortKeys .codePoints = other.sortKeys .codePoints

section Equations

variable {order : Collation} {condition : List String → Prop} {values : List (Json ν)}
  {fields : List (String × Json ν)} {value : Json ν}

theorem sortKeys_scalar (h : value.IsScalar) : value.sortKeys order = value :=
  fold_scalar h

@[simp]
theorem sortKeys_array : (Json.array values).sortKeys order =
    .array (values.map fun value => value.sortKeys order) :=
  fold_array

@[simp]
theorem sortKeys_object : (Json.object fields).sortKeys order =
    .object (order.sort (fields.map (Prod.map id fun value => value.sortKeys order))) :=
  fold_object

theorem allObjects_scalar (h : value.IsScalar) : value.AllObjects condition := by
  rw [AllObjects, fold_scalar h]
  trivial

@[simp]
theorem allObjects_array : (Json.array values).AllObjects condition ↔
    ∀ value ∈ values, value.AllObjects condition := by
  rw [AllObjects, fold_array, List.forall_mem_map]

@[simp]
theorem allObjects_object : (Json.object fields).AllObjects condition ↔
    condition (fields.map Prod.fst) ∧ ∀ field ∈ fields, field.2.AllObjects condition := by
  rw [AllObjects, fold_object, List.forall_mem_map, List.map_map]
  rfl

theorem AllObjects.mono {other : List String → Prop} (himp : ∀ keys, condition keys → other keys)
    (h : value.AllObjects condition) : value.AllObjects other := by
  induction value using parts_induction with
  | scalar value hscalar => exact allObjects_scalar hscalar
  | array values ih =>
      rw [allObjects_array] at h ⊢
      exact fun value hvalue => ih value hvalue (h value hvalue)
  | object fields ih =>
      rw [allObjects_object] at h ⊢
      exact ⟨himp _ h.1, fun field hfield => ih field hfield (h.2 field hfield)⟩

/-- Sorting does not change what holds of the keys in any order. -/
theorem allObjects_sortKeys
    (hperm : ∀ {keys others : List String}, keys.Perm others → (condition keys ↔ condition others)) :
    (value.sortKeys order).AllObjects condition ↔ value.AllObjects condition := by
  induction value using parts_induction with
  | scalar value hscalar => rw [sortKeys_scalar hscalar]
  | array values ih =>
      rw [sortKeys_array, allObjects_array, allObjects_array, List.forall_mem_map]
      exact forall₂_congr ih
  | object fields ih =>
      rw [sortKeys_object, allObjects_object, allObjects_object]
      refine and_congr ?_ ?_
      · rw [hperm (Collation.sort_perm.map _), Collation.map_fst_map]
      · have hmem : ∀ field : String × Json ν,
            field ∈ order.sort (fields.map (Prod.map id fun value => value.sortKeys order)) ↔
              field ∈ fields.map (Prod.map id fun value => value.sortKeys order) :=
          fun _ => Collation.sort_perm.mem_iff
        simp only [hmem, List.forall_mem_map]
        exact forall₂_congr ih

end Equations

abbrev UniqueKeys (value : Json ν) : Prop :=
  value.AllObjects List.Nodup

/-- Under a strict order it does not matter how the keys were sorted before. -/
theorem sortKeys_sortKeys {order other : Collation} (hstrict : order.Strict) {value : Json ν}
    (hunique : value.UniqueKeys) : (value.sortKeys other).sortKeys order = value.sortKeys order := by
  induction value using parts_induction with
  | scalar value hscalar => rw [sortKeys_scalar hscalar]
  | array values ih =>
      have hparts := allObjects_array.mp hunique
      rw [sortKeys_array, sortKeys_array, sortKeys_array, List.map_map]
      exact congrArg _ (List.map_congr_left fun value hvalue => ih value hvalue (hparts value hvalue))
  | object fields ih =>
      have hkeys := allObjects_object.mp hunique
      rw [sortKeys_object, sortKeys_object, sortKeys_object, Collation.map_sort, List.map_map]
      have hparts : fields.map (Prod.map id (fun value => value.sortKeys order) ∘
            Prod.map id fun value => value.sortKeys other) =
          fields.map (Prod.map id fun value => value.sortKeys order) :=
        List.map_congr_left fun field hfield =>
          Prod.ext rfl (ih field hfield (hkeys.2 field hfield))
      rw [hparts, Collation.sort_eq_of_perm hstrict _ Collation.sort_perm]
      rw [Collation.map_fst_map]
      exact hkeys.1

/-- Objects with the same keys in the same order are compared field by field. -/
theorem sortKeys_object_inj {order : Collation} {fields others : List (String × Json ν)}
    (hunique : (fields.map Prod.fst).Nodup) (hkeys : others.map Prod.fst = fields.map Prod.fst) :
    (Json.object others).sortKeys order = (Json.object fields).sortKeys order ↔
      others.map (fun field => field.2.sortKeys order) =
        fields.map fun field => field.2.sortKeys order := by
  rw [sortKeys_object, sortKeys_object, Json.object.injEq]
  constructor
  · intro h
    have hsame := Collation.eq_of_sort_eq (by rwa [Collation.map_fst_map])
      (by rwa [Collation.map_fst_map, Collation.map_fst_map]) h
    have hvalues := congrArg (List.map Prod.snd) hsame
    rwa [List.map_map, List.map_map] at hvalues
  · intro h
    have hzip : ∀ fields : List (String × Json ν),
        fields.map (Prod.map id fun value => value.sortKeys order) =
          (fields.map Prod.fst).zip (fields.map fun field => field.2.sortKeys order) := by
      intro fields
      rw [List.zip_map']
      rfl
    rw [hzip, hzip, hkeys, h]

/-! ## Ties -/

section Ties

variable (order : Collation) (place : String → Option Nat)

/-- The keys of an object: those that have a place come first, in the order of their places. -/
def Arranged (keys : List String) : Prop :=
  keys.Nodup ∧ keys.Pairwise fun a b => ∀ j, place b = some j → ∃ i, place a = some i ∧ i < j

/-- Different keys without a place are not tied. -/
def Untied (keys : List String) : Prop :=
  ∀ a ∈ keys, ∀ b ∈ keys, place a = none → place b = none → order.Ties a b → a = b

variable {order place}

theorem arranged_of_unplaced {keys : List String} (hunique : keys.Nodup)
    (hnone : ∀ key ∈ keys, place key = none) : Arranged place keys := by
  refine ⟨hunique, List.pairwise_of_forall_mem_list fun a _ b hb j hj => ?_⟩
  rw [hnone b hb] at hj
  exact nomatch hj

theorem uniqueKeys_of_arranged {value : Json ν} (h : value.AllObjects (Arranged place)) :
    value.UniqueKeys :=
  h.mono fun _ => And.left

theorem untied_perm {keys others : List String} (h : keys.Perm others) :
    Untied order place keys ↔ Untied order place others := by
  simp only [Untied, h.mem_iff]

theorem sublist_or_sublist {α : Type} {x y : α} {items : List α} (hx : x ∈ items) (hy : y ∈ items)
    (hne : x ≠ y) : [x, y].Sublist items ∨ [y, x].Sublist items := by
  obtain ⟨before, after, rfl⟩ := List.append_of_mem hx
  rcases List.mem_append.mp hy with hbefore | hafter
  · exact .inr (List.Sublist.append (List.singleton_sublist.mpr hbefore)
      (List.singleton_sublist.mpr List.mem_cons_self))
  · have hlater : y ∈ after := (List.mem_cons.mp hafter).resolve_left hne.symm
    exact .inl ((List.Sublist.cons_cons x (List.singleton_sublist.mpr hlater)).trans
      (List.sublist_append_right before _))

theorem not_sublist_swap {α : Type} {x y : α} {items : List α} (hnodup : items.Nodup)
    (h : [x, y].Sublist items) : ¬ [y, x].Sublist items := by
  induction items with
  | nil => exact fun _ => nomatch h
  | cons item items ih =>
      obtain ⟨hnew, hnodup⟩ := List.nodup_cons.mp hnodup
      intro hswap
      cases h with
      | cons _ h =>
          cases hswap with
          | cons _ hswap => exact ih hnodup h hswap
          | cons_cons _ hswap => exact hnew (h.subset (by simp))
      | cons_cons _ h =>
          cases hswap with
          | cons _ hswap => exact hnew (hswap.subset (by simp))
          | cons_cons _ hswap => exact hnew (h.subset (by simp))

/-- Without ties the fields are sorted as by the strict order. -/
theorem sort_eq_refined {β : Type} {fields : List (String × β)}
    (harranged : Arranged place (fields.map Prod.fst))
    (huntied : Untied order place (fields.map Prod.fst)) :
    order.sort fields = (order.refined place).sort fields := by
  have hunique := harranged.1
  have hfieldsNodup : (order.sort fields).Nodup :=
    Collation.sort_perm.nodup_iff.mpr (List.Nodup.of_map _ hunique)
  refine @List.Perm.eq_of_pairwise _ (fun x y => (order.refined place).le x.1 y.1) _ _
    (fun x y hx hy hxy hyx => ?_) ?_ Collation.sort_pairwise
    (Collation.sort_perm.trans Collation.sort_perm.symm)
  · exact Collation.eq_of_mem_of_fst_eq hunique (Collation.sort_perm.subset hx)
      (Collation.sort_perm.subset hy) (Collation.refined_strict _ _ hxy hyx)
  · rw [List.pairwise_iff_forall_sublist]
    intro x y hsub
    have hle : order.le x.1 y.1 = true := List.pairwise_iff_forall_sublist.mp
      Collation.sort_pairwise hsub
    have hx : x ∈ fields := Collation.sort_perm.subset (hsub.subset (by simp))
    have hy : y ∈ fields := Collation.sort_perm.subset (hsub.subset (by simp))
    have hne : x ≠ y := by
      have hpair := hfieldsNodup.sublist hsub
      simpa using hpair
    have hkeys : x.1 ≠ y.1 := fun h => hne (Collation.eq_of_mem_of_fst_eq hunique hx hy h)
    by_cases htie : order.le y.1 x.1 = true
    · have hbefore : [x, y].Sublist fields := by
        rcases sublist_or_sublist hx hy hne with hxy | hyx
        · exact hxy
        · exact absurd (Collation.pair_sublist_sort htie hyx) (not_sublist_swap hfieldsNodup hsub)
      have hplaces := List.pairwise_iff_forall_sublist.mp harranged.2 (hbefore.map Prod.fst)
      have hfirst : ((Collation.places place).lex .codePoints).le x.1 y.1 = true := by
        cases hplaceY : place y.1 with
        | some j =>
            obtain ⟨i, hplaceX, hlt⟩ := hplaces j hplaceY
            simp [Collation.lex, Collation.places, hplaceX, hplaceY]
            omega
        | none =>
            cases hplaceX : place x.1 with
            | some i => simp [Collation.lex, Collation.places, hplaceX, hplaceY]
            | none =>
                exact absurd (huntied _ (List.mem_map_of_mem hx) _ (List.mem_map_of_mem hy) hplaceX
                  hplaceY ⟨hle, htie⟩) hkeys
      change (order.lex _).le x.1 y.1 = true
      simp [Collation.lex] at hfirst ⊢
      simp [hle, hfirst]
    · change (order.lex _).le x.1 y.1 = true
      simp [Collation.lex, hle, htie]

theorem sortKeys_eq_refined {value : Json ν} (harranged : value.AllObjects (Arranged place))
    (huntied : value.AllObjects (Untied order place)) :
    value.sortKeys order = value.sortKeys (order.refined place) := by
  induction value using parts_induction with
  | scalar value hscalar => rw [sortKeys_scalar hscalar, sortKeys_scalar hscalar]
  | array values ih =>
      rw [allObjects_array] at harranged huntied
      rw [sortKeys_array, sortKeys_array]
      exact congrArg _ (List.map_congr_left fun value hvalue =>
        ih value hvalue (harranged value hvalue) (huntied value hvalue))
  | object fields ih =>
      rw [allObjects_object] at harranged huntied
      have hparts : fields.map (Prod.map id fun value => value.sortKeys order) =
          fields.map (Prod.map id fun value => value.sortKeys (order.refined place)) :=
        List.map_congr_left fun field hfield =>
          Prod.ext rfl (ih field hfield (harranged.2 field hfield) (huntied.2 field hfield))
      rw [sortKeys_object, sortKeys_object, hparts, sort_eq_refined]
      · rw [Collation.map_fst_map]
        exact harranged.1
      · rw [Collation.map_fst_map]
        exact huntied.1

/-- Without ties the sorted value depends on the content only. -/
theorem sortKeys_eq_of_sameContent {value other : Json ν}
    (harranged : value.AllObjects (Arranged place)) (hother : other.AllObjects (Arranged place))
    (huntied : value.AllObjects (Untied order place)) (h : other.SameContent value) :
    other.sortKeys order = value.sortKeys order := by
  have hotherUntied : other.AllObjects (Untied order place) := by
    rw [← allObjects_sortKeys untied_perm, h, allObjects_sortKeys untied_perm]
    exact huntied
  calc
    other.sortKeys order = other.sortKeys (order.refined place) :=
      sortKeys_eq_refined hother hotherUntied
    _ = (other.sortKeys .codePoints).sortKeys (order.refined place) :=
      (sortKeys_sortKeys Collation.refined_strict (uniqueKeys_of_arranged hother)).symm
    _ = (value.sortKeys .codePoints).sortKeys (order.refined place) := by rw [h]
    _ = value.sortKeys (order.refined place) :=
      sortKeys_sortKeys Collation.refined_strict (uniqueKeys_of_arranged harranged)
    _ = value.sortKeys order := (sortKeys_eq_refined harranged huntied).symm

/-- Values with unique keys that are sorted to the same value have the same content. -/
theorem sameContent_of_sortKeys_eq {value other : Json ν} (hunique : value.UniqueKeys)
    (hother : other.UniqueKeys) (h : other.sortKeys order = value.sortKeys order) :
    other.SameContent value := by
  rw [SameContent, ← @sortKeys_sortKeys _ _ order Collation.codePoints_strict _ hother, h,
    sortKeys_sortKeys Collation.codePoints_strict hunique]

theorem perm_swap {α : Type} {before between after : List α} {x y : α} :
    (before ++ y :: (between ++ x :: after)).Perm (before ++ x :: (between ++ y :: after)) := by
  refine List.Perm.append_left before ?_
  calc
    (y :: (between ++ x :: after)).Perm (y :: x :: (between ++ after)) :=
      List.Perm.cons y List.perm_middle
    _ |>.Perm (x :: y :: (between ++ after)) := List.Perm.swap x y _
    _ |>.Perm (x :: (between ++ y :: after)) := List.Perm.cons x List.perm_middle.symm

/-- Two keys without a place may change their places. -/
theorem Arranged.swap {before between after : List String} {a b : String} (ha : place a = none)
    (hb : place b = none) (h : Arranged place (before ++ a :: (between ++ b :: after))) :
    Arranged place (before ++ b :: (between ++ a :: after)) := by
  obtain ⟨hbefore, hrest, -⟩ := List.pairwise_append.mp h.2
  have hnone : ∀ key ∈ between ++ b :: after, place key = none := by
    intro key hkey
    cases hplace : place key with
    | none => rfl
    | some j =>
        obtain ⟨i, hi, -⟩ := List.rel_of_pairwise_cons hrest hkey j hplace
        rw [ha] at hi
        exact nomatch hi
  have hnew : ∀ key ∈ b :: (between ++ a :: after), place key = none := by
    intro key hkey
    rcases List.mem_cons.mp hkey with rfl | hkey
    · exact hb
    · rcases List.mem_append.mp hkey with hbetween | hafter
      · exact hnone key (List.mem_append_left _ hbetween)
      · rcases List.mem_cons.mp hafter with rfl | hafter
        · exact ha
        · exact hnone key (List.mem_append_right _ (List.mem_cons_of_mem _ hafter))
  refine ⟨perm_swap.nodup_iff.mpr h.1, List.pairwise_append.mpr ⟨hbefore, ?_, ?_⟩⟩
  · refine List.pairwise_of_forall_mem_list fun p _ q hq j hj => ?_
    rw [hnew q hq] at hj
    exact nomatch hj
  · intro p _ q hq j hj
    rw [hnew q hq] at hj
    exact nomatch hj

theorem exists_append_of_sublist {α : Type} {x y : α} {items : List α}
    (h : [x, y].Sublist items) :
    ∃ before between after, items = before ++ x :: (between ++ y :: after) := by
  obtain ⟨first, second, rfl, hx, hy⟩ := List.cons_sublist_iff.mp h
  obtain ⟨before, left, rfl⟩ := List.append_of_mem hx
  obtain ⟨right, after, rfl⟩ := List.append_of_mem (List.singleton_sublist.mp hy)
  exact ⟨before, left ++ right, after, by simp⟩

/-- Tied fields that change their places change the sorted object. -/
theorem exists_reordering_of_ties {before between after : List (String × Json ν)}
    {x y : String × Json ν}
    (harranged : (Json.object (before ++ x :: (between ++ y :: after))).AllObjects (Arranged place))
    (hx : place x.1 = none) (hy : place y.1 = none) (htie : order.Ties x.1 y.1) :
    ∃ other : Json ν, other.AllObjects (Arranged place) ∧
      other.SameContent (.object (before ++ x :: (between ++ y :: after))) ∧
      other.sortKeys order ≠
        (Json.object (before ++ x :: (between ++ y :: after))).sortKeys order := by
  obtain ⟨hkeys, hparts⟩ := allObjects_object.mp harranged
  refine ⟨.object (before ++ y :: (between ++ x :: after)), ?_, ?_, fun h => ?_⟩
  · refine allObjects_object.mpr ⟨?_, fun field hfield => hparts field (perm_swap.subset hfield)⟩
    simp only [List.map_append, List.map_cons] at hkeys ⊢
    exact hkeys.swap hx hy
  · rw [SameContent, sortKeys_object, sortKeys_object]
    refine congrArg _ (Collation.sort_eq_of_perm Collation.codePoints_strict ?_ (perm_swap.map _))
    rw [Collation.map_fst_map]
    exact hkeys.1
  · rw [sortKeys_object, sortKeys_object, Json.object.injEq] at h
    have hfirst : ∀ {first middle last : List (String × Json ν)} {u v : String × Json ν},
        order.le u.1 v.1 = true →
        [Prod.map id (fun value => value.sortKeys order) u,
          Prod.map id (fun value => value.sortKeys order) v].Sublist
          (order.sort ((first ++ u :: (middle ++ v :: last)).map
            (Prod.map id fun value => value.sortKeys order))) := by
      intro first middle last u v hle
      refine Collation.pair_sublist_sort hle ?_
      have hpair : [u, v].Sublist (first ++ u :: (middle ++ v :: last)) :=
        (List.Sublist.cons_cons u ((List.singleton_sublist.mpr List.mem_cons_self).trans
          (List.sublist_append_right middle _))).trans (List.sublist_append_right first _)
      exact hpair.map _
    have hswapped := @hfirst before between after y x htie.2
    rw [h] at hswapped
    refine not_sublist_swap ?_ (hfirst htie.1) hswapped
    refine Collation.sort_perm.nodup_iff.mpr (List.Nodup.of_map Prod.fst ?_)
    rw [Collation.map_fst_map]
    exact hkeys.1

/-- Where the sorted value depends on the content only, no keys are tied. -/
theorem untied_of_sortKeys_eq {value : Json ν} (harranged : value.AllObjects (Arranged place))
    (h : ∀ other : Json ν, other.AllObjects (Arranged place) → other.SameContent value →
      other.sortKeys order = value.sortKeys order) :
    value.AllObjects (Untied order place) := by
  induction value using parts_induction with
  | scalar value hscalar => exact allObjects_scalar hscalar
  | array values ih =>
      rw [allObjects_array] at harranged ⊢
      intro value hvalue
      obtain ⟨before, after, rfl⟩ := List.append_of_mem hvalue
      refine ih value hvalue (harranged value hvalue) fun other hother hsame => ?_
      have harray := h (.array (before ++ other :: after)) ?_ ?_
      · simpa using harray
      · refine allObjects_array.mpr fun part hpart => ?_
        rcases List.mem_append.mp hpart with hbefore | hrest
        · exact harranged part (List.mem_append_left _ hbefore)
        · rcases List.mem_cons.mp hrest with rfl | hafter
          · exact hother
          · exact harranged part (List.mem_append_right _ (List.mem_cons_of_mem _ hafter))
      · simpa [SameContent] using hsame
  | object fields ih =>
      obtain ⟨hkeys, hparts⟩ := allObjects_object.mp harranged
      rw [allObjects_object]
      refine ⟨fun a ha b hb hplaceA hplaceB htie => ?_, fun field hfield => ?_⟩
      · obtain ⟨x, hx, rfl⟩ := List.mem_map.mp ha
        obtain ⟨y, hy, rfl⟩ := List.mem_map.mp hb
        by_contra hne
        rcases sublist_or_sublist hx hy (fun hsame => hne (congrArg Prod.fst hsame)) with
          hsub | hsub
        · obtain ⟨before, between, after, rfl⟩ := exists_append_of_sublist hsub
          obtain ⟨other, hother, hsame, hsorted⟩ :=
            exists_reordering_of_ties harranged hplaceA hplaceB htie
          exact hsorted (h other hother hsame)
        · obtain ⟨before, between, after, rfl⟩ := exists_append_of_sublist hsub
          obtain ⟨other, hother, hsame, hsorted⟩ :=
            exists_reordering_of_ties harranged hplaceB hplaceA htie.symm
          exact hsorted (h other hother hsame)
      · obtain ⟨before, after, rfl⟩ := List.append_of_mem hfield
        refine ih field hfield (hparts field hfield) fun other hother hsame => ?_
        have hkeysSame : (before ++ (field.1, other) :: after).map Prod.fst =
            (before ++ field :: after).map Prod.fst := by simp
        have hobject := h (.object (before ++ (field.1, other) :: after)) ?_ ?_
        · have hvalues := (sortKeys_object_inj hkeys.1 hkeysSame).mp hobject
          simpa using hvalues
        · refine allObjects_object.mpr ⟨hkeysSame ▸ hkeys, fun part hpart => ?_⟩
          rcases List.mem_append.mp hpart with hbefore | hrest
          · exact hparts part (List.mem_append_left _ hbefore)
          · rcases List.mem_cons.mp hrest with rfl | hafter
            · exact hother
            · exact hparts part (List.mem_append_right _ (List.mem_cons_of_mem _ hafter))
        · have hfieldSame : Prod.map id (fun value => value.sortKeys .codePoints) (field.1, other) =
              Prod.map id (fun value => value.sortKeys .codePoints) field :=
            Prod.ext rfl hsame
          rw [SameContent, sortKeys_object, sortKeys_object, List.map_append, List.map_cons,
            hfieldSame, List.map_append, List.map_cons]

end Ties

end Json

end CanonicalJson
