import RewardSystem.Lib.CanonicalJson

/-!
# Schemas of JSON values

A schema checks a value and rebuilds it. Of an object it keeps the fields that it names, in its own
order; a value that is built with these fields in this order comes back as it was.
-/

namespace CanonicalJson

inductive Schema (ν : Type) where
  | text (check : String → Bool)
  | number (check : ν → Bool)
  | boolean
  | nullable (schema : Schema ν)
  | array (items : Schema ν)
  | object (shape : List (String × Schema ν))
  | record

namespace Schema

variable {ν : Type}

mutual

def parse : Schema ν → Json ν → Option (Json ν)
  | .text check, .string value => if check value then some (.string value) else none
  | .number check, .number value => if check value then some (.number value) else none
  | .boolean, .boolean value => some (.boolean value)
  | .nullable _, .null => some .null
  | .nullable schema, value => schema.parse value
  | .array items, .array values => (values.mapM items.parse).map .array
  | .object shape, .object fields => (parseShape shape fields).map .object
  | .record, .object fields => some (.object fields)
  | _, _ => none

def parseShape :
    List (String × Schema ν) → List (String × Json ν) → Option (List (String × Json ν))
  | [], _ => some []
  | (key, schema) :: shape, fields => do
      let field ← fields.find? fun field => field.1 = key
      let parsed ← schema.parse field.2
      let rest ← parseShape shape fields
      return (key, parsed) :: rest

end

mutual

/-- The value is of the kind that the schema describes, with the fields of the schema in its order. -/
def Shaped (place : String → Option Nat) : Schema ν → Json ν → Prop
  | .text _, .string _ => True
  | .number _, .number _ => True
  | .boolean, .boolean _ => True
  | .nullable schema, value => value = .null ∨ Shaped place schema value
  | .array items, .array values => ∀ value ∈ values, Shaped place items value
  | .object shape, .object fields => ShapedFields place shape fields
  | .record, .object fields => (Json.object fields).AllObjects (Json.Arranged place)
  | _, _ => False

def ShapedFields (place : String → Option Nat) :
    List (String × Schema ν) → List (String × Json ν) → Prop
  | [], [] => True
  | (key, schema) :: shape, (name, value) :: fields =>
      key = name ∧ Shaped place schema value ∧ ShapedFields place shape fields
  | _, _ => False

end

mutual

/-- The names of the fields are different, and none of them has a place. -/
def wellKeyed (place : String → Option Nat) : Schema ν → Bool
  | .nullable schema => wellKeyed place schema
  | .array items => wellKeyed place items
  | .object shape =>
      decide (shape.map Prod.fst).Nodup && (shape.all fun field => (place field.1).isNone) &&
        wellKeyedShape place shape
  | _ => true

def wellKeyedShape (place : String → Option Nat) : List (String × Schema ν) → Bool
  | [] => true
  | (_, schema) :: shape => wellKeyed place schema && wellKeyedShape place shape

end

section Shaped

variable {place : String → Option Nat}

theorem ShapedFields.keys_eq {shape : List (String × Schema ν)} {fields : List (String × Json ν)}
    (h : ShapedFields place shape fields) : shape.map Prod.fst = fields.map Prod.fst := by
  induction shape generalizing fields with
  | nil =>
      cases fields with
      | nil => rfl
      | cons => exact h.elim
  | cons field shape ih =>
      cases fields with
      | nil => exact h.elim
      | cons => rw [List.map_cons, List.map_cons, ih h.2.2, h.1]

/-- Items that come back as they were give the list that they were taken from. -/
theorem mapM_eq_self {α : Type} {f : α → Option α} {items results : List α}
    (hf : ∀ item ∈ items, ∀ result, f item = some result → result = item)
    (h : items.mapM f = some results) : results = items := by
  induction items generalizing results with
  | nil => simpa using h.symm
  | cons item items ih =>
      rw [List.mapM_cons] at h
      obtain ⟨result, hresult, h⟩ := Option.bind_eq_some_iff.mp h
      obtain ⟨more, hmore, h⟩ := Option.bind_eq_some_iff.mp h
      obtain rfl : result :: more = results := by simpa using h
      rw [hf item List.mem_cons_self result hresult,
        ih (fun item hitem => hf item (List.mem_cons_of_mem _ hitem)) hmore]

mutual

/-- A value in the shape of the schema comes back as it was. -/
theorem parse_eq : ∀ (schema : Schema ν) {value parsed : Json ν}, wellKeyed place schema = true →
    Shaped place schema value → schema.parse value = some parsed → parsed = value
  | .text check, value, parsed, _, hshaped, h => by
      cases value with
      | string text =>
          rw [parse] at h
          split_ifs at h
          exact (Option.some.inj h).symm
      | _ => exact hshaped.elim
  | .number check, value, parsed, _, hshaped, h => by
      cases value with
      | number amount =>
          rw [parse] at h
          split_ifs at h
          exact (Option.some.inj h).symm
      | _ => exact hshaped.elim
  | .boolean, value, parsed, _, hshaped, h => by
      cases value with
      | boolean flag => exact (Option.some.inj h).symm
      | _ => exact hshaped.elim
  | .nullable schema, value, parsed, hkeys, hshaped, h => by
      cases value with
      | null => exact (Option.some.inj h).symm
      | _ => exact parse_eq schema hkeys (hshaped.resolve_left (by simp)) h
  | .array items, value, parsed, hkeys, hshaped, h => by
      cases value with
      | array values =>
          obtain ⟨results, hresults, rfl⟩ := Option.map_eq_some_iff.mp h
          rw [mapM_eq_self (fun value hvalue result hresult =>
            parse_eq items hkeys (hshaped value hvalue) hresult) hresults]
      | _ => exact hshaped.elim
  | .object shape, value, parsed, hkeys, hshaped, h => by
      cases value with
      | object fields =>
          simp only [wellKeyed, Bool.and_eq_true, decide_eq_true_eq] at hkeys
          obtain ⟨results, hresults, rfl⟩ := Option.map_eq_some_iff.mp h
          rw [parseShape_eq shape hkeys.2 hshaped (List.Subset.refl fields)
            (hshaped.keys_eq ▸ hkeys.1.1) hresults]
      | _ => exact hshaped.elim
  | .record, value, parsed, _, hshaped, h => by
      cases value with
      | object fields => exact (Option.some.inj h).symm
      | _ => exact hshaped.elim

theorem parseShape_eq : ∀ (shape : List (String × Schema ν))
    {fields suffix parsed : List (String × Json ν)}, wellKeyedShape place shape = true →
    ShapedFields place shape suffix → suffix ⊆ fields → (fields.map Prod.fst).Nodup →
    parseShape shape fields = some parsed → parsed = suffix
  | [], fields, suffix, parsed, _, hshaped, _, _, h => by
      cases suffix with
      | nil => exact (Option.some.inj h).symm
      | cons => exact hshaped.elim
  | (key, schema) :: shape, fields, suffix, parsed, hkeys, hshaped, hsub, hunique, h => by
      cases suffix with
      | nil => exact hshaped.elim
      | cons field suffix =>
          obtain ⟨name, value⟩ := field
          obtain ⟨rfl, hvalue, hrest⟩ := hshaped
          rw [wellKeyedShape, Bool.and_eq_true] at hkeys
          rw [parseShape] at h
          obtain ⟨found, hfound, h⟩ := Option.bind_eq_some_iff.mp h
          obtain ⟨result, hresult, h⟩ := Option.bind_eq_some_iff.mp h
          obtain ⟨results, hresults, h⟩ := Option.bind_eq_some_iff.mp h
          have hsame : found = (key, value) :=
            List.inj_on_of_nodup_map hunique (List.mem_of_find?_eq_some hfound)
              (hsub List.mem_cons_self) (by simpa using List.find?_some hfound)
          rw [hsame] at hresult
          rw [← Option.some.inj h, parse_eq schema hkeys.1 hvalue hresult,
            parseShape_eq shape hkeys.2 hrest (List.subset_of_cons_subset hsub) hunique hresults]

end

mutual

theorem arranged_of_shaped : ∀ (schema : Schema ν) {value : Json ν},
    wellKeyed place schema = true → Shaped place schema value →
      value.AllObjects (Json.Arranged place)
  | .text _, value, _, hshaped => by
      cases value with
      | string => exact Json.allObjects_scalar trivial
      | _ => exact hshaped.elim
  | .number _, value, _, hshaped => by
      cases value with
      | number => exact Json.allObjects_scalar trivial
      | _ => exact hshaped.elim
  | .boolean, value, _, hshaped => by
      cases value with
      | boolean => exact Json.allObjects_scalar trivial
      | _ => exact hshaped.elim
  | .nullable schema, value, hkeys, hshaped => by
      rcases hshaped with rfl | hshaped
      · exact Json.allObjects_scalar trivial
      · exact arranged_of_shaped schema hkeys hshaped
  | .array items, value, hkeys, hshaped => by
      cases value with
      | array values =>
          exact Json.allObjects_array.mpr fun value hvalue =>
            arranged_of_shaped items hkeys (hshaped value hvalue)
      | _ => exact hshaped.elim
  | .object shape, value, hkeys, hshaped => by
      cases value with
      | object fields =>
          simp only [wellKeyed, Bool.and_eq_true, decide_eq_true_eq] at hkeys
          rw [Json.allObjects_object, ← hshaped.keys_eq]
          refine ⟨Json.arranged_of_unplaced hkeys.1.1 fun key hkey => ?_,
            arranged_of_shapedFields shape hkeys.2 hshaped⟩
          obtain ⟨field, hfield, rfl⟩ := List.mem_map.mp hkey
          exact Option.isNone_iff_eq_none.mp (List.all_eq_true.mp hkeys.1.2 field hfield)
      | _ => exact hshaped.elim
  | .record, value, _, hshaped => by
      cases value with
      | object fields => exact hshaped
      | _ => exact hshaped.elim

theorem arranged_of_shapedFields : ∀ (shape : List (String × Schema ν))
    {fields : List (String × Json ν)}, wellKeyedShape place shape = true →
      ShapedFields place shape fields →
        ∀ field ∈ fields, field.2.AllObjects (Json.Arranged place)
  | [], fields, _, hshaped => by
      cases fields with
      | nil => exact List.forall_mem_nil _
      | cons => exact hshaped.elim
  | (_, schema) :: shape, fields, hkeys, hshaped => by
      cases fields with
      | nil => exact hshaped.elim
      | cons field fields =>
          rw [wellKeyedShape, Bool.and_eq_true] at hkeys
          exact List.forall_mem_cons.mpr ⟨arranged_of_shaped schema hkeys.1 hshaped.2.1,
            arranged_of_shapedFields shape hkeys.2 hshaped.2.2⟩

end

end Shaped

end Schema

end CanonicalJson
