import Mathlib.Data.List.TakeWhile
import RewardSystem.Lib.CanonicalJson
import RewardSystem.Lib.HexText

/-!
# The text of JSON values

A text is printed without any blanks, and no two values have the same text.
-/

namespace CanonicalJson

/-! ## Strings -/

/-- The characters of a string that may not stand for themselves. -/
def escape (c : Char) : List Char :=
  if c = '"' then ['\\', '"']
  else if c = '\\' then ['\\', '\\']
  else if c.toNat = 8 then ['\\', 'b']
  else if c.toNat = 9 then ['\\', 't']
  else if c.toNat = 10 then ['\\', 'n']
  else if c.toNat = 12 then ['\\', 'f']
  else if c.toNat = 13 then ['\\', 'r']
  else if c.toNat < 32 then
    ['\\', 'u', '0', '0', (c.toNat / 16).digitChar, (c.toNat % 16).digitChar]
  else [c]

def quote (text : String) : List Char :=
  '"' :: (text.toList.flatMap escape ++ ['"'])

/-- What follows a backslash. -/
def unescapeTail : List Char → Option (Char × List Char)
  | 'u' :: _ :: _ :: high :: low :: rest =>
      match HexText.digitValue high, HexText.digitValue low with
      | some upper, some lower => some (Char.ofNat (16 * upper + lower), rest)
      | _, _ => none
  | 'b' :: rest => some (Char.ofNat 8, rest)
  | 't' :: rest => some (Char.ofNat 9, rest)
  | 'n' :: rest => some (Char.ofNat 10, rest)
  | 'f' :: rest => some (Char.ofNat 12, rest)
  | 'r' :: rest => some (Char.ofNat 13, rest)
  | c :: rest => some (c, rest)
  | [] => none

/-- The first character of a text and what follows its escape. -/
def unescape : List Char → Option (Char × List Char)
  | c :: rest => if c = '\\' then unescapeTail rest else some (c, rest)
  | [] => none

theorem unescape_escape (c : Char) (rest : List Char) :
    unescape (escape c ++ rest) = some (c, rest) := by
  have hchar : ∀ n, c.toNat = n → Char.ofNat n = c := by
    rintro n rfl
    exact Char.ofNat_toNat c
  unfold escape
  split_ifs with hquote hbackslash hb ht hn hf hr hcontrol
  · rw [hquote]
    rfl
  · rw [hbackslash]
    rfl
  · rw [← hchar 8 hb]
    rfl
  · rw [← hchar 9 ht]
    rfl
  · rw [← hchar 10 hn]
    rfl
  · rw [← hchar 12 hf]
    rfl
  · rw [← hchar 13 hr]
    rfl
  · simp only [List.cons_append, List.nil_append, unescape, if_pos, unescapeTail]
    rw [HexText.digitValue_digitChar (by omega), HexText.digitValue_digitChar (by omega)]
    dsimp only
    rw [Nat.div_add_mod, hchar _ rfl]
  · exact if_neg hbackslash

theorem escape_append_inj {c d : Char} {rest others : List Char}
    (h : escape c ++ rest = escape d ++ others) : c = d ∧ rest = others := by
  have hread := congrArg unescape h
  rw [unescape_escape, unescape_escape, Option.some_inj, Prod.mk.injEq] at hread
  exact hread

theorem escape_append_ne_quote {c : Char} {rest others : List Char} :
    escape c ++ rest ≠ '"' :: others := by
  intro h
  by_cases hquote : c = '"'
  · subst hquote
    exact absurd (List.cons.inj h).1 (by decide)
  · have hread := congrArg unescape h
    rw [unescape_escape] at hread
    exact hquote (Prod.mk.inj (Option.some.inj hread)).1

theorem quote_append_inj {text other : String} {rest others : List Char}
    (h : quote text ++ rest = quote other ++ others) : text = other ∧ rest = others := by
  have hchars : ∀ chars more : List Char,
      chars.flatMap escape ++ ('"' :: rest) = more.flatMap escape ++ ('"' :: others) →
        chars = more ∧ rest = others := by
    intro chars
    induction chars with
    | nil =>
        intro more h
        cases more with
        | nil => exact ⟨rfl, (List.cons.inj h).2⟩
        | cons d more =>
            rw [List.flatMap_cons, List.append_assoc] at h
            exact absurd h.symm escape_append_ne_quote
    | cons c chars ih =>
        intro more h
        cases more with
        | nil =>
            rw [List.flatMap_cons, List.append_assoc] at h
            exact absurd h escape_append_ne_quote
        | cons d more =>
            rw [List.flatMap_cons, List.append_assoc, List.flatMap_cons, List.append_assoc] at h
            obtain ⟨rfl, hrest⟩ := escape_append_inj h
            obtain ⟨rfl, hsame⟩ := ih more hrest
            exact ⟨rfl, hsame⟩
  simp only [quote, List.cons_append, List.append_assoc, List.nil_append, List.cons.injEq,
    true_and] at h
  obtain ⟨hsame, hrest⟩ := hchars _ _ h
  exact ⟨String.toList_injective hsame, hrest⟩

/-! ## Values -/

def isNumeric (c : Char) : Bool :=
  c.isDigit || c = '-' || c = '+' || c = '.' || c = 'e'

structure NumberText (ν : Type) where
  text : ν → List Char
  injective : Function.Injective text
  ne_nil : ∀ number, text number ≠ []
  numeric : ∀ number, ∀ c ∈ text number, isNumeric c = true

/-- The texts with commas between them. -/
def commaJoin : List (List Char) → List Char
  | [] => []
  | text :: texts => text ++ texts.flatMap (',' :: ·)

def fieldText (field : String × List Char) : List Char :=
  quote field.1 ++ ':' :: field.2

namespace Json

variable {ν : Type} (numbers : NumberText ν)

def scalarText : Json ν → List Char
  | .null => ['n', 'u', 'l', 'l']
  | .boolean true => ['t', 'r', 'u', 'e']
  | .boolean false => ['f', 'a', 'l', 's', 'e']
  | .number value => numbers.text value
  | .string value => quote value
  | _ => []

def print : Json ν → List Char :=
  fold (scalarText numbers) (fun texts => '[' :: (commaJoin texts ++ [']']))
    fun fields => '{' :: (commaJoin (fields.map fieldText) ++ ['}'])

/-- The text with the fields of every object sorted. -/
def canonical (order : Collation) : Json ν → List Char :=
  fold (scalarText numbers) (fun texts => '[' :: (commaJoin texts ++ [']']))
    fun fields => '{' :: (commaJoin ((order.sort fields).map fieldText) ++ ['}'])

variable {numbers}

@[simp]
theorem print_array {values : List (Json ν)} : (Json.array values).print numbers =
    '[' :: (commaJoin (values.map fun value => value.print numbers) ++ [']']) :=
  fold_array

theorem print_object {fields : List (String × Json ν)} : (Json.object fields).print numbers =
    '{' :: (commaJoin (fields.map fun field => quote field.1 ++ ':' :: field.2.print numbers) ++
      ['}']) := by
  rw [print, fold_object, List.map_map]
  rfl

/-- The canonical text is the text of the sorted value. -/
theorem canonical_eq_print {order : Collation} (value : Json ν) :
    value.canonical numbers order = (value.sortKeys order).print numbers := by
  induction value using parts_induction with
  | scalar value hscalar =>
      rw [sortKeys_scalar hscalar, canonical, print, fold_scalar hscalar, fold_scalar hscalar]
  | array values ih =>
      rw [sortKeys_array, print_array, canonical, fold_array, List.map_map]
      have hparts := List.map_congr_left ih
      exact congrArg (fun texts => '[' :: (commaJoin texts ++ [']'])) hparts
  | object fields ih =>
      have hparts : fields.map (Prod.map id fun value => value.canonical numbers order) =
          (fields.map (Prod.map id fun value => value.sortKeys order)).map
            (Prod.map id fun value => value.print numbers) := by
        rw [List.map_map]
        exact List.map_congr_left fun field hfield => Prod.ext rfl (ih field hfield)
      rw [sortKeys_object, print_object, canonical, fold_object]
      change '{' :: (commaJoin ((order.sort (fields.map
        (Prod.map id fun value => value.canonical numbers order))).map fieldText) ++ ['}']) = _
      rw [hparts, ← Collation.map_sort, List.map_map]
      rfl

/-! ## Reading a text -/

/-- A text that does not go on with a number. -/
def Delimited : List Char → Prop
  | [] => True
  | c :: _ => c = ',' ∨ c = ']' ∨ c = '}'

/-- A printed item is read up to its end. -/
def ReadsBack {α : Type} (code : α → List Char) (item : α) : Prop :=
  ∀ other rest others, Delimited rest → Delimited others →
    code item ++ rest = code other ++ others → item = other ∧ rest = others

section Reading

variable {α : Type} {code : α → List Char} {closing : Char} {items more : List α}
  {rest others : List Char}

theorem delimited_tail (hclosing : Delimited [closing]) :
    Delimited ((items.flatMap fun item => ',' :: code item) ++ closing :: rest) := by
  cases items with
  | nil => exact hclosing
  | cons item items => exact .inl rfl

theorem tail_append_inj (hclosing : Delimited [closing]) (hcomma : closing ≠ ',')
    (hitems : ∀ item ∈ items, ReadsBack code item)
    (h : (items.flatMap fun item => ',' :: code item) ++ closing :: rest =
      (more.flatMap fun item => ',' :: code item) ++ closing :: others) :
    items = more ∧ rest = others := by
  induction items generalizing more with
  | nil =>
      cases more with
      | nil => exact ⟨rfl, (List.cons.inj h).2⟩
      | cons other more => exact absurd (List.cons.inj h).1 hcomma
  | cons item items ih =>
      cases more with
      | nil => exact absurd (List.cons.inj h).1.symm hcomma
      | cons other more =>
          rw [List.flatMap_cons, List.flatMap_cons, List.append_assoc, List.append_assoc,
            List.cons_append, List.cons_append, List.cons.injEq] at h
          obtain ⟨rfl, hrest⟩ := hitems item List.mem_cons_self other _ _
            (delimited_tail hclosing) (delimited_tail hclosing) h.2
          obtain ⟨rfl, hsame⟩ := ih (fun item hitem => hitems item (List.mem_cons_of_mem _ hitem))
            hrest
          exact ⟨rfl, hsame⟩

/-- A list of items is read up to the bracket that closes it. -/
theorem commaJoin_append_inj (hclosing : Delimited [closing]) (hcomma : closing ≠ ',')
    (hcode : ∀ item rest others, code item ++ rest ≠ closing :: others)
    (hitems : ∀ item ∈ items, ReadsBack code item)
    (h : commaJoin (items.map code) ++ closing :: rest =
      commaJoin (more.map code) ++ closing :: others) : items = more ∧ rest = others := by
  cases items with
  | nil =>
      cases more with
      | nil => exact ⟨rfl, (List.cons.inj h).2⟩
      | cons other more =>
          rw [List.map_cons, commaJoin, List.append_assoc] at h
          exact absurd h.symm (hcode _ _ _)
  | cons item items =>
      cases more with
      | nil =>
          rw [List.map_cons, commaJoin, List.append_assoc] at h
          exact absurd h (hcode _ _ _)
      | cons other more =>
          simp only [List.map_cons, commaJoin, List.append_assoc, List.flatMap_map] at h
          obtain ⟨rfl, hrest⟩ := hitems item List.mem_cons_self other _ _
            (delimited_tail hclosing) (delimited_tail hclosing) h
          obtain ⟨rfl, hsame⟩ := tail_append_inj hclosing hcomma
            (fun item hitem => hitems item (List.mem_cons_of_mem _ hitem)) hrest
          exact ⟨rfl, hsame⟩

theorem numberText_append_inj {m n : ν} (hrest : Delimited rest) (hothers : Delimited others)
    (h : numbers.text m ++ rest = numbers.text n ++ others) : m = n ∧ rest = others := by
  have htake : ∀ number more, Delimited more →
      (numbers.text number ++ more).takeWhile isNumeric = numbers.text number := by
    intro number more hmore
    rw [List.takeWhile_append_of_pos (numbers.numeric number)]
    cases more with
    | nil => exact List.append_nil _
    | cons c more =>
        have hend : isNumeric c = false := by
          rcases hmore with rfl | rfl | rfl <;> decide
        rw [List.takeWhile_cons, hend, if_neg Bool.false_ne_true, List.append_nil]
  have hsame := congrArg (List.takeWhile isNumeric) h
  rw [htake m rest hrest, htake n others hothers] at hsame
  obtain rfl := numbers.injective hsame
  exact ⟨rfl, List.append_cancel_left h⟩

end Reading

/-- The kind of a value, which the first character of its text shows. -/
def kind : Json ν → Nat
  | .null => 0
  | .boolean true => 1
  | .boolean false => 2
  | .string _ => 3
  | .array _ => 4
  | .object _ => 5
  | .number _ => 6

def kindOf (c : Char) : Nat :=
  if c = 'n' then 0 else if c = 't' then 1 else if c = 'f' then 2 else if c = '"' then 3
  else if c = '[' then 4 else if c = '{' then 5 else 6

theorem print_eq_cons (value : Json ν) :
    ∃ c text, value.print numbers = c :: text ∧ kindOf c = value.kind := by
  cases value with
  | null => exact ⟨'n', _, rfl, rfl⟩
  | boolean flag =>
      cases flag with
      | true => exact ⟨'t', _, rfl, rfl⟩
      | false => exact ⟨'f', _, rfl, rfl⟩
  | string text => exact ⟨'"', _, rfl, rfl⟩
  | array values => exact ⟨'[', _, print_array, rfl⟩
  | object fields => exact ⟨'{', _, print_object, rfl⟩
  | number value =>
      obtain ⟨c, text, htext⟩ := List.exists_cons_of_ne_nil (numbers.ne_nil value)
      refine ⟨c, text, htext, ?_⟩
      have hnumeric := numbers.numeric value c (htext ▸ List.mem_cons_self)
      unfold kindOf
      split_ifs with h1 h2 h3 h4 h5 h6
      all_goals first | rfl | subst_vars; exact absurd hnumeric (by decide)

theorem kind_eq_of_append_eq {value other : Json ν} {rest others : List Char}
    (h : value.print numbers ++ rest = other.print numbers ++ others) : value.kind = other.kind := by
  obtain ⟨c, text, hvalue, hkind⟩ := @print_eq_cons ν numbers value
  obtain ⟨d, more, hother, hotherKind⟩ := @print_eq_cons ν numbers other
  rw [hvalue, hother] at h
  rw [← hkind, ← hotherKind, (List.cons.inj h).1]

theorem print_append_ne_closing {closing : Char} (hclosing : closing = ']' ∨ closing = '}')
    (value : Json ν) (rest others : List Char) :
    value.print numbers ++ rest ≠ closing :: others := by
  intro h
  cases value with
  | number number =>
      obtain ⟨c, text, htext⟩ := List.exists_cons_of_ne_nil (numbers.ne_nil number)
      have hnumeric := numbers.numeric number c (htext ▸ List.mem_cons_self)
      change numbers.text number ++ rest = closing :: others at h
      rw [htext] at h
      rw [(List.cons.inj h).1] at hnumeric
      rcases hclosing with rfl | rfl
      · exact absurd hnumeric (by decide)
      · exact absurd hnumeric (by decide)
  | boolean flag =>
      cases flag with
      | true => rcases hclosing with rfl | rfl <;> exact absurd (List.cons.inj h).1 (by decide)
      | false => rcases hclosing with rfl | rfl <;> exact absurd (List.cons.inj h).1 (by decide)
  | null => rcases hclosing with rfl | rfl <;> exact absurd (List.cons.inj h).1 (by decide)
  | string text =>
      rcases hclosing with rfl | rfl <;> exact absurd (List.cons.inj h).1 (by decide)
  | array values =>
      rw [print_array] at h
      rcases hclosing with rfl | rfl <;> exact absurd (List.cons.inj h).1 (by decide)
  | object fields =>
      rw [print_object] at h
      rcases hclosing with rfl | rfl <;> exact absurd (List.cons.inj h).1 (by decide)

/-- A printed value is read up to its end. -/
theorem readsBack_print (value : Json ν) : ReadsBack (fun value => value.print numbers) value := by
  induction value using parts_induction with
  | scalar value hscalar =>
      intro other rest others hrest hothers h
      have hkind := kind_eq_of_append_eq h
      cases value with
      | array | object => exact hscalar.elim
      | null =>
          cases other with
          | null => exact ⟨rfl, List.append_cancel_left h⟩
          | boolean flag => cases flag <;> exact absurd hkind (by simp [kind])
          | number | string | array | object => exact absurd hkind (by simp [kind])
      | boolean flag =>
          cases other with
          | boolean otherFlag =>
              cases flag <;> cases otherFlag
              · exact ⟨rfl, List.append_cancel_left h⟩
              · exact absurd hkind (by simp [kind])
              · exact absurd hkind (by simp [kind])
              · exact ⟨rfl, List.append_cancel_left h⟩
          | null | number | string | array | object =>
              cases flag <;> exact absurd hkind (by simp [kind])
      | number number =>
          cases other with
          | number otherNumber =>
              obtain ⟨rfl, hsame⟩ := numberText_append_inj hrest hothers h
              exact ⟨rfl, hsame⟩
          | boolean flag => cases flag <;> exact absurd hkind (by simp [kind])
          | null | string | array | object => exact absurd hkind (by simp [kind])
      | string text =>
          cases other with
          | string otherText =>
              obtain ⟨rfl, hsame⟩ := quote_append_inj h
              exact ⟨rfl, hsame⟩
          | boolean flag => cases flag <;> exact absurd hkind (by simp [kind])
          | null | number | array | object => exact absurd hkind (by simp [kind])
  | array values ih =>
      intro other rest others hrest hothers h
      have hkind := kind_eq_of_append_eq h
      cases other with
      | array more =>
          simp only [print_array, List.cons_append, List.append_assoc, List.nil_append,
            List.cons.injEq, true_and] at h
          obtain ⟨rfl, hsame⟩ := commaJoin_append_inj (.inr (.inl rfl)) (by decide)
            (fun value => print_append_ne_closing (.inl rfl) value) ih h
          exact ⟨rfl, hsame⟩
      | boolean flag => cases flag <;> exact absurd hkind (by simp [kind])
      | null | number | string | object => exact absurd hkind (by simp [kind])
  | object fields ih =>
      intro other rest others hrest hothers h
      have hkind := kind_eq_of_append_eq h
      cases other with
      | object more =>
          have hfields : ∀ field ∈ fields, ReadsBack
              (fun field : String × Json ν => quote field.1 ++ ':' :: field.2.print numbers)
              field := by
            intro field hfield otherField rest others hrest hothers h
            rw [List.append_assoc, List.append_assoc] at h
            obtain ⟨hkey, h⟩ := quote_append_inj h
            rw [List.cons_append, List.cons_append, List.cons.injEq] at h
            obtain ⟨hvalue, hsame⟩ := ih field hfield otherField.2 rest others hrest hothers h.2
            exact ⟨Prod.ext hkey hvalue, hsame⟩
          simp only [print_object, List.cons_append, List.append_assoc, List.nil_append,
            List.cons.injEq, true_and] at h
          obtain ⟨rfl, hsame⟩ := commaJoin_append_inj (.inr (.inr rfl)) (by decide)
            (fun field rest others h => absurd (List.cons.inj h).1 (by decide)) hfields h
          exact ⟨rfl, hsame⟩
      | boolean flag => cases flag <;> exact absurd hkind (by simp [kind])
      | null | number | string | array => exact absurd hkind (by simp [kind])

theorem print_injective : Function.Injective fun value : Json ν => value.print numbers := by
  intro value other h
  have hread := @readsBack_print ν numbers value other [] [] trivial trivial
  rw [List.append_nil, List.append_nil] at hread
  exact (hread h).1

end Json

end CanonicalJson
