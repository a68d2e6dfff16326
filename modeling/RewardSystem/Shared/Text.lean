import Mathlib.Data.List.TakeWhile
import Mathlib.Tactic.Common

namespace RewardSystem

/-- The characters that `String.prototype.trim` removes. -/
def isJsWhitespace (c : Char) : Bool :=
  c.toNat ∈ [0x9, 0xA, 0xB, 0xC, 0xD, 0x20, 0xA0, 0x1680, 0x2028, 0x2029, 0x202F, 0x205F, 0x3000,
    0xFEFF] ∨ (0x2000 ≤ c.toNat ∧ c.toNat ≤ 0x200A)

def trim (value : String) : String :=
  String.ofList ((value.toList.dropWhile isJsWhitespace).reverse.dropWhile isJsWhitespace).reverse

def normalizeOptionalString (value : Option String) : Option String :=
  let trimmed := trim (value.getD "")
  if trimmed = "" then none else some trimmed

theorem trim_ne_empty {value : String} :
    trim value ≠ "" ↔ ∃ c ∈ value.toList, isJsWhitespace c = false := by
  have hempty : trim value = "" ↔ ∀ c ∈ value.toList, isJsWhitespace c = true := by
    rw [trim, ← String.toList_inj, String.toList_ofList]
    simp only [String.toList_empty, List.reverse_eq_nil_iff, List.dropWhile_eq_nil_iff,
      List.mem_reverse]
    constructor
    · intro hall c hc
      by_contra hspace
      have hdropped : value.toList.dropWhile isJsWhitespace ≠ [] := by
        rw [Ne, List.dropWhile_eq_nil_iff]
        exact fun hvalue => hspace (hvalue c hc)
      have hhead := List.head_dropWhile_not isJsWhitespace hdropped
      rw [hall _ (List.head_mem hdropped)] at hhead
      simp at hhead
    · exact fun hall c hc => hall c (List.dropWhile_subset _ hc)
  rw [Ne, hempty]
  simp

theorem normalizeOptionalString_trim {value : String} (h : trim value ≠ "") :
    normalizeOptionalString (some (trim value)) ≠ none := by
  have hchar : ∃ c ∈ (trim value).toList, isJsWhitespace c = false := by
    rw [Ne, ← String.toList_inj, trim, String.toList_ofList, String.toList_empty,
      List.reverse_eq_nil_iff] at h
    refine ⟨_, ?_, List.head_dropWhile_not isJsWhitespace h⟩
    rw [trim, String.toList_ofList, List.mem_reverse]
    exact List.head_mem h
  simp [normalizeOptionalString, trim_ne_empty.mpr hchar]

theorem normalizeOptionalString_getD {value : Option String} {fallback : String}
    (h : normalizeOptionalString (some fallback) ≠ none) :
    normalizeOptionalString (some ((normalizeOptionalString value).getD fallback)) ≠ none := by
  by_cases hvalue : trim (value.getD "") = ""
  · simpa [normalizeOptionalString, hvalue] using h
  · have hsome : normalizeOptionalString value = some (trim (value.getD "")) := by
      simp [normalizeOptionalString, hvalue]
    rw [hsome, Option.getD_some]
    exact normalizeOptionalString_trim hvalue

example : normalizeOptionalString (some " wd-1 ") = some "wd-1" := by decide

end RewardSystem
