import Herald.Text.Space
import Mathlib.Data.List.DropRight
import Mathlib.Data.List.TakeWhile

/-!
# Trimmed texts

What trimming leaves neither begins nor ends with white space, and just such texts are left as they are (`Text.trim_eq_self_iff`). A text
is blank if trimming leaves nothing of it (`Text.isBlank_iff_trim`).
-/

namespace Herald.Text

/-- Whether a text neither begins nor ends with white space. -/
structure IsTrimmed (s : String) : Prop where
  first : ∀ c ∈ s.toList.head?, isSpace c = false
  last : ∀ c ∈ s.toList.getLast?, isSpace c = false

/-- A basic character behind the blank is no white space. -/
theorem isSpace_of_lt {c : Char} (hlow : 0x20 < c.toNat) (hhigh : c.toNat < 0x80) : isSpace c = false := by
  simp only [isSpace, Bool.or_eq_false_iff, Bool.and_eq_false_iff, decide_eq_false_iff_not, beq_eq_false_iff_ne]
  omega

/-- A text is blank if trimming leaves nothing of it. -/
theorem isBlank_iff_trim {s : String} : isBlank s = true ↔ trim s = "" := by
  rw [trim, String.ofList_eq_empty_iff, trimRight, List.reverse_eq_nil_iff, List.dropWhile_eq_nil_iff, isBlank, List.all_eq_true]
  constructor
  · intro h c hc
    exact h c ((List.dropWhile_sublist _).subset (List.mem_reverse.mp hc))
  · intro h
    have hnil : trimLeft s.toList = [] := by
      by_contra hne
      -- what is left would start with no space
      have hhead : isSpace ((trimLeft s.toList).head hne) = false := List.head_dropWhile_not isSpace hne
      rw [h _ (List.mem_reverse.mpr (List.head_mem hne))] at hhead
      cases hhead
    exact List.dropWhile_eq_nil_iff.mp hnil

/-! ## What trimming leaves -/

/-- Trimming leaves a text with no white space at either end. -/
theorem isTrimmed_trim (s : String) : IsTrimmed (trim s) := by
  have hright : trimRight (trimLeft s.toList) = (trimLeft s.toList).rdropWhile isSpace := rfl
  constructor
  · intro c hc
    rw [trim, String.toList_ofList, hright] at hc
    -- the first character is the one that was left on the left
    obtain ⟨rest, hrest⟩ := List.head?_eq_some_iff.mp hc
    obtain ⟨behind, hbehind⟩ := List.rdropWhile_prefix isSpace (l := trimLeft s.toList)
    rw [hrest, List.cons_append] at hbehind
    have hhead := List.head?_dropWhile_not isSpace s.toList
    rw [← trimLeft, ← hbehind] at hhead
    exact hhead
  · intro c hc
    rw [trim, String.toList_ofList, hright] at hc
    obtain ⟨hne, rfl⟩ := List.mem_getLast?_eq_getLast hc
    exact Bool.eq_false_iff.mpr (List.rdropWhile_last_not isSpace (trimLeft s.toList) hne)

/-- The texts that trimming leaves as they are. -/
theorem trim_eq_self_iff {s : String} : trim s = s ↔ IsTrimmed s := by
  have hkeep {cs : List Char} (hcs : ∀ c ∈ cs.head?, isSpace c = false) : cs.dropWhile isSpace = cs := by
    cases cs with
    | nil => rfl
    | cons c cs => exact List.dropWhile_cons_of_neg (Bool.eq_false_iff.mp (hcs c rfl))
  constructor
  · intro h
    rw [← h]
    exact isTrimmed_trim s
  · intro h
    have hlast : ∀ c ∈ s.toList.reverse.head?, isSpace c = false := by
      rw [List.head?_reverse]
      exact h.last
    rw [trim, trimLeft, trimRight, hkeep h.first, hkeep hlast, List.reverse_reverse, String.ofList_toList]

/-- A text without white space has none at its ends. -/
theorem isTrimmed_of_forall {s : String} (h : ∀ c ∈ s.toList, isSpace c = false) : IsTrimmed s :=
  ⟨fun c hc => h c (List.mem_of_mem_head? hc), fun c hc => h c (List.mem_of_mem_getLast? hc)⟩

/-- A trimmed text is blank only if it is empty. -/
theorem IsTrimmed.isBlank_eq_false {s : String} (h : IsTrimmed s) (hne : s ≠ "") : isBlank s = false := by
  rw [← Bool.not_eq_true, isBlank_iff_trim, trim_eq_self_iff.mpr h]
  exact hne

end Herald.Text
