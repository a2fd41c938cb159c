import Herald.Proofs.Trimming
import Herald.Text.Ascii
import Herald.Time.Text
import Mathlib.Algebra.Group.Nat.Defs
import Mathlib.Data.List.Induction

/-!
# Digits

Decimal digits are read back as the number that they write, with zeros before them or without. What follows the digits may be anything
that does not start with a digit (`Stops`).
-/

namespace Herald

namespace Text

/-- The digits are those of the core library. -/
theorem isDigit_eq (c : Char) : isDigit c = c.isDigit := by
  simp only [isDigit, Char.isDigit, Char.le_def]

/-- The digits of a number are digits. -/
theorem isDigit_of_mem_toDigits {n : Nat} {c : Char} (h : c ∈ Nat.toDigits 10 n) : isDigit c = true :=
  isDigit_eq c ▸ Nat.isDigit_of_mem_toDigits (by decide) (by decide) h

/-- A run of digits is valued as in the core library. -/
theorem natOfDigits_eq (ds : List Char) : natOfDigits ds = Nat.ofDigitChars 10 ds 0 := by
  simp only [natOfDigits, Nat.ofDigitChars_eq_foldl, Nat.mul_comm]
  rfl

/-- The digits of a number are valued at that number. -/
theorem natOfDigits_toDigits (n : Nat) : natOfDigits (Nat.toDigits 10 n) = n := by
  rw [natOfDigits_eq, Nat.ofDigitChars_ten_toDigits]

/-- So many digits write no more than a number of so many digits. -/
theorem natOfDigits_lt {ds : List Char} (h : ∀ c ∈ ds, isDigit c = true) : natOfDigits ds < 10 ^ ds.length := by
  induction ds using List.reverseRecOn with
  | nil => exact Nat.one_pos
  | append_singleton ds c ih =>
    obtain ⟨hds, hc⟩ := List.forall_mem_append.mp h
    have hlt := ih hds
    have hdigit : c.toNat - 48 ≤ 9 := by
      have hc := hc c (List.mem_singleton_self c)
      simp only [isDigit, Bool.and_eq_true, decide_eq_true_eq, Char.le_def, UInt32.le_iff_toNat_le] at hc
      exact Nat.sub_le_sub_right hc.2 48
    have hconcat : natOfDigits (ds ++ [c]) = natOfDigits ds * 10 + (c.toNat - 48) := by
      simp only [natOfDigits, List.foldl_append, List.foldl_cons, List.foldl_nil]
    rw [hconcat, List.length_append, List.length_singleton, Nat.pow_succ]
    omega

/-- Whether no digit comes first. -/
def Stops (cs : List Char) : Prop :=
  ∀ c ∈ cs.head?, isDigit c = false

/-- A run of digits ends where no digit comes first. -/
theorem takeWhile_digits {ds rest : List Char} (hd : ∀ c ∈ ds, isDigit c = true) (hr : Stops rest) :
    (ds ++ rest).takeWhile isDigit = ds := by
  rw [List.takeWhile_append_of_pos hd]
  cases rest with
  | nil => simp
  | cons c rest => simp [hr c rfl]

/-- A run of digits is all of itself. -/
theorem takeWhile_all_digits {ds : List Char} (hd : ∀ c ∈ ds, isDigit c = true) : ds.takeWhile isDigit = ds := by
  have h := takeWhile_digits hd (nofun : Stops [])
  rwa [List.append_nil] at h

/-- What follows a run of digits. -/
theorem dropWhile_digits {ds rest : List Char} (hd : ∀ c ∈ ds, isDigit c = true) (hr : Stops rest) :
    (ds ++ rest).dropWhile isDigit = rest := by
  rw [List.dropWhile_append_of_pos hd]
  cases rest with
  | nil => rfl
  | cons c rest => simp [hr c rfl]

/-- A digit is no white space. -/
theorem isSpace_of_isDigit {c : Char} (h : isDigit c = true) : isSpace c = false := by
  simp only [isDigit, Bool.and_eq_true, decide_eq_true_eq, Char.le_def, UInt32.le_iff_toNat_le] at h
  have hlow : 48 ≤ c.toNat := h.1
  have hhigh : c.toNat ≤ 57 := h.2
  exact isSpace_of_lt (by omega) (by omega)

end Text

namespace Instant

open Text (Stops)

/-- A padded number consists of digits. -/
theorem isDigit_of_mem_padded (width n : Nat) {c : Char} (h : c ∈ padded width n) : Text.isDigit c = true := by
  rw [padded, List.mem_append] at h
  rcases h with h | h
  · rw [List.eq_of_mem_replicate h]
    rfl
  · exact Text.isDigit_of_mem_toDigits h

/-- A padded number is valued at that number. -/
theorem natOfDigits_padded (width n : Nat) : Text.natOfDigits (padded width n) = n := by
  rw [Text.natOfDigits_eq, padded, Nat.ofDigitChars_append, Nat.ofDigitChars_replicate_zero, Nat.mul_zero,
    Nat.ofDigitChars_ten_toDigits]

/-- A padded number that is small enough has exactly its width. -/
theorem length_padded {width n : Nat} (hw : 0 < width) (hn : n < 10 ^ width) : (padded width n).length = width := by
  have hlen : (Nat.toDigits 10 n).length ≤ width := (Nat.length_toDigits_le_iff (by decide) hw).mpr hn
  rw [padded, List.length_append, List.length_replicate]
  omega

/-- A padded number is not empty. -/
theorem padded_ne_nil (width n : Nat) : padded width n ≠ [] :=
  fun h => Nat.toDigits_ne_nil (List.append_eq_nil_iff.mp h).2

/-- A padded number of so many digits is read as that number. -/
theorem readDigits_padded {width n : Nat} (hw : 0 < width) (hn : n < 10 ^ width) (rest : List Char) :
    readDigits width (padded width n ++ rest) = some (n, rest) := by
  have hlen := length_padded hw hn
  have htake : (padded width n ++ rest).take width = padded width n := by
    rw [List.take_append_of_le_length (Nat.le_of_eq hlen.symm), List.take_of_length_le (Nat.le_of_eq hlen)]
  have hdrop : (padded width n ++ rest).drop (padded width n).length = rest := List.drop_left
  have hrun : (padded width n).takeWhile Text.isDigit = padded width n :=
    Text.takeWhile_all_digits fun c hc => isDigit_of_mem_padded width n hc
  rw [readDigits, htake, hrun]
  split
  · next h => exact absurd h (padded_ne_nil width n)
  · rw [natOfDigits_padded, hdrop]

/-- A padded number that is read without a limit ends where no digit comes. -/
theorem readDigits_padded_all (width n : Nat) {rest : List Char} (hr : Stops rest) :
    readDigits (padded width n ++ rest).length (padded width n ++ rest) = some (n, rest) := by
  have hrun := Text.takeWhile_digits (fun c hc => isDigit_of_mem_padded width n hc) hr
  rw [readDigits, List.take_length, hrun]
  split
  · next h => exact absurd h (padded_ne_nil width n)
  · rw [natOfDigits_padded, List.drop_left]

/-- What starts with a digit has no blanks before it. -/
theorem trimLeft_padded (width n : Nat) (rest : List Char) : Text.trimLeft (padded width n ++ rest) = padded width n ++ rest := by
  obtain ⟨c, ds, hc⟩ := List.exists_cons_of_ne_nil (padded_ne_nil width n)
  have hd : Text.isDigit c = true := isDigit_of_mem_padded width n (hc ▸ List.mem_cons_self)
  rw [hc, List.cons_append, Text.trimLeft, List.dropWhile_cons, Text.isSpace_of_isDigit hd]
  rfl

/-- A padded number is read back. -/
theorem readNumber_padded {width n : Nat} (hw : 0 < width) (hn : n < 10 ^ width) (rest : List Char) :
    readNumber width (padded width n ++ rest) = some (n, rest) := by
  rw [readNumber, trimLeft_padded, readDigits_padded hw hn]

end Instant

end Herald
