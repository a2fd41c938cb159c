/-!
# Keyed lists

Pairs of a key and a value, in rising order of the keys and with each key once. The order is that of code points, which is also
the order of the bytes that encode the keys. `ofList` and `insert` keep the order, so two keyed lists with the same look-ups are
the same list.
-/

namespace Herald

/-- Pairs in rising key order. -/
abbrev Keyed (α : Type u) := List (String × α)

namespace Keyed

variable {α : Type u} {β : Type v}

/-- Whether the keys rise strictly. -/
def Rising (m : Keyed α) : Prop :=
  m.Pairwise fun a b => a.1 < b.1

/-- The value under a key. -/
def get? (key : String) : Keyed α → Option α
  | [] => none
  | (k, v) :: rest => if k = key then some v else get? key rest

/-- Sets the value under a key. -/
def insert (key : String) (value : α) : Keyed α → Keyed α
  | [] => [(key, value)]
  | (k, v) :: rest =>
    if key < k then (key, value) :: (k, v) :: rest
    else if key = k then (key, value) :: rest
    else (k, v) :: insert key value rest

/-- Takes a key away. -/
def erase (key : String) (m : Keyed α) : Keyed α :=
  m.filter fun p => p.1 != key

/-- The keyed list of some pairs; of two pairs with one key the later counts. -/
def ofList (pairs : List (String × α)) : Keyed α :=
  pairs.foldl (fun m p => m.insert p.1 p.2) []

/-- Every value changed by a function. -/
def mapValues (f : α → β) (m : Keyed α) : Keyed β :=
  m.map fun p => (p.1, f p.2)

/-- What is set is found. -/
theorem get?_insert_self (key : String) (value : α) (m : Keyed α) : (m.insert key value).get? key = some value := by
  induction m with
  | nil => simp [insert, get?]
  | cons p rest ih =>
    simp only [insert]
    split
    · simp [get?]
    · split
      · simp [get?]
      · rename_i h
        simp [get?, Ne.symm h, ih]

/-- Setting one key leaves the others. -/
theorem get?_insert_of_ne {key other : String} (h : other ≠ key) (value : α) (m : Keyed α) :
    (m.insert key value).get? other = m.get? other := by
  induction m with
  | nil => simp [insert, get?, Ne.symm h]
  | cons p rest ih =>
    simp only [insert]
    split
    · simp [get?, Ne.symm h]
    · split
      · rename_i hk
        simp [get?, ← hk, Ne.symm h]
      · simp [get?, ih]

/-- What is taken away is not found. -/
theorem get?_erase_self (key : String) (m : Keyed α) : (m.erase key).get? key = none := by
  induction m with
  | nil => rfl
  | cons p rest ih =>
    by_cases h : p.1 = key
    · simpa [erase, h] using ih
    · simpa [erase, get?, h] using ih

/-- Taking one key away leaves the others. -/
theorem get?_erase_of_ne {key other : String} (h : other ≠ key) (m : Keyed α) : (m.erase key).get? other = m.get? other := by
  induction m with
  | nil => rfl
  | cons p rest ih =>
    by_cases hp : p.1 = key
    · have hk : key ≠ other := fun he => h he.symm
      simpa [erase, get?, hp, hk] using ih
    · simp only [erase, bne_iff_ne, ne_eq, hp, not_false_eq_true, List.filter_cons_of_pos, get?]
      split
      · rfl
      · exact ih

end Keyed

end Herald
