import Herald.Keyed
import Mathlib.Data.List.Induction
import Mathlib.Data.List.Sort

/-!
# Keyed lists as sets of pairs

In a rising list a key stands once, so that looking up and being listed are the same (`get?_eq_some_iff`), and setting a key is taking
its pair away and adding the new one (`insert_perm`). Every operation keeps the order, and putting a rising list into order changes
nothing (`ofList_of_rising`). In pairs that are put into order the last one of a key is found (`get?_ofList_append`).
-/

namespace Herald.Keyed

variable {α : Type u} {β : Type v}

/-! ## The order of keys -/

/-- Of two keys that differ, one is before the other. -/
theorem key_lt_of_not_lt {a b : String} (h : ¬a < b) (hne : a ≠ b) : b < a :=
  Std.lt_of_le_of_ne (Std.not_lt.mp h) hne.symm

theorem rising_nil : Rising ([] : Keyed α) :=
  List.Pairwise.nil

theorem rising_cons {p : String × α} {m : Keyed α} : Rising (p :: m) ↔ (∀ q ∈ m, p.1 < q.1) ∧ Rising m :=
  List.pairwise_cons

/-! ## Pairs of a list -/

/-- A pair of a list with a key set is the new one or one that was there before. -/
theorem mem_of_mem_insert {key : String} {value : α} {m : Keyed α} {q : String × α} (h : q ∈ m.insert key value) :
    q = (key, value) ∨ q ∈ m := by
  induction m with
  | nil =>
    simp only [insert, List.mem_singleton] at h
    exact Or.inl h
  | cons p rest ih =>
    simp only [insert] at h
    split at h
    · rcases List.mem_cons.mp h with h | h
      · exact Or.inl h
      · exact Or.inr h
    · split at h
      · rcases List.mem_cons.mp h with h | h
        · exact Or.inl h
        · exact Or.inr (List.mem_cons_of_mem p h)
      · rcases List.mem_cons.mp h with h | h
        · exact Or.inr (h ▸ List.mem_cons_self)
        · rcases ih h with h | h
          · exact Or.inl h
          · exact Or.inr (List.mem_cons_of_mem p h)

/-- Setting a key keeps the order. -/
theorem Rising.insert {m : Keyed α} (h : m.Rising) (key : String) (value : α) : (m.insert key value).Rising := by
  induction m with
  | nil => exact List.pairwise_singleton _ _
  | cons p rest ih =>
    obtain ⟨hp, hrest⟩ := rising_cons.mp h
    simp only [Keyed.insert]
    split
    · next hlt =>
      refine rising_cons.mpr ⟨?_, h⟩
      intro q hq
      rcases List.mem_cons.mp hq with rfl | hq
      · exact hlt
      · exact Std.lt_trans hlt (hp q hq)
    · next hlt =>
      split
      · next heq => exact rising_cons.mpr ⟨fun q hq => heq ▸ hp q hq, hrest⟩
      · next hne =>
        refine rising_cons.mpr ⟨?_, ih hrest⟩
        intro q hq
        rcases mem_of_mem_insert hq with rfl | hq
        · exact key_lt_of_not_lt hlt hne
        · exact hp q hq

/-- Taking a key away keeps the order. -/
theorem Rising.erase {m : Keyed α} (h : m.Rising) (key : String) : (m.erase key).Rising :=
  List.Pairwise.filter _ h

/-- Changing the values keeps the order. -/
theorem Rising.mapValues {m : Keyed α} (h : m.Rising) (f : α → β) : (m.mapValues f).Rising :=
  List.Pairwise.map _ (fun _ _ hab => hab) h

/-- What is taken away is the pair with the key and no other. -/
theorem mem_erase {key : String} {m : Keyed α} {q : String × α} : q ∈ m.erase key ↔ q ∈ m ∧ q.1 ≠ key := by
  simp [erase, List.mem_filter]

/-- What is found under a key is listed with it. -/
theorem mem_of_get? {key : String} {value : α} {m : Keyed α} (h : m.get? key = some value) : (key, value) ∈ m := by
  induction m with
  | nil => exact absurd h nofun
  | cons p rest ih =>
    obtain ⟨k, v⟩ := p
    simp only [get?] at h
    split at h
    · next hk =>
      subst hk
      rw [Option.some.inj h]
      exact List.mem_cons_self
    · exact List.mem_cons_of_mem _ (ih h)

/-- In a rising list what is listed with a key is found under it. -/
theorem get?_eq_some_iff {m : Keyed α} (h : m.Rising) {key : String} {value : α} :
    m.get? key = some value ↔ (key, value) ∈ m := by
  refine ⟨mem_of_get?, ?_⟩
  intro hm
  induction m with
  | nil => exact absurd hm List.not_mem_nil
  | cons p rest ih =>
    obtain ⟨hp, hrest⟩ := rising_cons.mp h
    rcases List.mem_cons.mp hm with rfl | hm
    · simp [get?]
    · have hne : p.1 ≠ key := Std.ne_of_lt (hp _ hm)
      simp only [get?, if_neg hne]
      exact ih hrest hm

/-- A key under which nothing is found is not listed. -/
theorem get?_eq_none_iff {m : Keyed α} {key : String} : m.get? key = none ↔ ∀ p ∈ m, p.1 ≠ key := by
  induction m with
  | nil => simp [get?]
  | cons p rest ih =>
    by_cases hk : p.1 = key
    · simp [get?, hk]
    · simp [get?, hk, ih]

/-- Rising lists with the same pairs are the same. -/
theorem Rising.ext {m m' : Keyed α} (h : m.Rising) (h' : m'.Rising) (hsame : ∀ p, p ∈ m ↔ p ∈ m') : m = m' := by
  have : Std.Antisymm fun a b : String × α => a.1 < b.1 := ⟨fun _ _ hab hba => absurd (Std.lt_trans hab hba) (Std.lt_irrefl)⟩
  have : Std.Irrefl fun a b : String × α => a.1 < b.1 := ⟨fun _ => Std.lt_irrefl⟩
  exact List.Pairwise.eq_of_mem_iff h h' hsame

/-- Rising lists in which the same is found are the same. -/
theorem Rising.ext_get? {m m' : Keyed α} (h : m.Rising) (h' : m'.Rising) (hsame : ∀ key, m.get? key = m'.get? key) : m = m' := by
  refine h.ext h' fun p => ?_
  rw [← get?_eq_some_iff h, ← get?_eq_some_iff h', hsame]

/-- A list without a key is not changed when the key is taken away. -/
theorem erase_of_get?_none {m : Keyed α} {key : String} (h : m.get? key = none) : m.erase key = m := by
  rw [erase, List.filter_eq_self]
  intro p hp
  simpa using get?_eq_none_iff.mp h p hp

/-- Setting a key is taking its pair away and adding the new one. -/
theorem insert_perm {m : Keyed α} (h : m.Rising) (key : String) (value : α) :
    (m.insert key value).Perm ((key, value) :: m.erase key) := by
  induction m with
  | nil => exact List.Perm.refl _
  | cons p rest ih =>
    obtain ⟨hp, hrest⟩ := rising_cons.mp h
    simp only [Keyed.insert]
    split
    · next hlt =>
      -- the key is before all others, so there is nothing to take away
      have hnone : Keyed.get? key (p :: rest) = none := by
        rw [get?_eq_none_iff]
        intro q hq
        rcases List.mem_cons.mp hq with rfl | hq
        · exact (Std.ne_of_lt hlt).symm
        · exact (Std.ne_of_lt (Std.lt_trans hlt (hp q hq))).symm
      rw [erase_of_get?_none hnone]
    · split
      · next heq =>
        have hnone : Keyed.get? key rest = none := by
          rw [get?_eq_none_iff]
          intro q hq
          exact (Std.ne_of_lt (heq ▸ hp q hq)).symm
        have herase : erase key (p :: rest) = rest := by
          rw [erase, List.filter_cons_of_neg (by simp [heq]), ← erase, erase_of_get?_none hnone]
        rw [herase]
      · next hne =>
        have herase : erase key (p :: rest) = p :: erase key rest := by
          rw [erase, List.filter_cons_of_pos (by simpa using Ne.symm hne), ← erase]
        rw [herase]
        exact ((ih hrest).cons p).trans (List.Perm.swap _ _ _)

/-- Taking away a key that is found leaves the rest of a list that starts with its pair. -/
theorem perm_cons_erase {m : Keyed α} (h : m.Rising) {key : String} {value : α} (hv : m.get? key = some value) :
    m.Perm ((key, value) :: m.erase key) := by
  induction m with
  | nil => exact absurd hv nofun
  | cons p rest ih =>
    obtain ⟨k, v⟩ := p
    obtain ⟨hp, hrest⟩ := rising_cons.mp h
    by_cases hk : k = key
    · subst hk
      have hnone : Keyed.get? k rest = none :=
        get?_eq_none_iff.mpr fun q hq => (Std.ne_of_lt (hp q hq)).symm
      have herase : erase k ((k, v) :: rest) = rest := by
        rw [erase, List.filter_cons_of_neg (by simp), ← erase, erase_of_get?_none hnone]
      simp only [get?, if_true, Option.some.injEq] at hv
      rw [herase, hv]
    · simp only [get?, if_neg hk] at hv
      have herase : erase key ((k, v) :: rest) = (k, v) :: erase key rest := by
        rw [erase, List.filter_cons_of_pos (by simpa using hk), ← erase]
      rw [herase]
      exact ((ih hrest hv).cons _).trans (List.Perm.swap _ _ _)

/-! ## Changing the values -/

theorem get?_mapValues (f : α → β) (key : String) (m : Keyed α) : (m.mapValues f).get? key = (m.get? key).map f := by
  induction m with
  | nil => rfl
  | cons p rest ih =>
    have hcons : mapValues f (p :: rest) = (p.1, f p.2) :: mapValues f rest := rfl
    rw [hcons, get?, get?]
    split
    · rfl
    · exact ih

theorem mapValues_insert (f : α → β) (key : String) (value : α) (m : Keyed α) :
    (m.insert key value).mapValues f = (m.mapValues f).insert key (f value) := by
  induction m with
  | nil => rfl
  | cons p rest ih =>
    have hcons : mapValues f (p :: rest) = (p.1, f p.2) :: mapValues f rest := rfl
    rw [hcons, insert, insert]
    split
    · rfl
    · split
      · rfl
      · rw [← ih]
        rfl

theorem mapValues_erase (f : α → β) (key : String) (m : Keyed α) : (m.erase key).mapValues f = (m.mapValues f).erase key := by
  simp only [mapValues, erase, List.filter_map]
  rfl

/-! ## Putting pairs into order -/

/-- A key behind all others is added at the end. -/
theorem insert_of_last {m : Keyed α} {key : String} {value : α} (h : ∀ p ∈ m, p.1 < key) :
    m.insert key value = m ++ [(key, value)] := by
  induction m with
  | nil => rfl
  | cons p rest ih =>
    have hp : p.1 < key := h p List.mem_cons_self
    have hlt : ¬key < p.1 := fun hk => Std.lt_irrefl (Std.lt_trans hp hk)
    simp only [insert, if_neg hlt, if_neg (Std.ne_of_lt hp).symm, List.cons_append]
    rw [ih fun q hq => h q (List.mem_cons_of_mem p hq)]

/-- Pairs that rise are their own keyed list. -/
theorem ofList_of_rising {m : Keyed α} (h : m.Rising) : ofList m = m := by
  -- the pairs still to be set are behind those that are
  have key : ∀ (rest done : Keyed α), (done ++ rest).Rising →
      rest.foldl (fun m p => m.insert p.1 p.2) done = done ++ rest := by
    intro rest
    induction rest with
    | nil => intro done _; simp
    | cons p rest ih =>
      intro done hd
      have hlast : ∀ q ∈ done, q.1 < p.1 := fun q hq =>
        (List.pairwise_append.mp hd).2.2 q hq p List.mem_cons_self
      rw [List.foldl_cons, insert_of_last hlast, ih]
      · simp
      · simpa using hd
  exact key m [] h

/-- Putting pairs into order gives a rising list. -/
theorem rising_ofList (pairs : List (String × α)) : (ofList pairs).Rising := by
  have key : ∀ (rest : List (String × α)) (done : Keyed α), done.Rising →
      (rest.foldl (fun m p => m.insert p.1 p.2) done).Rising := by
    intro rest
    induction rest with
    | nil => intro done hd; exact hd
    | cons p rest ih => intro done hd; exact ih _ (hd.insert p.1 p.2)
  exact key pairs [] rising_nil

/-- A pair that is put into order after others is set in their list. -/
theorem ofList_concat (pairs : List (String × α)) (p : String × α) : ofList (pairs ++ [p]) = (ofList pairs).insert p.1 p.2 := by
  rw [ofList, List.foldl_append]
  rfl

/-- The pairs of a keyed list are among those it was made of. -/
theorem mem_of_mem_ofList {pairs : List (String × α)} {p : String × α} (h : p ∈ ofList pairs) : p ∈ pairs := by
  induction pairs using List.reverseRecOn with
  | nil => exact h
  | append_singleton pairs q ih =>
    rw [ofList_concat] at h
    rcases mem_of_mem_insert h with rfl | h
    · exact List.mem_append_right _ List.mem_cons_self
    · exact List.mem_append_left _ (ih h)

/-- Of pairs that are put into order, those that come later are looked up first. -/
theorem get?_ofList_append (key : String) (front back : List (String × α)) :
    (ofList (front ++ back)).get? key = ((ofList back).get? key).or ((ofList front).get? key) := by
  induction back using List.reverseRecOn with
  | nil =>
    rw [List.append_nil]
    rfl
  | append_singleton back p ih =>
    rw [← List.append_assoc, ofList_concat, ofList_concat]
    by_cases hp : key = p.1
    · subst hp
      rw [get?_insert_self, get?_insert_self]
      rfl
    · rw [get?_insert_of_ne hp, get?_insert_of_ne hp, ih]

/-- The keys of pairs that are put into order are their keys. -/
theorem mem_keys_ofList {pairs : List (String × α)} {key : String} : key ∈ (ofList pairs).map (·.1) ↔ key ∈ pairs.map (·.1) := by
  have hkeys (m : Keyed α) : key ∈ m.map (·.1) ↔ m.get? key ≠ none := by
    rw [Ne, get?_eq_none_iff]
    simp
  induction pairs using List.reverseRecOn with
  | nil => exact Iff.rfl
  | append_singleton pairs p ih =>
    have hold := (hkeys (ofList pairs)).symm.trans ih
    rw [ofList_concat, hkeys, List.map_append, List.mem_append, List.map_singleton, List.mem_singleton]
    by_cases hp : key = p.1
    · subst hp
      simp [get?_insert_self]
    · rw [get?_insert_of_ne hp]
      simp only [hold, hp, or_false]

/-- A pair stands in front of those it is put into order with. -/
theorem get?_ofList_cons (key : String) (p : String × α) (pairs : List (String × α)) :
    (ofList (p :: pairs)).get? key = ((ofList pairs).get? key).or (if p.1 = key then some p.2 else none) :=
  get?_ofList_append key [p] pairs

/-- What may be left out is looked up under its name, if it is there. -/
theorem get?_ofList_optional (key name : String) (value : β → α) (o : Option β) :
    (ofList (o.map fun b => (name, value b)).toList).get? key = if name = key then o.map value else none := by
  cases o with
  | none => exact (ite_self none).symm
  | some b => rfl

end Herald.Keyed
