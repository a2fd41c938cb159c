import Herald.Proofs.KeyedOrder
import Herald.Registry
import Mathlib.Data.List.Induction

/-!
# What was published

The map of a registry changes by publications: a registration is installed, an identity is taken away, or all are. What an identity
is resolved to after some publications is what the last one that touches it left (`get?_mapAfter_eq_some_iff`), and an identity that was
installed and not taken away since is resolved to something (`Standing.exists_get?`).
-/

namespace Herald

/-- A change of the map that everybody reads. -/
inductive Publication
  | installed (e : Registration)
  | removed (identity : String)
  | cleared

namespace Publication

/-- The map after a publication. -/
def apply (map : Keyed Registration) : Publication → Keyed Registration
  | .installed e => map.insert e.identity e
  | .removed identity => map.erase identity
  | .cleared => []

/-- The identity that a publication takes away, or every one. -/
def Ends (identity : String) : Publication → Prop
  | .installed _ => False
  | .removed other => other = identity
  | .cleared => True

/-- Whether a publication is about an identity. -/
def Touches (identity : String) : Publication → Prop
  | .installed e => e.identity = identity
  | p => p.Ends identity

/-- What a publication leaves of an identity that it touches. -/
def left? : Publication → Option Registration
  | .installed e => some e
  | _ => none

variable {map : Keyed Registration} {p : Publication} {identity : String}

theorem get?_apply_of_touches (h : p.Touches identity) : (p.apply map).get? identity = p.left? := by
  cases p with
  | installed e =>
    obtain rfl : e.identity = identity := h
    exact Keyed.get?_insert_self ..
  | removed other =>
    obtain rfl : other = identity := h
    exact Keyed.get?_erase_self ..
  | cleared => rfl

theorem get?_apply_of_not_touches (h : ¬p.Touches identity) : (p.apply map).get? identity = map.get? identity := by
  cases p with
  | installed e => exact Keyed.get?_insert_of_ne (fun he => h he.symm) ..
  | removed other => exact Keyed.get?_erase_of_ne (fun he => h he.symm) ..
  | cleared => exact absurd trivial h

end Publication

/-- The map after some publications. -/
def mapAfter (history : List Publication) : Keyed Registration :=
  history.foldl Publication.apply []

/-- A registration was installed by a publication, and none after it is of some kind. -/
structure Since (history : List Publication) (k : Nat) (e : Registration) (Breaks : Publication → Prop) : Prop where
  installed : history[k]? = some (.installed e)
  unbroken : ∀ (q : Nat) (p : Publication), k < q → history[q]? = some p → ¬Breaks p

/-- An identity that was installed and that no publication has taken away since. -/
def Standing (history : List Publication) (identity : String) : Prop :=
  ∃ (k : Nat) (e : Registration), e.identity = identity ∧ Since history k e (Publication.Ends identity)

/-- A registration whose identity was touched again after it had been installed. -/
def Superseded (history : List Publication) (e : Registration) : Prop :=
  ∃ (k q : Nat) (p : Publication), history[k]? = some (.installed e) ∧ k < q ∧ history[q]? = some p ∧ p.Touches e.identity

variable {history : List Publication} {p : Publication} {identity : String} {e : Registration} {k : Nat} {Breaks : Publication → Prop}

theorem mapAfter_concat (history : List Publication) (p : Publication) : mapAfter (history ++ [p]) = p.apply (mapAfter history) := by
  rw [mapAfter, List.foldl_append]
  rfl

/-- With one more publication, a registration was installed by it, or before it and it is not of that kind. -/
theorem since_concat_iff : Since (history ++ [p]) k e Breaks ↔
    k = history.length ∧ p = .installed e ∨ Since history k e Breaks ∧ ¬Breaks p := by
  constructor
  · rintro ⟨hk, hunbroken⟩
    by_cases hlt : k < history.length
    · rw [List.getElem?_append_left hlt] at hk
      refine .inr ⟨⟨hk, fun q p' hq hp' => hunbroken q p' hq ?_⟩, hunbroken _ p hlt List.getElem?_concat_length⟩
      rw [List.getElem?_append_left (List.getElem?_eq_some_iff.mp hp').1, hp']
    · have hle : k = history.length := by
        have hk' := (List.getElem?_eq_some_iff.mp hk).1
        rw [List.length_append, List.length_singleton] at hk'
        omega
      subst hle
      rw [List.getElem?_concat_length] at hk
      exact .inl ⟨rfl, Option.some.inj hk⟩
  · rintro (⟨rfl, rfl⟩ | ⟨⟨hk, hunbroken⟩, hp⟩)
    · refine ⟨List.getElem?_concat_length, fun q p hq hp => ?_⟩
      rw [List.getElem?_eq_none (by rw [List.length_append]; exact hq)] at hp
      cases hp
    · refine ⟨by rw [List.getElem?_append_left (List.getElem?_eq_some_iff.mp hk).1, hk], fun q p' hq hp' => ?_⟩
      rcases Nat.lt_trichotomy q history.length with hlt | rfl | hgt
      · exact hunbroken q p' hq (by rwa [List.getElem?_append_left hlt] at hp')
      · rw [List.getElem?_concat_length] at hp'
        exact Option.some.inj hp' ▸ hp
      · rw [List.getElem?_eq_none (by rw [List.length_append]; exact hgt)] at hp'
        cases hp'

/-- An identity is resolved to the registration that was installed for it last. -/
theorem get?_mapAfter_eq_some_iff :
    (mapAfter history).get? identity = some e ↔ e.identity = identity ∧ ∃ k, Since history k e (Publication.Touches identity) := by
  induction history using List.reverseRecOn with
  | nil => exact ⟨nofun, fun ⟨_, k, h⟩ => nomatch h.installed⟩
  | append_singleton history p ih =>
    simp only [mapAfter_concat, since_concat_iff]
    by_cases hp : p.Touches identity
    · rw [Publication.get?_apply_of_touches hp]
      constructor
      · intro h
        cases p with
        | installed e' =>
          obtain rfl := Option.some.inj h
          exact ⟨hp, _, .inl ⟨rfl, rfl⟩⟩
        | _ => cases h
      · rintro ⟨-, k, ⟨-, rfl⟩ | ⟨-, hnot⟩⟩
        · rfl
        · exact absurd hp hnot
    · rw [Publication.get?_apply_of_not_touches hp, ih]
      constructor
      · rintro ⟨hidentity, k, hk⟩
        exact ⟨hidentity, k, .inr ⟨hk, hp⟩⟩
      · rintro ⟨hidentity, k, ⟨-, rfl⟩ | ⟨hk, -⟩⟩
        · exact absurd hidentity hp
        · exact ⟨hidentity, k, hk⟩

/-- An identity that stands is resolved to something. -/
theorem Standing.exists_get? (h : Standing history identity) : ∃ e, (mapAfter history).get? identity = some e := by
  obtain ⟨k, e, hidentity, hsince⟩ := h
  induction history using List.reverseRecOn with
  | nil => cases hsince.installed
  | append_singleton history p ih =>
    rw [mapAfter_concat]
    by_cases hp : p.Touches identity
    · rw [Publication.get?_apply_of_touches hp]
      cases p with
      | installed e' => exact ⟨e', rfl⟩
      | _ =>
        rcases since_concat_iff.mp hsince with ⟨-, he⟩ | ⟨-, hnot⟩
        · cases he
        · exact absurd hp hnot
    · rw [Publication.get?_apply_of_not_touches hp]
      rcases since_concat_iff.mp hsince with ⟨-, rfl⟩ | ⟨hsince, -⟩
      · exact absurd hidentity hp
      · exact ih hsince

/-- What is listed among the first publications is listed. -/
theorem getElem?_of_take {m q : Nat} (h : (history.take m)[q]? = some p) : q < m ∧ history[q]? = some p := by
  rw [List.getElem?_take] at h
  split at h
  · next hlt => exact ⟨hlt, h⟩
  · cases h

/-- A registration that is installed once and that its identity is resolved to at some moment was not superseded before that. -/
theorem Since.not_superseded {m began : Nat} (h : Since (history.take m) k e (Publication.Touches e.identity))
    (hunique : ∀ k', history[k']? = some (.installed e) → k' = k) (hle : began ≤ m) : ¬Superseded (history.take began) e := by
  rintro ⟨k', q, p, hk', hlt, hq, hp⟩
  obtain rfl := hunique k' (getElem?_of_take hk').2
  obtain ⟨hqb, hq⟩ := getElem?_of_take hq
  exact h.unbroken q p hlt (by rw [List.getElem?_take, if_pos (Nat.lt_of_lt_of_le hqb hle), hq]) hp

end Herald
