import Herald.Proofs.KeyedOrder
import Herald.Settings.Layers
import Mathlib.Data.List.Induction

/-!
# What layers say together

Keys lead through objects to a value (`Value.at?`). Where every layer has objects on the way (`Value.IsTabled`), layers laid over one
another have at its end what the last of them has that has anything there, except that objects there are joined (`at?_layered`): laying
a layer over others replaces what it sets and nothing beside it.
-/

namespace Herald.Value

/-- The value that keys lead to. -/
def at? : List String → Value → Option Value
  | [], v => some v
  | key :: rest, v => (v.field? key).bind (at? rest)

/-- Whether keys lead through objects, as far as they lead. -/
def IsTabled : List String → Value → Prop
  | [], _ => True
  | key :: rest, v => (∃ fields, v = .object fields) ∧ ∀ w, v.field? key = some w → IsTabled rest w

/-- Whether two values are the same, or both objects. -/
def Alike (v w : Value) : Prop :=
  v = w ∨ (∃ fields, v = .object fields) ∧ ∃ fields, w = .object fields

/-- What stands in the place of two values of which there may be none, the second laid over the first. -/
def overlay? : Option Value → Option Value → Option Value
  | some base, some value => some (overlay base value)
  | some base, none => some base
  | none, value => value

/-! ## Two layers -/

theorem Alike.refl (v : Value) : Alike v v :=
  Or.inl rfl

theorem Alike.symm {v w : Value} (h : Alike v w) : Alike w v :=
  h.imp Eq.symm And.symm

theorem Alike.trans {u v w : Value} (huv : Alike u v) (hvw : Alike v w) : Alike u w := by
  rcases huv with rfl | ⟨hu, hv⟩
  · exact hvw
  · rcases hvw with rfl | ⟨-, hw⟩
    · exact Or.inr ⟨hu, hv⟩
    · exact Or.inr ⟨hu, hw⟩

/-- A value laid over another stands there as it is, or joined with it. -/
theorem alike_overlay (base value : Value) : Alike (overlay base value) value := by
  cases value with
  | object fields =>
    cases base with
    | object earlier => exact Or.inr ⟨⟨_, by rw [overlay]⟩, fields, rfl⟩
    | _ => exact Or.inl (by simp [overlay])
  | _ => exact Or.inl (by cases base <;> rfl)

theorem overlay?_none_right (o : Option Value) : overlay? o none = o := by
  cases o <;> rfl

theorem Alike.rel_refl (o : Option Value) : Option.Rel Alike o o := by
  cases o with
  | none => exact .none
  | some v => exact .some (.refl v)

/-- Of two values the second counts where it is there. -/
theorem rel_overlay? {o o' later later' : Option Value} (h : Option.Rel Alike o o') (hlater : Option.Rel Alike later later') :
    Option.Rel Alike (overlay? o later) (later'.or o') := by
  cases hlater with
  | none =>
    rw [overlay?_none_right]
    exact h
  | some hvalue =>
    cases h with
    | none => exact .some hvalue
    | some _ => exact .some ((alike_overlay _ _).trans hvalue)

/-- Fields laid over others keep the order. -/
theorem rising_overlayFields {base : List (String × Value)} (h : Keyed.Rising base) (fields : List (String × Value)) :
    Keyed.Rising (overlayFields base fields) := by
  induction fields with
  | nil => exact h
  | cons p rest ih =>
    obtain ⟨key, value⟩ := p
    rw [overlayFields]
    exact ih.insert _ _

/-- Fields are laid over others key by key. -/
theorem get?_overlayFields (base fields : List (String × Value)) (key : String) :
    Keyed.get? key (overlayFields base fields) = overlay? (Keyed.get? key base) (Keyed.get? key fields) := by
  induction fields with
  | nil => exact (overlay?_none_right _).symm
  | cons p rest ih =>
    obtain ⟨k, value⟩ := p
    rw [overlayFields, Keyed.get?]
    by_cases hk : k = key
    · subst hk
      rw [Keyed.get?_insert_self, if_pos rfl]
      cases Keyed.get? k base <;> rfl
    · rw [Keyed.get?_insert_of_ne (Ne.symm hk), if_neg hk, ih]

/-- Two layers have under a key what the two have there, the second laid over the first. -/
theorem field?_overlay (base fields : List (String × Value)) (key : String) :
    (overlay (.object base) (.object fields)).field? key = overlay? (Keyed.get? key base) (Keyed.get? key fields) := by
  rw [overlay]
  exact get?_overlayFields base fields key

/-- Two layers have at the end of a path what the two have there, the second laid over the first. -/
theorem at?_overlay {path : List String} {base value : Value} (hbase : IsTabled path base) (hvalue : IsTabled path value) :
    (overlay base value).at? path = overlay? (base.at? path) (value.at? path) := by
  induction path generalizing base value with
  | nil => rfl
  | cons key rest ih =>
    obtain ⟨⟨earlier, rfl⟩, hearlier⟩ := hbase
    obtain ⟨⟨fields, rfl⟩, hfields⟩ := hvalue
    rw [at?, field?_overlay, at?, at?, field?, field?]
    rw [field?] at hearlier hfields
    cases hb : Keyed.get? key earlier with
    | none => rfl
    | some b =>
      cases hf : Keyed.get? key fields with
      | none => exact (overlay?_none_right _).symm
      | some f => exact ih (hearlier b hb) (hfields f hf)

/-- A path that leads through the objects of two layers leads through those of both together. -/
theorem isTabled_overlay {path : List String} {base value : Value} (hbase : IsTabled path base) (hvalue : IsTabled path value) :
    IsTabled path (overlay base value) := by
  induction path generalizing base value with
  | nil => trivial
  | cons key rest ih =>
    obtain ⟨⟨earlier, rfl⟩, hearlier⟩ := hbase
    obtain ⟨⟨fields, rfl⟩, hfields⟩ := hvalue
    refine ⟨⟨_, by rw [overlay]⟩, fun w hw => ?_⟩
    rw [field?_overlay] at hw
    rw [field?] at hearlier hfields
    cases hb : Keyed.get? key earlier with
    | none =>
      rw [hb] at hw
      exact hfields w hw
    | some b =>
      cases hf : Keyed.get? key fields with
      | none =>
        rw [hb, hf] at hw
        obtain rfl := Option.some.inj hw
        exact hearlier b hb
      | some f =>
        rw [hb, hf] at hw
        obtain rfl := Option.some.inj hw
        exact ih (hearlier b hb) (hfields f hf)

/-! ## Layers -/

/-- The empty layer has an object at the start of every path, and nothing further on. -/
theorem isTabled_empty (path : List String) : IsTabled path (.object []) := by
  cases path with
  | nil => trivial
  | cons key rest => exact ⟨⟨[], rfl⟩, nofun⟩

theorem layered_concat (layers : List Value) (value : Value) : layered (layers ++ [value]) = overlay (layered layers) value := by
  rw [layered, layered, List.foldl_append]
  rfl

/-- A path that leads through the objects of each layer leads through those of all together. -/
theorem isTabled_layered {path : List String} {layers : List Value} (h : ∀ v ∈ layers, IsTabled path v) :
    IsTabled path (layered layers) := by
  induction layers using List.reverseRecOn with
  | nil => exact isTabled_empty path
  | append_singleton layers value ih =>
    rw [layered_concat]
    exact isTabled_overlay (ih fun v hv => h v (List.mem_append_left _ hv)) (h value (by simp))

/-- At the end of a path the last layer counts that has a value there. -/
theorem at?_layered {path : List String} (hpath : path ≠ []) {layers : List Value} (h : ∀ v ∈ layers, IsTabled path v) :
    Option.Rel Alike ((layered layers).at? path) (layers.reverse.findSome? (at? path)) := by
  induction layers using List.reverseRecOn with
  | nil =>
    obtain ⟨key, rest, rfl⟩ := List.exists_cons_of_ne_nil hpath
    exact .none
  | append_singleton layers value ih =>
    have hlayers : ∀ v ∈ layers, IsTabled path v := fun v hv => h v (List.mem_append_left _ hv)
    rw [layered_concat, at?_overlay (isTabled_layered hlayers) (h value (by simp)), List.reverse_append, List.findSome?_append]
    have hlast : [value].reverse.findSome? (at? path) = value.at? path := by
      cases hv : value.at? path <;> simp [hv]
    rw [hlast]
    exact rel_overlay? (ih hlayers) (Alike.rel_refl _)

end Herald.Value
