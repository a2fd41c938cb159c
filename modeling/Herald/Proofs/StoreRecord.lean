import Herald.Proofs.InstantOrder
import Herald.Proofs.KeyedOrder
import Herald.State.Store

/-!
# Recording activations

A record raises the activation of one target to the recorded time and leaves the others (`restored_record`). A store without the mark
after some records is the store before them, so the mark tells every change.
-/

namespace Herald.Store

/-- A record gives the later of the activation before it and the recorded one. -/
theorem restored_record (s : Store) (identity : String) (t : Instant) (other : String) :
    (s.record identity t).2.restored other =
      if other = identity then Instant.latest (s.restored identity) (some t) else s.restored other := by
  rw [record]
  cases hr : s.restored identity with
  | none =>
    by_cases ho : other = identity
    · subst ho
      rw [if_pos rfl]
      exact Keyed.get?_insert_self _ _ _
    · rw [if_neg ho]
      exact Keyed.get?_insert_of_ne ho _ _
  | some last =>
    by_cases hle : t ≤ last
    · simp only [if_pos hle]
      by_cases ho : other = identity
      · subst ho
        rw [if_pos rfl, hr, Instant.latest, Instant.later_of_le hle]
      · rw [if_neg ho]
    · simp only [if_neg hle]
      by_cases ho : other = identity
      · subst ho
        have hlast : last ≤ t := Std.le_of_not_ge hle
        rw [if_pos rfl, Instant.latest, Instant.later_comm, Instant.later_of_le hlast]
        exact Keyed.get?_insert_self _ _ _
      · rw [if_neg ho]
        exact Keyed.get?_insert_of_ne ho _ _

/-- A record keeps the targets in rising order. -/
theorem rising_record {s : Store} (h : s.targets.Rising) (identity : String) (t : Instant) : (s.record identity t).2.targets.Rising := by
  rw [record]
  split
  · split
    · exact h
    · exact h.insert identity t
  · exact h.insert identity t

/-- A record either has no effect or sets the mark. -/
theorem record_of_dirty {s : Store} {identity : String} {t : Instant} (h : (s.record identity t).2.dirty = false) :
    (s.record identity t).2 = s := by
  rw [record] at h ⊢
  split
  · split
    · rfl
    · next hr hle =>
      rw [hr] at h
      simp only [if_neg hle] at h
      exact absurd h nofun
  · next hr =>
    rw [hr] at h
    exact absurd h nofun

/-- Records of one list after another. -/
theorem sync_append (s : Store) (before behind : List (String × Instant)) : s.sync (before ++ behind) = (s.sync before).sync behind :=
  List.foldl_append

/-- Records keep the targets in rising order. -/
theorem rising_sync {s : Store} (h : s.targets.Rising) (activations : List (String × Instant)) : (s.sync activations).targets.Rising := by
  induction activations generalizing s with
  | nil => exact h
  | cons a rest ih => exact ih (rising_record h a.1 a.2)

/-- Records either have no effect or set the mark. -/
theorem sync_of_dirty {s : Store} {activations : List (String × Instant)} (h : (s.sync activations).dirty = false) :
    s.sync activations = s := by
  induction activations generalizing s with
  | nil => rfl
  | cons a rest ih =>
    have hrest : ((s.record a.1 a.2).2.sync rest) = (s.record a.1 a.2).2 := ih h
    have hclean : (s.record a.1 a.2).2.dirty = false := hrest ▸ h
    exact hrest.trans (record_of_dirty hclean)

end Herald.Store
