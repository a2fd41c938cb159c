import Herald.Time.Instant

/-!
# The order of instants

Instants are ordered linearly, an inserted second lying between its neighbours. `later` is the maximum, and `latest` the maximum of two
activations either of which may be absent: it is what a stamp and a record leave. The latest of some times (`IsLatest`) is what is left
after all of them, and it depends on nothing but which times there are.
-/

namespace Herald

namespace Instant

/-! ## A linear order -/

theorem le_iff {a b : Instant} : a ≤ b ↔ a.seconds < b.seconds ∨ (a.seconds = b.seconds ∧ a.nanos ≤ b.nanos) :=
  Iff.rfl

theorem lt_iff {a b : Instant} : a < b ↔ a.seconds < b.seconds ∨ (a.seconds = b.seconds ∧ a.nanos < b.nanos) :=
  Iff.rfl

instance : Std.IsLinearOrder Instant where
  le_refl a := by
    rw [le_iff]
    omega
  le_trans a b c hab hbc := by
    rw [le_iff] at *
    omega
  le_antisymm a b hab hba := by
    rw [le_iff] at *
    have hs : a.seconds = b.seconds := by omega
    have hn : a.nanos = b.nanos := by omega
    cases a
    cases b
    simp only at hs hn
    subst hs hn
    rfl
  le_total a b := by
    rw [le_iff, le_iff]
    omega

instance : Std.LawfulOrderLT Instant where
  lt_iff a b := by
    rw [lt_iff, le_iff, le_iff]
    omega

/-! ## The later of two instants -/

theorem le_later_left (a b : Instant) : a ≤ later a b := by
  unfold later
  split
  · next h => exact Std.le_of_lt h
  · exact Std.le_refl a

theorem le_later_right (a b : Instant) : b ≤ later a b := by
  unfold later
  split
  · exact Std.le_refl b
  · next h => exact Std.not_lt.mp h

/-- What neither of two instants is after, the later one is not after. -/
theorem later_le {a b c : Instant} (ha : a ≤ c) (hb : b ≤ c) : later a b ≤ c := by
  unfold later
  split
  · exact hb
  · exact ha

theorem later_comm (a b : Instant) : later a b = later b a :=
  Std.le_antisymm (later_le (le_later_right b a) (le_later_left b a)) (later_le (le_later_right a b) (le_later_left a b))

/-- An instant that is not before another is the later one. -/
theorem later_of_le {a b : Instant} (h : b ≤ a) : later a b = a :=
  if_neg (Std.not_lt_of_ge h)

/-! ## Activations that may be absent -/

/-- What a stamp at a time leaves where there may be an activation already: the later of the two. -/
def raised : Option Instant → Instant → Instant
  | some last, now => later now last
  | none, now => now

/-- The later of two activations; one that is absent does not count. -/
def latest : Option Instant → Option Instant → Option Instant
  | some a, some b => some (later a b)
  | some a, none => some a
  | none, b => b

@[simp] theorem latest_none (a : Option Instant) : latest a none = a := by
  cases a <;> rfl

/-- A stamp leaves the later of the time and the last activation. -/
theorem latest_some (a : Option Instant) (now : Instant) : latest a (some now) = some (raised a now) := by
  cases a with
  | none => rfl
  | some last => rw [latest, raised, later_comm]

@[simp] theorem none_latest (a : Option Instant) : latest none a = a :=
  rfl

/-- The later of an activation and itself. -/
@[simp] theorem latest_self (a : Option Instant) : latest a a = a := by
  cases a with
  | none => rfl
  | some t => exact congrArg some (later_of_le (Std.le_refl t))

/-- The later of two activations is one of them. -/
theorem eq_of_latest {a b : Option Instant} {t : Instant} (h : latest a b = some t) : a = some t ∨ b = some t := by
  cases a with
  | none => exact .inr h
  | some last =>
    cases b with
    | none => exact .inl h
    | some now =>
      rw [latest, later] at h
      split at h
      · exact .inr h
      · exact .inl h

end Instant

/-! ## The latest of some times -/

/-- Whether an activation is the latest of some times: one of them that none is after, or absent where there are none. -/
def IsLatest (ts : List Instant) : Option Instant → Prop
  | none => ts = []
  | some t => t ∈ ts ∧ ∀ u ∈ ts, u ≤ t

namespace IsLatest

variable {ts us : List Instant} {last other : Option Instant}

/-- One more time leaves the later of it and the latest before. -/
theorem concat (h : IsLatest ts last) (t : Instant) : IsLatest (ts ++ [t]) (Instant.latest last (some t)) := by
  cases last with
  | none =>
    subst h
    exact ⟨List.mem_singleton_self t, fun u hu => List.mem_singleton.mp hu ▸ Std.le_refl t⟩
  | some last =>
    obtain ⟨hmem, hle⟩ := h
    refine ⟨?_, fun u hu => ?_⟩
    · rcases Instant.eq_of_latest (a := some last) (b := some t) rfl with he | he
      · exact List.mem_append_left _ (Option.some.inj he ▸ hmem)
      · exact List.mem_append_right _ (List.mem_singleton.mpr (Option.some.inj he).symm)
    · rcases List.mem_append.mp hu with hu | hu
      · exact Std.le_trans (hle u hu) (Instant.le_later_left last t)
      · exact List.mem_singleton.mp hu ▸ Instant.le_later_right last t

/-- An activation is the latest of itself. -/
theorem toList (last : Option Instant) : IsLatest last.toList last := by
  cases last with
  | none => rfl
  | some t => exact ⟨List.mem_singleton_self t, fun u hu => List.mem_singleton.mp hu ▸ Std.le_refl t⟩

/-- The same times have the same latest one, in whatever order they are and however often. -/
theorem unique (h : IsLatest ts last) (h' : IsLatest us other) (hsame : ∀ t, t ∈ ts ↔ t ∈ us) : last = other := by
  cases last with
  | none =>
    subst h
    cases other with
    | none => rfl
    | some u => exact absurd ((hsame u).mpr h'.1) List.not_mem_nil
  | some t =>
    cases other with
    | none =>
      subst h'
      exact absurd ((hsame t).mp h.1) List.not_mem_nil
    | some u =>
      have htu : t ≤ u := h'.2 t ((hsame t).mp h.1)
      have hut : u ≤ t := h.2 u ((hsame u).mpr h'.1)
      rw [Std.le_antisymm htu hut]

end IsLatest

end Herald
