import Herald.Proofs.Follower

/-!
# The store as a pointwise maximum

A store is told of activations one at a time, or of all that a source has at once, in whatever order the source lists them. What it has
in the end is, for every identity, the latest of what was loaded and what it was told (`restored_sync`), so neither the order nor a
repetition makes a difference. A record tells whether it changed anything, and the mark whether any of them did.
-/

namespace Herald

/-- What a store is told at once: one activation, or all that a source has, in the order in which it lists them. -/
inductive Notice
  | one (identity : String) (t : Instant)
  | all (activations : List (String × Instant))

/-- The activations that a notice tells. -/
def Notice.activations : Notice → List (String × Instant)
  | one identity t => [(identity, t)]
  | all activations => activations

/-- The times of an identity among some activations. -/
def timesOf (identity : String) (activations : List (String × Instant)) : List Instant :=
  (activations.filter fun a => a.1 = identity).map (·.2)

theorem mem_timesOf {identity : String} {activations : List (String × Instant)} {t : Instant} :
    t ∈ timesOf identity activations ↔ (identity, t) ∈ activations := by
  simp [timesOf]

namespace Store

/-- Handles a notice. -/
def hear (s : Store) : Notice → Store
  | .one identity t => (s.record identity t).2
  | .all activations => s.sync activations

/-- Handles notices, one after the other. -/
def hearAll (s : Store) (notices : List Notice) : Store :=
  notices.foldl hear s

variable {s : Store}

/-! ## The content -/

/-- Notices are the records of their activations. -/
theorem hearAll_eq_sync (s : Store) (notices : List Notice) : s.hearAll notices = s.sync (notices.flatMap Notice.activations) := by
  induction notices generalizing s with
  | nil => rfl
  | cons n rest ih =>
    have hhear : s.hear n = s.sync n.activations := by
      cases n <;> rfl
    rw [List.flatMap_cons, sync_append, ← hhear]
    exact ih (s.hear n)

/-- What a store has for an identity after records is the latest of what it had and what was recorded. -/
theorem restored_sync (s : Store) (activations : List (String × Instant)) (identity : String) :
    IsLatest ((s.restored identity).toList ++ timesOf identity activations) ((s.sync activations).restored identity) := by
  induction activations using List.reverseRecOn with
  | nil =>
    rw [timesOf, List.filter_nil, List.map_nil, List.append_nil]
    exact .toList _
  | append_singleton before a ih =>
    rw [sync_append]
    change IsLatest _ (((s.sync before).record a.1 a.2).2.restored identity)
    rw [restored_record]
    by_cases ha : a.1 = identity
    · have htimes : timesOf identity (before ++ [a]) = timesOf identity before ++ [a.2] := by
        simp [timesOf, ha]
      rw [if_pos ha.symm, ha, htimes, ← List.append_assoc]
      exact ih.concat a.2
    · have htimes : timesOf identity (before ++ [a]) = timesOf identity before := by
        simp [timesOf, ha]
      rw [if_neg (Ne.symm ha), htimes]
      exact ih

/-- Everything that was recorded is reached. -/
theorem reaches_sync {activations : List (String × Instant)} {identity : String} {t : Instant} (h : (identity, t) ∈ activations) :
    (s.sync activations).Reaches identity t := by
  have hlatest := restored_sync s activations identity
  have hmem := List.mem_append_right (s.restored identity).toList (mem_timesOf.mpr h)
  cases hr : (s.sync activations).restored identity with
  | none =>
    rw [hr] at hlatest
    exact absurd (hlatest ▸ hmem) List.not_mem_nil
  | some last =>
    rw [hr] at hlatest
    exact ⟨last, hr, hlatest.2 t hmem⟩

/-- The same activations, in whatever order and however often, leave the same in a store whose targets rise. -/
theorem targets_sync_congr (h : s.targets.Rising) {activations others : List (String × Instant)}
    (hsame : ∀ a, a ∈ activations ↔ a ∈ others) : (s.sync activations).targets = (s.sync others).targets := by
  refine (rising_sync h activations).ext_get? (rising_sync h others) fun identity => ?_
  refine (restored_sync s activations identity).unique (restored_sync s others identity) fun t => ?_
  rw [List.mem_append, List.mem_append, mem_timesOf, mem_timesOf, hsame]

/-! ## What is told of changes -/

theorem restored_eq_of_snapshot {s' : Store} (h : s.snapshot = s'.snapshot) (identity : String) :
    s.restored identity = s'.restored identity :=
  congrArg (fun shot : Snapshot => shot.targets.get? identity) h

/-- A record says that it changed something exactly if it did. -/
theorem record_fst_iff (s : Store) (identity : String) (t : Instant) :
    (s.record identity t).1 = true ↔ (s.record identity t).2.snapshot ≠ s.snapshot := by
  by_cases h : s.Reaches identity t
  · simp [h.record_eq]
  · have hchanged : (s.record identity t).1 = true := by rw [record_of_not_reaches h]
    refine ⟨fun _ hsame => h ?_, fun _ => hchanged⟩
    -- it is reached afterwards, so it was before if nothing had changed
    obtain ⟨last, hlast, hle⟩ := s.reaches_record identity t
    exact ⟨last, (restored_eq_of_snapshot hsame identity).symm.trans hlast, hle⟩

/-- Records of a store without the mark set it exactly if they changed something. -/
theorem dirty_sync_iff (hclean : s.dirty = false) (activations : List (String × Instant)) :
    (s.sync activations).dirty = true ↔ (s.sync activations).snapshot ≠ s.snapshot := by
  constructor
  · intro hdirty hsame
    have hreached : ∀ a ∈ activations, s.Reaches a.1 a.2 := by
      intro a ha
      obtain ⟨last, hlast, hle⟩ := reaches_sync (s := s) ha
      exact ⟨last, (restored_eq_of_snapshot hsame a.1).symm.trans hlast, hle⟩
    rw [sync_of_reaches hreached, hclean] at hdirty
    exact Bool.false_ne_true hdirty
  · intro hchanged
    by_contra hdirty
    exact hchanged (congrArg snapshot (sync_of_dirty (Bool.eq_false_iff.mpr hdirty)))

/-! ## From what was loaded on -/

section Loaded

variable {files : Files} {backend : Backend} {vault : Vault} (hl : Vault.load files backend = .ok vault)
  (hm : ∀ saved refusesLoad refusesSave, backend = .memory (some saved) refusesLoad refusesSave → saved.targets.Rising)
include hl hm

/-- The targets that were loaded are in rising order, since a file gives no others. -/
theorem rising_of_load : vault.store.targets.Rising := by
  obtain ⟨s, hs, rfl⟩ := Vault.exists_of_load hl
  cases backend with
  | file path => exact (Flushing.loaded_of_file hs).2.1
  | memory saved refusesLoad refusesSave =>
    rw [Backend.load] at hs
    split at hs
    · cases hs
    · obtain rfl := Except.ok.inj hs
      cases saved with
      | none => exact Keyed.rising_nil
      | some saved => exact hm saved refusesLoad refusesSave rfl

/-- Whatever was loaded and whatever notices came, in whatever order: for every identity the store has the latest of what was loaded and
what came, and nothing where there was neither; the same activations leave the same snapshot, however they came; a record says that it
changed the content exactly if it did; and, without a flush, the mark is set exactly if the content is not what was loaded. -/
theorem is_the_pointwise_maximum :
    (∀ notices identity, IsLatest ((vault.store.restored identity).toList ++ timesOf identity (notices.flatMap Notice.activations))
      ((vault.store.hearAll notices).restored identity)) ∧
    (∀ notices others : List Notice, (∀ a, a ∈ notices.flatMap Notice.activations ↔ a ∈ others.flatMap Notice.activations) →
      (vault.store.hearAll notices).snapshot = (vault.store.hearAll others).snapshot) ∧
    (∀ notices identity t, ((vault.store.hearAll notices).record identity t).1 = true ↔
      ((vault.store.hearAll notices).record identity t).2.snapshot ≠ (vault.store.hearAll notices).snapshot) ∧
    ∀ notices, (vault.store.hearAll notices).dirty = true ↔ (vault.store.hearAll notices).snapshot ≠ vault.store.snapshot := by
  refine ⟨fun notices identity => ?_, fun notices others hsame => ?_, fun notices => record_fst_iff _, fun notices => ?_⟩
  · rw [hearAll_eq_sync]
    exact restored_sync vault.store _ identity
  · rw [hearAll_eq_sync, hearAll_eq_sync]
    exact congrArg Snapshot.ofTargets (targets_sync_congr (rising_of_load hl hm) hsame)
  · rw [hearAll_eq_sync]
    exact dirty_sync_iff (Vault.dirty_of_load hl) _

end Loaded

/-- An activation older than what was loaded, and a new target twice, in two orders: the snapshots are the same, with what was loaded for
the one and the later time for the other, and the store has the mark. -/
theorem order_makes_no_difference :
    ∃ (saved : Snapshot) (vault : Vault) (late : Instant) (notices others : List Notice),
      saved.targets = [("a", late)] ∧ Vault.load {} (.memory (some saved) false false) = .ok vault ∧
      notices = [.one "b" .epoch, .all [("a", .epoch), ("b", late)]] ∧
      others = [.all [("b", late), ("a", .epoch)], .one "b" late, .one "b" .epoch] ∧
      (vault.store.hearAll notices).snapshot = (vault.store.hearAll others).snapshot ∧
      IsLatest [late, .epoch] ((vault.store.hearAll notices).restored "a") ∧
      IsLatest [.epoch, late] ((vault.store.hearAll notices).restored "b") ∧
      ((vault.store.hearAll notices).record "b" late).1 = false ∧ (vault.store.hearAll notices).dirty = true := by
  let late : Instant := { seconds := 60, nanos := 0 }
  let saved : Snapshot := .ofTargets [("a", late)]
  let vault : Vault := ⟨.ofSnapshot saved, .memory (some saved) false false⟩
  have hl : Vault.load {} (.memory (some saved) false false) = .ok vault := rfl
  have hm : ∀ before refusesLoad refusesSave, Backend.memory (some saved) false false = .memory (some before) refusesLoad refusesSave →
      before.targets.Rising := by
    rintro before refusesLoad refusesSave hbackend
    obtain ⟨hsame, -⟩ := Backend.memory.inj hbackend
    exact Option.some.inj hsame ▸ List.pairwise_singleton _ _
  obtain ⟨hlatest, hsame, hchanged, hmark⟩ := is_the_pointwise_maximum hl hm
  let notices : List Notice := [.one "b" .epoch, .all [("a", .epoch), ("b", late)]]
  let others : List Notice := [.all [("b", late), ("a", .epoch)], .one "b" late, .one "b" .epoch]
  have hmixed : ∀ a, a ∈ notices.flatMap Notice.activations ↔ a ∈ others.flatMap Notice.activations := by
    intro a
    simp only [notices, others, Notice.activations, List.flatMap_cons, List.flatMap_nil, List.mem_append, List.mem_cons,
      List.not_mem_nil, or_false]
    tauto
  have hquiet : ((vault.store.hearAll notices).record "b" late).1 = false := by
    refine Bool.eq_false_iff.mpr fun htrue => (hchanged notices "b" late).mp htrue ?_
    decide
  exact ⟨saved, vault, late, notices, others, rfl, hl, rfl, rfl, hsame notices others hmixed, hlatest notices "a", hlatest notices "b",
    hquiet, (hmark notices).mpr (by decide)⟩

end Store

end Herald
