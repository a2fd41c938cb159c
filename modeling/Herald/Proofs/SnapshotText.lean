import Herald.Proofs.InstantText
import Herald.Proofs.JsonText
import Herald.Proofs.KeyedOrder
import Herald.State.Snapshot

/-!
# Snapshots survive being written

The document that is written of a snapshot is read back, if its version fits the document and its targets stand in rising order, with what
comes back of every instant (`Snapshot.written`). That is the snapshot itself if a clock can show its instants. What is read of any
document has its targets in rising order, and a clock can show its instants.
-/

namespace Herald.Snapshot

open Json (Draft Plain PlainFields draftOf fieldDraftsOf)

/-- Whether a clock can show all instants of a snapshot. -/
def OnClock (s : Snapshot) : Prop :=
  ∀ p ∈ s.targets, p.2.OnClock

instance (s : Snapshot) : Decidable s.OnClock :=
  inferInstanceAs (Decidable (∀ p ∈ s.targets, p.2.OnClock))

/-- What is read of the document of a snapshot. -/
def written (s : Snapshot) : Snapshot :=
  { s with targets := s.targets.mapValues Instant.written }

/-- What a clock can show comes back as it was. -/
theorem written_of_onClock {s : Snapshot} (h : s.OnClock) : s.written = s := by
  have hsame : s.targets.mapValues Instant.written = s.targets := by
    refine (List.map_congr_left fun p hp => ?_).trans (List.map_id s.targets)
    rw [Instant.written_of_onClock (h p hp), id]
  rw [written, hsame]

/-- Only what a clock can show comes back as it was. -/
theorem written_eq_self_iff {s : Snapshot} : s.written = s ↔ s.OnClock := by
  refine ⟨fun h p hp => ?_, written_of_onClock⟩
  rw [← h] at hp
  obtain ⟨q, -, rfl⟩ := List.mem_map.mp hp
  exact q.2.onClock_written

/-- An identity has in the document what comes back of its instant. -/
theorem get?_written (s : Snapshot) (identity : String) :
    s.written.targets.get? identity = (s.targets.get? identity).map Instant.written :=
  Keyed.get?_mapValues _ identity s.targets

/-- The records of targets are plain. -/
theorem plain_entries (targets : Keyed Instant) : PlainFields (targets.mapValues entryValue) := by
  induction targets with
  | nil => trivial
  | cons p rest ih => exact ⟨⟨trivial, trivial⟩, ih⟩

/-- A snapshot whose version fits a word is plain. -/
theorem plain_toValue {s : Snapshot} (hv : s.version < Nat.pow 2 32) : Plain s.toValue := by
  refine ⟨?_, plain_entries s.targets, trivial⟩
  have hword : Nat.pow 2 32 ≤ Json.maxWord := by decide
  exact Nat.le_trans (Nat.le_of_lt hv) hword

/-- The record of a target is read back. -/
theorem readRecord?_draftOf (t : Instant) : readRecord? (draftOf (entryValue t)) = some t.written := by
  have hfield : field? "last_notified" [(some "last_notified", .scalar (some (.text t.render)))] =
      some (some (.scalar (some (.text t.render)))) := by
    simp [field?]
  change readRecord? (.object [(some "last_notified", .scalar (some (.text t.render)))]) = some t.written
  rw [readRecord?, hfield, Option.join_some, Option.bind_some, readInstant?, t.ofText?_render]

/-- The records of targets are read back in their order. -/
theorem readRecords?_draftsOf (targets : Keyed Instant) :
    readRecords? (fieldDraftsOf (targets.mapValues entryValue)) = some (targets.mapValues Instant.written) := by
  induction targets with
  | nil => rfl
  | cons p rest ih =>
    change readRecords? ((some p.1, draftOf (entryValue p.2)) :: fieldDraftsOf (Keyed.mapValues entryValue rest)) = _
    rw [readRecords?, readRecord?_draftOf, ih]
    rfl

/-- A snapshot is read back from what is written of it. -/
theorem ofText?_toText {s : Snapshot} (hv : s.version < Nat.pow 2 32) (ht : s.targets.Rising) : ofText? s.toText = some s.written := by
  have htargets : readTargets? (.object (fieldDraftsOf (s.targets.mapValues entryValue))) = some (s.targets.mapValues Instant.written) := by
    rw [readTargets?, readRecords?_draftsOf, Option.map_some, Keyed.ofList_of_rising (ht.mapValues _)]
  have hversion : readVersion? (.scalar (some (.unsigned s.version))) = some s.version := if_pos hv
  rw [ofText?, toText, Json.ofText?_indented (plain_toValue hv), Option.bind_some]
  change ofDraft? (.object [(some "version", .scalar (some (.unsigned s.version))),
    (some "targets", .object (fieldDraftsOf (s.targets.mapValues entryValue)))]) = _
  simp [ofDraft?, field?, hversion, htargets, written]

/-- A clock can show the instant of a record that is read. -/
theorem onClock_of_readRecord? {d : Draft} {t : Instant} (h : readRecord? d = some t) : t.OnClock := by
  have hinstant {d : Draft} (h : readInstant? d = some t) : t.OnClock := by
    rw [readInstant?.eq_def] at h
    split at h
    · exact Instant.onClock_of_ofText? h
    · cases h
  rw [readRecord?.eq_def] at h
  split at h
  · obtain ⟨d, -, hd⟩ := Option.bind_eq_some_iff.mp h
    exact hinstant hd
  · exact hinstant h
  · cases h

/-- A clock can show the instants of all records that are read. -/
theorem onClock_of_readRecords? {entries : List (Option String × Draft)} {pairs : List (String × Instant)}
    (h : readRecords? entries = some pairs) : ∀ p ∈ pairs, p.2.OnClock := by
  induction entries generalizing pairs with
  | nil =>
    obtain rfl := Option.some.inj h
    exact fun p hp => absurd hp List.not_mem_nil
  | cons entry rest ih =>
    simp only [readRecords?, Option.bind_eq_bind, Option.bind_eq_some_iff] at h
    obtain ⟨key, -, t, ht, more, hmore, hpairs⟩ := h
    obtain rfl := Option.some.inj hpairs
    exact List.forall_mem_cons.mpr ⟨onClock_of_readRecord? ht, ih hmore⟩

/-- The targets that are read stand in rising order, and a clock can show their instants. -/
theorem rising_onClock_readTargets? {d : Draft} {targets : Keyed Instant} (h : readTargets? d = some targets) :
    targets.Rising ∧ ∀ p ∈ targets, p.2.OnClock := by
  rw [readTargets?.eq_def] at h
  split at h
  case h_1 fields =>
    obtain ⟨pairs, hpairs, rfl⟩ := Option.map_eq_some_iff.mp h
    exact ⟨Keyed.rising_ofList pairs, fun p hp => onClock_of_readRecords? hpairs p (Keyed.mem_of_mem_ofList hp)⟩
  case h_2 => exact absurd h nofun

/-- A document that is read has its targets in rising order, and a clock can show its instants. -/
theorem rising_onClock_ofText? {text : String} {s : Snapshot} (h : ofText? text = some s) : s.targets.Rising ∧ s.OnClock := by
  have hnone : Keyed.Rising ([] : Keyed Instant) ∧ ∀ p ∈ ([] : Keyed Instant), p.2.OnClock :=
    ⟨Keyed.rising_nil, fun p hp => absurd hp List.not_mem_nil⟩
  obtain ⟨d, _, hd⟩ := Option.bind_eq_some_iff.mp h
  rw [ofDraft?.eq_def] at hd
  split at hd
  case h_1 fields =>
    obtain ⟨version?, _, hd⟩ := Option.bind_eq_some_iff.mp hd
    obtain ⟨versionDraft, _, hd⟩ := Option.bind_eq_some_iff.mp hd
    obtain ⟨version, _, hd⟩ := Option.bind_eq_some_iff.mp hd
    obtain ⟨targets?, _, hd⟩ := Option.bind_eq_some_iff.mp hd
    split at hd
    · exact Option.some.inj hd ▸ hnone
    · obtain ⟨targets, ht, hd⟩ := Option.bind_eq_some_iff.mp hd
      exact Option.some.inj hd ▸ rising_onClock_readTargets? ht
  case h_2 version =>
    obtain ⟨n, _, hd⟩ := Option.bind_eq_some_iff.mp hd
    exact Option.some.inj hd ▸ hnone
  case h_3 version targets =>
    obtain ⟨n, _, hd⟩ := Option.bind_eq_some_iff.mp hd
    obtain ⟨targets, ht, hd⟩ := Option.bind_eq_some_iff.mp hd
    exact Option.some.inj hd ▸ rising_onClock_readTargets? ht
  case h_4 => exact absurd hd nofun

end Herald.Snapshot
