import Herald.Inbox
import Herald.Proofs.Digits
import Mathlib.Data.List.Induction
import Mathlib.Data.List.Nodup

/-!
# Notifications without a name

A notification that is created without a name gets the next number of the series. The series does not look whether that number is taken,
and callers may name their notifications as they like: one that was named by the next number, and not dismissed since, is replaced
(`named_number_is_replaced`). That is the only way to lose one. In every run the numbers given so far lie below the next one, so whatever
stands under the next number was named by a caller; every other notification stays as it is, and in its place
(`unnamed_replaces_only_its_number`).
-/

namespace Herald.Inbox

/-! ## Runs -/

/-- What is asked of an inbox, at some time where that is kept. -/
inductive Request
  | create (now : Instant) (message : String) (title id : Option String)
  | dismiss (id : String)
  /-- A message is sent to a target that may have a name. -/
  | send (now : Instant) (name : Option String) (m : Message)

/-- The name that a request gives to the notification it creates, if it creates one and if it names it. -/
def Request.naming? : Request → Option (Option String)
  | .create _ _ _ id => some id
  | .dismiss _ => none
  | .send _ _ m => (namedId m).toOption

/-- The inbox after a request. A message that names its notification by no text is refused. -/
def perform (b : Inbox) : Request → Inbox
  | .create now message title id => (b.create now message title id).2
  | .dismiss id => (b.dismiss id).2
  | .send now name m =>
    match b.deliver now name m with
    | .ok b => b
    | .error _ => b

/-- The inbox after some requests, from the first one on. -/
def run (requests : List Request) : Inbox :=
  requests.foldl perform {}

/-- The identities of the notifications, in their order. -/
def ids (b : Inbox) : List String :=
  b.notifications.map (·.id)

theorem run_concat (requests : List Request) (q : Request) : run (requests ++ [q]) = (run requests).perform q := by
  simp [run]

/-- Different numbers have different identities. -/
theorem generatedId_inj {m n : Nat} : generatedId m = generatedId n ↔ m = n := by
  refine ⟨fun h => ?_, congrArg generatedId⟩
  have hdigits := congrArg String.toList ((String.append_right_inj "notification_").mp h)
  rw [Nat.toString_eq_repr, Nat.toString_eq_repr, Nat.toList_repr, Nat.toList_repr] at hdigits
  rw [← Text.natOfDigits_toDigits m, hdigits, Text.natOfDigits_toDigits]

/-! ## One request -/

/-- A request that creates a notification does so under the name it gives, or under the next number. -/
theorem perform_of_naming {q : Request} {id : Option String} (hq : q.naming? = some id) :
    ∃ now message title, ∀ b : Inbox, b.perform q = (b.create now message title id).2 := by
  cases q with
  | create now message title id' =>
    obtain rfl := Option.some.inj hq
    exact ⟨now, message, title, fun b => rfl⟩
  | dismiss id => cases hq
  | send now name m =>
    have hnamed : namedId m = .ok id := by
      cases hn : namedId m with
      | error failure =>
        simp [Request.naming?, hn, Except.toOption] at hq
      | ok id' =>
        simp only [Request.naming?, hn, Except.toOption, Option.some.injEq] at hq
        rw [hq]
    refine ⟨now, statusLine name m, m.title.or name, fun b => ?_⟩
    simp [perform, deliver, hnamed, bind, Except.bind, pure, Except.pure]

/-- A request that creates nothing dismisses something, or changes nothing. -/
theorem perform_of_naming_none {q : Request} (hq : q.naming? = none) (b : Inbox) :
    (∃ id, q = .dismiss id ∧ b.perform q = b.without id) ∨ (∀ id, q ≠ .dismiss id) ∧ b.perform q = b := by
  cases q with
  | create now message title id => cases hq
  | dismiss id => exact .inl ⟨id, rfl, rfl⟩
  | send now name m =>
    cases hn : namedId m with
    | error failure => exact .inr ⟨nofun, by simp [perform, deliver, hn, bind, Except.bind]⟩
    | ok id => simp [Request.naming?, hn, Except.toOption] at hq

/-- The identity of the notification that is created under a name or without one. -/
def nextId (b : Inbox) (id : Option String) : String :=
  id.getD (generatedId (b.generated + 1))

/-- A notification is put at the end and takes the place of the one that has its identity. -/
theorem notifications_create (b : Inbox) (now : Instant) (message : String) (title id : Option String) :
    (b.create now message title id).2.notifications =
      (b.without (b.nextId id)).notifications ++ [⟨b.nextId id, title, message, now⟩] := by
  cases id <;> rfl

/-- A number is used up by a notification without a name only. -/
theorem generated_create (b : Inbox) (now : Instant) (message : String) (title id : Option String) :
    (b.create now message title id).2.generated = b.generated + if id.isNone then 1 else 0 := by
  cases id <;> rfl

theorem mem_ids_without {b : Inbox} {id other : String} : id ∈ (b.without other).ids ↔ id ∈ b.ids ∧ id ≠ other := by
  simp only [ids, without, List.mem_map, List.mem_filter, bne_iff_ne]
  constructor
  · rintro ⟨n, ⟨hn, hne⟩, rfl⟩
    exact ⟨⟨n, hn, rfl⟩, hne⟩
  · rintro ⟨⟨n, hn, rfl⟩, hne⟩
    exact ⟨n, ⟨hn, hne⟩, rfl⟩

/-- The identities after a notification was created. -/
theorem mem_ids_create {b : Inbox} {now : Instant} {message : String} {title id : Option String} {other : String} :
    other ∈ (b.create now message title id).2.ids ↔ other = b.nextId id ∨ other ∈ b.ids := by
  have hmem : other ∈ (b.create now message title id).2.ids ↔ other ∈ (b.without (b.nextId id)).ids ∨ other = b.nextId id := by
    rw [ids, notifications_create, List.map_append, List.mem_append]
    simp [ids]
  rw [hmem, mem_ids_without]
  by_cases h : other = b.nextId id <;> simp [h]

theorem nodup_ids_create {b : Inbox} (h : b.ids.Nodup) (now : Instant) (message : String) (title id : Option String) :
    (b.create now message title id).2.ids.Nodup := by
  have hkept : (b.without (b.nextId id)).ids.Nodup := h.sublist (List.filter_sublist.map _)
  rw [ids, notifications_create, List.map_append, List.nodup_append]
  refine ⟨hkept, by simp, ?_⟩
  intro other ho new hn
  rw [List.mem_singleton.mp hn]
  exact (mem_ids_without.mp ho).2

/-! ## What stands in the inbox -/

/-- Whether an identity was named by a caller and not dismissed since. -/
def Named (requests : List Request) (id : String) : Prop :=
  ∃ before q behind, requests = before ++ q :: behind ∧ q.naming? = some (some id) ∧ ∀ r ∈ behind, r ≠ .dismiss id

/-- How many notifications were created without a name. -/
def unnamed (requests : List Request) : Nat :=
  requests.countP fun q => q.naming? = some none

theorem unnamed_concat (requests : List Request) (q : Request) :
    unnamed (requests ++ [q]) = unnamed requests + if q.naming? = some none then 1 else 0 := by
  simp [unnamed, List.countP_append, List.countP_singleton]

/-- The last request names an identity, or it was named before and is not dismissed. -/
theorem named_concat {requests : List Request} {q : Request} {id : String} :
    Named (requests ++ [q]) id ↔ q.naming? = some (some id) ∨ Named requests id ∧ q ≠ .dismiss id := by
  constructor
  · rintro ⟨before, q', behind, hsplit, hnaming, hkept⟩
    rcases List.eq_nil_or_concat behind with rfl | ⟨behind, r, rfl⟩
    · obtain ⟨-, hlast⟩ := List.append_inj' hsplit rfl
      obtain rfl := List.singleton_inj.mp hlast
      exact .inl hnaming
    · rw [List.concat_eq_append, ← List.cons_append, ← List.append_assoc] at hsplit
      obtain ⟨hrequests, hlast⟩ := List.append_inj' hsplit rfl
      obtain rfl := List.singleton_inj.mp hlast
      rw [List.concat_eq_append, List.forall_mem_append] at hkept
      exact .inr ⟨⟨before, q', behind, hrequests, hnaming, hkept.1⟩, hkept.2 q (List.mem_singleton_self q)⟩
  · rintro (hnaming | ⟨⟨before, q', behind, rfl, hnaming, hkept⟩, hq⟩)
    · exact ⟨requests, q, [], rfl, hnaming, fun r hr => absurd hr List.not_mem_nil⟩
    · refine ⟨before, q', behind ++ [q], by simp, hnaming, ?_⟩
      rw [List.forall_mem_append, List.forall_mem_singleton]
      exact ⟨hkept, hq⟩

/-- What every run keeps: as many numbers are used up as notifications were created without a name, no two notifications have one identity,
each was named by a caller or has a number that is used up, and what was named stands until it is dismissed. -/
structure Numbered (requests : List Request) (b : Inbox) : Prop where
  generated : b.generated = unnamed requests
  nodup : b.ids.Nodup
  origin : ∀ id ∈ b.ids, Named requests id ∨ ∃ n ≤ b.generated, id = generatedId n
  stands : ∀ id, Named requests id → id ∈ b.ids

/-- Creating a notification keeps it. -/
theorem Numbered.create {requests : List Request} {b : Inbox} (h : Numbered requests b) {q : Request} {id : Option String}
    (hq : q.naming? = some id) (now : Instant) (message : String) (title : Option String) :
    Numbered (requests ++ [q]) (b.create now message title id).2 where
  generated := by
    rw [generated_create, h.generated, unnamed_concat, hq]
    cases id <;> rfl
  nodup := nodup_ids_create h.nodup now message title id
  origin other ho := by
    rw [named_concat, hq, generated_create]
    rcases mem_ids_create.mp ho with rfl | ho
    · cases id with
      | none => exact .inr ⟨b.generated + 1, Nat.le_refl _, rfl⟩
      | some id => exact .inl (.inl rfl)
    · rcases h.origin other ho with hnamed | ⟨n, hn, hother⟩
      · refine .inl (.inr ⟨hnamed, ?_⟩)
        rintro rfl
        cases hq
      · exact .inr ⟨n, Nat.le_add_right_of_le hn, hother⟩
  stands other ho := by
    rw [named_concat, hq] at ho
    rw [mem_ids_create]
    rcases ho with hid | ⟨hnamed, -⟩
    · obtain rfl := Option.some.inj hid
      exact .inl rfl
    · exact .inr (h.stands other hnamed)

/-- Every request keeps it. -/
theorem Numbered.perform {requests : List Request} {b : Inbox} (h : Numbered requests b) (q : Request) :
    Numbered (requests ++ [q]) (b.perform q) := by
  cases hq : q.naming? with
  | some id =>
    obtain ⟨now, message, title, hcreate⟩ := perform_of_naming hq
    rw [hcreate]
    exact h.create hq now message title
  | none =>
    have hcount : unnamed (requests ++ [q]) = unnamed requests := by
      rw [unnamed_concat, hq]
      rfl
    rcases perform_of_naming_none hq b with ⟨id, rfl, hperform⟩ | ⟨hq', hperform⟩
    · rw [hperform]
      refine ⟨h.generated.trans hcount.symm, h.nodup.sublist (List.filter_sublist.map _), ?_, ?_⟩
      · intro other ho
        obtain ⟨ho, hne⟩ := mem_ids_without.mp ho
        rcases h.origin other ho with hnamed | hnumber
        · refine .inl (named_concat.mpr (.inr ⟨hnamed, ?_⟩))
          rintro hsame
          exact hne (Request.dismiss.inj hsame).symm
        · exact .inr hnumber
      · intro other ho
        rw [named_concat, hq] at ho
        rcases ho with hnone | ⟨hnamed, hkept⟩
        · cases hnone
        · exact mem_ids_without.mpr ⟨h.stands other hnamed, fun hsame => hkept (congrArg _ hsame.symm)⟩
    · rw [hperform]
      refine ⟨h.generated.trans hcount.symm, h.nodup, ?_, ?_⟩
      · intro other ho
        rcases h.origin other ho with hnamed | hnumber
        · exact .inl (named_concat.mpr (.inr ⟨hnamed, hq' other⟩))
        · exact .inr hnumber
      · intro other ho
        rw [named_concat, hq] at ho
        rcases ho with hnone | ⟨hnamed, -⟩
        · cases hnone
        · exact h.stands other hnamed

/-- It is so after every run. -/
theorem numbered_run (requests : List Request) : Numbered requests (run requests) := by
  induction requests using List.reverseRecOn with
  | nil =>
    refine ⟨rfl, List.nodup_nil, fun id hid => absurd hid List.not_mem_nil, ?_⟩
    rintro id ⟨before, q, behind, hsplit, -⟩
    exact absurd hsplit (by simp)
  | append_singleton requests q ih =>
    rw [run_concat]
    exact ih.perform q

/-! ## The next number -/

/-- The identity that the next notification without a name gets. -/
def dueId (requests : List Request) : String :=
  generatedId (unnamed requests + 1)

/-- The next number was given to no notification yet, so what stands under it was named. -/
theorem dueId_mem_ids (requests : List Request) : dueId requests ∈ (run requests).ids ↔ Named requests (dueId requests) := by
  have h := numbered_run requests
  refine ⟨fun hmem => ?_, h.stands _⟩
  rcases h.origin _ hmem with hnamed | ⟨n, hn, hsame⟩
  · exact hnamed
  · rw [h.generated] at hn
    have hnumber := generatedId_inj.mp hsame
    omega

/-- Whether an inbox has one notification more than before, and all others as they were. -/
def Spares (b b' : Inbox) : Prop :=
  b.notifications <+: b'.notifications ∧ b'.size = b.size + 1

/-- A notification without a name takes the place of the one under the next number, and of no other. -/
theorem perform_unnamed (requests : List Request) {q : Request} (hq : q.naming? = some none) :
    ∃ new : Notification, new.id = dueId requests ∧
      (run (requests ++ [q])).notifications = ((run requests).without (dueId requests)).notifications ++ [new] := by
  obtain ⟨now, message, title, hcreate⟩ := perform_of_naming hq
  have hid : (run requests).nextId none = dueId requests := by
    rw [nextId, Option.getD_none, (numbered_run requests).generated, dueId]
  refine ⟨⟨dueId requests, title, message, now⟩, rfl, ?_⟩
  rw [run_concat, hcreate, notifications_create, hid]

/-- An inbox without an identity that it does not have is the same. -/
theorem without_of_not_mem {b : Inbox} {id : String} (h : id ∉ b.ids) : b.without id = b := by
  have hall : ∀ n ∈ b.notifications, (n.id != id) = true := by
    intro n hn
    rw [bne_iff_ne]
    rintro rfl
    exact h (List.mem_map_of_mem hn)
  rw [without, List.filter_eq_self.mpr hall]

/-- An inbox without an identity that it has lacks the one notification that has it. -/
theorem without_of_mem {b : Inbox} (hb : b.ids.Nodup) {id : String} (h : id ∈ b.ids) :
    ∃ before old behind, b.notifications = before ++ old :: behind ∧ old.id = id ∧
      (b.without id).notifications = before ++ behind := by
  obtain ⟨old, hold, rfl⟩ := List.mem_map.mp h
  obtain ⟨before, behind, hsplit⟩ := List.append_of_mem hold
  refine ⟨before, old, behind, hsplit, rfl, ?_⟩
  rw [ids, hsplit, List.map_append, List.map_cons, List.nodup_middle, List.nodup_cons] at hb
  have hothers : ∀ n ∈ before ++ behind, (n.id != old.id) = true := by
    intro n hn
    rw [bne_iff_ne]
    intro hsame
    rw [← List.map_append, ← hsame] at hb
    exact hb.1 (List.mem_map_of_mem hn)
  rw [without, hsplit, List.filter_append, List.filter_cons_of_neg (by simp), ← List.filter_append, List.filter_eq_self.mpr hothers]

/-- After every run, creating a notification without a name leaves all others as they are and adds one, unless the number that is due was
given by name and not dismissed since. Then the notification under it is replaced, and that one only. -/
theorem unnamed_replaces_only_its_number (requests : List Request) {q : Request} (hq : q.naming? = some none) :
    (Spares (run requests) (run (requests ++ [q])) ↔ ¬Named requests (dueId requests)) ∧
    (Named requests (dueId requests) → ∃ before old behind new, (run requests).notifications = before ++ old :: behind ∧
      old.id = dueId requests ∧ new.id = dueId requests ∧ (run (requests ++ [q])).notifications = before ++ behind ++ [new]) := by
  obtain ⟨new, hnew, hafter⟩ := perform_unnamed requests hq
  have hreplaced (hnamed : Named requests (dueId requests)) :
      ∃ before old behind, (run requests).notifications = before ++ old :: behind ∧ old.id = dueId requests ∧
        (run (requests ++ [q])).notifications = before ++ behind ++ [new] := by
    obtain ⟨before, old, behind, hsplit, hold, hwithout⟩ :=
      without_of_mem (numbered_run requests).nodup ((dueId_mem_ids requests).mpr hnamed)
    exact ⟨before, old, behind, hsplit, hold, by rw [hafter, hwithout]⟩
  refine ⟨⟨fun hspares hnamed => ?_, fun hfree => ?_⟩, fun hnamed => ?_⟩
  · obtain ⟨before, old, behind, hsplit, -, hlost⟩ := hreplaced hnamed
    have hsize := hspares.2
    simp only [size, hsplit, hlost, List.length_append, List.length_cons, List.length_nil] at hsize
    omega
  · rw [← dueId_mem_ids] at hfree
    rw [without_of_not_mem hfree] at hafter
    refine ⟨hafter ▸ List.prefix_append _ _, ?_⟩
    rw [size, hafter, List.length_append, List.length_singleton, size]
  · obtain ⟨before, old, behind, hsplit, hold, hlost⟩ := hreplaced hnamed
    exact ⟨before, old, behind, new, hsplit, hold, hnew, hlost⟩

/-- After a name outside the series, and after a named number that was dismissed, notifications without a name are added. -/
theorem dismissed_number_is_free :
    Spares (run [.create .epoch "kept" none (some "backup"), .create .epoch "gone" none (some "notification_1"), .dismiss "notification_1"])
      (run [.create .epoch "kept" none (some "backup"), .create .epoch "gone" none (some "notification_1"), .dismiss "notification_1",
        .send .epoch none { message := some "new" }]) := by
  refine (unnamed_replaces_only_its_number
    [.create .epoch "kept" none (some "backup"), .create .epoch "gone" none (some "notification_1"), .dismiss "notification_1"]
    (q := .send .epoch none { message := some "new" }) rfl).1.mpr ?_
  rw [← dueId_mem_ids]
  decide

/-- A notification is named by the number that is due, and lost when another is created without a name. -/
theorem named_number_is_replaced :
    ¬∀ requests q, q.naming? = some none → Spares (run requests) (run (requests ++ [q])) := by
  intro hclaim
  have hspares := hclaim [.create .epoch "kept" none (some "notification_1")] (.create .epoch "new" none none) rfl
  have hafter : (run [.create .epoch "kept" none (some "notification_1"), .create .epoch "new" none none]).notifications =
      [⟨"notification_1", none, "new", .epoch⟩] := by
    decide
  have hsize := hspares.2
  rw [size, List.singleton_append, hafter] at hsize
  exact absurd hsize (by decide)

end Herald.Inbox
