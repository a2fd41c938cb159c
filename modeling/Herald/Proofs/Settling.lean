import Herald.Proofs.Workers

/-!
# The pool comes to rest

Every worker is free or held by a send that is under way (`Pool.Balanced`). So as long as a send is not finished, one that waits can be
taken on, or one that is under way can be ended; each such step leaves fewer (`Pool.left`), and when every send can end they all have at
last (`Hub.finished_settle`).
-/

namespace Herald

/-! ## Lists, item by item -/

namespace Counting

/-- What the items of a list count for together when one of them changes. -/
theorem countP_flatMap_set {α β : Type} {l : List α} {i : Nat} {a : α} (ha : l[i]? = some a) (a' : α) (f : α → List β) (p : β → Bool) :
    ((l.set i a').flatMap f).countP p + (f a).countP p = (l.flatMap f).countP p + (f a').countP p := by
  induction l generalizing i with
  | nil => cases ha
  | cons first rest ih =>
    cases i with
    | zero =>
      obtain rfl : first = a := by simpa using ha
      simp only [List.set_cons_zero, List.flatMap_cons, List.countP_append]
      omega
    | succ i =>
      have hrest := ih (i := i) (by simpa using ha)
      simp only [List.set_cons_succ, List.flatMap_cons, List.countP_append]
      omega

/-- How many items of a list pass when one of them changes. -/
theorem countP_set_add {α : Type} {l : List α} {i : Nat} {a : α} (ha : l[i]? = some a) (a' : α) (p : α → Bool) :
    (l.set i a').countP p + (p a).toNat = l.countP p + (p a').toNat := by
  have h := countP_flatMap_set ha a' (fun a => [a]) p
  have hone (a : α) : [a].countP p = (p a).toNat := by
    cases hp : p a <;> simp [hp]
  simpa [hone] using h

/-- A function that does not tell an item from the one that was there before does not tell the lists either. -/
theorem map_set_of_eq {α β : Type} {l : List α} {i : Nat} {a a' : α} {f : α → β} (ha : l[i]? = some a) (h : f a' = f a) :
    (l.set i a').map f = l.map f := by
  have hf : (l.map f)[i]? = some (f a) := by rw [List.getElem?_map, ha, Option.map_some]
  obtain ⟨_, hget⟩ := List.getElem?_eq_some_iff.mp hf
  rw [List.map_set, h, ← hget, List.set_getElem_self]

/-- The first of what is left of a list, and what is left without it. -/
theorem of_drop_eq_cons {α : Type} {l rest : List α} {k : Nat} {a : α} (h : l.drop k = a :: rest) :
    l[k]? = some a ∧ l.drop (k + 1) = rest := by
  constructor
  · have hhead := congrArg (fun l => l[0]?) h
    simpa using hhead
  · rw [← List.drop_drop, h]
    rfl

end Counting

/-! ## Pools -/

namespace Pool

open Counting (countP_set_add)

/-- How many sends are at a phase. -/
def countAt (p : Pool) (phase : Phase) : Nat :=
  p.submissions.countP fun s => s.phase == phase

/-- A pool with a worker at least, each of which is free or held by a send that is under way. -/
structure Balanced (p : Pool) : Prop where
  workers : 0 < p.maxWorkers
  permits : p.available + p.countAt .sending = p.maxWorkers

/-- How many steps are left to the sends. -/
def left (p : Pool) : Nat :=
  2 * p.countAt .waiting + p.countAt .sending

variable {p p' : Pool} {t : Nat} {s : Submission}

/-- A pool without sends. -/
theorem balanced_ofWorkers (n : Nat) : (ofWorkers n).Balanced where
  workers := Nat.lt_of_lt_of_le Nat.one_pos (Nat.le_max_left 1 n)
  permits := rfl

/-- A send that waits needs no worker. -/
theorem Balanced.submit (h : p.Balanced) (send : Send) : (p.submit send).2.Balanced where
  workers := h.workers
  permits := by
    have hpermits := h.permits
    rw [countAt] at hpermits
    simpa [countAt, Pool.submit, List.countP_append] using hpermits

/-- A worker that takes on a send is free no more, and the send does not wait any longer. -/
theorem counts_of_start? (hs : p.start? t = some p') :
    p'.maxWorkers = p.maxWorkers ∧ p'.available + 1 = p.available ∧ p'.countAt .waiting + 1 = p.countAt .waiting ∧
      p'.countAt .sending = p.countAt .sending + 1 := by
  obtain ⟨send, hwaiting⟩ := waiting_of_start? hs
  rw [start?_eq hwaiting] at hs
  split at hs
  · next hfree =>
    obtain rfl := Option.some.inj hs
    exact ⟨rfl, Nat.sub_add_cancel hfree, countP_set_add hwaiting ⟨send, .sending⟩ (·.phase == .waiting),
      countP_set_add hwaiting ⟨send, .sending⟩ (·.phase == .sending)⟩
  · cases hs

/-- A send that has ended gives its worker back. -/
theorem counts_of_finish? {o : Ended} (hf : p.finish? t o = some p') :
    p'.maxWorkers = p.maxWorkers ∧ p'.available = p.available + 1 ∧ p'.countAt .waiting = p.countAt .waiting ∧
      p'.countAt .sending + 1 = p.countAt .sending := by
  obtain ⟨send, hsending⟩ := sending_of_finish? hf
  rw [finish?_eq hsending] at hf
  obtain rfl := Option.some.inj hf
  exact ⟨rfl, rfl, countP_set_add hsending ⟨send, .finished o⟩ (·.phase == .waiting),
    countP_set_add hsending ⟨send, .finished o⟩ (·.phase == .sending)⟩

theorem Balanced.start? (h : p.Balanced) (hs : p.start? t = some p') : p'.Balanced ∧ p'.left < p.left := by
  obtain ⟨hmax, hfree, hwaits, hsends⟩ := counts_of_start? hs
  have hpermits := h.permits
  refine ⟨⟨hmax ▸ h.workers, by omega⟩, ?_⟩
  rw [left, left]
  omega

theorem Balanced.finish? (h : p.Balanced) {o : Ended} (hf : p.finish? t o = some p') : p'.Balanced ∧ p'.left < p.left := by
  obtain ⟨hmax, hfree, hwaits, hsends⟩ := counts_of_finish? hf
  have hpermits := h.permits
  refine ⟨⟨hmax ▸ h.workers, by omega⟩, ?_⟩
  rw [left, left]
  omega

/-- A send takes two steps at most. -/
theorem left_le (p : Pool) : p.left ≤ 2 * p.submissions.length := by
  rw [left, countAt, countAt]
  induction p.submissions with
  | nil => exact Nat.le_refl _
  | cons s rest ih =>
    rw [List.countP_cons, List.countP_cons, List.length_cons]
    cases hs : s.phase with
    | sending => simp; omega
    | waiting => simp; omega
    | finished o => simp; omega

/-- When no step is left, every send is finished. -/
theorem finished_of_left (h : p.left = 0) (hs : p.submissions[t]? = some s) : ∃ o, s.phase = .finished o := by
  have hnone : p.countAt .waiting = 0 ∧ p.countAt .sending = 0 := by
    rw [left] at h
    omega
  have hmem := List.mem_of_getElem? hs
  cases hp : s.phase with
  | finished o => exact ⟨o, rfl⟩
  | waiting => exact absurd (beq_iff_eq.mpr hp) (List.countP_eq_zero.mp hnone.1 s hmem)
  | sending => exact absurd (beq_iff_eq.mpr hp) (List.countP_eq_zero.mp hnone.2 s hmem)

/-- The first send of some kind is found if there is one. -/
theorem exists_findIdx? {l : List Submission} {kind : Submission → Bool} (h : 0 < l.countP kind) :
    ∃ i s, l.findIdx? kind = some i ∧ l[i]? = some s ∧ kind s = true := by
  obtain ⟨s, hmem, hs⟩ := List.countP_pos_iff.mp h
  have hsome : (l.findIdx? kind).isSome := by
    rw [List.findIdx?_isSome]
    exact List.any_eq_true.mpr ⟨s, hmem, hs⟩
  obtain ⟨i, hi⟩ := Option.isSome_iff_exists.mp hsome
  obtain ⟨hlt, hkind, -⟩ := List.findIdx?_eq_some_iff_getElem.mp hi
  exact ⟨i, l[i], hi, List.getElem?_eq_getElem hlt, hkind⟩

/-- As long as steps are left, a send that waits can be taken on, or one is under way. -/
theorem Balanced.exists_next (h : p.Balanced) (hleft : 0 < p.left) :
    (∃ t p', p.nextWaiting? = some t ∧ p.start? t = some p') ∨
      ∃ t send, p.nextSending? (fun _ => true) = some t ∧ p.submissions[t]? = some ⟨send, .sending⟩ := by
  by_cases hsends : 0 < p.countAt .sending
  · obtain ⟨t, ⟨send, phase⟩, ht, hs, hphase⟩ := exists_findIdx? hsends
    obtain rfl : phase = .sending := beq_iff_eq.mp hphase
    have hnext : p.nextSending? (fun _ => true) = some t := by
      simpa only [nextSending?, Bool.and_true] using ht
    exact .inr ⟨t, send, hnext, hs⟩
  · -- all workers are free, and a send waits
    have hpermits := h.permits
    have hworkers := h.workers
    rw [left] at hleft
    have hfree : 0 < p.available := by omega
    have hwaits : 0 < p.countAt .waiting := by omega
    obtain ⟨t, ⟨send, phase⟩, ht, hs, hphase⟩ := exists_findIdx? hwaits
    obtain rfl : phase = .waiting := beq_iff_eq.mp hphase
    have hstart := start?_eq hs
    rw [if_pos hfree] at hstart
    exact .inl ⟨t, _, ht, hstart⟩

end Pool

namespace Hub

variable {h h' : Hub} {network : Network} {turn : Turn} {turns : Nat → Turn} {canEnd : Send → Bool} {t : Nat}

/-- A delivery ends a send of the pool. -/
theorem pool_of_finish? (hf : h.finish? network turn t = some h') : ∃ o, h.pool.finish? t o = some h'.pool := by
  unfold finish? at hf
  obtain ⟨s, hs, hf⟩ := Option.bind_eq_some_iff.mp hf
  obtain ⟨pool, hpool, hf⟩ := Option.bind_eq_some_iff.mp hf
  obtain rfl := Option.some.inj hf
  exact ⟨_, hpool⟩

/-- A send that is under way can be ended. -/
theorem exists_finish? {send : Send} (hs : h.pool.submissions[t]? = some ⟨send, .sending⟩) (network : Network)
    (turn : Turn) : ∃ h', h.finish? network turn t = some h' := by
  unfold finish?
  simp only [hs, Option.bind_eq_bind, Option.bind_some, Pool.finish?_eq hs]
  exact ⟨_, rfl⟩

/-- A step of the pool is one of a worker that takes on a send or of a send that ends. -/
theorem of_advance? (h₁ : h.advance? network turns canEnd = some h') :
    ∃ t, h.start? t = some h' ∨ ∃ turn, h.finish? network turn t = some h' := by
  rcases Option.or_eq_some_iff.mp h₁ with hs | ⟨-, hf⟩
  · obtain ⟨t, -, hs⟩ := Option.bind_eq_some_iff.mp hs
    exact ⟨t, .inl hs⟩
  · obtain ⟨t, -, hf⟩ := Option.bind_eq_some_iff.mp hf
    exact ⟨t, .inr ⟨_, hf⟩⟩

/-- A step of the pool leaves fewer. -/
theorem left_advance? (hb : h.pool.Balanced) (h₁ : h.advance? network turns canEnd = some h') :
    h'.pool.Balanced ∧ h'.pool.left < h.pool.left := by
  obtain ⟨t, hs | ⟨turn, hf⟩⟩ := of_advance? h₁
  · obtain ⟨pool, hpool, rfl⟩ := Option.map_eq_some_iff.mp hs
    exact hb.start? hpool
  · obtain ⟨o, hpool⟩ := pool_of_finish? hf
    exact hb.finish? hpool

/-- When every send can end there is a next step as long as steps are left. -/
theorem exists_advance? (hb : h.pool.Balanced) (hleft : 0 < h.pool.left) (network : Network) (turns : Nat → Turn) :
    ∃ h', h.advance? network turns (fun _ => true) = some h' := by
  unfold advance?
  rcases hb.exists_next hleft with ⟨t, pool, ht, hpool⟩ | ⟨t, send, ht, hs⟩
  · have hstart : h.start? t = some { h with pool } := by rw [start?, hpool, Option.map_some]
    rw [ht, Option.bind_some, hstart]
    exact ⟨_, rfl⟩
  · obtain ⟨h', hf⟩ := exists_finish? hs network (turns h.handed.length)
    rw [ht, Option.bind_some, hf]
    cases h.pool.nextWaiting?.bind h.start? with
    | none => exact ⟨h', rfl⟩
    | some h'' => exact ⟨h'', rfl⟩

/-- When every send can end, so many steps as are left leave none. -/
theorem left_advances (network : Network) (turns : Nat → Turn) (k : Nat) (hb : h.pool.Balanced) (hle : h.pool.left ≤ k) :
    (advances network turns (fun _ => true) k h).pool.left = 0 := by
  induction k generalizing h with
  | zero => exact Nat.le_zero.mp hle
  | succ k ih =>
    rw [advances]
    cases h₁ : h.advance? network turns fun _ => true with
    | some h' =>
      obtain ⟨hb', hlt⟩ := left_advance? hb h₁
      exact ih hb' (Nat.le_of_lt_succ (Nat.lt_of_lt_of_le hlt hle))
    | none =>
      refine Nat.eq_zero_of_not_pos fun hleft => ?_
      obtain ⟨h', hnext⟩ := exists_advance? hb hleft network turns
      rw [h₁] at hnext
      cases hnext

/-- When every send can end, settling finishes them all. -/
theorem finished_settle (hb : h.pool.Balanced) (hall : ∀ s, canEnd s = true) {s : Submission}
    (hs : (h.settle network turns canEnd).pool.submissions[t]? = some s) : ∃ o, s.phase = .finished o := by
  obtain rfl : canEnd = fun _ => true := funext hall
  exact Pool.finished_of_left (left_advances network turns _ hb h.pool.left_le) hs

end Hub

end Herald
