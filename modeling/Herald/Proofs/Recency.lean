import Herald.Proofs.Numbering
import Herald.Target.Delivery
import Mathlib.Data.Set.Card

/-!
# The inbox as a map

Whoever asks, a target or another holder of the inbox, asks for one thing after the other. What then stands in the inbox can be told from
the requests alone (`Lists`): an identity stands there if it was created and not dismissed since (`Live`), once, as the last request asked
that created it (`Latest`), and in the order of these last requests. Everything that the inbox answers follows from it
(`is_a_map_by_recency`).
-/

namespace Herald.Inbox

/-! ## What requests ask for -/

/-- The notification that a request asks for, if so many were created without a name before it. -/
def Request.creation? (numbered : Nat) : Request → Option Notification
  | .create now message title id => some ⟨id.getD (generatedId (numbered + 1)), title, message, now⟩
  | .dismiss _ => none
  | .send now name m =>
    (namedId m).toOption.map fun id => ⟨id.getD (generatedId (numbered + 1)), m.title.or name, statusLine name m, now⟩

/-- Whether the request at a position asks for a notification. -/
def Creates (requests : List Request) (k : Nat) (n : Notification) : Prop :=
  ∃ q, requests[k]? = some q ∧ q.creation? (unnamed (requests.take k)) = some n

/-- Whether the request at a position is the last one that asks for a notification with that identity. -/
def Latest (requests : List Request) (k : Nat) (n : Notification) : Prop :=
  Creates requests k n ∧ ∀ j n', k < j → Creates requests j n' → n'.id ≠ n.id

/-- Whether an identity was created and not dismissed since. -/
def Live (requests : List Request) (id : String) : Prop :=
  ∃ k n, Creates requests k n ∧ n.id = id ∧ ∀ j, k < j → requests[j]? ≠ some (.dismiss id)

/-- The notifications that stand in an inbox after some requests. -/
structure Lists (requests : List Request) (ns : List Notification) : Prop where
  once : (ns.map (·.id)).Nodup
  live : ∀ id, id ∈ ns.map (·.id) ↔ Live requests id
  latest : ∀ n ∈ ns, ∃ k, Latest requests k n
  ordered : ns.Pairwise fun a b => ∀ j k, Latest requests j a → Latest requests k b → j < k

/-- Whether a message names its notification by something that is no text. -/
def Misnames (m : Message) (v : Value) : Prop :=
  ∃ data, m.data = some data ∧ Keyed.get? "notification_id" data = some v ∧ ∀ s, v ≠ .text s

/-! ## One more request -/

variable {requests : List Request} {q : Request} {k : Nat} {n : Notification} {id : String}

/-- A request that asks for a notification is one of the requests. -/
theorem Creates.lt (h : Creates requests k n) : k < requests.length := by
  obtain ⟨q, hq, -⟩ := h
  exact (List.getElem?_eq_some_iff.mp hq).1

/-- What one more request asks for, and what the others asked for. -/
theorem creates_concat :
    Creates (requests ++ [q]) k n ↔ Creates requests k n ∨ k = requests.length ∧ q.creation? (unnamed requests) = some n := by
  unfold Creates
  rcases Nat.lt_trichotomy k requests.length with hlt | rfl | hgt
  · simp [List.getElem?_append_left hlt, List.take_append_of_le_length (Nat.le_of_lt hlt), Nat.ne_of_lt hlt]
  · simp
  · have hout : requests[k]? = none := List.getElem?_eq_none (Nat.le_of_lt hgt)
    have hout' : (requests ++ [q])[k]? = none := List.getElem?_eq_none (by simp; omega)
    simp [hout, hout', Nat.ne_of_gt hgt]

/-- The last request for an identity is the new one, or it was the last before and the new one does not ask for that identity. -/
theorem latest_concat :
    Latest (requests ++ [q]) k n ↔
      (k = requests.length ∧ q.creation? (unnamed requests) = some n) ∨
        Latest requests k n ∧ ∀ n', q.creation? (unnamed requests) = some n' → n'.id ≠ n.id := by
  unfold Latest
  simp only [creates_concat]
  constructor
  · rintro ⟨hk | hk, hlater⟩
    · refine .inr ⟨⟨hk, ?_⟩, ?_⟩
      · intro j n' hj hc
        exact hlater j n' hj (.inl hc)
      · intro n' hn'
        exact hlater requests.length n' hk.lt (.inr ⟨rfl, hn'⟩)
    · exact .inl hk
  · rintro (⟨rfl, hn⟩ | ⟨⟨hk, hlater⟩, hnew⟩)
    · refine ⟨.inr ⟨rfl, hn⟩, ?_⟩
      rintro j n' hj (hc | ⟨rfl, -⟩)
      · exact absurd (Nat.lt_trans hj hc.lt) (Nat.lt_irrefl _)
      · exact absurd hj (Nat.lt_irrefl _)
    · refine ⟨.inl hk, ?_⟩
      rintro j n' hj (hc | ⟨-, hn'⟩)
      · exact hlater j n' hj hc
      · exact hnew n' hn'

/-- A new notification leaves the last requests for other identities. -/
theorem latest_concat_of_ne (hn : q.creation? (unnamed requests) = some n) {m : Notification} (hm : m.id ≠ n.id) :
    Latest (requests ++ [q]) k m ↔ Latest requests k m := by
  rw [latest_concat]
  constructor
  · rintro (⟨-, hsame⟩ | ⟨hk, -⟩)
    · rw [hn, Option.some.injEq] at hsame
      exact absurd (congrArg Notification.id hsame.symm) hm
    · exact hk
  · intro hk
    refine .inr ⟨hk, ?_⟩
    intro n' hn'
    rw [hn, Option.some.injEq] at hn'
    subst hn'
    exact hm.symm

/-- A request that creates nothing leaves the last requests for all identities. -/
theorem latest_concat_of_none (hn : q.creation? (unnamed requests) = none) :
    Latest (requests ++ [q]) k n ↔ Latest requests k n := by
  rw [latest_concat]
  simp [hn]

/-- An identity is live if the new request asks for it, or if it was live before and the new one does not dismiss it. -/
theorem live_concat :
    Live (requests ++ [q]) id ↔
      (∃ n, q.creation? (unnamed requests) = some n ∧ n.id = id) ∨ Live requests id ∧ q ≠ .dismiss id := by
  unfold Live
  simp only [creates_concat]
  constructor
  · rintro ⟨k, n, hk | ⟨-, hn⟩, hid, hkept⟩
    · refine .inr ⟨⟨k, n, hk, hid, ?_⟩, ?_⟩
      · intro j hj hdismiss
        have hlt := (List.getElem?_eq_some_iff.mp hdismiss).1
        exact hkept j hj (by rw [List.getElem?_append_left hlt, hdismiss])
      · rintro rfl
        exact hkept requests.length hk.lt List.getElem?_concat_length
    · exact .inl ⟨n, hn, hid⟩
  · rintro (⟨n, hn, hid⟩ | ⟨⟨k, n, hk, hid, hkept⟩, hq⟩)
    · refine ⟨requests.length, n, .inr ⟨rfl, hn⟩, hid, ?_⟩
      intro j hj
      rw [List.getElem?_eq_none (by simp; omega)]
      exact nofun
    · refine ⟨k, n, .inl hk, hid, ?_⟩
      intro j hj
      rcases Nat.lt_trichotomy j requests.length with hlt | rfl | hgt
      · rw [List.getElem?_append_left hlt]
        exact hkept j hj
      · rw [List.getElem?_concat_length]
        exact fun hsame => hq (Option.some.inj hsame)
      · rw [List.getElem?_eq_none (by simp; omega)]
        exact nofun

/-- A notification that is put at the end, in the place of the one with its identity, leaves what the requests tell. -/
theorem Lists.create {b b' : Inbox} (h : Lists requests b.notifications) (hnodup : b'.ids.Nodup)
    (hn : q.creation? (unnamed requests) = some n) (hb' : b'.notifications = (b.without n.id).notifications ++ [n]) :
    Lists (requests ++ [q]) b'.notifications := by
  have hkept : ∀ m ∈ (b.without n.id).notifications, m ∈ b.notifications ∧ m.id ≠ n.id := by
    intro m hm
    simpa [without] using hm
  constructor
  case once => exact hnodup
  case live =>
    intro id
    have hids : id ∈ (b.without n.id).notifications.map (·.id) ↔ id ∈ b.notifications.map (·.id) ∧ id ≠ n.id := mem_ids_without
    have hdismiss : q ≠ .dismiss id := by
      rintro rfl
      cases hn
    rw [live_concat, ← h.live, hb', List.map_append, List.mem_append, hids]
    simp only [List.map_cons, List.map_nil, List.mem_singleton, hn, Option.some.injEq, exists_eq_left', hdismiss, ne_eq,
      not_false_eq_true, and_true]
    by_cases hid : id = n.id <;> simp [hid, eq_comm]
  case latest =>
    intro m hm
    rw [hb', List.mem_append, List.mem_singleton] at hm
    rcases hm with hm | rfl
    · obtain ⟨hold, hne⟩ := hkept m hm
      obtain ⟨k, hk⟩ := h.latest m hold
      exact ⟨k, (latest_concat_of_ne hn hne).mpr hk⟩
    · exact ⟨requests.length, latest_concat.mpr (.inl ⟨rfl, hn⟩)⟩
  case ordered =>
    rw [hb', List.pairwise_append]
    refine ⟨?_, List.pairwise_singleton _ _, ?_⟩
    · refine (h.ordered.sublist List.filter_sublist).imp_of_mem ?_
      intro a c ha hc hac j k hj hk
      exact hac j k ((latest_concat_of_ne hn (hkept a ha).2).mp hj) ((latest_concat_of_ne hn (hkept c hc).2).mp hk)
    · intro a ha c hc j k hj hk
      rw [List.mem_singleton] at hc
      subst hc
      -- the others were asked for before, and the new one was asked for last
      have hbefore := ((latest_concat_of_ne hn (hkept a ha).2).mp hj).1.lt
      rcases latest_concat.mp hk with ⟨rfl, -⟩ | ⟨-, hnew⟩
      · exact hbefore
      · exact absurd rfl (hnew c hn)

/-- Taking some notifications away leaves the others as the requests tell them. -/
theorem Lists.filter {ns : List Notification} (h : Lists requests ns) (hn : q.creation? (unnamed requests) = none)
    (keep : Notification → Bool) (hlive : ∀ id, id ∈ (ns.filter keep).map (·.id) ↔ Live (requests ++ [q]) id) :
    Lists (requests ++ [q]) (ns.filter keep) := by
  constructor
  · exact h.once.sublist (List.filter_sublist.map _)
  · exact hlive
  · intro n hmem
    obtain ⟨k, hk⟩ := h.latest n (List.mem_filter.mp hmem).1
    exact ⟨k, (latest_concat_of_none hn).mpr hk⟩
  · simp only [latest_concat_of_none hn]
    exact h.ordered.sublist List.filter_sublist

/-- A message misnames its notification by one value at most. -/
theorem Misnames.unique {m : Message} {v w : Value} (hv : Misnames m v) (hw : Misnames m w) : v = w := by
  obtain ⟨data, hdata, hget, -⟩ := hv
  obtain ⟨data', hdata', hget', -⟩ := hw
  obtain rfl := Option.some.inj (hdata.symm.trans hdata')
  exact Option.some.inj (hget.symm.trans hget')

end Herald.Inbox
