import Herald.Event.Bus
import Mathlib.Data.List.Basic

/-!
# What a subscriber gets

A subscriber gets what was published, or is told of a loss, until it stands at the end, and it never stands behind the end. Everything
that waits for it is what it gets receipt by receipt (`Bus.receiveAll_of_receive`).
-/

namespace Herald.Bus

variable {b : Bus} {position next : Nat}

/-- An event that is handed over was published. -/
theorem mem_published_of_receive {e : Event} (h : b.receive position = some (.event e, next)) : e ∈ b.published := by
  unfold receive at h
  split at h
  · exact absurd h nofun
  · obtain ⟨e', he', hpair⟩ := Option.map_eq_some_iff.mp h
    obtain rfl := Receipt.event.inj (Prod.mk.inj hpair).1
    exact List.mem_of_getElem? he'

/-- A receipt leaves the subscriber at the end or before it. -/
theorem next_le_of_receive {r : Receipt} (h : b.receive position = some (r, next)) : next ≤ b.size := by
  unfold receive at h
  split at h
  · obtain ⟨_, rfl⟩ := Prod.mk.inj (Option.some.inj h)
    exact Nat.sub_le _ _
  · obtain ⟨e, he, hpair⟩ := Option.map_eq_some_iff.mp h
    obtain ⟨_, rfl⟩ := Prod.mk.inj hpair
    exact (List.getElem?_eq_some_iff.mp he).1

/-- There is nothing to get at the end only. -/
theorem size_le_of_receive_none (h : b.receive position = none) : b.size ≤ position := by
  unfold receive at h
  split at h
  · exact absurd h nofun
  · exact List.getElem?_eq_none_iff.mp (Option.map_eq_none_iff.mp h)

/-- At the end there is nothing to get. -/
theorem receive_size (b : Bus) : b.receive b.size = none := by
  have hlag : ¬b.size < b.oldest := Nat.not_lt.mpr (Nat.sub_le _ _)
  rw [receive, if_neg hlag, size, List.getElem?_length]
  rfl

/-- When there is nothing to get, nothing is got. -/
theorem receiveAll_of_receive_none (h : b.receive position = none) : b.receiveAll position = ([], b.size) := by
  have hsize := size_le_of_receive_none h
  have hlag : ¬position < b.oldest := Nat.not_lt.mpr (Nat.le_trans (Nat.sub_le _ _) hsize)
  have hend : b.published.length ≤ max position b.oldest := Nat.le_trans hsize (Nat.le_max_left _ _)
  simp only [receiveAll, if_neg hlag, List.drop_eq_nil_of_le hend, List.map_nil, List.append_nil]

/-- Otherwise all that is got is the next receipt and what is got after it. -/
theorem receiveAll_of_receive {r : Receipt} (h : b.receive position = some (r, next)) :
    b.receiveAll position = (r :: (b.receiveAll next).1, b.size) := by
  unfold receive at h
  split at h
  · next hlag =>
    obtain ⟨rfl, rfl⟩ := Prod.mk.inj (Option.some.inj h)
    simp only [receiveAll, if_pos hlag, if_neg (Nat.lt_irrefl _), Nat.max_eq_right (Nat.le_of_lt hlag), Nat.max_self,
      List.nil_append, List.singleton_append]
  · next hlag =>
    obtain ⟨e, he, hpair⟩ := Option.map_eq_some_iff.mp h
    obtain ⟨rfl, rfl⟩ := Prod.mk.inj hpair
    obtain ⟨hp, rfl⟩ := List.getElem?_eq_some_iff.mp he
    have hnext : ¬position + 1 < b.oldest := by omega
    have hmax : max position b.oldest = position := by omega
    have hmax' : max (position + 1) b.oldest = position + 1 := by omega
    simp only [receiveAll, if_neg hlag, if_neg hnext, hmax, hmax', List.nil_append, List.drop_eq_getElem_cons hp, List.map_cons]

end Herald.Bus
