import Herald.Proofs.JsonDocument
import Herald.Proofs.JsonText

/-!
# Values and their texts

The indented text of a value stands for that value (`Value.ofJson?_indented`), if its numbers are whole and without a sign, its objects are
in order, and it nests no deeper than what is read.
-/

namespace Herald

namespace Value

mutual

/-- How many lists and objects of a value are nested in one another. -/
def depth : Value → Nat
  | .list items => depthOfItems items + 1
  | .object fields => depthOfFields fields + 1
  | _ => 0

/-- The depth of the deepest of some values. -/
def depthOfItems : List Value → Nat
  | [] => 0
  | v :: rest => max v.depth (depthOfItems rest)

/-- The depth of the deepest value of some fields. -/
def depthOfFields : List (String × Value) → Nat
  | [] => 0
  | (_, v) :: rest => max v.depth (depthOfFields rest)

end

/-- Whether a value stands in its text as it is, with so many levels at most. -/
structure Legible (levels : Nat) (v : Value) : Prop where
  plain : Json.Plain v
  document : v.IsDocument
  shallow : v.depth ≤ levels

theorem legible_null {levels : Nat} : Legible levels .null :=
  ⟨trivial, trivial, Nat.zero_le _⟩

theorem legible_text {levels : Nat} (s : String) : Legible levels (.text s) :=
  ⟨trivial, trivial, Nat.zero_le _⟩

theorem legible_unsigned {levels n : Nat} (hn : n ≤ Json.maxWord) : Legible levels (.unsigned n) :=
  ⟨hn, trivial, Nat.zero_le _⟩

/-- A list is legible if its items are, one level deeper. -/
theorem legible_list {levels : Nat} {items : List Value} (h : ∀ v ∈ items, Legible levels v) : Legible (levels + 1) (.list items) := by
  have key : Json.PlainItems items ∧ AreItems items ∧ depthOfItems items ≤ levels := by
    induction items with
    | nil => exact ⟨trivial, trivial, Nat.zero_le _⟩
    | cons v rest ih =>
      obtain ⟨hv, hrest⟩ := List.forall_mem_cons.mp h
      obtain ⟨hp, hd, hs⟩ := ih hrest
      exact ⟨⟨hv.plain, hp⟩, ⟨hv.document, hd⟩, Nat.max_le.mpr ⟨hv.shallow, hs⟩⟩
  exact ⟨key.1, key.2.1, Nat.succ_le_succ key.2.2⟩

/-- A list of texts is legible. -/
theorem legible_ofTexts {levels : Nat} (texts : List String) : Legible (levels + 1) (.ofTexts texts) := by
  refine legible_list ?_
  intro v hv
  obtain ⟨s, -, rfl⟩ := List.mem_map.mp hv
  exact legible_text s

/-- An object whose fields are put into order is legible if they are, one level deeper. -/
theorem legible_ofFields {levels : Nat} {fields : List (String × Value)} (h : ∀ p ∈ fields, Legible levels p.2) :
    Legible (levels + 1) (ofFields fields) := by
  have key (m : List (String × Value)) (hm : ∀ p ∈ m, Legible levels p.2) : Json.PlainFields m ∧ depthOfFields m ≤ levels := by
    induction m with
    | nil => exact ⟨trivial, Nat.zero_le _⟩
    | cons p rest ih =>
      obtain ⟨hv, hrest⟩ := List.forall_mem_cons.mp hm
      obtain ⟨hp, hs⟩ := ih hrest
      exact ⟨⟨hv.plain, hp⟩, Nat.max_le.mpr ⟨hv.shallow, hs⟩⟩
  obtain ⟨hplain, hshallow⟩ := key (Keyed.ofList fields) fun p hp => h p (Keyed.mem_of_mem_ofList hp)
  exact ⟨hplain, isDocument_ofFields fun p hp => (h p hp).document, Nat.succ_le_succ hshallow⟩

end Value

namespace Json

mutual

/-- The draft of a value has that value, unless it is too deep. -/
theorem toValue?_draftOf (v : Value) (hv : v.IsDocument) (depth : Nat) (hd : v.depth ≤ depth) : (draftOf v).toValue? depth = some v := by
  match v, depth with
  | .list items, depth + 1 =>
    have hitems := toItems?_draftsOf items hv depth (Nat.le_of_succ_le_succ hd)
    simp only [draftOf, Draft.toValue?, hitems, Option.map_some]
  | .object fields, depth + 1 =>
    have hfields := toFields?_fieldDraftsOf fields hv.2 depth (Nat.le_of_succ_le_succ hd)
    simp only [draftOf, Draft.toValue?, hfields, Option.map_some, Value.ofFields, Keyed.ofList_of_rising hv.1]
  | .list _, 0 | .object _, 0 => exact absurd hd (Nat.not_succ_le_zero _)
  | .null, _ | .bool _, _ | .unsigned _, _ | .signed _, _ | .float _, _ | .char _, _ | .text _, _ => rfl

/-- The drafts of some values have those values. -/
theorem toItems?_draftsOf (items : List Value) (hv : Value.AreItems items) (depth : Nat) (hd : Value.depthOfItems items ≤ depth) :
    toItems? depth (draftsOf items) = some items := by
  match items with
  | [] => rfl
  | v :: rest =>
    obtain ⟨hfirst, hrest⟩ := Nat.max_le.mp hd
    have hvalue := toValue?_draftOf v hv.1 depth hfirst
    have hmore := toItems?_draftsOf rest hv.2 depth hrest
    simp [draftsOf, toItems?, hvalue, hmore]

/-- The drafts of some fields have those fields. -/
theorem toFields?_fieldDraftsOf (fields : List (String × Value)) (hv : Value.AreFields fields) (depth : Nat)
    (hd : Value.depthOfFields fields ≤ depth) : toFields? depth (fieldDraftsOf fields) = some fields := by
  match fields with
  | [] => rfl
  | (k, v) :: rest =>
    obtain ⟨hfirst, hrest⟩ := Nat.max_le.mp hd
    have hvalue := toValue?_draftOf v hv.1 depth hfirst
    have hmore := toFields?_fieldDraftsOf rest hv.2 depth hrest
    simp [fieldDraftsOf, toFields?, hvalue, hmore]

end

end Json

/-- The text of a legible value stands for it. -/
theorem Value.ofJson?_indented {v : Value} (h : v.Legible Json.maxDepth) : ofJson? v.indented = some v := by
  unfold ofJson?
  rw [Json.ofText?_indented h.plain]
  exact Json.toValue?_draftOf v h.document _ h.shallow

end Herald
