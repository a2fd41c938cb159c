import Herald.Keyed
import Herald.Value.Reading

/-!
# Records, field by field

A record is read by setting its fields one after the other. An object that is read has known fields only, and sets each under its name
(`RecordReader.read_object_eq_ok_iff`); a list that is read has one item for every field, in the declared order, and is read as if it
were the object of them (`RecordReader.read_list_eq_ok_iff`). No other value is read as a record. What is said of one field after the other
holds of any reader of fields (`Reading.foldlM_filter_of_passed`, `Reading.foldlM_keeps`).
-/

namespace Herald

/-! ## Values of documents -/

namespace Value

mutual

/-- Whether a document can hold a value: it has no single characters, and the fields of its objects stand in rising order. -/
def IsDocument : Value → Prop
  | .char _ => False
  | .list items => AreItems items
  | .object fields => Keyed.Rising fields ∧ AreFields fields
  | _ => True

/-- Whether a document can hold some values. -/
def AreItems : List Value → Prop
  | [] => True
  | v :: rest => IsDocument v ∧ AreItems rest

/-- Whether a document can hold the values of some fields. -/
def AreFields : List (String × Value) → Prop
  | [] => True
  | (_, v) :: rest => IsDocument v ∧ AreFields rest

end

/-- What a document holds is spelled as it is. -/
theorem spelled_of_isDocument {v : Value} (h : v.IsDocument) : v.spelled = v := by
  cases v with
  | char c => exact h.elim
  | _ => rfl

end Value

/-- A list of texts is read as those texts. -/
theorem Value.asList_ofTexts (texts : List String) : (Value.ofTexts texts).asList Value.asText = .ok texts := by
  have hitems (position : Nat) : Value.readItems Value.asText position (texts.map .text) = .ok texts := by
    induction texts generalizing position with
    | nil => rfl
    | cons s rest ih =>
      rw [List.map_cons, Value.readItems, ih]
      rfl
  exact hitems 0

namespace Reading

/-- A reading after another succeeds if both do. -/
theorem bind_eq_ok_iff {ε α β : Type} {x : Except ε α} {f : α → Except ε β} {b : β} :
    (x >>= f) = .ok b ↔ ∃ a, x = .ok a ∧ f a = .ok b := by
  cases x with
  | error e => exact ⟨nofun, fun ⟨_, ha, _⟩ => nomatch ha⟩
  | ok a =>
    constructor
    · exact fun h => ⟨a, rfl, h⟩
    · rintro ⟨_, ha, h⟩
      exact Except.ok.inj ha ▸ h

/-- A reading of which something is made succeeds if it does. -/
theorem map_eq_ok_iff {α β : Type} {x : Reading α} {f : α → β} {b : β} : f <$> x = .ok b ↔ ∃ a, x = .ok a ∧ f a = b := by
  cases x with
  | error e => exact ⟨nofun, fun ⟨_, ha, _⟩ => nomatch ha⟩
  | ok a =>
    constructor
    · exact fun h => ⟨a, rfl, Except.ok.inj h⟩
    · rintro ⟨_, ha, rfl⟩
      exact Except.ok.inj ha ▸ rfl

/-- Where a fault lies does not decide whether there is one. -/
theorem under_eq_ok_iff {α : Type} {key : String} {x : Reading α} {a : α} : under key x = .ok a ↔ x = .ok a := by
  cases x with
  | error e => exact ⟨nofun, nofun⟩
  | ok b => exact Iff.rfl

/-! ## Fields, one after the other -/

variable {σ : Type}

/-- What follows some fields is read into what they were read as. -/
theorem foldlM_append_of_ok {read : σ → String × Value → Reading σ} {fields rest : List (String × Value)} {s s' : σ}
    (hread : fields.foldlM read s = .ok s') : (fields ++ rest).foldlM read s = rest.foldlM read s' := by
  rw [List.foldlM_append, hread]
  rfl

/-- A field that may be left out is read where it is there. -/
theorem foldlM_optional {α : Type} (read : σ → String × Value → Reading σ) (name : String) (value : α → Value)
    (state : Option α → σ) (o : Option α) (hread : ∀ a, read (state none) (name, value a) = .ok (state (some a))) :
    (o.map fun a => (name, value a)).toList.foldlM read (state none) = .ok (state o) := by
  cases o with
  | none => rfl
  | some a =>
    rw [Option.map_some, Option.toList_some, List.foldlM_cons, hread a]
    rfl

/-- Fields that are passed over may be left out. -/
theorem foldlM_filter_of_passed {read : σ → String × Value → Reading σ} {keep : String × Value → Bool}
    (hpassed : ∀ p, keep p = false → ∀ s, read s p = .ok s) (fields : List (String × Value)) (s : σ) :
    fields.foldlM read s = (fields.filter keep).foldlM read s := by
  rw [List.foldlM_filter]
  congr 1
  funext s p
  cases hp : keep p with
  | true => rfl
  | false => exact hpassed p hp s

/-- What each of some fields keeps, all of them keep. -/
theorem foldlM_keeps {read : σ → String × Value → Reading σ} {P : σ → Prop} {fields : List (String × Value)} {s s' : σ}
    (hkeeps : ∀ p ∈ fields, ∀ t t', P t → read t p = .ok t' → P t') (hs : P s) (h : fields.foldlM read s = .ok s') : P s' := by
  induction fields generalizing s with
  | nil =>
    obtain rfl := Except.ok.inj h
    exact hs
  | cons p rest ih =>
    rw [List.foldlM_cons] at h
    obtain ⟨t, hp, hrest⟩ := bind_eq_ok_iff.mp h
    exact ih (fun q hq => hkeeps q (List.mem_cons_of_mem _ hq)) (hkeeps p List.mem_cons_self s t hs hp) hrest

end Reading

/-! ## Reading records -/

namespace RecordReader

variable {σ : Type} {r : RecordReader σ} {start s : σ}

/-- Sets fields one after the other. -/
def setAll (r : RecordReader σ) (start : σ) (fields : List (String × Value)) : Reading σ :=
  fields.foldlM (fun s p => r.set s p.1 p.2) start

theorem setAll_nil_eq_ok_iff : r.setAll start [] = .ok s ↔ start = s :=
  ⟨Except.ok.inj, congrArg _⟩

theorem setAll_cons_eq_ok_iff {p : String × Value} {rest : List (String × Value)} :
    r.setAll start (p :: rest) = .ok s ↔ ∃ s', r.set start p.1 p.2 = .ok s' ∧ r.setAll s' rest = .ok s := by
  rw [setAll, List.foldlM_cons]
  exact Reading.bind_eq_ok_iff

/-- A known field is set to what it holds, and faults of it lie under its name. -/
theorem readField_of_known {name : String} (hname : r.fields.contains name = true) (s : σ) (v : Value) :
    r.readField s (name, v) = Reading.under name (r.set s name v.spelled) := by
  rw [readField, if_pos hname]

/-- A field of an object is read if it is known and can be set. -/
theorem readField_eq_ok_iff (hclosed : r.isOpen = false) {field : String × Value} (hdoc : field.2.IsDocument) :
    r.readField start field = .ok s ↔ field.1 ∈ r.fields ∧ r.set start field.1 field.2 = .ok s := by
  rw [readField, Value.spelled_of_isDocument hdoc, hclosed]
  by_cases hknown : field.1 ∈ r.fields
  · rw [if_pos (List.contains_iff_mem.mpr hknown), Reading.under_eq_ok_iff]
    exact ⟨fun h => ⟨hknown, h⟩, fun h => h.2⟩
  · rw [if_neg fun h => hknown (List.contains_iff_mem.mp h), if_neg Bool.false_ne_true]
    exact ⟨nofun, fun h => absurd h.1 hknown⟩

/-- An object is read if all its fields are known and can be set. -/
theorem read_object_eq_ok_iff (hclosed : r.isOpen = false) {fields : List (String × Value)} (hdoc : Value.AreFields fields)
    {source : Source} :
    r.read source start (.object fields) = .ok s ↔ (∀ p ∈ fields, p.1 ∈ r.fields) ∧ r.setAll start fields = .ok s := by
  rw [read]
  induction fields generalizing start with
  | nil =>
    rw [setAll_nil_eq_ok_iff]
    exact ⟨fun h => ⟨fun _ hp => absurd hp List.not_mem_nil, Except.ok.inj h⟩, fun h => congrArg _ h.2⟩
  | cons p rest ih =>
    rw [List.foldlM_cons, Reading.bind_eq_ok_iff, setAll_cons_eq_ok_iff, List.forall_mem_cons]
    constructor
    · rintro ⟨s', hp, hrest⟩
      obtain ⟨hknown, hset⟩ := (readField_eq_ok_iff hclosed hdoc.1).mp hp
      obtain ⟨hall, hsets⟩ := (ih hdoc.2).mp hrest
      exact ⟨⟨hknown, hall⟩, s', hset, hsets⟩
    · rintro ⟨⟨hknown, hall⟩, s', hset, hsets⟩
      exact ⟨s', (readField_eq_ok_iff hclosed hdoc.1).mpr ⟨hknown, hset⟩, (ih hdoc.2).mpr ⟨hall, hsets⟩⟩

/-- The items of a list are read if there is one for each field and they can be set. -/
theorem readPositions_eq_ok_iff (hwhole : r.optional = []) {names : List String} {items : List Value}
    (hdoc : Value.AreItems items) {position : Nat} :
    r.readPositions start position names items = .ok s ↔
      names.length ≤ items.length ∧ r.setAll start (names.zip items) = .ok s := by
  induction names generalizing start position items with
  | nil =>
    rw [readPositions, List.zip_nil_left, setAll_nil_eq_ok_iff]
    exact ⟨fun h => ⟨Nat.zero_le _, Except.ok.inj h⟩, fun h => congrArg _ h.2⟩
  | cons name names ih =>
    cases items with
    | nil =>
      rw [readPositions, hwhole, if_neg (by simp)]
      exact ⟨nofun, fun h => absurd h.1 (Nat.not_succ_le_zero _)⟩
    | cons item rest =>
      rw [readPositions, Value.spelled_of_isDocument hdoc.1, Reading.bind_eq_ok_iff, List.zip_cons_cons, setAll_cons_eq_ok_iff,
        List.length_cons, List.length_cons, Nat.succ_le_succ_iff]
      constructor
      · rintro ⟨s', hitem, hrest⟩
        obtain ⟨hle, hsets⟩ := (ih hdoc.2).mp hrest
        exact ⟨hle, s', Reading.under_eq_ok_iff.mp hitem, hsets⟩
      · rintro ⟨hle, s', hset, hsets⟩
        exact ⟨s', Reading.under_eq_ok_iff.mpr hset, (ih hdoc.2).mpr ⟨hle, hsets⟩⟩

/-- A list of a document is read if it has an item for each field, no more, and they can be set. -/
theorem read_list_eq_ok_iff (hwhole : r.optional = []) {items : List Value} (hdoc : Value.AreItems items) :
    r.read .document start (.list items) = .ok s ↔
      items.length = r.fields.length ∧ r.setAll start (r.fields.zip items) = .ok s := by
  rw [read, Reading.bind_eq_ok_iff]
  constructor
  · rintro ⟨s', hread, hrest⟩
    obtain ⟨hle, hsets⟩ := (readPositions_eq_ok_iff hwhole hdoc).mp hread
    split at hrest
    · cases hrest
    · next hlong =>
      have hge : items.length ≤ r.fields.length := by simpa using hlong
      obtain rfl := Except.ok.inj hrest
      exact ⟨Nat.le_antisymm hge hle, hsets⟩
  · rintro ⟨hlength, hsets⟩
    refine ⟨s, (readPositions_eq_ok_iff hwhole hdoc).mpr ⟨Nat.le_of_eq hlength.symm, hsets⟩, ?_⟩
    rw [if_neg fun h => Nat.lt_irrefl _ (hlength ▸ h.2)]
    rfl

end RecordReader

end Herald
