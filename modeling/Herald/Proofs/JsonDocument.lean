import Herald.Json.Reader
import Herald.Proofs.KeyedOrder
import Herald.Proofs.RecordReading

/-!
# What is read of a text is a document

The reader makes no value of a text that a document could not hold: its scalars are literals, numbers of a word and texts, and the fields
of its objects are put into order (`Value.isDocument_of_ofJson?`). So what is proved of the values of documents holds of everything that
comes from a text, and a whole number that is read of a field is one of a word (`Value.asNat_le_of_ofJson?`).
-/

namespace Herald

namespace Value

theorem areItems_iff {items : List Value} : AreItems items ↔ ∀ v ∈ items, v.IsDocument := by
  induction items with
  | nil => simp [AreItems]
  | cons v rest ih => rw [AreItems, ih, List.forall_mem_cons]

theorem areFields_iff {fields : List (String × Value)} : AreFields fields ↔ ∀ p ∈ fields, p.2.IsDocument := by
  induction fields with
  | nil => simp [AreFields]
  | cons p rest ih => rw [AreFields, ih, List.forall_mem_cons]

/-- An object whose fields are put into order is one of a document if they hold values of documents. -/
theorem isDocument_ofFields {fields : List (String × Value)} (h : ∀ p ∈ fields, p.2.IsDocument) : (ofFields fields).IsDocument :=
  ⟨Keyed.rising_ofList fields, areFields_iff.mpr fun p hp => h p (Keyed.mem_of_mem_ofList hp)⟩

/-- A list of texts is one of a document. -/
theorem isDocument_ofTexts (texts : List String) : (ofTexts texts).IsDocument := by
  refine areItems_iff.mpr fun v hv => ?_
  obtain ⟨s, -, rfl⟩ := List.mem_map.mp hv
  trivial

/-- Whether a value can stand in a text as a literal, a number or a text. A whole number without a sign is one of a word. -/
def IsScalar : Value → Prop
  | .char _ => False
  | .list _ => False
  | .object _ => False
  | .unsigned n => n ≤ Json.maxWord
  | .signed n => n < 0
  | _ => True

theorem IsScalar.isDocument {v : Value} (h : v.IsScalar) : v.IsDocument := by
  cases v <;> trivial

end Value

namespace Json

/-! ## Drafts -/

mutual

/-- Whether the scalars of a draft have values that can stand in a text, as far as they have a value. -/
def Draft.IsDocument : Draft → Prop
  | .scalar value => ∀ v, value = some v → v.IsScalar
  | .list items => AreItems items
  | .object fields => AreFields fields

/-- Whether the scalars of some drafts have such values. -/
def AreItems : List Draft → Prop
  | [] => True
  | d :: rest => d.IsDocument ∧ AreItems rest

/-- Whether the scalars of some named drafts have such values. -/
def AreFields : List (Option String × Draft) → Prop
  | [] => True
  | (_, d) :: rest => d.IsDocument ∧ AreFields rest

end

/-- A number has a sign only where it is below zero, and is one of a word where it has none. -/
theorem isScalar_of_value? {t : NumberText} {v : Value} (h : t.value? = some v) : v.IsScalar := by
  rw [NumberText.value?] at h
  split at h
  · next hwhole =>
    split at h
    · obtain rfl := Option.some.inj h
      simp only [Bool.and_eq_true, decide_eq_true_eq] at hwhole
      exact hwhole.2
    · split at h
      · obtain rfl := Option.some.inj h
        trivial
      · next hzero =>
        obtain rfl := Option.some.inj h
        have hpositive : Text.natOfDigits t.whole ≠ 0 := fun heq => hzero (.inl heq)
        show -(Text.natOfDigits t.whole : Int) < 0
        omega
  · obtain ⟨x, -, rfl⟩ := Option.map_eq_some_iff.mp h
    trivial

/-- A scalar is a literal, a text or a number. -/
theorem isDocument_of_readScalar {cs rest : List Char} {d : Draft} (h : readScalar cs = some (d, rest)) : d.IsDocument := by
  rw [readScalar.eq_def] at h
  split at h
  · obtain ⟨rfl, -⟩ := Prod.mk.inj (Option.some.inj h)
    rintro v ⟨⟩
    trivial
  · obtain ⟨rfl, -⟩ := Prod.mk.inj (Option.some.inj h)
    rintro v ⟨⟩
    trivial
  · obtain ⟨rfl, -⟩ := Prod.mk.inj (Option.some.inj h)
    rintro v ⟨⟩
    trivial
  · obtain ⟨p, -, hp⟩ := Option.map_eq_some_iff.mp h
    obtain ⟨rfl, -⟩ := Prod.mk.inj hp
    intro v hv
    obtain ⟨s, -, rfl⟩ := Option.map_eq_some_iff.mp hv
    trivial
  · obtain ⟨p, -, hp⟩ := Option.map_eq_some_iff.mp h
    obtain ⟨rfl, -⟩ := Prod.mk.inj hp
    exact fun v hv => isScalar_of_value? hv

/-- Every part of what is read is such a draft. The reader of a level calls those of the level below, so the three go together. -/
theorem isDocument_of_read (fuel : Nat) :
    (∀ cs d rest, readDraft fuel cs = some (d, rest) → d.IsDocument) ∧
      (∀ cs items rest, readItems fuel cs = some (items, rest) → AreItems items) ∧
      (∀ cs fields rest, readFields fuel cs = some (fields, rest) → AreFields fields) := by
  induction fuel with
  | zero => exact ⟨nofun, nofun, nofun⟩
  | succ fuel ih =>
    obtain ⟨hdraft, hitems, hfields⟩ := ih
    refine ⟨fun cs d rest h => ?_, fun cs items rest h => ?_, fun cs fields rest h => ?_⟩
    · rw [readDraft] at h
      split at h
      · split at h
        · obtain ⟨rfl, -⟩ := Prod.mk.inj (Option.some.inj h)
          trivial
        · obtain ⟨p, hp, heq⟩ := Option.map_eq_some_iff.mp h
          obtain ⟨rfl, -⟩ := Prod.mk.inj heq
          exact hitems _ _ _ hp
      · split at h
        · obtain ⟨rfl, -⟩ := Prod.mk.inj (Option.some.inj h)
          trivial
        · obtain ⟨p, hp, heq⟩ := Option.map_eq_some_iff.mp h
          obtain ⟨rfl, -⟩ := Prod.mk.inj heq
          exact hfields _ _ _ hp
      · exact isDocument_of_readScalar h
    · rw [readItems] at h
      obtain ⟨⟨item, behind⟩, hitem, h⟩ := Option.bind_eq_some_iff.mp h
      have hfirst := hdraft _ _ _ hitem
      dsimp only at h
      split at h
      · obtain ⟨rfl, -⟩ := Prod.mk.inj (Option.some.inj h)
        exact ⟨hfirst, trivial⟩
      · obtain ⟨⟨more, behind⟩, hmore, h⟩ := Option.bind_eq_some_iff.mp h
        obtain ⟨rfl, -⟩ := Prod.mk.inj (Option.some.inj h)
        exact ⟨hfirst, hitems _ _ _ hmore⟩
      · cases h
    · rw [readFields] at h
      split at h
      · obtain ⟨⟨key, behind⟩, -, h⟩ := Option.bind_eq_some_iff.mp h
        dsimp only at h
        split at h
        · obtain ⟨⟨value, behind⟩, hvalue, h⟩ := Option.bind_eq_some_iff.mp h
          have hfirst := hdraft _ _ _ hvalue
          dsimp only at h
          split at h
          · obtain ⟨rfl, -⟩ := Prod.mk.inj (Option.some.inj h)
            exact ⟨hfirst, trivial⟩
          · obtain ⟨⟨more, behind⟩, hmore, h⟩ := Option.bind_eq_some_iff.mp h
            obtain ⟨rfl, -⟩ := Prod.mk.inj (Option.some.inj h)
            exact ⟨hfirst, hfields _ _ _ hmore⟩
          · cases h
        · cases h
      · cases h

/-- What is read of a whole text is such a draft. -/
theorem isDocument_of_ofText? {text : String} {d : Draft} (h : Draft.ofText? text = some d) : d.IsDocument := by
  rw [Draft.ofText?] at h
  split at h
  · next draft rest hread =>
    split at h
    · obtain rfl := Option.some.inj h
      exact (isDocument_of_read _).1 _ _ _ hread
    · cases h
  · cases h

/-! ## Their values -/

mutual

/-- The value of such a draft is one of a document. -/
theorem isDocument_of_toValue? (d : Draft) (hd : d.IsDocument) (depth : Nat) (v : Value) (h : d.toValue? depth = some v) :
    v.IsDocument := by
  match d, depth with
  | .scalar value, _ => exact (hd v h).isDocument
  | .list items, 0 => cases h
  | .list items, depth + 1 =>
    obtain ⟨vs, hvs, rfl⟩ := Option.map_eq_some_iff.mp h
    exact Value.areItems_iff.mpr (isDocument_of_toItems? items hd depth vs hvs)
  | .object fields, 0 => cases h
  | .object fields, depth + 1 =>
    obtain ⟨ps, hps, rfl⟩ := Option.map_eq_some_iff.mp h
    exact Value.isDocument_ofFields (isDocument_of_toFields? fields hd depth ps hps)

/-- The values of such drafts are values of a document. -/
theorem isDocument_of_toItems? (items : List Draft) (hd : AreItems items) (depth : Nat) (vs : List Value)
    (h : toItems? depth items = some vs) : ∀ v ∈ vs, v.IsDocument := by
  match items with
  | [] =>
    obtain rfl := Option.some.inj h
    exact fun v hv => absurd hv List.not_mem_nil
  | item :: rest =>
    obtain ⟨v, hv, h⟩ := Option.bind_eq_some_iff.mp h
    obtain ⟨more, hmore, h⟩ := Option.bind_eq_some_iff.mp h
    obtain rfl := Option.some.inj h
    exact List.forall_mem_cons.mpr
      ⟨isDocument_of_toValue? item hd.1 depth v hv, isDocument_of_toItems? rest hd.2 depth more hmore⟩

/-- The values of such fields are values of a document. -/
theorem isDocument_of_toFields? (fields : List (Option String × Draft)) (hd : AreFields fields) (depth : Nat)
    (ps : List (String × Value)) (h : toFields? depth fields = some ps) : ∀ p ∈ ps, p.2.IsDocument := by
  match fields with
  | [] =>
    obtain rfl := Option.some.inj h
    exact fun p hp => absurd hp List.not_mem_nil
  | (key, value) :: rest =>
    obtain ⟨k, -, h⟩ := Option.bind_eq_some_iff.mp h
    obtain ⟨v, hv, h⟩ := Option.bind_eq_some_iff.mp h
    obtain ⟨more, hmore, h⟩ := Option.bind_eq_some_iff.mp h
    obtain rfl := Option.some.inj h
    exact List.forall_mem_cons.mpr
      ⟨isDocument_of_toValue? value hd.1 depth v hv, isDocument_of_toFields? rest hd.2 depth more hmore⟩

end

/-- Each of the named values is that of one of the drafts. -/
theorem exists_draft_of_mem {fields : List (Option String × Draft)} (hd : AreFields fields) {depth : Nat}
    {ps : List (String × Value)} (h : toFields? depth fields = some ps) {p : String × Value} (hp : p ∈ ps) :
    ∃ d : Draft, d.IsDocument ∧ d.toValue? depth = some p.2 := by
  induction fields generalizing ps with
  | nil =>
    obtain rfl := Option.some.inj h
    exact absurd hp List.not_mem_nil
  | cons field rest ih =>
    obtain ⟨k, -, h⟩ := Option.bind_eq_some_iff.mp h
    obtain ⟨v, hv, h⟩ := Option.bind_eq_some_iff.mp h
    obtain ⟨more, hmore, h⟩ := Option.bind_eq_some_iff.mp h
    obtain rfl := Option.some.inj h
    rcases List.mem_cons.mp hp with rfl | hp
    · exact ⟨field.2, hd.1, hv⟩
    · exact ih hd.2 hmore hp

/-- A field of an object that a draft has the value of is the value of a draft. -/
theorem exists_draft_of_field {d : Draft} (hd : d.IsDocument) {depth : Nat} {fields : List (String × Value)}
    (h : d.toValue? depth = some (.object fields)) {p : String × Value} (hp : p ∈ fields) :
    ∃ (d' : Draft) (depth' : Nat), d'.IsDocument ∧ d'.toValue? depth' = some p.2 := by
  match d, depth with
  | .scalar value, _ => exact (hd _ h).elim
  | .list items, 0 => cases h
  | .list items, depth + 1 =>
    obtain ⟨vs, -, hobject⟩ := Option.map_eq_some_iff.mp h
    cases hobject
  | .object named, 0 => cases h
  | .object named, depth + 1 =>
    obtain ⟨ps, hps, hobject⟩ := Option.map_eq_some_iff.mp h
    obtain rfl := Value.object.inj hobject
    obtain ⟨d', hd', hp'⟩ := exists_draft_of_mem hd hps (Keyed.mem_of_mem_ofList hp)
    exact ⟨d', depth, hd', hp'⟩

/-- A whole number that is read of the value of a draft is one of a word. -/
theorem asNat_le_of_toValue? {d : Draft} (hd : d.IsDocument) {depth : Nat} {v : Value} (h : d.toValue? depth = some v)
    {expected : String} {n : Nat} (hn : v.asNat expected = .ok n) : n ≤ maxWord := by
  match d, depth with
  | .scalar value, _ =>
    have hscalar := hd v h
    cases v with
    | unsigned k =>
      obtain rfl := Except.ok.inj hn
      exact hscalar
    | signed k =>
      have hnegative : ¬0 ≤ k := Int.not_le.mpr hscalar
      rw [Value.asNat, if_neg hnegative] at hn
      cases hn
    | _ => cases hn
  | .list items, 0 => cases h
  | .list items, depth + 1 =>
    obtain ⟨vs, -, rfl⟩ := Option.map_eq_some_iff.mp h
    cases hn
  | .object fields, 0 => cases h
  | .object fields, depth + 1 =>
    obtain ⟨ps, -, rfl⟩ := Option.map_eq_some_iff.mp h
    cases hn

end Json

namespace Value

variable {text : String}

/-- What a text stands for is a value of a document. -/
theorem isDocument_of_ofJson? {v : Value} (h : ofJson? text = some v) : v.IsDocument := by
  obtain ⟨d, hd, hv⟩ := Option.bind_eq_some_iff.mp h
  exact Json.isDocument_of_toValue? d (Json.isDocument_of_ofText? hd) _ v hv

/-- A whole number that is read of a field is one of a word. -/
theorem asNat_le_of_ofJson? {fields : List (String × Value)} (h : ofJson? text = some (.object fields)) {p : String × Value}
    (hp : p ∈ fields) {expected : String} {n : Nat} (hn : p.2.asNat expected = .ok n) : n ≤ Json.maxWord := by
  obtain ⟨d, hd, hv⟩ := Option.bind_eq_some_iff.mp h
  obtain ⟨d', depth, hd', hp'⟩ := Json.exists_draft_of_field (Json.isDocument_of_ofText? hd) hv hp
  exact Json.asNat_le_of_toValue? hd' hp' hn

end Value

end Herald
