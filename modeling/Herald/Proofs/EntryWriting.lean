import Herald.Proofs.FeatureNames
import Herald.Proofs.ValueText
import Herald.Target.Build

/-!
# Entries of targets, written and read back

The fields that every target has and those of its kind stand in one object, in the order of their names, and none has the name of another.
So each of the two readers finds its own fields and passes the others over, and an entry that is written is read back as it was
(`TargetConfig.written_entries_are_read_back`).
-/

namespace Herald

/-- What may be absent is read where it is written as null when it is. -/
theorem Value.asOption_getD {α : Type} {read : Value → Reading α} {write : α → Value} (hread : ∀ a, read (write a) = .ok a)
    (hpresent : ∀ a, write a ≠ .null) (o : Option α) : asOption read ((o.map write).getD .null) = .ok o := by
  cases o with
  | none => rfl
  | some a =>
    have hne := hpresent a
    have hok := hread a
    cases hw : write a with
    | null => exact absurd hw hne
    | _ =>
      rw [hw] at hok
      simp [asOption, hw, hok, Except.map]

theorem DeviceClass.ofValue_toValue (c : DeviceClass) : ofValue c.toValue = .ok c := by
  cases c
  rfl

namespace TargetConfig

variable (d : Draft) (c : TargetConfig)

/-! ## The fields that every target has -/

theorem readField_id (id : Option String) : readField d ("id", .ofText? id) = .ok { d with id } := by
  cases id <;> rfl

theorem readField_name (name : String) : readField d ("name", .text name) = .ok { d with name := some name } :=
  rfl

theorem readField_deviceClass (o : Option DeviceClass) :
    readField d ("device_class", (o.map (·.toValue)).getD .null) = .ok { d with deviceClass := o } := by
  have hread := Value.asOption_getD DeviceClass.ofValue_toValue nofun o
  have hspelled : ((o.map DeviceClass.toValue).getD .null).spelled = (o.map DeviceClass.toValue).getD .null := by
    cases o <;> rfl
  simp only [readField, hspelled, hread]
  rfl

theorem readField_features (o : Option FeatureSet) :
    readField d ("supported_features", (o.map (·.toValue)).getD .null) = .ok { d with features := o } := by
  have hread := Value.asOption_getD FeatureSet.ofValue_toValue nofun o
  have hspelled : ((o.map FeatureSet.toValue).getD .null).spelled = (o.map FeatureSet.toValue).getD .null := by
    cases o <;> rfl
  simp only [readField, hspelled, hread]
  rfl

/-- The names of the fields that the entry of a target has beside those that every target has. -/
def kindFields : List String :=
  ["kind", "url", "format", "timeout_seconds", "host"]

/-- A field of the kind is passed over where the fields of every target are read. -/
theorem readField_of_kind {name : String} (hname : name ∈ kindFields) (v : Value) : readField d (name, v) = .ok d := by
  simp only [kindFields, List.mem_cons, List.not_mem_nil, or_false] at hname
  rcases hname with rfl | rfl | rfl | rfl | rfl <;> rfl

/-! ## The object of an entry -/

/-- The value of an entry with nothing but the name of its kind. -/
theorem toValue_of_bare {name : String} (hkind : c.kind.fields = [("kind", .text name)]) :
    c.toValue = .object [("device_class", (c.deviceClass.map (·.toValue)).getD .null), ("id", .ofText? c.id), ("kind", .text name),
      ("name", .text c.name), ("supported_features", (c.features.map (·.toValue)).getD .null)] := by
  simp only [toValue, hkind, Value.ofFields, Keyed.ofList, Keyed.insert, List.cons_append, List.nil_append, List.foldl_nil,
    List.foldl_cons, String.reduceLT, String.reduceEq, ↓reduceIte]

/-- The value of an entry of a webhook. -/
theorem toValue_of_webhook {url : String} {format : WebhookFormat} {timeout : Nat} (hkind : c.kind = .webhook url format timeout) :
    c.toValue = .object [("device_class", (c.deviceClass.map (·.toValue)).getD .null), ("format", .text format.name),
      ("id", .ofText? c.id), ("kind", .text "webhook"), ("name", .text c.name),
      ("supported_features", (c.features.map (·.toValue)).getD .null), ("timeout_seconds", .unsigned timeout), ("url", .text url)] := by
  simp only [toValue, hkind, TargetKind.fields, Value.ofFields, Keyed.ofList, Keyed.insert, List.cons_append, List.nil_append,
    List.foldl_nil, List.foldl_cons, String.reduceLT, String.reduceEq, ↓reduceIte]

/-- The value of an entry of a websocket. -/
theorem toValue_of_websocket {host : String} (hkind : c.kind = .websocket host) :
    c.toValue = .object [("device_class", (c.deviceClass.map (·.toValue)).getD .null), ("host", .text host), ("id", .ofText? c.id),
      ("kind", .text "websocket"), ("name", .text c.name),
      ("supported_features", (c.features.map (·.toValue)).getD .null)] := by
  simp only [toValue, hkind, TargetKind.fields, Value.ofFields, Keyed.ofList, Keyed.insert, List.cons_append, List.nil_append,
    List.foldl_nil, List.foldl_cons, String.reduceLT, String.reduceEq, ↓reduceIte]

/-- The fields that every target has are read of the object of an entry, whatever its kind has beside them. -/
theorem foldlM_readField {fields : List (String × Value)}
    (hown : fields.filter (fun p => p.1 ∉ kindFields) =
      [("device_class", (c.deviceClass.map (·.toValue)).getD .null), ("id", .ofText? c.id), ("name", .text c.name),
        ("supported_features", (c.features.map (·.toValue)).getD .null)]) :
    fields.foldlM readField {} = .ok ⟨c.id, some c.name, c.deviceClass, c.features⟩ := by
  have hpassed : ∀ p : String × Value, decide (p.1 ∉ kindFields) = false → ∀ d, readField d p = .ok d := by
    intro p hp d
    exact readField_of_kind d (Decidable.not_not.mp (of_decide_eq_false hp)) p.2
  rw [Reading.foldlM_filter_of_passed hpassed, hown]
  simp only [List.foldlM_cons, List.foldlM_nil, readField_deviceClass, readField_id, readField_name, readField_features, bind,
    Except.bind]
  rfl

/-- An object is read as an entry if each of the two readers reads its part. -/
theorem ofValue_object {fields : List (String × Value)}
    (hown : fields.foldlM readField {} = .ok ⟨c.id, some c.name, c.deviceClass, c.features⟩)
    (hkind : TargetKind.ofFields fields = .ok c.kind) : ofValue (.object fields) = .ok c := by
  rw [ofValue, hown]
  simp only [bind, Except.bind, hkind]
  rfl

/-- An entry that is written is read back. -/
theorem ofValue_toValue : ofValue c.toValue = .ok c := by
  obtain ⟨id, name, deviceClass, features, kind⟩ := c
  cases kind with
  | log =>
    rw [toValue_of_bare _ rfl]
    exact ofValue_object _ (foldlM_readField _ rfl) rfl
  | persistent =>
    rw [toValue_of_bare _ rfl]
    exact ofValue_object _ (foldlM_readField _ rfl) rfl
  | webhook url format timeout =>
    rw [toValue_of_webhook _ rfl]
    refine ofValue_object _ (foldlM_readField _ rfl) ?_
    cases format <;> rfl
  | websocket host =>
    rw [toValue_of_websocket _ rfl]
    exact ofValue_object _ (foldlM_readField _ rfl) rfl

/-! ## The text of an entry -/

/-- The value of an entry stands in its text as it is, as long as a document can hold the seconds of its timeout. -/
theorem legible_toValue {levels : Nat} (hword : ∀ url format timeout, c.kind = .webhook url format timeout → timeout ≤ Json.maxWord) :
    c.toValue.Legible (levels + 2) := by
  obtain ⟨id, name, deviceClass, features, kind⟩ := c
  have hown : ∀ p ∈ [("id", Value.ofText? id), ("name", .text name), ("device_class", (deviceClass.map (·.toValue)).getD .null),
      ("supported_features", (features.map (·.toValue)).getD .null)], Value.Legible (levels + 1) p.2 := by
    simp only [List.forall_mem_cons, List.not_mem_nil, false_implies, implies_true, and_true]
    refine ⟨?_, Value.legible_text name, ?_, ?_⟩
    · cases id with
      | none => exact Value.legible_null
      | some id => exact Value.legible_text id
    · cases deviceClass with
      | none => exact Value.legible_null
      | some deviceClass => exact Value.legible_text deviceClass.name
    · cases features with
      | none => exact Value.legible_null
      | some features => exact Value.legible_ofTexts features.names
  have hkind : ∀ p ∈ kind.fields, Value.Legible (levels + 1) p.2 := by
    cases kind <;> simp only [TargetKind.fields, List.forall_mem_cons, List.not_mem_nil, false_implies, implies_true, and_true,
      Value.legible_text, true_and]
    case webhook url format timeout => exact Value.legible_unsigned (hword url format timeout rfl)
  refine Value.legible_ofFields ?_
  intro p hp
  rcases List.mem_append.mp hp with hp | hp
  · exact hown p hp
  · exact hkind p hp

/-- A field of a webhook leaves the seconds of the timeout, or is a number and gives them. -/
theorem timeout_of_readWebhookField {d d' : TargetKind.Draft} {p : String × Value} (h : TargetKind.readWebhookField d p = .ok d') :
    d'.timeoutSeconds = d.timeoutSeconds ∨ p.2.asNat "u64" = .ok d'.timeoutSeconds := by
  unfold TargetKind.readWebhookField at h
  split at h
  · obtain ⟨_, -, h⟩ := Reading.bind_eq_ok_iff.mp h
    obtain rfl := Except.ok.inj h
    exact .inl rfl
  · obtain ⟨_, -, h⟩ := Reading.bind_eq_ok_iff.mp h
    obtain rfl := Except.ok.inj h
    exact .inl rfl
  · obtain ⟨_, hn, h⟩ := Reading.bind_eq_ok_iff.mp h
    obtain rfl := Except.ok.inj h
    exact .inr hn
  · obtain rfl := Except.ok.inj h
    exact .inl rfl

/-- The seconds of the timeout that some fields give are a number of one of them, or those of a webhook that gives none. -/
theorem timeout_of_readWebhookFields {fields : List (String × Value)} {d : TargetKind.Draft}
    (h : fields.foldlM TargetKind.readWebhookField {} = .ok d) :
    d.timeoutSeconds = TargetKind.defaultTimeout ∨ ∃ p ∈ fields, p.2.asNat "u64" = .ok d.timeoutSeconds := by
  refine Reading.foldlM_keeps (P := fun d => d.timeoutSeconds = TargetKind.defaultTimeout ∨
    ∃ p ∈ fields, p.2.asNat "u64" = .ok d.timeoutSeconds) ?_ (.inl rfl) h
  intro p hp d d' hd hread
  rcases timeout_of_readWebhookField hread with hsame | hn
  · rwa [hsame]
  · exact .inr ⟨p, hp, hn⟩

/-- The seconds of the timeout of a webhook that is read are such. -/
theorem timeout_of_ofFields {fields : List (String × Value)} {url : String} {format : WebhookFormat} {timeout : Nat}
    (h : TargetKind.ofFields fields = .ok (.webhook url format timeout)) :
    timeout = TargetKind.defaultTimeout ∨ ∃ p ∈ fields, p.2.asNat "u64" = .ok timeout := by
  unfold TargetKind.ofFields at h
  split at h
  · obtain ⟨name, -, h⟩ := Reading.bind_eq_ok_iff.mp h
    dsimp only at h
    split at h
    · cases h
    · cases h
    · obtain ⟨d, hread, h⟩ := Reading.bind_eq_ok_iff.mp h
      split at h
      · obtain ⟨-, -, rfl⟩ := TargetKind.webhook.inj (Except.ok.inj h)
        exact timeout_of_readWebhookFields hread
      · cases h
    · obtain ⟨d, -, h⟩ := Reading.bind_eq_ok_iff.mp h
      split at h <;> cases h
  · cases h

/-- A document can hold the seconds of the timeout of an entry that is read of a text. -/
theorem timeout_le_of_ofValue {text : String} {v : Value} (hv : Value.ofJson? text = some v) {c : TargetConfig} (hc : ofValue v = .ok c)
    (url : String) (format : WebhookFormat) (timeout : Nat) (hkind : c.kind = .webhook url format timeout) : timeout ≤ Json.maxWord := by
  cases v with
  | object fields =>
    unfold ofValue at hc
    obtain ⟨d, -, hc⟩ := Reading.bind_eq_ok_iff.mp hc
    split at hc
    · cases hc
    · obtain ⟨kind, hread, hc⟩ := Reading.bind_eq_ok_iff.mp hc
      obtain rfl := Except.ok.inj hc
      subst hkind
      rcases timeout_of_ofFields hread with rfl | ⟨p, hp, hn⟩
      · decide
      · exact Value.asNat_le_of_ofJson? hv hp hn
  | _ => cases hc

/-- An entry that is written is read back as it was: from its value, and from its text as long as a document can hold the seconds of its
timeout. These are a number that a document can hold where the entry was itself read of a text: so whatever text is accepted as an entry,
writing the entry and reading it again gives that entry, with its identity and with what is built of it or why nothing is. -/
theorem written_entries_are_read_back :
    (∀ c : TargetConfig, ofValue c.toValue = .ok c) ∧
      (∀ c : TargetConfig, (∀ url format timeout, c.kind = .webhook url format timeout → timeout ≤ Json.maxWord) →
        ∃ v, Value.ofJson? c.toValue.indented = some v ∧ ofValue v = .ok c) ∧
      ∀ text v c, Value.ofJson? text = some v → ofValue v = .ok c →
        ∃ w c', Value.ofJson? c.toValue.indented = some w ∧ ofValue w = .ok c' ∧
          c' = c ∧ c'.identity = c.identity ∧ c'.build = c.build := by
  have hwritten (c : TargetConfig) (hword : ∀ url format timeout, c.kind = .webhook url format timeout → timeout ≤ Json.maxWord) :
      Value.ofJson? c.toValue.indented = some c.toValue :=
    Value.ofJson?_indented (c.legible_toValue hword)
  refine ⟨ofValue_toValue, ?_, ?_⟩
  · intro c hword
    exact ⟨c.toValue, hwritten c hword, c.ofValue_toValue⟩
  · intro text v c hv hc
    exact ⟨c.toValue, c, hwritten c (timeout_le_of_ofValue hv hc), c.ofValue_toValue, rfl, rfl, rfl⟩

/-- A kind that is given by its position, and a timeout that is left out, are written in full. -/
theorem entry_by_position_is_read_back :
    let v : Value := .object [("format", .object [("slack", .null)]), ("kind", .unsigned 2), ("name", .text "Ops"), ("url", .text "h")]
    let c : TargetConfig := { name := "Ops", kind := .webhook "h" .slack 10 }
    Value.ofJson? v.indented = some v ∧ ofValue v = .ok c ∧ c.toValue ≠ v ∧
      (∃ w, Value.ofJson? c.toValue.indented = some w ∧ ofValue w = .ok c) ∧
      ∃ w c', Value.ofJson? c.toValue.indented = some w ∧ ofValue w = .ok c' ∧
        c' = c ∧ c'.identity = c.identity ∧ c'.build = c.build := by
  intro v c
  have hdocument : v.Legible Json.maxDepth := by
    have hformat : (Value.ofFields [("slack", .null)]).Legible (125 + 1) :=
      Value.legible_ofFields (List.forall_mem_singleton.mpr Value.legible_null)
    have hposition : 2 ≤ Json.maxWord := by decide
    show (Value.ofFields [("format", .ofFields [("slack", .null)]), ("kind", .unsigned 2), ("name", .text "Ops"),
      ("url", .text "h")]).Legible (126 + 1)
    refine Value.legible_ofFields ?_
    simp only [List.forall_mem_cons, List.not_mem_nil, false_implies, implies_true, and_true]
    exact ⟨hformat, Value.legible_unsigned hposition, Value.legible_text "Ops", Value.legible_text "h"⟩
  have hv : Value.ofJson? v.indented = some v := Value.ofJson?_indented hdocument
  have hread : ofValue v = .ok c := rfl
  obtain ⟨-, htext, haccepted⟩ := written_entries_are_read_back
  refine ⟨hv, hread, ?_, htext c ?_, haccepted v.indented v c hv hread⟩
  · rw [toValue_of_webhook c rfl]
    simp [v]
  · intro url format timeout hkind
    cases hkind
    decide

end TargetConfig

end Herald
