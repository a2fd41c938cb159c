import Herald.Proofs.DirectCall
import Herald.Proofs.FeatureNames

/-!
# What a message has is what it demands

The fields of a message are told in three places: in the object it is posted as, in the features it requires, and in the check that a
target supports these. All three go by the same names (`Message.fields_are_demands`), so that what is enforced is what is sent.
-/

namespace Herald

namespace FeatureSet

/-! ## Sets as names and as numbers -/

/-- The names of a set are those among the names of all features that it has. -/
theorem names_eq_filter (s : FeatureSet) :
    s.names = ["message", "title", "recipients", "data"].filter fun name => s.names.contains name :=
  names_of_has fun f => (contains_names s f).symm

/-- The number of the features that a set lacks is the number of those required, with the bits of the set masked out. -/
theorem bits_missing (s required : FeatureSet) : (s.missing required).bits = required.bits &&& (255 ^^^ s.bits) := by
  obtain ⟨message, title, recipients, data⟩ := s
  obtain ⟨message', title', recipients', data'⟩ := required
  revert message title recipients data message' title' recipients' data'
  decide

/-- Only the number of the set without features is zero. -/
theorem bits_eq_zero_iff (s : FeatureSet) : s.bits = 0 ↔ s.names = [] := by
  obtain ⟨message, title, recipients, data⟩ := s
  revert message title recipients data
  decide

end FeatureSet

namespace Message

variable (m : Message)

/-! ## The object of a message -/

/-- The recipients of a message are set to the texts that are listed. -/
theorem readField_recipients (texts : List String) :
    reader.readField m ("recipients", .ofTexts texts) = .ok { m with recipients := some texts } := by
  have hlist := Value.asList_ofTexts texts
  have hread : (Value.ofTexts texts).asOption (fun v => v.asList Value.asText) = .ok (some texts) := by
    show ((Value.ofTexts texts).asList Value.asText).map some = .ok (some texts)
    rw [hlist]
    rfl
  have hspelled : (Value.ofTexts texts).spelled = .ofTexts texts := rfl
  rw [RecordReader.readField_of_known (by decide), hspelled, reader]
  simp only [hread]
  rfl

/-- A message that is written is read back. -/
theorem ofValue_toValue : ofValue m.toValue = .ok m := by
  have hdata := Reading.foldlM_optional reader.readField "data" .object (fun o => { data := o }) m.data (fun _ => rfl)
  have hmessage := Reading.foldlM_optional reader.readField "message" .text
    (fun o => { data := m.data, message := o }) m.message (fun _ => rfl)
  have hrecipients := Reading.foldlM_optional reader.readField "recipients" .ofTexts
    (fun o => { data := m.data, message := m.message, recipients := o }) m.recipients (readField_recipients _)
  have htitle := Reading.foldlM_optional reader.readField "title" .text (fun o => { m with title := o }) m.title (fun _ => rfl)
  rw [toValue, Value.ofFields, m.fields_ordered, ofValue, RecordReader.read, Reading.foldlM_append_of_ok hdata,
    Reading.foldlM_append_of_ok hmessage, Reading.foldlM_append_of_ok hrecipients]
  exact htitle

/-- Each field of the object is that field of the message, and is there if the message has it. -/
theorem field?_toValue :
    m.toValue.field? "message" = m.message.map .text ∧ m.toValue.field? "title" = m.title.map .text ∧
      m.toValue.field? "recipients" = m.recipients.map .ofTexts ∧ m.toValue.field? "data" = m.data.map .object := by
  simp only [toValue, Value.ofFields, Value.field?, fields, Keyed.get?_ofList_append, Keyed.get?_ofList_optional, String.reduceEq,
    ↓reduceIte, Option.or_none, Option.none_or, and_self]

/-- The keys of the object are the names of the features that the message requires. -/
theorem mem_keys_iff {name : String} : name ∈ (Keyed.ofList m.fields).map (·.1) ↔ name ∈ m.required.names := by
  rw [Keyed.mem_keys_ofList, m.names_fields]

/-- What a target lacks for a message are those of its keys that are not among the names of its features, in the order of all names. -/
theorem lacking_eq_filter (t : Target) :
    t.lacking m = ["message", "title", "recipients", "data"].filter fun name =>
      decide (name ∈ (Keyed.ofList m.fields).map (·.1) ∧ name ∉ t.features.names) := by
  rw [Target.lacking, m.names_fields, m.required.names_eq_filter, List.filter_filter]
  refine List.filter_congr fun name _ => ?_
  rw [Bool.eq_iff_iff, decide_eq_true_iff, m.mem_keys_iff]
  simp [and_comm]

/-- A target lacks nothing for a message if all its keys are among the names of its features. -/
theorem lacking_eq_nil_iff (t : Target) :
    t.lacking m = [] ↔ ∀ name ∈ (Keyed.ofList m.fields).map (·.1), name ∈ t.features.names := by
  rw [Target.lacking, List.filter_eq_nil_iff, m.names_fields]
  simp [m.mem_keys_iff]

end Message

/-! ## The check of a message -/

/-- Where features are enforced, a target that is found is dispatched to if it lacks nothing, and the hub stays as it is if it does. -/
theorem Hub.run_dispatch_of_enforced {h : Hub} {identity : String} {e : Registration} (henforced : h.enforceFeatures = true)
    (he : h.registry.resolve identity = some e) (now : Instant) (m : Message) :
    (e.target.lacking m = [] → ∃ ticket h', (Operation.dispatch now identity m).run h = (.ok ticket, h')) ∧
      (e.target.lacking m ≠ [] → (Operation.dispatch now identity m).run h =
        (.error (.validation ("target '" ++ identity ++ "' does not support: " ++ "|".intercalate (e.target.lacking m))), h)) := by
  have hcheck := check_eq h m identity
  rw [refusal?, he] at hcheck
  rw [run_dispatch, hcheck]
  constructor
  · intro hnil
    simp only [hnil, ne_eq, not_true_eq_false, and_false, ↓reduceIte]
    exact ⟨_, _, rfl⟩
  · intro hlacking
    simp only [henforced, hlacking, ne_eq, not_false_eq_true, and_self, ↓reduceIte]

/-- The object that a message is posted as is read as that message, and has those of its fields that are not absent, also empty ones. Its
keys are the names of the features that the message requires. Where features are enforced, a target that is found is sent the message if it
has all these names, which is when no bit of the required features is left by the bits of its own; else the dispatch changes nothing and
tells the names that it has not, in the order message, title, recipients, data. -/
theorem Message.fields_are_demands (m : Message) :
    ∃ fields, Webhook.payload .json m = .object fields ∧ ofValue (.object fields) = .ok m ∧
      (Keyed.get? "message" fields = m.message.map .text ∧ Keyed.get? "title" fields = m.title.map .text ∧
        Keyed.get? "recipients" fields = m.recipients.map .ofTexts ∧ Keyed.get? "data" fields = m.data.map .object) ∧
      (∀ name, name ∈ fields.map (·.1) ↔ name ∈ m.required.names) ∧
      ∀ (h : Hub) (identity : String) (e : Registration) (now : Instant), h.enforceFeatures = true →
        h.registry.resolve identity = some e →
        ((∃ ticket h', (Hub.Operation.dispatch now identity m).run h = (.ok ticket, h')) ↔
          ∀ name ∈ fields.map (·.1), name ∈ e.target.features.names) ∧
        ((∀ name ∈ fields.map (·.1), name ∈ e.target.features.names) ↔ m.required.bits &&& (255 ^^^ e.target.features.bits) = 0) ∧
        ((∃ name ∈ fields.map (·.1), name ∉ e.target.features.names) → (Hub.Operation.dispatch now identity m).run h =
          (.error (.validation ("target '" ++ identity ++ "' does not support: " ++
            "|".intercalate (["message", "title", "recipients", "data"].filter fun name =>
              decide (name ∈ fields.map (·.1) ∧ name ∉ e.target.features.names)))), h)) := by
  refine ⟨Keyed.ofList m.fields, rfl, m.ofValue_toValue, m.field?_toValue, fun _ => m.mem_keys_iff, ?_⟩
  intro h identity e now henforced he
  obtain ⟨hsent, hrefused⟩ := Hub.run_dispatch_of_enforced henforced he now m
  have hnil := m.lacking_eq_nil_iff e.target
  refine ⟨?_, ?_, ?_⟩
  · rw [← hnil]
    refine ⟨?_, hsent⟩
    rintro ⟨ticket, h', hrun⟩
    by_contra hlacking
    rw [hrefused hlacking] at hrun
    cases hrun
  · rw [← hnil, e.target.lacking_eq, ← FeatureSet.bits_missing, FeatureSet.bits_eq_zero_iff]
  · rintro ⟨name, hname, hnot⟩
    rw [hrefused fun hlacking => hnot (hnil.mp hlacking name hname), m.lacking_eq_filter]

/-- Empty recipients and empty data are demanded of a target, although nothing is in them. -/
theorem Message.empty_fields_are_demanded :
    let m : Message := { title := some "", recipients := some [], data := some [] }
    let t : Target := { description := { features := { title := true } }, channel := .log }
    let h : Hub := (Hub.register { bus := ⟨1, []⟩, pool := .ofWorkers 1, enforceFeatures := true } none "a" t).1
    (∃ fields, Webhook.payload .json m = .object fields ∧ ofValue (.object fields) = .ok m ∧
      Keyed.get? "message" fields = none ∧ Keyed.get? "recipients" fields = some (.list [])) ∧
      (Hub.Operation.dispatch .epoch "a" m).run h = (.error (.validation "target 'a' does not support: recipients|data"), h) := by
  intro m t h
  obtain ⟨fields, hpayload, hread, ⟨hmessage, -, hrecipients, -⟩, hkeys, hdemands⟩ := fields_are_demands m
  refine ⟨⟨fields, hpayload, hread, hmessage, hrecipients⟩, ?_⟩
  obtain ⟨e, he, hfeatures⟩ : ∃ e, h.registry.resolve "a" = some e ∧ e.target.features = { title := true } := ⟨_, rfl, rfl⟩
  obtain ⟨-, -, hrefused⟩ := hdemands h "a" e .epoch rfl he
  have hdatakey : "data" ∈ m.required.names := by decide
  rw [hrefused ⟨"data", (hkeys "data").mpr hdatakey, by rw [hfeatures]; decide⟩]
  simp only [hkeys, hfeatures]
  rfl

end Herald
