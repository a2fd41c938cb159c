import Herald.CommandLine
import Herald.Proofs.CallGrammar
import Herald.Proofs.ValueText

/-!
# The call that the arguments make

The arguments of the command are turned into the value of a service call, and that value is read by the service. What it reads is what the
arguments say (`SendArguments.arguments_and_calls_agree`): the two sides know the same fields, in the same shapes, and leave the same ones
out. `SendArguments.service_fields` tells the value field by field, and the grammar of calls does the rest.
-/

namespace Herald.SendArguments

/-- What the data of the arguments gives to a call: nothing if there is none or if it is null, and the fields of an object. Data that is
anything else gives nothing that a call could have. -/
inductive Carries (a : SendArguments) : Option (Keyed Value) → Prop
  | absent (h : a.data = none) : Carries a none
  | null {text : String} (h : a.data = some text) (hv : Value.ofJson? text = some .null) : Carries a none
  | object {text : String} {fields : Keyed Value} (h : a.data = some text) (hv : Value.ofJson? text = some (.object fields)) :
    Carries a (some fields)

/-- The recipients that the arguments name, if they name any. -/
def named? (a : SendArguments) : Option (List String) :=
  if a.recipients = [] then none else some a.recipients

/-! ## The value of the arguments -/

/-- The value that data of the arguments stands for, if there is data. -/
inductive Reads (a : SendArguments) : Option Value → Prop
  | absent (h : a.data = none) : Reads a none
  | present {text : String} {v : Value} (h : a.data = some text) (hv : Value.ofJson? text = some v) : Reads a (some v)

/-- The fields of the call of the arguments, with the value of their data. -/
def fieldsWith (a : SendArguments) (data : Option Value) : List (String × Value) :=
  ("target", .ofTexts a.targets) :: (a.message.map fun s => ("message", .text s)).toList ++
    (a.title.map fun s => ("title", .text s)).toList ++ (a.named?.map fun texts => ("recipients", .ofTexts texts)).toList ++
    (data.map fun v => ("data", v)).toList

/-- The data is no document, or the arguments have a value that is made with the value of their data. -/
theorem serviceData_cases (a : SendArguments) :
    (∃ text, a.data = some text ∧ Value.ofJson? text = none ∧ a.serviceData = .error ⟨badData, []⟩) ∨
      ∃ data, a.Reads data ∧ a.serviceData = .ok (.ofFields (a.fieldsWith data)) := by
  obtain ⟨targets, message, title, recipients, data, timeoutSeconds⟩ := a
  cases data with
  | none =>
    refine .inr ⟨none, .absent rfl, ?_⟩
    cases recipients <;> rfl
  | some text =>
    cases hv : Value.ofJson? text with
    | none =>
      refine .inl ⟨text, rfl, hv, ?_⟩
      simp [serviceData, hv, bind, Except.bind, throw, throwThe, MonadExceptOf.throw]
    | some v =>
      refine .inr ⟨some v, .present rfl hv, ?_⟩
      cases recipients <;> simp [serviceData, fieldsWith, named?, hv, bind, Except.bind, pure, Except.pure]

/-- What the data of the arguments gives to a call is what the call's own grammar makes of its value. -/
theorem carries_iff {a : SendArguments} {data : Option Value} (hr : a.Reads data) {fields : Option (Keyed Value)} :
    a.Carries fields ↔ Call.Given (fun v fields => v = .object fields) data fields := by
  constructor
  · intro hc
    rcases hr with hnone | ⟨htext, hv⟩
    · rcases hc with _ | ⟨h, _⟩ | ⟨h, _⟩
      · exact .absent
      · simp [hnone] at h
      · simp [hnone] at h
    · rcases hc with h | ⟨h, hnull⟩ | ⟨h, hobject⟩
      · simp [htext] at h
      · obtain rfl := Option.some.inj (htext.symm.trans h)
        obtain rfl := Option.some.inj (hv.symm.trans hnull)
        exact .null
      · obtain rfl := Option.some.inj (htext.symm.trans h)
        obtain rfl := Option.some.inj (hv.symm.trans hobject)
        exact .value rfl
  · intro hg
    rcases hr with hnone | ⟨htext, hv⟩
    · cases hg
      exact .absent hnone
    · rcases hg with _ | _ | rfl
      · exact .null htext hv
      · exact .object htext hv

/-- The value of the arguments, field by field. -/
theorem service_fields (a : SendArguments) (data : Option Value) (name : String) :
    Keyed.get? name (Keyed.ofList (a.fieldsWith data)) =
      if name = "data" then data
      else if name = "recipients" then a.named?.map .ofTexts
      else if name = "title" then a.title.map .text
      else if name = "message" then a.message.map .text
      else if name = "target" then some (.ofTexts a.targets)
      else none := by
  have hdata := Keyed.get?_ofList_optional name "data" id data
  simp only [id] at hdata
  simp only [fieldsWith, List.cons_append, Keyed.get?_ofList_cons, Keyed.get?_ofList_append, Keyed.get?_ofList_optional, hdata,
    @eq_comm String _ name]
  -- a name is looked up in one of the five fields at most
  by_cases h1 : name = "data"
  · subst h1
    simp
  · by_cases h2 : name = "recipients"
    · subst h2
      simp
    · by_cases h3 : name = "title"
      · subst h3
        simp
      · by_cases h4 : name = "message"
        · subst h4
          simp
        · simp [h1, h2, h3, h4]

/-- The value of the arguments has fields of calls only. -/
theorem known_of_mem_fieldsWith {a : SendArguments} {data : Option Value} {p : String × Value} (hp : p ∈ a.fieldsWith data) :
    p.1 ∈ Call.fieldNames := by
  simp only [fieldsWith, List.cons_append, List.mem_cons, List.mem_append, Option.mem_toList, Option.map_eq_some_iff] at hp
  rcases hp with rfl | ((⟨_, _, rfl⟩ | ⟨_, _, rfl⟩) | ⟨_, _, rfl⟩) | ⟨_, _, rfl⟩ <;> simp [Call.fieldNames]

/-- The value of the arguments is one of a document. -/
theorem isDocument_fieldsWith {a : SendArguments} {data : Option Value} (hr : a.Reads data) :
    (Value.ofFields (a.fieldsWith data)).IsDocument := by
  refine Value.isDocument_ofFields ?_
  intro p hp
  simp only [fieldsWith, List.cons_append, List.mem_cons, List.mem_append, Option.mem_toList, Option.map_eq_some_iff] at hp
  rcases hp with rfl | ((⟨_, _, rfl⟩ | ⟨_, _, rfl⟩) | ⟨_, _, rfl⟩) | ⟨v, rfl, rfl⟩
  · exact Value.isDocument_ofTexts _
  · trivial
  · trivial
  · exact Value.isDocument_ofTexts _
  · rcases hr with _ | ⟨_, hv⟩
    exact Value.isDocument_of_ofJson? hv

/-! ## The call of the arguments -/

/-- A text that may be left out gives itself to a call. -/
theorem given_text_iff {o o' : Option String} : Call.Given (fun v s => v = .text s) (o.map .text) o' ↔ o' = o := by
  constructor
  · intro h
    cases o with
    | none =>
      cases h
      rfl
    | some s =>
      rcases h with _ | _ | h
      rw [Value.text.inj h]
  · rintro rfl
    cases o' with
    | none => exact .absent
    | some s => exact .value rfl

/-- A list of texts names its texts and no others. -/
theorem names_ofTexts_iff {texts texts' : List String} : Call.Names (.ofTexts texts) texts' ↔ texts' = texts := by
  rw [← Call.oneOrMany_eq_ok_iff, Call.oneOrMany_eq_ok_iff.mpr (.many texts), Except.ok.injEq, eq_comm]

/-- Texts that may be left out give themselves to a call. -/
theorem given_names_iff {o o' : Option (List String)} : Call.Given Call.Names (o.map .ofTexts) o' ↔ o' = o := by
  constructor
  · intro h
    cases o with
    | none =>
      cases h
      rfl
    | some texts =>
      rcases h with _ | _ | h
      rw [names_ofTexts_iff.mp h]
  · rintro rfl
    cases o' with
    | none => exact .absent
    | some texts => exact .value (.many texts)

/-- The arguments write a call to the targets they name, with what they say of the message. -/
theorem written_iff {a : SendArguments} {data : Option Value} (hr : a.Reads data) {given : List String} {m : Message} :
    Call.Written (.ofFields (a.fieldsWith data)) given m ↔
      given = a.targets ∧ m.message = a.message ∧ m.title = a.title ∧ m.recipients = a.named? ∧ a.Carries m.data := by
  have hknown : ∀ p ∈ Keyed.ofList (a.fieldsWith data), p.1 ∈ Call.fieldNames := by
    intro p hp
    exact known_of_mem_fieldsWith (Keyed.mem_of_mem_ofList hp)
  have hfields : Call.Fields (fun name => Keyed.get? name (Keyed.ofList (a.fieldsWith data))) given m ↔
      given = a.targets ∧ m.message = a.message ∧ m.title = a.title ∧ m.recipients = a.named? ∧ a.Carries m.data := by
    rw [carries_iff hr]
    constructor
    · rintro ⟨⟨v, hv, hnames⟩, hmessage, htitle, hrecipients, hdata⟩
      simp only [service_fields, String.reduceEq, if_true, if_false, Option.some.injEq] at hv hmessage htitle hrecipients hdata
      subst hv
      exact ⟨names_ofTexts_iff.mp hnames, given_text_iff.mp hmessage, given_text_iff.mp htitle, given_names_iff.mp hrecipients, hdata⟩
    · rintro ⟨rfl, hmessage, htitle, hrecipients, hdata⟩
      constructor
      all_goals simp only [service_fields, String.reduceEq, if_true, if_false]
      · exact ⟨_, rfl, .many a.targets⟩
      · exact given_text_iff.mpr hmessage
      · exact given_text_iff.mpr htitle
      · exact given_names_iff.mpr hrecipients
      · exact hdata
  constructor
  · intro h
    unfold Value.ofFields at h
    cases h with
    | object _ hf => exact hfields.mp hf
  · intro h
    exact .object hknown (hfields.mpr h)

/-- The arguments have no value exactly if they have data and that is no document. The value that they have otherwise is a call exactly if
they name a target and no blank one, and have no data or data that is an object or null. The call has the targets that are named, each
once in the order of first mention, the message and the title of the arguments, their recipients unless there are none, and the fields of
their data. -/
theorem arguments_and_calls_agree (a : SendArguments) :
    ((∃ failure, a.serviceData = .error failure) ↔ ∃ text, a.data = some text ∧ Value.ofJson? text = none) ∧
      ∀ v, a.serviceData = .ok v →
        ((∃ call, Call.ofValue v = .ok call) ↔
          a.targets ≠ [] ∧ (∀ t ∈ a.targets, Text.trim t ≠ "") ∧ ∃ fields, a.Carries fields) ∧
        ∀ call, Call.ofValue v = .ok call →
          FirstsOf a.targets call.targets ∧ call.message.message = a.message ∧ call.message.title = a.title ∧
            call.message.recipients = (if a.recipients = [] then none else some a.recipients) ∧ a.Carries call.message.data := by
  rcases a.serviceData_cases with ⟨text, htext, hnone, hs⟩ | ⟨data, hr, hs⟩
  · refine ⟨⟨fun _ => ⟨text, htext, hnone⟩, fun _ => ⟨_, hs⟩⟩, ?_⟩
    intro v hv
    simp [hs] at hv
  · refine ⟨⟨?_, ?_⟩, ?_⟩
    · rintro ⟨failure, hf⟩
      simp [hs] at hf
    · rintro ⟨text, htext, hnone⟩
      rcases hr with habsent | ⟨htext', hv⟩
      · simp [habsent] at htext
      · obtain rfl := Option.some.inj (htext'.symm.trans htext)
        simp [hnone] at hv
    · intro v hv
      obtain rfl := Except.ok.inj (hs.symm.trans hv)
      have hdoc := isDocument_fieldsWith hr
      refine ⟨?_, ?_⟩
      · constructor
        · rintro ⟨call, hcall⟩
          obtain ⟨given, haccepted, -⟩ := Call.accepted_of_ofValue hdoc hcall
          obtain ⟨rfl, -, -, -, hcarries⟩ := (written_iff hr).mp haccepted.written
          exact ⟨haccepted.named, haccepted.visible, _, hcarries⟩
        · rintro ⟨hnamed, hvisible, fields, hcarries⟩
          have hwritten := (written_iff hr (m := ⟨a.message, a.title, a.named?, fields⟩)).mpr ⟨rfl, rfl, rfl, rfl, hcarries⟩
          exact ⟨_, Call.Accepted.ofValue_eq hdoc ⟨hwritten, hnamed, hvisible⟩⟩
      · intro call hcall
        obtain ⟨given, haccepted, htargets⟩ := Call.accepted_of_ofValue hdoc hcall
        obtain ⟨rfl, hmessage, htitle, hrecipients, hcarries⟩ := (written_iff hr).mp haccepted.written
        exact ⟨htargets ▸ FirstsOf.eraseDups a.targets, hmessage, htitle, hrecipients, hcarries⟩

/-- A repeated target, a title without text and data of one field: no recipients are given, so the call has none. -/
theorem arguments_without_recipients :
    let data : Value := .object [("k", .list [.unsigned 1])]
    let a : SendArguments := { targets := ["b ", "a", "b "], title := some "", data := some data.indented }
    ∃ v call, a.serviceData = .ok v ∧ Call.ofValue v = .ok call ∧ FirstsOf ["b ", "a", "b "] call.targets ∧
      call.message.title = some "" ∧ call.message.recipients = none ∧ call.message.data = some [("k", .list [.unsigned 1])] := by
  intro data a
  have hrising : Keyed.Rising [("k", Value.list [.unsigned 1])] := List.pairwise_singleton _ _
  have hword : 1 ≤ Json.maxWord := by decide
  have hjson : Value.ofJson? data.indented = some data :=
    Value.ofJson?_indented ⟨⟨⟨hword, trivial⟩, trivial⟩, ⟨hrising, ⟨trivial, trivial⟩, trivial⟩, by decide⟩
  obtain ⟨hfails, hreads⟩ := arguments_and_calls_agree a
  cases hs : a.serviceData with
  | error failure =>
    obtain ⟨text, htext, hnone⟩ := hfails.mp ⟨failure, hs⟩
    obtain rfl := Option.some.inj htext
    simp [hjson] at hnone
  | ok v =>
    obtain ⟨haccepted, hcall⟩ := hreads v hs
    obtain ⟨call, hread⟩ := haccepted.mpr ⟨by decide, by decide, _, .object rfl hjson⟩
    obtain ⟨htargets, -, htitle, hrecipients, hcarries⟩ := hcall call hread
    refine ⟨v, call, rfl, hread, htargets, htitle, hrecipients, ?_⟩
    generalize call.message.data = fields at hcarries
    rcases hcarries with h | ⟨h, hv⟩ | ⟨h, hv⟩
    · simp [a] at h
    · obtain rfl := Option.some.inj h
      simp [hjson, data] at hv
    · obtain rfl := Option.some.inj h
      obtain rfl := Value.object.inj (Option.some.inj (hjson.symm.trans hv))
      rfl

end Herald.SendArguments
