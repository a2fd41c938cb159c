import Herald.Call
import Herald.Proofs.KeyedOrder
import Herald.Proofs.RecordReading
import Herald.Proofs.ServiceCall
import Herald.Proofs.Trimming
import Mathlib.Data.List.Basic

/-!
# How calls are written

A call is an object of known fields among which there is a target, or the list of all five fields (`Call.Written`). Of the calls that are
written so, those are accepted that name a target and no blank one (`Call.Accepted`). Reading accepts exactly these, gives what is
written, each target once in the order of first mention, and calls everything else invalid (`Call.reads_exactly_its_grammar`).
-/

namespace Herald

/-- Some texts, each once, in the order in which a list names them first. -/
structure FirstsOf (given texts : List String) : Prop where
  same : ∀ t, t ∈ texts ↔ t ∈ given
  ordered : texts.Pairwise fun a b => given.idxOf a < given.idxOf b

namespace FirstsOf

/-- Taking texts away leaves the order of the others. -/
theorem idxOf_lt_of_filter {keep : String → Bool} {a b : String} (ha : keep a = true) (hb : keep b = true) {l : List String}
    (h : (l.filter keep).idxOf a < (l.filter keep).idxOf b) : l.idxOf a < l.idxOf b := by
  induction l with
  | nil => exact h
  | cons c rest ih =>
    by_cases hc : keep c = true
    · rw [List.filter_cons_of_pos hc] at h
      simp only [List.idxOf_cons, cond_eq_ite, beq_iff_eq] at h ⊢
      split at h <;> split at h <;> simp_all
    · have hca : c ≠ a := fun he => hc (he ▸ ha)
      have hcb : c ≠ b := fun he => hc (he ▸ hb)
      rw [List.filter_cons_of_neg hc] at h
      simp only [List.idxOf_cons, cond_eq_ite, beq_iff_eq, if_neg hca, if_neg hcb]
      exact Nat.succ_lt_succ (ih h)

/-- Removing repetitions leaves the texts that are named, in the order of their first mention. -/
theorem eraseDups (given : List String) : FirstsOf given given.eraseDups := by
  refine ⟨fun t => List.mem_eraseDups, ?_⟩
  -- the rest of the list is filtered before its repetitions are removed
  induction hn : given.length using Nat.strongRecOn generalizing given with
  | ind n ih =>
    cases given with
    | nil => exact List.Pairwise.nil
    | cons a rest =>
      have hrest := ih _ (by rw [← hn]; exact Nat.lt_succ_of_le (List.length_filter_le _ _)) (rest.filter fun b => !b == a) rfl
      have hkept : ∀ b ∈ (rest.filter fun b => !b == a).eraseDups, (!b == a) = true := by
        intro b hb
        exact (List.mem_filter.mp (List.mem_eraseDups.mp hb)).2
      have hlater : ∀ b, (!b == a) = true → (a :: rest).idxOf b = rest.idxOf b + 1 := by
        intro b hb
        have hne : (a == b) = false := by
          rw [BEq.comm]
          exact Bool.not_eq_true' _ ▸ hb
        rw [List.idxOf_cons, hne]
        rfl
      rw [List.eraseDups_cons, List.pairwise_cons]
      constructor
      · intro b hb
        rw [List.idxOf_cons_self, hlater b (hkept b hb)]
        exact Nat.succ_pos _
      · refine hrest.imp_of_mem fun {b c} hb hc hbc => ?_
        rw [hlater b (hkept b hb), hlater c (hkept c hc)]
        exact Nat.succ_lt_succ (idxOf_lt_of_filter (hkept b hb) (hkept c hc) hbc)

variable {given texts : List String} {text : String}

/-- A text that was named before changes nothing when it is named again. -/
theorem concat_of_mem (h : FirstsOf given texts) (hm : text ∈ given) : FirstsOf (given ++ [text]) texts where
  same t := by
    rw [h.same, List.mem_append, List.mem_singleton]
    exact ⟨.inl, fun ht => ht.elim id fun ht => ht ▸ hm⟩
  ordered := h.ordered.imp_of_mem fun {a b} ha hb hlt => by
    rwa [List.idxOf_append_of_mem ((h.same a).mp ha), List.idxOf_append_of_mem ((h.same b).mp hb)]

/-- A text that is named for the first time comes last. -/
theorem concat_of_not_mem (h : FirstsOf given texts) (hm : text ∉ given) : FirstsOf (given ++ [text]) (texts ++ [text]) where
  same t := by
    rw [List.mem_append, List.mem_append, h.same]
  ordered := by
    refine List.pairwise_append.mpr ⟨?_, List.pairwise_singleton _ _, fun a ha b hb => ?_⟩
    · refine h.ordered.imp_of_mem fun {a b} ha hb hlt => ?_
      rwa [List.idxOf_append_of_mem ((h.same a).mp ha), List.idxOf_append_of_mem ((h.same b).mp hb)]
    · obtain rfl := List.mem_singleton.mp hb
      rw [List.idxOf_append_of_mem ((h.same a).mp ha), List.idxOf_append_of_notMem hm]
      exact Nat.lt_of_lt_of_le (List.idxOf_lt_length_of_mem ((h.same a).mp ha)) (Nat.le_add_right _ _)

end FirstsOf

namespace Call

/-! ## The grammar -/

/-- The fields of a call, in the order in which a list gives them. -/
def fieldNames : List String := ["target", "message", "title", "recipients", "data"]

/-- The texts that a value names: one text, or a list of texts. -/
inductive Names : Value → List String → Prop
  | one (s : String) : Names (.text s) [s]
  | many (texts : List String) : Names (.ofTexts texts) texts

/-- What a field gives that may be left out: nothing if it is absent or null. -/
inductive Given {α : Type} (P : Value → α → Prop) : Option Value → Option α → Prop
  | absent : Given P none none
  | null : Given P (some .null) none
  | value {v : Value} {a : α} (h : P v a) : Given P (some v) (some a)

/-- The fields that a call has, and what they give: the targets that are named, and the message. -/
structure Fields (field? : String → Option Value) (given : List String) (m : Message) : Prop where
  target : ∃ v, field? "target" = some v ∧ Names v given
  message : Given (fun v s => v = .text s) (field? "message") m.message
  title : Given (fun v s => v = .text s) (field? "title") m.title
  recipients : Given Names (field? "recipients") m.recipients
  data : Given (fun v fields => v = .object fields) (field? "data") m.data

/-- How a call is written that names some targets and has a message. -/
inductive Written : Value → List String → Message → Prop
  | object {fields : List (String × Value)} {given : List String} {m : Message} (known : ∀ p ∈ fields, p.1 ∈ fieldNames)
      (h : Fields (fun name => Keyed.get? name fields) given m) : Written (.object fields) given m
  | list {items : List Value} {given : List String} {m : Message} (whole : items.length = 5)
      (h : Fields (fun name => Keyed.get? name (fieldNames.zip items)) given m) : Written (.list items) given m

/-- A call that is written, names a target, and no blank one. -/
structure Accepted (v : Value) (given : List String) (m : Message) : Prop where
  written : Written v given m
  named : given ≠ []
  visible : ∀ t ∈ given, Text.trim t ≠ ""

/-! ## Reading fields -/

theorem texts?_eq_some_iff {items : List Value} {texts : List String} : texts? items = some texts ↔ items = texts.map .text := by
  induction items generalizing texts with
  | nil => cases texts <;> simp [texts?]
  | cons v rest ih =>
    cases v with
    | text s =>
      rw [texts?, Option.map_eq_some_iff]
      constructor
      · rintro ⟨more, hmore, rfl⟩
        rw [ih.mp hmore, List.map_cons]
      · intro h
        cases texts with
        | nil => cases h
        | cons t more =>
          obtain ⟨hs, hmore⟩ := List.cons.inj h
          exact ⟨more, ih.mpr hmore, by rw [Value.text.inj hs]⟩
    | _ => cases texts <;> simp [texts?]

theorem oneOrMany_eq_ok_iff {v : Value} {texts : List String} : oneOrMany v = .ok texts ↔ Names v texts := by
  constructor
  · intro h
    cases v with
    | text s =>
      obtain rfl := Except.ok.inj h
      exact .one s
    | list items =>
      rw [oneOrMany] at h
      split at h
      · next hitems =>
        obtain rfl := Except.ok.inj h
        rw [texts?_eq_some_iff.mp hitems]
        exact .many _
      · cases h
    | _ => cases h
  · rintro (s | texts)
    · rfl
    · rw [Value.ofTexts, oneOrMany, texts?_eq_some_iff.mpr rfl]

theorem asText_eq_ok_iff {v : Value} {s : String} : v.asText = .ok s ↔ v = .text s := by
  cases v <;> simp [Value.asText]

theorem asFields_eq_ok_iff {v : Value} {fields : List (String × Value)} : v.asFields = .ok fields ↔ v = .object fields := by
  cases v <;> simp [Value.asFields]

/-- A field that is not absent is read as null, or as what it holds. -/
theorem asOption_eq_ok_iff {α : Type} {read : Value → Reading α} {P : Value → α → Prop} (hread : ∀ v a, read v = .ok a ↔ P v a)
    (hnull : ∀ a, ¬P .null a) {v : Value} {o : Option α} : v.asOption read = .ok o ↔ Given P (some v) o := by
  by_cases hv : v = .null
  · subst hv
    constructor
    · intro h
      obtain rfl := Except.ok.inj h
      exact .null
    · rintro (_ | _ | h)
      · rfl
      · exact absurd h (hnull _)
  · have hsome : v.asOption read = (read v).map some := by cases v <;> first | rfl | exact absurd rfl hv
    rw [hsome]
    constructor
    · intro h
      cases hr : read v with
      | error e =>
        rw [hr] at h
        cases h
      | ok a =>
        rw [hr] at h
        obtain rfl := Except.ok.inj h
        exact .value ((hread v a).mp hr)
    · rintro (_ | _ | h)
      · exact absurd rfl hv
      · rw [(hread v _).mpr h]
        rfl

/-! ## Reading drafts -/

/-- What a field sets: what it gives if it is there, and what was there before if it is not. -/
def Sets {α : Type} (P : Value → α → Prop) : Option Value → α → α → Prop
  | none, before, after => after = before
  | some v, _, after => P v after

@[simp] theorem sets_none {α : Type} {P : Value → α → Prop} {before after : α} : Sets P none before after ↔ after = before :=
  Iff.rfl

@[simp] theorem sets_some {α : Type} {P : Value → α → Prop} {v : Value} {before after : α} :
    Sets P (some v) before after ↔ P v after :=
  Iff.rfl

/-- What the fields of a call set in a draft. -/
def Drafts (field? : String → Option Value) (before after : Draft) : Prop :=
  Sets (fun v o => ∃ given, Names v given ∧ o = some given) (field? "target") before.targets after.targets ∧
    Sets (fun v => Given (fun v s => v = .text s) (some v)) (field? "message") before.message.message after.message.message ∧
    Sets (fun v => Given (fun v s => v = .text s) (some v)) (field? "title") before.message.title after.message.title ∧
    Sets (fun v => Given Names (some v)) (field? "recipients") before.message.recipients after.message.recipients ∧
    Sets (fun v => Given (fun v fields => v = .object fields) (some v)) (field? "data") before.message.data after.message.data

theorem asOptionText_eq_ok_iff {v : Value} {o : Option String} :
    v.asOption Value.asText = .ok o ↔ Given (fun v s => v = .text s) (some v) o :=
  asOption_eq_ok_iff (fun _ _ => asText_eq_ok_iff) fun _ h => by cases h

theorem asOptionNames_eq_ok_iff {v : Value} {o : Option (List String)} : v.asOption oneOrMany = .ok o ↔ Given Names (some v) o :=
  asOption_eq_ok_iff (fun _ _ => oneOrMany_eq_ok_iff) fun _ h => by cases h

theorem asOptionFields_eq_ok_iff {v : Value} {o : Option (List (String × Value))} :
    v.asOption Value.asFields = .ok o ↔ Given (fun v fields => v = .object fields) (some v) o :=
  asOption_eq_ok_iff (fun _ _ => asFields_eq_ok_iff) fun _ h => by cases h

/-- Setting known fields, each once, sets what they give and nothing else. -/
theorem setAll_eq_ok_iff {fields : List (String × Value)} (hknown : ∀ p ∈ fields, p.1 ∈ fieldNames)
    (hdistinct : fields.Pairwise fun a b => a.1 ≠ b.1) {before after : Draft} :
    reader.setAll before fields = .ok after ↔ Drafts (fun name => Keyed.get? name fields) before after := by
  induction fields generalizing before with
  | nil =>
    obtain ⟨targets, ⟨message, title, recipients, data⟩⟩ := before
    obtain ⟨targets', ⟨message', title', recipients', data'⟩⟩ := after
    simp [RecordReader.setAll_nil_eq_ok_iff, Drafts, Keyed.get?, eq_comm]
  | cons p rest ih =>
    obtain ⟨k, v⟩ := p
    obtain ⟨hne, hrest⟩ := List.pairwise_cons.mp hdistinct
    have hnone : Keyed.get? k rest = none := Keyed.get?_eq_none_iff.mpr fun q hq he => hne q hq he.symm
    obtain ⟨hk, hall⟩ := List.forall_mem_cons.mp hknown
    simp only [RecordReader.setAll_cons_eq_ok_iff, ih hall hrest, Drafts]
    simp only [fieldNames, List.mem_cons, List.not_mem_nil, or_false] at hk
    -- the field does not come again, so it is its value that counts
    rcases hk with rfl | rfl | rfl | rfl | rfl
    · simp [reader, Reading.map_eq_ok_iff, oneOrMany_eq_ok_iff, Keyed.get?, hnone]
      grind
    · simp [reader, Reading.map_eq_ok_iff, asOptionText_eq_ok_iff, Keyed.get?, hnone]
      grind
    · simp [reader, Reading.map_eq_ok_iff, asOptionText_eq_ok_iff, Keyed.get?, hnone]
      grind
    · simp [reader, Reading.map_eq_ok_iff, asOptionNames_eq_ok_iff, Keyed.get?, hnone]
      grind
    · simp [reader, Reading.map_eq_ok_iff, asOptionFields_eq_ok_iff, Keyed.get?, hnone]
      grind

/-- What may be left out starts as nothing. -/
theorem sets_given_iff {α : Type} {P : Value → α → Prop} {o : Option Value} {a : Option α} :
    Sets (fun v => Given P (some v)) o none a ↔ Given P o a := by
  cases o with
  | some v => exact Iff.rfl
  | none =>
    constructor
    · rintro rfl
      exact .absent
    · rintro ⟨⟩
      rfl

/-- A target starts as nothing and has to be there. -/
theorem sets_names_iff {o : Option Value} {given : List String} :
    Sets (fun v o => ∃ given, Names v given ∧ o = some given) o none (some given) ↔ ∃ v, o = some v ∧ Names v given := by
  cases o with
  | none => exact ⟨nofun, fun ⟨_, h, _⟩ => nomatch h⟩
  | some v =>
    constructor
    · rintro ⟨given', hnames, heq⟩
      exact ⟨v, rfl, Option.some.inj heq ▸ hnames⟩
    · rintro ⟨_, hv, hnames⟩
      exact ⟨given, Option.some.inj hv ▸ hnames, rfl⟩

/-- A draft that has a target holds the fields of a call. -/
theorem drafts_iff_fields {field? : String → Option Value} {given : List String} {m : Message} :
    Drafts field? {} ⟨some given, m⟩ ↔ Fields field? given m := by
  rw [Drafts, sets_names_iff, sets_given_iff, sets_given_iff, sets_given_iff, sets_given_iff]
  exact ⟨fun ⟨h1, h2, h3, h4, h5⟩ => ⟨h1, h2, h3, h4, h5⟩, fun ⟨h1, h2, h3, h4, h5⟩ => ⟨h1, h2, h3, h4, h5⟩⟩

/-- The drafts that are read of a value are what is written there. -/
theorem read_eq_ok_iff {v : Value} (hv : v.IsDocument) {given : List String} {m : Message} :
    reader.read .document {} v = .ok ⟨some given, m⟩ ↔ Written v given m := by
  cases v with
  | object fields =>
    obtain ⟨hrising, hdoc⟩ := hv
    have hdistinct : fields.Pairwise fun a b => a.1 ≠ b.1 := hrising.imp Std.ne_of_lt
    rw [RecordReader.read_object_eq_ok_iff rfl hdoc]
    constructor
    · rintro ⟨hknown, hset⟩
      exact .object hknown (drafts_iff_fields.mp ((setAll_eq_ok_iff hknown hdistinct).mp hset))
    · rintro ⟨hknown, hfields⟩
      exact ⟨hknown, (setAll_eq_ok_iff hknown hdistinct).mpr (drafts_iff_fields.mpr hfields)⟩
  | list items =>
    have hknown : ∀ p ∈ fieldNames.zip items, p.1 ∈ fieldNames := fun p hp => (List.of_mem_zip hp).1
    -- the names of a whole list are those of the fields, each once
    have hdistinct (hwhole : items.length = 5) : (fieldNames.zip items).Pairwise fun a b => a.1 ≠ b.1 := by
      have hnames : ((fieldNames.zip items).map Prod.fst).Nodup := by
        rw [List.map_fst_zip (show fieldNames.length ≤ items.length from Nat.le_of_eq hwhole.symm)]
        decide
      exact List.pairwise_map.mp hnames
    rw [RecordReader.read_list_eq_ok_iff rfl hv]
    constructor
    · rintro ⟨hwhole, hset⟩
      exact .list hwhole (drafts_iff_fields.mp ((setAll_eq_ok_iff hknown (hdistinct hwhole)).mp hset))
    · rintro (_ | ⟨hwhole, hfields⟩)
      exact ⟨hwhole, (setAll_eq_ok_iff hknown (hdistinct hwhole)).mpr (drafts_iff_fields.mpr hfields)⟩
  | _ =>
    constructor
    · intro h
      cases h
    · rintro ⟨⟩

/-- The fields of a call are read where they are written. -/
theorem readFields_eq_ok_iff {v : Value} (hv : v.IsDocument) {given : List String} {m : Message} :
    readFields v = .ok (given, m) ↔ Written v given m := by
  rw [← read_eq_ok_iff hv, readFields, Reading.bind_eq_ok_iff]
  constructor
  · rintro ⟨⟨targets, message⟩, hread, h⟩
    cases targets with
    | none => cases h
    | some targets =>
      obtain ⟨rfl, rfl⟩ := Prod.mk.inj (Except.ok.inj h)
      exact hread
  · intro hread
    exact ⟨_, hread, rfl⟩

/-! ## Reading calls -/

/-- A call whose fields are read is taken if its targets name something and nothing blank. -/
theorem ofValue_of_readFields {v : Value} {given : List String} {m : Message} (hread : readFields v = .ok (given, m))
    (hnamed : given ≠ []) (hvisible : ∀ t ∈ given, Text.trim t ≠ "") : ofValue v = .ok ⟨given.eraseDups, m⟩ := by
  have hdistinct : given.eraseDups ≠ [] := by
    obtain ⟨t, ht⟩ := List.exists_mem_of_ne_nil given hnamed
    exact List.ne_nil_of_mem (List.mem_eraseDups.mpr ht)
  have hnone : given.eraseDups.find? Text.isBlank = none := by
    rw [List.find?_eq_none]
    intro t ht hblank
    exact hvisible t (List.mem_eraseDups.mp ht) (Text.isBlank_iff_trim.mp hblank)
  rw [ofValue, hread]
  split
  · next heq => cases heq
  · next heq =>
    obtain ⟨rfl, rfl⟩ := Prod.mk.inj (Except.ok.inj heq)
    split
    · next hnil => exact absurd hnil hdistinct
    · rw [hnone]

/-- A call is taken only if its targets name something and nothing blank. -/
theorem visible_of_ofValue {v : Value} {call : Call} (h : ofValue v = .ok call) :
    call.targets ≠ [] ∧ ∀ t ∈ call.targets, Text.trim t ≠ "" := by
  rw [ofValue] at h
  split at h
  · cases h
  · split at h
    · cases h
    · next hne =>
      split at h
      · cases h
      · next hnone =>
        obtain rfl := Except.ok.inj h
        exact ⟨hne, fun t ht htrim => List.find?_eq_none.mp hnone t ht (Text.isBlank_iff_trim.mpr htrim)⟩

/-- A call that is accepted is read with each target once and with the message it has. -/
theorem Accepted.ofValue_eq {v : Value} (hv : v.IsDocument) {given : List String} {m : Message} (h : Accepted v given m) :
    ofValue v = .ok ⟨given.eraseDups, m⟩ :=
  ofValue_of_readFields ((readFields_eq_ok_iff hv).mpr h.written) h.named h.visible

/-- What is read was accepted. -/
theorem accepted_of_ofValue {v : Value} (hv : v.IsDocument) {call : Call} (h : ofValue v = .ok call) :
    ∃ given, Accepted v given call.message ∧ call.targets = given.eraseDups := by
  obtain ⟨given, hread, htargets⟩ := ofValue_eq_ok h
  obtain ⟨hnamed, hvisible⟩ := visible_of_ofValue h
  refine ⟨given, ⟨(readFields_eq_ok_iff hv).mp hread, ?_, fun t ht => hvisible t ?_⟩, htargets⟩
  · rintro rfl
    exact hnamed htargets
  · rw [htargets]
    exact List.mem_eraseDups.mpr ht

/-- Reading a document accepts exactly the calls: those objects and lists that are written as one, name a target and no blank one. What
is read has the message as it is written and the targets as they are written, each once in the order of first mention. Everything else
is invalid. -/
theorem reads_exactly_its_grammar {v : Value} (hv : v.IsDocument) :
    ((∃ call, ofValue v = .ok call) ↔ ∃ given m, Accepted v given m) ∧
      (∀ given m, Accepted v given m → ∃ targets, ofValue v = .ok ⟨targets, m⟩ ∧ FirstsOf given targets) ∧
      ((¬∃ given m, Accepted v given m) → ∃ reason, ofValue v = .error (.validation reason)) := by
  have haccepted : (∃ call, ofValue v = .ok call) ↔ ∃ given m, Accepted v given m := by
    constructor
    · rintro ⟨call, h⟩
      obtain ⟨given, hgiven, -⟩ := accepted_of_ofValue hv h
      exact ⟨given, call.message, hgiven⟩
    · rintro ⟨given, m, h⟩
      exact ⟨_, h.ofValue_eq hv⟩
  refine ⟨haccepted, fun given m h => ⟨_, h.ofValue_eq hv, FirstsOf.eraseDups given⟩, ?_⟩
  intro hnot
  cases hc : ofValue v with
  | ok call => exact absurd (haccepted.mp ⟨call, hc⟩) hnot
  | error e =>
    obtain ⟨reason, rfl⟩ := ofValue_eq_error hc
    exact ⟨reason, rfl⟩

/-- A target that is named twice is read once, blanks around it stay, and an empty list of recipients is not the absence of one. -/
theorem repeated_target_is_read_once :
    ofValue (.object [("data", .null), ("message", .text "m"), ("recipients", .list []), ("target", .ofTexts ["a ", "b", "a "])]) =
      .ok ⟨["a ", "b"], { message := some "m", recipients := some [] }⟩ := by
  let v : Value :=
    .object [("data", .null), ("message", .text "m"), ("recipients", .list []), ("target", .ofTexts ["a ", "b", "a "])]
  have hrising : Keyed.Rising
      [("data", Value.null), ("message", .text "m"), ("recipients", .list []), ("target", .ofTexts ["a ", "b", "a "])] := by
    unfold Keyed.Rising
    decide
  have hdoc : v.IsDocument := ⟨hrising, trivial, trivial, trivial, ⟨trivial, trivial, trivial, trivial⟩, trivial⟩
  have hfields : Fields (fun name => v.field? name) ["a ", "b", "a "] { message := some "m", recipients := some [] } :=
    ⟨⟨_, rfl, .many _⟩, .value rfl, .absent, .value (.many []), .null⟩
  have haccepted : Accepted v ["a ", "b", "a "] { message := some "m", recipients := some [] } :=
    ⟨.object (by decide) hfields, by decide, by decide⟩
  obtain ⟨targets, hread, -⟩ := (reads_exactly_its_grammar hdoc).2.1 _ _ haccepted
  have htargets : (ofValue v).toOption.map Call.targets = some ["a ", "b"] := by decide
  rw [hread] at htargets
  obtain rfl : targets = ["a ", "b"] := Option.some.inj htargets
  exact hread

end Call

end Herald
