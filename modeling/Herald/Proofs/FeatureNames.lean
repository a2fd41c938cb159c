import Herald.Feature
import Herald.Proofs.RecordReading
import Mathlib.Data.List.Basic

/-!
# Sets of features as lists of names

A text names a feature if it is its name, in any letter case and with white space around it (`Feature.Names`). A list of texts is read as
the set of the features that its texts name, if each names one (`FeatureSet.ofNames_eq_ok_iff`), so neither the order of the list nor what it
repeats is of account, and two lists one after the other are read as the union (`FeatureSet.name_lists_are_read_as_sets`). A set is written
as the names of its features, and so it is read back (`FeatureSet.ofValue_toValue`).
-/

namespace Herald

namespace Feature

/-! ## Names of features -/

/-- Whether a text names a feature. -/
def Names (text : String) (f : Feature) : Prop :=
  Text.lower (Text.trim text) = f.name

/-- Whether a text names one of the features. -/
def Known (text : String) : Prop :=
  Text.lower (Text.trim text) ∈ ["message", "title", "recipients", "data"]

instance (text : String) : Decidable (Known text) :=
  inferInstanceAs (Decidable (_ ∈ _))

section Names

variable {text : String} {f g : Feature}

/-- The name of a feature is as it is when it is trimmed and made small. -/
theorem names_name_iff : Names f.name g ↔ f = g := by
  cases f <;> cases g <;> (unfold Names; decide)

/-- A text stands for the feature that it names. -/
theorem ofName?_eq_some_iff : ofName? text = some f ↔ Names text f := by
  rw [ofName?, Names]
  constructor
  · intro h
    have hfound := List.find?_some h
    rw [beq_iff_eq] at hfound
    exact hfound.symm
  · intro h
    rw [h]
    cases f <;> decide

/-- The texts that name a feature. -/
theorem known_iff : Known text ↔ ∃ f, Names text f := by
  have hall : ["message", "title", "recipients", "data"] = all.map name := rfl
  rw [Known, hall, List.mem_map]
  constructor
  · rintro ⟨f, -, hf⟩
    exact ⟨f, hf.symm⟩
  · rintro ⟨f, hf⟩
    exact ⟨f, by cases f <;> decide, hf.symm⟩

/-- A text that names no feature stands for none. -/
theorem ofName?_eq_none_iff : ofName? text = none ↔ ¬Known text := by
  rw [known_iff, Option.eq_none_iff_forall_ne_some, not_exists]
  exact forall_congr' fun f => not_congr ofName?_eq_some_iff

end Names

end Feature

namespace FeatureSet

/-! ## Features of a set -/

/-- Sets with the same features are the same. -/
theorem ext_has {s t : FeatureSet} (h : ∀ f, s.has f = t.has f) : s = t := by
  obtain ⟨message, title, recipients, data⟩ := s
  obtain rfl : message = t.message := h .message
  obtain rfl : title = t.title := h .title
  obtain rfl : recipients = t.recipients := h .recipients
  obtain rfl : data = t.data := h .data
  rfl

theorem has_empty (f : Feature) : empty.has f = false := by
  cases f <;> rfl

theorem has_union (s t : FeatureSet) (f : Feature) : (s.union t).has f = (s.has f || t.has f) := by
  cases f <;> rfl

theorem has_only (f g : Feature) : (only f).has g = true ↔ g = f := by
  cases f <;> cases g <;> decide

/-- A set contains the set of one feature if it has the feature. -/
theorem contains_only (s : FeatureSet) (f : Feature) : s.contains (only f) = s.has f := by
  obtain ⟨message, title, recipients, data⟩ := s
  revert message title recipients data
  cases f <;> decide

/-- A set has a feature if its number has the bit of the feature. -/
theorem has_iff_bits (s : FeatureSet) (f : Feature) : s.has f = true ↔ s.bits &&& f.bit = f.bit := by
  obtain ⟨message, title, recipients, data⟩ := s
  revert message title recipients data
  cases f <;> decide

/-- The number of a union has the bits of either set. -/
theorem bits_union (s t : FeatureSet) : (s.union t).bits = s.bits ||| t.bits := by
  obtain ⟨message, title, recipients, data⟩ := s
  obtain ⟨message', title', recipients', data'⟩ := t
  revert message title recipients data message' title' recipients' data'
  decide

/-- The list of a set holds its features. -/
theorem mem_toList {s : FeatureSet} {f : Feature} : f ∈ s.toList ↔ s.has f = true := by
  have hall : f ∈ Feature.all := by
    cases f <;> decide
  rw [toList, List.mem_filter]
  exact and_iff_right hall

/-- The names of a set are taken from the names of all features. -/
theorem names_of_has {s : FeatureSet} {keep : String → Bool} (h : ∀ f : Feature, s.has f = keep f.name) :
    s.names = ["message", "title", "recipients", "data"].filter keep := by
  have hall : ["message", "title", "recipients", "data"] = Feature.all.map Feature.name := rfl
  have hkeep : keep ∘ Feature.name = s.has := funext fun f => (h f).symm
  rw [hall, List.filter_map, hkeep]
  rfl

/-! ## Reading names -/

/-- Of some texts the first that names no feature is told, or they are read as the set of the features that they name. -/
theorem ofNames_cases (texts : List String) :
    (∃ before text behind, texts = before ++ text :: behind ∧ (∀ b ∈ before, Feature.Known b) ∧ ¬Feature.Known text ∧
      ofNames texts = .error text) ∨
    (∀ text ∈ texts, Feature.Known text) ∧
      ∃ s, ofNames texts = .ok s ∧ ∀ f, s.has f = true ↔ ∃ text ∈ texts, Feature.Names text f := by
  induction texts with
  | nil =>
    refine .inr ⟨fun text ht => absurd ht List.not_mem_nil, empty, rfl, fun f => ?_⟩
    rw [has_empty]
    simp
  | cons text rest ih =>
    rw [ofNames]
    cases hname : Feature.ofName? text with
    | none => exact .inl ⟨[], text, rest, rfl, fun b hb => absurd hb List.not_mem_nil, Feature.ofName?_eq_none_iff.mp hname, rfl⟩
    | some f =>
      have hnames : Feature.Names text f := Feature.ofName?_eq_some_iff.mp hname
      have hknown : Feature.Known text := Feature.known_iff.mpr ⟨f, hnames⟩
      rcases ih with ⟨before, bad, behind, rfl, hbefore, hbad, hrest⟩ | ⟨hall, s, hrest, hmem⟩
      · refine .inl ⟨text :: before, bad, behind, rfl, List.forall_mem_cons.mpr ⟨hknown, hbefore⟩, hbad, ?_⟩
        rw [hrest]
        rfl
      · refine .inr ⟨List.forall_mem_cons.mpr ⟨hknown, hall⟩, (only f).union s, by rw [hrest]; rfl, fun g => ?_⟩
        -- the first text names just the one feature
        have hfirst : g = f ↔ Feature.Names text g := by
          rw [← Feature.ofName?_eq_some_iff, hname, Option.some.injEq, eq_comm]
        rw [has_union, Bool.or_eq_true, has_only, hmem, hfirst]
        exact (List.exists_mem_cons_iff (Feature.Names · g) text rest).symm

/-- The set that some texts are read as is the one of the features that they name, each of them one. -/
theorem ofNames_eq_ok_iff {texts : List String} {s : FeatureSet} :
    ofNames texts = .ok s ↔
      (∀ text ∈ texts, Feature.Known text) ∧ ∀ f, s.has f = true ↔ ∃ text ∈ texts, Feature.Names text f := by
  rcases ofNames_cases texts with ⟨before, bad, behind, rfl, -, hbad, hread⟩ | ⟨hall, t, hread, hmem⟩
  · rw [hread]
    refine ⟨nofun, fun h => absurd (h.1 bad ?_) hbad⟩
    exact List.mem_append_right before List.mem_cons_self
  · rw [hread]
    constructor
    · intro h
      obtain rfl := Except.ok.inj h
      exact ⟨hall, hmem⟩
    · rintro ⟨-, hs⟩
      exact congrArg _ (ext_has fun f => Bool.eq_iff_iff.mpr ((hmem f).trans (hs f).symm))

/-- The names of a set are read as that set. -/
theorem ofNames_names (s : FeatureSet) : ofNames s.names = .ok s := by
  have hmem {text : String} : text ∈ s.names ↔ ∃ f, s.has f = true ∧ f.name = text := by
    rw [names, List.mem_map]
    exact exists_congr fun f => and_congr_left' mem_toList
  rw [ofNames_eq_ok_iff]
  constructor
  · intro text ht
    obtain ⟨f, -, rfl⟩ := hmem.mp ht
    exact Feature.known_iff.mpr ⟨f, Feature.names_name_iff.mpr rfl⟩
  · intro f
    constructor
    · intro hf
      exact ⟨f.name, hmem.mpr ⟨f, hf, rfl⟩, Feature.names_name_iff.mpr rfl⟩
    · rintro ⟨text, ht, hnames⟩
      obtain ⟨g, hg, rfl⟩ := hmem.mp ht
      exact Feature.names_name_iff.mp hnames ▸ hg

/-! ## Reading values -/

/-- A list of texts is read as the set that they are read as, or refused for the text that names no feature. -/
theorem ofValue_ofTexts (texts : List String) :
    ofValue (.ofTexts texts) =
      match ofNames texts with
      | .ok s => .ok s
      | .error text => .error ⟨.custom ("unknown notify feature: " ++ text), []⟩ := by
  rw [ofValue, Value.asList_ofTexts]
  rfl

theorem ofValue_ofTexts_eq_ok_iff {texts : List String} {s : FeatureSet} : ofValue (.ofTexts texts) = .ok s ↔ ofNames texts = .ok s := by
  rw [ofValue_ofTexts]
  cases ofNames texts with
  | ok t => exact ⟨fun h => congrArg _ (Except.ok.inj h), fun h => congrArg _ (Except.ok.inj h)⟩
  | error text => exact ⟨nofun, nofun⟩

/-- A set that is written is read back. -/
theorem ofValue_toValue (s : FeatureSet) : ofValue s.toValue = .ok s :=
  ofValue_ofTexts_eq_ok_iff.mpr s.ofNames_names

section Read

variable {texts others : List String} {s t : FeatureSet}

/-- Lists of the same texts are read as the same set. -/
theorem ofNames_congr (hsame : ∀ text, text ∈ others ↔ text ∈ texts) (hs : ofNames texts = .ok s) : ofNames others = .ok s := by
  obtain ⟨hknown, hmem⟩ := ofNames_eq_ok_iff.mp hs
  refine ofNames_eq_ok_iff.mpr ⟨fun text ht => hknown text ((hsame text).mp ht), fun f => ?_⟩
  rw [hmem]
  exact exists_congr fun text => and_congr_left' (hsame text).symm

/-- A list behind another is read as the union of the sets that the two are read as. -/
theorem ofNames_append (hs : ofNames texts = .ok s) (ht : ofNames others = .ok t) : ofNames (texts ++ others) = .ok (s.union t) := by
  obtain ⟨hknown, hmem⟩ := ofNames_eq_ok_iff.mp hs
  obtain ⟨hknown', hmem'⟩ := ofNames_eq_ok_iff.mp ht
  refine ofNames_eq_ok_iff.mpr ⟨List.forall_mem_append.mpr ⟨hknown, hknown'⟩, fun f => ?_⟩
  rw [has_union, Bool.or_eq_true, hmem, hmem']
  simp only [List.mem_append, or_and_right, exists_or]

/-- What some texts are read as is written as those of the four names that one of the texts is. -/
theorem names_of_ofNames (hs : ofNames texts = .ok s) :
    s.names = ["message", "title", "recipients", "data"].filter fun name =>
      texts.any fun text => Text.lower (Text.trim text) == name := by
  refine names_of_has fun f => Bool.eq_iff_iff.mpr ?_
  rw [(ofNames_eq_ok_iff.mp hs).2, List.any_eq_true]
  simp only [Feature.Names, beq_iff_eq]

end Read

/-- A list of texts is read as a set of features if each of them, trimmed and in small letters, is one of the four names; if not, the first
that is none is told as it was given. The set, and its number bit by bit, has the features that are named and no others. So it is the same
for every list of the same texts, in any order and with any repeats, and for a list behind another it is the union, whose number has the
bits of both. It is written as the names that are named, in the order of their declaration and each once, and read back from these. -/
theorem name_lists_are_read_as_sets (texts : List String) :
    ((∃ s, ofValue (.ofTexts texts) = .ok s) ↔ ∀ text ∈ texts, Feature.Known text) ∧
      ((¬∀ text ∈ texts, Feature.Known text) → ∃ before text behind, texts = before ++ text :: behind ∧
        (∀ b ∈ before, Feature.Known b) ∧ ¬Feature.Known text ∧
        ofValue (.ofTexts texts) = .error ⟨.custom ("unknown notify feature: " ++ text), []⟩) ∧
      ∀ s, ofValue (.ofTexts texts) = .ok s →
        (∀ f, (s.contains (only f) = true ↔ ∃ text ∈ texts, Feature.Names text f) ∧
          (s.contains (only f) = true ↔ s.bits &&& f.bit = f.bit)) ∧
        (∀ others, (∀ text, text ∈ others ↔ text ∈ texts) → ofValue (.ofTexts others) = .ok s) ∧
        (∀ others t, ofValue (.ofTexts others) = .ok t →
          ofValue (.ofTexts (texts ++ others)) = .ok (s.union t) ∧ (s.union t).bits = s.bits ||| t.bits) ∧
        s.toValue = .ofTexts (["message", "title", "recipients", "data"].filter fun name =>
          texts.any fun text => Text.lower (Text.trim text) == name) ∧
        ofValue s.toValue = .ok s := by
  simp only [ofValue_ofTexts_eq_ok_iff]
  refine ⟨?_, ?_, fun s hs => ⟨fun f => ?_, fun others hsame => ofNames_congr hsame hs, fun others t ht => ?_, ?_, s.ofValue_toValue⟩⟩
  · constructor
    · rintro ⟨s, hs⟩
      exact (ofNames_eq_ok_iff.mp hs).1
    · intro hknown
      rcases ofNames_cases texts with ⟨before, bad, behind, rfl, -, hbad, -⟩ | ⟨-, s, hs, -⟩
      · exact absurd (hknown bad (List.mem_append_right before List.mem_cons_self)) hbad
      · exact ⟨s, hs⟩
  · intro hunknown
    rcases ofNames_cases texts with ⟨before, bad, behind, hsplit, hbefore, hbad, hread⟩ | ⟨hknown, -⟩
    · refine ⟨before, bad, behind, hsplit, hbefore, hbad, ?_⟩
      rw [ofValue_ofTexts, hread]
    · exact absurd hknown hunknown
  · rw [contains_only]
    exact ⟨(ofNames_eq_ok_iff.mp hs).2 f, s.has_iff_bits f⟩
  · exact ⟨ofNames_append hs ht, s.bits_union t⟩
  · rw [toValue, names_of_ofNames hs]

/-- Two features are named thrice, in another order and in other letters than they are written back, and a name that is none is told with
its blank, before the next one that is none. -/
theorem scattered_names_are_read_as_a_set :
    let s : FeatureSet := { title := true, data := true }
    ofValue (.ofTexts ["DATA\u00a0", " Title", "data"]) = .ok s ∧ ofValue (.ofTexts [" Title", "data", "DATA\u00a0", " Title"]) = .ok s ∧
      ofValue (.ofTexts (["DATA\u00a0", " Title", "data"] ++ ["Message", "TITLE"])) = .ok { s with message := true } ∧
      s.toValue = .ofTexts ["title", "data"] ∧
      ofValue (.ofTexts ["data", "Sound ", "", "title"]) = .error ⟨.custom ("unknown notify feature: " ++ "Sound "), []⟩ := by
  intro s
  have hread : ofValue (.ofTexts ["DATA\u00a0", " Title", "data"]) = .ok s := ofValue_ofTexts_eq_ok_iff.mpr (by decide)
  have hmore : ofValue (.ofTexts ["Message", "TITLE"]) = .ok { message := true, title := true } :=
    ofValue_ofTexts_eq_ok_iff.mpr (by decide)
  obtain ⟨-, -, hset⟩ := name_lists_are_read_as_sets ["DATA\u00a0", " Title", "data"]
  obtain ⟨-, hsame, hbehind, hwritten, -⟩ := hset s hread
  obtain ⟨-, hrefused, -⟩ := name_lists_are_read_as_sets ["data", "Sound ", "", "title"]
  obtain ⟨before, text, behind, hsplit, hbefore, hunknown, herror⟩ := hrefused (by decide)
  obtain rfl : text = "Sound " := by
    rcases before with _ | ⟨first, _ | ⟨second, before⟩⟩
    · obtain ⟨rfl, -⟩ := List.cons.inj hsplit
      exact absurd (by decide) hunknown
    · exact (List.cons.inj (List.cons.inj hsplit).2).1.symm
    · obtain ⟨rfl, -⟩ := List.cons.inj (List.cons.inj hsplit).2
      exact absurd (hbefore "Sound " (by simp)) (by decide)
  refine ⟨hread, hsame _ ?_, (hbehind _ _ hmore).1, ?_, herror⟩
  · intro text
    simp only [List.mem_cons, List.not_mem_nil, or_false]
    tauto
  · rw [hwritten]
    exact congrArg Value.ofTexts (by decide)

end FeatureSet

end Herald
