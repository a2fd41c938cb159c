import Herald.Proofs.Assembly
import Herald.Proofs.DirectCall
import Herald.Proofs.Slugs
import Herald.Proofs.Trimming

/-!
# What is configured can be called

The identity of an entry is a text that it gives, without the blanks around it, or a slug. Either is trimmed and not empty
(`TargetConfig.isTrimmed_of_identity`), and that is more than a call asks of its targets, so that any identities can be called together
(`TargetConfig.identities_can_be_called`), while a call without any target is refused.
-/

namespace Herald

namespace Text

/-- No character of a slug is white space. -/
theorem isSpace_of_isSmall {c : Char} (h : IsSmall c ∨ c = '_') : isSpace c = false := by
  have hrange : (97 ≤ c.toNat ∧ c.toNat ≤ 122) ∨ (48 ≤ c.toNat ∧ c.toNat ≤ 57) ∨ c.toNat = 95 := by
    rcases h with (h | h) | rfl
    · exact .inl h
    · exact .inr (.inl h)
    · exact .inr (.inr rfl)
  exact isSpace_of_lt (by omega) (by omega)

/-- A slug is trimmed. -/
theorem isTrimmed_slug (name : String) : IsTrimmed (slug name) :=
  isTrimmed_of_forall fun c hc => isSpace_of_isSmall ((isSlug_slug name).chars c hc)

end Text

namespace TargetConfig

/-- Whether a text is the identity of an entry. -/
def IsIdentity (t : String) : Prop :=
  ∃ c : TargetConfig, c.identity = .ok t

section Identity

variable {c : TargetConfig} {t : String}

/-- The identity of an entry is what it asks for and not empty. -/
theorem identity_eq_ok_iff : c.identity = .ok t ↔ c.asked = t ∧ t ≠ "" := by
  rw [identity_eq]
  split
  · next hempty =>
    refine ⟨nofun, ?_⟩
    rintro ⟨rfl, hne⟩
    exact absurd (String.isEmpty_iff.mp hempty) hne
  · next hempty =>
    constructor
    · intro h
      obtain rfl := Except.ok.inj h
      exact ⟨rfl, mt String.isEmpty_iff.mpr hempty⟩
    · rintro ⟨rfl, -⟩
      rfl

/-- What an entry asks for is trimmed, whether it gives it or it is made of its name. -/
theorem isTrimmed_asked (c : TargetConfig) : Text.IsTrimmed c.asked := by
  rw [asked]
  split
  · next id _ => exact Text.isTrimmed_trim id
  · exact Text.isTrimmed_slug c.name

/-- An identity is trimmed. -/
theorem isTrimmed_of_identity (h : c.identity = .ok t) : Text.IsTrimmed t :=
  (identity_eq_ok_iff.mp h).1 ▸ c.isTrimmed_asked

/-- An identity that is given as such is the identity again. -/
theorem identity_of_given (h : c.identity = .ok t) : TargetConfig.identity { c with id := some t } = .ok t := by
  rw [identity_eq_ok_iff, asked]
  exact ⟨Text.trim_eq_self_iff.mpr (isTrimmed_of_identity h), (identity_eq_ok_iff.mp h).2⟩

/-- Trimming leaves something of an identity. -/
theorem IsIdentity.visible (h : IsIdentity t) : Text.trim t ≠ "" := by
  obtain ⟨c, hc⟩ := h
  rw [Text.trim_eq_self_iff.mpr (isTrimmed_of_identity hc)]
  exact (identity_eq_ok_iff.mp hc).2

end Identity

/-- The identity of an entry neither begins nor ends with white space and is not blank. A call may name it as its only target, and any call
that is written with identities as its targets, at least one, is accepted: it goes to these, each once in the order of first mention. The
entry has the same identity if it gives it itself. -/
theorem identities_can_be_called {c : TargetConfig} {identity : String} (h : c.identity = .ok identity) :
    Text.IsTrimmed identity ∧ Text.isBlank identity = false ∧
      (∀ m : Message, Call.ofValue (m.asCall (.text identity)) = .ok ⟨[identity], m⟩) ∧
      (∀ v given m, v.IsDocument → Call.Written v given m → given ≠ [] → (∀ t ∈ given, IsIdentity t) →
        ∃ targets, Call.ofValue v = .ok ⟨targets, m⟩ ∧ FirstsOf given targets ∧ (given.Nodup → targets = given)) ∧
      TargetConfig.identity { c with id := some identity } = .ok identity := by
  have htrimmed := isTrimmed_of_identity h
  have hvisible : ∀ t ∈ [identity], Text.trim t ≠ "" := fun t ht => List.mem_singleton.mp ht ▸ IsIdentity.visible ⟨c, h⟩
  refine ⟨htrimmed, htrimmed.isBlank_eq_false (identity_eq_ok_iff.mp h).2, ?_, ?_, identity_of_given h⟩
  · intro m
    exact Call.ofValue_asCall m (.one identity) (List.cons_ne_nil _ _) hvisible
  · intro v given m hv hwritten hnamed hidentities
    have haccepted : Call.Accepted v given m := ⟨hwritten, hnamed, fun t ht => (hidentities t ht).visible⟩
    exact ⟨_, haccepted.ofValue_eq hv, FirstsOf.eraseDups given, Hub.eraseDups_of_nodup⟩

/-- The slug of one entry and the identity that another gives between blanks are called together, one of them named twice. -/
theorem slug_and_given_identity_are_called :
    let lamp : TargetConfig := { name := "Café Lamp", kind := .log }
    let bell : TargetConfig := { id := some "\u2003front door\u00a0", name := "***", kind := .persistent }
    lamp.identity = .ok "caf_lamp" ∧ bell.identity = .ok "front door" ∧
      TargetConfig.identity { bell with id := some "front door" } = .ok "front door" ∧
      Call.ofValue (.object [("target", .ofTexts ["front door", "caf_lamp", "front door"])]) = .ok ⟨["front door", "caf_lamp"], {}⟩ := by
  intro lamp bell
  have hlamp : lamp.identity = .ok "caf_lamp" :=
    identity_eq_ok_iff.mpr ⟨show Text.slug "Café Lamp" = "caf_lamp" by decide, by decide⟩
  have hbell : bell.identity = .ok "front door" :=
    identity_eq_ok_iff.mpr ⟨show Text.trim "\u2003front door\u00a0" = "front door" by decide, by decide⟩
  let v : Value := .object [("target", .ofTexts ["front door", "caf_lamp", "front door"])]
  have hdoc : v.IsDocument := by
    refine ⟨?_, ⟨trivial, trivial, trivial, trivial⟩, trivial⟩
    unfold Keyed.Rising
    decide
  have hwritten : Call.Written v ["front door", "caf_lamp", "front door"] {} :=
    .object (by decide) ⟨⟨_, rfl, .many _⟩, .absent, .absent, .absent, .absent⟩
  have hidentities : ∀ t ∈ ["front door", "caf_lamp", "front door"], IsIdentity t := by
    intro t ht
    simp only [List.mem_cons, List.not_mem_nil, or_false] at ht
    rcases ht with rfl | rfl | rfl
    · exact ⟨bell, hbell⟩
    · exact ⟨lamp, hlamp⟩
    · exact ⟨bell, hbell⟩
  obtain ⟨-, -, -, hcalled, hagain⟩ := identities_can_be_called hbell
  obtain ⟨targets, hread, -, -⟩ := hcalled v _ _ hdoc hwritten (by decide) hidentities
  have htargets : (Call.ofValue v).toOption.map Call.targets = some ["front door", "caf_lamp"] := by decide
  rw [hread] at htargets
  obtain rfl : targets = ["front door", "caf_lamp"] := Option.some.inj htargets
  exact ⟨hlamp, hbell, hagain, hread⟩

/-- An empty list of identities cannot be called, since a call needs a target. -/
theorem list_of_no_identities_is_refused :
    ¬∀ given : List String, (∀ t ∈ given, IsIdentity t) →
      ∃ call, Call.ofValue (.object [("target", .ofTexts given)]) = .ok call ∧ FirstsOf given call.targets := by
  intro hall
  obtain ⟨call, hcall, hfirsts⟩ := hall [] fun t ht => absurd ht List.not_mem_nil
  have hnil : call.targets = [] := List.eq_nil_iff_forall_not_mem.mpr fun t ht => absurd ((hfirsts.same t).mp ht) List.not_mem_nil
  exact (Call.visible_of_ofValue hcall).1 hnil

end TargetConfig

end Herald
