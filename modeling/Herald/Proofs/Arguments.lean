import Herald.CommandLine
import Herald.Proofs.CallGrammar

/-!
# The arguments as a call

The value that the arguments of the command make has the fields of a call, and as its target the texts that were given with the command.
So the call that is read of it goes to these (`SendArguments.given_eq`).
-/

namespace Herald

namespace Call

/-- Reading a field leaves the targets, unless they are what it names. -/
theorem targets_of_readField {d d' : Draft} {p : String × Value} (h : reader.readField d p = .ok d') :
    d'.targets = d.targets ∨ (p.1 = "target" ∧ ∃ given, oneOrMany p.2.spelled = .ok given ∧ d'.targets = some given) := by
  obtain ⟨name, v⟩ := p
  rw [RecordReader.readField] at h
  split at h
  · have h := Reading.under_eq_ok_iff.mp h
    rw [reader] at h
    dsimp only at h
    split at h
    · obtain ⟨given, hread, h⟩ := Reading.bind_eq_ok_iff.mp h
      obtain rfl := Except.ok.inj h
      exact .inr ⟨rfl, given, hread, rfl⟩
    all_goals first
      | (obtain ⟨_, -, h⟩ := Reading.bind_eq_ok_iff.mp h
         obtain rfl := Except.ok.inj h
         exact .inl rfl)
      | exact .inl (Except.ok.inj h ▸ rfl)
  · split at h
    · exact .inl (Except.ok.inj h ▸ rfl)
    · cases h

/-- The targets that are read of an object are what one of its fields names. -/
theorem exists_target_field {fields : List (String × Value)} {d d' : Draft} {given : List String}
    (h : fields.foldlM reader.readField d = .ok d') (hg : d'.targets = some given) :
    d.targets = some given ∨ ∃ v, ("target", v) ∈ fields ∧ oneOrMany v.spelled = .ok given := by
  induction fields generalizing d with
  | nil =>
    obtain rfl := Except.ok.inj h
    exact .inl hg
  | cons p rest ih =>
    rw [List.foldlM_cons] at h
    obtain ⟨d₁, hp, hrest⟩ := Reading.bind_eq_ok_iff.mp h
    rcases ih hrest with hd | ⟨v, hv, hread⟩
    · rcases targets_of_readField hp with hsame | ⟨hname, given', hread, hset⟩
      · exact .inl (hsame.symm.trans hd)
      · obtain rfl := Option.some.inj (hset.symm.trans hd)
        exact .inr ⟨p.2, by rw [← hname]; exact List.mem_cons_self, hread⟩
    · exact .inr ⟨v, List.mem_cons_of_mem _ hv, hread⟩

end Call

/-- The value of the arguments has no target but those that were given. -/
theorem SendArguments.exists_fields {a : SendArguments} {data : Value} (hd : a.serviceData = .ok data) :
    ∃ fields, data = .object fields ∧ ∀ v, ("target", v) ∈ fields → v = .ofTexts a.targets := by
  have key {message title : Option String} {recipients data : List (String × Value)} (hr : ∀ p ∈ recipients, p.1 = "recipients")
      (hd : ∀ p ∈ data, p.1 = "data") (v : Value)
      (hv : ("target", v) ∈ Keyed.ofList (("target", .ofTexts a.targets) :: (message.map fun s => ("message", .text s)).toList ++
        (title.map fun s => ("title", .text s)).toList ++ recipients ++ data)) : v = .ofTexts a.targets := by
    have hmem := Keyed.mem_of_mem_ofList hv
    simp only [List.cons_append, List.mem_cons, List.mem_append, Option.mem_toList, Option.map_eq_some_iff] at hmem
    rcases hmem with heq | ((⟨_, -, heq⟩ | ⟨_, -, heq⟩) | hmem) | hmem
    · exact (Prod.mk.inj heq).2
    · exact absurd (Prod.mk.inj heq).1 (by decide)
    · exact absurd (Prod.mk.inj heq).1 (by decide)
    · exact absurd (show "target" = "recipients" from hr _ hmem) (by decide)
    · exact absurd (show "target" = "data" from hd _ hmem) (by decide)
  have hdata {v : Value} : ∀ p ∈ [("data", v)], p.1 = "data" := fun p hp => by rw [List.mem_singleton.mp hp]
  obtain ⟨targets, message, title, recipients, text, timeoutSeconds⟩ := a
  rw [serviceData] at hd
  split at hd
  · obtain rfl := Except.ok.inj hd
    cases recipients <;> exact ⟨_, rfl, key (by simp) fun _ hp => absurd hp List.not_mem_nil⟩
  · split at hd
    · obtain rfl := Except.ok.inj hd
      cases recipients <;> exact ⟨_, rfl, key (by simp) hdata⟩
    · cases hd

/-- The call that is read of the value of the arguments has the targets that were given. -/
theorem SendArguments.given_eq {a : SendArguments} {data : Value} {given : List String} {m : Message} (hd : a.serviceData = .ok data)
    (hread : Call.readFields data = .ok (given, m)) : given = a.targets := by
  obtain ⟨fields, rfl, htarget⟩ := exists_fields hd
  rw [Call.readFields] at hread
  obtain ⟨d, hfields, hread⟩ := Reading.bind_eq_ok_iff.mp hread
  cases htargets : d.targets with
  | none =>
    rw [htargets] at hread
    cases hread
  | some targets =>
    rw [htargets] at hread
    obtain ⟨rfl, -⟩ := Prod.mk.inj (Except.ok.inj hread)
    rcases Call.exists_target_field hfields htargets with hnone | ⟨v, hv, hnames⟩
    · cases hnone
    · rw [htarget v hv] at hnames
      exact Except.ok.inj (hnames.symm.trans (Call.oneOrMany_eq_ok_iff.mpr (.many a.targets)))

end Herald
