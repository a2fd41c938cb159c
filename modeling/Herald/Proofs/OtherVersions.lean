import Herald.Program
import Herald.Proofs.SnapshotText
import Herald.Proofs.SavedFile

/-!
# Documents of another version

A document of another version is refused if its other fields can be read as those of this version (`LaidOut`): then nothing is
loaded, no application is built, and no run of the program touches the file. The version is looked at only when the whole document was
read, so a document of another version with another layout is taken for none, and the next save replaces it
(`document_of_another_layout_is_replaced`). Which of the two happens is settled by the layout alone
(`other_version_is_refused_as_laid_out`).
-/

namespace Herald

open Json (Draft)

namespace Snapshot

/-! ## The layout of a document -/

/-- Whether some fields hold a name once, and with which draft. -/
def Once (name : String) (d : Draft) (fields : List (Option String × Draft)) : Prop :=
  fields.filter (fun p => p.1 = some name) = [(some name, d)]

/-- Whether some fields do not hold a name. -/
def Lacks (name : String) (fields : List (Option String × Draft)) : Prop :=
  fields.filter (fun p => p.1 = some name) = []

/-- Whether the names of some fields can be read. -/
def Legible (fields : List (Option String × Draft)) : Prop :=
  ∀ p ∈ fields, p.1 ≠ none

/-- Whether a draft is the text of an instant. -/
def IsTime (d : Draft) : Prop :=
  ∃ s t, d = .scalar (some (.text s)) ∧ Instant.ofText? s = some t

/-- Whether a draft is the record of a target: its last activation, under its name or alone in a list. -/
inductive IsEntry : Draft → Prop
  | object {fields : List (Option String × Draft)} {d : Draft} (legible : Legible fields) (once : Once "last_notified" d fields)
      (time : IsTime d) : IsEntry (.object fields)
  | list {d : Draft} (time : IsTime d) : IsEntry (.list [d])

/-- Whether the fields of a document are laid out as those of this version, with some number for the version: the version is given once
and fits 32 binary digits, the targets are given at most once and are records, and other fields hold anything. -/
structure LaidOut (version : Nat) (fields : List (Option String × Draft)) : Prop where
  legible : Legible fields
  once : Once "version" (.scalar (some (.unsigned version))) fields
  fits : version < Nat.pow 2 32
  targets : Lacks "targets" fields ∨
    ∃ entries, Once "targets" (.object entries) fields ∧ Legible entries ∧ ∀ p ∈ entries, IsEntry p.2

/-! ## The reader follows the layout -/

/-- A name is looked up where all names can be read and it is given at most once. -/
theorem field?_eq_some_iff {name : String} {fields : List (Option String × Draft)} {found : Option Draft} :
    field? name fields = some found ↔
      Legible fields ∧ fields.filter (fun p => p.1 = some name) = found.toList.map (some name, ·) := by
  induction fields generalizing found with
  | nil => cases found <;> simp [field?, Legible]
  | cons p rest ih =>
    obtain ⟨key, d⟩ := p
    cases key with
    | none => simp [field?, Legible]
    | some key =>
      have hlegible : Legible ((some key, d) :: rest) ↔ Legible rest := by simp [Legible]
      rw [hlegible]
      by_cases hk : key = name
      · subst hk
        have hstep : field? key ((some key, d) :: rest) = some found ↔ field? key rest = some none ∧ found = some d := by
          rw [field?]
          rcases field? key rest with _ | _ | _ <;> simp [eq_comm]
        rw [hstep, ih, List.filter_cons_of_pos (by simp)]
        cases found with
        | none => simp
        | some e =>
          rw [Option.some.injEq, Option.toList_some, List.map_singleton, List.cons.injEq, Prod.mk.injEq]
          constructor
          · rintro ⟨⟨hrest, hnone⟩, he⟩
            exact ⟨hrest, ⟨rfl, he.symm⟩, hnone⟩
          · rintro ⟨hrest, ⟨-, he⟩, hnone⟩
            exact ⟨⟨hrest, hnone⟩, he.symm⟩
      · have hstep : field? name ((some key, d) :: rest) = field? name rest := by
          rw [field?]
          rcases field? name rest with _ | _ <;> simp [hk]
        rw [hstep, ih, List.filter_cons_of_neg (by simpa using hk)]

theorem field?_eq_some_some_iff {name : String} {fields : List (Option String × Draft)} {d : Draft} :
    field? name fields = some (some d) ↔ Legible fields ∧ Once name d fields :=
  field?_eq_some_iff

theorem field?_eq_some_none_iff {name : String} {fields : List (Option String × Draft)} :
    field? name fields = some none ↔ Legible fields ∧ Lacks name fields :=
  field?_eq_some_iff

/-- The names of the fields of a value can be read. -/
theorem legible_fieldDraftsOf (fields : List (String × Value)) : Legible (Json.fieldDraftsOf fields) := by
  induction fields with
  | nil => exact nofun
  | cons p rest ih => exact List.forall_mem_cons.mpr ⟨nofun, ih⟩

/-- An instant is read where there is one. -/
theorem isSome_readInstant?_iff {d : Draft} : (readInstant? d).isSome ↔ IsTime d := by
  rw [Option.isSome_iff_exists, readInstant?.eq_def]
  constructor
  · rintro ⟨t, ht⟩
    split at ht
    · exact ⟨_, t, rfl, ht⟩
    · cases ht
  · rintro ⟨s, t, rfl, ht⟩
    exact ⟨t, ht⟩

/-- A record is read where there is one. -/
theorem isSome_readRecord?_iff {d : Draft} : (readRecord? d).isSome ↔ IsEntry d := by
  constructor
  · intro h
    rw [readRecord?.eq_def] at h
    split at h
    · next fields =>
      obtain ⟨t, ht⟩ := Option.isSome_iff_exists.mp h
      obtain ⟨d, hd, ht⟩ := Option.bind_eq_some_iff.mp ht
      obtain ⟨hlegible, honce⟩ := field?_eq_some_some_iff.mp (Option.join_eq_some_iff.mp hd)
      exact .object hlegible honce (isSome_readInstant?_iff.mp (ht ▸ rfl))
    · exact .list (isSome_readInstant?_iff.mp h)
    · cases h
  · intro h
    cases h with
    | object hlegible honce htime =>
      rw [readRecord?, field?_eq_some_some_iff.mpr ⟨hlegible, honce⟩]
      exact isSome_readInstant?_iff.mpr htime
    | list htime => exact isSome_readInstant?_iff.mpr htime

/-- Some records are read where all are records under names that can be read. -/
theorem isSome_readRecords?_iff {entries : List (Option String × Draft)} :
    (readRecords? entries).isSome ↔ Legible entries ∧ ∀ p ∈ entries, IsEntry p.2 := by
  induction entries with
  | nil => simp [readRecords?, Legible]
  | cons p rest ih =>
    obtain ⟨key, d⟩ := p
    have hstep : (readRecords? ((key, d) :: rest)).isSome ↔ key.isSome ∧ (readRecord? d).isSome ∧ (readRecords? rest).isSome := by
      rw [readRecords?]
      cases key <;> cases readRecord? d <;> cases readRecords? rest <;> simp
    rw [hstep, ih, isSome_readRecord?_iff]
    simp only [Legible, List.forall_mem_cons, ← Option.isSome_iff_ne_none]
    constructor
    · rintro ⟨hkey, hd, hlegible, hrest⟩
      exact ⟨⟨hkey, hlegible⟩, hd, hrest⟩
    · rintro ⟨⟨hkey, hlegible⟩, hd, hrest⟩
      exact ⟨hkey, hd, hlegible, hrest⟩

/-- The targets are read where they are an object of records. -/
theorem isSome_readTargets?_iff {d : Draft} :
    (readTargets? d).isSome ↔ ∃ entries, d = .object entries ∧ Legible entries ∧ ∀ p ∈ entries, IsEntry p.2 := by
  rw [readTargets?.eq_def]
  split
  · next entries =>
    rw [Option.isSome_map, isSome_readRecords?_iff]
    simp
  · next hno =>
    constructor
    · intro h
      cases h
    · rintro ⟨entries, rfl, -⟩
      exact absurd rfl (hno entries)

/-- The version is read where it is a number that fits. -/
theorem readVersion?_eq_some_iff {d : Draft} {v : Nat} :
    readVersion? d = some v ↔ d = .scalar (some (.unsigned v)) ∧ v < Nat.pow 2 32 := by
  rw [readVersion?.eq_def]
  constructor
  · intro h
    split at h
    · split at h
      · next hv =>
        obtain rfl := Option.some.inj h
        exact ⟨rfl, hv⟩
      · cases h
    · cases h
  · rintro ⟨rfl, hv⟩
    exact if_pos hv

/-- An object is read as a snapshot of a version exactly if it is laid out with that version. -/
theorem exists_ofDraft?_iff {v : Nat} {fields : List (Option String × Draft)} :
    (∃ targets, ofDraft? (.object fields) = some ⟨v, targets⟩) ↔ LaidOut v fields := by
  constructor
  · rintro ⟨targets, h⟩
    obtain ⟨version?, hversion, h⟩ := Option.bind_eq_some_iff.mp h
    obtain ⟨versionDraft, hdraft, h⟩ := Option.bind_eq_some_iff.mp h
    obtain ⟨version, hread, h⟩ := Option.bind_eq_some_iff.mp h
    obtain ⟨targets?, htargets, h⟩ := Option.bind_eq_some_iff.mp h
    obtain ⟨hlegible, honce⟩ := field?_eq_some_some_iff.mp (hdraft ▸ hversion)
    obtain ⟨rfl, hfits⟩ := readVersion?_eq_some_iff.mp hread
    cases targets? with
    | none =>
      obtain ⟨rfl, -⟩ := Snapshot.mk.inj (Option.some.inj h)
      exact ⟨hlegible, honce, hfits, .inl (field?_eq_some_none_iff.mp htargets).2⟩
    | some d =>
      obtain ⟨targets, hd, h⟩ := Option.bind_eq_some_iff.mp h
      obtain ⟨rfl, -⟩ := Snapshot.mk.inj (Option.some.inj h)
      obtain ⟨entries, rfl, hentries⟩ := isSome_readTargets?_iff.mp (Option.isSome_of_eq_some hd)
      exact ⟨hlegible, honce, hfits, .inr ⟨entries, (field?_eq_some_some_iff.mp htargets).2, hentries⟩⟩
  · intro h
    have hversion := field?_eq_some_some_iff.mpr ⟨h.legible, h.once⟩
    have hread := readVersion?_eq_some_iff.mpr ⟨rfl, h.fits⟩
    rcases h.targets with hlacks | ⟨entries, honce, hentries⟩
    · have htargets := field?_eq_some_none_iff.mpr ⟨h.legible, hlacks⟩
      exact ⟨[], by simp [ofDraft?, hversion, hread, htargets]⟩
    · have htargets := field?_eq_some_some_iff.mpr ⟨h.legible, honce⟩
      obtain ⟨targets, hd⟩ := Option.isSome_iff_exists.mp (isSome_readTargets?_iff.mpr ⟨entries, rfl, hentries⟩)
      exact ⟨targets, by simp [ofDraft?, hversion, hread, htargets, hd]⟩

end Snapshot

/-! ## What a refused file does -/

/-- Whether the file of a path is refused: it is not loaded, there is no store and no application over it, and whatever the program is run
for with its activations in it, it ends with a failure and leaves the files as they are. -/
structure StateFile.Refused (files : Files) (path : String) (failure : Failure) : Prop where
  load : StateFile.load files path = .error failure
  store : Vault.load files (.file path) = .error failure
  build : ∀ settings extras, ∃ e, App.build settings (.file path) extras files = .error e
  run : ∀ (m : Machine) args c settings, m.files = files → CommandLine.ofArguments args = .ok c →
    Settings.load m.processors m.files m.environment c = .ok settings → settings.state.path = some path →
      (Program.run m args).code ≠ 0 ∧ (Program.run m args).output = "" ∧ (Program.run m args).files = files

/-- A run whose application cannot be built fails and leaves the files. -/
theorem Program.run_of_build_error {m : Machine} {args : List String} {c : CommandLine} {settings : Settings} {e : App.BuildError}
    (hargs : CommandLine.ofArguments args = .ok c) (hsettings : Settings.load m.processors m.files m.environment c = .ok settings)
    (hbuild : App.build settings (App.backend settings.state) [] m.files = .error e) :
    (Program.run m args).code ≠ 0 ∧ (Program.run m args).output = "" ∧ (Program.run m args).files = m.files := by
  have hrun : Program.run m args = Program.stopped m (Program.buildFailure e).1 [(Program.buildFailure e).2] := by
    simp only [Program.run, hargs, hsettings, hbuild]
  rw [hrun]
  refine ⟨?_, rfl, rfl⟩
  cases e <;> exact nofun

/-- A file that cannot be loaded is refused. -/
theorem StateFile.refused_of_load {files : Files} {path : String} {failure : Failure} (h : StateFile.load files path = .error failure) :
    StateFile.Refused files path failure := by
  have hstore : Vault.load files (.file path) = .error failure := by
    simp only [Vault.load, Backend.load, h, bind, Except.bind]
  have hbuild : ∀ settings extras, ∃ e, App.build settings (.file path) extras files = .error e := by
    intro settings extras
    rw [App.build]
    split
    · exact ⟨_, rfl⟩
    · exact ⟨.failed failure, by rw [hstore]⟩
  refine ⟨h, hstore, hbuild, ?_⟩
  rintro m args c settings rfl hargs hsettings hpath
  obtain ⟨e, he⟩ := hbuild settings []
  refine Program.run_of_build_error hargs hsettings (e := e) ?_
  rwa [App.backend, hpath]

/-- A marked store over a file is saved into it. -/
theorem Vault.flush_of_save {s : Store} {files : Files} {path : String} (hdirty : s.dirty = true)
    (hok : (StateFile.save none files path s.unmark.snapshot).2 = .ok ()) :
    Vault.flush ⟨s, .file path⟩ files =
      (⟨s.unmark, .file path⟩, (StateFile.save none files path s.unmark.snapshot).1, .ok ()) := by
  simp only [Vault.flush, Backend.save, hdirty, hok, Bool.not_true, Bool.false_eq_true, if_false]

namespace StateFile

/-- Why a file is refused. -/
def unsupported (version : Nat) (path : String) : Failure :=
  ⟨"unsupported state file version " ++ toString version ++ " in " ++ path, []⟩

/-- A document that is laid out as those of this version is not loaded unless it is of this version. -/
theorem load_of_laidOut {files : Files} {path text : String} {fields : List (Option String × Draft)} {v : Nat}
    (hread : files.read path = .ok text) (hdocument : Draft.ofText? text = some (.object fields))
    (hv : Snapshot.LaidOut v fields) (hother : v ≠ Snapshot.currentVersion) : load files path = .error (unsupported v path) := by
  obtain ⟨targets, hs⟩ := Snapshot.exists_ofDraft?_iff.mpr hv
  rw [load, hread]
  dsimp only
  rw [Snapshot.ofText?, hdocument, Option.bind_some, hs]
  exact if_neg hother

/-- A document with another layout is loaded as none. -/
theorem load_of_not_laidOut {files : Files} {path text : String} {fields : List (Option String × Draft)}
    (hread : files.read path = .ok text) (hdocument : Draft.ofText? text = some (.object fields))
    (hno : ∀ v, ¬Snapshot.LaidOut v fields) : load files path = .ok .empty := by
  have hnone : Snapshot.ofDraft? (.object fields) = none := by
    rw [Option.eq_none_iff_forall_ne_some]
    exact fun s hs => hno s.version (Snapshot.exists_ofDraft?_iff.mp ⟨s.targets, hs⟩)
  rw [load, hread]
  dsimp only
  rw [Snapshot.ofText?, hdocument, Option.bind_some, hnone]

/-- For every document with a version other than the current one, whatever else it holds: if it is laid out as the documents of this version
are, it is refused with its version, and if not, it is taken for none. -/
theorem other_version_is_refused_as_laid_out {files : Files} {path text : String} {fields : List (Option String × Draft)} {d : Draft}
    (hread : files.read path = .ok text) (hdocument : Draft.ofText? text = some (.object fields))
    (hversion : (some "version", d) ∈ fields) (hother : d ≠ .scalar (some (.unsigned Snapshot.currentVersion))) :
    (∀ v, Snapshot.LaidOut v fields → Refused files path (unsupported v path)) ∧
    ((∀ v, ¬Snapshot.LaidOut v fields) → load files path = .ok .empty) ∧
    ((∃ failure, Refused files path failure) ↔ ∃ v, Snapshot.LaidOut v fields) := by
  have hrefused (v : Nat) (hv : Snapshot.LaidOut v fields) : Refused files path (unsupported v path) := by
    -- the version that is read is the one that is given
    have hne : v ≠ Snapshot.currentVersion := by
      intro he
      have hmem : (some "version", d) ∈ fields.filter (fun p => p.1 = some "version") :=
        List.mem_filter.mpr ⟨hversion, by simp⟩
      rw [hv.once, List.mem_singleton, Prod.mk.injEq] at hmem
      exact hother (he ▸ hmem.2)
    exact refused_of_load (load_of_laidOut hread hdocument hv hne)
  refine ⟨hrefused, load_of_not_laidOut hread hdocument, ?_, fun ⟨v, hv⟩ => ⟨_, hrefused v hv⟩⟩
  rintro ⟨failure, h⟩
  refine Classical.byContradiction fun hno => ?_
  have hload := h.load
  rw [load_of_not_laidOut hread hdocument fun v hv => hno ⟨v, hv⟩] at hload
  cases hload

/-- A directory with one file. -/
def holding (document : Value) : Files :=
  ({} : Files).put ["state.json"] (.text document.indented)

/-- The file is read as it is. -/
theorem read_holding (document : Value) : (holding document).read "state.json" = .ok document.indented := by
  have hresolve : (holding document).resolve "state.json" = .ok ["state.json"] :=
    Files.resolve_eq_ok.mpr ⟨by decide, rfl⟩
  rw [Files.read_eq, hresolve]
  rfl

/-- A document of another version with a field of its own and the record of a target. -/
def sameLayout : Value :=
  .object [("version", .unsigned 7), ("notes", .list [.null]), ("targets", .object [("a", .list [.text "1970-01-01T00:00:00Z"])])]

/-- A document of another version that lists its targets. -/
def otherLayout : Value :=
  .object [("version", .unsigned 2), ("targets", .list [])]

/-- A document of another version that is laid out as those of this version is refused, with its version as it is given. -/
theorem same_layout_is_refused :
    Refused (holding sameLayout) "state.json" ⟨"unsupported state file version 7 in state.json", []⟩ := by
  have hword : 7 ≤ Json.maxWord := by decide
  have hdocument := Json.ofText?_indented (v := sameLayout) ⟨hword, ⟨trivial, trivial⟩, ⟨⟨trivial, trivial⟩, trivial⟩, trivial⟩
  have htime : Snapshot.IsTime (.scalar (some (.text "1970-01-01T00:00:00Z"))) := ⟨_, .epoch, rfl, by decide +kernel⟩
  have hentries : ∀ p ∈ [(some "a", Draft.list [.scalar (some (.text "1970-01-01T00:00:00Z"))])], Snapshot.IsEntry p.2 :=
    List.forall_mem_singleton.mpr (.list htime)
  obtain ⟨hrefused, -⟩ := other_version_is_refused_as_laid_out (read_holding sameLayout) hdocument (.head _) nofun
  exact hrefused 7 ⟨Snapshot.legible_fieldDraftsOf _, rfl, by decide, .inr ⟨_, rfl, Snapshot.legible_fieldDraftsOf _, hentries⟩⟩

/-- A document of another version and another layout is taken for none, and what is recorded next is saved in its place. -/
theorem document_of_another_layout_is_replaced :
    (holding otherLayout).read "state.json" = .ok otherLayout.indented ∧
    Draft.ofText? otherLayout.indented =
      some (.object [(some "version", .scalar (some (.unsigned 2))), (some "targets", .list [])]) ∧
    (¬∃ failure, Refused (holding otherLayout) "state.json" failure) ∧
    ∃ vault vault' files', Vault.load (holding otherLayout) (.file "state.json") = .ok vault ∧
      (vault.modify fun s => (s.record "a" .epoch).2).flush (holding otherLayout) = (vault', files', .ok ()) ∧
      files'.read "state.json" = .ok (Snapshot.ofTargets [("a", .epoch)]).toText := by
  have hword : 2 ≤ Json.maxWord := by decide
  have hdocument := Json.ofText?_indented (v := otherLayout) ⟨hword, trivial, trivial⟩
  have hload : load (holding otherLayout) "state.json" = .ok .empty := by
    refine load_of_not_laidOut (read_holding otherLayout) hdocument fun v hv => ?_
    rcases hv.targets with hlacks | ⟨entries, honce, -⟩
    · cases hlacks
    · cases honce
  refine ⟨read_holding otherLayout, hdocument, ?_, ?_⟩
  · rintro ⟨failure, h⟩
    cases hload.symm.trans h.load
  · have hvault : Vault.load (holding otherLayout) (.file "state.json") = .ok ⟨.ofSnapshot .empty, .file "state.json"⟩ := by
      simp only [Vault.load, Backend.load, hload, bind, Except.bind]
      rfl
    have htree : (holding otherLayout).Tree := (Files.tree_of_empty rfl).put (by decide) rfl _
    have hsaved : (save none (holding otherLayout) "state.json" (Snapshot.ofTargets [("a", .epoch)])).2 = .ok () := by decide
    exact ⟨_, _, _, hvault, Vault.flush_of_save rfl hsaved, (read_of_save htree hsaved).2⟩

end StateFile

end Herald
