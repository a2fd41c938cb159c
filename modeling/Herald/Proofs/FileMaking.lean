import Herald.Proofs.FileTree
import Herald.Proofs.PathParts

/-!
# Making directories and moving files

What a path resolves to is a walk over its parts (`resolve_eq`). Making directories adds directories and nothing else, each where a
path over some of the parts leads (`Grown`), whether all of them can be made or not. All operations keep files a tree.
-/

namespace Herald.Files

/-! ## Resolving paths -/

/-- The directory that a path is walked from. -/
def start (f : Files) (path : String) : List String :=
  if Path.isAbsolute path then [] else f.workdir

/-- Why nothing can have a path, if nothing can. -/
def unusable? (path : String) : Option FileFault :=
  if path.toList.contains '\x00' then some .badName
  else if path.isEmpty then some .notFound
  else if longestPath ≤ path.utf8ByteSize then some .longName
  else none

/-- A path is resolved by walking over its parts. -/
theorem resolve_eq (f : Files) (path : String) : f.resolve path = match unusable? path with
    | some e => .error e
    | none => f.walk (f.start path) (Path.parts path) := by
  rw [resolve, unusable?]
  split
  · rfl
  · split
    · rfl
    · split <;> rfl

/-- A path that resolves is walked. -/
theorem resolve_eq_ok {f : Files} {path : String} {names : List String} :
    f.resolve path = .ok names ↔ unusable? path = none ∧ f.walk (f.start path) (Path.parts path) = .ok names := by
  rw [resolve_eq]
  cases unusable? path with
  | some e => exact ⟨nofun, fun h => absurd h.1 nofun⟩
  | none => exact ⟨fun h => ⟨rfl, h⟩, fun h => h.2⟩

/-- The directory that a path is walked from does not depend on the entries. -/
theorem start_of_workdir {f g : Files} (h : g.workdir = f.workdir) (path : String) : g.start path = f.start path := by
  rw [start, start, h]

/-- A path resolves to the same place where all directories stay. -/
theorem resolve_of_stays {f g : Files} (hs : Stays f g) (hw : g.workdir = f.workdir) {path : String} {names : List String}
    (h : f.resolve path = .ok names) : g.resolve path = .ok names := by
  obtain ⟨husable, hwalk⟩ := resolve_eq_ok.mp h
  exact resolve_eq_ok.mpr ⟨husable, start_of_workdir hw path ▸ walk_of_stays hs hwalk⟩

/-- In a tree, a place that a walk of a step or more gets to lies in a directory. -/
theorem Tree.parent_of_walk {f : Files} (h : f.Tree) {at' parts names : List String} (hne : parts ≠ [])
    (hwalk : f.walk at' parts = .ok names) : f.get? names.dropLast = some .dir := by
  obtain ⟨before, last, rfl⟩ : ∃ before last, parts = before ++ [last] := ⟨_, _, (List.dropLast_append_getLast hne).symm⟩
  obtain ⟨middle, _, hlast⟩ := walk_append_eq_ok.mp hwalk
  obtain ⟨hdir, _, hend⟩ := walk_cons_eq_ok.mp hlast
  obtain rfl := Except.ok.inj hend
  have hup := h middle (hdir ▸ nofun)
  rw [step]
  split
  · exact hup
  · split
    · exact h _ (hup ▸ nofun)
    · rwa [List.dropLast_concat]

/-- In a tree, a place that a path resolves to lies in a directory. -/
theorem Tree.parent_of_resolve {f : Files} (h : f.Tree) {path : String} {names : List String} (hr : f.resolve path = .ok names) :
    f.get? names.dropLast = some .dir :=
  h.parent_of_walk (Path.parts_ne_nil path) (resolve_eq_ok.mp hr).2

/-! ## Making directories -/

/-- What the making of one directory does. -/
theorem makeDir_eq_ok {f g : Files} {path : String} (h : f.makeDir path = .ok g) :
    ∃ names, f.resolve path = .ok names ∧ f.get? names = none ∧ g = f.put names .dir := by
  rw [makeDir] at h
  cases hr : f.resolve path with
  | error e =>
    rw [hr] at h
    exact absurd h nofun
  | ok names =>
    rw [hr] at h
    change (if (f.get? names).isSome then .error FileFault.exists else .ok (f.put names .dir)) = Except.ok g at h
    split at h
    · exact absurd h nofun
    · next hn => exact ⟨names, rfl, by simpa using hn, (Except.ok.inj h).symm⟩

/-- What is found after a directory was made where nothing was. -/
theorem get?_put_of_none {f : Files} {names : List String} (hn : f.get? names = none) (e : Entry) (other : List String) :
    (f.put names e).get? other = if other = names then some e else f.get? other :=
  get?_put f (fun hnil => absurd (hnil ▸ hn : f.get? [] = none) nofun) e other

/-- Files that grew out of others by directories, each of them where some of the parts lead. -/
structure Grown (parts : List String) (f g : Files) : Prop where
  workdir : g.workdir = f.workdir
  grown : ∀ names, g.get? names = f.get? names ∨
    (f.get? names = none ∧ g.get? names = some .dir ∧ ∃ some', some' <+: parts ∧ g.resolve ("/".intercalate some') = .ok names)

namespace Grown

variable {parts : List String} {f g k : Files}

/-- Files that stay as they are. -/
theorem refl (parts : List String) (f : Files) : Grown parts f f where
  workdir := rfl
  grown _ := Or.inl rfl

/-- More parts may lead to the directories. -/
theorem mono {more : List String} (h : Grown parts f g) (hp : parts <+: more) : Grown more f g where
  workdir := h.workdir
  grown names := (h.grown names).imp_right fun ⟨hn, hd, some', hs, hr⟩ => ⟨hn, hd, some', hs.trans hp, hr⟩

/-- All directories stay. -/
theorem stays (h : Grown parts f g) : Stays f g := by
  intro names hd
  rcases h.grown names with he | ⟨hn, _⟩
  · rw [he, hd]
  · rw [hd] at hn
    exact absurd hn nofun

/-- All entries stay. -/
theorem get?_of_some (h : Grown parts f g) {names : List String} {e : Entry} (he : f.get? names = some e) :
    g.get? names = some e := by
  rcases h.grown names with hsame | ⟨hn, _⟩
  · rw [hsame, he]
  · rw [he] at hn
    exact absurd hn nofun

/-- A further directory is made where all parts lead. -/
theorem makeDir (h : Grown parts f g) (hk : g.makeDir ("/".intercalate parts) = .ok k) : Grown parts f k := by
  obtain ⟨made, hresolve, hnone, rfl⟩ := makeDir_eq_ok hk
  have hstays : Stays g (g.put made .dir) := by
    intro names hd
    rw [get?_put_of_none hnone]
    split
    · rfl
    · exact hd
  have hagain : ∀ {path names}, g.resolve path = .ok names → (g.put made .dir).resolve path = .ok names :=
    fun hr => resolve_of_stays hstays rfl hr
  refine ⟨h.workdir, fun names => ?_⟩
  rw [get?_put_of_none hnone]
  by_cases he : names = made
  · subst he
    refine Or.inr ⟨?_, if_pos rfl, parts, List.prefix_rfl, hagain hresolve⟩
    rcases h.grown names with hsame | ⟨hn, _⟩
    · rw [← hsame, hnone]
    · exact hn
  · rw [if_neg he]
    exact (h.grown names).imp_right fun ⟨hn, hd, some', hs, hr⟩ => ⟨hn, hd, some', hs, hagain hr⟩

end Grown

/-- The making of directories makes the last of them, or does not, after it has made those before or has not needed to. -/
theorem makeDirs_cons (f : Files) (part : String) (before : List String) :
    ∃ g, (g = f ∨ g = (f.makeDirs before).1) ∧
      ((f.makeDirs (part :: before)).1 = g ∨ g.makeDir ("/".intercalate (part :: before).reverse) = .ok (f.makeDirs (part :: before)).1) := by
  rw [makeDirs]
  split
  · exact ⟨(f.makeDirs before).1, Or.inr rfl, Or.inl rfl⟩
  · simp only
    split
    · split
      · next g hm =>
        refine ⟨g, Or.inr (by rw [hm]), ?_⟩
        cases g.makeDir ("/".intercalate (part :: before).reverse) with
        | ok k => exact Or.inr rfl
        | error e => exact Or.inl rfl
      · exact ⟨_, Or.inr rfl, Or.inl rfl⟩
    · refine ⟨f, Or.inl rfl, ?_⟩
      cases f.makeDir ("/".intercalate (part :: before).reverse) with
      | ok k => exact Or.inr rfl
      | error e => exact Or.inl rfl

/-- Making directories adds directories where the parts lead, and nothing else. -/
theorem grown_makeDirs (f : Files) (reversed : List String) : Grown reversed.reverse f (f.makeDirs reversed).1 := by
  induction reversed with
  | nil => exact .refl [] f
  | cons part before ih =>
    obtain ⟨g, hg, hlast⟩ := makeDirs_cons f part before
    have hgrown : Grown (part :: before).reverse f g := by
      rcases hg with rfl | rfl
      · exact .refl _ _
      · exact ih.mono (by rw [List.reverse_cons]; exact List.prefix_append _ _)
    rcases hlast with he | he
    · rwa [he]
    · exact hgrown.makeDir he

/-- Making directories keeps files a tree. -/
theorem Tree.makeDirs {f : Files} (h : f.Tree) (reversed : List String) : (f.makeDirs reversed).1.Tree := by
  induction reversed with
  | nil => exact h
  | cons part before ih =>
    obtain ⟨g, hg, hlast⟩ := makeDirs_cons f part before
    have htree : g.Tree := by
      rcases hg with rfl | rfl
      · exact h
      · exact ih
    rcases hlast with he | he
    · rwa [he]
    · obtain ⟨names, hresolve, hnone, hput⟩ := makeDir_eq_ok he
      rw [hput]
      exact htree.put (hnone ▸ nofun) (htree.parent_of_resolve hresolve) .dir

end Herald.Files
