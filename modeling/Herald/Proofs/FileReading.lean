import Herald.Proofs.FileMaking
import Herald.State.Backend

/-!
# What is read after a save began

Before a save moves its text over the file it makes directories and writes the text beside the file. The second leaves what is read
under the path (`Beside.read_put`), and so does the first (`Grown.read_eq`), but for paths that lead astray: a path that comes to a
missing directory may lead elsewhere once it is made, if it goes back from there or has a name that is too long (`strays`).
-/

namespace Herald

namespace Files

/-- No path is empty. -/
theorem unusable?_empty : unusable? "" ≠ none := by
  decide

/-- A path made of the first parts of another one is walked from the same directory. -/
theorem walk_of_resolve_prefix {f : Files} {path : String} {first names : List String} (hp : first <+: Path.parts path)
    (h : f.resolve ("/".intercalate first) = .ok names) : f.walk (f.start path) first = .ok names := by
  obtain ⟨husable, hwalk⟩ := resolve_eq_ok.mp h
  have hne : first ≠ [] := by
    rintro rfl
    exact unusable?_empty husable
  have hroot : first ≠ [""] := by
    rintro rfl
    exact unusable?_empty husable
  have hparts := Path.parts_intercalate hne fun name hn => Path.not_mem_of_mem_parts (hp.subset hn)
  have habsolute : Path.isAbsolute ("/".intercalate first) = Path.isAbsolute path := by
    rw [Bool.eq_iff_iff, Path.isAbsolute_iff, Path.isAbsolute_iff, hparts]
    obtain ⟨rest, hrest⟩ := hp
    rw [← hrest]
    match first with
    | [] => exact absurd rfl hne
    | [name] =>
      have hname : name ≠ "" := fun he => hroot (he ▸ rfl)
      simp [hname]
    | name :: next :: more => simp
  rw [hparts] at hwalk
  rwa [start, ← habsolute]

/-- Paths that differ from some name on are walked from the same directory. -/
theorem start_of_parts {f : Files} {path other : String} {before rest rest' : List String} {name name' : String}
    (hp : Path.parts path = before ++ name :: rest) (ho : Path.parts other = before ++ name' :: rest') (hn : name ≠ "")
    (hn' : name' ≠ "") : f.start other = f.start path := by
  have habsolute : Path.isAbsolute other = Path.isAbsolute path := by
    rw [Bool.eq_iff_iff, Path.isAbsolute_iff, Path.isAbsolute_iff, hp, ho]
    match before with
    | [] => simp [hn, hn']
    | [part] => simp
    | part :: next :: more => simp
  rw [start, start, habsolute]

/-- A step that does not find its directory starts from what is missing. -/
theorem enter_eq_notFound {f : Files} {at' : List String} {part : String} : f.enter at' part = .error .notFound ↔ f.get? at' = none := by
  refine ⟨fun h => ?_, fun h => enter_of_none h part⟩
  by_contra hn
  obtain ⟨e, he⟩ := Option.ne_none_iff_exists'.mp hn
  by_cases hd : e = .dir
  · subst hd
    rw [enter_of_dir he] at h
    split at h
    · exact absurd (Except.error.inj h) nofun
    · exact absurd h nofun
  · rw [enter_of_file he hd] at h
    exact absurd (Except.error.inj h) nofun

/-- Whether a walk comes to something missing and, from there on, goes back or has a name that is too long. -/
def strays (f : Files) : List String → List String → Bool
  | _, [] => false
  | at', part :: rest =>
    match f.enter at' part with
    | .ok next => strays f next rest
    | .error .notFound => (part :: rest).any fun part => part == ".." || longestName < part.utf8ByteSize
    | .error _ => false

/-- A walk that does not stray goes on from what is missing without going back or to names that are too long. -/
theorem forward_of_strays {f : Files} {at' before rest middle : List String} (hs : f.strays at' (before ++ rest) = false)
    (hwalk : f.walk at' before = .ok middle) (hn : f.get? middle = none) :
    ∀ part ∈ rest, part ≠ ".." ∧ part.utf8ByteSize ≤ longestName := by
  induction before generalizing at' with
  | nil =>
    obtain rfl := Except.ok.inj hwalk
    cases rest with
    | nil => exact fun part hp => absurd hp List.not_mem_nil
    | cons part rest =>
      rw [List.nil_append, strays, enter_of_none hn, List.any_eq_false] at hs
      intro p hp
      have h := hs p hp
      simp only [Bool.or_eq_true, beq_iff_eq, decide_eq_true_eq, not_or, Nat.not_lt] at h
      exact h
  | cons part before ih =>
    rw [List.cons_append, strays] at hs
    cases he : f.enter at' part with
    | error e =>
      rw [walk_cons, he] at hwalk
      exact absurd hwalk nofun
    | ok next =>
      rw [he] at hs
      rw [walk_cons, he] at hwalk
      exact ih hs hwalk

/-! ## The text beside the file -/

/-- What a write does. -/
theorem write_eq_ok {f g : Files} {path content : String} (h : f.write path content = .ok g) :
    ∃ names, f.resolve path = .ok names ∧ f.get? names ≠ some .dir ∧ g = f.put names (.text content) := by
  cases hr : f.resolve path with
  | error e =>
    rw [write, hr] at h
    cases h
  | ok names =>
    simp only [write, hr, bind, Except.bind] at h
    split at h
    · cases h
    · next hn => exact ⟨names, rfl, hn, (Except.ok.inj h).symm⟩

/-- The name of the file that is written beside one. -/
def scratchName (last : String) : String :=
  Path.stem last ++ "." ++ "json.tmp"

/-- A path with a file beside it: its parts, and the directory that both are in. -/
structure Beside (f : Files) (path : String) (before : List String) (last : String) (idle dir : List String) : Prop where
  split : Path.splitLast? path = some (before, last)
  parts : Path.parts path = before ++ last :: idle
  idle : ∀ part ∈ idle, Path.isIdle part = true
  named : Path.isIdle last = false
  forward : last ≠ ".."
  reached : f.walk (f.start path) before = .ok dir
  directory : f.get? dir = some .dir

/-- In a tree, a walk whose last part that is not idle goes back ends at a directory. -/
theorem Tree.dir_of_walk_back {f : Files} (h : f.Tree) {at' before idle names : List String}
    (hi : ∀ part ∈ idle, Path.isIdle part = true) (hwalk : f.walk at' (before ++ ".." :: idle) = .ok names) :
    f.get? names = some .dir := by
  obtain ⟨middle, _, hback⟩ := walk_append_eq_ok.mp hwalk
  obtain ⟨hdir, _, hidle⟩ := walk_cons_eq_ok.mp hback
  rw [walk_idle hi hidle]
  exact h middle (hdir ▸ nofun)

/-- The name of the file beside is a name. -/
theorem scratchName_spec (last : String) :
    Path.isIdle (scratchName last) = false ∧ scratchName last ≠ "" ∧ scratchName last ≠ ".." := by
  have hlength : 9 ≤ (scratchName last).length := by
    have hending : ("json.tmp" : String).length = 8 := by decide
    rw [scratchName, String.length_append, String.length_append, hending]
    exact Nat.add_le_add_right (Nat.le_add_left _ _) 8
  have hshort : ∀ name : String, name.length < 9 → scratchName last ≠ name := by
    rintro name hn rfl
    omega
  refine ⟨?_, hshort "" (by decide), hshort ".." (by decide)⟩
  rw [Path.isIdle, Bool.or_eq_false_iff, beq_eq_false_iff_ne, beq_eq_false_iff_ne]
  exact ⟨hshort "" (by decide), hshort "." (by decide)⟩

/-- A text that can be written beside a file is written into its directory, under another name. -/
theorem Tree.write_scratch {f g : Files} (h : f.Tree) {path content : String} (hw : f.write (StateFile.scratch path) content = .ok g) :
    ∃ before last idle dir, Beside f path before last idle dir ∧
      f.get? (dir ++ [scratchName last]) ≠ some .dir ∧ g = f.put (dir ++ [scratchName last]) (.text content) := by
  obtain ⟨names, hresolve, hnot, hput⟩ := write_eq_ok hw
  obtain ⟨_, hwalk⟩ := resolve_eq_ok.mp hresolve
  rw [StateFile.scratch, Path.withExtension] at hresolve hwalk
  cases hsplit : Path.splitLast? path with
  | none =>
    -- the walk stays where it is
    rw [hsplit] at hwalk
    have hidle := Path.splitLast?_eq_none hsplit
    obtain ⟨part, rest, hparts⟩ := List.exists_cons_of_ne_nil (Path.parts_ne_nil path)
    have hend := walk_idle hidle hwalk
    simp only [hparts] at hwalk
    exact absurd (hend ▸ (walk_cons_eq_ok.mp hwalk).1) hnot
  | some split =>
    obtain ⟨before, last⟩ := split
    obtain ⟨idle, hparts, hidle, hnamed⟩ := Path.splitLast?_eq_some hsplit
    simp only [hsplit] at hwalk
    by_cases hback : last = ".."
    · subst hback
      rw [if_pos rfl, hparts] at hwalk
      exact absurd (h.dir_of_walk_back hidle hwalk) hnot
    · rw [if_neg hback] at hwalk
      split at hwalk
      · rw [Path.parts_beside hparts (by decide : '/' ∉ (".." : String).toList)] at hwalk
        exact absurd (h.dir_of_walk_back (fun _ hp => absurd hp List.not_mem_nil) hwalk) hnot
      · obtain ⟨hscratch, hempty, hdots⟩ := scratchName_spec last
        have hlast : '/' ∉ last.toList := Path.not_mem_of_mem_parts (hparts ▸ by simp : last ∈ Path.parts path)
        have hname : '/' ∉ (scratchName last).toList := by
          simp only [scratchName, String.toList_append, List.mem_append, not_or]
          exact ⟨⟨fun hm => hlast (Path.mem_of_mem_stem hm), by decide⟩, by decide⟩
        have hbeside := Path.parts_beside hparts hname
        have hwalk : f.walk (f.start ("/".intercalate (before ++ [scratchName last])))
            (Path.parts ("/".intercalate (before ++ [scratchName last]))) = .ok names := hwalk
        have hne : last ≠ "" := fun he => absurd (he ▸ hnamed) (by decide)
        rw [start_of_parts hparts hbeside hne hempty, hbeside] at hwalk
        obtain ⟨dir, hreached, hlastStep⟩ := walk_append_eq_ok.mp hwalk
        obtain ⟨hdir, _, hend⟩ := walk_cons_eq_ok.mp hlastStep
        obtain rfl : dir ++ [scratchName last] = names := by
          rw [step, if_neg (by simp [hscratch]), if_neg hdots] at hend
          exact Except.ok.inj hend
        exact ⟨before, last, idle, dir, ⟨hsplit, hparts, hidle, hnamed, hback, hreached, hdir⟩, hnot, hput⟩

/-! ## What is read after directories were made -/

/-- What an entry is read as. -/
def readEntry : Option Entry → Except FileFault String
  | none => .error .notFound
  | some .dir => .error .isADirectory
  | some .binary => .error .notText
  | some (.text content) => .ok content

/-- What is read under a path is what it resolves to. -/
theorem read_eq (f : Files) (path : String) : f.read path = (f.resolve path).bind fun names => readEntry (f.get? names) := by
  rw [read]
  cases f.resolve path with
  | error e => rfl
  | ok names =>
    simp only [bind, Except.bind]
    rcases f.get? names with _ | _ | _ | _ <;> rfl

/-- The same is read where the same is found. -/
theorem read_congr {f g : Files} (hw : g.workdir = f.workdir) (h : ∀ names, g.get? names = f.get? names) (path : String) :
    g.read path = f.read path := by
  have henter : g.enter = f.enter := by
    funext at' part
    rw [enter, enter, h]
  have hresolve : g.resolve path = f.resolve path := by
    rw [resolve, resolve, henter, hw]
  simp only [read_eq, hresolve, h]

/-- Nothing is read where a walk does not find its way, and where it ends at nothing. -/
theorem read_eq_notFound {f : Files} {path : String} (hu : unusable? path = none)
    (h : ∀ result, f.walk (f.start path) (Path.parts path) = result →
      result = .error .notFound ∨ ∃ names, result = .ok names ∧ f.get? names = none) :
    f.read path = .error .notFound := by
  rw [read_eq, resolve_eq, hu]
  rcases h _ rfl with he | ⟨names, he, hn⟩
  · simp only [he]
    rfl
  · simp only [he]
    change readEntry (f.get? names) = _
    rw [hn]
    rfl

section Grown

variable {f g : Files} {path : String} {before : List String} {last : String} {idle : List String}

/-- Where a path already leads to the last directory, no directory is made. -/
theorem Grown.get?_of_walk (h : Grown before f g) (hp : Path.parts path = before ++ last :: idle) {names : List String}
    (hwalk : f.walk (f.start path) (Path.parts path) = .ok names) (other : List String) : g.get? other = f.get? other := by
  rcases h.grown other with he | ⟨hnone, _, first, ⟨rest, hfirst⟩, hresolve⟩
  · exact he
  · -- the first parts lead to a directory, since the others lead on from it
    have hprefix : first <+: Path.parts path := by
      rw [hp, ← hfirst, List.append_assoc]
      exact List.prefix_append _ _
    have hreached := walk_of_resolve_prefix hprefix hresolve
    rw [hp, ← hfirst, List.append_assoc] at hwalk
    obtain ⟨middle, hmiddle, hon⟩ := walk_append_eq_ok.mp hwalk
    have hdir : f.get? middle = some .dir := by
      cases rest with
      | nil => exact (walk_cons_eq_ok.mp hon).1
      | cons part rest => exact (walk_cons_eq_ok.mp hon).1
    rw [start_of_workdir h.workdir, walk_of_stays h.stays hmiddle] at hreached
    rw [← Except.ok.inj hreached, hdir] at hnone
    exact absurd hnone nofun

section Missing

variable {first rest middle : List String} (htree : f.Tree) (h : Grown before f g)
  (hp : Path.parts path = before ++ last :: idle) (hnamed : Path.isIdle last = false) (hparts : Path.parts path = first ++ rest)
  (hwalk : f.walk (f.start path) first = .ok middle) (hnone : f.get? middle = none)
  (hon : ∀ part ∈ rest, part ≠ ".." ∧ part.utf8ByteSize ≤ longestName)

include h hwalk in
/-- What the path leads to before it comes to what is missing is a directory already. -/
theorem Grown.dir_before {less more at' : List String} {part : String} (hfirst : first = less ++ part :: more)
    (hless : g.walk (f.start path) less = .ok at') : f.get? at' = some .dir ∧ part.utf8ByteSize ≤ longestName := by
  rw [hfirst] at hwalk
  obtain ⟨place, hplace, hmore⟩ := walk_append_eq_ok.mp hwalk
  obtain ⟨hdir, hsize, _⟩ := walk_cons_eq_ok.mp hmore
  rw [walk_of_stays h.stays hplace] at hless
  exact Except.ok.inj hless ▸ ⟨hdir, hsize⟩

include htree h hwalk hnone hon in
/-- What the path leads to after it came to what is missing was missing too, and is told by the names on the way. -/
theorem Grown.none_behind {more at' : List String} (hmore : more <+: rest) (hat : g.walk (f.start path) (first ++ more) = .ok at') :
    at' = middle ++ more.filter (fun part => !Path.isIdle part) ∧ f.get? at' = none := by
  obtain ⟨place, hplace, hforward⟩ := walk_append_eq_ok.mp hat
  rw [walk_of_stays h.stays hwalk] at hplace
  obtain rfl := Except.ok.inj hplace
  have heq := walk_forward (fun hm => (hon _ (hmore.subset hm)).1 rfl) hforward
  exact ⟨heq, heq ▸ htree.get?_append_of_none hnone _⟩

/-- A list that is split at an element and split in two elsewhere: the element is in the first or in the second of the two. -/
theorem split_cases {α : Type} {less more first rest : List α} {a : α} (h : less ++ a :: more = first ++ rest) :
    (∃ c, first = less ++ a :: c) ∨ ∃ c, less = first ++ c ∧ rest = c ++ a :: more := by
  rcases List.append_eq_append_iff.mp h with ⟨c, hfirst, hmore⟩ | ⟨c, hless, hrest⟩
  · cases c with
    | nil => exact Or.inr ⟨[], by simpa using hfirst.symm, by simpa using hmore.symm⟩
    | cons b c =>
      obtain ⟨rfl, _⟩ := List.cons.inj hmore
      exact Or.inl ⟨c, hfirst⟩
  · exact Or.inr ⟨c, hless, hrest⟩

include htree h hparts hwalk hnone hon in
/-- A walk that comes to what was missing can only fail at what is still missing. -/
theorem Grown.walk_error_of_missing {e : FileFault} (he : g.walk (f.start path) (Path.parts path) = .error e) : e = .notFound := by
  obtain ⟨less, part, more, at', hsplit, hless, henter⟩ := walk_eq_error he
  have hok : g.get? at' = some .dir → part.utf8ByteSize ≤ longestName → False := by
    intro hdir hsize
    rw [enter_of_dir hdir, if_neg (Nat.not_lt.mpr hsize)] at henter
    exact absurd henter nofun
  rcases split_cases (hsplit.symm.trans hparts) with ⟨c, hfirst⟩ | ⟨c, hless', hrest⟩
  · obtain ⟨hdir, hsize⟩ := h.dir_before hwalk hfirst hless
    exact (hok (h.stays _ hdir) hsize).elim
  · obtain ⟨_, hno⟩ := h.none_behind htree hwalk hnone hon ⟨_, hrest.symm⟩ (hless' ▸ hless)
    rcases h.grown at' with hsame | ⟨_, hdir, _⟩
    · rw [enter_of_none (hsame.trans hno)] at henter
      exact (Except.error.inj henter).symm
    · exact (hok hdir (hon part (hrest ▸ by simp)).2).elim

include htree h hp hnamed hparts hwalk hnone hon in
/-- A walk that comes to what was missing ends at nothing, because the last name is no directory that was made. -/
theorem Grown.none_of_missing {names : List String} (he : g.walk (f.start path) (Path.parts path) = .ok names) :
    g.get? names = none := by
  obtain ⟨hall, hno⟩ := h.none_behind htree hwalk hnone hon List.prefix_rfl (hparts ▸ he)
  rcases h.grown names with hsame | ⟨_, _, some', ⟨more, hsome⟩, hresolve⟩
  · exact hsame.trans hno
  · have hprefix : some' <+: Path.parts path := by
      rw [hp, ← hsome, List.append_assoc]
      exact List.prefix_append _ _
    have hreached := walk_of_resolve_prefix hprefix hresolve
    rw [start_of_workdir h.workdir] at hreached
    have hsplit : some' ++ (more ++ last :: idle) = first ++ rest := by
      rw [← List.append_assoc, hsome, ← hp, hparts]
    obtain ⟨part, tail, htail⟩ := List.exists_cons_of_ne_nil (by simp : more ++ last :: idle ≠ [])
    rcases split_cases (htail ▸ hsplit) with ⟨c, hfirst⟩ | ⟨c, hsome', hrest⟩
    · rw [(h.dir_before hwalk hfirst hreached).1] at hno
      exact absurd hno nofun
    · obtain ⟨hearly, _⟩ := h.none_behind htree hwalk hnone hon ⟨_, hrest.symm⟩ (hsome' ▸ hreached)
      -- the last name would have to be idle
      have hfilter := List.append_cancel_left (hall.symm.trans hearly)
      rw [hrest, ← htail, List.filter_append, List.append_right_eq_self, List.filter_eq_nil_iff] at hfilter
      exact absurd (hfilter last (by simp)) (by simp [hnamed])

end Missing

/-- What is read is as it was before directories were made, unless the path strays. -/
theorem Grown.read_eq (htree : f.Tree) (h : Grown before f g) (hsplit : Path.splitLast? path = some (before, last))
    (hs : f.strays (f.start path) (Path.parts path) = false) : g.read path = f.read path := by
  obtain ⟨idle, hp, _, hnamed⟩ := Path.splitLast?_eq_some hsplit
  have hstart : g.start path = f.start path := start_of_workdir h.workdir path
  cases hu : unusable? path with
  | some e =>
    have hunread : ∀ k : Files, k.read path = .error e := by
      intro k
      rw [Files.read_eq, resolve_eq, hu]
      rfl
    rw [hunread, hunread]
  | none =>
    cases hwalk : f.walk (f.start path) (Path.parts path) with
    | ok names => exact read_congr h.workdir (h.get?_of_walk hp hwalk) path
    | error e =>
      by_cases he : e = .notFound
      · subst he
        obtain ⟨first, part, more, middle, hparts, hfirst, henter⟩ := walk_eq_error hwalk
        have hnone := enter_eq_notFound.mp henter
        have hon := forward_of_strays (hparts ▸ hs) hfirst hnone
        rw [read_eq_notFound hu fun result hr => Or.inl (hr.symm.trans hwalk)]
        refine read_eq_notFound hu fun result hr => ?_
        rw [hstart] at hr
        cases result with
        | error e => exact Or.inl (congrArg _ (h.walk_error_of_missing htree hparts hfirst hnone hon hr))
        | ok names => exact Or.inr ⟨names, rfl, h.none_of_missing htree hp hnamed hparts hfirst hnone hon hr⟩
      · have hagain := walk_error_of_stays h.stays (fun names entry hn hd => ⟨entry, h.get?_of_some hn, hd⟩) he hwalk
        rw [Files.read_eq, Files.read_eq, resolve_eq, resolve_eq, hu, hstart]
        simp only [hwalk, hagain]
        rfl

end Grown

/-- Idle parts lead to the same from where the same is found. -/
theorem walk_idle_congr {f g : Files} {at' idle : List String} (hi : ∀ part ∈ idle, Path.isIdle part = true)
    (hget : g.get? at' = f.get? at') : g.walk at' idle = f.walk at' idle := by
  induction idle with
  | nil => rfl
  | cons part rest ih =>
    have henter : g.enter at' part = f.enter at' part := by
      rw [enter, enter, hget]
    rw [walk_cons, walk_cons, henter]
    cases he : f.enter at' part with
    | error e => rfl
    | ok next =>
      obtain ⟨_, _, hnext⟩ := dir_of_enter he
      rw [step, if_pos (hi part List.mem_cons_self)] at hnext
      subst hnext
      exact ih fun p hp => hi p (List.mem_cons_of_mem part hp)

/-- A path with a file beside it resolves to a place in the same directory. -/
theorem Beside.resolve_eq {f : Files} {path last : String} {before idle dir : List String} (h : Beside f path before last idle dir) :
    f.resolve path = match unusable? path with
      | some e => .error e
      | none => if longestName < last.utf8ByteSize then .error .longName else f.walk (dir ++ [last]) idle := by
  rw [Files.resolve_eq]
  cases unusable? path with
  | some e => rfl
  | none =>
    have hstep : step dir last = dir ++ [last] := by
      rw [step, if_neg (by simp [h.named]), if_neg h.forward]
    simp only
    rw [h.parts, walk_append, h.reached]
    change f.walk dir (last :: idle) = _
    rw [walk_cons, enter_of_dir h.directory, hstep]
    split <;> rfl

/-- What is read is as it was before a text was written beside the file. -/
theorem Beside.read_put {f : Files} {path last : String} {before idle dir : List String} (h : Beside f path before last idle dir)
    (hn : f.get? (dir ++ [scratchName last]) ≠ some .dir) (content : String) :
    (f.put (dir ++ [scratchName last]) (.text content)).read path = f.read path := by
  have hne : dir ++ [scratchName last] ≠ [] := by simp
  have hname : scratchName last ≠ last := Path.stem_append_ne (by decide) last
  generalize hg : f.put (dir ++ [scratchName last]) (.text content) = g
  have hget : ∀ other, other ≠ dir ++ [scratchName last] → g.get? other = f.get? other := by
    intro other ho
    rw [← hg, get?_put _ hne, if_neg ho]
  have hstays : Stays f g := by
    intro names hd
    rw [hget names fun he => hn (he ▸ hd), hd]
  have hworkdir : g.workdir = f.workdir := hg ▸ rfl
  have hfile : g.get? (dir ++ [last]) = f.get? (dir ++ [last]) := hget _ (by simpa using Ne.symm hname)
  have hbeside : Beside g path before last idle dir :=
    { h with reached := start_of_workdir hworkdir path ▸ walk_of_stays hstays h.reached, directory := hstays _ h.directory }
  rw [read_eq, read_eq, h.resolve_eq, hbeside.resolve_eq, walk_idle_congr h.idle hfile]
  cases unusable? path with
  | some e => rfl
  | none =>
    simp only
    split
    · rfl
    · cases hwalk : f.walk (dir ++ [last]) idle with
      | error e => rfl
      | ok names =>
        obtain rfl := walk_idle h.idle hwalk
        change readEntry (g.get? (dir ++ [last])) = readEntry (f.get? (dir ++ [last]))
        rw [hfile]

/-! ## Moving the text over the file -/

/-- What a rename does. -/
theorem rename_eq_ok {f g : Files} {source target : String} (h : f.rename source target = .ok g) :
    ∃ names place e, f.resolve source = .ok names ∧ f.resolve target = .ok place ∧ f.get? names = some e ∧
      f.get? place ≠ some .dir ∧ g = (f.erase names).put place e := by
  rw [rename] at h
  cases hs : f.resolve source with
  | error e =>
    rw [hs] at h
    cases h
  | ok names =>
    rw [hs] at h
    cases ht : f.resolve target with
    | error e =>
      rw [ht] at h
      cases h
    | ok place =>
      simp only [ht, bind, Except.bind] at h
      cases hn : f.get? names with
      | none =>
        rw [hn] at h
        cases h
      | some e =>
        rw [hn] at h
        by_cases hp : f.get? place = some .dir
        · rw [hp] at h
          cases h
        · have hmoved : (if target.toList.getLast? = some '/' then .error FileFault.notADirectory
              else .ok ((f.erase names).put place e)) = Except.ok g := by
            rcases hq : f.get? place with _ | (_ | _ | _)
            · rwa [hq] at h
            · exact absurd hq hp
            · rwa [hq] at h
            · rwa [hq] at h
          split at hmoved
          · cases hmoved
          · exact ⟨names, place, e, rfl, rfl, hn, hp, (Except.ok.inj hmoved).symm⟩

end Files

end Herald
