import Herald.Files
import Mathlib.Data.List.Infix

/-!
# The tree of files

Every entry of a tree of files lies in a directory, and the operations on files keep it a tree. What a path leads to depends on the
directories on the way only: it stays where all directories stay (`walk_of_stays`).
-/

namespace Herald.Files

/-! ## Entries -/

/-- The root is a directory. -/
@[simp] theorem get?_nil (f : Files) : f.get? [] = some .dir :=
  rfl

/-- An entry below the root is found by its names. -/
theorem get?_of_ne_nil (f : Files) {names : List String} (h : names ≠ []) :
    f.get? names = (f.entries.find? fun p => p.1 == names).map (·.2) := by
  rw [get?, List.isEmpty_eq_false_iff.mpr h]
  rfl

/-- What is found after an entry was stored. -/
theorem get?_put (f : Files) {names : List String} (hn : names ≠ []) (e : Entry) (other : List String) :
    (f.put names e).get? other = if other = names then some e else f.get? other := by
  by_cases ho : other = []
  · rw [ho, get?_nil, if_neg (Ne.symm hn), get?_nil]
  · rw [get?_of_ne_nil _ ho, get?_of_ne_nil _ ho, put]
    by_cases he : other = names
    · simp [he]
    · have hne : (names == other) = false := by simpa using Ne.symm he
      have hfilter : ∀ l : List (List String × Entry),
          (l.filter fun p => p.1 != names).find? (fun p => p.1 == other) = l.find? fun p => p.1 == other := by
        intro l
        rw [List.find?_filter]
        congr 1
        funext p
        by_cases hp : p.1 = other
        · simp [hp, he]
        · simp [hp]
      rw [if_neg he, List.find?_cons, hne, hfilter]

/-- What is found after an entry was removed. -/
theorem get?_erase (f : Files) {names : List String} (hn : names ≠ []) (other : List String) :
    (f.erase names).get? other = if names <+: other then none else f.get? other := by
  by_cases ho : other = []
  · rw [ho, get?_nil, get?_nil, if_neg fun h => hn (List.prefix_nil.mp h)]
  · rw [get?_of_ne_nil _ ho, get?_of_ne_nil _ ho, erase, List.find?_filter]
    split
    · next h =>
      rw [Option.map_eq_none_iff, List.find?_eq_none]
      intro p _
      by_cases hp : p.1 = other
      · simp [hp, h]
      · simp [hp]
    · next h =>
      congr 2
      funext p
      by_cases hp : p.1 = other
      · simp [hp, ← Bool.not_eq_true, h]
      · simp [hp]

/-! ## Trees -/

/-- Files of which each lies in a directory. -/
def Tree (f : Files) : Prop :=
  ∀ names, f.get? names ≠ none → f.get? names.dropLast = some .dir

/-- The root alone is a tree. -/
theorem tree_of_empty {f : Files} (h : f.entries = []) : f.Tree := by
  intro names hn
  by_cases hnil : names = []
  · rw [hnil]
    rfl
  · rw [get?_of_ne_nil _ hnil, h] at hn
    exact absurd rfl hn

/-- Everything on the way to an entry of a tree is a directory. -/
theorem Tree.get?_of_append {f : Files} (h : f.Tree) {names more : List String} (hm : more ≠ [])
    (he : f.get? (names ++ more) ≠ none) : f.get? names = some .dir := by
  induction more using List.reverseRecOn with
  | nil => exact absurd rfl hm
  | append_singleton more last ih =>
    have hdir := h _ he
    rw [← List.append_assoc, List.dropLast_concat] at hdir
    by_cases hnil : more = []
    · rwa [hnil, List.append_nil] at hdir
    · exact ih hnil (hdir ▸ nofun)

/-- Below what is missing, everything is missing. -/
theorem Tree.get?_append_of_none {f : Files} (h : f.Tree) {names : List String} (hn : f.get? names = none) (more : List String) :
    f.get? (names ++ more) = none := by
  by_cases hm : more = []
  · rwa [hm, List.append_nil]
  · by_contra he
    rw [h.get?_of_append hm he] at hn
    exact absurd hn nofun

/-- An entry in a directory can be stored, unless it replaces a directory. -/
theorem Tree.put {f : Files} (h : f.Tree) {names : List String} (hn : f.get? names ≠ some .dir)
    (hdir : f.get? names.dropLast = some .dir) (e : Entry) : (f.put names e).Tree := by
  have hne : names ≠ [] := fun hnil => hn (hnil ▸ rfl)
  have hlast : names.dropLast ≠ names := fun he => hn (he ▸ hdir)
  intro other ho
  rw [get?_put _ hne] at ho ⊢
  by_cases he : other = names
  · rw [he, if_neg hlast]
    exact hdir
  · rw [if_neg he] at ho
    have hother := h other ho
    rw [if_neg fun (hd : other.dropLast = names) => hn (hd ▸ hother)]
    exact hother

/-- An entry can be removed with everything below it. -/
theorem Tree.erase {f : Files} (h : f.Tree) {names : List String} (hn : names ≠ []) : (f.erase names).Tree := by
  intro other ho
  rw [get?_erase _ hn] at ho ⊢
  by_cases he : names <+: other
  · rw [if_pos he] at ho
    exact absurd rfl ho
  · rw [if_neg he] at ho
    rw [if_neg fun hd => he (hd.trans (List.dropLast_prefix other))]
    exact h other ho

/-! ## Steps of a walk -/

/-- Where a part leads from a directory. -/
def step (at' : List String) (part : String) : List String :=
  if Path.isIdle part then at' else if part = ".." then at'.dropLast else at' ++ [part]

/-- A part leads on from a directory, unless it is too long. -/
theorem enter_of_dir {f : Files} {at' : List String} (h : f.get? at' = some .dir) (part : String) :
    f.enter at' part = if longestName < part.utf8ByteSize then .error .longName else .ok (step at' part) := by
  have hdots : ("..").utf8ByteSize ≤ longestName := by decide
  have hidle : Path.isIdle part = true → part.utf8ByteSize ≤ longestName := by
    rw [Path.isIdle, Bool.or_eq_true, beq_iff_eq, beq_iff_eq]
    rintro (rfl | rfl) <;> decide
  rw [enter, h]
  simp only [step]
  by_cases hi : Path.isIdle part = true
  · rw [if_pos hi, if_pos hi, if_neg (Nat.not_lt.mpr (hidle hi))]
  · rw [if_neg hi, if_neg hi]
    by_cases hd : part = ".."
    · rw [if_pos hd, if_pos hd, hd, if_neg (Nat.not_lt.mpr hdots)]
    · rw [if_neg hd, if_neg hd]

/-- Nothing leads on from what is missing. -/
theorem enter_of_none {f : Files} {at' : List String} (h : f.get? at' = none) (part : String) :
    f.enter at' part = .error .notFound := by
  rw [enter, h]

/-- Nothing leads on from a file. -/
theorem enter_of_file {f : Files} {at' : List String} {e : Entry} (h : f.get? at' = some e) (he : e ≠ .dir) (part : String) :
    f.enter at' part = .error .notADirectory := by
  rw [enter, h]
  cases e with
  | dir => exact absurd rfl he
  | text content => rfl
  | binary => rfl

/-- What leads on is a directory. -/
theorem dir_of_enter {f : Files} {at' next : List String} {part : String} (h : f.enter at' part = .ok next) :
    f.get? at' = some .dir ∧ part.utf8ByteSize ≤ longestName ∧ next = step at' part := by
  cases hg : f.get? at' with
  | none =>
    rw [enter_of_none hg] at h
    exact absurd h nofun
  | some e =>
    by_cases he : e = .dir
    · subst he
      rw [enter_of_dir hg] at h
      split at h
      · exact absurd h nofun
      · next hs => exact ⟨rfl, Nat.not_lt.mp hs, (Except.ok.inj h).symm⟩
    · rw [enter_of_file hg he] at h
      exact absurd h nofun

/-! ## Walks -/

/-- Follows the parts of a path. -/
def walk (f : Files) (at' : List String) (parts : List String) : Except FileFault (List String) :=
  parts.foldlM f.enter at'

/-- Without parts, a walk stays where it is. -/
@[simp] theorem walk_nil (f : Files) (at' : List String) : f.walk at' [] = .ok at' :=
  rfl

/-- A walk takes its first step first. -/
theorem walk_cons (f : Files) (at' : List String) (part : String) (rest : List String) :
    f.walk at' (part :: rest) = (f.enter at' part).bind fun next => f.walk next rest :=
  List.foldlM_cons

/-- A walk can be taken in two. -/
theorem walk_append (f : Files) (at' : List String) (first second : List String) :
    f.walk at' (first ++ second) = (f.walk at' first).bind fun middle => f.walk middle second :=
  List.foldlM_append

/-- A walk that gets somewhere gets to a place in between. -/
theorem walk_append_eq_ok {f : Files} {at' first second names : List String} :
    f.walk at' (first ++ second) = .ok names ↔ ∃ middle, f.walk at' first = .ok middle ∧ f.walk middle second = .ok names := by
  rw [walk_append]
  cases f.walk at' first with
  | error e => exact ⟨nofun, nofun⟩
  | ok middle => exact ⟨fun h => ⟨middle, rfl, h⟩, fun ⟨_, hm, h⟩ => Except.ok.inj hm ▸ h⟩

/-- A walk that gets somewhere takes its first step. -/
theorem walk_cons_eq_ok {f : Files} {at' rest names : List String} {part : String} :
    f.walk at' (part :: rest) = .ok names ↔
      f.get? at' = some .dir ∧ part.utf8ByteSize ≤ longestName ∧ f.walk (step at' part) rest = .ok names := by
  rw [walk_cons]
  constructor
  · intro h
    cases he : f.enter at' part with
    | error e =>
      rw [he] at h
      exact absurd h nofun
    | ok next =>
      obtain ⟨hdir, hsize, rfl⟩ := dir_of_enter he
      rw [he] at h
      exact ⟨hdir, hsize, h⟩
  · rintro ⟨hdir, hsize, h⟩
    rw [enter_of_dir hdir, if_neg (Nat.not_lt.mpr hsize)]
    exact h

/-- A walk that fails fails at a step that it comes to. -/
theorem walk_eq_error {f : Files} {at' parts : List String} {e : FileFault} (h : f.walk at' parts = .error e) :
    ∃ before part rest middle, parts = before ++ part :: rest ∧ f.walk at' before = .ok middle ∧ f.enter middle part = .error e := by
  induction parts generalizing at' with
  | nil => exact absurd h nofun
  | cons part rest ih =>
    rw [walk_cons] at h
    cases he : f.enter at' part with
    | error e' =>
      rw [he] at h
      obtain rfl : e' = e := Except.error.inj h
      exact ⟨[], part, rest, at', rfl, rfl, he⟩
    | ok next =>
      rw [he] at h
      obtain ⟨before, part', rest', middle, hparts, hwalk, henter⟩ := ih h
      refine ⟨part :: before, part', rest', middle, by rw [hparts, List.cons_append], ?_, henter⟩
      rw [walk_cons, he]
      exact hwalk

/-- A walk that fails at a step fails. -/
theorem walk_of_enter_error {f : Files} {at' before rest middle : List String} {part : String} {e : FileFault}
    (hwalk : f.walk at' before = .ok middle) (henter : f.enter middle part = .error e) :
    f.walk at' (before ++ part :: rest) = .error e := by
  rw [walk_append, hwalk]
  change f.walk middle (part :: rest) = _
  rw [walk_cons, henter]
  rfl

/-- A walk without parts that go back adds the other parts. -/
theorem walk_forward {f : Files} {at' parts names : List String} (hback : ".." ∉ parts) (h : f.walk at' parts = .ok names) :
    names = at' ++ parts.filter fun part => !Path.isIdle part := by
  induction parts generalizing at' with
  | nil => simpa using (Except.ok.inj h).symm
  | cons part rest ih =>
    obtain ⟨hne, hrest⟩ := not_or.mp (mt List.mem_cons.mpr hback)
    obtain ⟨_, _, hwalk⟩ := walk_cons_eq_ok.mp h
    rw [ih hrest hwalk, step]
    by_cases hi : Path.isIdle part = true
    · rw [if_pos hi, List.filter_cons_of_neg (by simp [hi])]
    · rw [if_neg hi, if_neg (Ne.symm hne), List.filter_cons_of_pos (by simp [hi]), List.append_assoc, List.singleton_append]

/-- A walk stays where it is for idle parts. -/
theorem walk_idle {f : Files} {at' parts names : List String} (hi : ∀ part ∈ parts, Path.isIdle part = true)
    (h : f.walk at' parts = .ok names) : names = at' := by
  have hback : ".." ∉ parts := fun hm => absurd (hi _ hm) (by decide)
  have hnone : (parts.filter fun part => !Path.isIdle part) = [] := by
    rw [List.filter_eq_nil_iff]
    intro part hp
    simp [hi part hp]
  rw [walk_forward hback h, hnone, List.append_nil]

/-! ## Walks in files that grow -/

/-- Files with the directories of others. -/
def Stays (f g : Files) : Prop :=
  ∀ names, f.get? names = some .dir → g.get? names = some .dir

/-- A walk gets to the same place where all directories stay. -/
theorem walk_of_stays {f g : Files} (hs : Stays f g) {at' parts names : List String} (h : f.walk at' parts = .ok names) :
    g.walk at' parts = .ok names := by
  induction parts generalizing at' with
  | nil => exact h
  | cons part rest ih =>
    obtain ⟨hdir, hsize, hwalk⟩ := walk_cons_eq_ok.mp h
    exact walk_cons_eq_ok.mpr ⟨hs _ hdir, hsize, ih hwalk⟩

/-- A walk that fails at a file or at a name fails the same where files and directories stay. -/
theorem walk_error_of_stays {f g : Files} (hs : Stays f g)
    (hfiles : ∀ names e, f.get? names = some e → e ≠ .dir → ∃ e', g.get? names = some e' ∧ e' ≠ .dir)
    {at' parts : List String} {e : FileFault} (he : e ≠ .notFound) (h : f.walk at' parts = .error e) :
    g.walk at' parts = .error e := by
  obtain ⟨before, part, rest, middle, rfl, hwalk, henter⟩ := walk_eq_error h
  refine walk_of_enter_error (walk_of_stays hs hwalk) ?_
  cases hg : f.get? middle with
  | none =>
    rw [enter_of_none hg] at henter
    exact absurd (Except.error.inj henter).symm he
  | some entry =>
    by_cases hd : entry = .dir
    · subst hd
      rw [enter_of_dir hg] at henter
      rw [enter_of_dir (hs _ hg)]
      exact henter
    · rw [enter_of_file hg hd] at henter
      obtain ⟨entry', hg', hd'⟩ := hfiles middle entry hg hd
      rw [enter_of_file hg' hd']
      exact henter

end Herald.Files
