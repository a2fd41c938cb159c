import Herald.Proofs.FileReading
import Herald.Proofs.SnapshotText

/-!
# Saving to a file

Of a save that succeeds what its document tells is loaded again (`load_of_save`). One that fails, at whatever step, leaves what is loaded as
it was, but for paths that stray (`load_of_save_error`). Either way the files stay a tree.
-/

namespace Herald

namespace StateFile

open Files (Grown)

/-- The same is loaded where the same is read. -/
theorem load_congr {f g : Files} {path : String} (h : g.read path = f.read path) : load g path = load f path := by
  rw [load, load, h]

/-- Making the directory of a file adds directories on the way to it, and nothing else. -/
theorem saveDirectory_cases (refusal : Option Refusal) (f : Files) (path : String) :
    (saveDirectory refusal f path).1 = f ∨
      ∃ before last reversed, Path.splitLast? path = some (before, last) ∧ List.reverse reversed <+: before ∧
        (saveDirectory refusal f path).1 = (f.makeDirs reversed).1 := by
  rw [saveDirectory]
  cases hp : Path.parent? path with
  | none => exact Or.inl rfl
  | some parts =>
    rw [Path.parent?] at hp
    split at hp
    · exact absurd hp nofun
    · next before last hsplit =>
      split at hp
      · exact absurd hp nofun
      · obtain rfl := Option.some.inj hp
        have hbefore : before.reverse.reverse <+: before := by
          rw [List.reverse_reverse]
        rcases refusal with _ | ⟨left, message⟩ | ⟨written, message⟩ | message
        case some.directory =>
          refine Or.inr ⟨before, last, before.reverse.drop left, hsplit, ?_, rfl⟩
          rw [List.drop_reverse, List.reverse_reverse]
          exact List.take_prefix _ _
        all_goals
          refine Or.inr ⟨before, last, before.reverse, hsplit, hbefore, ?_⟩
          simp only
          rcases f.makeDirs before.reverse with ⟨files, e | _⟩ <;> rfl

/-- Writing the text beside the file writes a text there, the whole of it if it succeeds, or nothing. -/
theorem saveText_cases (refusal : Option Refusal) (f : Files) (path : String) (s : Snapshot) :
    ((saveText refusal f path s).1 = f ∧ ∃ failure, (saveText refusal f path s).2 = .error failure) ∨
      ∃ content, f.write (scratch path) content = .ok (saveText refusal f path s).1 ∧
        ((saveText refusal f path s).2 = .ok () → content = s.toText) := by
  unfold saveText
  rcases refusal with _ | ⟨left, message⟩ | ⟨_ | written, message⟩ | message
  case some.write.none => exact Or.inl ⟨rfl, _, rfl⟩
  case some.write.some =>
    dsimp only
    cases hw : f.write (scratch path) written with
    | error e => exact Or.inl ⟨rfl, _, rfl⟩
    | ok files => exact Or.inr ⟨written, hw, nofun⟩
  all_goals
    dsimp only
    cases hw : f.write (scratch path) s.toText with
    | error e => exact Or.inl ⟨rfl, _, rfl⟩
    | ok files => exact Or.inr ⟨s.toText, hw, fun _ => rfl⟩

/-- What a save leaves, and what it has done if it succeeds: directories are made, a text is written beside the file, and the text is
moved over the file. -/
theorem save_cases (refusal : Option Refusal) (f : Files) (path : String) (s : Snapshot) :
    (∃ failure, (save refusal f path s).2 = .error failure ∧
      ((save refusal f path s).1 = (saveDirectory refusal f path).1 ∨
        ∃ content, (saveDirectory refusal f path).1.write (scratch path) content = .ok (save refusal f path s).1)) ∨
      ∃ k, (saveDirectory refusal f path).1.write (scratch path) s.toText = .ok k ∧
        k.rename (scratch path) path = .ok (save refusal f path s).1 ∧ (save refusal f path s).2 = .ok () := by
  unfold save
  cases hd : saveDirectory refusal f path with
  | mk d result =>
    cases result with
    | error failure => exact Or.inl ⟨failure, rfl, Or.inl rfl⟩
    | ok _ =>
      dsimp only
      have htext := saveText_cases refusal d path s
      cases hw : saveText refusal d path s with
      | mk k result =>
        rw [hw] at htext
        cases result with
        | error failure =>
          refine Or.inl ⟨failure, rfl, ?_⟩
          rcases htext with ⟨hsame, _⟩ | ⟨content, hcontent, _⟩
          · exact Or.inl hsame
          · exact Or.inr ⟨content, hcontent⟩
        | ok _ =>
          rcases htext with ⟨_, failure, hfailure⟩ | ⟨content, hcontent, hwhole⟩
          · exact absurd hfailure nofun
          · obtain rfl := hwhole rfl
            dsimp only
            cases hr : saveRename refusal k path with
            | error failure => exact Or.inl ⟨failure, rfl, Or.inr ⟨_, hcontent⟩⟩
            | ok g =>
              refine Or.inr ⟨k, hcontent, ?_, rfl⟩
              unfold saveRename at hr
              split at hr
              · exact absurd hr nofun
              · split at hr
                · next hm => exact hm.trans (congrArg _ (Except.ok.inj hr))
                · exact absurd hr nofun

/-- Making the directory of a file keeps files a tree. -/
theorem tree_saveDirectory {f : Files} (h : f.Tree) (refusal : Option Refusal) (path : String) :
    (saveDirectory refusal f path).1.Tree := by
  rcases saveDirectory_cases refusal f path with he | ⟨_, _, reversed, _, _, he⟩
  · rwa [he]
  · rw [he]
    exact h.makeDirs reversed

/-- Making the directory of a file leaves what is read under its path, unless the path strays. -/
theorem read_saveDirectory {f : Files} (h : f.Tree) {path : String} (hs : f.strays (f.start path) (Path.parts path) = false)
    (refusal : Option Refusal) : (saveDirectory refusal f path).1.read path = f.read path := by
  rcases saveDirectory_cases refusal f path with he | ⟨before, last, reversed, hsplit, hprefix, he⟩
  · rw [he]
  · rw [he]
    exact ((f.grown_makeDirs reversed).mono hprefix).read_eq h hsplit hs

/-- A save that fails, at whatever step, leaves what is loaded as it was, unless the path strays. -/
theorem load_of_save_error {f : Files} (h : f.Tree) {path : String} (hs : f.strays (f.start path) (Path.parts path) = false)
    {refusal : Option Refusal} {s : Snapshot} {failure : Failure} (he : (save refusal f path s).2 = .error failure) :
    load (save refusal f path s).1 path = load f path := by
  have htree := tree_saveDirectory h refusal path
  refine load_congr (Eq.trans ?_ (read_saveDirectory h hs refusal))
  rcases save_cases refusal f path s with ⟨_, _, hsame | ⟨content, hw⟩⟩ | ⟨_, _, _, hok⟩
  · rw [hsame]
  · obtain ⟨before, last, idle, dir, hbeside, hnot, hput⟩ := htree.write_scratch hw
    rw [hput]
    exact hbeside.read_put hnot content
  · rw [hok] at he
    exact absurd he nofun

/-- A text written beside a file is found under the path that it was written to. -/
theorem read_scratch {f k : Files} {path content : String} (hw : f.write path content = .ok k) :
    ∃ names, k.resolve path = .ok names ∧ k.get? names = some (.text content) := by
  obtain ⟨names, hresolve, hnot, rfl⟩ := Files.write_eq_ok hw
  have hne : names ≠ [] := fun hnil => hnot (hnil ▸ rfl)
  have hstays : Files.Stays f (f.put names (.text content)) := by
    intro other hd
    rw [Files.get?_put _ hne, if_neg fun (he : other = names) => hnot (he ▸ hd), hd]
  refine ⟨names, Files.resolve_of_stays hstays rfl hresolve, ?_⟩
  · rw [Files.get?_put _ hne, if_pos rfl]

/-- A text that can be written into a tree leaves a tree. -/
theorem tree_write {f k : Files} (h : f.Tree) {path content : String} (hw : f.write path content = .ok k) : k.Tree := by
  obtain ⟨names, hresolve, hnot, rfl⟩ := Files.write_eq_ok hw
  exact h.put hnot (h.parent_of_resolve hresolve) _

/-- A text that is moved to a path is read under that path, and the files stay a tree. -/
theorem read_moved {k : Files} (h : k.Tree) {names place : List String} {path content : String}
    (hn : k.get? names = some (.text content)) (hp : k.resolve path = .ok place) (hnot : k.get? place ≠ some .dir) :
    ((k.erase names).put place (.text content)).Tree ∧ ((k.erase names).put place (.text content)).read path = .ok content := by
  have hne : names ≠ [] := by
    rintro rfl
    exact absurd hn nofun
  have hplace : place ≠ [] := fun hnil => hnot (hnil ▸ rfl)
  -- no directory is at the text or below it
  have hdirs : ∀ other, k.get? other = some .dir → (k.erase names).get? other = some .dir := by
    intro other hd
    rw [Files.get?_erase _ hne, if_neg, hd]
    rintro ⟨more, rfl⟩
    by_cases hm : more = []
    · rw [hm, List.append_nil, hn] at hd
      exact absurd hd nofun
    · rw [h.get?_of_append hm (hd ▸ nofun)] at hn
      exact absurd hn nofun
  have herased : (k.erase names).get? place ≠ some .dir := by
    rw [Files.get?_erase _ hne]
    split
    · exact nofun
    · exact hnot
  have htree := (h.erase hne).put herased (hdirs _ (h.parent_of_resolve hp)) (.text content)
  have hstays : Files.Stays k ((k.erase names).put place (.text content)) := by
    intro other hd
    rw [Files.get?_put _ hplace, if_neg fun (he : other = place) => hnot (he ▸ hd)]
    exact hdirs other hd
  refine ⟨htree, ?_⟩
  rw [Files.read_eq, Files.resolve_of_stays hstays rfl hp]
  change Files.readEntry (((k.erase names).put place (.text content)).get? place) = _
  rw [Files.get?_put _ hplace, if_pos rfl]
  rfl

/-- What a save that succeeds leaves: a tree, in which the document is read under the path. -/
theorem read_of_save {f : Files} (h : f.Tree) {refusal : Option Refusal} {path : String} {s : Snapshot}
    (hok : (save refusal f path s).2 = .ok ()) :
    (save refusal f path s).1.Tree ∧ (save refusal f path s).1.read path = .ok s.toText := by
  rcases save_cases refusal f path s with ⟨_, hfailure, _⟩ | ⟨k, hw, hr, _⟩
  · rw [hok] at hfailure
    exact absurd hfailure nofun
  · have htree := tree_write (tree_saveDirectory h refusal path) hw
    obtain ⟨names, hresolve, htext⟩ := read_scratch hw
    obtain ⟨names', place, e, hsource, htarget, he, hnot, hg⟩ := Files.rename_eq_ok hr
    obtain rfl : names = names' := Except.ok.inj (hresolve.symm.trans hsource)
    obtain rfl : .text s.toText = e := Option.some.inj (htext.symm.trans he)
    rw [hg]
    exact read_moved htree htext htarget hnot

/-- A save leaves a tree, whether it fails or not. -/
theorem tree_save {f : Files} (h : f.Tree) (refusal : Option Refusal) (path : String) (s : Snapshot) :
    (save refusal f path s).1.Tree := by
  cases hok : (save refusal f path s).2 with
  | ok _ => exact (read_of_save h hok).1
  | error failure =>
    have htree := tree_saveDirectory h refusal path
    rcases save_cases refusal f path s with ⟨_, _, hsame | ⟨content, hw⟩⟩ | ⟨_, _, _, hsuccess⟩
    · rwa [hsame]
    · exact tree_write htree hw
    · rw [hok] at hsuccess
      exact absurd hsuccess nofun

/-- What was saved is loaded again, as its document tells it. -/
theorem load_of_save {f : Files} (h : f.Tree) {refusal : Option Refusal} {path : String} {s : Snapshot}
    (hv : s.version = Snapshot.currentVersion) (ht : s.targets.Rising) (hok : (save refusal f path s).2 = .ok ()) :
    load (save refusal f path s).1 path = .ok s.written := by
  have hversion : s.written.version = Snapshot.currentVersion := hv
  have hword : s.version < Nat.pow 2 32 := by
    rw [hv]
    decide
  rw [load, (read_of_save h hok).2]
  simp only [Snapshot.ofText?_toText hword ht, hversion, if_true]

end StateFile

end Herald
