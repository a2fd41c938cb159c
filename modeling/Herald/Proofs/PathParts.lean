import Herald.Files.Path
import Mathlib.Data.List.TakeWhile

/-!
# Paths and their parts

A path is told by its parts: they are joined to the path again, and parts without a slash are found again in the path that they are
joined to. The path beside another one that has an ending of its own differs from it in the last name only.
-/

namespace Herald

namespace Text

/-- No part has the sign in it. -/
theorem not_mem_of_mem_partsAt {sign : Char} {cs part : List Char} (h : part ∈ partsAt sign cs) : sign ∉ part := by
  induction cs generalizing part with
  | nil => exact List.mem_singleton.mp h ▸ List.not_mem_nil
  | cons c cs ih =>
    obtain ⟨first, rest, hparts⟩ := List.exists_cons_of_ne_nil (partsAt_ne_nil sign cs)
    rw [partsAt, hparts] at h
    rw [hparts] at ih
    split at h
    · rcases List.mem_cons.mp h with rfl | h
      · exact List.not_mem_nil
      · exact ih h
    · next hc =>
      rcases List.mem_cons.mp h with rfl | h
      · exact fun hm => (List.mem_cons.mp hm).elim (fun he => hc he.symm) (ih List.mem_cons_self)
      · exact ih (List.mem_cons_of_mem _ h)

/-- A text without the sign is its only part. -/
theorem partsAt_of_not_mem {sign : Char} {cs : List Char} (h : sign ∉ cs) : partsAt sign cs = [cs] := by
  induction cs with
  | nil => rfl
  | cons c cs ih =>
    obtain ⟨hne, hrest⟩ := not_or.mp (mt List.mem_cons.mpr h)
    rw [partsAt, if_neg (Ne.symm hne), ih hrest]

/-- The part before the first sign is the first part. -/
theorem partsAt_append_cons {sign : Char} {part : List Char} (h : sign ∉ part) (rest : List Char) :
    partsAt sign (part ++ sign :: rest) = part :: partsAt sign rest := by
  induction part with
  | nil => rw [List.nil_append, partsAt, if_pos rfl]
  | cons c part ih =>
    obtain ⟨hne, hrest⟩ := not_or.mp (mt List.mem_cons.mpr h)
    rw [List.cons_append, partsAt, if_neg (Ne.symm hne), ih hrest]

/-- Parts without the sign are found again in what they are joined to. -/
theorem partsAt_intercalate {sign : Char} {parts : List (List Char)} (hne : parts ≠ []) (h : ∀ part ∈ parts, sign ∉ part) :
    partsAt sign ([sign].intercalate parts) = parts := by
  induction parts with
  | nil => exact absurd rfl hne
  | cons part rest ih =>
    cases rest with
    | nil => rw [List.intercalate_singleton, partsAt_of_not_mem (h part List.mem_cons_self)]
    | cons next rest =>
      have hrest := ih nofun fun p hp => h p (List.mem_cons_of_mem part hp)
      rw [List.intercalate_cons_cons, List.append_assoc, List.singleton_append, partsAt_append_cons (h part List.mem_cons_self), hrest]

end Text

namespace Path

/-- A path has a part. -/
theorem parts_ne_nil (path : String) : parts path ≠ [] :=
  fun h => Text.partsAt_ne_nil '/' path.toList (List.map_eq_nil_iff.mp h)

/-- No part has a slash. -/
theorem not_mem_of_mem_parts {path part : String} (h : part ∈ parts path) : '/' ∉ part.toList := by
  obtain ⟨cs, hcs, rfl⟩ := List.mem_map.mp h
  rw [String.toList_ofList]
  exact Text.not_mem_of_mem_partsAt hcs

/-- Parts without a slash are found again in the path that they are joined to. -/
theorem parts_intercalate {names : List String} (hne : names ≠ []) (h : ∀ name ∈ names, '/' ∉ name.toList) :
    parts ("/".intercalate names) = names := by
  have hslash : ("/" : String).toList = ['/'] := rfl
  have hmap : ∀ part ∈ names.map String.toList, '/' ∉ part := by
    intro part hp
    obtain ⟨name, hn, rfl⟩ := List.mem_map.mp hp
    exact h name hn
  rw [parts, String.toList_intercalate, hslash, Text.partsAt_intercalate (List.map_eq_nil_iff.not.mpr hne) hmap, List.map_map]
  exact (List.map_congr_left fun name _ => String.ofList_toList).trans (List.map_id names)

/-- With another name in the place of its last parts, a path has that name as its last part. -/
theorem parts_beside {path : String} {before behind : List String} (hparts : parts path = before ++ behind) {name : String}
    (hname : '/' ∉ name.toList) : parts ("/".intercalate (before ++ [name])) = before ++ [name] := by
  refine parts_intercalate (by simp) fun part hp => ?_
  rcases List.mem_append.mp hp with hp | hp
  · exact not_mem_of_mem_parts (hparts ▸ List.mem_append_left _ hp : part ∈ parts path)
  · rwa [List.mem_singleton.mp hp]

/-- A path starts at the root if its first part is empty and not its only one. -/
theorem isAbsolute_iff (path : String) : isAbsolute path = true ↔ ∃ next rest, parts path = "" :: next :: rest := by
  rw [isAbsolute, parts]
  cases hcs : path.toList with
  | nil => simp [Text.partsAt]
  | cons c cs =>
    obtain ⟨first, rest, hparts⟩ := List.exists_cons_of_ne_nil (Text.partsAt_ne_nil '/' cs)
    rw [Text.partsAt, hparts]
    by_cases hc : c = '/'
    · simp [hc]
    · simp [hc]

/-- What is left of a list without the elements at its end that have a property, and the first one that has not. -/
theorem reverse_dropWhile_eq_cons {α : Type} {p : α → Bool} {l rest : List α} {a : α} (h : l.reverse.dropWhile p = a :: rest) :
    ∃ behind, l = rest.reverse ++ a :: behind ∧ (∀ b ∈ behind, p b = true) ∧ p a = false := by
  have hsplit := List.takeWhile_append_dropWhile (p := p) (l := l.reverse)
  rw [h] at hsplit
  refine ⟨(l.reverse.takeWhile p).reverse, ?_, ?_, ?_⟩
  · have hreverse := congrArg List.reverse hsplit
    rw [List.reverse_reverse] at hreverse
    exact hreverse.symm.trans (by simp)
  · exact fun b hb => List.mem_takeWhile_imp (List.mem_reverse.mp hb)
  · have hhead := List.head?_dropWhile_not p l.reverse
    rw [h] at hhead
    simpa using hhead

/-- A path with a last name: what is before it and the idle parts behind it. -/
theorem splitLast?_eq_some {path : String} {before : List String} {last : String} (h : splitLast? path = some (before, last)) :
    ∃ idle, parts path = before ++ last :: idle ∧ (∀ part ∈ idle, isIdle part = true) ∧ isIdle last = false := by
  rw [splitLast?] at h
  split at h
  · exact absurd h nofun
  · next hd =>
    obtain ⟨rfl, rfl⟩ := Prod.mk.inj (Option.some.inj h)
    exact reverse_dropWhile_eq_cons hd

/-- A path without a last name has idle parts only. -/
theorem splitLast?_eq_none {path : String} (h : splitLast? path = none) : ∀ part ∈ parts path, isIdle part = true := by
  rw [splitLast?] at h
  split at h
  · next hd =>
    intro part hp
    exact List.dropWhile_eq_nil_iff.mp hd part (List.mem_reverse.mpr hp)
  · exact absurd h nofun

/-- A name is its stem with nothing behind it, or with an ending behind it that has one point, at its start. -/
theorem toList_stem (name : String) :
    name.toList = (stem name).toList ∨ ∃ ending, name.toList = (stem name).toList ++ '.' :: ending ∧ '.' ∉ ending := by
  rw [stem]
  split
  · exact Or.inl rfl
  · exact Or.inl rfl
  · next c before _ hd =>
    obtain ⟨ending, hname, hending, hc⟩ := reverse_dropWhile_eq_cons hd
    obtain rfl : c = '.' := by simpa using hc
    refine Or.inr ⟨ending, by rw [String.toList_ofList, hname], fun hm => ?_⟩
    exact absurd (hending '.' hm) (by decide)

/-- A name with another ending that has a point in it is not the name. -/
theorem stem_append_ne {extension : String} (he : '.' ∈ extension.toList) (name : String) : stem name ++ "." ++ extension ≠ name := by
  intro h
  have hname : name.toList = (stem name).toList ++ '.' :: extension.toList := by
    rw [← congrArg String.toList h]
    simp
  rcases toList_stem name with hs | ⟨ending, hs, hending⟩
  · have hlength := congrArg List.length (hs.symm.trans hname)
    simp at hlength
  · have htail := List.append_cancel_left (hs.symm.trans hname)
    exact hending ((List.cons.inj htail).2 ▸ he)

/-- The characters of a stem are characters of the name. -/
theorem mem_of_mem_stem {name : String} {c : Char} (h : c ∈ (stem name).toList) : c ∈ name.toList := by
  rcases toList_stem name with hs | ⟨ending, hs, _⟩
  · rwa [hs]
  · rw [hs]
    exact List.mem_append_left _ h

end Path

end Herald
